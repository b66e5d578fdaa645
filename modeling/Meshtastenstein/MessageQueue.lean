import Meshtastenstein.Lib.Queues
import Meshtastenstein.RingCrashes
/-!
# The message ring as a queue

From a ring that starts empty on, adding, looking, taking and clearing do with the ring what
they do with a list of at most ten frames.
-/

namespace Meshtastenstein

open Lib Lib.NorFlash Lib.WorkingFlash Lib.BoundedFifo

inductive StorageError
  | full
  | empty
  | serializationError
  | storageError
deriving DecidableEq

namespace NvsStorage

section

variable {F : Type} [NorFlash F] {baseOffset : Nat} (s : NvsStorage F baseOffset)

omit [NorFlash F] in
def isEmpty : Bool := s.ring.count == 0

omit [NorFlash F] in
def isFull : Bool := decide (MAX_BUFFERED_MESSAGES ≤ s.ring.count)

omit [NorFlash F] in
def count : Nat := s.ring.count

def call : Call RadioFrame → NvsStorage F baseOffset
  | .add frame => s.step (.add frame)
  | .peek => s
  | .pop => s.step .pop
  | .clear => s.step .clear

def answer : Call RadioFrame → Except StorageError (Answer RadioFrame)
  | .add _ => .ok .done
  | .peek =>
      match s.peek with
      | some frame => .ok (.front frame)
      | none => .error .storageError
  | .pop => if s.ring.count = 0 then .error .empty else .ok .done
  | .clear => .ok .done

end

variable {medium : Medium} {F : Type} [WorkingFlash medium F] {partition : Partition F}
  {s : partition.Storage} {frames : List RadioFrame}

structure Queues (s : partition.Storage) (frames : List RadioFrame) : Prop where
  sound : s.Sound
  queue_eq : s.queue = frames.map some

theorem Queues.count_eq (h : s.Queues frames) : s.ring.count = frames.length := by
  rw [← length_queue, h.queue_eq, List.length_map]

/-- A call keeps the ring and the list of frames alike. -/
theorem Queues.call (h : s.Queues frames) (call : Call RadioFrame) :
    (s.call call).Queues (BoundedFifo.step MAX_BUFFERED_MESSAGES frames call) := by
  cases call with
  | peek => exact h
  | add frame =>
      refine ⟨sound_step h.sound (.add frame), ?_⟩
      change (s.add frame).queue = (BoundedFifo.add MAX_BUFFERED_MESSAGES frames frame).map some
      have hbound := s.ring.count_le
      have hcount := h.count_eq
      rw [queue_add h.sound.inOrder, h.queue_eq]
      by_cases hroom : s.ring.count < MAX_BUFFERED_MESSAGES
      · rw [if_pos hroom, add_of_lt (by omega), List.map_append]
        rfl
      · rw [if_neg hroom, add_of_full (by decide) (by omega), List.map_append, List.map_tail]
        rfl
  | pop =>
      refine ⟨sound_step h.sound .pop, ?_⟩
      change s.pop.queue = frames.tail.map some
      rw [queue_pop, h.queue_eq, List.map_tail]
  | clear => exact ⟨sound_step h.sound .clear, rfl⟩

theorem Queues.answer_eq (h : s.Queues frames) (call : Call RadioFrame) :
    s.answer call = BoundedFifo.answer .empty frames call := by
  have hcount := h.count_eq
  cases call with
  | add frame => rfl
  | peek =>
      have hpeek : s.peek = some frames.head? := by
        by_cases hzero : s.ring.count = 0
        · have hnil : frames = [] := List.length_eq_zero_iff.mp (hcount ▸ hzero)
          unfold NvsStorage.peek
          rw [if_pos hzero, hnil]
          rfl
        · rw [peek_of_count_pos (Nat.pos_of_ne_zero hzero), h.queue_eq]
          cases frames with
          | nil => exact absurd hcount hzero
          | cons frame rest => rfl
      unfold NvsStorage.answer
      dsimp only
      rw [hpeek]
      rfl
  | pop =>
      unfold NvsStorage.answer BoundedFifo.answer
      dsimp only
      rw [hcount]
      cases frames with
      | nil => rfl
      | cons frame rest => rfl
  | clear => rfl

theorem queues_opened {flash : F} (hfresh : (unopened partition flash).headerOnFlash = none) :
    (opened partition flash).Queues [] := by
  have hopened : opened partition flash = (unopened partition flash).initEmpty :=
    loadOrInit_of_no_header hfresh
  rw [hopened]
  exact ⟨⟨CircularQueue.inOrder_empty _ _, fun hnone => nomatch hnone⟩, rfl⟩

/-- On a flash without a ring, after any calls, the ring is the list of frames: it counts as
many, is empty and full when the list is, and answers every further call as the list does. -/
theorem answers_run (partition : Partition F) (flash : F)
    (hfresh : (unopened partition flash).headerOnFlash = none) (calls : List (Call RadioFrame)) :
    let s := Transition.run NvsStorage.call (opened partition flash) calls
    let frames := Transition.run (BoundedFifo.step MAX_BUFFERED_MESSAGES) [] calls
    s.queue = frames.map some ∧ s.count = frames.length ∧
      s.isEmpty = frames.isEmpty ∧
      s.isFull = decide (frames.length = MAX_BUFFERED_MESSAGES) ∧
      ∀ call, s.answer call = BoundedFifo.answer .empty frames call := by
  intro s frames
  have h : s.Queues frames :=
    @Transition.related_run partition.Storage (Call RadioFrame) NvsStorage.call
      (List RadioFrame) (BoundedFifo.step MAX_BUFFERED_MESSAGES) (fun s frames => s.Queues frames)
      (fun _ _ call h => Queues.call h call) _ _ (queues_opened hfresh) calls
  have hcount := h.count_eq
  refine ⟨h.queue_eq, hcount, ?_, ?_, h.answer_eq⟩
  · unfold isEmpty
    rw [hcount]
    cases frames <;> rfl
  · have hbound := s.ring.count_le
    unfold isFull
    rw [decide_eq_decide]
    omega

def numberedFrame (n : Nat) : RadioFrame :=
  ⟨[UInt8.ofNat n], (by decide : 1 ≤ MAX_LORA_PAYLOAD_LEN)⟩

def fillCalls : List (Call RadioFrame) :=
  .peek :: .pop :: (List.range 12).map fun n => .add (numberedFrame n)

/-- Twelve frames into a ring of ten: the first two are gone. -/
theorem filled_answers :
    let s := Transition.run call (opened wholeFlash blankImage) fillCalls
    s.isFull = true ∧ s.answer .peek = .ok (.front (some (numberedFrame 2))) := by
  obtain ⟨-, -, -, hfull, hanswer⟩ := answers_run wholeFlash blankImage (by decide) fillCalls
  refine ⟨?_, ?_⟩
  · rw [hfull]
    decide
  · rw [hanswer]
    rfl

end NvsStorage

end Meshtastenstein
