import Meshtastenstein.MessageRing
/-!
# Power cuts

An operation of the message ring writes a slot and then the header.  On a flash that takes
every write as a whole, a cut between the two leaves the new slot under the old header.
-/

namespace Meshtastenstein

open Lib Lib.Bytes Lib.NorFlash Lib.WorkingFlash

namespace NvsStorage

section

variable {F : Type} [NorFlash F] {baseOffset : Nat}

def interrupted (s : NvsStorage F baseOffset) (writes : Nat) :
    NvsStorage (Interrupted F) baseOffset where
  ring := s.ring
  flash := { flash := s.flash, left := writes }

/-- The storage that is built anew after power was lost so many writes into an operation. -/
def crash (s : NvsStorage F baseOffset) (op : RingOp) (writes : Nat) : NvsStorage F baseOffset :=
  new ((s.interrupted writes).step op).flash.flash baseOffset

end

variable {medium : Medium} {F : Type} [WorkingFlash medium F] {partition : Partition F}
  {s : partition.Storage}

/-! ## Sound rings -/

/-- The next frame goes behind the queued ones, which are all there. -/
structure Sound (s : partition.Storage) : Prop where
  inOrder : s.ring.InOrder
  readable : none ∉ s.queue

theorem queue_of_count_pos (h : 0 < s.ring.count) :
    s.queue = (s.ring.slots s.ring.tail).shown :: s.queue.tail := by
  unfold queue
  rw [CircularQueue.toList_of_count_pos h]
  rfl

theorem length_queue (s : partition.Storage) : s.queue.length = s.ring.count := by
  unfold queue
  rw [List.length_map, CircularQueue.length_toList]

theorem peek_of_count_pos (h : 0 < s.ring.count) : s.peek = s.queue.head?.join.map some := by
  rw [queue_of_count_pos h]
  unfold peek CachedSlot.shown
  rw [if_neg (Nat.ne_of_gt h), List.head?_cons]
  dsimp only
  split <;> rfl

theorem queue_add (h : s.ring.InOrder) (frame : RadioFrame) :
    (s.add frame).queue =
      (if s.ring.count < MAX_BUFFERED_MESSAGES then s.queue else s.queue.tail) ++ [some frame] := by
  change (s.ring.push { valid := true, frame := frame }).toList.map CachedSlot.shown = _
  unfold queue
  split
  · rename_i hroom
    rw [CircularQueue.toList_push_of_lt h hroom, List.map_append]
    rfl
  · rename_i hfull
    rw [CircularQueue.toList_push_of_full h hfull, List.map_append, List.map_tail]
    rfl

theorem queue_pop (s : partition.Storage) : s.pop.queue = s.queue.tail := by
  unfold pop
  split
  · rename_i hcount
    have hnil : s.queue = [] := by
      rw [← List.length_eq_zero_iff, length_queue]
      exact hcount
    rw [hnil]
    rfl
  · rename_i hcount
    have hpop := CircularQueue.toList_pop (Nat.pos_of_ne_zero hcount)
      (fun slot : CachedSlot => { slot with valid := false })
    change (s.ring.pop fun slot => { slot with valid := false }).toList.map _ = _
    unfold queue
    rw [hpop, List.map_tail]

theorem sound_step (h : s.Sound) (op : RingOp) : (s.step op).Sound := by
  have htail : none ∉ s.queue.tail := fun hnone => h.readable (List.mem_of_mem_tail hnone)
  cases op with
  | add frame =>
      refine ⟨h.inOrder.push _, ?_⟩
      change none ∉ (s.add frame).queue
      rw [queue_add h.inOrder, List.mem_append]
      rintro (hnone | hnone)
      · split at hnone
        · exact h.readable hnone
        · exact htail hnone
      · cases List.mem_singleton.mp hnone
  | pop =>
      refine ⟨?_, ?_⟩
      · unfold step pop
        dsimp only
        split
        · exact h.inOrder
        · rename_i hcount
          exact h.inOrder.pop (Nat.pos_of_ne_zero hcount) _
      · change none ∉ s.pop.queue
        rw [queue_pop]
        exact htail
  | clear => exact ⟨CircularQueue.inOrder_empty _ _, fun hnone => nomatch hnone⟩

/-- No operations bring the ring where its oldest frame cannot be read. -/
def Readable (s : partition.Storage) : Prop :=
  ∀ ops : List RingOp, (Transition.run step s ops).ring.count ≠ 0 →
    (Transition.run step s ops).peek ≠ none

theorem readable_of_sound (h : s.Sound) : s.Readable := by
  intro ops hcount
  have hops : ∀ (s : partition.Storage) (op : RingOp), s.Sound → True → (s.step op).Sound :=
    fun s op hs _ => sound_step hs op
  have hsound : (Transition.run step s ops).Sound :=
    Transition.invariant_run hops h fun _ _ => trivial
  have hpos := Nat.pos_of_ne_zero hcount
  rw [peek_of_count_pos hpos]
  have hreadable := hsound.readable
  rw [queue_of_count_pos hpos] at hreadable ⊢
  rw [List.head?_cons]
  cases hshown : ((Transition.run step s ops).ring.slots _).shown with
  | none =>
      rw [hshown] at hreadable
      exact absurd List.mem_cons_self hreadable
  | some frame => simp

theorem sound_reopen (hsynced : s.Synced) (h : s.Sound) :
    s.reopen.Sound := by
  obtain ⟨-, hheader, -⟩ := reopen_of_header hsynced.header
  refine ⟨?_, ?_⟩
  · have horder := h.inOrder
    unfold CircularQueue.InOrder CircularQueue.slotAt at horder ⊢
    have hhead : s.reopen.ring.head = s.ring.head := congrArg RingHeader.head hheader
    have htail : s.reopen.ring.tail = s.ring.tail := congrArg RingHeader.tail hheader
    have hcount : s.reopen.ring.count = s.ring.count := congrArg RingHeader.count hheader
    simp only [hhead, htail, hcount]
    exact horder
  · rw [queue_reopen hsynced]
    exact h.readable

/-! ## Cuts -/

section

variable {F : Type} [NorFlash F] {baseOffset : Nat} (s : NvsStorage F baseOffset)

def halfDone (index : Fin MAX_BUFFERED_MESSAGES) (slot : CachedSlot) :
    NvsStorage F baseOffset :=
  persistSlot { s with ring := s.ring.set index slot } index

theorem crash_zero (op : RingOp) : s.crash op 0 = s.reopen := by
  cases op with
  | add frame => rfl
  | pop =>
      unfold crash step pop
      dsimp only
      split <;> rfl
  | clear => rfl

theorem crash_add_one (frame : RadioFrame) :
    s.crash (.add frame) 1 =
      (s.halfDone s.ring.head { valid := true, frame := frame }).reopen := rfl

theorem crash_pop_one (h : s.ring.count ≠ 0) :
    s.crash .pop 1 =
      (s.halfDone s.ring.tail { s.ring.slots s.ring.tail with valid := false }).reopen := by
  unfold crash step pop
  dsimp only
  rw [if_neg (show (s.interrupted 1).ring.count ≠ 0 from h)]
  rfl

theorem crash_clear_one : s.crash .clear 1 = s.clear.reopen := rfl

theorem crash_of_two_le (op : RingOp) (writes : Nat) :
    s.crash op (writes + 2) = (s.step op).reopen := by
  cases op with
  | add frame => rfl
  | pop =>
      unfold crash step pop
      dsimp only
      by_cases hcount : s.ring.count = 0
      · rw [if_pos hcount, if_pos (show (s.interrupted _).ring.count = 0 from hcount)]
        rfl
      · rw [if_neg hcount, if_neg (show (s.interrupted _).ring.count ≠ 0 from hcount)]
        rfl
  | clear => rfl

theorem crash_pop_of_empty (h : s.ring.count = 0) (writes : Nat) :
    s.crash .pop writes = s.reopen := by
  unfold crash step pop
  dsimp only
  rw [if_pos (show (s.interrupted writes).ring.count = 0 from h)]
  rfl

end

/-- A slot that takes leaves the rings alike, under the old positions. -/
theorem synced_halfDone (hsynced : s.Synced) {index : Fin MAX_BUFFERED_MESSAGES}
    {slot : CachedSlot} (htakes : Takes s.flash (s.slotFlashOffset index) (slotBytes slot)) :
    (s.halfDone index slot).Synced := by
  have hself : Function.update s.ring.slots index slot index = slot :=
    Function.update_self index slot s.ring.slots
  have hshown : ∀ other, (s.halfDone index slot).shownOnFlash other =
      if other = index then slot.shown else s.shownOnFlash other := by
    intro other
    by_cases heq : other = index
    · rw [if_pos heq, heq]
      let overwritten : partition.Storage := { s with ring := s.ring.set index slot }
      have hslot :
          Takes s.flash (overwritten.slotWrite index).1 (overwritten.slotWrite index).2 := by
        change Takes s.flash (s.slotFlashOffset index)
          (slotBytes (Function.update s.ring.slots index slot index))
        rw [hself]
        exact htakes
      exact (shownOnFlash_persistSlot hslot).trans (congrArg CachedSlot.shown hself)
    · rw [if_neg heq]
      exact shownOnFlash_persistSlot_of_ne heq
  have hring : ∀ other, ((s.halfDone index slot).ring.slots other).shown =
      if other = index then slot.shown else (s.ring.slots other).shown := by
    intro other
    change (Function.update s.ring.slots index slot other).shown = _
    by_cases heq : other = index
    · rw [if_pos heq, heq, hself]
    · rw [if_neg heq, Function.update_of_ne heq]
  refine ⟨?_, fun n hn => ?_, hsynced.rest.imp id fun hall other => ?_⟩
  · exact (headerOnFlash_persistSlot index).trans hsynced.header
  · rw [hshown, hring]
    split
    · rfl
    · exact hsynced.queued n hn
  · rw [hshown, hring]
    split
    · rfl
    · exact hall other

/-! ## Consistency -/

section

variable {F : Type} [WorkingFlash Medium.overwriting F] {partition : Partition F}
  {s : partition.Storage}

/-- The storage after a cut has the frames from before or after the operation, and they can
be read. -/
structure CrashConsistent (s : partition.Storage) (op : RingOp) (writes : Nat) : Prop where
  queue : (s.crash op writes).queue = s.queue ∨ (s.crash op writes).queue = (s.step op).queue
  readable : (s.crash op writes).Readable

/-- The cut is not between the two writes, or the half that is done does not show. -/
def Survives (s : partition.Storage) (op : RingOp) (writes : Nat) : Prop :=
  writes = 1 →
    match op with
    | .add frame =>
        s.ring.count < MAX_BUFFERED_MESSAGES ∨ s.queue.head? = some (some frame) ∨
          ∀ other ∈ s.queue.tail, other = some frame
    | .pop => s.ring.count = 0
    | .clear => True

theorem fits_overwriting (op : RingOp) : s.Fits op := fun _ _ _ _ => rfl

/-- The rings on flash and in memory are alike, and what they hold is sound. -/
structure Kept (s : partition.Storage) : Prop where
  synced : s.Synced
  sound : s.Sound

theorem kept_step (h : s.Kept) (op : RingOp) : (s.step op).Kept where
  synced := synced_step h.synced (fits_overwriting op)
  sound := sound_step h.sound op

theorem kept_reopen (h : s.Kept) : s.reopen.Kept where
  synced := synced_reopen fun _ => fits_overwriting _
  sound := sound_reopen h.synced h.sound

/-- What a cut leaves is what a restart makes of a kept storage, with the frames from before
or after the operation. -/
def Recovers (s : partition.Storage) (op : RingOp) (writes : Nat) : Prop :=
  ∃ kept : partition.Storage, s.crash op writes = kept.reopen ∧ kept.Kept ∧
    (kept.queue = s.queue ∨ kept.queue = (s.step op).queue)

theorem Recovers.consistent {op : RingOp} {writes : Nat} (h : s.Recovers op writes) :
    s.CrashConsistent op writes := by
  obtain ⟨kept, hcrash, hkept, hqueue⟩ := h
  refine ⟨?_, ?_⟩
  · rw [hcrash, queue_reopen hkept.synced]
    exact hqueue
  · rw [hcrash]
    exact readable_of_sound (kept_reopen hkept).sound

theorem Recovers.kept {op : RingOp} {writes : Nat} (h : s.Recovers op writes) :
    (s.crash op writes).Kept := by
  obtain ⟨kept, hcrash, hkept, -⟩ := h
  rw [hcrash]
  exact kept_reopen hkept

theorem cons_eq_concat_iff {α : Type} {a : α} {items : List α} :
    a :: items = items ++ [a] ↔ ∀ item ∈ items, item = a := by
  induction items with
  | nil => simp
  | cons item items ih =>
      rw [List.cons_append, List.cons.injEq, List.forall_mem_cons]
      constructor
      · rintro ⟨rfl, hrest⟩
        exact ⟨rfl, ih.mp hrest⟩
      · rintro ⟨rfl, hrest⟩
        exact ⟨rfl, ih.mpr hrest⟩

theorem kept_halfDone (h : s.Kept) {index : Fin MAX_BUFFERED_MESSAGES} {slot : CachedSlot}
    (hreadable : none ∉ (s.halfDone index slot).queue) : (s.halfDone index slot).Kept where
  synced := synced_halfDone h.synced fun _ _ => rfl
  sound := ⟨h.sound.inOrder, hreadable⟩

theorem recovers_add_of_room (h : s.Kept) (hroom : s.ring.count < MAX_BUFFERED_MESSAGES)
    (frame : RadioFrame) : s.Recovers (.add frame) 1 := by
  have hsame : (s.halfDone s.ring.head { valid := true, frame := frame }).queue = s.queue :=
    congrArg (List.map CachedSlot.shown)
      (CircularQueue.toList_set_head h.sound.inOrder hroom { valid := true, frame := frame })
  refine ⟨_, s.crash_add_one frame, kept_halfDone h ?_, Or.inl hsame⟩
  rw [hsame]
  exact h.sound.readable

theorem halfDone_add_of_full (h : s.Kept) (hfull : ¬ s.ring.count < MAX_BUFFERED_MESSAGES)
    (frame : RadioFrame) :
    (s.halfDone s.ring.head { valid := true, frame := frame }).Kept ∧
      (s.halfDone s.ring.head { valid := true, frame := frame }).queue =
        some frame :: s.queue.tail := by
  have hpos : 0 < s.ring.count := by
    have hcap : MAX_BUFFERED_MESSAGES = 10 := rfl
    omega
  have hqueue : (s.halfDone s.ring.head { valid := true, frame := frame }).queue =
      some frame :: s.queue.tail := by
    change (s.ring.set s.ring.head _).toList.map CachedSlot.shown = _
    rw [h.sound.inOrder.head_of_full hfull, CircularQueue.toList_set_tail hpos, List.map_cons,
      List.map_tail]
    rfl
  refine ⟨kept_halfDone h ?_, hqueue⟩
  rw [hqueue]
  rintro (_ | ⟨_, hnone⟩)
  exact h.sound.readable (List.mem_of_mem_tail hnone)

/-- The new frame in place of the oldest is what was there before, or what is there after,
only when frames are alike. -/
theorem half_add_iff (h : s.Kept) (hfull : ¬ s.ring.count < MAX_BUFFERED_MESSAGES)
    (frame : RadioFrame) :
    (some frame :: s.queue.tail = s.queue ∨ some frame :: s.queue.tail = (s.add frame).queue) ↔
      s.Survives (.add frame) 1 := by
  have hpos : 0 < s.ring.count := by
    have hcap : MAX_BUFFERED_MESSAGES = 10 := rfl
    omega
  have hqueue := queue_of_count_pos hpos
  have hbefore : some frame :: s.queue.tail = s.queue ↔ s.queue.head? = some (some frame) := by
    constructor
    · intro heq
      rw [← heq]
      rfl
    · intro hhead
      rw [hqueue, List.head?_cons, Option.some.injEq] at hhead
      conv_rhs => rw [hqueue, hhead]
  have hafter : some frame :: s.queue.tail = (s.add frame).queue ↔
      ∀ other ∈ s.queue.tail, other = some frame := by
    rw [queue_add h.sound.inOrder, if_neg hfull]
    exact cons_eq_concat_iff
  rw [hbefore, hafter]
  constructor
  · exact fun hsame _ => Or.inr hsame
  · intro hsurvives
    exact (hsurvives rfl).resolve_left hfull

theorem not_readable_of_half_pop (h : s.Kept) (hcount : s.ring.count ≠ 0) :
    ¬ (s.crash .pop 1).Readable := by
  intro hreadable
  have hpos := Nat.pos_of_ne_zero hcount
  have hsynced : (s.halfDone s.ring.tail
      { s.ring.slots s.ring.tail with valid := false }).Synced :=
    synced_halfDone h.synced fun _ _ => rfl
  have hqueue := queue_reopen hsynced
  rw [← s.crash_pop_one hcount] at hqueue
  have hpos' : 0 < (s.crash .pop 1).ring.count := by
    rw [← length_queue, hqueue, length_queue]
    exact hpos
  refine hreadable [] (Nat.ne_of_gt hpos') ?_
  change (s.crash .pop 1).peek = none
  rw [peek_of_count_pos hpos', hqueue]
  change (((s.ring.set s.ring.tail _).toList.map CachedSlot.shown).head?.join.map some) = none
  rw [CircularQueue.toList_set_tail hpos]
  rfl

theorem recovers_of_survives (h : s.Kept) {op : RingOp} {writes : Nat}
    (hsurvives : s.Survives op writes) : s.Recovers op writes := by
  match writes with
  | 0 => exact ⟨s, s.crash_zero op, h, Or.inl rfl⟩
  | 1 =>
      cases op with
      | add frame =>
          by_cases hroom : s.ring.count < MAX_BUFFERED_MESSAGES
          · exact recovers_add_of_room h hroom frame
          · obtain ⟨hkept, hqueue⟩ := halfDone_add_of_full h hroom frame
            refine ⟨_, s.crash_add_one frame, hkept, ?_⟩
            rw [hqueue]
            exact (half_add_iff h hroom frame).mpr hsurvives
      | pop => exact ⟨s, s.crash_pop_of_empty (hsurvives rfl) 1, h, Or.inl rfl⟩
      | clear => exact ⟨s.clear, s.crash_clear_one, kept_step h .clear, Or.inr rfl⟩
  | writes + 2 => exact ⟨s.step op, s.crash_of_two_le op writes, kept_step h op, Or.inr rfl⟩

/-- A cut is survived exactly when it does not leave half an operation that shows. -/
theorem crashConsistent_iff (h : s.Kept) (op : RingOp) (writes : Nat) :
    s.CrashConsistent op writes ↔ s.Survives op writes := by
  constructor
  · rintro ⟨hqueue, hreadable⟩ rfl
    cases op with
    | add frame =>
        by_cases hroom : s.ring.count < MAX_BUFFERED_MESSAGES
        · exact Or.inl hroom
        · obtain ⟨hkept, hhalf⟩ := halfDone_add_of_full h hroom frame
          rw [s.crash_add_one frame, queue_reopen hkept.synced, hhalf] at hqueue
          exact (half_add_iff h hroom frame).mp hqueue rfl
    | pop => exact not_not.mp fun hcount => not_readable_of_half_pop h hcount hreadable
    | clear => trivial
  · exact fun hsurvives => (recovers_of_survives h hsurvives).consistent

/-! ## Whole runs -/

/-- An operation, and after how many writes the power fails, if it does. -/
structure PoweredOp where
  op : RingOp
  cut : Option Nat

/-- The storage after the operation, or after the restart that ends it. -/
def powered (s : partition.Storage) (event : PoweredOp) : partition.Storage :=
  match event.cut with
  | none => s.step event.op
  | some writes => s.crash event.op writes

/-- Every cut of a run is survived exactly as long as none leaves half an operation. -/
theorem crashConsistent_run_iff (partition : Partition F) (flash : F)
    (events : List PoweredOp) (hsound : (opened partition flash).Sound) :
    Transition.Always powered
        (fun s event => ∀ writes, event.cut = some writes → s.CrashConsistent event.op writes)
        (opened partition flash) events ↔
      Transition.Always powered
        (fun s event => ∀ writes, event.cut = some writes → s.Survives event.op writes)
        (opened partition flash) events := by
  have hopened : (opened partition flash).Kept :=
    { synced := @synced_reopen _ _ _ _ (unopened partition flash) fun _ => fits_overwriting _
      sound := hsound }
  refine Transition.always_congr (fun s event hs => ?_) (fun s event hs hsurvives => ?_) hopened
  · exact forall₂_congr fun writes _ => crashConsistent_iff hs event.op writes
  · unfold powered
    cases hcut : event.cut with
    | none => exact kept_step hs event.op
    | some writes => exact (recovers_of_survives hs (hsurvives writes hcut)).kept

end

def blankOverwritten : Image Medium.overwriting 0x5000 := Image.erased

set_option maxRecDepth 4000 in
theorem crashConsistent_first_add :
    let events : List PoweredOp := [⟨.add helloFrame, some 1⟩, ⟨.add helloFrame, none⟩]
    Transition.Always powered
        (fun s event => ∀ writes, event.cut = some writes → s.CrashConsistent event.op writes)
        (opened wholeFlash blankOverwritten) events ↔
      Transition.Always powered
        (fun s event => ∀ writes, event.cut = some writes → s.Survives event.op writes)
        (opened wholeFlash blankOverwritten) events :=
  crashConsistent_run_iff wholeFlash blankOverwritten _ ⟨by decide, by decide⟩

set_option maxRecDepth 4000 in
/-- A cut between the writes of a pop leaves one frame that is counted and cannot be read. -/
theorem half_pop_blocks :
    let s := (opened wholeFlash blankOverwritten).step (.add helloFrame)
    s.queue = [some helloFrame] ∧ (s.step .pop).queue = [] ∧
      (s.crash .pop 1).queue = [none] ∧ (s.crash .pop 1).ring.count = 1 ∧
      (s.crash .pop 1).peek = none := by decide

end NvsStorage

end Meshtastenstein
