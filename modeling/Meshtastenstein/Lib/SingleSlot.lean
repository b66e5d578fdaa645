import Mathlib.Data.List.Basic
import Meshtastenstein.Lib.Transition
/-!
# Slots of one item

A consumer takes the items of a queue one at a time from a slot.  The slot is filled from the
queue ahead of a request, or by the request itself when it finds the slot empty.  Either way
nothing is lost, given out twice or out of order.  In a signal, a slot without a queue, the value
put last takes the place of the one that waits.
-/

namespace Meshtastenstein.Lib

/-- A queue, and the item taken from it ahead of the next request. -/
structure SingleSlot (α : Type) where
  slot : Option α
  queue : List α

namespace SingleSlot

variable {α : Type}

def waiting (s : SingleSlot α) : List α := s.slot.toList ++ s.queue

inductive Op (α : Type)
  | put (items : List α)
  /-- Fill the slot ahead of a request. -/
  | fetch
  | take

def step (s : SingleSlot α) : Op α → SingleSlot α
  | .put items => { s with queue := s.queue ++ items }
  | .fetch =>
      match s.slot with
      | some _ => s
      | none => { slot := s.queue.head?, queue := s.queue.tail }
  | .take =>
      match s.slot with
      | some _ => { s with slot := none }
      | none => { s with queue := s.queue.tail }

def Op.added : Op α → List α
  | .put items => items
  | _ => []

def taken (s : SingleSlot α) : Op α → List α
  | .take => s.waiting.head?.toList
  | _ => []

@[simp] theorem step_put_nil (s : SingleSlot α) : s.step (.put []) = s := by
  simp [step]

theorem taken_append_waiting (s : SingleSlot α) (op : Op α) :
    s.taken op ++ (s.step op).waiting = s.waiting ++ op.added := by
  obtain ⟨slot, queue⟩ := s
  cases op with
  | put items => simp [taken, step, waiting, Op.added]
  | fetch =>
      cases slot with
      | some item => simp [taken, step, waiting, Op.added]
      | none => cases queue <;> simp [taken, step, waiting, Op.added]
  | take =>
      cases slot with
      | some item => simp [taken, step, waiting, Op.added]
      | none => cases queue <;> simp [taken, step, waiting, Op.added]

/-- Over a run, what is given out and what is still waiting is what was there and what was
added, in order. -/
theorem taken_append_waiting_run (s : SingleSlot α) (ops : List (Op α)) :
    Transition.observed step taken s ops ++ (Transition.run step s ops).waiting =
      s.waiting ++ ops.flatMap Op.added := by
  induction ops generalizing s with
  | nil => simp [Transition.observed, Transition.trace, Transition.run]
  | cons op ops ih =>
      calc
        Transition.observed step taken s (op :: ops) ++
              (Transition.run step s (op :: ops)).waiting =
            s.taken op ++ (Transition.observed step taken (s.step op) ops ++
              (Transition.run step (s.step op) ops).waiting) := by
          rw [Transition.observed_cons, List.append_assoc]
          rfl
        _ = (s.waiting ++ op.added) ++ ops.flatMap Op.added := by
          rw [ih, ← List.append_assoc, taken_append_waiting]
        _ = s.waiting ++ (op :: ops).flatMap Op.added := by
          rw [List.flatMap_cons, List.append_assoc]

end SingleSlot

end Meshtastenstein.Lib

/-! ## Signals -/

namespace Meshtastenstein.Lib.Signal

variable {α : Type}

inductive Op (α : Type)
  | put (value : α)
  | take

def apply (_ : Option α) : Op α → Option α
  | .put value => some value
  | .take => none

/-- What is in the cell after a series of operations on an empty one. -/
def after (ops : List (Op α)) : Option α := ops.foldl apply none

theorem after_concat (ops : List (Op α)) (op : Op α) :
    after (ops ++ [op]) = apply (after ops) op :=
  List.foldl_concat apply none op ops

theorem after_eq_some_iff (ops : List (Op α)) (value : α) :
    after ops = some value ↔ ops.getLast? = some (.put value) := by
  rcases List.eq_nil_or_concat ops with rfl | ⟨ops, op, rfl⟩
  · exact iff_of_false (fun h => nomatch h) (fun h => nomatch h)
  · rw [List.concat_eq_append, after_concat, List.getLast?_concat]
    cases op with
    | put other =>
        constructor
        · intro h
          cases h
          rfl
        · intro h
          cases h
          rfl
    | take => exact iff_of_false (fun h => nomatch h) (fun h => nomatch h)

theorem getLast?_append_cons (before : List (Op α)) (op : Op α) (later : List (Op α)) {last : Op α}
    (h : (before ++ op :: later).getLast? = some last) : last = op ∨ last ∈ later := by
  rw [List.getLast?_append_of_ne_nil _ (List.cons_ne_nil op later)] at h
  exact List.mem_cons.mp (List.mem_of_getLast? h)

end Meshtastenstein.Lib.Signal
