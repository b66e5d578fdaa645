import Mathlib.Data.List.Basic
import Mathlib.Data.Nat.ModEq
import Mathlib.Logic.Function.Basic
/-!
# Circular queues

A fixed number of slots in a circle, of which a run from the tail on is queued.  A new
element goes to the slot at the head.  Nothing forces the head to be the slot behind the
run, as when the four numbers are read from somewhere; a queue in which it is is in order.
-/

namespace Meshtastenstein.Lib

structure CircularQueue (α : Type) (size : Nat) where
  slots : Fin size → α
  head : Fin size
  tail : Fin size
  count : Nat
  count_le : count ≤ size

namespace CircularQueue

variable {α β : Type} {size : Nat}

def empty (hsize : 0 < size) (unused : α) : CircularQueue α size where
  slots := fun _ => unused
  head := ⟨0, hsize⟩
  tail := ⟨0, hsize⟩
  count := 0
  count_le := Nat.zero_le size

def next (i : Fin size) : Fin size := ⟨(i + 1) % size, Nat.mod_lt _ i.pos⟩

def slotAt (q : CircularQueue α size) (n : Nat) : Fin size :=
  ⟨(q.tail + n) % size, Nat.mod_lt _ q.tail.pos⟩

/-- The queued elements, oldest first. -/
def toList (q : CircularQueue α size) : List α :=
  (List.range q.count).map fun n => q.slots (q.slotAt n)

/-- The next element goes behind the queued ones. -/
def InOrder (q : CircularQueue α size) : Prop := q.head = q.slotAt q.count

instance (q : CircularQueue α size) : Decidable q.InOrder :=
  inferInstanceAs (Decidable (q.head = q.slotAt q.count))

def set (q : CircularQueue α size) (i : Fin size) (a : α) : CircularQueue α size :=
  { q with slots := Function.update q.slots i a }

def push (q : CircularQueue α size) (a : α) : CircularQueue α size where
  slots := Function.update q.slots q.head a
  head := next q.head
  tail := if q.count < size then q.tail else next q.tail
  count := if q.count < size then q.count + 1 else q.count
  count_le := by
    have hcount := q.count_le
    split <;> omega

/-- Give up the oldest element, whose slot is rewritten. -/
def pop (q : CircularQueue α size) (f : α → α) : CircularQueue α size where
  slots := Function.update q.slots q.tail (f (q.slots q.tail))
  head := q.head
  tail := next q.tail
  count := q.count - 1
  count_le := Nat.le_trans (Nat.sub_le _ _) q.count_le

/-! ## Slots -/

@[simp] theorem slotAt_zero (q : CircularQueue α size) : q.slotAt 0 = q.tail :=
  Fin.ext (Nat.mod_eq_of_lt q.tail.isLt)

theorem next_slotAt (q : CircularQueue α size) (n : Nat) :
    next (q.slotAt n) = q.slotAt (n + 1) := by
  apply Fin.ext
  change ((q.tail + n) % size + 1) % size = (q.tail + (n + 1)) % size
  rw [Nat.mod_add_mod, Nat.add_assoc]

theorem slotAt_size (q : CircularQueue α size) : q.slotAt size = q.tail := by
  apply Fin.ext
  change (q.tail + size) % size = q.tail
  rw [Nat.add_mod_right, Nat.mod_eq_of_lt q.tail.isLt]

theorem slotAt_inj {q : CircularQueue α size} {n m : Nat} (hn : n < size) (hm : m < size)
    (h : q.slotAt n = q.slotAt m) : n = m := by
  have hmod : (q.tail + n) % size = (q.tail + m) % size := congrArg Fin.val h
  have hcancel : n % size = m % size :=
    Nat.ModEq.add_left_cancel' q.tail.val hmod
  rwa [Nat.mod_eq_of_lt hn, Nat.mod_eq_of_lt hm] at hcancel

theorem map_toList_congr {f : α → β} {q q' : CircularQueue α size} (htail : q'.tail = q.tail)
    (hcount : q'.count = q.count)
    (hslots : ∀ n < q.count, f (q'.slots (q.slotAt n)) = f (q.slots (q.slotAt n))) :
    q'.toList.map f = q.toList.map f := by
  unfold toList
  rw [List.map_map, List.map_map, hcount]
  refine List.map_congr_left fun n hn => ?_
  have hslot : q'.slotAt n = q.slotAt n := by
    unfold slotAt
    simp only [htail]
  rw [Function.comp_apply, Function.comp_apply, hslot]
  exact hslots n (List.mem_range.mp hn)

theorem length_toList (q : CircularQueue α size) : q.toList.length = q.count := by
  unfold toList
  rw [List.length_map, List.length_range]

theorem toList_of_count_pos {q : CircularQueue α size} (h : 0 < q.count) :
    q.toList = q.slots q.tail :: (List.range (q.count - 1)).map fun n =>
      q.slots (q.slotAt (n + 1)) := by
  obtain ⟨count, hcount⟩ := Nat.exists_eq_succ_of_ne_zero (Nat.ne_of_gt h)
  unfold toList
  rw [hcount, Nat.succ_eq_add_one, List.range_succ_eq_map, List.map_cons, slotAt_zero,
    List.map_map, Nat.add_sub_cancel]
  rfl

/-! ## Pushes and pops -/

variable {q : CircularQueue α size}

theorem slotAt_push_of_lt (h : q.count < size) (a : α) (n : Nat) :
    (q.push a).slotAt n = q.slotAt n := by
  unfold slotAt push
  dsimp only
  simp only [if_pos h]

theorem slotAt_push_of_full (h : ¬ q.count < size) (a : α) (n : Nat) :
    (q.push a).slotAt n = q.slotAt (n + 1) := by
  have htail : (q.push a).tail = next q.tail := if_neg h
  apply Fin.ext
  change ((q.push a).tail.val + n) % size = (q.tail + (n + 1)) % size
  rw [htail]
  change ((q.tail + 1) % size + n) % size = (q.tail + (n + 1)) % size
  rw [Nat.mod_add_mod, Nat.add_assoc, Nat.add_comm 1 n]

theorem slotAt_pop (f : α → α) (n : Nat) : (q.pop f).slotAt n = q.slotAt (n + 1) := by
  apply Fin.ext
  change ((q.tail + 1) % size + n) % size = (q.tail + (n + 1)) % size
  rw [Nat.mod_add_mod, Nat.add_assoc, Nat.add_comm 1 n]

theorem slots_push_of_ne {i : Fin size} (h : i ≠ q.head) (a : α) :
    (q.push a).slots i = q.slots i := by
  change Function.update q.slots q.head a i = q.slots i
  rw [Function.update_of_ne h]

theorem slots_pop_of_ne {i : Fin size} (h : i ≠ q.tail) (f : α → α) :
    (q.pop f).slots i = q.slots i := by
  change Function.update q.slots q.tail (f (q.slots q.tail)) i = q.slots i
  rw [Function.update_of_ne h]

theorem InOrder.push (h : q.InOrder) (a : α) : (q.push a).InOrder := by
  unfold InOrder at h ⊢
  change next q.head = (q.push a).slotAt (q.push a).count
  rw [h, next_slotAt]
  by_cases hroom : q.count < size
  · rw [slotAt_push_of_lt hroom, show (q.push a).count = q.count + 1 from if_pos hroom]
  · rw [slotAt_push_of_full hroom, show (q.push a).count = q.count from if_neg hroom]

theorem InOrder.pop (h : q.InOrder) (hcount : 0 < q.count) (f : α → α) :
    (q.pop f).InOrder := by
  unfold InOrder at h ⊢
  change q.head = (q.pop f).slotAt (q.count - 1)
  rw [h, slotAt_pop, Nat.sub_add_cancel hcount]

theorem inOrder_empty (hsize : 0 < size) (unused : α) : (empty hsize unused).InOrder := rfl

theorem InOrder.slotAt_ne_head (h : q.InOrder) (hroom : q.count < size) {n : Nat}
    (hn : n < q.count) : q.slotAt n ≠ q.head := by
  intro hslot
  rw [h] at hslot
  exact Nat.ne_of_lt hn (slotAt_inj (Nat.lt_trans hn hroom) hroom hslot)

theorem slotAt_succ_ne_tail {n : Nat} (h : n < q.count - 1) : q.slotAt (n + 1) ≠ q.tail := by
  rw [← slotAt_zero q]
  intro hslot
  have hle := q.count_le
  have hzero := slotAt_inj (by omega) (by omega) hslot
  cases hzero

theorem InOrder.head_of_full (h : q.InOrder) (hfull : ¬ q.count < size) : q.head = q.tail := by
  have hcount : q.count = size := Nat.le_antisymm q.count_le (Nat.not_lt.mp hfull)
  rw [h, hcount, slotAt_size]

theorem toList_push_of_lt (h : q.InOrder) (hroom : q.count < size) (a : α) :
    (q.push a).toList = q.toList ++ [a] := by
  unfold toList
  rw [show (q.push a).count = q.count + 1 from if_pos hroom, List.range_succ, List.map_append,
    List.map_singleton]
  congr 1
  · refine List.map_congr_left fun n hn => ?_
    rw [slotAt_push_of_lt hroom]
    exact Function.update_of_ne (h.slotAt_ne_head hroom (List.mem_range.mp hn)) a q.slots
  · rw [slotAt_push_of_lt hroom, ← h]
    change [Function.update q.slots q.head a q.head] = [a]
    rw [Function.update_self]

theorem toList_set_head (h : q.InOrder) (hroom : q.count < size) (a : α) :
    (q.set q.head a).toList = q.toList := by
  refine List.map_congr_left fun n hn => ?_
  exact Function.update_of_ne (h.slotAt_ne_head hroom (List.mem_range.mp hn)) a q.slots

theorem toList_set_tail (h : 0 < q.count) (a : α) :
    (q.set q.tail a).toList = a :: q.toList.tail := by
  have hpos : 0 < (q.set q.tail a).count := h
  rw [toList_of_count_pos h, toList_of_count_pos hpos, List.tail_cons]
  congr 1
  · change Function.update q.slots q.tail a q.tail = a
    rw [Function.update_self]
  · refine List.map_congr_left fun n hn => ?_
    exact Function.update_of_ne (slotAt_succ_ne_tail (List.mem_range.mp hn)) a q.slots

theorem toList_push_of_full (h : q.InOrder) (hfull : ¬ q.count < size) (a : α) :
    (q.push a).toList = q.toList.tail ++ [a] := by
  have hcount : q.count = size := Nat.le_antisymm q.count_le (Nat.not_lt.mp hfull)
  have hpos : 0 < q.count := by
    rw [hcount]
    exact q.tail.pos
  obtain ⟨count, hsucc⟩ := Nat.exists_eq_succ_of_ne_zero (Nat.ne_of_gt hpos)
  rw [toList_of_count_pos hpos, List.tail_cons]
  unfold toList
  rw [show (q.push a).count = q.count from if_neg hfull, hsucc, Nat.succ_eq_add_one,
    Nat.add_sub_cancel, List.range_succ, List.map_append, List.map_singleton]
  congr 1
  · refine List.map_congr_left fun n hn => ?_
    rw [slotAt_push_of_full hfull]
    refine slots_push_of_ne ?_ a
    rw [h.head_of_full hfull]
    refine slotAt_succ_ne_tail ?_
    rw [hsucc]
    exact List.mem_range.mp hn
  · rw [slotAt_push_of_full hfull, show count + 1 = q.count from hsucc.symm, ← h]
    change [Function.update q.slots q.head a q.head] = [a]
    rw [Function.update_self]

theorem toList_pop (h : 0 < q.count) (f : α → α) : (q.pop f).toList = q.toList.tail := by
  rw [toList_of_count_pos h, List.tail_cons]
  refine List.map_congr_left fun n hn => ?_
  rw [slotAt_pop]
  exact slots_pop_of_ne (slotAt_succ_ne_tail (List.mem_range.mp hn)) f

end CircularQueue

end Meshtastenstein.Lib
