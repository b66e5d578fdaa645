import Mathlib.Data.List.Basic
/-!
# Overwriting rings

A fixed number of slots written in a circle: a push lands on the slot after the
last one and evicts what was there.  The slots below `count` are the live ones;
until the first wrap they are exactly the pushed elements in order.
-/

namespace Meshtastenstein.Lib

structure RingBuffer (α : Type) (size : Nat) where
  slots : List α
  head : Nat
  count : Nat
  slots_length : slots.length = size
  head_lt : head < size
  count_le : count ≤ size
  /-- Before the ring has wrapped, the next slot is the first unused one. -/
  head_of_not_full : count < size → head = count
deriving DecidableEq

namespace RingBuffer

variable {α : Type} {size : Nat}

@[ext] theorem ext {r s : RingBuffer α size} (hslots : r.slots = s.slots)
    (hhead : r.head = s.head) (hcount : r.count = s.count) : r = s := by
  cases r
  cases s
  simp_all

/-- A ring with every slot holding the same unused value. -/
def new (hsize : 0 < size) (unused : α) : RingBuffer α size where
  slots := List.replicate size unused
  head := 0
  count := 0
  slots_length := List.length_replicate
  head_lt := hsize
  count_le := Nat.zero_le _
  head_of_not_full := fun _ => rfl

def live (r : RingBuffer α size) : List α :=
  r.slots.take r.count

def find (r : RingBuffer α size) (p : α → Bool) : Option Nat :=
  r.live.findIdx? p

theorem find_eq_none_iff (r : RingBuffer α size) (p : α → Bool) :
    r.find p = none ↔ ∀ x ∈ r.live, p x = false :=
  List.findIdx?_eq_none_iff

/-- Write the next slot, evicting what it held. -/
def push (r : RingBuffer α size) (a : α) : RingBuffer α size where
  slots := r.slots.set r.head a
  head := (r.head + 1) % size
  count := if r.count < size then r.count + 1 else r.count
  slots_length := by simpa using r.slots_length
  head_lt := Nat.mod_lt _ (Nat.zero_lt_of_lt r.head_lt)
  count_le := by
    have := r.count_le
    split <;> omega
  head_of_not_full := by
    intro h
    have hcount := r.count_le
    split at h
    · rename_i hlt
      have hhead := r.head_of_not_full hlt
      simp only [hlt, if_true]
      rw [hhead, Nat.mod_eq_of_lt h]
    · omega

def modify (r : RingBuffer α size) (i : Nat) (f : α → α) : RingBuffer α size where
  slots := r.slots.modify i f
  head := r.head
  count := r.count
  slots_length := by simpa using r.slots_length
  head_lt := r.head_lt
  count_le := r.count_le
  head_of_not_full := r.head_of_not_full

@[simp] theorem count_modify (r : RingBuffer α size) (i : Nat) (f : α → α) :
    (r.modify i f).count = r.count := rfl

@[simp] theorem slots_modify (r : RingBuffer α size) (i : Nat) (f : α → α) :
    (r.modify i f).slots = r.slots.modify i f := rfl

/-- Modifying one element of a list changes nothing exactly when `f` keeps it. -/
theorem modifyList_eq_self_iff (l : List α) (i : Nat) (f : α → α) :
    l.modify i f = l ↔ ∀ a, l[i]? = some a → f a = a := by
  constructor
  · intro h a ha
    have hget : (l.modify i f)[i]? = l[i]? := by rw [h]
    rw [List.getElem?_modify_eq, ha] at hget
    exact Option.some.inj hget
  · intro h
    apply List.ext_getElem?
    intro j
    rw [List.getElem?_modify]
    by_cases hij : i = j
    · subst hij
      cases ha : l[i]? with
      | none => rfl
      | some a => simp [h a ha]
    · simp [hij]

theorem modify_eq_self_iff (r : RingBuffer α size) (i : Nat) (f : α → α) :
    r.modify i f = r ↔ ∀ a, r.slots[i]? = some a → f a = a := by
  rw [← modifyList_eq_self_iff]
  constructor
  · intro h
    exact congrArg RingBuffer.slots h
  · intro h
    exact RingBuffer.ext h rfl rfl

theorem head_push_ne (r : RingBuffer α size) (a : α) (hsize : 1 < size) :
    (r.push a).head ≠ r.head := by
  change (r.head + 1) % size ≠ r.head
  have hlt := r.head_lt
  by_cases hwrap : r.head + 1 = size
  · rw [hwrap, Nat.mod_self]
    omega
  · rw [Nat.mod_eq_of_lt (by omega)]
    omega

theorem mem_live_push (r : RingBuffer α size) (a x : α)
    (h : x ∈ (r.push a).live) : x = a ∨ x ∈ r.live := by
  obtain ⟨i, hi, hget⟩ := List.mem_iff_getElem.mp h
  have hslots := r.slots_length
  have hcount := r.count_le
  simp only [live, push, List.length_take, List.length_set] at hi
  simp only [live, push, List.getElem_take, List.getElem_set] at hget
  by_cases hhead : r.head = i
  · rw [if_pos hhead] at hget
    exact Or.inl hget.symm
  · rw [if_neg hhead] at hget
    have hbelow : i < r.count := by
      by_cases hfull : r.count < size
      · have := r.head_of_not_full hfull
        simp only [hfull, if_true] at hi
        omega
      · simp only [hfull, if_false] at hi
        omega
    refine Or.inr (List.mem_iff_getElem.mpr ⟨i, ?_, ?_⟩)
    · simp only [live, List.length_take]
      omega
    · simpa [live] using hget

theorem forall_live_push {r : RingBuffer α size} {a : α} {P : α → Prop}
    (ha : P a) (hr : ∀ x ∈ r.live, P x) : ∀ x ∈ (r.push a).live, P x := by
  intro x hx
  rcases mem_live_push r a x hx with rfl | hx
  · exact ha
  · exact hr x hx

/-- A change that keeps a property of the elements keeps it of every live one. -/
theorem forall_live_modify {r : RingBuffer α size} {i : Nat} {f : α → α} {P : α → Prop}
    (hf : ∀ x, P x → P (f x)) (hr : ∀ x ∈ r.live, P x) : ∀ x ∈ (r.modify i f).live, P x := by
  intro x hx
  obtain ⟨j, hj⟩ := List.mem_iff_getElem?.mp hx
  rw [live, List.getElem?_take] at hj
  split at hj
  · rename_i hlt
    rw [slots_modify, List.getElem?_modify, Option.map_eq_map, Option.map_eq_some_iff] at hj
    obtain ⟨y, hy, rfl⟩ := hj
    have hlive : P y := by
      apply hr
      apply List.mem_iff_getElem?.mpr
      refine ⟨j, ?_⟩
      rw [count_modify] at hlt
      rw [live, List.getElem?_take, if_pos hlt, hy]
    by_cases hij : i = j
    · simpa [hij] using hf y hlive
    · simpa [hij] using hlive
  · cases hj

/-! ## Recent elements -/

/-- The live elements, the newest first. -/
def recent (r : RingBuffer α size) : List α :=
  (r.slots.take r.head).reverse ++ if r.count < size then [] else (r.slots.drop r.head).reverse

theorem perm_recent (r : RingBuffer α size) : r.recent.Perm r.live := by
  unfold recent live
  by_cases hfull : r.count < size
  · rw [if_pos hfull, List.append_nil, r.head_of_not_full hfull]
    exact List.reverse_perm _
  · have hcount : r.slots.length ≤ r.count := by
      rw [r.slots_length]
      omega
    rw [if_neg hfull, List.take_of_length_le hcount, ← List.reverse_append]
    have hswap : (r.slots.drop r.head ++ r.slots.take r.head).Perm r.slots := by
      apply List.perm_append_comm.trans
      rw [List.take_append_drop]
    exact (List.reverse_perm _).trans hswap

theorem mem_recent_iff (r : RingBuffer α size) (x : α) : x ∈ r.recent ↔ x ∈ r.live :=
  r.perm_recent.mem_iff

theorem length_take_head (r : RingBuffer α size) : (r.slots.take r.head).length = r.head := by
  have hhead := r.head_lt
  rw [List.length_take, r.slots_length]
  omega

theorem slots_push (r : RingBuffer α size) (a : α) :
    (r.push a).slots = r.slots.take r.head ++ a :: r.slots.drop (r.head + 1) := by
  have hhead := r.head_lt
  change r.slots.set r.head a = _
  rw [List.set_eq_take_append_cons_drop, if_pos (by rw [r.slots_length]; exact hhead)]

theorem take_slots_push (r : RingBuffer α size) (a : α) :
    (r.push a).slots.take (r.head + 1) = r.slots.take r.head ++ [a] := by
  have htake := r.length_take_head
  rw [slots_push, List.take_append, htake, List.take_of_length_le (by omega)]
  simp

theorem drop_slots_push (r : RingBuffer α size) (a : α) :
    (r.push a).slots.drop (r.head + 1) = r.slots.drop (r.head + 1) := by
  have htake := r.length_take_head
  rw [slots_push, List.drop_append, htake, List.drop_of_length_le (by omega)]
  simp

/-- The pushed element is the newest, and a full ring forgets its oldest one. -/
theorem recent_push (r : RingBuffer α size) (a : α) :
    (r.push a).recent = (a :: r.recent).take size := by
  have hhead := r.head_lt
  have hcount := r.count_le
  have hlength := r.slots_length
  have htake := r.length_take_head
  unfold recent
  by_cases hwrap : r.head + 1 = size
  · -- the next slot is the first one again
    have hpushed : (r.push a).head = 0 := by
      change (r.head + 1) % size = 0
      rw [hwrap, Nat.mod_self]
    have hfull : ¬ (r.push a).count < size := by
      change ¬ (if r.count < size then r.count + 1 else r.count) < size
      split
      · rename_i hroom
        have := r.head_of_not_full hroom
        omega
      · omega
    have hall : (r.push a).slots = r.slots.take r.head ++ [a] := by
      rw [← r.take_slots_push, List.take_of_length_le]
      exact Nat.le_of_eq ((r.push a).slots_length.trans hwrap.symm)
    rw [hpushed, if_neg hfull, hall, List.take_zero, List.drop_zero, List.reverse_nil,
      List.nil_append, List.reverse_append, List.reverse_singleton, List.singleton_append,
      ← List.cons_append, List.take_left']
    rw [List.length_cons, List.length_reverse, htake, hwrap]
  · have hpushed : (r.push a).head = r.head + 1 := Nat.mod_eq_of_lt (by omega)
    rw [hpushed, take_slots_push, drop_slots_push, List.reverse_append, List.reverse_singleton,
      List.singleton_append]
    by_cases hroom : r.count < size
    · have hheadCount := r.head_of_not_full hroom
      have hstill : (r.push a).count < size := by
        change (if r.count < size then r.count + 1 else r.count) < size
        rw [if_pos hroom]
        omega
      have hfits : (a :: (r.slots.take r.head).reverse).length ≤ size := by
        rw [List.length_cons, List.length_reverse, htake]
        omega
      rw [if_pos hroom, if_pos hstill, List.append_nil, List.append_nil]
      exact (List.take_of_length_le hfits).symm
    · have hstill : ¬ (r.push a).count < size := by
        change ¬ (if r.count < size then r.count + 1 else r.count) < size
        rw [if_neg hroom]
        exact hroom
      -- the oldest element is the one under the head
      have hoverwritten : r.slots.drop r.head = r.slots[r.head] :: r.slots.drop (r.head + 1) :=
        List.drop_eq_getElem_cons (by omega)
      rw [if_neg hroom, if_neg hstill, hoverwritten, List.reverse_cons, ← List.append_assoc,
        ← List.cons_append, ← List.cons_append, List.take_left']
      rw [List.length_append, List.length_cons, List.length_reverse, htake, List.length_reverse,
        List.length_drop]
      omega

/-- What the elements are known by survives a change that keeps it. -/
theorem map_recent_modify {β : Type} {g : α → β} {f : α → α} (h : ∀ x, g (f x) = g x)
    (r : RingBuffer α size) (i : Nat) : (r.modify i f).recent.map g = r.recent.map g := by
  have hslots : (r.slots.modify i f).map g = r.slots.map g := by
    apply List.ext_getElem?
    intro j
    rw [List.getElem?_map, List.getElem?_map, List.getElem?_modify]
    cases r.slots[j]? with
    | none => rfl
    | some x =>
        by_cases hij : i = j
        · simp [hij, h]
        · simp [hij]
  have hhead : (r.modify i f).head = r.head := rfl
  unfold recent
  rw [List.map_append, List.map_append, count_modify, slots_modify, hhead, List.map_reverse,
    List.map_take, hslots, List.map_reverse, List.map_take]
  split
  · rfl
  · rw [List.map_reverse, List.map_drop, hslots, List.map_reverse, List.map_drop]

end RingBuffer

/-! ## Fresh elements -/

def FreshWithin {α : Type} (n : Nat) : List α → Prop
  | [] => True
  | a :: older => a ∉ older.take n ∧ FreshWithin n older

namespace FreshWithin

variable {α : Type} {n : Nat}

theorem of_append {newer older : List α} (h : FreshWithin n (newer ++ older)) :
    FreshWithin n older := by
  induction newer with
  | nil => exact h
  | cons a newer ih => exact ih h.2

theorem nodup_take {l : List α} (h : FreshWithin n l) : (l.take (n + 1)).Nodup := by
  induction l with
  | nil => simp
  | cons a older ih =>
      obtain ⟨hfresh, holder⟩ := h
      have hsub : (older.take n).Sublist (older.take (n + 1)) :=
        List.take_sublist_take_left (Nat.le_succ n)
      rw [List.take_succ_cons, List.nodup_cons]
      exact ⟨hfresh, (ih holder).sublist hsub⟩

/-- Two occurrences of an element have at least `n` other, pairwise distinct elements
between them. -/
theorem exists_between {newer between older : List α} {a : α}
    (h : FreshWithin n (newer ++ a :: (between ++ a :: older))) :
    ∃ others : List α, others.Sublist between ∧ others.Nodup ∧ a ∉ others ∧ others.length = n := by
  have hfresh : FreshWithin n (a :: (between ++ a :: older)) := h.of_append
  have hlength : n ≤ between.length := by
    by_contra hshort
    apply hfresh.1
    rw [List.take_append, List.mem_append]
    right
    obtain ⟨m, hm⟩ : ∃ m, n - between.length = m + 1 := ⟨n - between.length - 1, by omega⟩
    rw [hm, List.take_succ_cons]
    exact List.mem_cons_self
  have hnodup := hfresh.nodup_take
  rw [List.take_succ_cons, List.take_append_of_le_length hlength, List.nodup_cons] at hnodup
  exact ⟨between.take n, List.take_sublist n between, hnodup.2, hnodup.1,
    by rw [List.length_take, Nat.min_eq_left hlength]⟩

end FreshWithin

/-- Only the newest elements matter for the newest ones after one more. -/
theorem take_cons_take {α : Type} (n : Nat) (a : α) (l : List α) :
    (a :: l.take n).take n = (a :: l).take n := by
  cases n with
  | zero => rfl
  | succ n =>
      rw [List.take_succ_cons, List.take_succ_cons, List.take_take,
        Nat.min_eq_left (Nat.le_succ n)]

/-- A list remembered by its newest elements stays so when a fresh one is pushed. -/
theorem take_prefix_take_cons {α : Type} {n : Nat} {l remembered : List α}
    (h : l.take n <+: remembered) (a : α) : (a :: l).take n <+: (a :: remembered).take n := by
  cases n with
  | zero => exact List.nil_prefix
  | succ n =>
      rw [List.take_succ_cons, List.take_succ_cons, List.cons_prefix_cons]
      refine ⟨rfl, ?_⟩
      obtain ⟨rest, rfl⟩ := h
      have hshorter : l.take n = (l.take (n + 1)).take n := by
        rw [List.take_take, Nat.min_eq_left (Nat.le_succ n)]
      rw [hshorter, List.take_append]
      exact List.prefix_append _ _

end Meshtastenstein.Lib
