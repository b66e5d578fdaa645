import Mathlib.Data.List.Perm.Basic
/-!
# Vectors of bounded capacity

A list together with the fact that it fits its capacity.  Every operation that
could overflow says what happens to the element that has no room, so a value of
this type never holds more than its capacity.
-/

namespace Meshtastenstein.Lib

structure Bounded (α : Type) (cap : Nat) where
  toList : List α
  length_le : toList.length ≤ cap
deriving DecidableEq

namespace Bounded

variable {α β : Type} {cap : Nat}

@[ext] theorem ext {v w : Bounded α cap} (h : v.toList = w.toList) : v = w := by
  cases v
  cases w
  simp_all

def empty : Bounded α cap := ⟨[], Nat.zero_le _⟩

def length (v : Bounded α cap) : Nat := v.toList.length

def isFull (v : Bounded α cap) : Bool := v.length == cap

/-- Append one element, or fail when the vector is full. -/
def push (v : Bounded α cap) (a : α) : Option (Bounded α cap) :=
  if h : v.toList.length < cap then
    some ⟨v.toList ++ [a], by simpa using Nat.succ_le_of_lt h⟩
  else
    none

/-- Append one element; a full vector is left as it was. -/
def pushOrDrop (v : Bounded α cap) (a : α) : Bounded α cap :=
  (v.push a).getD v

theorem push_of_lt (v : Bounded α cap) (a : α) (h : v.length < cap) :
    v.push a = some ⟨v.toList ++ [a], by
      rw [List.length_append, List.length_singleton]
      exact Nat.succ_le_of_lt h⟩ :=
  dif_pos h

theorem push_of_full (v : Bounded α cap) (a : α) (h : ¬ v.length < cap) :
    v.push a = none :=
  dif_neg h

/-- Append a whole list, or fail without change when it does not fit. -/
def extend (v : Bounded α cap) (l : List α) : Option (Bounded α cap) :=
  if h : v.toList.length + l.length ≤ cap then
    some ⟨v.toList ++ l, by simpa using h⟩
  else
    none

/-- Append a whole list; one that does not fit is dropped entirely. -/
def extendOrDrop (v : Bounded α cap) (l : List α) : Bounded α cap :=
  (v.extend l).getD v

def ofListOrEmpty (l : List α) : Bounded α cap :=
  (empty : Bounded α cap).extendOrDrop l

theorem toList_ofListOrEmpty (l : List α) :
    (ofListOrEmpty l : Bounded α cap).toList = if l.length ≤ cap then l else [] := by
  unfold ofListOrEmpty extendOrDrop extend empty
  by_cases h : l.length ≤ cap <;> simp [h]

theorem toList_ofListOrEmpty_of_le {l : List α} (h : l.length ≤ cap) :
    (ofListOrEmpty l : Bounded α cap).toList = l := by
  rw [toList_ofListOrEmpty, if_pos h]

/-- Overwriting with a list stores it, or leaves what was there, exactly when the list fits
or there was nothing to lose. -/
theorem ofListOrEmpty_eq_or_iff {old : Bounded α cap} {l : List α} :
    ((ofListOrEmpty l : Bounded α cap).toList = l ∨ ofListOrEmpty l = old) ↔
      l.length ≤ cap ∨ old = empty := by
  by_cases hfits : l.length ≤ cap
  · exact iff_of_true (.inl (toList_ofListOrEmpty_of_le hfits)) (.inl hfits)
  · have hempty : (ofListOrEmpty l : Bounded α cap) = empty := by
      apply ext
      rw [toList_ofListOrEmpty, if_neg hfits]
      rfl
    have hne : (empty : Bounded α cap).toList ≠ l := by
      rintro rfl
      exact hfits (Nat.zero_le cap)
    rw [hempty, or_iff_right hne, or_iff_right hfits, eq_comm]

def map (f : α → β) (v : Bounded α cap) : Bounded β cap :=
  ⟨v.toList.map f, by simpa using v.length_le⟩

@[simp] theorem toList_map (f : α → β) (v : Bounded α cap) :
    (v.map f).toList = v.toList.map f := rfl

def set (v : Bounded α cap) (i : Nat) (a : α) : Bounded α cap :=
  ⟨v.toList.set i a, by simpa using v.length_le⟩

@[simp] theorem toList_set (v : Bounded α cap) (i : Nat) (a : α) :
    (v.set i a).toList = v.toList.set i a := rfl

/-- Keep the elements that satisfy `p`, in order. -/
def retain (v : Bounded α cap) (p : α → Bool) : Bounded α cap :=
  ⟨v.toList.filter p, Nat.le_trans (List.length_filter_le _ _) v.length_le⟩

@[simp] theorem toList_retain (v : Bounded α cap) (p : α → Bool) :
    (v.retain p).toList = v.toList.filter p := rfl

/-! ## Removal by swapping with the last element -/

/-- The list with the element at `i` overwritten by the last one and the last
slot dropped. -/
def swapRemoveList (l : List α) (i : Nat) : List α :=
  match l.getLast? with
  | none => []
  | some last => (l.set i last).dropLast

theorem length_swapRemoveList (l : List α) (i : Nat) :
    (swapRemoveList l i).length = l.length - 1 := by
  unfold swapRemoveList
  cases h : l.getLast? with
  | none => simp [List.getLast?_eq_none_iff.mp h]
  | some last => simp

/-- Swap removal takes out exactly the element at the index. -/
theorem perm_swapRemoveList (l : List α) (i : Nat) (h : i < l.length) :
    l.Perm (l[i] :: swapRemoveList l i) := by
  rcases List.eq_nil_or_concat l with rfl | ⟨xs, x, rfl⟩
  · simp at h
  · simp only [List.concat_eq_append] at h ⊢
    by_cases hi : i < xs.length
    · have hset : (xs ++ [x]).set i x = xs.set i x ++ [x] :=
        List.set_append_left i x hi
      simp only [swapRemoveList, List.getLast?_append, List.getLast?_singleton,
        Option.some_or, hset, List.dropLast_concat, List.getElem_append_left hi]
      calc List.Perm (xs ++ [x]) (x :: xs) := List.perm_append_singleton x xs
        List.Perm _ (x :: xs[i] :: xs.eraseIdx i) :=
          ((List.getElem_cons_eraseIdx_perm hi).symm).cons x
        List.Perm _ (xs[i] :: x :: xs.eraseIdx i) := List.Perm.swap _ _ _
        List.Perm _ (xs[i] :: xs.set i x) :=
          ((List.set_perm_cons_eraseIdx hi x).symm).cons xs[i]
    · have hlast : i = xs.length := by
        simp at h
        omega
      subst hlast
      simp [swapRemoveList]

/-- Swap removal adds nothing, whatever the index. -/
theorem swapRemoveList_subset (l : List α) (i : Nat) : swapRemoveList l i ⊆ l := by
  intro x hx
  by_cases hi : i < l.length
  · exact (perm_swapRemoveList l i hi).mem_iff.mpr (List.mem_cons_of_mem _ hx)
  · rw [swapRemoveList] at hx
    split at hx
    · cases hx
    · rw [List.set_eq_of_length_le (Nat.le_of_not_lt hi)] at hx
      exact List.dropLast_subset _ hx

theorem map_swapRemoveList (g : α → β) (l : List α) (i : Nat) :
    (swapRemoveList l i).map g = swapRemoveList (l.map g) i := by
  unfold swapRemoveList
  rw [List.getLast?_map]
  cases l.getLast? with
  | none => rfl
  | some last =>
      change ((l.set i last).dropLast).map g = ((l.map g).set i (g last)).dropLast
      rw [List.map_dropLast, List.map_set]

/-- Remove the element at `i`, moving the last element into its place. -/
def swapRemove (v : Bounded α cap) (i : Nat) : Bounded α cap :=
  ⟨swapRemoveList v.toList i, by
    rw [length_swapRemoveList]
    exact Nat.le_trans (Nat.sub_le _ _) v.length_le⟩

@[simp] theorem toList_swapRemove (v : Bounded α cap) (i : Nat) :
    (v.swapRemove i).toList = swapRemoveList v.toList i := rfl

theorem perm_swapRemove (v : Bounded α cap) (i : Nat) (h : i < v.toList.length) :
    v.toList.Perm (v.toList[i] :: (v.swapRemove i).toList) :=
  perm_swapRemoveList v.toList i h

end Bounded

end Meshtastenstein.Lib
