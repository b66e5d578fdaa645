import Meshtastenstein.Lib.Bounded
/-!
# Sweeps

A loop that walks a list by index and decides for each element what becomes of it.  An element
that stays is overwritten in its place; one that goes is replaced by the last element, which the
loop then looks at next.
-/

namespace Meshtastenstein.Lib.Sweep

variable {α β : Type}

def swept (fate : α → Option α) : Nat → Nat → List α → List α
  | 0, _, xs => xs
  | steps + 1, i, xs =>
      match xs[i]? with
      | none => xs
      | some x =>
          match fate x with
          | some y => swept fate steps (i + 1) (xs.set i y)
          | none => swept fate steps i (Bounded.swapRemoveList xs i)

/-- The elements that the loop looks at from index `i` on, in order. -/
def visited (fate : α → Option α) : Nat → Nat → List α → List α
  | 0, _, _ => []
  | steps + 1, i, xs =>
      match xs[i]? with
      | none => []
      | some x =>
          match fate x with
          | some y => x :: visited fate steps (i + 1) (xs.set i y)
          | none => x :: visited fate steps i (Bounded.swapRemoveList xs i)

variable {fate : α → Option α}

/-! ## Removal in the middle of a walk -/

theorem take_swapRemoveList {xs : List α} {i : Nat} (h : i < xs.length) :
    (Bounded.swapRemoveList xs i).take i = xs.take i := by
  rcases List.eq_nil_or_concat xs with rfl | ⟨init, last, rfl⟩
  · cases h
  · rw [List.concat_eq_append] at h ⊢
    rw [List.length_append, List.length_singleton] at h
    unfold Bounded.swapRemoveList
    rw [List.getLast?_append, List.getLast?_singleton, Option.some_or]
    dsimp only
    rw [List.dropLast_eq_take, List.take_take, List.length_set, List.length_append,
      List.length_singleton, Nat.add_sub_cancel, Nat.min_eq_left (by omega),
      List.take_set_of_le (Nat.le_refl i)]

theorem perm_drop_swapRemoveList {xs : List α} {i : Nat} (h : i < xs.length) :
    (xs.drop i).Perm (xs[i] :: (Bounded.swapRemoveList xs i).drop i) := by
  apply (List.perm_append_left_iff (xs.take i)).mp
  calc List.Perm (xs.take i ++ xs.drop i) xs := by rw [List.take_append_drop]
    List.Perm _ (xs[i] :: Bounded.swapRemoveList xs i) := Bounded.perm_swapRemoveList xs i h
    List.Perm _ (xs[i] :: (xs.take i ++ (Bounded.swapRemoveList xs i).drop i)) := by
      rw [← take_swapRemoveList h, List.take_append_drop]
    List.Perm _ (xs.take i ++ xs[i] :: (Bounded.swapRemoveList xs i).drop i) :=
      List.perm_middle.symm

/-! ## Steps of the loop -/

theorem swept_of_ge {xs : List α} {i : Nat} (h : xs.length ≤ i) (steps : Nat) :
    swept fate steps i xs = xs := by
  cases steps with
  | zero => rfl
  | succ steps =>
      unfold swept
      rw [List.getElem?_eq_none h]

theorem swept_of_stays {xs : List α} {i : Nat} (h : i < xs.length) {y : α}
    (hfate : fate xs[i] = some y) (steps : Nat) :
    swept fate (steps + 1) i xs = swept fate steps (i + 1) (xs.set i y) := by
  rw [swept, List.getElem?_eq_getElem h]
  dsimp only
  rw [hfate]

theorem swept_of_goes {xs : List α} {i : Nat} (h : i < xs.length) (hfate : fate xs[i] = none)
    (steps : Nat) :
    swept fate (steps + 1) i xs = swept fate steps i (Bounded.swapRemoveList xs i) := by
  rw [swept, List.getElem?_eq_getElem h]
  dsimp only
  rw [hfate]

theorem visited_of_ge {xs : List α} {i : Nat} (h : xs.length ≤ i) (steps : Nat) :
    visited fate steps i xs = [] := by
  cases steps with
  | zero => rfl
  | succ steps =>
      unfold visited
      rw [List.getElem?_eq_none h]

theorem visited_of_stays {xs : List α} {i : Nat} (h : i < xs.length) {y : α}
    (hfate : fate xs[i] = some y) (steps : Nat) :
    visited fate (steps + 1) i xs = xs[i] :: visited fate steps (i + 1) (xs.set i y) := by
  rw [visited, List.getElem?_eq_getElem h]
  dsimp only
  rw [hfate]

theorem visited_of_goes {xs : List α} {i : Nat} (h : i < xs.length) (hfate : fate xs[i] = none)
    (steps : Nat) :
    visited fate (steps + 1) i xs =
      xs[i] :: visited fate steps i (Bounded.swapRemoveList xs i) := by
  rw [visited, List.getElem?_eq_getElem h]
  dsimp only
  rw [hfate]

/-- The induction of the loop: it has come to the end, or the element it looks at stays or
goes. -/
theorem sweep_induction (fate : α → Option α) {P : Nat → Nat → List α → Prop}
    (hend : ∀ steps i xs, xs.length ≤ i → P steps i xs)
    (hstays : ∀ steps i xs y (h : i < xs.length), fate xs[i] = some y →
      P steps (i + 1) (xs.set i y) → P (steps + 1) i xs)
    (hgoes : ∀ steps i xs (h : i < xs.length), fate xs[i] = none →
      P steps i (Bounded.swapRemoveList xs i) → P (steps + 1) i xs)
    {steps i : Nat} {xs : List α} (h : xs.length - i ≤ steps) : P steps i xs := by
  induction steps generalizing i xs with
  | zero => exact hend 0 i xs (by omega)
  | succ steps ih =>
      by_cases hi : i < xs.length
      · cases hfate : fate xs[i] with
        | some y =>
            refine hstays steps i xs y hi hfate (ih ?_)
            rw [List.length_set]
            omega
        | none =>
            refine hgoes steps i xs hi hfate (ih ?_)
            rw [Bounded.length_swapRemoveList]
            omega
      · exact hend (steps + 1) i xs (by omega)

/-! ## The whole walk -/

theorem perm_visited {steps i : Nat} {xs : List α} (h : xs.length - i ≤ steps) :
    (visited fate steps i xs).Perm (xs.drop i) := by
  refine sweep_induction fate
    (P := fun steps i xs => (visited fate steps i xs).Perm (xs.drop i)) ?_ ?_ ?_ h
  · intro steps i xs hend
    rw [visited_of_ge hend, List.drop_eq_nil_of_le hend]
  · intro steps i xs y hi hfate ih
    rw [visited_of_stays hi hfate, List.drop_eq_getElem_cons hi]
    rw [List.drop_set_of_lt (Nat.lt_succ_self i)] at ih
    exact ih.cons xs[i]
  · intro steps i xs hi hfate ih
    rw [visited_of_goes hi hfate]
    exact (ih.cons xs[i]).trans (perm_drop_swapRemoveList hi).symm

theorem perm_swept {steps i : Nat} {xs : List α} (h : xs.length - i ≤ steps) :
    (swept fate steps i xs).Perm (xs.take i ++ (xs.drop i).filterMap fate) := by
  refine sweep_induction fate (P := fun steps i xs =>
    (swept fate steps i xs).Perm (xs.take i ++ (xs.drop i).filterMap fate)) ?_ ?_ ?_ h
  · intro steps i xs hend
    rw [swept_of_ge hend, List.drop_eq_nil_of_le hend, List.take_of_length_le hend,
      List.filterMap_nil, List.append_nil]
  · intro steps i xs y hi hfate ih
    have hi' : i < (xs.set i y).length := by rwa [List.length_set]
    rw [swept_of_stays hi hfate, List.drop_eq_getElem_cons hi, List.filterMap_cons_some hfate]
    rw [List.drop_set_of_lt (Nat.lt_succ_self i), ← List.take_append_getElem hi',
      List.take_set_of_le (Nat.le_refl i), List.getElem_set_self, List.append_assoc] at ih
    exact ih
  · intro steps i xs hi hfate ih
    rw [swept_of_goes hi hfate]
    rw [take_swapRemoveList hi] at ih
    refine ih.trans (List.Perm.append_left _ ?_)
    have hrest := (perm_drop_swapRemoveList hi).filterMap fate
    rw [List.filterMap_cons_none hfate] at hrest
    exact hrest.symm

/-! ## Views -/

variable {fate' : β → Option β} {g : α → β}

/-- A view that keeps the decisions commutes with the loop. -/
theorem map_swept (hfate : ∀ x, (fate x).map g = fate' (g x)) (steps i : Nat) (xs : List α) :
    (swept fate steps i xs).map g = swept fate' steps i (xs.map g) := by
  induction steps generalizing i xs with
  | zero => rfl
  | succ steps ih =>
      by_cases hi : i < xs.length
      · have hi' : i < (xs.map g).length := by rwa [List.length_map]
        have hview : fate' (xs.map g)[i] = (fate xs[i]).map g := by
          rw [List.getElem_map, hfate]
        cases hdecision : fate xs[i] with
        | some y =>
            rw [hdecision] at hview
            rw [swept_of_stays hi hdecision, swept_of_stays hi' hview, ih, List.map_set]
        | none =>
            rw [hdecision] at hview
            rw [swept_of_goes hi hdecision, swept_of_goes hi' hview, ih, Bounded.map_swapRemoveList]
      · have hend : xs.length ≤ i := Nat.le_of_not_lt hi
        rw [swept_of_ge hend, swept_of_ge (by rwa [List.length_map])]

theorem map_visited (hfate : ∀ x, (fate x).map g = fate' (g x)) (steps i : Nat) (xs : List α) :
    (visited fate steps i xs).map g = visited fate' steps i (xs.map g) := by
  induction steps generalizing i xs with
  | zero => rfl
  | succ steps ih =>
      by_cases hi : i < xs.length
      · have hi' : i < (xs.map g).length := by rwa [List.length_map]
        have hview : fate' (xs.map g)[i] = (fate xs[i]).map g := by
          rw [List.getElem_map, hfate]
        cases hdecision : fate xs[i] with
        | some y =>
            rw [hdecision] at hview
            rw [visited_of_stays hi hdecision, visited_of_stays hi' hview, List.map_cons, ih,
              List.map_set, List.getElem_map]
        | none =>
            rw [hdecision] at hview
            rw [visited_of_goes hi hdecision, visited_of_goes hi' hview, List.map_cons, ih,
              Bounded.map_swapRemoveList, List.getElem_map]
      · have hend : xs.length ≤ i := Nat.le_of_not_lt hi
        rw [visited_of_ge hend, visited_of_ge (by rwa [List.length_map]), List.map_nil]

end Meshtastenstein.Lib.Sweep
