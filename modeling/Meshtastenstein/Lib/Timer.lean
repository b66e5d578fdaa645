import Mathlib.Data.List.Count
import Mathlib.Data.List.Perm.Basic
/-!
# One timer for many deadlines

A timer is set to the earliest deadline among some items, which are kept in no particular
order.  When it fires, one of the items that are due first is taken, if there is one that is
due.  A series of firings takes the items in the order of their deadlines, and takes all that
are due when there are firings enough.
-/

namespace Meshtastenstein.Lib.Timer

variable {α : Type} (deadline : α → Nat) (now : Nat)

inductive Fires : List α → Option α → List α → Prop
  | idle {items : List α} (h : ∀ item ∈ items, now < deadline item) : Fires items none items
  | takes {items rest : List α} {item : α} (hperm : items.Perm (item :: rest))
      (hdue : deadline item ≤ now) (hfirst : ∀ other ∈ rest, deadline item ≤ deadline other) :
      Fires items (some item) rest

inductive Series : Nat → List α → List α → List α → Prop
  | nil {items : List α} : Series 0 items [] items
  | cons {n : Nat} {items rest left later : List α} {taken : Option α}
      (hfirst : Fires deadline now items taken rest) (hlater : Series n rest later left) :
      Series (n + 1) items (taken.toList ++ later) left

variable {deadline now} {n : Nat} {items taken left : List α}

theorem Fires.perm {item : Option α} (h : Fires deadline now items item left) :
    items.Perm (item.toList ++ left) := by
  cases h with
  | idle => exact List.Perm.refl _
  | takes hperm => exact hperm

/-- An item stays until it is taken, and once it is due there is one item less to take with or
before it after every firing. -/
theorem Fires.of_mem {taken : Option α} (h : Fires deadline now items taken left) {item : α}
    (hitem : item ∈ items) :
    taken = some item ∨ item ∈ left ∧
      left.countP (fun other => deadline other ≤ deadline item) ≤
        items.countP (fun other => deadline other ≤ deadline item) ∧
      (deadline item ≤ now → left.countP (fun other => deadline other ≤ deadline item) <
        items.countP (fun other => deadline other ≤ deadline item)) := by
  cases h with
  | idle hlate =>
      have hnotDue := hlate item hitem
      exact Or.inr ⟨hitem, Nat.le_refl _, fun hdue => by omega⟩
  | takes hperm _ hfirst =>
      rw [hperm.countP_eq]
      rcases List.mem_cons.mp (hperm.mem_iff.mp hitem) with rfl | hrest
      · exact Or.inl rfl
      · rw [List.countP_cons_of_pos (by simpa using hfirst item hrest)]
        exact Or.inr ⟨hrest, Nat.le_succ _, fun _ => Nat.lt_succ_self _⟩

/-- Nothing is lost and nothing is taken twice. -/
theorem Series.perm (h : Series deadline now n items taken left) :
    items.Perm (taken ++ left) := by
  induction h with
  | nil => exact List.Perm.refl _
  | cons hfirst _ ih =>
      rw [List.append_assoc]
      exact hfirst.perm.trans (ih.append_left _)

theorem Series.due (h : Series deadline now n items taken left) :
    ∀ item ∈ taken, deadline item ≤ now := by
  induction h with
  | nil => simp
  | cons hfirst _ ih =>
      intro item hitem
      rcases List.mem_append.mp hitem with hnow | hlater
      · cases hfirst with
        | idle => simp at hnow
        | takes _ hdue =>
            rw [Option.toList_some, List.mem_singleton] at hnow
            rw [hnow]
            exact hdue
      · exact ih item hlater

theorem Series.sorted (h : Series deadline now n items taken left) :
    taken.Pairwise fun item other => deadline item ≤ deadline other := by
  induction h with
  | nil => exact List.Pairwise.nil
  | cons hfirst hlater ih =>
      cases hfirst with
      | idle => exact ih
      | takes _ _ hearliest =>
          refine List.pairwise_cons.mpr ⟨fun other hother => ?_, ih⟩
          apply hearliest
          exact hlater.perm.mem_iff.mpr (List.mem_append_left _ hother)

/-- Firings enough take everything that is due. -/
theorem Series.later (h : Series deadline now n items taken left)
    (hn : items.countP (fun item => deadline item ≤ now) ≤ n) :
    ∀ item ∈ left, now < deadline item := by
  induction h with
  | nil =>
      intro item hitem
      have hnone := List.countP_eq_zero.mp (Nat.le_zero.mp hn) item hitem
      simpa using hnone
  | cons hfirst hlater ih =>
      cases hfirst with
      | idle hnone =>
          apply ih
          rw [List.countP_eq_zero.mpr (by simpa using hnone)]
          exact Nat.zero_le _
      | takes hperm hdue =>
          apply ih
          rw [hperm.countP_eq, List.countP_cons_of_pos (by simpa using hdue)] at hn
          omega

end Meshtastenstein.Lib.Timer
