import Mathlib.Data.List.Nodup
import Mathlib.Data.List.Perm.Basic
/-!
# Requests with one outcome each

Requests are opened under keys and settled with an outcome that is announced.  When only
keys that were never used are opened, no key has two outcomes.
-/

namespace Meshtastenstein.Lib.Outcome

variable {κ ω : Type}

/-- The open keys are distinct and have no outcome yet; the others have one at most. -/
structure Consistent (opened : List κ) (announced : List (κ × ω)) : Prop where
  nodup : opened.Nodup
  pending : ∀ k ∈ opened, ∀ o, (k, o) ∉ announced
  unique : ∀ k o o', (k, o) ∈ announced → (k, o') ∈ announced → o = o'

def Unused (opened : List κ) (announced : List (κ × ω)) (k : κ) : Prop :=
  k ∉ opened ∧ ∀ o, (k, o) ∉ announced

namespace Consistent

variable {opened rest lost : List κ} {announced news : List (κ × ω)}

theorem empty : Consistent ([] : List κ) ([] : List (κ × ω)) :=
  ⟨List.nodup_nil, by simp, by simp⟩

/-- What is announced of keys without an outcome leaves the old outcomes alone. -/
theorem unique_append (h : Consistent opened announced) (outcome : ω)
    (hnews : ∀ p ∈ news, (∀ o, (p.1, o) ∉ announced) ∧ p.2 = outcome) (k : κ) (o o' : ω)
    (ho : (k, o) ∈ announced ++ news) (ho' : (k, o') ∈ announced ++ news) : o = o' := by
  rcases List.mem_append.mp ho with hold | hnew
  · rcases List.mem_append.mp ho' with hold' | hnew'
    · exact h.unique k o o' hold hold'
    · exact absurd hold ((hnews _ hnew').1 o)
  · rcases List.mem_append.mp ho' with hold' | hnew'
    · exact absurd hold' ((hnews _ hnew).1 o')
    · exact (hnews _ hnew).2.trans (hnews _ hnew').2.symm

theorem close (h : Consistent opened announced) {outcome : ω}
    (hperm : opened.Perm (lost ++ rest)) (hnews : ∀ p ∈ news, p.1 ∈ lost ∧ p.2 = outcome) :
    Consistent rest (announced ++ news) := by
  have hnodup := List.nodup_append.mp (hperm.nodup_iff.mp h.nodup)
  have hmem : ∀ k ∈ lost ++ rest, ∀ o, (k, o) ∉ announced :=
    fun k hk => h.pending k (hperm.mem_iff.mpr hk)
  refine ⟨hnodup.2.1, ?_, h.unique_append outcome ?_⟩
  · intro k hk o ho
    rcases List.mem_append.mp ho with hold | hnew
    · exact hmem k (List.mem_append_right lost hk) o hold
    · exact hnodup.2.2 k (hnews _ hnew).1 k hk rfl
  · intro p hp
    exact ⟨hmem p.1 (List.mem_append_left rest (hnews p hp).1), (hnews p hp).2⟩

theorem insert (h : Consistent opened announced) {k : κ} (hk : Unused opened announced k) :
    Consistent (opened ++ [k]) announced := by
  refine ⟨?_, ?_, h.unique⟩
  · rw [List.nodup_append]
    refine ⟨h.nodup, List.nodup_singleton k, ?_⟩
    rintro a ha b hb rfl
    rw [List.mem_singleton.mp hb] at ha
    exact hk.1 ha
  · intro a ha
    rcases List.mem_append.mp ha with ha | ha
    · exact h.pending a ha
    · rw [List.mem_singleton.mp ha]
      exact hk.2

theorem settle (h : Consistent opened announced) {k : κ} {outcome : ω}
    (hk : Unused opened announced k) (hnews : ∀ p ∈ news, p.1 = k ∧ p.2 = outcome) :
    Consistent opened (announced ++ news) := by
  refine ⟨h.nodup, ?_, h.unique_append outcome ?_⟩
  · intro a ha o ho
    rcases List.mem_append.mp ho with hold | hnew
    · exact h.pending a ha o hold
    · obtain ⟨rfl, -⟩ := hnews _ hnew
      exact hk.1 ha
  · intro p hp
    obtain ⟨hkey, houtcome⟩ := hnews p hp
    rw [hkey]
    exact ⟨hk.2, houtcome⟩

theorem forget (h : Consistent opened announced) : Consistent [] announced :=
  ⟨List.nodup_nil, by simp, h.unique⟩

end Consistent

end Meshtastenstein.Lib.Outcome
