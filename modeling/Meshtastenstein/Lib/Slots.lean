import Mathlib.Data.Nat.ModEq
import Mathlib.Data.Rat.Defs
import Mathlib.Tactic.Linarith
/-!
# A band cut into slots

Slots of one width side by side from the start of a band, and the centre of each, rounded down.
A number past the last slot goes round.  When not even one slot fits, the centre is the start
of the band.
-/

namespace Meshtastenstein.Lib.Slots

variable {band width index : Nat}

def centre (band width index : Nat) : Nat :=
  if band / width = 0 then 0 else width / 2 + index % (band / width) * width

theorem count_eq_zero_iff (hwidth : 0 < width) : band / width = 0 ↔ ¬ width ≤ band := by
  rw [Nat.div_eq_zero_iff_lt hwidth, Nat.not_le]

theorem centre_of_le (hwidth : 0 < width) (h : width ≤ band) :
    centre band width index = width / 2 + index % (band / width) * width :=
  if_neg fun hzero => (count_eq_zero_iff hwidth).mp hzero h

theorem centre_of_not_le (hwidth : 0 < width) (h : ¬ width ≤ band) :
    centre band width index = 0 :=
  if_pos ((count_eq_zero_iff hwidth).mpr h)

theorem slot_end_le (index : Nat) (hwidth : 0 < width) (h : width ≤ band) :
    index % (band / width) * width + width ≤ band := by
  have hcount : 0 < band / width := Nat.div_pos h hwidth
  calc
    index % (band / width) * width + width = (index % (band / width) + 1) * width := by
      rw [Nat.add_mul, Nat.one_mul]
    _ ≤ band / width * width := Nat.mul_le_mul_right _ (Nat.mod_lt _ hcount)
    _ ≤ band := Nat.div_mul_le_self _ _

theorem centre_le (band width index : Nat) : centre band width index ≤ band := by
  rcases Nat.eq_zero_or_pos width with rfl | hwidth
  · unfold centre
    rw [Nat.div_zero, if_pos rfl]
    exact Nat.zero_le _
  · by_cases h : width ≤ band
    · have hend := slot_end_le index hwidth h
      rw [centre_of_le hwidth h]
      omega
    · rw [centre_of_not_le hwidth h]
      exact Nat.zero_le _

/-- A signal as wide as the slots stays in the band exactly when one slot fits. -/
theorem within_iff (index : Nat) (hband : 0 < band) (hwidth : 0 < width) :
    (width / 2 ≤ centre band width index ∧ centre band width index + width / 2 ≤ band) ↔
      width ≤ band := by
  by_cases h : width ≤ band
  · have hend := slot_end_le index hwidth h
    rw [centre_of_le hwidth h]
    omega
  · rw [centre_of_not_le hwidth h]
    omega

/-- With halves counted, an odd width in the first slot starts half a unit early. -/
theorem within_exact_iff (index : Nat) (hwidth : 0 < width) :
    ((width : ℚ) / 2 ≤ centre band width index ∧
        (centre band width index : ℚ) + width / 2 ≤ band) ↔
      width ≤ band ∧ (2 ∣ width ∨ index % (band / width) ≠ 0) := by
  have hcast : ((width : ℚ) / 2 ≤ centre band width index ∧
        (centre band width index : ℚ) + width / 2 ≤ band) ↔
      width ≤ 2 * centre band width index ∧ 2 * centre band width index + width ≤ 2 * band := by
    have hlow : (width : ℚ) / 2 ≤ centre band width index ↔
        ((width : ℕ) : ℚ) ≤ ((2 * centre band width index : ℕ) : ℚ) := by
      rw [div_le_iff₀ (by norm_num), Nat.cast_mul, mul_comm]
      rfl
    have hhigh : (centre band width index : ℚ) + width / 2 ≤ band ↔
        ((2 * centre band width index + width : ℕ) : ℚ) ≤ ((2 * band : ℕ) : ℚ) := by
      push_cast
      constructor <;> intro h <;> linarith
    rw [hlow, hhigh, Nat.cast_le, Nat.cast_le]
  rw [hcast]
  by_cases h : width ≤ band
  · have hend := slot_end_le index hwidth h
    rw [centre_of_le hwidth h]
    generalize index % (band / width) = slot at hend ⊢
    rcases Nat.eq_zero_or_pos slot with rfl | hslot
    · omega
    · have hle : width ≤ slot * width := Nat.le_mul_of_pos_left width hslot
      omega
  · rw [centre_of_not_le hwidth h]
    omega

/-- Reducing to one number of slots and then to another is reducing to the other alone exactly
when the other divides what the first reduction takes away. -/
theorem mod_mod_eq_iff (n count count' : Nat) :
    n % count % count' = n % count' ↔ count' ∣ count * (n / count) := by
  have hsplit : n - n % count = count * (n / count) := by
    have hdiv := Nat.div_add_mod n count
    omega
  rw [← hsplit, ← Nat.modEq_iff_dvd' (Nat.mod_le n count)]
  rfl

end Meshtastenstein.Lib.Slots
