import Mathlib.Algebra.Group.Nat.Defs
import Mathlib.Data.List.Nodup
import Mathlib.Data.Nat.Basic
/-!
# Machine words and what does not fit them

Arithmetic on 32-bit words in a build that wraps a result around and in one that stops.
Division by zero stops either.  Where the natural number fits, the builds agree and the word
is that number.  A counter that wraps around returns no id twice before it has gone all the way.
-/

namespace Meshtastenstein.Lib

/-- What a build does with a result that does not fit its word. -/
inductive Overflow
  | wraps
  | stops
deriving DecidableEq

namespace Overflow

variable {mode : Overflow} {a b r : UInt32}

def keep (mode : Overflow) (word : UInt32) (value : Nat) : Option UInt32 :=
  match mode with
  | wraps => some word
  | stops => if value < UInt32.size then some word else none

def add (mode : Overflow) (a b : UInt32) : Option UInt32 := mode.keep (a + b) (a.toNat + b.toNat)

def mul (mode : Overflow) (a b : UInt32) : Option UInt32 := mode.keep (a * b) (a.toNat * b.toNat)

def sub (mode : Overflow) (a b : UInt32) : Option UInt32 :=
  match mode with
  | wraps => some (a - b)
  | stops => if b ≤ a then some (a - b) else none

def div (a b : UInt32) : Option UInt32 := if b = 0 then none else some (a / b)

def rem (a b : UInt32) : Option UInt32 := if b = 0 then none else some (a % b)

def Computes (result : Option UInt32) (value : Nat) : Prop :=
  ∃ word, result = some word ∧ word.toNat = value

theorem Computes.eq_some {result : Option UInt32} {value : Nat} (h : Computes result value) :
    result = some (UInt32.ofNat value) := by
  obtain ⟨word, hsome, hvalue⟩ := h
  rw [hsome, ← hvalue, UInt32.ofNat_toNat]

theorem keep_of_lt {word : UInt32} {value : Nat} (h : value < UInt32.size) :
    mode.keep word value = some word := by
  cases mode with
  | wraps => rfl
  | stops => exact if_pos h

/-! ## Results that fit -/

theorem computes_add (mode : Overflow) (h : a.toNat + b.toNat < UInt32.size) :
    Computes (mode.add a b) (a.toNat + b.toNat) :=
  ⟨a + b, keep_of_lt h, (UInt32.toNat_add a b).trans (Nat.mod_eq_of_lt h)⟩

theorem computes_mul (mode : Overflow) (h : a.toNat * b.toNat < UInt32.size) :
    Computes (mode.mul a b) (a.toNat * b.toNat) :=
  ⟨a * b, keep_of_lt h, (UInt32.toNat_mul a b).trans (Nat.mod_eq_of_lt h)⟩

theorem computes_sub (mode : Overflow) (h : b ≤ a) :
    Computes (mode.sub a b) (a.toNat - b.toNat) := by
  refine ⟨a - b, ?_, UInt32.toNat_sub_of_le a b h⟩
  cases mode with
  | wraps => rfl
  | stops => exact if_pos h

theorem computes_div (h : b ≠ 0) : Computes (div a b) (a.toNat / b.toNat) :=
  ⟨a / b, if_neg h, UInt32.toNat_div a b⟩

theorem computes_rem (h : b ≠ 0) : Computes (rem a b) (a.toNat % b.toNat) :=
  ⟨a % b, if_neg h, UInt32.toNat_mod a b⟩

/-! ## Results that do not -/

theorem mul_stops_eq_none (h : UInt32.size ≤ a.toNat * b.toNat) : stops.mul a b = none :=
  if_neg (Nat.not_lt.mpr h)

end Overflow

/-! ## Ids drawn from a wrapping counter

A 32-bit counter that is bumped before every draw.  As long as it has not gone all the
way round, no two draws return the same id.
-/

def drawnIds (counter : UInt32) (k : Nat) : List UInt32 :=
  (List.range k).map fun i => counter + UInt32.ofNat (i + 1)

theorem drawnIds_add (counter : UInt32) (k l : Nat) :
    drawnIds counter (k + l) =
      drawnIds counter k ++ drawnIds (counter + UInt32.ofNat k) l := by
  unfold drawnIds
  rw [List.range_add, List.map_append, List.map_map]
  congr 1
  apply List.map_congr_left
  intro i _
  simp only [Function.comp_apply, UInt32.ofNat_add, UInt32.add_assoc]

theorem nodup_drawnIds (counter : UInt32) {k : Nat} (h : k ≤ 2 ^ 32) :
    (drawnIds counter k).Nodup := by
  unfold drawnIds
  refine List.Nodup.map_on ?_ List.nodup_range
  intro i hi j hj heq
  rw [List.mem_range] at hi hj
  have hword : UInt32.ofNat (i + 1) = UInt32.ofNat (j + 1) := (UInt32.add_right_inj counter).mp heq
  have hnat := congrArg UInt32.toNat hword
  rw [UInt32.toNat_ofNat', UInt32.toNat_ofNat'] at hnat
  omega

/-- What the counter has moved tells how many ids were drawn. -/
theorem toNat_sub_of_draws {counter counter' : UInt32} {k : Nat}
    (h : counter' = counter + UInt32.ofNat k) (hk : k < 2 ^ 32) :
    (counter' - counter).toNat = k := by
  rw [h, UInt32.add_comm, UInt32.add_sub_cancel, UInt32.toNat_ofNat', Nat.mod_eq_of_lt hk]

/-- A counter that is where it started has not been drawn from, or gone all the way
round. -/
theorem eq_zero_of_draws {counter : UInt32} {k : Nat}
    (h : counter = counter + UInt32.ofNat k) (hk : k < 2 ^ 32) : k = 0 := by
  rw [← toNat_sub_of_draws h hk, UInt32.sub_self]
  rfl

end Meshtastenstein.Lib
