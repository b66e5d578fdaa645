import Mathlib.Algebra.BigOperators.Group.List.Basic
import Mathlib.Algebra.Order.Field.Rat
import Mathlib.Algebra.Order.Field.Basic
import Mathlib.Data.Nat.Cast.Order.Field
/-!
# Metering a flow

Amounts that arrive over time.  A meter adds up what arrived since it was last reset and
divides by its age.  The trailing rate divides what arrived over a fixed span, up to now,
by that span.  The meter can read low in two ways: what it dropped at its reset is still in
the span, or it is older than the span and what it counted came late.
-/

namespace Meshtastenstein.Lib

structure Arrival where
  time : Nat
  amount : Nat

namespace Arrival

def total (arrivals : List Arrival) : Nat := (arrivals.map (·.amount)).sum

def recent (now span : Nat) (arrivals : List Arrival) : List Arrival :=
  arrivals.filter fun a => decide (now ≤ a.time + span)

def stale (now span : Nat) (arrivals : List Arrival) : List Arrival :=
  arrivals.filter fun a => !decide (now ≤ a.time + span)

@[simp] theorem total_nil : total [] = 0 := rfl

theorem total_append (arrivals later : List Arrival) :
    total (arrivals ++ later) = total arrivals + total later := by
  unfold total
  rw [List.map_append, List.sum_append]

theorem recent_append (now span : Nat) (arrivals later : List Arrival) :
    recent now span (arrivals ++ later) = recent now span arrivals ++ recent now span later :=
  List.filter_append arrivals later

theorem total_recent_add_total_stale (now span : Nat) (arrivals : List Arrival) :
    total (recent now span arrivals) + total (stale now span arrivals) = total arrivals := by
  unfold recent stale
  induction arrivals with
  | nil => rfl
  | cons a arrivals ih =>
      unfold total at *
      by_cases hrecent : now ≤ a.time + span
      · simp [hrecent] at *
        omega
      · simp [hrecent] at *
        omega

theorem recent_eq_self {now span : Nat} {arrivals : List Arrival}
    (h : ∀ a ∈ arrivals, now ≤ a.time + span) : recent now span arrivals = arrivals :=
  List.filter_eq_self.mpr fun a ha => decide_eq_true (h a ha)

theorem recent_eq_nil {now span : Nat} {arrivals : List Arrival}
    (h : ∀ a ∈ arrivals, a.time + span < now) : recent now span arrivals = [] :=
  List.filter_eq_nil_iff.mpr fun a ha hrecent =>
    Nat.not_le.mpr (h a ha) (of_decide_eq_true hrecent)

end Arrival

structure Meter where
  start : Nat
  dropped : List Arrival
  counted : List Arrival

namespace Meter

open Arrival

variable {meter : Meter} {now later span : Nat}

def new (now : Nat) : Meter := ⟨now, [], []⟩

def count (meter : Meter) (arrivals : List Arrival) : Meter :=
  { meter with counted := meter.counted ++ arrivals }

def reset (meter : Meter) (now : Nat) : Meter :=
  ⟨now, meter.dropped ++ meter.counted, []⟩

def age (meter : Meter) (now : Nat) : Nat := max 1 (now - meter.start)

def trailing (meter : Meter) (now span : Nat) : Nat :=
  total (recent now span (meter.dropped ++ meter.counted))

structure InOrder (meter : Meter) (now : Nat) : Prop where
  dropped_le : ∀ a ∈ meter.dropped, a.time ≤ meter.start
  le_counted : ∀ a ∈ meter.counted, meter.start ≤ a.time
  counted_le : ∀ a ∈ meter.counted, a.time ≤ now
  start_le : meter.start ≤ now

theorem inOrder_new (now : Nat) : (new now).InOrder now where
  dropped_le := fun _ ha => nomatch ha
  le_counted := fun _ ha => nomatch ha
  counted_le := fun _ ha => nomatch ha
  start_le := Nat.le_refl now

theorem InOrder.count (h : meter.InOrder now) {arrivals : List Arrival}
    (harrivals : ∀ a ∈ arrivals, now ≤ a.time ∧ a.time ≤ later) (hle : now ≤ later) :
    (meter.count arrivals).InOrder later where
  dropped_le := h.dropped_le
  le_counted := by
    intro a ha
    rcases List.mem_append.mp ha with ha | ha
    · exact h.le_counted a ha
    · exact Nat.le_trans h.start_le (harrivals a ha).1
  counted_le := by
    intro a ha
    rcases List.mem_append.mp ha with ha | ha
    · exact Nat.le_trans (h.counted_le a ha) hle
    · exact (harrivals a ha).2
  start_le := Nat.le_trans h.start_le hle

theorem InOrder.reset (h : meter.InOrder now) : (meter.reset now).InOrder now where
  dropped_le := by
    intro a ha
    rcases List.mem_append.mp ha with ha | ha
    · exact Nat.le_trans (h.dropped_le a ha) h.start_le
    · exact h.counted_le a ha
  le_counted := fun _ ha => nomatch ha
  counted_le := fun _ ha => nomatch ha
  start_le := Nat.le_refl now

/-- A young meter keeps up when it counted enough beyond what it dropped, an old one when
enough of what it counted is stale. -/
def KeepsUp (meter : Meter) (now span : Nat) : Prop :=
  if meter.age now ≤ span then
    total (recent now span meter.dropped) * meter.age now ≤
      total meter.counted * (span - meter.age now)
  else
    total (recent now span meter.counted) * (meter.age now - span) ≤
      total (stale now span meter.counted) * span

theorem trailing_mul_age_le_iff (h : meter.InOrder now) (hspan : 0 < span) :
    meter.trailing now span * meter.age now ≤ total meter.counted * span ↔
      meter.KeepsUp now span := by
  unfold KeepsUp trailing
  rw [recent_append, total_append]
  by_cases hyoung : meter.age now ≤ span
  · -- everything it counted is recent
    have hstart : now ≤ meter.start + span := by
      unfold age at hyoung
      omega
    have hrecent : recent now span meter.counted = meter.counted :=
      recent_eq_self fun a ha => by
        have hcounted := h.le_counted a ha
        omega
    rw [if_pos hyoung, hrecent, Nat.add_mul, Nat.mul_sub]
    have hle : total meter.counted * meter.age now ≤ total meter.counted * span :=
      Nat.mul_le_mul_left _ hyoung
    omega
  · -- everything it dropped is stale
    have hage : meter.start + span < now := by
      unfold age at hyoung
      omega
    have hrecent : recent now span meter.dropped = [] :=
      recent_eq_nil fun a ha => by
        have hdropped := h.dropped_le a ha
        omega
    have hcounted := total_recent_add_total_stale now span meter.counted
    have hle : total (recent now span meter.counted) * span ≤
        total (recent now span meter.counted) * meter.age now :=
      Nat.mul_le_mul_left _ (Nat.le_of_not_le hyoung)
    rw [if_neg hyoung, hrecent, total_nil, Nat.zero_add, ← hcounted, Nat.add_mul, Nat.mul_sub]
    omega

theorem trailing_div_le_iff (h : meter.InOrder now) (hspan : 0 < span) :
    (meter.trailing now span : ℚ) / span ≤ (total meter.counted : ℚ) / meter.age now ↔
      meter.KeepsUp now span := by
  have hage : 0 < meter.age now := Nat.lt_of_lt_of_le Nat.zero_lt_one (Nat.le_max_left _ _)
  rw [div_le_div_iff₀ (Nat.cast_pos.mpr hspan) (Nat.cast_pos.mpr hage)]
  rw [← trailing_mul_age_le_iff h hspan]
  exact_mod_cast Iff.rfl

end Meter

end Meshtastenstein.Lib
