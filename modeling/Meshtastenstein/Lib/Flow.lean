import Meshtastenstein.Lib.Transition
/-!
# What goes in and what comes out

Two ways to account for a run by what the system holds.  A pipeline lets out what it took in, in
order.  A system with a potential pays for the cost of its steps out of what comes in.
-/

namespace Meshtastenstein.Lib.Transition

variable {σ ε β : Type} (step : σ → ε → σ)

/-! ## Pipelines -/

/-- The pipeline rule: what came out, and then what is still held, is what was held at first
and what came in since. -/
theorem observed_pipeline {output input : σ → ε → List β} (held : σ → List β)
    (hstep : ∀ s e, output s e ++ held (step s e) = held s ++ input s e) (s : σ)
    (events : List ε) :
    observed step output s events ++ held (run step s events) =
      held s ++ observed step input s events := by
  induction events generalizing s with
  | nil => exact (List.append_nil _).symm
  | cons e es ih =>
      calc
        observed step output s (e :: es) ++ held (run step s (e :: es)) =
            output s e ++ (observed step output (step s e) es ++
              held (run step (step s e) es)) := List.append_assoc _ _ _
        _ = (output s e ++ held (step s e)) ++ observed step input (step s e) es := by
          rw [ih, List.append_assoc]
        _ = held s ++ observed step input s (e :: es) := by
          rw [hstep, List.append_assoc, observed_cons]

theorem observed_sublist {output input : σ → ε → List β} (held : σ → List β)
    (hstep : ∀ s e, (output s e ++ held (step s e)).Sublist (held s ++ input s e)) (s : σ)
    (events : List ε) :
    (observed step output s events ++ held (run step s events)).Sublist
      (held s ++ observed step input s events) := by
  induction events generalizing s with
  | nil => exact List.sublist_append_left _ _
  | cons e es ih =>
      have hfirst := (hstep s e).append_right (observed step input (step s e) es)
      have hrest := (ih (step s e)).append_left (output s e)
      rw [List.append_assoc, List.append_assoc] at hfirst
      have hrun : run step s (e :: es) = run step (step s e) es := rfl
      rw [observed_cons, observed_cons, hrun, List.append_assoc]
      exact hrest.trans hfirst

/-! ## Potentials -/

def spent (cost : σ → ε → Nat) : σ → List ε → Nat
  | _, [] => 0
  | s, e :: es => cost s e + spent cost (step s e) es

variable {step}

theorem spent_cons (cost : σ → ε → Nat) (s : σ) (e : ε) (es : List ε) :
    spent step cost s (e :: es) = cost s e + spent step cost (step s e) es := rfl

/-- The potential rule: when every step pays its cost out of what comes in and what the
potential loses, so does a run. -/
theorem spent_add_potential_le {cost income : σ → ε → Nat} (potential : σ → Nat)
    (hstep : ∀ s e, cost s e + potential (step s e) ≤ income s e + potential s) (s : σ)
    (events : List ε) :
    spent step cost s events + potential (run step s events) ≤
      spent step income s events + potential s := by
  induction events generalizing s with
  | nil => exact Nat.le_refl _
  | cons e es ih =>
      have hfirst := hstep s e
      have hrest := ih (step s e)
      have hrun : run step s (e :: es) = run step (step s e) es := rfl
      rw [spent_cons, spent_cons, hrun]
      omega

theorem spent_le_spent {cost cost' : σ → ε → Nat} (h : ∀ s e, cost s e ≤ cost' s e) (s : σ)
    (events : List ε) : spent step cost s events ≤ spent step cost' s events :=
  spent_add_potential_le (fun _ => 0) h s events

theorem spent_add (cost cost' : σ → ε → Nat) (s : σ) (events : List ε) :
    spent step (fun s e => cost s e + cost' s e) s events =
      spent step cost s events + spent step cost' s events := by
  induction events generalizing s with
  | nil => rfl
  | cons e es ih =>
      rw [spent_cons, spent_cons, spent_cons, ih]
      omega

theorem spent_mul (price : Nat) (cost : σ → ε → Nat) (s : σ) (events : List ε) :
    spent step (fun s e => price * cost s e) s events = price * spent step cost s events := by
  induction events generalizing s with
  | nil => rfl
  | cons e es ih => rw [spent_cons, spent_cons, ih, Nat.mul_add]

theorem spent_length (f : σ → ε → List β) (s : σ) (events : List ε) :
    spent step (fun s e => (f s e).length) s events = (observed step f s events).length := by
  induction events generalizing s with
  | nil => rfl
  | cons e es ih => rw [spent_cons, observed_cons, ih, List.length_append]

end Meshtastenstein.Lib.Transition
