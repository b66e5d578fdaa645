import Meshtastenstein.Lib.Network
/-!
# Progress

Safety says what a run never does, progress what it must do.  Something waits at a rank that no
step raises and that the events of one kind lower, until a goal is reached, which is not lost
again.  Events enough of that kind then reach the goal, whatever else happens between them.
-/

namespace Meshtastenstein.Lib

namespace Transition

variable {σ ε : Type} (step : σ → ε → σ)

/-- What waits goes on waiting, at a rank that the events that help lower, until the goal is
reached. -/
structure Progress (ok : σ → ε → Prop) (helps : ε → Bool) (waits goal : σ → Prop)
    (rank : σ → Nat) : Prop where
  goal_step : ∀ s e, goal s → ok s e → goal (step s e)
  rank_pos : ∀ s, waits s → 0 < rank s
  waits_step : ∀ s e, waits s → ok s e → goal (step s e) ∨
    waits (step s e) ∧ rank (step s e) ≤ rank s ∧ (helps e = true → rank (step s e) < rank s)

variable {step} {ok : σ → ε → Prop} {helps : ε → Bool} {waits goal : σ → Prop} {rank : σ → Nat}

theorem always_append {ok : σ → ε → Prop} {s : σ} {events later : List ε} :
    Always step ok s (events ++ later) ↔
      Always step ok s events ∧ Always step ok (Transition.run step s events) later := by
  unfold Always
  rw [trace_append]
  simp only [List.forall_mem_append]

theorem Progress.goal_run (h : Progress step ok helps waits goal rank) {s : σ} {events : List ε}
    (hgoal : goal s) (hok : Always step ok s events) : goal (run step s events) :=
  invariant_run h.goal_step hgoal hok

/-- The progress rule: as many events that help as the rank says reach the goal. -/
theorem Progress.run (h : Progress step ok helps waits goal rank) {s : σ} {events : List ε}
    (hwaits : waits s) (hok : Always step ok s events) (hcount : rank s ≤ events.countP helps) :
    goal (run step s events) := by
  induction events generalizing s with
  | nil =>
      have hpos := h.rank_pos s hwaits
      rw [List.countP_nil] at hcount
      omega
  | cons e es ih =>
      obtain ⟨he, hes⟩ := always_cons.mp hok
      rcases h.waits_step s e hwaits he with hgoal | ⟨hwaits', hle, hlt⟩
      · have hlater := h.goal_run hgoal hes
        exact hlater
      · apply ih hwaits' hes
        cases hhelps : helps e with
        | false =>
            rw [List.countP_cons_of_neg (by simp [hhelps])] at hcount
            exact Nat.le_trans hle hcount
        | true =>
            rw [List.countP_cons_of_pos hhelps] at hcount
            have hlower := hlt hhelps
            omega

end Transition

/-! ## Progress of a station in a network -/

section

variable {ι σ ε φ μ : Type}

structure Station.Progress (station : Station σ ε φ μ) (frame : φ) (ok : σ → ε → Prop)
    (helps : ε → Bool) (waits goal : σ → Prop) (rank : σ → Nat) : Prop where
  goal_step : ∀ s e, goal s → ok s e → goal (station.step s e) ∨ frame ∈ station.emits s e
  rank_pos : ∀ s, waits s → 0 < rank s
  waits_step : ∀ s e, waits s → ok s e →
    (goal (station.step s e) ∨ frame ∈ station.emits s e) ∨
    waits (station.step s e) ∧ rank (station.step s e) ≤ rank s ∧
      (helps e = true → rank (station.step s e) < rank s)

namespace Network

variable [DecidableEq ι]

def helpsAt (i : ι) (helps : ε → Bool) : Event ι ε μ → Bool
  | .own j event => decide (j = i) && helps event
  | .hear _ _ _ => false

variable {station : Station σ ε φ μ}

theorem move_of_helpsAt {i : ι} {helps : ε → Bool} {net : Network ι σ φ} {event : Event ι ε μ}
    (h : helpsAt i helps event = true) :
    ∃ own, move station net event = some (i, own) ∧ helps own = true := by
  cases event with
  | own j event =>
      obtain ⟨hj, hhelps⟩ := Bool.and_eq_true_iff.mp h
      exact ⟨event, by rw [← of_decide_eq_true hj]; rfl, hhelps⟩
  | hear j k how => cases h

omit [DecidableEq ι] in
theorem move_hear {net : Network ι σ φ} {k : Nat} {frame : φ} (h : net.medium[k]? = some frame)
    (i : ι) (how : μ) :
    move station net (.hear i k how) = some (i, station.hears frame how) := by
  unfold move
  dsimp only
  rw [h, Option.map_some]

theorem stations_of_move {i : ι} {net : Network ι σ φ} {event : Event ι ε μ} {own : ε}
    (h : move station net event = some (i, own)) :
    (step station net event).stations i = station.step (net.stations i) own := by
  rw [step_of_move h]
  exact Function.update_self ..

theorem stations_of_not_move {i : ι} {net : Network ι σ φ} {event : Event ι ε μ}
    (h : ∀ own, move station net event ≠ some (i, own)) :
    (step station net event).stations i = net.stations i := by
  cases hmove : move station net event with
  | none => rw [step_of_idle hmove]
  | some moved =>
      obtain ⟨j, own⟩ := moved
      have hj : i ≠ j := by
        rintro rfl
        exact h own hmove
      rw [step_of_move hmove]
      exact Function.update_of_ne hj _ _

theorem mem_medium_of_move {i : ι} {net : Network ι σ φ} {event : Event ι ε μ} {own : ε}
    (h : move station net event = some (i, own)) {frame : φ}
    (hframe : frame ∈ station.emits (net.stations i) own) :
    frame ∈ (step station net event).medium := by
  rw [step_of_move h]
  exact List.mem_append_right _ hframe

theorem kept_step {frame : φ} {ok : σ → ε → Prop} {goal : σ → Prop}
    (hgoal : ∀ s e, goal s → ok s e → goal (station.step s e) ∨ frame ∈ station.emits s e) (i : ι)
    (net : Network ι σ φ) (event : Event ι ε μ) (h : goal (net.stations i) ∨ frame ∈ net.medium)
    (hok : WhenMoving station ok i net event) :
    goal ((step station net event).stations i) ∨ frame ∈ (step station net event).medium := by
  rcases h with hkept | hmedium
  · by_cases hmoves : ∃ own, move station net event = some (i, own)
    · obtain ⟨own, hmove⟩ := hmoves
      rw [stations_of_move hmove]
      exact (hgoal _ own hkept (hok own hmove)).imp_right (mem_medium_of_move hmove)
    · rw [stations_of_not_move fun own hmove => hmoves ⟨own, hmove⟩]
      exact Or.inl hkept
  · exact Or.inr (medium_subset_run net [event] hmedium)

/-- Whatever the others do, a station makes progress in a network as it does alone. -/
theorem progress {frame : φ} {ok : σ → ε → Prop} {helps : ε → Bool} {waits goal : σ → Prop}
    {rank : σ → Nat} (h : station.Progress frame ok helps waits goal rank) (i : ι) :
    Transition.Progress (step station) (WhenMoving station ok i) (helpsAt i helps)
      (fun net => waits (net.stations i))
      (fun net => goal (net.stations i) ∨ frame ∈ net.medium)
      (fun net => rank (net.stations i)) where
  goal_step := kept_step h.goal_step i
  rank_pos net := h.rank_pos (net.stations i)
  waits_step net event hwaits hok := by
    by_cases hmoves : ∃ own, move station net event = some (i, own)
    · obtain ⟨own, hmove⟩ := hmoves
      rw [stations_of_move hmove]
      rcases h.waits_step _ own hwaits (hok own hmove) with hdone | ⟨hwaits', hle, hlt⟩
      · exact Or.inl (hdone.imp_right (mem_medium_of_move hmove))
      · refine Or.inr ⟨hwaits', hle, fun hhelps => hlt ?_⟩
        obtain ⟨event', hmove', hhelps'⟩ := move_of_helpsAt hhelps
        rw [hmove] at hmove'
        rw [(Prod.mk.inj (Option.some.inj hmove')).2]
        exact hhelps'
    · rw [stations_of_not_move fun own hmove => hmoves ⟨own, hmove⟩]
      refine Or.inr ⟨hwaits, Nat.le_refl _, fun hhelps => ?_⟩
      obtain ⟨own, hmove, -⟩ := @move_of_helpsAt _ _ _ _ _ _ station i helps net event hhelps
      exact absurd ⟨own, hmove⟩ hmoves

omit [DecidableEq ι] in
theorem Along.cons {passes : ι → φ → φ → Prop} {source next frame : φ} {i : ι} {path : List ι}
    (hpass : passes i source next) (h : Along passes next path frame) :
    Along passes source (i :: path) frame := by
  induction h with
  | source => exact .passed .source hpass
  | passed _ hlast ih => exact ih.passed hlast

end Network

end

end Meshtastenstein.Lib
