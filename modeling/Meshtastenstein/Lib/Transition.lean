import Mathlib.Data.List.Induction
/-!
# Runs of a step function

A system is a total step function over events.  A run is a list of events, its
trace the list of steps taken.  Invariants are proved for one step and carried
over runs by the rules of this module, also for runs whose steps are all known
to meet a side condition.
-/

namespace Meshtastenstein.Lib

structure Step (σ ε : Type) where
  before : σ
  event : ε
  after : σ

namespace Transition

variable {σ ε : Type} (step : σ → ε → σ)

def run (s : σ) (events : List ε) : σ :=
  events.foldl step s

/-- The steps taken over a list of events. -/
def trace (s : σ) : List ε → List (Step σ ε)
  | [] => []
  | e :: es => ⟨s, e, step s e⟩ :: trace (step s e) es

/-- Every step of the run meets the condition `ok` on its event and the state
before it. -/
def Always (ok : σ → ε → Prop) (s : σ) (events : List ε) : Prop :=
  ∀ t ∈ trace step s events, ok t.before t.event

instance (ok : σ → ε → Prop) [∀ s e, Decidable (ok s e)] (s : σ) (events : List ε) :
    Decidable (Always step ok s events) :=
  inferInstanceAs (Decidable (∀ t ∈ trace step s events, ok t.before t.event))

/-- What the steps of a run let be seen, in order. -/
def observed {β : Type} (f : σ → ε → List β) (s : σ) (events : List ε) : List β :=
  (trace step s events).flatMap fun t => f t.before t.event

variable {step}

theorem run_append (s : σ) (events later : List ε) :
    run step s (events ++ later) = run step (run step s events) later :=
  List.foldl_append

theorem trace_append (s : σ) (events later : List ε) :
    trace step s (events ++ later) =
      trace step s events ++ trace step (run step s events) later := by
  induction events generalizing s with
  | nil => rfl
  | cons e es ih =>
      rw [List.cons_append, trace, ih]
      rfl

theorem event_mem_of_mem_trace {s : σ} {events : List ε} {t : Step σ ε}
    (h : t ∈ trace step s events) : t.event ∈ events := by
  induction events generalizing s with
  | nil => cases h
  | cons e es ih =>
      rcases List.mem_cons.mp h with rfl | h
      · exact List.mem_cons_self
      · exact List.mem_cons_of_mem _ (ih h)

theorem forall_trace_concat {P : Step σ ε → Prop} {s : σ} {events : List ε} {e : ε}
    (h : ∀ t ∈ trace step s (events ++ [e]), P t) :
    P ⟨run step s events, e, step (run step s events) e⟩ := by
  apply h
  rw [trace_append]
  exact List.mem_append_right _ (List.mem_singleton_self _)

theorem observed_append {β : Type} (f : σ → ε → List β) (s : σ) (events later : List ε) :
    observed step f s (events ++ later) =
      observed step f s events ++ observed step f (run step s events) later := by
  unfold observed
  rw [trace_append, List.flatMap_append]

theorem observed_cons {β : Type} (f : σ → ε → List β) (s : σ) (e : ε) (es : List ε) :
    observed step f s (e :: es) = f s e ++ observed step f (step s e) es := rfl

theorem observed_singleton {β : Type} (f : σ → ε → List β) (s : σ) (e : ε) :
    observed step f s [e] = f s e := List.append_nil _

theorem filter_observed {β : Type} (p : β → Bool) (f : σ → ε → List β) (s : σ)
    (events : List ε) :
    (observed step f s events).filter p = observed step (fun s e => (f s e).filter p) s events :=
  List.filter_flatMap

theorem always_of_forall {ok : ε → Prop} {events : List ε} (h : ∀ e ∈ events, ok e) (s : σ) :
    Always step (fun _ e => ok e) s events := by
  induction events generalizing s with
  | nil =>
      intro t ht
      cases ht
  | cons e es ih =>
      intro t ht
      rcases List.mem_cons.mp ht with rfl | ht
      · exact h e List.mem_cons_self
      · exact ih (fun e he => h e (List.mem_cons_of_mem _ he)) _ t ht

theorem Always.and {ok ok' : σ → ε → Prop} {s : σ} {events : List ε}
    (h : Always step ok s events) (h' : Always step ok' s events) :
    Always step (fun s e => ok s e ∧ ok' s e) s events :=
  fun t ht => ⟨h t ht, h' t ht⟩

theorem always_cons {ok : σ → ε → Prop} {s : σ} {e : ε} {es : List ε} :
    Always step ok s (e :: es) ↔ ok s e ∧ Always step ok (step s e) es := by
  simp [Always, trace]

theorem Always.of_append {ok : σ → ε → Prop} {s : σ} {events later : List ε}
    (h : Always step ok s (events ++ later)) : Always step ok s events := by
  intro t ht
  apply h t
  rw [trace_append]
  exact List.mem_append_left _ ht

theorem map_observed {β γ : Type} (g : β → γ) (f : σ → ε → List β) (s : σ) (events : List ε) :
    (observed step f s events).map g = observed step (fun s e => (f s e).map g) s events :=
  List.map_flatMap

theorem flatMap_observed {β γ : Type} (g : β → List γ) (f : σ → ε → List β) (s : σ)
    (events : List ε) :
    (observed step f s events).flatMap g =
      observed step (fun s e => (f s e).flatMap g) s events :=
  List.flatMap_assoc

/-- Two ways of watching that agree on the steps of a run see the same of it. -/
theorem observed_congr {β : Type} {ok : σ → ε → Prop} {f g : σ → ε → List β}
    (h : ∀ s e, ok s e → f s e = g s e) {s : σ} {events : List ε}
    (hok : Always step ok s events) : observed step f s events = observed step g s events := by
  induction events generalizing s with
  | nil => rfl
  | cons e es ih =>
      obtain ⟨he, hes⟩ := always_cons.mp hok
      rw [observed_cons, observed_cons, h s e he, ih hes]

section

variable {τ δ : Type} {step' : τ → δ → τ} (view : σ → τ) {inputs : σ → ε → List δ}

/-- The refinement rule with a side condition on the steps: when each of them is, in a view, a
run of another system on inputs of its own, so is the whole run. -/
theorem run_view_of_always {ok : σ → ε → Prop}
    (hstep : ∀ s e, ok s e → view (step s e) = run step' (view s) (inputs s e)) {s : σ}
    {events : List ε} (hok : Always step ok s events) :
    view (run step s events) = run step' (view s) (observed step inputs s events) := by
  induction events generalizing s with
  | nil => rfl
  | cons e es ih =>
      obtain ⟨he, hes⟩ := always_cons.mp hok
      calc
        view (run step s (e :: es)) =
            run step' (view (step s e)) (observed step inputs (step s e) es) := ih hes
        _ = run step' (view s) (observed step inputs s (e :: es)) := by
          rw [hstep s e he, observed_cons, run_append]

theorem observed_view_of_always {β : Type} {ok : σ → ε → Prop} {f : σ → ε → List β}
    {g : τ → δ → List β}
    (hstep : ∀ s e, ok s e → view (step s e) = run step' (view s) (inputs s e))
    (hsee : ∀ s e, ok s e → f s e = observed step' g (view s) (inputs s e)) {s : σ}
    {events : List ε} (hok : Always step ok s events) :
    observed step f s events = observed step' g (view s) (observed step inputs s events) := by
  induction events generalizing s with
  | nil => rfl
  | cons e es ih =>
      obtain ⟨he, hes⟩ := always_cons.mp hok
      rw [observed_cons, observed_cons, observed_append, ← hsee s e he, ← hstep s e he, ih hes]

/-- The refinement rule: when every step of a system is, in a view, a run of another system
on inputs of its own, so is every run. -/
theorem run_view (hstep : ∀ s e, view (step s e) = run step' (view s) (inputs s e)) (s : σ)
    (events : List ε) :
    view (run step s events) = run step' (view s) (observed step inputs s events) :=
  run_view_of_always view (fun s e _ => hstep s e) (always_of_forall (fun _ _ => trivial) s)

theorem observed_view {β : Type} {f : σ → ε → List β} {g : τ → δ → List β}
    (hstep : ∀ s e, view (step s e) = run step' (view s) (inputs s e))
    (hsee : ∀ s e, f s e = observed step' g (view s) (inputs s e)) (s : σ) (events : List ε) :
    observed step f s events = observed step' g (view s) (observed step inputs s events) :=
  observed_view_of_always view (fun s e _ => hstep s e) (fun s e _ => hsee s e)
    (always_of_forall (fun _ _ => trivial) s)

end

/-- The simulation rule: when from related states every step is matched by a run of another
system in which the same is seen, so is every run. -/
theorem simulation_run {τ δ β : Type} {step' : τ → δ → τ} {rel : σ → τ → Prop}
    {f : σ → ε → List β} {g : τ → δ → List β}
    (hstep : ∀ s t e, rel s t → ∃ inputs, rel (step s e) (run step' t inputs) ∧
      f s e = observed step' g t inputs) {s : σ} {t : τ} (h : rel s t) (events : List ε) :
    ∃ inputs, rel (run step s events) (run step' t inputs) ∧
      observed step f s events = observed step' g t inputs := by
  induction events generalizing s t with
  | nil => exact ⟨[], h, rfl⟩
  | cons e es ih =>
      obtain ⟨inputs, hrel, hseen⟩ := hstep s t e h
      obtain ⟨later, hrelLater, hseenLater⟩ := ih hrel
      refine ⟨inputs ++ later, ?_, ?_⟩
      · rw [run_append]
        exact hrelLater
      · rw [observed_cons, observed_append, hseen, hseenLater]

theorem run_project {τ : Type} {step' : τ → ε → τ} {part : σ → τ}
    (hstep : ∀ s e, part (step s e) = step' (part s) e) (s : σ) (events : List ε) :
    part (run step s events) = run step' (part s) events := by
  induction events generalizing s with
  | nil => rfl
  | cons e es ih =>
      calc
        part (run step s (e :: es)) = run step' (part (step s e)) es := ih (step s e)
        _ = run step' (part s) (e :: es) := by
          rw [hstep]
          rfl

/-- The part rule: a part of the state that only some events move, as a function of itself, is
after a run what those events alone make of it. -/
theorem part_run {τ : Type} {part : σ → τ} {moves : ε → Bool}
    (hmoves : ∀ s s' e, moves e = true → part s = part s' → part (step s e) = part (step s' e))
    (hkeeps : ∀ s e, moves e = false → part (step s e) = part s) {s s' : σ}
    (h : part s = part s') (events : List ε) :
    part (run step s events) = part (run step s' (events.filter moves)) := by
  induction events generalizing s s' with
  | nil => exact h
  | cons e es ih =>
      cases hmove : moves e with
      | true =>
          rw [List.filter_cons_of_pos hmove]
          exact ih (hmoves s s' e hmove h)
      | false =>
          rw [List.filter_cons_of_neg (by simp [hmove])]
          exact ih ((hkeeps s e hmove).trans h)

theorem invariant_run {inv : σ → Prop} {ok : σ → ε → Prop}
    (hstep : ∀ s e, inv s → ok s e → inv (step s e))
    {s : σ} {events : List ε} (hinit : inv s) (hok : Always step ok s events) :
    inv (run step s events) := by
  induction events generalizing s with
  | nil => exact hinit
  | cons e es ih =>
      obtain ⟨he, hes⟩ := always_cons.mp hok
      exact ih (hstep s e hinit he) hes

theorem related_run {τ : Type} {step' : τ → ε → τ} {rel : σ → τ → Prop}
    (hstep : ∀ s t e, rel s t → rel (step s e) (step' t e)) {s : σ} {t : τ} (h : rel s t)
    (events : List ε) : rel (run step s events) (run step' t events) := by
  induction events generalizing s t with
  | nil => exact h
  | cons e es ih => exact ih (hstep s t e h)

/-- Two conditions that agree in the states of an invariant, which either condition keeps up,
hold of the same runs, among those whose steps meet a side condition. -/
theorem always_congr_of_always {inv : σ → Prop} {side ok ok' : σ → ε → Prop}
    (hiff : ∀ s e, inv s → side s e → (ok s e ↔ ok' s e))
    (hstep : ∀ s e, inv s → side s e → ok' s e → inv (step s e))
    {s : σ} {events : List ε} (hinit : inv s) (hside : Always step side s events) :
    Always step ok s events ↔ Always step ok' s events := by
  induction events generalizing s with
  | nil => exact iff_of_true (fun _ ht => nomatch ht) (fun _ ht => nomatch ht)
  | cons e es ih =>
      obtain ⟨he, hes⟩ := always_cons.mp hside
      rw [always_cons, always_cons, hiff s e hinit he]
      exact and_congr_right fun hok => ih (hstep s e hinit he hok) hes

theorem always_congr {inv : σ → Prop} {ok ok' : σ → ε → Prop}
    (hiff : ∀ s e, inv s → (ok s e ↔ ok' s e))
    (hstep : ∀ s e, inv s → ok' s e → inv (step s e))
    {s : σ} {events : List ε} (hinit : inv s) :
    Always step ok s events ↔ Always step ok' s events :=
  always_congr_of_always (fun s e h _ => hiff s e h) (fun s e h _ => hstep s e h) hinit
    (always_of_forall (fun _ _ => trivial) s)

/-- The accounting rule: when every step pays for what it lets be seen out of what it
takes in and what is in stock, so does a run. -/
theorem countP_observed_le {β γ : Type} {f : σ → ε → List β} {g : σ → ε → List γ}
    {p : β → Bool} {q : γ → Bool} {ok : σ → ε → Prop} (stock : σ → Nat)
    (hstep : ∀ s e, ok s e →
      (f s e).countP p + stock (step s e) ≤ (g s e).countP q + stock s)
    {s : σ} {events : List ε} (hok : Always step ok s events) :
    (observed step f s events).countP p + stock (run step s events) ≤
      (observed step g s events).countP q + stock s := by
  induction events generalizing s with
  | nil => exact Nat.le_refl _
  | cons e es ih =>
      obtain ⟨he, hes⟩ := always_cons.mp hok
      have hfirst := hstep s e he
      have hrest := ih hes
      have hrun : run step s (e :: es) = run step (step s e) es := rfl
      rw [observed_cons, observed_cons, List.countP_append, List.countP_append, hrun]
      omega

/-- The invariant rule for what a run lets be seen, with a side condition on every step and
what was seen before it. -/
theorem invariant_observed {β : Type} {f : σ → ε → List β} {inv : σ → List β → Prop}
    {ok : σ → List β → ε → Prop}
    (hstep : ∀ s seen e, inv s seen → ok s seen e → inv (step s e) (seen ++ f s e))
    {s : σ} {events : List ε} (hinit : inv s [])
    (hok : ∀ earlier e later, events = earlier ++ e :: later →
      ok (run step s earlier) (observed step f s earlier) e) :
    inv (run step s events) (observed step f s events) := by
  induction events using List.reverseRecOn with
  | nil => exact hinit
  | append_singleton events e ih =>
      have hearlier : inv (run step s events) (observed step f s events) := by
        apply ih
        intro earlier e' later hsplit
        apply hok earlier e' (later ++ [e])
        rw [hsplit, List.append_assoc, List.cons_append]
      have hlast := hstep _ _ e hearlier (hok events e [] rfl)
      rw [run_append, observed_append, observed_cons]
      have hend : observed step f (step (run step s events) e) [] = [] := rfl
      rw [hend, List.append_nil]
      exact hlast

/-- Every step of a run starts in a state that satisfies the invariant and
arrives where the step function says. -/
theorem forall_trace {inv : σ → Prop} {ok : σ → ε → Prop}
    {P : Step σ ε → Prop}
    (hstep : ∀ s e, inv s → ok s e → inv (step s e))
    (hP : ∀ s e, inv s → ok s e → P ⟨s, e, step s e⟩)
    {s : σ} {events : List ε} (hinit : inv s) (hok : Always step ok s events) :
    ∀ t ∈ trace step s events, P t := by
  induction events generalizing s with
  | nil => simp [trace]
  | cons e es ih =>
      obtain ⟨he, hes⟩ := always_cons.mp hok
      intro t ht
      rcases List.mem_cons.mp ht with rfl | ht
      · exact hP s e hinit he
      · exact ih (hstep s e hinit he) hes t ht

/-! ## What no step breaks -/

theorem preserved_run {inv : σ → Prop} (hstep : ∀ s e, inv s → inv (step s e)) {s : σ}
    (hinit : inv s) (events : List ε) : inv (run step s events) := by
  induction events generalizing s with
  | nil => exact hinit
  | cons e es ih => exact ih (hstep s e hinit)

theorem preserved_trace {inv : σ → Prop} (hstep : ∀ s e, inv s → inv (step s e)) {s : σ}
    (hinit : inv s) (events : List ε) : ∀ t ∈ trace step s events, inv t.before := by
  induction events generalizing s with
  | nil => simp [trace]
  | cons e es ih =>
      intro t ht
      rcases List.mem_cons.mp ht with rfl | ht
      · exact hinit
      · exact ih (hstep s e hinit) t ht

end Transition

end Meshtastenstein.Lib
