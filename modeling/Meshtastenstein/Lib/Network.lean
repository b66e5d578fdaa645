import Mathlib.Algebra.BigOperators.Group.Finset.Basic
import Mathlib.Data.Fintype.Basic
import Meshtastenstein.Lib.Transition
/-!
# Networks over a shared medium

Stations of one kind hear each other over a medium.  Whatever was ever emitted may be heard by
any station at any later time, any number of times or never, and from the outside a station may
hear anything.  In such a network every station runs as it would alone, on the events that
come its way, and every frame on the medium can be traced back to where it came from.
-/

namespace Meshtastenstein.Lib

open scoped BigOperators

structure Station (σ ε φ μ : Type) where
  step : σ → ε → σ
  /-- The frames that a step puts on the medium. -/
  emits : σ → ε → List φ
  /-- The event of hearing a frame, under circumstances of the reception. -/
  hears : φ → μ → ε
  /-- The frame that is heard in an event. -/
  heard : ε → Option φ
  heard_hears : ∀ frame how, heard (hears frame how) = some frame

/-- Stations around a medium, which keeps every frame in the order of emission. -/
structure Network (ι σ φ : Type) where
  stations : ι → σ
  medium : List φ

namespace Network

variable {ι σ ε φ μ : Type}

inductive Event (ι ε μ : Type)
  /-- A station takes an event that the medium has no part in. -/
  | own (i : ι) (event : ε)
  /-- A station hears frame number `k` of the medium. -/
  | hear (i : ι) (k : Nat) (how : μ)

section Steps

variable (station : Station σ ε φ μ)

def move (net : Network ι σ φ) : Event ι ε μ → Option (ι × ε)
  | .own i event => some (i, event)
  | .hear i k how => net.medium[k]?.map fun frame => (i, station.hears frame how)

def emitted (net : Network ι σ φ) (event : Event ι ε μ) : List φ :=
  match move station net event with
  | some (i, own) => station.emits (net.stations i) own
  | none => []

variable [DecidableEq ι]

def act (net : Network ι σ φ) (i : ι) (event : ε) : Network ι σ φ where
  stations := Function.update net.stations i (station.step (net.stations i) event)
  medium := net.medium ++ station.emits (net.stations i) event

def step (net : Network ι σ φ) (event : Event ι ε μ) : Network ι σ φ :=
  match move station net event with
  | some (i, own) => act station net i own
  | none => net

def eventsOf (i : ι) (net : Network ι σ φ) (event : Event ι ε μ) : List ε :=
  match move station net event with
  | some (j, own) => if j = i then [own] else []
  | none => []

def emittedBy (i : ι) (net : Network ι σ φ) (event : Event ι ε μ) : List φ :=
  match move station net event with
  | some (j, own) => if j = i then station.emits (net.stations i) own else []
  | none => []

/-- Everything that comes a station's way over a run. -/
def eventsOver (i : ι) (net : Network ι σ φ) (events : List (Event ι ε μ)) : List ε :=
  Transition.observed (step station) (eventsOf station i) net events

end Steps

variable {station : Station σ ε φ μ} [DecidableEq ι]

theorem step_of_move {net : Network ι σ φ} {event : Event ι ε μ} {i : ι} {own : ε}
    (h : move station net event = some (i, own)) :
    step station net event = act station net i own := by
  unfold step
  rw [h]

theorem step_of_idle {net : Network ι σ φ} {event : Event ι ε μ}
    (h : move station net event = none) : step station net event = net := by
  unfold step
  rw [h]

omit [DecidableEq ι] in
theorem move_cases {net : Network ι σ φ} {event : Event ι ε μ} {i : ι} {own : ε}
    (h : move station net event = some (i, own)) :
    event = .own i own ∨ ∃ frame ∈ net.medium, ∃ how, own = station.hears frame how := by
  cases event with
  | own j event =>
      obtain ⟨rfl, rfl⟩ := Prod.mk.inj (Option.some.inj h)
      exact Or.inl rfl
  | hear j k how =>
      obtain ⟨frame, hk, hmoved⟩ := Option.map_eq_some_iff.mp h
      obtain ⟨rfl, rfl⟩ := Prod.mk.inj hmoved
      exact Or.inr ⟨frame, List.mem_of_getElem? hk, how, rfl⟩

/-! ## Every station runs as it would alone -/

theorem stations_step (i : ι) (net : Network ι σ φ) (event : Event ι ε μ) :
    (step station net event).stations i =
      Transition.run station.step (net.stations i) (eventsOf station i net event) := by
  unfold eventsOf
  cases hmove : move station net event with
  | none =>
      rw [step_of_idle hmove]
      rfl
  | some moved =>
      obtain ⟨j, own⟩ := moved
      rw [step_of_move hmove]
      dsimp only [act]
      by_cases hi : j = i
      · subst hi
        rw [Function.update_self, if_pos rfl]
        rfl
      · rw [Function.update_of_ne (Ne.symm hi), if_neg hi]
        rfl

theorem stations_run (i : ι) (net : Network ι σ φ) (events : List (Event ι ε μ)) :
    (Transition.run (step station) net events).stations i =
      Transition.run station.step (net.stations i) (eventsOver station i net events) :=
  Transition.run_view (fun net : Network ι σ φ => net.stations i) (stations_step i) net events

theorem emittedBy_eq (i : ι) (net : Network ι σ φ) (event : Event ι ε μ) :
    emittedBy station i net event =
      Transition.observed station.step station.emits (net.stations i)
        (eventsOf station i net event) := by
  unfold emittedBy eventsOf
  split
  · split
    · exact (List.append_nil _).symm
    · rfl
  · rfl

theorem emittedBy_run (i : ι) (net : Network ι σ φ) (events : List (Event ι ε μ)) :
    Transition.observed (step station) (emittedBy station i) net events =
      Transition.observed station.step station.emits (net.stations i)
        (eventsOver station i net events) :=
  Transition.observed_view (fun net : Network ι σ φ => net.stations i) (stations_step i)
    (emittedBy_eq i) net events

/-- A condition on the steps of a station, as it moves in the network. -/
def WhenMoving (station : Station σ ε φ μ) (ok : σ → ε → Prop) (i : ι) (net : Network ι σ φ)
    (event : Event ι ε μ) : Prop :=
  ∀ own, move station net event = some (i, own) → ok (net.stations i) own

instance (ok : σ → ε → Prop) [∀ s e, Decidable (ok s e)] (i : ι) (net : Network ι σ φ)
    (event : Event ι ε μ) : Decidable (WhenMoving station ok i net event) :=
  decidable_of_iff (∀ moved ∈ move station net event, moved.1 = i → ok (net.stations i) moved.2) <|
    ⟨fun h own hmove => h (i, own) hmove rfl, fun h moved hmove hi => by
      obtain ⟨j, own⟩ := moved
      obtain rfl : j = i := hi
      exact h own hmove⟩

theorem always_eventsOver {ok : σ → ε → Prop} {i : ι} {net : Network ι σ φ}
    {events : List (Event ι ε μ)}
    (h : Transition.Always (step station) (WhenMoving station ok i) net events) :
    Transition.Always station.step ok (net.stations i) (eventsOver station i net events) := by
  induction events generalizing net with
  | nil =>
      intro t ht
      cases ht
  | cons event events ih =>
      obtain ⟨hevent, hrest⟩ := Transition.always_cons.mp h
      have hlater := ih hrest
      rw [stations_step] at hlater
      have hsplit : eventsOver station i net (event :: events) =
          eventsOf station i net event ++ eventsOver station i (step station net event) events :=
        Transition.observed_cons _ _ _ _
      rw [hsplit]
      unfold eventsOf at hlater ⊢
      cases hmove : move station net event with
      | none =>
          rw [hmove] at hlater
          exact hlater
      | some moved =>
          obtain ⟨j, own⟩ := moved
          rw [hmove] at hlater
          dsimp only at hlater ⊢
          by_cases hj : j = i
          · subst hj
            rw [if_pos rfl] at hlater ⊢
            exact Transition.always_cons.mpr ⟨hevent own hmove, hlater⟩
          · rw [if_neg hj] at hlater ⊢
            exact hlater

/-! ## What is on the medium -/

theorem medium_step (net : Network ι σ φ) (event : Event ι ε μ) :
    (step station net event).medium = net.medium ++ emitted station net event := by
  unfold step emitted
  split
  · rfl
  · exact (List.append_nil _).symm

theorem medium_subset_run (net : Network ι σ φ) (events : List (Event ι ε μ)) :
    net.medium ⊆ (Transition.run (step station) net events).medium := by
  induction events generalizing net with
  | nil => exact fun _ h => h
  | cons event events ih =>
      intro frame hframe
      apply ih (step station net event)
      rw [medium_step]
      exact List.mem_append_left _ hframe

theorem medium_subset_of_mem_trace {net : Network ι σ φ} {events : List (Event ι ε μ)}
    {t : Step (Network ι σ φ) (Event ι ε μ)}
    (h : t ∈ Transition.trace (step station) net events) :
    t.before.medium ⊆ (Transition.run (step station) net events).medium := by
  induction events generalizing net with
  | nil => cases h
  | cons event events ih =>
      rcases List.mem_cons.mp h with rfl | hlater
      · exact medium_subset_run net (event :: events)
      · exact ih hlater

theorem countP_emitted [Fintype ι] (p : φ → Bool) (net : Network ι σ φ)
    (event : Event ι ε μ) :
    (emitted station net event).countP p =
      ∑ i, (emittedBy station i net event).countP p := by
  unfold emitted emittedBy
  cases move station net event with
  | none => exact (Finset.sum_const_zero).symm
  | some moved =>
      obtain ⟨j, own⟩ := moved
      dsimp only
      rw [Finset.sum_eq_single j]
      · rw [if_pos rfl]
      · intro i _ hi
        rw [if_neg (Ne.symm hi)]
        rfl
      · intro hj
        exact absurd (Finset.mem_univ j) hj

theorem countP_medium_run [Fintype ι] (p : φ → Bool) (net : Network ι σ φ)
    (events : List (Event ι ε μ)) :
    (Transition.run (step station) net events).medium.countP p =
      net.medium.countP p +
        ∑ i, (Transition.observed station.step station.emits (net.stations i)
          (eventsOver station i net events)).countP p := by
  simp only [← emittedBy_run]
  induction events generalizing net with
  | nil => exact (Nat.add_eq_left.mpr Finset.sum_const_zero).symm
  | cons event events ih =>
      have hrun : Transition.run (step station) net (event :: events) =
          Transition.run (step station) (step station net event) events := rfl
      have hsplit : ∀ i, (Transition.observed (step station) (emittedBy station i) net
            (event :: events)).countP p =
          (emittedBy station i net event).countP p +
            (Transition.observed (step station) (emittedBy station i)
              (step station net event) events).countP p := by
        intro i
        rw [Transition.observed_cons, List.countP_append]
      rw [hrun, ih, medium_step, List.countP_append, countP_emitted, Finset.sum_congr rfl
        fun i _ => hsplit i, Finset.sum_add_distrib, Nat.add_assoc]

/-! ## Where frames come from -/

inductive Along (passes : ι → φ → φ → Prop) (source : φ) : List ι → φ → Prop
  | source : Along passes source [] source
  | passed {path : List ι} {frame relay : φ} {i : ι} (h : Along passes source path frame)
      (hpass : passes i frame relay) : Along passes source (path ++ [i]) relay

inductive Enters (station : Station σ ε φ μ) (makes : σ → ε → φ → Prop)
    (net : Network ι σ φ) : Event ι ε μ → φ → Prop
  | made {event : Event ι ε μ} {i : ι} {own : ε} {frame : φ}
      (hmove : move station net event = some (i, own))
      (h : makes (net.stations i) own frame) : Enters station makes net event frame
  | outside {i : ι} {own : ε} {frame : φ} (h : station.heard own = some frame) :
      Enters station makes net (.own i own) frame

section Provenance

variable {inv : ι → σ → Prop} {carries : σ → φ → Prop} {makes : σ → ε → φ → Prop}
  {passes : ι → φ → φ → Prop}

def TracedTo (carries : σ → φ → Prop) (passes : ι → φ → φ → Prop) (known : φ → Prop)
    (net : Network ι σ φ) : Prop :=
  ∀ frame, frame ∈ net.medium ∨ (∃ i, carries (net.stations i) frame) →
    ∃ source path, known source ∧ Along passes source path frame

def PassesOn (station : Station σ ε φ μ) (inv : ι → σ → Prop) (carries : σ → φ → Prop)
    (makes : σ → ε → φ → Prop) (passes : ι → φ → φ → Prop) : Prop :=
  ∀ i s event frame, inv i s →
    carries (station.step s event) frame ∨ frame ∈ station.emits s event →
    carries s frame ∨ makes s event frame ∨
      ∃ heard, station.heard event = some heard ∧ passes i heard frame

theorem forall_inv_step (hinv : ∀ i s event, inv i s → inv i (station.step s event))
    {net : Network ι σ φ} (h : ∀ i, inv i (net.stations i)) (event : Event ι ε μ) (i : ι) :
    inv i ((step station net event).stations i) := by
  rw [stations_step]
  exact Transition.preserved_run (hinv i) (h i) _

theorem forall_inv_run (hinv : ∀ i s event, inv i s → inv i (station.step s event))
    {net : Network ι σ φ} (h : ∀ i, inv i (net.stations i)) (events : List (Event ι ε μ)) :
    ∀ i, inv i ((Transition.run (step station) net events).stations i) :=
  @Transition.preserved_run _ _ (step station) (fun net => ∀ i, inv i (net.stations i))
    (fun _ event hnet => forall_inv_step hinv hnet event) _ h events

theorem forall_inv_trace (hinv : ∀ i s event, inv i s → inv i (station.step s event))
    {net : Network ι σ φ} (h : ∀ i, inv i (net.stations i)) (events : List (Event ι ε μ)) :
    ∀ t ∈ Transition.trace (step station) net events, ∀ i, inv i (t.before.stations i) :=
  @Transition.preserved_trace _ _ (step station) (fun net => ∀ i, inv i (net.stations i))
    (fun _ event hnet => forall_inv_step hinv hnet event) _ h events

def HeardIn (station : Station σ ε φ μ) (net : Network ι σ φ) (events : List (Event ι ε μ)) (i : ι)
    (frame : φ) : Prop :=
  ∃ t ∈ Transition.trace (step station) net events, ∃ own,
    move station t.before t.event = some (i, own) ∧ station.heard own = some frame

theorem HeardIn.later {net : Network ι σ φ} {event : Event ι ε μ} {events : List (Event ι ε μ)}
    {i : ι} {frame : φ} (h : HeardIn station (Network.step station net event) events i frame) :
    HeardIn station net (event :: events) i frame := by
  obtain ⟨t, ht, hheard⟩ := h
  exact ⟨t, List.mem_cons_of_mem _ ht, hheard⟩

omit [DecidableEq ι] in
theorem Along.mono {passes' : ι → φ → φ → Prop} {source frame : φ} {path : List ι}
    (h : Along passes source path frame)
    (hmono : ∀ i heard relay, passes i heard relay → passes' i heard relay) :
    Along passes' source path frame := by
  induction h with
  | source => exact .source
  | passed _ hpass ih => exact ih.passed (hmono _ _ _ hpass)

theorem TracedTo.step {known : φ → Prop} {passed : ι → φ → φ → Prop} {net : Network ι σ φ}
    (hpasses : PassesOn station inv carries makes passes) (hinv : ∀ i, inv i (net.stations i))
    (h : TracedTo carries passed known net) (event : Event ι ε μ) :
    TracedTo carries
      (fun i heard relay => passed i heard relay ∨
        passes i heard relay ∧ HeardIn station net [event] i heard)
      (fun frame => known frame ∨ Enters station makes net event frame)
      (Network.step station net event) := by
  have hknown : ∀ frame, frame ∈ net.medium ∨ (∃ i, carries (net.stations i) frame) →
      ∃ source path, (known source ∨ Enters station makes net event source) ∧
        Along (fun i heard relay => passed i heard relay ∨
          passes i heard relay ∧ HeardIn station net [event] i heard) source path frame := by
    intro frame hframe
    obtain ⟨source, path, hsource, halong⟩ := h frame hframe
    exact ⟨source, path, Or.inl hsource, halong.mono fun _ _ _ => Or.inl⟩
  intro frame hframe
  cases hmove : move station net event with
  | none =>
      rw [step_of_idle hmove] at hframe
      exact hknown frame hframe
  | some moved =>
      obtain ⟨i, own⟩ := moved
      rw [step_of_move hmove] at hframe
      -- only the station that moves changes what it carries
      have hcases : frame ∈ net.medium ∨ (∃ j, carries (net.stations j) frame) ∨
          (carries (station.step (net.stations i) own) frame ∨
            frame ∈ station.emits (net.stations i) own) := by
        rcases hframe with hmedium | ⟨j, hcarries⟩
        · rcases List.mem_append.mp hmedium with hbefore | hemitted
          · exact Or.inl hbefore
          · exact Or.inr (Or.inr (Or.inr hemitted))
        · by_cases hj : j = i
          · subst hj
            dsimp only [act] at hcarries
            rw [Function.update_self] at hcarries
            exact Or.inr (Or.inr (Or.inl hcarries))
          · dsimp only [act] at hcarries
            rw [Function.update_of_ne hj] at hcarries
            exact Or.inr (Or.inl ⟨j, hcarries⟩)
      rcases hcases with hmedium | hcarried | hmoved
      · exact hknown frame (Or.inl hmedium)
      · exact hknown frame (Or.inr hcarried)
      rcases hpasses i (net.stations i) own frame (hinv i) hmoved with
        hcarried | hmade | ⟨heard, hheard, hpass⟩
      · exact hknown frame (Or.inr ⟨i, hcarried⟩)
      · exact ⟨frame, [], Or.inr (.made hmove hmade), .source⟩
      · have hheardIn : HeardIn station net [event] i heard :=
          ⟨_, List.mem_cons_self, own, hmove, hheard⟩
        cases event with
        | own j event =>
            obtain ⟨rfl, rfl⟩ := Prod.mk.inj (Option.some.inj hmove)
            exact ⟨heard, [j], Or.inr (.outside hheard),
              Along.passed .source (Or.inr ⟨hpass, hheardIn⟩)⟩
        | hear j k how =>
            obtain ⟨onMedium, hk, hmoved⟩ := Option.map_eq_some_iff.mp hmove
            obtain ⟨rfl, rfl⟩ := Prod.mk.inj hmoved
            rw [station.heard_hears] at hheard
            obtain rfl := Option.some.inj hheard
            obtain ⟨source, path, hsource, halong⟩ :=
              hknown onMedium (Or.inl (List.mem_of_getElem? hk))
            exact ⟨source, path ++ [j], hsource, halong.passed (Or.inr ⟨hpass, hheardIn⟩)⟩

theorem HeardIn.cases {net : Network ι σ φ} {events : List (Event ι ε μ)} {i : ι} {frame : φ}
    (h : HeardIn station net events i frame) :
    (∃ t ∈ Transition.trace (Network.step station) net events, ∃ own,
      t.event = .own i own ∧ station.heard own = some frame) ∨
      frame ∈ (Transition.run (Network.step station) net events).medium := by
  obtain ⟨t, ht, own, hmove, hheard⟩ := h
  rcases move_cases hmove with hevent | ⟨onMedium, hmem, how, rfl⟩
  · exact Or.inl ⟨t, ht, own, hevent, hheard⟩
  · rw [station.heard_hears] at hheard
    rw [← Option.some.inj hheard]
    exact Or.inr (medium_subset_of_mem_trace ht hmem)

/-- The provenance rule: after a run, whatever is on the medium or carried came, by being passed
on by stations that had heard it, of a frame that was known at first or entered in a step. -/
theorem TracedTo.run {known : φ → Prop} {passed : ι → φ → φ → Prop} {net : Network ι σ φ}
    (hpasses : PassesOn station inv carries makes passes)
    (hstep : ∀ i s event, inv i s → inv i (station.step s event))
    (hinv : ∀ i, inv i (net.stations i)) (h : TracedTo carries passed known net)
    (events : List (Event ι ε μ)) :
    TracedTo carries
      (fun i heard relay => passed i heard relay ∨
        passes i heard relay ∧ HeardIn station net events i heard)
      (fun frame => known frame ∨ ∃ t ∈ Transition.trace (Network.step station) net events,
        Enters station makes t.before t.event frame)
      (Transition.run (Network.step station) net events) := by
  induction events generalizing known passed net with
  | nil =>
      intro frame hframe
      obtain ⟨source, path, hsource, halong⟩ := h frame hframe
      exact ⟨source, path, Or.inl hsource, halong.mono fun _ _ _ => Or.inl⟩
  | cons event events ih =>
      intro frame hframe
      obtain ⟨source, path, hsource, halong⟩ :=
        ih (forall_inv_step hstep hinv event) (h.step hpasses hinv event) frame hframe
      refine ⟨source, path, ?_, halong.mono ?_⟩
      · rcases hsource with (hknown | henters) | ⟨t, ht, henters⟩
        · exact Or.inl hknown
        · exact Or.inr ⟨_, List.mem_cons_self, henters⟩
        · exact Or.inr ⟨t, List.mem_cons_of_mem _ ht, henters⟩
      · rintro i heard relay ((hpassed | ⟨hpass, hfirst⟩) | ⟨hpass, hlater⟩)
        · exact Or.inl hpassed
        · obtain ⟨t, ht, hheard⟩ := hfirst
          rw [List.mem_singleton.mp ht] at hheard
          exact Or.inr ⟨hpass, _, List.mem_cons_self, hheard⟩
        · exact Or.inr ⟨hpass, hlater.later⟩

end Provenance

end Network

end Meshtastenstein.Lib
