import Meshtastenstein.Lib.Transition
/-!
# Two runs side by side

Two runs of one step function share some of their events and have others of their own.  A
relation between their states that every such step keeps, and under which shared events
let the same be seen and own events nothing, makes the two runs look the same.
-/

namespace Meshtastenstein.Lib

inductive Paired (ε : Type)
  | both (event : ε)
  | left (event : ε)
  | right (event : ε)

namespace Paired

variable {ε : Type}

def inLeft : Paired ε → Option ε
  | .both event => some event
  | .left event => some event
  | .right _ => none

def inRight : Paired ε → Option ε
  | .both event => some event
  | .left _ => none
  | .right event => some event

/-- The events of the left run. -/
def lefts (script : List (Paired ε)) : List ε := script.filterMap inLeft

/-- The events of the right run. -/
def rights (script : List (Paired ε)) : List ε := script.filterMap inRight

theorem lefts_append (script later : List (Paired ε)) :
    lefts (script ++ later) = lefts script ++ lefts later := List.filterMap_append

theorem rights_append (script later : List (Paired ε)) :
    rights (script ++ later) = rights script ++ rights later := List.filterMap_append

@[simp] theorem lefts_map_both (events : List ε) : lefts (events.map .both) = events := by
  induction events with
  | nil => rfl
  | cons event events ih => exact congrArg (event :: ·) ih

@[simp] theorem rights_map_both (events : List ε) : rights (events.map .both) = events := by
  induction events with
  | nil => rfl
  | cons event events ih => exact congrArg (event :: ·) ih

@[simp] theorem lefts_map_left (events : List ε) : lefts (events.map .left) = events := by
  induction events with
  | nil => rfl
  | cons event events ih => exact congrArg (event :: ·) ih

@[simp] theorem rights_map_left (events : List ε) : rights (events.map .left) = [] := by
  induction events with
  | nil => rfl
  | cons event events ih => exact ih

@[simp] theorem lefts_map_right (events : List ε) : lefts (events.map .right) = [] := by
  induction events with
  | nil => rfl
  | cons event events ih => exact ih

@[simp] theorem rights_map_right (events : List ε) : rights (events.map .right) = events := by
  induction events with
  | nil => rfl
  | cons event events ih => exact congrArg (event :: ·) ih

end Paired

namespace Transition

variable {σ ε β : Type} {step : σ → ε → σ}

/-- Both runs take a step, or one of them does. -/
def joint (step : σ → ε → σ) (states : σ × σ) : Paired ε → σ × σ
  | .both event => (step states.1 event, step states.2 event)
  | .left event => (step states.1 event, states.2)
  | .right event => (states.1, step states.2 event)

theorem lefts_observed_joint {tell : σ × σ → Paired ε → List (Paired β)}
    {f : σ → ε → List β} {ok : σ × σ → Paired ε → Prop}
    (h : ∀ states e, ok states e →
      Paired.lefts (tell states e) = e.inLeft.toList.flatMap (f states.1))
    {states : σ × σ} {script : List (Paired ε)} (hok : Always (joint step) ok states script) :
    Paired.lefts (observed (joint step) tell states script) =
      observed step f states.1 (Paired.lefts script) := by
  induction script generalizing states with
  | nil => rfl
  | cons paired script ih =>
      obtain ⟨hhead, htail⟩ := always_cons.mp hok
      rw [observed_cons, Paired.lefts_append, h states paired hhead, ih htail]
      cases paired with
      | both e => exact congrArg (· ++ _) (List.append_nil _)
      | left e => exact congrArg (· ++ _) (List.append_nil _)
      | right e => rfl

theorem rights_observed_joint {tell : σ × σ → Paired ε → List (Paired β)}
    {f : σ → ε → List β} {ok : σ × σ → Paired ε → Prop}
    (h : ∀ states e, ok states e →
      Paired.rights (tell states e) = e.inRight.toList.flatMap (f states.2))
    {states : σ × σ} {script : List (Paired ε)} (hok : Always (joint step) ok states script) :
    Paired.rights (observed (joint step) tell states script) =
      observed step f states.2 (Paired.rights script) := by
  induction script generalizing states with
  | nil => rfl
  | cons paired script ih =>
      obtain ⟨hhead, htail⟩ := always_cons.mp hok
      rw [observed_cons, Paired.rights_append, h states paired hhead, ih htail]
      cases paired with
      | both e => exact congrArg (· ++ _) (List.append_nil _)
      | left e => rfl
      | right e => exact congrArg (· ++ _) (List.append_nil _)

/-- The unwinding rule: a relation under which the steps of a script are indistinguishable
makes the two runs indistinguishable. -/
theorem observed_eq_of_joint {see : σ → ε → List β} {related : σ → σ → Prop}
    {ok : σ × σ → Paired ε → Prop}
    (hboth : ∀ s t e, related s t → ok (s, t) (.both e) →
      see s e = see t e ∧ related (step s e) (step t e))
    (hleft : ∀ s t e, related s t → ok (s, t) (.left e) → see s e = [] ∧ related (step s e) t)
    (hright : ∀ s t e, related s t → ok (s, t) (.right e) → see t e = [] ∧ related s (step t e))
    {s t : σ} {script : List (Paired ε)} (hrelated : related s t)
    (hok : Always (joint step) ok (s, t) script) :
    observed step see s (Paired.lefts script) = observed step see t (Paired.rights script) := by
  induction script generalizing s t with
  | nil => rfl
  | cons paired script ih =>
      obtain ⟨hhead, htail⟩ := always_cons.mp hok
      cases paired with
      | both e =>
          obtain ⟨hsee, hnext⟩ := hboth s t e hrelated hhead
          have hsplit : observed step see s (Paired.lefts (.both e :: script)) =
              see s e ++ observed step see (step s e) (Paired.lefts script) := rfl
          rw [hsplit, hsee, ih hnext htail]
          rfl
      | left e =>
          obtain ⟨hsee, hnext⟩ := hleft s t e hrelated hhead
          have hsplit : observed step see s (Paired.lefts (.left e :: script)) =
              see s e ++ observed step see (step s e) (Paired.lefts script) := rfl
          rw [hsplit, hsee, List.nil_append]
          exact ih hnext htail
      | right e =>
          obtain ⟨hsee, hnext⟩ := hright s t e hrelated hhead
          have hsplit : observed step see t (Paired.rights (.right e :: script)) =
              see t e ++ observed step see (step t e) (Paired.rights script) := rfl
          rw [hsplit, hsee, List.nil_append]
          exact ih hnext htail

end Transition

end Meshtastenstein.Lib
