import Meshtastenstein.Lib.Transition
/-!
# Pacing

A clock that the system itself cannot reset runs beside it, and what its steps let be seen is
stamped with the time.  Where something is seen only once a cooldown of the system has run out,
and the cooldown then starts over, what is seen in a run is spaced.
-/

namespace Meshtastenstein.Lib

/-- A system and a clock beside it. -/
structure Clocked (σ : Type) where
  state : σ
  clock : Nat

namespace Clocked

variable {σ ε β : Type}

def step (step : σ → ε → σ) (duration : ε → Nat) (c : Clocked σ) (e : ε) : Clocked σ where
  state := step c.state e
  clock := c.clock + duration e

/-- What is seen of a step, with the time at which it begins. -/
def stamped (f : σ → ε → List β) (c : Clocked σ) (e : ε) : List (Nat × β) :=
  (f c.state e).map fun b => (c.clock, b)

theorem state_run (step : σ → ε → σ) (duration : ε → Nat) (c : Clocked σ) (events : List ε) :
    (Transition.run (Clocked.step step duration) c events).state =
      Transition.run step c.state events :=
  Transition.run_project (fun _ _ => rfl) c events

/-- What is seen of a run from time zero, with the times. -/
def log (step : σ → ε → σ) (duration : ε → Nat) (f : σ → ε → List β) (s : σ)
    (events : List ε) : List (Nat × β) :=
  Transition.observed (Clocked.step step duration) (stamped f) ⟨s, 0⟩ events

/-- At least `window` lies between any two entries. -/
def Spaced (window : Nat) (entries : List (Nat × β)) : Prop :=
  entries.Pairwise fun earlier later => earlier.1 + window ≤ later.1

theorem Spaced.times {window : Nat} {entries : List (Nat × β)} (h : Spaced window entries) :
    (entries.map Prod.fst).Pairwise fun earlier later => earlier + window ≤ later :=
  List.pairwise_map.mpr h

/-- Of all steps those let something be seen, one thing each, that find no cooldown left, and
they leave a full one; no step takes more of it away than it lasts. -/
structure Paces (step : σ → ε → σ) (duration : ε → Nat) (f : σ → ε → List β) (window : Nat)
    (wait : σ → Nat) (s : σ) (e : ε) : Prop where
  quiet : f s e = [] → wait s ≤ wait (step s e) + duration e
  seen : f s e ≠ [] → wait s = 0 ∧ (f s e).length ≤ 1 ∧ window ≤ wait (step s e) + duration e

variable {step : σ → ε → σ} {duration : ε → Nat} {f : σ → ε → List β} {window : Nat}
  {wait : σ → Nat}

structure Cooling (window : Nat) (wait : σ → Nat) (c : Clocked σ) (entries : List (Nat × β)) :
    Prop where
  spaced : Spaced window entries
  cools : ∀ entry ∈ entries, entry.1 + window ≤ c.clock + wait c.state

theorem Cooling.next {c : Clocked σ} {e : ε} {entries : List (Nat × β)}
    (h : Cooling window wait c entries)
    (hpaces : Paces step duration f window wait c.state e) :
    Cooling window wait (c.step step duration e) (entries ++ stamped f c e) := by
  have hclock : (c.step step duration e).clock = c.clock + duration e := rfl
  have hstate : (c.step step duration e).state = step c.state e := rfl
  rcases hseen : f c.state e with _ | ⟨b, bs⟩
  · have hquiet := hpaces.quiet hseen
    unfold stamped
    rw [hseen, List.map_nil, List.append_nil]
    refine ⟨h.spaced, fun entry hentry => ?_⟩
    have hcools := h.cools entry hentry
    rw [hclock, hstate]
    omega
  · obtain ⟨hready, hone, hfull⟩ := hpaces.seen (by rw [hseen]; exact List.cons_ne_nil b bs)
    rw [hseen, List.length_cons] at hone
    obtain rfl : bs = [] := List.eq_nil_of_length_eq_zero (by omega)
    unfold stamped
    rw [hseen, List.map_singleton]
    constructor
    · refine List.pairwise_append.mpr ⟨h.spaced, List.pairwise_singleton _ _, ?_⟩
      intro entry hentry last hlast
      have hcools := h.cools entry hentry
      rw [List.mem_singleton.mp hlast]
      omega
    · intro entry hentry
      rw [hclock, hstate]
      rcases List.mem_append.mp hentry with hold | hlast
      · have hcools := h.cools entry hold
        omega
      · rw [List.mem_singleton.mp hlast]
        dsimp only
        omega

theorem cooling_run {s : σ} {events : List ε}
    (h : Transition.Always step (Paces step duration f window wait) s events) :
    Cooling window wait (Transition.run (Clocked.step step duration) ⟨s, 0⟩ events)
      (log step duration f s events) := by
  induction events using List.reverseRecOn with
  | nil => exact ⟨List.Pairwise.nil, fun _ hentry => absurd hentry List.not_mem_nil⟩
  | append_singleton events e ih =>
      have hlast := Transition.forall_trace_concat h
      rw [← state_run step duration ⟨s, 0⟩ events] at hlast
      unfold log
      rw [Transition.run_append, Transition.observed_append]
      have hnext := (ih h.of_append).next hlast
      rw [← List.append_nil (stamped f _ e)] at hnext
      exact hnext

theorem spaced_log {s : σ} {events : List ε}
    (h : Transition.Always step (Paces step duration f window wait) s events) :
    Spaced window (log step duration f s events) :=
  (cooling_run h).spaced

end Clocked

end Meshtastenstein.Lib
