import Meshtastenstein.KnownAnswers
import Meshtastenstein.Lib.Timer
import Meshtastenstein.RelayState
/-!
# The rebroadcast timer

The relays that are scheduled are kept in no order, and a relay that is taken out makes room
for the last.  One timer serves them all: it sends the relays in the order of their deadlines,
none before its time, and eight firings empty the queue of all that is due.
-/

namespace Meshtastenstein

open Lib Proto Handlers

namespace RelayState

theorem now_lt_of_nextDue {st : RelayState} {now : Nat} (h : st.nextDue now = none) :
    ∀ pending ∈ st.queue.toList, now < pending.deadline := by
  intro pending hpending
  obtain ⟨i, first, hearliest, hentry, hmin⟩ :=
    FromRadio.exists_earliestDue (List.ne_nil_of_mem hpending)
  rw [st.nextDue_of_getElem? hearliest hentry] at h
  split at h
  · cases h
  · rename_i hlate
    exact Nat.lt_of_lt_of_le (Nat.lt_of_not_le hlate) (hmin pending hpending)

theorem fires (st : RelayState) (now : Nat) :
    Timer.Fires PendingRebroadcast.deadline now st.queue.toList
      ((st.nextDue now).map Prod.snd) (st.fire now).queue.toList := by
  unfold fire
  cases hdue : st.nextDue now with
  | none => exact .idle (now_lt_of_nextDue hdue)
  | some due =>
      obtain ⟨i, pending⟩ := due
      have hentry := getElem?_of_nextDue hdue
      obtain ⟨hi, hget⟩ := List.getElem?_eq_some_iff.mp hentry
      obtain ⟨j, first, hearliest, hfirst, hmin⟩ :=
        FromRadio.exists_earliestDue (List.ne_nil_of_mem (List.mem_of_getElem? hentry))
      rw [st.nextDue_of_getElem? hearliest hfirst] at hdue
      split at hdue
      · rename_i htime
        obtain ⟨rfl, rfl⟩ := Prod.mk.inj (Option.some.inj hdue)
        have hperm := st.queue.perm_swapRemove j hi
        rw [hget] at hperm
        refine .takes hperm htime fun other hother => hmin other ?_
        exact hperm.mem_iff.mpr (List.mem_cons_of_mem _ hother)
      · cases hdue

end RelayState

namespace MeshState

variable {S : Type} [MeshStorage S] {env : Env}

def relaysSent (state : MeshState S) (sent : List PendingRebroadcast)
    (kept : Bounded PendingRebroadcast 8) : MeshState S :=
  state.withCtx
    { state.ctx with
      pendingRebroadcast := kept
      txToLora := state.ctx.txToLora ++ sent.map (·.frame) }

omit [MeshStorage S] in
theorem relaysSent_relaysSent (state : MeshState S) (sent later : List PendingRebroadcast)
    (kept left : Bounded PendingRebroadcast 8) :
    (state.relaysSent sent kept).relaysSent later left = state.relaysSent (sent ++ later) left := by
  unfold relaysSent withCtx
  simp

theorem step_rebroadcastDue {state : MeshState S} (hstarted : state.started = true) :
    step env state .rebroadcastDue =
      state.relaysSent ((state.ctx.relayState.nextDue state.ctx.now).map Prod.snd).toList
        (state.ctx.relayState.fire state.ctx.now).queue := by
  have hstep : step env state .rebroadcastDue = state.withCtx (fireRebroadcast state.ctx) :=
    if_pos hstarted
  rw [hstep, fireRebroadcast_eq]
  unfold relaysSent RelayState.fire
  cases state.ctx.relayState.nextDue state.ctx.now with
  | none => simp [MeshCtx.relayState]
  | some due => rfl

theorem run_rebroadcastDue {state : MeshState S} (hstarted : state.started = true) (n : Nat) :
    ∃ sent kept, Timer.Series PendingRebroadcast.deadline state.ctx.now n
        state.ctx.pendingRebroadcast.toList sent kept.toList ∧
      Transition.run (step env) state (List.replicate n .rebroadcastDue) =
        state.relaysSent sent kept := by
  induction n generalizing state with
  | zero =>
      refine ⟨[], state.ctx.pendingRebroadcast, .nil, ?_⟩
      unfold relaysSent
      rw [List.map_nil, List.append_nil]
      rfl
  | succ n ih =>
      have hfires := state.ctx.relayState.fires state.ctx.now
      obtain ⟨sent, kept, hseries, hrun⟩ := @ih (state.relaysSent
        ((state.ctx.relayState.nextDue state.ctx.now).map Prod.snd).toList
        (state.ctx.relayState.fire state.ctx.now).queue) hstarted
      refine ⟨_, kept, .cons hfires hseries, ?_⟩
      calc
        Transition.run (step env) state (List.replicate (n + 1) .rebroadcastDue) =
            Transition.run (step env) (step env state .rebroadcastDue)
              (List.replicate n .rebroadcastDue) := rfl
        _ = _ := by rw [step_rebroadcastDue hstarted, hrun, relaysSent_relaysSent]

/-- However many relays wait, the timer sends them in the order of their deadlines, each once
and none early, and changes nothing else; after eight firings nothing is overdue. -/
theorem rebroadcasts_run (env : Env) {state : MeshState S} (hstarted : state.started = true)
    (n : Nat) :
    ∃ sent kept, Transition.run (step env) state (List.replicate n .rebroadcastDue) =
        state.relaysSent sent kept ∧
      state.ctx.pendingRebroadcast.toList.Perm (sent ++ kept.toList) ∧
      (sent.Pairwise fun pending later => pending.deadline ≤ later.deadline) ∧
      (∀ pending ∈ sent, pending.deadline ≤ state.ctx.now) ∧
      (8 ≤ n → ∀ pending ∈ kept.toList, state.ctx.now < pending.deadline) := by
  obtain ⟨sent, kept, hseries, hrun⟩ := @run_rebroadcastDue S _ env state hstarted n
  refine ⟨sent, kept, hrun, hseries.perm, hseries.sorted, hseries.due, fun hn => ?_⟩
  apply hseries.later
  calc
    state.ctx.pendingRebroadcast.toList.countP _ ≤ state.ctx.pendingRebroadcast.toList.length :=
      List.countP_le_length
    _ ≤ 8 := state.ctx.pendingRebroadcast.length_le
    _ ≤ n := hn

/-- A broadcast of node `0x11223344` that nobody here can read. -/
def unreadable (packetId : UInt8) : RadioFrame where
  bytes :=
    [0xff, 0xff, 0xff, 0xff, 0x44, 0x33, 0x22, 0x11, packetId, 0x00, 0x00, 0x00, 0xa3, 0x55, 0x00,
     0x66, 0x07, 0x3c, 0x1c, 0xb0, 0x6a]
  length_le := by simp [MAX_LORA_PAYLOAD_LEN]

/-- A node heard three broadcasts, a minute ago. -/
def overdue : MeshState FakeStorage :=
  Transition.run (step KnownAnswers.defaultKey.env)
    (boot KnownAnswers.defaultKey.env KnownAnswers.mac {} KnownAnswers.noKeypair
      KnownAnswers.noEntropy)
    [.announce, .mesh (.loraRx (unreadable 1) ⟨0, 0⟩), .mesh (.loraRx (unreadable 2) ⟨0, 0⟩),
      .mesh (.loraRx (unreadable 3) ⟨0, 0⟩), .elapse 60000]

theorem overdue_rebroadcasts :
    overdue.ctx.pendingRebroadcast.length = 3 ∧
    ∃ sent kept, Transition.run (step KnownAnswers.defaultKey.env) overdue
          (List.replicate 8 .rebroadcastDue) = overdue.relaysSent sent kept ∧
      overdue.ctx.pendingRebroadcast.toList.Perm (sent ++ kept.toList) ∧
      (sent.Pairwise fun pending later => pending.deadline ≤ later.deadline) ∧
      (∀ pending ∈ sent, pending.deadline ≤ overdue.ctx.now) ∧
      (8 ≤ 8 → ∀ pending ∈ kept.toList, overdue.ctx.now < pending.deadline) :=
  ⟨by decide +kernel, rebroadcasts_run _ (by decide +kernel) 8⟩

end MeshState

end Meshtastenstein
