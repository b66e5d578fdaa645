import Meshtastenstein.RelayAgreement
/-!
# Interference between relays

Two runs that differ only in frames that fail authentication relay the same authenticated
packets as long as no such frame bears the key of one, costs one its place or is due
before one.
-/

namespace Meshtastenstein

open Lib Proto Handlers

variable {vouched : PacketKey → Bool}

namespace MeshState

variable {S : Type} [MeshStorage S] (env : Env)

/-- What the relaying parts of two runs are told in a step. -/
def toldIn (states : MeshState S × MeshState S) : Paired Event → List (Paired RelayInput)
  | .both event => (relayInputs env states.1 event).map .both
  | .left event => (relayInputs env states.1 event).map .left
  | .right event => (relayInputs env states.2 event).map .right

def toldOver (states : MeshState S × MeshState S) (script : List (Paired Event)) :
    List (Paired RelayInput) :=
  Transition.observed (Transition.joint (step env)) (toldIn env) states script

/-- Both nodes make the same of what both runs hear, and what one run alone hears fails
authentication. -/
def ReceiveAlike (vouched : PacketKey → Bool) (states : MeshState S × MeshState S) :
    Paired Event → Prop
  | .both event =>
      relayInputs env states.2 event = relayInputs env states.1 event ∧
        ∀ input ∈ relayInputs env states.1 event, input.Vouched vouched
  | .left event => ∀ input ∈ relayInputs env states.1 event, input.Blind
  | .right event => ∀ input ∈ relayInputs env states.2 event, input.Blind

instance (vouched : PacketKey → Bool) (states : MeshState S × MeshState S) :
    DecidablePred (ReceiveAlike env vouched states)
  | .both event =>
      inferInstanceAs (Decidable (_ ∧ ∀ input ∈ relayInputs env states.1 event, _))
  | .left event => inferInstanceAs (Decidable (∀ input ∈ relayInputs env states.1 event, _))
  | .right event => inferInstanceAs (Decidable (∀ input ∈ relayInputs env states.2 event, _))

variable {env}

theorem headed_of_mem_relayInputs {state : MeshState S} {event : Event} {input : RelayInput}
    (h : input ∈ relayInputs env state event) : input.Headed := by
  rcases List.mem_append.mp h with hwork | hreset
  · rcases workInput_eq_some (Option.mem_toList.mp hwork) with
      ⟨_, _, -, -, hadmissible⟩ | ⟨-, rfl⟩
    · exact hadmissible.headed
    · trivial
  · split at hreset
    · obtain rfl := List.mem_singleton.mp hreset
      trivial
    · cases hreset

theorem hearAlike_toldIn {states : MeshState S × MeshState S} {event : Paired Event}
    (h : ReceiveAlike env vouched states event) :
    ∀ paired ∈ toldIn env states event, HearAlike vouched paired := by
  intro paired hpaired
  cases event with
  | both event =>
      obtain ⟨input, hinput, rfl⟩ := List.mem_map.mp hpaired
      exact ⟨headed_of_mem_relayInputs hinput, h.2 input hinput⟩
  | left event =>
      obtain ⟨input, hinput, rfl⟩ := List.mem_map.mp hpaired
      exact ⟨headed_of_mem_relayInputs hinput, h input hinput⟩
  | right event =>
      obtain ⟨input, hinput, rfl⟩ := List.mem_map.mp hpaired
      exact ⟨headed_of_mem_relayInputs hinput, h input hinput⟩

theorem hearAlike_toldOver {states : MeshState S × MeshState S} {script : List (Paired Event)}
    (h : Transition.Always (Transition.joint (step env)) (ReceiveAlike env vouched) states
      script) :
    ∀ paired ∈ toldOver env states script, HearAlike vouched paired := by
  intro paired hpaired
  obtain ⟨t, ht, hpaired⟩ := List.mem_flatMap.mp hpaired
  exact hearAlike_toldIn (h t ht) paired hpaired

/-! ## What each run is told -/

theorem lefts_toldIn (states : MeshState S × MeshState S) (event : Paired Event) :
    Paired.lefts (toldIn env states event) =
      event.inLeft.toList.flatMap (relayInputs env states.1) := by
  cases event <;> simp [toldIn, Paired.inLeft]

theorem rights_toldIn {states : MeshState S × MeshState S} {event : Paired Event}
    (h : ReceiveAlike env vouched states event) :
    Paired.rights (toldIn env states event) =
      event.inRight.toList.flatMap (relayInputs env states.2) := by
  cases event with
  | both event => simp [toldIn, Paired.inRight, h.1]
  | left event => simp [toldIn, Paired.inRight]
  | right event => simp [toldIn, Paired.inRight]

/-! ## What each run relays -/

theorem relayedIn_eq (state : MeshState S) (event : Event) :
    relayedIn state event =
      Transition.observed RelayState.step (fun st input => (st.sends input).toList)
        state.ctx.relayState (relayInputs env state event) := by
  have hreset : ∀ st nodeNum, Transition.observed RelayState.step
      (fun st input => (st.sends input).toList) st [RelayInput.reset nodeNum] = [] :=
    fun _ _ => rfl
  have hwork : relayedIn state event =
      Transition.observed RelayState.step (fun st input => (st.sends input).toList)
        state.ctx.relayState (workInput env state event).toList := by
    by_cases hstarted : state.started = true
    · cases hinput : workInput env state event with
      | some input =>
          rcases workInput_eq_some hinput with ⟨frame, metadata, rfl, hframe, -⟩ | ⟨rfl, rfl⟩
          · -- the node relays nothing while it receives
            cases input with
            | due now => cases hframe
            | _ => rfl
          · rw [relayedIn_rebroadcastDue hstarted]
            exact (List.append_nil _).symm
      | none =>
          cases event with
          | rebroadcastDue =>
              rw [workInput_rebroadcastDue hstarted] at hinput
              cases hinput
          | _ => rfl
    · rw [relayedIn_of_not_started hstarted, workInput_of_not_started hstarted]
      rfl
  unfold relayInputs
  rw [Transition.observed_append, ← hwork]
  split
  · rw [hreset, List.append_nil]
  · exact (List.append_nil _).symm

theorem relayedOver_eq (state : MeshState S) (events : List Event) :
    relayedOver env state events =
      Transition.observed RelayState.step (fun st input => (st.sends input).toList)
        state.ctx.relayState (relayInputsOver env state events) :=
  Transition.observed_view (fun state : MeshState S => state.ctx.relayState) relayState_step
    relayedIn_eq state events

/-- The authenticated packets a run relays. -/
def vouchedOver (env : Env) (vouched : PacketKey → Bool) (state : MeshState S)
    (events : List Event) : List RadioFrame :=
  (relayedOver env state events).filter (RadioFrame.isVouched vouched)

theorem vouchedOver_eq (state : MeshState S) (events : List Event) :
    vouchedOver env vouched state events =
      Transition.observed RelayState.step (RelayState.sendsVouched vouched)
        state.ctx.relayState (relayInputsOver env state events) := by
  unfold vouchedOver
  rw [relayedOver_eq, Transition.filter_observed]
  rfl

/-- Two runs from states that relay alike, which receive the same authenticated frames and
otherwise frames that fail authentication, relay the same authenticated packets, if no other
frame disturbs their relays. -/
theorem relaysAlike {left right : MeshState S}
    (hstart : right.ctx.relayState = left.ctx.relayState) {script : List (Paired Event)}
    (hreceive : Transition.Always (Transition.joint (step env)) (ReceiveAlike env vouched)
      (left, right) script)
    (hundisturbed : Transition.Always (Transition.joint RelayState.step)
      (RelayState.Undisturbed vouched) (left.ctx.relayState, right.ctx.relayState)
      (toldOver env (left, right) script)) :
    vouchedOver env vouched left (Paired.lefts script) =
      vouchedOver env vouched right (Paired.rights script) := by
  have hleft : Paired.lefts (toldOver env (left, right) script) =
      relayInputsOver env left (Paired.lefts script) :=
    Transition.lefts_observed_joint (fun states event _ => lefts_toldIn states event) hreceive
  have hright : Paired.rights (toldOver env (left, right) script) =
      relayInputsOver env right (Paired.rights script) :=
    Transition.rights_observed_joint (fun _ _ hok => rights_toldIn hok) hreceive
  have hagree : RelayState.Agree vouched left.ctx.relayState right.ctx.relayState := by
    rw [hstart]
    exact RelayState.Agree.refl _
  rw [vouchedOver_eq, vouchedOver_eq, ← hleft, ← hright]
  exact RelayState.observed_sendsVouched_eq hagree (hearAlike_toldOver hreceive) hundisturbed

/-! ## A node among forged frames -/

/-- The acknowledgement of node `0x11223344`, to everyone. -/
def strangerBroadcast : RadioFrame where
  bytes :=
    [0xff, 0xff, 0xff, 0xff, 0x44, 0x33, 0x22, 0x11, 0x09, 0x00, 0x00, 0x00, 0x63, 0x08, 0x00,
     0x44, 0x66, 0x03, 0x1b, 0x19, 0xd8, 0x03, 0x06]
  length_le := by decide

/-- A frame under the name of node `0x55667788`, on a channel we do not have. -/
def forgedFrame (id : UInt8) : RadioFrame where
  bytes :=
    [0xff, 0xff, 0xff, 0xff, 0x88, 0x77, 0x66, 0x55, id, 0x00, 0x00, 0x00, 0x63, 0x99, 0x00,
     0x88, 0xff]
  length_le := Nat.le_of_ble_eq_true rfl

def fromStranger (key : PacketKey) : Bool := key.1 == 0x11223344

/-- Every relay waits for 100 ms. -/
def patientEnv : Env := { KnownAnswers.defaultKey.env with rebroadcastDelayMs _ _ _ _ _ := 100 }

def patientBoot : MeshState FakeStorage :=
  boot patientEnv KnownAnswers.mac {} KnownAnswers.noKeypair KnownAnswers.noEntropy

/-- Both nodes hear a broadcast and let its time come; one hears forged frames in between. -/
def forgedHearing (ids : List UInt8) : List (Paired Event) :=
  .both .announce :: .both (.mesh (.loraRx strangerBroadcast ⟨0, 0⟩)) ::
    ids.map (fun id => .left (.mesh (.loraRx (forgedFrame id) ⟨0, 0⟩))) ++
    [.both (.elapse 1000), .both .rebroadcastDue, .left .rebroadcastDue]

/-- One forged frame is relayed after the broadcast. -/
theorem forgedHearing_relaysAlike :
    vouchedOver patientEnv fromStranger patientBoot (Paired.lefts (forgedHearing [1])) =
      vouchedOver patientEnv fromStranger patientBoot (Paired.rights (forgedHearing [1])) :=
  relaysAlike rfl (by decide +kernel) (by decide +kernel)

/-- Eight forged frames take the place of the broadcast. -/
theorem forgedHearing_not_relaysAlike :
    Transition.Always (Transition.joint (step patientEnv))
        (ReceiveAlike patientEnv fromStranger) (patientBoot, patientBoot)
        (forgedHearing [1, 2, 3, 4, 5, 6, 7, 8]) ∧
      vouchedOver patientEnv fromStranger patientBoot
          (Paired.lefts (forgedHearing [1, 2, 3, 4, 5, 6, 7, 8])) = [] ∧
      vouchedOver patientEnv fromStranger patientBoot
          (Paired.rights (forgedHearing [1, 2, 3, 4, 5, 6, 7, 8])) =
        [strangerBroadcast.withRewrittenHeader 2 0x56] := by
  decide +kernel

end MeshState

end Meshtastenstein
