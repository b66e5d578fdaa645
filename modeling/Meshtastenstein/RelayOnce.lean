import Meshtastenstein.KnownAnswers
import Meshtastenstein.RelayState
/-!
# Relaying a packet once

The duplicate history takes a packet for new at most once in two hundred others, and the
queue sends a packet at most as often as it was new.
-/

namespace Meshtastenstein

open Lib Proto Handlers

/-! ## What is seen of a run -/

namespace Handlers.FromRadio

variable {S : Type}

def newKey (env : Env) (ctx : MeshCtx S) (frame : RadioFrame) : Option PacketKey :=
  match frame.header with
  | none => none
  | some header =>
      if header.sender = ctx.device.myNodeNum then none
      else
        match tryDecryptAndDecode env frame header ctx.device ctx.nodeDb ctx.pkcPrivBytes with
        | .decoded _ =>
            if (ctx.router.shouldFilterReceived header.sender header.packetId header.hopLimit
                header.relayNode (pendingHopLimit ctx header) ctx.device.role).1 = .new then
              some header.key
            else none
        | _ => none

def Decodes (env : Env) (ctx : MeshCtx S) (frame : RadioFrame) : Prop :=
  ∀ header, frame.header = some header → header.sender ≠ ctx.device.myNodeNum →
    ∃ decoded, tryDecryptAndDecode env frame header ctx.device ctx.nodeDb ctx.pkcPrivBytes =
      .decoded decoded

end Handlers.FromRadio

namespace MeshState

variable {S : Type} (env : Env)

def newIn (state : MeshState S) : Event → List PacketKey
  | .mesh (.loraRx frame metadata) =>
      if state.started then
        (FromRadio.newKey env (noteActivity state.ctx (.loraRx frame metadata)) frame).toList
      else []
  | _ => []

/-- The rebroadcasts a step sends to the LoRa queue. -/
def relayedIn (state : MeshState S) : Event → List RadioFrame
  | .rebroadcastDue =>
      if state.started then
        (fireRebroadcast state.ctx).txToLora.drop state.ctx.txToLora.length
      else []
  | _ => []

variable [MeshStorage S]

/-- The packets taken for new over a run. -/
def newOver (state : MeshState S) (events : List Event) : List PacketKey :=
  Transition.observed (step env) (newIn env) state events

/-- The rebroadcasts sent over a run. -/
def relayedOver (state : MeshState S) (events : List Event) : List RadioFrame :=
  Transition.observed (step env) relayedIn state events

end MeshState

/-- Between two occurrences of a key there are two hundred other, pairwise distinct ones. -/
def Spaced (keys : List PacketKey) : Prop :=
  ∀ key before between after, keys = before ++ key :: (between ++ key :: after) →
    ∃ others : List PacketKey, others.Sublist between ∧ others.Nodup ∧ key ∉ others ∧
      others.length = DUPLICATE_RING_SIZE

/-! ## The queue -/

namespace RelayState

/-- How many queued relays are of a packet. -/
def pendingOf (st : RelayState) (key : PacketKey) : Nat :=
  st.queue.toList.countP fun p => p.frame.key == some key

def newKey (st : RelayState) : RelayInput → Option PacketKey
  | .heard _ header role _ =>
      if (st.filter header role).1 = .new then some header.key else none
  | _ => none

theorem key_relayed (st : RelayState) {frame : RadioFrame} {header : PacketHeader}
    (h : frame.header = some header) : (st.relayed frame header).key = some header.key :=
  RadioFrame.key_withRewrittenHeader h _ _

theorem countP_singleton_relayed (st : RelayState) {frame : RadioFrame}
    {header : PacketHeader} (h : frame.header = some header) (deadline : Nat)
    (key : PacketKey) :
    [({ frame := st.relayed frame header, deadline := deadline } : PendingRebroadcast)].countP
      (fun p => p.frame.key == some key) = [header.key].count key := by
  rw [List.countP_singleton, List.count_singleton, st.key_relayed h]
  rfl

theorem pendingOf_schedule_le (st : RelayState) {frame : RadioFrame} {header : PacketHeader}
    (hheader : frame.header = some header) (deadline : Nat) (key : PacketKey) :
    (st.schedule frame header deadline).pendingOf key ≤
      [header.key].count key + st.pendingOf key := by
  obtain ⟨kept, hkept, hqueue⟩ := FromRadio.toList_queueRebroadcast st.queue
    { frame := st.relayed frame header, deadline := deadline }
  have hqueue' : (st.schedule frame header deadline).queue.toList = kept ++
      [{ frame := st.relayed frame header, deadline := deadline }] := hqueue
  have hle := hkept.countP_le fun p => p.frame.key == some key
  unfold pendingOf
  rw [hqueue', List.countP_append, st.countP_singleton_relayed hheader]
  omega

theorem pendingOf_upgrade (st : RelayState) {frame : RadioFrame} {header : PacketHeader}
    (hheader : frame.header = some header) (key : PacketKey) :
    (st.upgrade frame header).pendingOf key = st.pendingOf key := by
  rcases st.upgrade_cases frame header with hsame | ⟨old, kept, hkey, hbefore, hafter⟩
  · rw [hsame]
  · unfold pendingOf
    rw [hbefore.countP_eq, hafter.countP_eq, List.countP_cons, List.countP_cons,
      st.key_relayed hheader, hkey]

theorem pendingOf_cancel_le (st : RelayState) (header : PacketHeader) (key : PacketKey) :
    (st.cancel header).pendingOf key ≤ st.pendingOf key :=
  List.Sublist.countP_le List.filter_sublist

theorem pendingOf_fire (st : RelayState) (now : Nat) (key : PacketKey) :
    (st.sends (.due now)).toList.countP (fun frame => frame.key == some key) +
      (st.fire now).pendingOf key = st.pendingOf key := by
  have hsends : st.sends (.due now) = (st.nextDue now).map fun due => due.2.frame := rfl
  rw [hsends]
  unfold fire
  cases hdue : st.nextDue now with
  | none => exact Nat.zero_add _
  | some due =>
      obtain ⟨i, pending⟩ := due
      obtain ⟨hi, hpending⟩ := List.getElem?_eq_some_iff.mp (getElem?_of_nextDue hdue)
      have hperm := (st.queue.perm_swapRemove i hi).countP_eq
        (p := fun p => p.frame.key == some key)
      unfold pendingOf
      rw [hperm, hpending, List.countP_cons, Option.map_some, Option.toList_some,
        List.countP_singleton]
      exact Nat.add_comm _ _

/-! ## One step -/

theorem pendingOf_hear_le (st : RelayState) {frame : RadioFrame} {header : PacketHeader}
    (hheader : frame.header = some header) (role : DeviceRole) (deadline : Option Nat)
    (key : PacketKey) :
    (st.hear frame header role deadline).pendingOf key ≤
      (st.newKey (.heard frame header role deadline)).toList.count key + st.pendingOf key := by
  have hnew : st.newKey (.heard frame header role deadline) =
      if (st.filter header role).1 = .new then some header.key else none := rfl
  rw [hnew]
  cases hfilter : st.filter header role with
  | mk verdict router =>
      have hsame : { st with router := router }.pendingOf key = st.pendingOf key := rfl
      cases verdict with
      | new =>
          rw [hear_of_new hfilter, if_pos rfl, Option.toList_some, ← hsame]
          cases deadline with
          | some deadline => exact pendingOf_schedule_le _ hheader deadline key
          | none => exact Nat.le_add_left _ _
      | duplicateUpgrade newHop =>
          rw [hear_of_upgrade hfilter, pendingOf_upgrade _ hheader, hsame]
          exact Nat.le_add_left _ _
      | duplicateCancelRelay =>
          rw [hear_of_cancel hfilter, ← hsame]
          exact Nat.le_trans (pendingOf_cancel_le _ header key) (Nat.le_add_left _ _)
      | duplicateDrop =>
          rw [hear_of_drop hfilter, hsame]
          exact Nat.le_add_left _ _

end RelayState

/-! ## Sent at most as often as new -/

namespace Handlers.FromRadio

variable {S : Type} [MeshStorage S] {env : Env}

theorem newKey_eq (ctx : MeshCtx S) (frame : RadioFrame) (metadata : RadioMetadata) :
    newKey env ctx frame =
      (relayInput env ctx frame metadata).bind ctx.relayState.newKey := by
  unfold newKey relayInput
  cases frame.header with
  | none => rfl
  | some header =>
      dsimp only
      split
      · rfl
      · cases tryDecryptAndDecode env frame header ctx.device ctx.nodeDb ctx.pkcPrivBytes with
        | decoded decoded => rfl
        | pkiUnknownPubkey => rfl
        | drop =>
            dsimp only
            split <;> rfl

theorem eq_heard_of_decodes {ctx : MeshCtx S} {frame : RadioFrame} {metadata : RadioMetadata}
    {input : RelayInput} (hdecodes : Decodes env ctx frame)
    (h : relayInput env ctx frame metadata = some input) :
    ∃ header role deadline, frame.header = some header ∧
      input = .heard frame header role deadline := by
  unfold relayInput at h
  cases hheader : frame.header with
  | none =>
      rw [hheader] at h
      cases h
  | some header =>
      rw [hheader] at h
      dsimp only at h
      by_cases hsender : header.sender = ctx.device.myNodeNum
      · rw [if_pos hsender] at h
        cases h
      · obtain ⟨decoded, hdecoded⟩ := hdecodes header hheader hsender
        rw [if_neg hsender, hdecoded] at h
        exact ⟨header, _, _, rfl, (Option.some.inj h).symm⟩

end Handlers.FromRadio

namespace MeshState

variable {S : Type} [MeshStorage S] {env : Env}

omit [MeshStorage S] in
theorem relayedIn_rebroadcastDue {state : MeshState S} (hstarted : state.started = true) :
    relayedIn state .rebroadcastDue =
      (state.ctx.relayState.sends (.due state.ctx.now)).toList := by
  have hsends : state.ctx.relayState.sends (.due state.ctx.now) =
      (state.ctx.relayState.nextDue state.ctx.now).map fun due => due.2.frame := rfl
  unfold relayedIn
  dsimp only
  rw [if_pos hstarted, fireRebroadcast_eq, hsends]
  cases state.ctx.relayState.nextDue state.ctx.now with
  | none => exact List.drop_length
  | some due => exact List.drop_left

omit [MeshStorage S] in
theorem relayedIn_of_not_started {state : MeshState S} (hstarted : ¬ state.started = true)
    (event : Event) : relayedIn state event = [] := by
  unfold relayedIn
  split
  · exact if_neg hstarted
  · rfl

def ReceptionDecodes (env : Env) (state : MeshState S) (event : Event) : Prop :=
  ∀ frame metadata, state.started = true → event = .mesh (.loraRx frame metadata) →
    FromRadio.Decodes env (noteActivity state.ctx (.loraRx frame metadata)) frame

def reads (env : Env) (state : MeshState S) : Event → Bool
  | .mesh (.loraRx frame _) =>
      match frame.header with
      | none => true
      | some header =>
          header.sender == state.ctx.device.myNodeNum ||
            match FromRadio.tryDecryptAndDecode env frame header state.ctx.device
              state.ctx.nodeDb state.ctx.pkcPrivBytes with
            | .decoded _ => true
            | _ => false
  | _ => true

omit [MeshStorage S] in
theorem receptionDecodes_of_reads {state : MeshState S} {event : Event}
    (h : reads env state event = true) : ReceptionDecodes env state event := by
  intro frame metadata _ hevent header hheader hsender
  subst hevent
  unfold reads at h
  dsimp only at h
  rw [hheader] at h
  dsimp only at h
  have hother : (header.sender == state.ctx.device.myNodeNum) = false :=
    beq_eq_false_iff_ne.mpr hsender
  rw [hother, Bool.false_or] at h
  split at h
  · rename_i decoded hdecoded
    exact ⟨decoded, hdecoded⟩
  · cases h

/-- What the work of a step sends, and what is queued after it, was queued or is new. -/
theorem relayedIn_handled_le {state : MeshState S} {event : Event}
    (hdecodes : ReceptionDecodes env state event) (key : PacketKey) :
    (relayedIn state event).countP (fun frame => frame.key == some key) +
      (handled env state event).relayState.pendingOf key ≤
    (newIn env state event).count key + state.ctx.relayState.pendingOf key := by
  rw [relayState_handled]
  by_cases hstarted : state.started = true
  · cases event with
    | mesh event =>
        cases event with
        | loraRx frame metadata =>
            have hnone : relayedIn state (.mesh (.loraRx frame metadata)) = [] := rfl
            have hnew : newIn env state (.mesh (.loraRx frame metadata)) =
                (FromRadio.newKey env (noteActivity state.ctx (.loraRx frame metadata))
                  frame).toList := if_pos hstarted
            rw [hnone, hnew, workInput_loraRx hstarted,
              FromRadio.newKey_eq _ frame metadata, relayState_noteActivity, List.countP_nil,
              Nat.zero_add]
            cases hinput : FromRadio.relayInput env
                (noteActivity state.ctx (.loraRx frame metadata)) frame metadata with
            | none => exact Nat.le_add_left _ _
            | some input =>
                obtain ⟨header, role, deadline, hheader, rfl⟩ :=
                  FromRadio.eq_heard_of_decodes (hdecodes frame metadata hstarted rfl) hinput
                exact state.ctx.relayState.pendingOf_hear_le hheader role deadline key
        | _ => exact Nat.le_of_eq rfl
    | rebroadcastDue =>
        rw [workInput_rebroadcastDue hstarted, relayedIn_rebroadcastDue hstarted]
        have hfire := state.ctx.relayState.pendingOf_fire state.ctx.now key
        exact Nat.le_trans (Nat.le_of_eq hfire) (Nat.le_add_left _ _)
    | _ => exact Nat.le_of_eq rfl
  · rw [relayedIn_of_not_started hstarted, workInput_of_not_started hstarted, List.countP_nil,
      Nat.zero_add]
    exact Nat.le_add_left _ _

theorem relayedIn_step_le {state : MeshState S} {event : Event}
    (hdecodes : ReceptionDecodes env state event) (key : PacketKey) :
    (relayedIn state event).countP (fun frame => frame.key == some key) +
      (step env state event).ctx.relayState.pendingOf key ≤
    (newIn env state event).countP (· == key) + state.ctx.relayState.pendingOf key := by
  have hhandled := relayedIn_handled_le hdecodes key
  cases hrestart : restarts env state event with
  | false =>
      rw [(step_of_not_restarts hrestart).relayState_eq]
      exact hhandled
  | true =>
      -- nothing is queued after a restart
      obtain ⟨housed, -, hreboot⟩ := step_of_restarts hrestart
      have hempty : (step env state event).ctx.relayState.pendingOf key = 0 := by
        rw [hreboot]
        rfl
      rw [hempty]
      exact Nat.le_trans (Nat.add_le_add_left (Nat.zero_le _) _) hhandled

theorem relayedOver_le {state : MeshState S} {events : List Event}
    (hdecodes : Transition.Always (step env) (ReceptionDecodes env) state events)
    (hempty : state.ctx.pendingRebroadcast = Bounded.empty) (key : PacketKey) :
    (relayedOver env state events).countP (fun frame => frame.key == some key) ≤
      (newOver env state events).count key := by
  have hrun := Transition.countP_observed_le
    (fun state : MeshState S => state.ctx.relayState.pendingOf key)
    (fun _ _ hok => relayedIn_step_le hok key) hdecodes
  have hstock : state.ctx.relayState.pendingOf key = 0 := by
    unfold RelayState.pendingOf MeshCtx.relayState
    dsimp only
    rw [hempty]
    rfl
  rw [hstock, Nat.add_zero] at hrun
  exact Nat.le_trans (Nat.le_add_right _ _) hrun

end MeshState

/-! ## New at most once in two hundred -/

def PacketRecord.key (record : PacketRecord) : Option PacketKey :=
  if record.valid then some (record.sender, record.packetId) else none

namespace MeshRouter

def knownKeys (router : MeshRouter) : List (Option PacketKey) :=
  router.history.recent.map PacketRecord.key

theorem isFor_iff {record : PacketRecord} {sender packetId : UInt32} :
    record.isFor sender packetId = true ↔ record.key = some (sender, packetId) := by
  unfold PacketRecord.isFor PacketRecord.key
  cases record.valid <;> simp

theorem findRecord_eq_none_iff {router : MeshRouter} {sender packetId : UInt32} :
    router.findRecord sender packetId = none ↔ some (sender, packetId) ∉ router.knownKeys := by
  unfold findRecord knownKeys
  rw [RingBuffer.find_eq_none_iff, List.mem_map]
  constructor
  · rintro hnone ⟨record, hrecord, hkey⟩
    have hfor := isFor_iff.mpr hkey
    rw [hnone record ((RingBuffer.mem_recent_iff _ _).mp hrecord)] at hfor
    cases hfor
  · intro hunknown record hrecord
    apply Bool.eq_false_iff.mpr
    intro hfor
    exact hunknown ⟨record, (RingBuffer.mem_recent_iff _ _).mpr hrecord, isFor_iff.mp hfor⟩

theorem key_addRelayer (record : PacketRecord) (relayNode : UInt8) :
    (record.addRelayer relayNode).key = record.key := by
  unfold PacketRecord.addRelayer
  split
  · rfl
  · split <;> rfl

theorem knownKeys_modifyRecord (router : MeshRouter) (idx : Nat)
    {f : PacketRecord → PacketRecord} (h : ∀ record, (f record).key = record.key) :
    (router.modifyRecord idx f).knownKeys = router.knownKeys :=
  RingBuffer.map_recent_modify h router.history idx

theorem knownKeys_recordPacket (router : MeshRouter) (sender packetId : UInt32)
    (hopLimit : UInt8) :
    (router.recordPacket sender packetId hopLimit).knownKeys =
      (some (sender, packetId) :: router.knownKeys).take DUPLICATE_RING_SIZE := by
  unfold knownKeys recordPacket
  dsimp only
  rw [RingBuffer.recent_push, List.map_take]
  rfl

/-- A packet is new when its key is not known, and is then the newest one known. -/
theorem shouldFilterReceived_cases (router : MeshRouter) (sender packetId : UInt32)
    (hopLimit relayNode : UInt8) (pendingHopLimit : Option UInt8) (role : DeviceRole) :
    let filtered :=
      router.shouldFilterReceived sender packetId hopLimit relayNode pendingHopLimit role
    (filtered.1 = .new ∧ some (sender, packetId) ∉ router.knownKeys ∧
      filtered.2.knownKeys =
        (some (sender, packetId) :: router.knownKeys).take DUPLICATE_RING_SIZE) ∨
    (filtered.1 ≠ .new ∧ some (sender, packetId) ∈ router.knownKeys ∧
      filtered.2.knownKeys = router.knownKeys) := by
  intro filtered
  cases hfind : router.findRecord sender packetId with
  | none =>
      left
      refine ⟨?_, findRecord_eq_none_iff.mp hfind, ?_⟩
      · unfold filtered shouldFilterReceived
        rw [hfind]
      · unfold filtered shouldFilterReceived
        rw [hfind]
        dsimp only
        rw [knownKeys_modifyRecord _ _ fun record => key_addRelayer record relayNode]
        exact knownKeys_recordPacket _ _ _ _
  | some idx =>
      right
      have hknown : some (sender, packetId) ∈ router.knownKeys := by
        by_contra hunknown
        rw [findRecord_eq_none_iff.mpr hunknown] at hfind
        cases hfind
      unfold filtered
      rw [shouldFilterReceived_of_find hfind]
      have hrelayer := router.knownKeys_modifyRecord idx fun record =>
        key_addRelayer record relayNode
      split
      · exact ⟨by simp, hknown, router.knownKeys_modifyRecord idx fun record =>
          key_addRelayer record relayNode⟩
      · split
        · exact ⟨by simp, hknown, hrelayer⟩
        · exact ⟨by simp, hknown, hrelayer⟩

end MeshRouter

namespace RelayState

theorem filter_cases (st : RelayState) (header : PacketHeader) (role : DeviceRole) :
    ((st.filter header role).1 = .new ∧ some header.key ∉ st.router.knownKeys ∧
      (st.filter header role).2.knownKeys =
        (some header.key :: st.router.knownKeys).take DUPLICATE_RING_SIZE) ∨
    ((st.filter header role).1 ≠ .new ∧ some header.key ∈ st.router.knownKeys ∧
      (st.filter header role).2.knownKeys = st.router.knownKeys) :=
  st.router.shouldFilterReceived_cases header.sender header.packetId _ _ _ role

theorem router_hear (st : RelayState) (frame : RadioFrame) (header : PacketHeader)
    (role : DeviceRole) (deadline : Option Nat) :
    (st.hear frame header role deadline).router = (st.filter header role).2 := by
  cases hfilter : st.filter header role with
  | mk verdict router =>
      cases verdict with
      | new =>
          rw [hear_of_new hfilter]
          cases deadline <;> rfl
      | duplicateUpgrade newHop =>
          rw [hear_of_upgrade hfilter]
          unfold upgrade
          dsimp only
          split <;> rfl
      | duplicateCancelRelay =>
          rw [hear_of_cancel hfilter]
          rfl
      | duplicateDrop => rw [hear_of_drop hfilter]

theorem knownKeys_hearBlind (st : RelayState) (frame : RadioFrame) (header : PacketHeader)
    (deadline : Nat) :
    (st.hearBlind frame header deadline).router.knownKeys = st.router.knownKeys := by
  have hseen : (st.router.shouldRelayOpaque header.sender header.packetId header.hopStart
      header.hopLimit).2.knownKeys = st.router.knownKeys := by
    unfold MeshRouter.shouldRelayOpaque
    dsimp only
    split
    · rfl
    · split <;> rfl
  unfold hearBlind
  dsimp only
  split
  · exact hseen
  · exact hseen

theorem knownKeys_step (st : RelayState) {input : RelayInput}
    (h : ∀ nodeNum, input ≠ .reset nodeNum) :
    (∃ key, st.newKey input = some key ∧ some key ∉ st.router.knownKeys ∧
      (st.step input).router.knownKeys =
        (some key :: st.router.knownKeys).take DUPLICATE_RING_SIZE) ∨
    (st.newKey input = none ∧ (st.step input).router.knownKeys = st.router.knownKeys) := by
  cases input with
  | heard frame header role deadline =>
      have hkey : st.newKey (.heard frame header role deadline) =
          if (st.filter header role).1 = .new then some header.key else none := rfl
      have hrouter : (st.step (.heard frame header role deadline)).router =
          (st.filter header role).2 := st.router_hear frame header role deadline
      rw [hkey, hrouter]
      rcases st.filter_cases header role with ⟨hnew, hunknown, hknown⟩ | ⟨hduplicate, -, hknown⟩
      · rw [if_pos hnew]
        exact Or.inl ⟨header.key, rfl, hunknown, hknown⟩
      · rw [if_neg hduplicate]
        exact Or.inr ⟨rfl, hknown⟩
  | blind frame header deadline =>
      exact Or.inr ⟨rfl, st.knownKeys_hearBlind frame header deadline⟩
  | due now =>
      refine Or.inr ⟨rfl, ?_⟩
      change (st.fire now).router.knownKeys = st.router.knownKeys
      unfold fire
      split <;> rfl
  | reset nodeNum => exact absurd rfl (h nodeNum)

end RelayState

namespace MeshState

variable {S : Type} [MeshStorage S] {env : Env}

theorem newIn_eq (state : MeshState S) (event : Event) :
    newIn env state event =
      ((workInput env state event).bind state.ctx.relayState.newKey).toList := by
  by_cases hstarted : state.started = true
  · cases event with
    | mesh event =>
        cases event with
        | loraRx frame metadata =>
            rw [workInput_loraRx hstarted, ← relayState_noteActivity state.ctx
              (.loraRx frame metadata), ← FromRadio.newKey_eq]
            exact if_pos hstarted
        | _ => rfl
    | rebroadcastDue => rw [workInput_rebroadcastDue hstarted]; rfl
    | _ => rfl
  · have hnone : newIn env state event = [] := by
      unfold newIn
      split
      · exact if_neg hstarted
      · rfl
    rw [hnone, workInput_of_not_started hstarted]
    rfl

/-- The history remembers the keys, the newest first. -/
def Remembers (state : MeshState S) (keys : List PacketKey) : Prop :=
  (keys.take DUPLICATE_RING_SIZE).map some <+: state.ctx.router.knownKeys

theorem Remembers.step {state : MeshState S} {keys : List PacketKey} {event : Event}
    (h : Remembers state keys) (hrestart : restarts env state event = false)
    (hfresh : FreshWithin DUPLICATE_RING_SIZE keys) :
    Remembers (MeshState.step env state event) ((newIn env state event).reverse ++ keys) ∧
      FreshWithin DUPLICATE_RING_SIZE ((newIn env state event).reverse ++ keys) := by
  have hrouter : (MeshState.step env state event).ctx.router =
      ((workInput env state event).toList.foldl RelayState.step
        state.ctx.relayState).router := by
    rw [← relayState_handled, ← (step_of_not_restarts hrestart).relayState_eq]
    rfl
  unfold Remembers
  rw [hrouter, newIn_eq]
  cases hinput : workInput env state event with
  | none => exact ⟨h, hfresh⟩
  | some input =>
      have hreset : ∀ nodeNum, input ≠ .reset nodeNum := by
        rintro nodeNum rfl
        rcases workInput_eq_some hinput with ⟨_, _, _, hframe, _⟩ | ⟨_, hdue⟩
        · cases hframe
        · cases hdue
      rcases state.ctx.relayState.knownKeys_step hreset with
        ⟨key, hkey, hunknown, hknown⟩ | ⟨hnone, hknown⟩
      · have hprefix : ((key :: keys).take DUPLICATE_RING_SIZE).map some <+:
            (some key :: state.ctx.router.knownKeys).take DUPLICATE_RING_SIZE := by
          rw [List.map_take, List.map_cons]
          apply take_prefix_take_cons
          rw [← List.map_take]
          exact h
        have hunseen : key ∉ keys.take DUPLICATE_RING_SIZE := by
          intro hseen
          exact hunknown (h.subset (List.mem_map_of_mem hseen))
        rw [Option.bind_some, hkey]
        exact ⟨hknown ▸ hprefix, hunseen, hfresh⟩
      · rw [Option.bind_some, hnone]
        refine ⟨?_, hfresh⟩
        exact hknown ▸ h

theorem Remembers.run {state : MeshState S} {keys : List PacketKey} {events : List Event}
    (h : Remembers state keys) (hfresh : FreshWithin DUPLICATE_RING_SIZE keys)
    (hrestarts : Transition.Always (MeshState.step env)
      (fun state event => restarts env state event = false) state events) :
    FreshWithin DUPLICATE_RING_SIZE ((newOver env state events).reverse ++ keys) := by
  induction events generalizing state keys with
  | nil => exact hfresh
  | cons event events ih =>
      obtain ⟨hrestart, hrest⟩ := Transition.always_cons.mp hrestarts
      obtain ⟨hremembers, hfresh'⟩ := h.step hrestart hfresh
      have hsplit : newOver env state (event :: events) =
          newIn env state event ++ newOver env (MeshState.step env state event) events :=
        Transition.observed_cons _ _ _ _
      rw [hsplit, List.reverse_append, List.append_assoc]
      exact ih hremembers hfresh' hrest

theorem spaced_newOver {state : MeshState S} {events : List Event}
    (hrestarts : Transition.Always (MeshState.step env)
      (fun state event => restarts env state event = false) state events) :
    Spaced (newOver env state events) := by
  have hfresh : FreshWithin DUPLICATE_RING_SIZE (newOver env state events).reverse := by
    have hnothing : Remembers state [] := List.nil_prefix
    have hrun := hnothing.run trivial hrestarts
    rwa [List.append_nil] at hrun
  intro key before between after hkeys
  have hreverse : (newOver env state events).reverse =
      after.reverse ++ key :: (between.reverse ++ key :: before.reverse) := by
    rw [hkeys]
    simp
  rw [hreverse] at hfresh
  obtain ⟨others, hsub, hnodup, hkey, hlength⟩ := hfresh.exists_between
  refine ⟨others.reverse, ?_, List.nodup_reverse.mpr hnodup, ?_, ?_⟩
  · have hsub' := hsub.reverse
    rwa [List.reverse_reverse] at hsub'
  · rwa [List.mem_reverse]
  · rwa [List.length_reverse]

/-- In a run in which every received frame decodes, a packet is relayed at most as often
as it was new, and in a stretch without a restart it is new again only after two hundred
others. -/
theorem relaysOnce (mac : Bytes) (storage : S) (pkcKeypair : Key × Key)
    (entropy : Nat → UInt32) (events : List Event)
    (hdecodes : EveryReception env mac storage pkcKeypair entropy events
      fun ctx frame _ => FromRadio.Decodes env ctx frame) :
    (∀ key, (relayedOver env (boot env mac storage pkcKeypair entropy) events).countP
        (fun frame => frame.key == some key) ≤
      (newOver env (boot env mac storage pkcKeypair entropy) events).count key) ∧
    ∀ earlier stretch later, events = earlier ++ (stretch ++ later) →
      Transition.Always (MeshState.step env)
        (fun state event => restarts env state event = false)
        (after env mac storage pkcKeypair entropy earlier) stretch →
      Spaced (newOver env (after env mac storage pkcKeypair entropy earlier) stretch) := by
  constructor
  · intro key
    apply relayedOver_le _ rfl key
    intro t ht frame metadata hstarted hevent
    exact hdecodes t ht frame metadata hstarted hevent
  · intro _ _ _ _ hrestarts
    exact spaced_newOver hrestarts

/-- A broadcast of node `0x11223345` in the clear, under no channel's hash. -/
def plainFrame : RadioFrame where
  bytes :=
    [0xff, 0xff, 0xff, 0xff, 0x45, 0x33, 0x22, 0x11, 0x0a, 0x00, 0x00, 0x00, 0x63, 0x99, 0x00,
     0x45, 0x08, 0x01, 0x12, 0x02, 0x68, 0x69]
  length_le := by decide

/-- Another of node `0x11223344`. -/
def plainFrame' : RadioFrame where
  bytes :=
    [0xff, 0xff, 0xff, 0xff, 0x44, 0x33, 0x22, 0x11, 0x0b, 0x00, 0x00, 0x00, 0x63, 0x99, 0x00,
     0x44, 0x08, 0x01, 0x12, 0x02, 0x68, 0x69]
  length_le := by decide

/-- Both are relayed, and a copy of the one is not; after a power cycle it is relayed again. -/
def repeatedHearing : List Event :=
  [.announce, .mesh (.loraRx plainFrame ⟨0, 0⟩), .mesh (.loraRx plainFrame' ⟨0, 0⟩),
    .rebroadcastDue, .rebroadcastDue, .mesh (.loraRx plainFrame ⟨0, 0⟩), .powerCycle, .announce,
    .mesh (.loraRx plainFrame ⟨0, 0⟩), .rebroadcastDue]

def hearingNode : MeshState FakeStorage :=
  boot KnownAnswers.defaultKey.env KnownAnswers.mac {} KnownAnswers.noKeypair
    KnownAnswers.noEntropy

theorem repeatedHearing_decodes :
    EveryReception KnownAnswers.defaultKey.env KnownAnswers.mac ({} : FakeStorage)
      KnownAnswers.noKeypair KnownAnswers.noEntropy repeatedHearing
      fun ctx frame _ => FromRadio.Decodes KnownAnswers.defaultKey.env ctx frame := by
  have hreads : Transition.Always (MeshState.step KnownAnswers.defaultKey.env)
      (fun state event => reads KnownAnswers.defaultKey.env state event = true) hearingNode
      repeatedHearing := by
    decide +kernel
  intro t ht
  exact receptionDecodes_of_reads (hreads t ht)

/-- Every frame decodes, and the packet heard again after the power cycle is new both times. -/
theorem repeatedHearing_not_spaced :
    EveryReception KnownAnswers.defaultKey.env KnownAnswers.mac ({} : FakeStorage)
      KnownAnswers.noKeypair KnownAnswers.noEntropy repeatedHearing
      (fun ctx frame _ => FromRadio.Decodes KnownAnswers.defaultKey.env ctx frame) ∧
    ¬ Spaced (newOver KnownAnswers.defaultKey.env hearingNode repeatedHearing) := by
  refine ⟨repeatedHearing_decodes, fun hspaced => ?_⟩
  have hnew : newOver KnownAnswers.defaultKey.env hearingNode repeatedHearing =
      [(0x11223345, 10), (0x11223344, 11), (0x11223345, 10)] := by
    decide +kernel
  rw [hnew] at hspaced
  obtain ⟨others, hsub, -, -, hlength⟩ := hspaced (0x11223345, 10) [] [(0x11223344, 11)] [] rfl
  have hle := hsub.length_le
  rw [hlength] at hle
  exact absurd hle (by decide)

theorem repeatedHearing_relaysOnce :
    (relayedOver KnownAnswers.defaultKey.env hearingNode repeatedHearing).map RadioFrame.key =
      [some (0x11223345, 10), some (0x11223344, 11), some (0x11223345, 10)] ∧
    (∀ key, (relayedOver KnownAnswers.defaultKey.env hearingNode repeatedHearing).countP
        (fun frame => frame.key == some key) ≤
      (newOver KnownAnswers.defaultKey.env hearingNode repeatedHearing).count key) ∧
    Spaced (newOver KnownAnswers.defaultKey.env hearingNode (repeatedHearing.take 6)) := by
  have honce := relaysOnce KnownAnswers.mac ({} : FakeStorage) KnownAnswers.noKeypair
    KnownAnswers.noEntropy repeatedHearing repeatedHearing_decodes
  exact ⟨by decide +kernel, honce.1,
    honce.2 [] (repeatedHearing.take 6) (repeatedHearing.drop 6) rfl (by decide +kernel)⟩

end MeshState

end Meshtastenstein
