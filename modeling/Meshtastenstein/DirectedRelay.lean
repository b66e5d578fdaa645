import Meshtastenstein.Delivery
import Meshtastenstein.Relaying
/-!
# Relays of directed frames

A directed frame is relayed only by the node it names as the next hop, and it leaves that
node under the same next hop.
-/

namespace Meshtastenstein

open Lib Proto Handlers

/-! ## The router's own number -/

namespace MeshRouter

theorem ourNodeNum_shouldFilterReceived (router : MeshRouter) (sender packetId : UInt32)
    (hopLimit relayNode : UInt8) (pendingHopLimit : Option UInt8) (role : DeviceRole) :
    (router.shouldFilterReceived sender packetId hopLimit relayNode pendingHopLimit
      role).2.ourNodeNum = router.ourNodeNum := by
  cases hfind : router.findRecord sender packetId with
  | none =>
      unfold shouldFilterReceived
      rw [hfind]
      rfl
  | some idx =>
      rw [shouldFilterReceived_of_find hfind]
      split
      · rfl
      · split <;> rfl

theorem ourNodeNum_shouldRelayOpaque (router : MeshRouter) (sender packetId : UInt32)
    (hopStart hopLimit : UInt8) :
    (router.shouldRelayOpaque sender packetId hopStart hopLimit).2.ourNodeNum =
      router.ourNodeNum := by
  unfold shouldRelayOpaque
  dsimp only
  split
  · rfl
  · split <;> rfl

end MeshRouter

namespace RelayState

def KnowsNode (st : RelayState) : Prop := st.router.ourNodeNum = st.nodeNum

theorem KnowsNode.upgrade {st : RelayState} (h : st.KnowsNode) (frame : RadioFrame)
    (header : PacketHeader) : (st.upgrade frame header).KnowsNode := by
  unfold RelayState.upgrade
  split <;> exact h

theorem KnowsNode.step {st : RelayState} (h : st.KnowsNode) (input : RelayInput) :
    (st.step input).KnowsNode := by
  cases input with
  | heard frame header role deadline =>
      have hrouter : { st with router := (st.filter header role).2 }.KnowsNode :=
        (MeshRouter.ourNodeNum_shouldFilterReceived ..).trans h
      change (st.hear frame header role deadline).KnowsNode
      cases hfilter : st.filter header role with
      | mk verdict router =>
          rw [hfilter] at hrouter
          cases verdict with
          | new =>
              rw [hear_of_new hfilter]
              cases deadline <;> exact hrouter
          | duplicateUpgrade newHop =>
              rw [hear_of_upgrade hfilter]
              exact hrouter.upgrade frame header
          | duplicateCancelRelay =>
              rw [hear_of_cancel hfilter]
              exact hrouter
          | duplicateDrop =>
              rw [hear_of_drop hfilter]
              exact hrouter
  | blind frame header deadline =>
      have hrouter : { st with router := (st.router.shouldRelayOpaque header.sender
          header.packetId header.hopStart header.hopLimit).2 }.KnowsNode :=
        (MeshRouter.ourNodeNum_shouldRelayOpaque ..).trans h
      change (st.hearBlind frame header deadline).KnowsNode
      unfold hearBlind
      dsimp only
      split
      · exact hrouter
      · exact hrouter
  | due now =>
      change (st.fire now).KnowsNode
      unfold fire
      split <;> exact h
  | reset nodeNum => rfl

end RelayState

namespace MeshState

variable {S : Type} [MeshStorage S] {env : Env}

theorem knowsNode_after (mac : Bytes) (storage : S) (pkcKeypair : Key × Key)
    (entropy : Nat → UInt32) (events : List Event) :
    (after env mac storage pkcKeypair entropy events).ctx.relayState.KnowsNode := by
  have hrun : ∀ (inputs : List RelayInput) (st : RelayState), st.KnowsNode →
      (Transition.run RelayState.step st inputs).KnowsNode := by
    intro inputs
    induction inputs with
    | nil => exact fun _ h => h
    | cons input inputs ih => exact fun st h => ih _ (h.step input)
  unfold after
  rw [relayState_run]
  exact hrun _ _ rfl

end MeshState

/-! ## Directed frames without a next hop -/

namespace Handlers.FromRadio

variable {S : Type} {env : Env}

/-- A first copy of a packet of another node, for a single node that is not us, with a hop
left and no next hop, heard by a node whose role relays. -/
structure DirectedFlood (env : Env) (ctx : MeshCtx S) (frame : RadioFrame)
    (header : PacketHeader) : Prop where
  header_eq : frame.header = some header
  sender_ne : header.sender ≠ ctx.device.myNodeNum
  decodes : ∃ decoded,
    tryDecryptAndDecode env frame header ctx.device ctx.nodeDb ctx.pkcPrivBytes =
      .decoded decoded
  new : (ctx.router.shouldFilterReceived header.sender header.packetId header.hopLimit
    header.relayNode (pendingHopLimit ctx header) ctx.device.role).1 = .new
  relays : shouldRebroadcastForRole ctx.device.role = true
  destination_ne_broadcast : header.destination ≠ BROADCAST_ADDR
  destination_ne : header.destination ≠ ctx.device.myNodeNum
  hopLimit_pos : 1 ≤ header.hopLimit.toNat
  nextHop_eq : header.nextHop = NO_NEXT_HOP

/-- Exactly one relay of the frame is queued. -/
def SchedulesOne (ctx : MeshCtx S) (frame : RadioFrame) (after : MeshCtx S) : Prop :=
  ∃ entry, written ctx.pendingRebroadcast after.pendingRebroadcast = [entry] ∧
    RadioFrame.IsRelayOf ctx.device.myNodeNum frame entry.frame

theorem relayDeadline_eq_none {ctx : MeshCtx S} {header : PacketHeader}
    (metadata : RadioMetadata) (hbroadcast : header.destination ≠ BROADCAST_ADDR)
    (hdest : header.destination ≠ ctx.router.ourNodeNum)
    (hnext : header.nextHop = NO_NEXT_HOP ∨
      header.nextHop ≠ lastByte ctx.router.ourNodeNum) :
    relayDeadline env ctx header metadata = none := by
  have hdirected : ctx.router.shouldRelayDirected header.destination header.nextHop = false := by
    unfold MeshRouter.shouldRelayDirected
    rw [if_neg hdest]
    rcases hnext with hnone | hother
    · simp [hnone]
    · simp [hother]
  unfold relayDeadline
  rw [if_neg]
  rintro ⟨-, -, hdest' | hrelay⟩
  · exact hbroadcast hdest'
  · rw [hdirected] at hrelay
    cases hrelay

variable [MeshStorage S]

theorem pendingRebroadcast_of_not_named {ctx : MeshCtx S} {frame : RadioFrame}
    {header : PacketHeader} {decoded : DecodedPayload} (metadata : RadioMetadata)
    (hknows : ctx.relayState.KnowsNode) (hheader : frame.header = some header)
    (hsender : header.sender ≠ ctx.device.myNodeNum)
    (hdecoded : tryDecryptAndDecode env frame header ctx.device ctx.nodeDb
      ctx.pkcPrivBytes = .decoded decoded)
    (hnew : (ctx.relayState.filter header ctx.device.role).1 = .new)
    (hbroadcast : header.destination ≠ BROADCAST_ADDR)
    (hdest : header.destination ≠ ctx.device.myNodeNum)
    (hnext : header.nextHop = NO_NEXT_HOP ∨ header.nextHop ≠ lastByte ctx.device.myNodeNum) :
    (dispatch env ctx frame metadata).pendingRebroadcast = ctx.pendingRebroadcast := by
  cases hfilter : ctx.relayState.filter header ctx.device.role with
  | mk verdict router =>
      rw [hfilter] at hnew
      obtain rfl : verdict = .new := hnew
      have hrouter : router.ourNodeNum = ctx.device.myNodeNum := by
        have hsame := MeshRouter.ourNodeNum_shouldFilterReceived ctx.router header.sender
          header.packetId header.hopLimit header.relayNode (pendingHopLimit ctx header)
          ctx.device.role
        have hfiltered : ctx.router.shouldFilterReceived header.sender header.packetId
            header.hopLimit header.relayNode (pendingHopLimit ctx header) ctx.device.role =
            (.new, router) := hfilter
        rw [hfiltered] at hsame
        exact hsame.trans hknows
      have hbefore := @relayState_beforeRelay S env _ (filtered ctx header) frame header
        metadata decoded
      have hnone : relayDeadline env (processed env ctx frame header metadata decoded) header
          metadata = none := by
        have hourNodeNum : (processed env ctx frame header metadata decoded).router.ourNodeNum =
            ctx.device.myNodeNum := by
          refine (congrArg (·.router.ourNodeNum) hbefore).trans ?_
          unfold filtered
          rw [hfilter]
          exact hrouter
        apply relayDeadline_eq_none metadata hbroadcast
        · rwa [hourNodeNum]
        · rwa [hourNodeNum]
      have hinput : relayInput env ctx frame metadata =
          some (.heard frame header ctx.device.role none) := by
        unfold relayInput
        rw [hheader]
        dsimp only
        rw [if_neg hsender, hdecoded]
        dsimp only
        rw [hnone]
      have hdispatch := @relayState_dispatch S env _ ctx frame metadata
      rw [hinput] at hdispatch
      have hqueue : (dispatch env ctx frame metadata).relayState.queue =
          (ctx.relayState.hear frame header ctx.device.role none).queue :=
        congrArg RelayState.queue hdispatch
      rw [RelayState.hear_of_new hfilter] at hqueue
      exact hqueue

/-- In every reachable state, such a frame is not relayed at all. -/
theorem directedFlood_not_scheduled (mac : Bytes) (storage : S) (pkcKeypair : Key × Key)
    (entropy : Nat → UInt32) (events : List MeshState.Event) (frame : RadioFrame)
    (metadata : RadioMetadata) (header : PacketHeader) :
    let ctx := MeshState.noteActivity
      (MeshState.after env mac storage pkcKeypair entropy events).ctx (.loraRx frame metadata)
    DirectedFlood env ctx frame header →
      (dispatch env ctx frame metadata).pendingRebroadcast = ctx.pendingRebroadcast ∧
        ¬ SchedulesOne ctx frame (dispatch env ctx frame metadata) := by
  intro ctx hflood
  have hknows : ctx.relayState.KnowsNode :=
    MeshState.knowsNode_after mac storage pkcKeypair entropy events
  obtain ⟨decoded, hdecoded⟩ := hflood.decodes
  have hqueue : (dispatch env ctx frame metadata).pendingRebroadcast = ctx.pendingRebroadcast :=
    pendingRebroadcast_of_not_named metadata hknows hflood.header_eq hflood.sender_ne hdecoded
      hflood.new hflood.destination_ne_broadcast hflood.destination_ne (Or.inl hflood.nextHop_eq)
  refine ⟨hqueue, ?_⟩
  rintro ⟨entry, hwritten, -⟩
  rw [hqueue, written_eq_nil_of_subperm (List.Subperm.refl _)] at hwritten
  cases hwritten

/-- A node that has heard nothing hears node `0x11223344` acknowledge to node
`0x99aabbcc`, without a next hop. -/
def strangerCtx : MeshCtx FakeStorage :=
  MeshState.noteActivity
    (MeshState.after KnownAnswers.defaultKey.env KnownAnswers.mac {} KnownAnswers.noKeypair
      KnownAnswers.noEntropy [.announce]).ctx (.loraRx strangerAck ⟨0, 0⟩)

theorem directedFlood_strangerAck :
    DirectedFlood KnownAnswers.defaultKey.env strangerCtx strangerAck strangerHeader where
  header_eq := by decide
  sender_ne := by decide
  decodes := ⟨strangerPayload, by decide⟩
  new := by decide
  relays := by decide
  destination_ne_broadcast := by decide
  destination_ne := by decide
  hopLimit_pos := by decide
  nextHop_eq := rfl

theorem strangerAck_not_scheduled :
    (dispatch KnownAnswers.defaultKey.env strangerCtx strangerAck ⟨0, 0⟩).pendingRebroadcast =
        strangerCtx.pendingRebroadcast ∧
      ¬ SchedulesOne strangerCtx strangerAck
        (dispatch KnownAnswers.defaultKey.env strangerCtx strangerAck ⟨0, 0⟩) := by
  have hscheduled := @directedFlood_not_scheduled FakeStorage KnownAnswers.defaultKey.env _
    KnownAnswers.mac {} KnownAnswers.noKeypair KnownAnswers.noEntropy [.announce] strangerAck
    ⟨0, 0⟩ strangerHeader
  unfold strangerCtx
  exact hscheduled directedFlood_strangerAck

/-- The acknowledgement is to be relayed, and is not. -/
theorem strangerAck_stays :
    DirectedFlood KnownAnswers.defaultKey.env strangerCtx strangerAck strangerHeader ∧
      ¬ SchedulesOne strangerCtx strangerAck
        (dispatch KnownAnswers.defaultKey.env strangerCtx strangerAck ⟨0, 0⟩) := by
  refine ⟨directedFlood_strangerAck, ?_⟩
  rintro ⟨entry, hwritten, -⟩
  have hnothing : written strangerCtx.pendingRebroadcast
      (dispatch KnownAnswers.defaultKey.env strangerCtx strangerAck
        ⟨0, 0⟩).pendingRebroadcast = [] := by decide
  rw [hnothing] at hwritten
  cases hwritten

/-! ## Directed frames that name us -/

structure NamesUs (env : Env) (ctx : MeshCtx S) (frame : RadioFrame)
    (header : PacketHeader) : Prop where
  header_eq : frame.header = some header
  sender_ne : header.sender ≠ ctx.device.myNodeNum
  decodes : ∃ decoded,
    tryDecryptAndDecode env frame header ctx.device ctx.nodeDb ctx.pkcPrivBytes =
      .decoded decoded
  destination_ne_broadcast : header.destination ≠ BROADCAST_ADDR
  nextHop_ne : header.nextHop ≠ NO_NEXT_HOP
  nextHop_eq : header.nextHop = lastByte ctx.device.myNodeNum

/-- The relay heads for the destination along the route of the node, which is not to be
reached by way of the node the frame came from, and not for the node itself. -/
def HeadsOn (ctx after : MeshCtx S) (header : PacketHeader) (relay : RadioFrame) : Prop :=
  ∃ header', relay.header = some header' ∧
    header'.nextHop =
      after.router.getNextHop after.nodeDb header.destination header.relayNode ∧
    header'.nextHop ≠ lastByte ctx.device.myNodeNum

theorem nextHop_of_mem_written {ctx : MeshCtx S} {frame : RadioFrame} {header : PacketHeader}
    {metadata : RadioMetadata} {entry : PendingRebroadcast}
    (hheader : frame.header = some header)
    (h : entry ∈ written ctx.pendingRebroadcast
      (dispatch env ctx frame metadata).pendingRebroadcast) :
    ∃ header', entry.frame.header = some header' ∧ header'.nextHop = header.nextHop := by
  obtain ⟨header₀, hheader₀, -, -, hentry⟩ := relayed_of_mem_written h
  obtain rfl := Option.some.inj (hheader.symm.trans hheader₀)
  rw [hentry]
  exact ⟨_, RadioFrame.header_withRewrittenHeader hheader _ _, rfl⟩

/-- In every reachable state, what we relay of a frame that names us names us still. -/
theorem namesUs_not_headsOn (mac : Bytes) (storage : S) (pkcKeypair : Key × Key)
    (entropy : Nat → UInt32) (events : List MeshState.Event) (frame : RadioFrame)
    (metadata : RadioMetadata) (header : PacketHeader) :
    let ctx := MeshState.noteActivity
      (MeshState.after env mac storage pkcKeypair entropy events).ctx (.loraRx frame metadata)
    NamesUs env ctx frame header →
      ∀ entry ∈ written ctx.pendingRebroadcast
        (dispatch env ctx frame metadata).pendingRebroadcast,
        ¬ HeadsOn ctx (dispatch env ctx frame metadata) header entry.frame := by
  intro ctx hnames entry hentry
  rintro ⟨header', hheader', -, hnotOurs⟩
  obtain ⟨relayed, hrelayed, hnextHop⟩ := nextHop_of_mem_written hnames.header_eq hentry
  obtain rfl := Option.some.inj (hheader'.symm.trans hrelayed)
  exact hnotOurs (hnextHop.trans hnames.nextHop_eq)

/-- The same acknowledgement, naming node `0x28123456` as its next hop. -/
def namingAck : RadioFrame where
  bytes :=
    [0xcc, 0xbb, 0xaa, 0x99, 0x44, 0x33, 0x22, 0x11, 0x09, 0x00, 0x00, 0x00, 0x63, 0x08, 0x56,
     0x44, 0x66, 0x03, 0x1b, 0x19, 0xd8, 0x03, 0x06]
  length_le := by decide

def namingHeader : PacketHeader := { strangerHeader with nextHop := 0x56 }

/-- The relay of the acknowledgement. -/
def namingRelay : RadioFrame where
  bytes :=
    [0xcc, 0xbb, 0xaa, 0x99, 0x44, 0x33, 0x22, 0x11, 0x09, 0x00, 0x00, 0x00, 0x62, 0x08, 0x56,
     0x56, 0x66, 0x03, 0x1b, 0x19, 0xd8, 0x03, 0x06]
  length_le := by decide

def namingCtx : MeshCtx FakeStorage :=
  MeshState.noteActivity
    (MeshState.after KnownAnswers.defaultKey.env KnownAnswers.mac {} KnownAnswers.noKeypair
      KnownAnswers.noEntropy [.announce]).ctx (.loraRx namingAck ⟨0, 0⟩)

theorem namesUs_namingAck :
    NamesUs KnownAnswers.defaultKey.env namingCtx namingAck namingHeader where
  header_eq := by decide
  sender_ne := by decide
  decodes := ⟨strangerPayload, by decide⟩
  destination_ne_broadcast := by decide
  nextHop_ne := by decide
  nextHop_eq := by decide

theorem written_namingAck :
    (written namingCtx.pendingRebroadcast
      (dispatch KnownAnswers.defaultKey.env namingCtx namingAck
        ⟨0, 0⟩).pendingRebroadcast).map (·.frame) = [namingRelay] := by
  decide

theorem namingAck_not_headsOn :
    ∀ entry ∈ written namingCtx.pendingRebroadcast
      (dispatch KnownAnswers.defaultKey.env namingCtx namingAck ⟨0, 0⟩).pendingRebroadcast,
      ¬ HeadsOn namingCtx (dispatch KnownAnswers.defaultKey.env namingCtx namingAck ⟨0, 0⟩)
        namingHeader entry.frame := by
  have hheadsOn := @namesUs_not_headsOn FakeStorage KnownAnswers.defaultKey.env _
    KnownAnswers.mac {} KnownAnswers.noKeypair KnownAnswers.noEntropy [.announce] namingAck
    ⟨0, 0⟩ namingHeader
  unfold namingCtx
  exact hheadsOn namesUs_namingAck

/-- The acknowledgement is relayed to the node that relays it. -/
theorem namingAck_relayed_to_itself :
    NamesUs KnownAnswers.defaultKey.env namingCtx namingAck namingHeader ∧
    ∃ entry ∈ written namingCtx.pendingRebroadcast
      (dispatch KnownAnswers.defaultKey.env namingCtx namingAck ⟨0, 0⟩).pendingRebroadcast,
      ¬ HeadsOn namingCtx (dispatch KnownAnswers.defaultKey.env namingCtx namingAck ⟨0, 0⟩)
        namingHeader entry.frame := by
  refine ⟨namesUs_namingAck, ?_⟩
  have hmem : namingRelay ∈ (written namingCtx.pendingRebroadcast
      (dispatch KnownAnswers.defaultKey.env namingCtx namingAck
        ⟨0, 0⟩).pendingRebroadcast).map (·.frame) := by
    rw [written_namingAck]
    exact List.mem_singleton_self _
  obtain ⟨entry, hentry, hframe⟩ := List.mem_map.mp hmem
  refine ⟨entry, hentry, ?_⟩
  rintro ⟨header', hheader', -, hnotOurs⟩
  have hrelay : namingRelay.header =
      some { namingHeader with flags := 0x62, relayNode := 0x56 } := by
    decide
  rw [hframe, hrelay] at hheader'
  obtain rfl := Option.some.inj hheader'
  exact hnotOurs (by decide)

end Handlers.FromRadio

end Meshtastenstein
