import Meshtastenstein.DestinationRelay
import Meshtastenstein.EndToEnd
import Meshtastenstein.Journeys
import Meshtastenstein.RelayProgress
import Meshtastenstein.RetryRuns
/-!
# How far a packet gets

A node that hears a packet for the first time, can read it and is to relay it has its relay on the
air after a while, unless the relay is pushed out, replaced or cancelled, or the node restarts.  So
a packet gets along any path of such nodes that is no longer than its hop limit, and reads at the
end as it did at first.
-/

namespace Meshtastenstein

open Lib Proto Handlers

variable {S : Type} [MeshStorage S] {env : Env}

/-! ## What a node is to relay -/

namespace Handlers.FromRadio

omit [MeshStorage S] in
/-- The first copy of a packet that the node can read, which is for everybody or names the node as
its next hop, with a hop left, in a role that relays. -/
structure ToRelay (env : Env) (ctx : MeshCtx S) (frame : RadioFrame) (header : PacketHeader)
    (decoded : DecodedPayload) : Prop where
  new : newPacket env ctx frame = some (header, decoded)
  portnum_ne : decoded.portnum ≠ PortNum.adminApp.toI32
  role : shouldRebroadcastForRole ctx.device.role = true
  hopLimit_ne : header.hopLimit ≠ 0
  ahead : header.destination = BROADCAST_ADDR ∨
    header.nextHop ≠ NO_NEXT_HOP ∧ header.nextHop = lastByte ctx.device.myNodeNum

instance (ctx : MeshCtx S) (frame : RadioFrame) (header : PacketHeader)
    (decoded : DecodedPayload) : Decidable (ToRelay env ctx frame header decoded) :=
  decidable_of_iff (newPacket env ctx frame = some (header, decoded) ∧
      decoded.portnum ≠ PortNum.adminApp.toI32 ∧ shouldRebroadcastForRole ctx.device.role = true ∧
      header.hopLimit ≠ 0 ∧ (header.destination = BROADCAST_ADDR ∨
        header.nextHop ≠ NO_NEXT_HOP ∧ header.nextHop = lastByte ctx.device.myNodeNum)) <|
    ⟨fun ⟨h₁, h₂, h₃, h₄, h₅⟩ => ⟨h₁, h₂, h₃, h₄, h₅⟩,
      fun ⟨h₁, h₂, h₃, h₄, h₅⟩ => ⟨h₁, h₂, h₃, h₄, h₅⟩⟩

theorem core_beforeRelay (ctx : MeshCtx S) (frame : RadioFrame) (header : PacketHeader)
    (metadata : RadioMetadata) {decoded : DecodedPayload}
    (hadmin : decoded.portnum ≠ PortNum.adminApp.toI32) :
    (beforeRelay env ctx frame header metadata decoded).core = ctx.core := by
  unfold beforeRelay
  dsimp only
  rw [MeshCtx.core_of_resident (resident_ackInbound _ header decoded),
    MeshCtx.core_of_resident (resident_forwardInbound _ header metadata decoded _),
    core_handlePortnum _ _ hadmin, core_bufferText _ frame decoded.portnum,
    core_noteSender ctx header metadata]

theorem relayInput_of_toRelay {ctx : MeshCtx S} {frame : RadioFrame} {header : PacketHeader}
    {decoded : DecodedPayload} (h : ToRelay env ctx frame header decoded)
    (hknows : ctx.relayState.KnowsNode) (metadata : RadioMetadata) :
    ∃ deadline, relayInput env ctx frame metadata =
      some (.heard frame header ctx.device.role (some deadline)) := by
  obtain ⟨hheader, hsender, hfind, hdecoded⟩ := newPacket_eq_some_iff.mp h.new
  have hcore := @core_beforeRelay S _ env (filtered ctx header) frame header metadata decoded
    h.portnum_ne
  have hrole : (processed env ctx frame header metadata decoded).device.role =
      ctx.device.role := congrArg (fun core => core.settings.role) hcore
  have hours : (processed env ctx frame header metadata decoded).router.ourNodeNum =
      ctx.device.myNodeNum := by
    have hrouter := MeshRouter.ourNodeNum_shouldFilterReceived ctx.router header.sender
      header.packetId header.hopLimit header.relayNode (pendingHopLimit ctx header)
      ctx.device.role
    exact (congrArg (fun core => core.router.ourNodeNum) hcore).trans (hrouter.trans hknows)
  have hhop : ((processed env ctx frame header metadata decoded).router.shouldRebroadcast
      header.hopLimit header.sender).isSome = true := by
    unfold MeshRouter.shouldRebroadcast
    rw [hours, if_neg hsender, if_neg h.hopLimit_ne]
    rfl
  have hahead : header.destination = BROADCAST_ADDR ∨
      (processed env ctx frame header metadata decoded).router.shouldRelayDirected
        header.destination header.nextHop = true := by
    refine h.ahead.imp_right ?_
    rintro ⟨hnext, hnamed⟩
    unfold MeshRouter.shouldRelayDirected
    rw [hours]
    split
    · rfl
    · rw [← hnamed]
      simp [hnext]
  obtain ⟨deadline, hdeadline⟩ : ∃ deadline, relayDeadline env
      (processed env ctx frame header metadata decoded) header metadata = some deadline := by
    unfold relayDeadline
    exact ⟨_, if_pos ⟨hrole.symm ▸ h.role, hhop, hahead⟩⟩
  refine ⟨deadline, ?_⟩
  unfold relayInput
  rw [hheader]
  dsimp only
  rw [if_neg hsender, hdecoded]
  dsimp only
  rw [hdeadline]

end Handlers.FromRadio

namespace MeshState

structure TakesUp (env : Env) (state : MeshState S) (frame : RadioFrame)
    (metadata : RadioMetadata) (header : PacketHeader) (decoded : FromRadio.DecodedPayload) :
    Prop where
  started : state.started = true
  restarts_eq : restarts env state (.mesh (.loraRx frame metadata)) = false
  toRelay : FromRadio.ToRelay env state.ctx frame header decoded

instance (state : MeshState S) (frame : RadioFrame) (metadata : RadioMetadata)
    (header : PacketHeader) (decoded : FromRadio.DecodedPayload) :
    Decidable (TakesUp env state frame metadata header decoded) :=
  decidable_of_iff (state.started = true ∧
      restarts env state (.mesh (.loraRx frame metadata)) = false ∧
      FromRadio.ToRelay env state.ctx frame header decoded) <|
    ⟨fun ⟨h₁, h₂, h₃⟩ => ⟨h₁, h₂, h₃⟩, fun ⟨h₁, h₂, h₃⟩ => ⟨h₁, h₂, h₃⟩⟩

theorem scheduled_step {state : MeshState S} {frame : RadioFrame} {metadata : RadioMetadata}
    {header : PacketHeader} {decoded : FromRadio.DecodedPayload}
    (h : TakesUp env state frame metadata header decoded)
    (hknows : state.ctx.relayState.KnowsNode) :
    ∃ entry ∈ (step env state (.mesh (.loraRx frame metadata))).ctx.pendingRebroadcast.toList,
      entry.frame = FromRadio.relayOf state.ctx frame header := by
  obtain ⟨-, -, hfind, -⟩ := FromRadio.newPacket_eq_some_iff.mp h.toRelay.new
  -- the pending packets, which hearing a frame gives more time, have no part in it
  have htoRelay : FromRadio.ToRelay env (noteActivity state.ctx (.loraRx frame metadata)) frame
      header decoded := ⟨h.toRelay.new, h.toRelay.portnum_ne, h.toRelay.role, h.toRelay.hopLimit_ne,
    h.toRelay.ahead⟩
  obtain ⟨deadline, hinput⟩ := FromRadio.relayInput_of_toRelay htoRelay hknows metadata
  have hqueue : (step env state (.mesh (.loraRx frame metadata))).ctx.pendingRebroadcast =
      (state.ctx.relayState.hear frame header state.ctx.device.role (some deadline)).queue := by
    have hstep := relayState_step_of_not_restarts h.restarts_eq
    rw [workInput_loraRx h.started, hinput] at hstep
    exact congrArg RelayState.queue hstep
  obtain ⟨entry, hentry, hframe, -⟩ :=
    @RelayState.mem_hear_of_unknown state.ctx.relayState frame header state.ctx.device.role
      deadline hfind
  rw [hqueue]
  exact ⟨entry, hentry, hframe⟩

theorem knowsNode_step {state : MeshState S} (h : state.ctx.relayState.KnowsNode) (event : Event) :
    (step env state event).ctx.relayState.KnowsNode := by
  rw [relayState_step]
  exact Transition.preserved_run (fun _ input hknows => hknows.step input) h _

end MeshState

/-! ## A hop -/

namespace MeshNetwork

/-- The events of nodes whose radios may fail. -/
abbrev RadioEvent (ι : Type) : Type :=
  Network.Event ι (MeshState.Event × Bool) RadioMetadata

variable {ι : Type} [DecidableEq ι]

/-- Node `i` gets round to a relay of the packet: the time of the relay comes, then the timer fires
eight times, then the radio takes as many frames as are queued.  Meanwhile nothing takes the relay
away. -/
structure Serves (env : Env) (net : Network ι (MeshState S) RadioFrame) (i : ι) (key : PacketKey)
    (relay : RadioFrame)
    (waiting firing taking : List (RadioEvent ι)) : Prop where
  leaves : Transition.Always (Network.step (transmitter env))
    (Network.WhenMoving (transmitter env) (MeshState.Furthers env key) i) net
    (waiting ++ firing ++ taking)
  due : ∀ entry ∈ (net.stations i).ctx.pendingRebroadcast.toList, entry.frame = relay →
    entry.deadline <
      ((Transition.run (Network.step (transmitter env)) net waiting).stations i).ctx.now
  fires : 8 ≤ firing.countP (Network.helpsAt i fun event => MeshState.isRebroadcastDue event.1)
  takes : ((Transition.run (Network.step (transmitter env)) net
      (waiting ++ firing)).stations i).ctx.txToLora.length ≤
    taking.countP (Network.helpsAt i fun event => MeshState.isLoraTaken event.1)

instance (net : Network ι (MeshState S) RadioFrame) (i : ι) (key : PacketKey) (relay : RadioFrame)
    (waiting firing taking : List (RadioEvent ι)) :
    Decidable (Serves env net i key relay waiting firing taking) :=
  decidable_of_iff (Transition.Always (Network.step (transmitter env))
        (Network.WhenMoving (transmitter env) (MeshState.Furthers env key) i) net
        (waiting ++ firing ++ taking) ∧
      (∀ entry ∈ (net.stations i).ctx.pendingRebroadcast.toList, entry.frame = relay →
        entry.deadline <
          ((Transition.run (Network.step (transmitter env)) net waiting).stations i).ctx.now) ∧
      8 ≤ firing.countP (Network.helpsAt i fun event => MeshState.isRebroadcastDue event.1) ∧
      ((Transition.run (Network.step (transmitter env)) net
          (waiting ++ firing)).stations i).ctx.txToLora.length ≤
        taking.countP (Network.helpsAt i fun event => MeshState.isLoraTaken event.1)) <|
    ⟨fun ⟨h₁, h₂, h₃, h₄⟩ => ⟨h₁, h₂, h₃, h₄⟩, fun ⟨h₁, h₂, h₃, h₄⟩ => ⟨h₁, h₂, h₃, h₄⟩⟩

/-- A relay that a node gets round to goes on the air. -/
theorem Serves.relay_mem {net : Network ι (MeshState S) RadioFrame} {i : ι} {key : PacketKey}
    {entry : PendingRebroadcast}
    {waiting firing taking : List (RadioEvent ι)}
    (h : Serves env net i key entry.frame waiting firing taking)
    (hstarted : (net.stations i).started = true)
    (hentry : entry ∈ (net.stations i).ctx.pendingRebroadcast.toList)
    (hkey : entry.frame.key = some key) :
    entry.frame ∈ (Transition.run (Network.step (transmitter env)) net
      (waiting ++ firing ++ taking)).medium := by
  obtain ⟨hleaves, htaking⟩ := Transition.always_append.mp h.leaves
  obtain ⟨hwaiting, hfiring⟩ := Transition.always_append.mp hleaves
  -- until its time has come the relay waits, unless the timer sends it at that very time
  have hbound : MeshState.Bound entry
      ((Transition.run (Network.step (transmitter env)) net waiting).stations i) ∨
      entry.frame ∈ (Transition.run (Network.step (transmitter env)) net waiting).medium :=
    @Transition.invariant_run _ _ (Network.step (transmitter env))
      (fun net => MeshState.Bound entry (net.stations i) ∨ entry.frame ∈ net.medium)
      (Network.WhenMoving (transmitter env) (MeshState.Furthers env key) i)
      (fun net event => Network.kept_step (MeshState.bound_step hkey) i net event) _ _
      (Or.inl (Or.inl ⟨hstarted, hentry⟩)) hwaiting
  have htimer := Network.progress (@MeshState.progress_timer S _ env entry key hkey) i
  have hsent : entry.frame ∈ ((Transition.run (Network.step (transmitter env)) net
        (waiting ++ firing)).stations i).ctx.txToLora ∨
      entry.frame ∈ (Transition.run (Network.step (transmitter env)) net
        (waiting ++ firing)).medium := by
    rw [Transition.run_append]
    rcases hbound with (hwaits | hsent) | hmedium
    · refine htimer.run ⟨hwaits, h.due entry hentry rfl⟩ hfiring (Nat.le_trans ?_ h.fires)
      exact Nat.le_trans List.countP_le_length
        ((Transition.run (Network.step (transmitter env)) net
          waiting).stations i).ctx.pendingRebroadcast.length_le
    · exact htimer.goal_run (Or.inl hsent) hfiring
    · exact htimer.goal_run (Or.inr hmedium) hfiring
  have hradio := Network.progress (@MeshState.progress_radio S _ env entry.frame) i
  have htaking' : Transition.Always (Network.step (transmitter env))
      (Network.WhenMoving (transmitter env) (fun state event =>
        MeshState.restarts env state event.1 = false ∧ MeshState.Sends state event) i)
      (Transition.run (Network.step (transmitter env)) net (waiting ++ firing)) taking :=
    fun t ht own hmove => ⟨(htaking t ht own hmove).1.1, (htaking t ht own hmove).2⟩
  rw [Transition.run_append]
  rcases hsent with hsent | hmedium
  · have hplace := List.idxOf_lt_length_iff.mpr hsent
    exact (hradio.run hsent htaking' (Nat.le_trans hplace h.takes)).resolve_left not_false
  · exact (hradio.goal_run (Or.inr hmedium) htaking').resolve_left not_false

/-! ## A path -/

/-- Over the events the nodes of the path hear the packet in turn, each the relay of the one before
it, are to relay it and get round to it. -/
inductive Carried (env : Env) : Network ι (MeshState S) RadioFrame → RadioFrame → List ι →
    List (RadioEvent ι) → Prop
  | arrived (net : Network ι (MeshState S) RadioFrame) (frame : RadioFrame)
      (later : List (RadioEvent ι)) :
      Carried env net frame [] later
  | relayed {net : Network ι (MeshState S) RadioFrame} {frame : RadioFrame} {i : ι} {path : List ι}
      {hearing : RadioEvent ι}
      {waiting firing taking later : List (RadioEvent ι)}
      {metadata : RadioMetadata} {header : PacketHeader} {decoded : FromRadio.DecodedPayload}
      (hmove : Network.move (transmitter env) net hearing =
        some (i, (.mesh (.loraRx frame metadata), false)))
      (htakes : (net.stations i).TakesUp env frame metadata header decoded)
      (hserves : Serves env (Network.step (transmitter env) net hearing) i header.key
        (FromRadio.relayOf (net.stations i).ctx frame header) waiting firing taking)
      (hlater : Carried env
        (Transition.run (Network.step (transmitter env))
          (Network.step (transmitter env) net hearing) (waiting ++ firing ++ taking))
        (FromRadio.relayOf (net.stations i).ctx frame header) path later) :
      Carried env net frame (i :: path) (hearing :: (waiting ++ firing ++ taking ++ later))

def ReadsLike (env : Env) (frame relay : RadioFrame) : Prop :=
  ∀ header, frame.header = some header → ∃ header', relay.header = some header' ∧
    ∀ device db pkcPriv, FromRadio.tryDecryptAndDecode env relay header' device db pkcPriv =
      FromRadio.tryDecryptAndDecode env frame header device db pkcPriv

omit [DecidableEq ι] in
theorem readsLike_of_isCopyOf {num : ι → UInt32} {frame relay : RadioFrame} {path : List ι}
    (h : RadioFrame.IsCopyOf num frame path relay) : ReadsLike env frame relay := by
  intro header hheader
  have hcontent := h.content_eq
  rw [hheader, Option.map_some] at hcontent
  obtain ⟨header', hheader', hsame⟩ := Option.map_eq_some_iff.mp hcontent
  exact ⟨header', hheader', fun device db pkcPriv =>
    FromRadio.tryDecryptAndDecode_congr h.payload_eq hsame device db pkcPriv⟩

theorem isNumbered_run {num : ι → UInt32} {net : Network ι (MeshState S) RadioFrame}
    (h : ∀ i, (net.stations i).IsNumbered (num i))
    (events : List (RadioEvent ι)) (i : ι) :
    ((Transition.run (Network.step (transmitter env)) net events).stations i).IsNumbered (num i) :=
  @Network.forall_inv_run _ _ _ _ _ (transmitter env) _
    (fun i (state : MeshState S) => state.IsNumbered (num i))
    (fun _ _ event hnumbered => hnumbered.step event.1) _ h events i

theorem knowsNode_run {net : Network ι (MeshState S) RadioFrame}
    (h : ∀ i, (net.stations i).ctx.relayState.KnowsNode)
    (events : List (RadioEvent ι)) (i : ι) :
    ((Transition.run (Network.step (transmitter env)) net
      events).stations i).ctx.relayState.KnowsNode :=
  @Network.forall_inv_run _ _ _ _ _ (transmitter env) _
    (fun _ (state : MeshState S) => state.ctx.relayState.KnowsNode)
    (fun _ _ event hknows => MeshState.knowsNode_step hknows event.1) _ h events i

theorem relay_mem_of_takesUp {net : Network ι (MeshState S) RadioFrame} {i : ι}
    {frame : RadioFrame} {metadata : RadioMetadata} {header : PacketHeader}
    {decoded : FromRadio.DecodedPayload} {hearing : RadioEvent ι}
    {waiting firing taking : List (RadioEvent ι)}
    (hmove : Network.move (transmitter env) net hearing =
      some (i, (.mesh (.loraRx frame metadata), false)))
    (htakes : (net.stations i).TakesUp env frame metadata header decoded)
    (hknows : (net.stations i).ctx.relayState.KnowsNode)
    (hserves : Serves env (Network.step (transmitter env) net hearing) i header.key
      (FromRadio.relayOf (net.stations i).ctx frame header) waiting firing taking) :
    FromRadio.relayOf (net.stations i).ctx frame header ∈
      (Transition.run (Network.step (transmitter env)) (Network.step (transmitter env) net hearing)
        (waiting ++ firing ++ taking)).medium := by
  obtain ⟨hheader, -⟩ := FromRadio.newPacket_eq_some_iff.mp htakes.toRelay.new
  obtain ⟨entry, hentry, hframe⟩ := MeshState.scheduled_step htakes hknows
  have hheard : (Network.step (transmitter env) net hearing).stations i =
      MeshState.step env (net.stations i) (.mesh (.loraRx frame metadata)) :=
    Network.stations_of_move hmove
  have hkey : entry.frame.key = some header.key := by
    rw [hframe]
    exact RadioFrame.key_withRewrittenHeader hheader _ _
  rw [← hframe] at hserves ⊢
  rw [← hheard] at hentry
  refine hserves.relay_mem ?_ hentry hkey
  rw [hheard]
  exact MeshState.started_step htakes.started htakes.restarts_eq

theorem Carried.along {num : ι → UInt32} {net : Network ι (MeshState S) RadioFrame}
    {frame : RadioFrame} {path : List ι}
    {events : List (RadioEvent ι)}
    (h : Carried env net frame path events) :
    (∀ i, (net.stations i).IsNumbered (num i)) →
    (∀ i, (net.stations i).ctx.relayState.KnowsNode) →
    frame ∈ net.medium ∨ path ≠ [] →
    ∃ relay ∈ (Transition.run (Network.step (transmitter env)) net events).medium,
      Network.Along (fun i => RadioFrame.IsRelayOf (num i)) frame path relay := by
  induction h with
  | arrived net frame later =>
      intro _ _ hframe
      have hmedium := hframe.resolve_right (fun h => h rfl)
      exact ⟨frame, Network.medium_subset_run net later hmedium, .source⟩
  | @relayed net frame i path hearing waiting firing taking later metadata header decoded hmove
      htakes hserves hlater ih =>
      intro hnumbered hknows _
      obtain ⟨hheader, hsender, -, -⟩ := FromRadio.newPacket_eq_some_iff.mp htakes.toRelay.new
      obtain ⟨relay, hrelay, halong⟩ := ih
        (isNumbered_run hnumbered (hearing :: (waiting ++ firing ++ taking)))
        (knowsNode_run hknows (hearing :: (waiting ++ firing ++ taking)))
        (Or.inl (relay_mem_of_takesUp hmove htakes (hknows i) hserves))
      refine ⟨relay, ?_, halong.cons ?_⟩
      · rw [← List.cons_append, Transition.run_append]
        exact hrelay
      · have hrelays := (net.stations i).ctx.relayState.isRelayOf_relayed hheader hsender
          htakes.toRelay.hopLimit_ne
        rw [← (hnumbered i).myNodeNum_eq]
        exact hrelays

/-- In any run of any network, a packet that is carried along a path is on the air in the end as
the last node relayed it, and reads everywhere as it did at first. -/
theorem carried_run (mac : ι → Bytes) (storage : ι → S) (pkcKeypair : ι → Key × Key)
    (entropy : ι → Nat → UInt32)
    (earlier events : List (RadioEvent ι)) {frame : RadioFrame}
    {i : ι} {path : List ι}
    (h : Carried env (Transition.run (Network.step (transmitter env))
      (MeshNetwork.boot env mac storage pkcKeypair entropy) earlier) frame (i :: path) events) :
    ∃ relay ∈ (Transition.run (Network.step (transmitter env))
        (MeshNetwork.boot env mac storage pkcKeypair entropy) (earlier ++ events)).medium,
      RadioFrame.IsCopyOf (fun i => DeviceState.nodeNumOfMac (mac i)) frame (i :: path) relay ∧
        ReadsLike env frame relay := by
  have hknows : ∀ i, ((MeshNetwork.boot env mac storage pkcKeypair
      entropy).stations i).ctx.relayState.KnowsNode := fun _ => rfl
  obtain ⟨relay, hrelay, halong⟩ := h.along
    (isNumbered_run (isNumbered_boot mac storage pkcKeypair entropy) earlier)
    (knowsNode_run hknows earlier) (Or.inr (List.cons_ne_nil i path))
  have hcopy := RadioFrame.IsCopyOf.of_along halong
  rw [← Transition.run_append] at hrelay
  exact ⟨relay, hrelay, hcopy, readsLike_of_isCopyOf hcopy⟩

/-! ### Along a line -/

/-- Three nodes introduce themselves. -/
def introduced : List (RadioEvent (Fin 3)) :=
  (List.finRange 3).flatMap fun i =>
    [.own i (.announce, false), .own i (.loraTaken, true)]

def introducedLine : Network (Fin 3) (MeshState FakeStorage) RadioFrame :=
  Transition.run (Network.step (transmitter answers.env))
    (MeshNetwork.boot answers.env macOnLine (fun _ => {}) (fun _ => KnownAnswers.noKeypair)
      (fun _ => KnownAnswers.noEntropy)) introduced

/-- What the first node said. -/
def firstIntroduction : RadioFrame := introducedLine.medium.head?.getD foreignFrame

/-- A node hears somebody it cannot read, and a minute passes. -/
def minute (i : Fin 3) : List (RadioEvent (Fin 3)) :=
  [.own i (.mesh (.loraRx (MeshState.unreadable 1) ⟨0, 0⟩), false), .own i (.elapse 60000, false)]

def firings (i : Fin 3) : List (RadioEvent (Fin 3)) :=
  List.replicate 8 (.own i (.rebroadcastDue, false))

def takings (i : Fin 3) : List (RadioEvent (Fin 3)) :=
  List.replicate 8 (.own i (.loraTaken, true))

def packetAt (net : Network (Fin 3) (MeshState FakeStorage) RadioFrame) (i : Fin 3)
    (frame : RadioFrame) : PacketHeader × FromRadio.DecodedPayload :=
  (FromRadio.newPacket answers.env (net.stations i).ctx frame).getD
    (FromRadio.strangerHeader, FromRadio.strangerPayload)

def relayedLine (i : Fin 3) : Network (Fin 3) (MeshState FakeStorage) RadioFrame :=
  Transition.run (Network.step (transmitter answers.env))
    (Network.step (transmitter answers.env) introducedLine (.hear i 0 ⟨0, 0⟩))
    (minute i ++ firings i ++ takings i)

def firstRelay (i : Fin 3) : RadioFrame :=
  FromRadio.relayOf (introducedLine.stations i).ctx firstIntroduction
    (packetAt introducedLine i firstIntroduction).1

theorem carried_introduction :
    Carried answers.env introducedLine firstIntroduction [1, 2]
      (.hear 1 0 ⟨0, 0⟩ :: (minute 1 ++ firings 1 ++ takings 1 ++
        .hear 2 3 ⟨0, 0⟩ :: (minute 2 ++ firings 2 ++ takings 2 ++ []))) := by
  have hfirst : introducedLine.medium[0]? = some firstIntroduction := by decide +kernel
  have hsecond : (relayedLine 1).medium[3]? = some (firstRelay 1) := by decide +kernel
  refine @Carried.relayed FakeStorage _ (Fin 3) _ answers.env _ _ _ _ _ _ _ _ _ ⟨0, 0⟩
    (packetAt introducedLine 1 firstIntroduction).1
    (packetAt introducedLine 1 firstIntroduction).2 ?_ (by decide +kernel) (by decide +kernel)
    (@Carried.relayed FakeStorage _ (Fin 3) _ answers.env _ _ _ _ _ _ _ _ _ ⟨0, 0⟩
      (packetAt (relayedLine 1) 2 (firstRelay 1)).1
      (packetAt (relayedLine 1) 2 (firstRelay 1)).2 ?_
      (by decide +kernel) (by decide +kernel) (.arrived _ _ _))
  · exact @Network.move_hear _ _ _ _ _ (transmitter answers.env) introducedLine 0
      firstIntroduction hfirst 1 ⟨0, 0⟩
  · exact @Network.move_hear _ _ _ _ _ (transmitter answers.env) (relayedLine 1) 3 (firstRelay 1)
      hsecond 2 ⟨0, 0⟩

/-- The introduction gets to the end of the line, though nobody can read all that is heard. -/
theorem introduction_through :
    ∃ relay ∈ (Transition.run (Network.step (transmitter answers.env))
        (MeshNetwork.boot answers.env macOnLine (fun _ => ({} : FakeStorage))
          (fun _ => KnownAnswers.noKeypair) (fun _ => KnownAnswers.noEntropy))
        (introduced ++ (.hear 1 0 ⟨0, 0⟩ :: (minute 1 ++ firings 1 ++ takings 1 ++
          .hear 2 3 ⟨0, 0⟩ :: (minute 2 ++ firings 2 ++ takings 2 ++ []))))).medium,
      RadioFrame.IsCopyOf (fun i => DeviceState.nodeNumOfMac (macOnLine i)) firstIntroduction [1, 2]
          relay ∧
        ReadsLike answers.env firstIntroduction relay := by
  have hcarried := carried_introduction
  unfold introducedLine at hcarried
  exact @carried_run FakeStorage _ answers.env (Fin 3) _ macOnLine (fun _ => {})
    (fun _ => KnownAnswers.noKeypair) (fun _ => KnownAnswers.noEntropy) introduced _
    firstIntroduction 1 [2] hcarried

end MeshNetwork

end Meshtastenstein
