import Meshtastenstein.Core
import Meshtastenstein.Delivery
import Meshtastenstein.Encryption
/-!
# Acknowledging unicasts

A packet for us that wants an acknowledgement gets one for its first copy, on the channel
it came by; further copies get none.
-/

namespace Meshtastenstein

open Lib Proto Handlers

/-! ## What handlers leave alone -/

def MeshCtx.authority {S : Type} (ctx : MeshCtx S) :
    DeviceState × Option SessionPasskey × Nat :=
  (ctx.device.settings, ctx.sessionPasskey, ctx.now)

theorem MeshCtx.authority_of_core {S : Type} {ctx ctx' : MeshCtx S} (h : ctx'.core = ctx.core) :
    ctx'.authority = ctx.authority :=
  congrArg (fun core => (core.settings, core.sessionPasskey, core.now)) h

/-! ## Administration -/

namespace Handlers.Admin

variable {S : Type} {env : Env}

theorem settings_sendAdminResponse (ctx : MeshCtx S) (requester reqPktId : UInt32)
    (variant : AdminMessage.Variant) (viaLora : Bool) :
    (sendAdminResponse env ctx requester reqPktId variant viaLora).device.settings =
      ctx.device.settings := by
  have hensure : (ensureSessionPasskey ctx).device.settings = ctx.device.settings := by
    obtain ⟨session, entropy, hpasskey⟩ := ensureSessionPasskey_eq ctx
    rw [hpasskey]
  have horiginate : ∀ (ctx : MeshCtx S) (tx : TxBuilder),
      (originate env ctx tx).device.settings = ctx.device.settings :=
    fun ctx tx => congrArg (fun resident => resident.core.settings) (resident_originate ctx tx)
  unfold sendAdminResponse
  dsimp only
  split
  · rw [horiginate, hensure]
  · exact hensure

variable [MeshStorage S]

theorem settings_handleVariant_congr {ctx ctx' : MeshCtx S}
    (h : ctx.device.settings = ctx'.device.settings) (requester reqPktId : UInt32)
    (viaLora : Bool) (variant : AdminMessage.Variant) :
    (handleVariant env ctx requester reqPktId viaLora variant).device.settings =
      (handleVariant env ctx' requester reqPktId viaLora variant).device.settings := by
  have hdevice := DeviceState.eq_of_settings_eq h
  have hrespond : ∀ answer answer',
      (sendAdminResponse env ctx requester reqPktId answer viaLora).device.settings =
        (sendAdminResponse env ctx' requester reqPktId answer' viaLora).device.settings := by
    intro answer answer'
    rw [settings_sendAdminResponse, settings_sendAdminResponse, h]
  have hsave : ∀ d d' : DeviceState, d.settings = d'.settings →
      (saveDevice env ctx d).device.settings = (saveDevice env ctx' d').device.settings :=
    fun _ _ hsame => hsame
  cases variant with
  | getOwnerRequest _ => exact hrespond _ _
  | getConfigRequest configType =>
      unfold handleVariant
      dsimp only
      split
      · exact hrespond _ _
      · exact h
  | getChannelRequest _ => exact hrespond _ _
  | getModuleConfigRequest configType =>
      unfold handleVariant getModuleConfig
      dsimp only
      split
      · exact hrespond _ _
      · exact h
  | setOwner user =>
      apply hsave
      rw [hdevice]
      rfl
  | setConfig config =>
      unfold handleVariant setConfig
      dsimp only
      split
      · apply hsave
        rw [hdevice]
        rfl
      · apply hsave
        rw [hdevice]
        rfl
      · exact hsave _ _ h
      · exact h
  | setChannel channel =>
      unfold handleVariant setChannel
      dsimp only
      split
      · split
        · apply hsave
          rw [hdevice]
          rfl
        · exact h
      · exact h
  | addContact contact =>
      unfold handleVariant addContact
      dsimp only
      split <;> exact h
  | beginEditSettings _ => exact hrespond _ _
  | commitEditSettings _ => exact hrespond _ _
  | _ => exact h

/-- Administration makes of the settings the same wherever settings and session agree. -/
theorem settings_dispatch_congr {ctx ctx' : MeshCtx S} (h : ctx.authority = ctx'.authority)
    (requester reqPktId : UInt32) (adminBytes : Bytes) (viaLora : Bool) :
    (dispatch env ctx requester reqPktId adminBytes viaLora).device.settings =
      (dispatch env ctx' requester reqPktId adminBytes viaLora).device.settings := by
  obtain ⟨hsettings, hrest⟩ := Prod.mk.inj h
  obtain ⟨hsession, hnow⟩ := Prod.mk.inj hrest
  have hauthorized : ∀ msg, isAuthorized ctx msg viaLora = isAuthorized ctx' msg viaLora := by
    intro msg
    unfold isAuthorized
    rw [hsession, hnow]
  unfold dispatch
  split
  · exact hsettings
  · rw [hauthorized]
    split
    · split
      · exact settings_handleVariant_congr hsettings requester reqPktId viaLora _
      · exact hsettings
    · exact hsettings

end Handlers.Admin

namespace Handlers.FromRadio

variable {S : Type} {env : Env} [MeshStorage S]

/-! ## The acknowledgement -/

omit [MeshStorage S] in
def ackTx (header : PacketHeader) (channelIdx : UInt8) : TxBuilder :=
  { dest := header.sender
    portnum := PortNum.routingApp.toI32
    innerPayload := []
    channelIdx := some channelIdx
    requestId := header.packetId }

/-- Among the frames that were queued is the acknowledgement of the packet, to its sender
and on the channel it came by. -/
def QueuesAck (env : Env) (ctx : MeshCtx S) (header : PacketHeader) (channelIdx : UInt8)
    (after : MeshCtx S) : Prop :=
  ∃ frame ∈ after.txToLora.drop ctx.txToLora.length, ∃ packetId,
    (ackTx header channelIdx).build env after.device after.router after.nodeDb packetId none =
      some frame

structure WantsOurAck (env : Env) (ctx : MeshCtx S) (frame : RadioFrame)
    (header : PacketHeader) (decoded : DecodedPayload) : Prop where
  header_eq : frame.header = some header
  sender_ne : header.sender ≠ ctx.device.myNodeNum
  destination_eq : header.destination = ctx.device.myNodeNum
  wantAck : header.wantAck = true
  decodes : tryDecryptAndDecode env frame header ctx.device ctx.nodeDb ctx.pkcPrivBytes =
    .decoded decoded

def administered (env : Env) (ctx : MeshCtx S) (header : PacketHeader)
    (decoded : DecodedPayload) : DeviceState :=
  if decoded.portnum = PortNum.adminApp.toI32 then
    (Admin.dispatch env ctx header.sender header.packetId decoded.payload true).device
  else ctx.device

def AnswersCopy (env : Env) (ctx : MeshCtx S) (header : PacketHeader)
    (decoded : DecodedPayload) : Prop :=
  ctx.router.findRecord header.sender header.packetId = none ∧
    ¬ (ackTx header decoded.channelIndex).TooLong env (administered env ctx header decoded) ∧
    ¬ (ackTx header decoded.channelIndex).UnusableKey env (administered env ctx header decoded)

/-! ## Up to the acknowledgement -/

variable (env) in
/-- The context in which a first copy is acknowledged. -/
def beforeAck (ctx : MeshCtx S) (frame : RadioFrame) (header : PacketHeader)
    (metadata : RadioMetadata) (decoded : DecodedPayload) : MeshCtx S :=
  let ctx := noteSender env ctx header metadata
  let pkt := inboundPacket ctx.device header metadata decoded
  let ctx := bufferText ctx frame decoded.portnum
  let ctx := handlePortnum env ctx decoded.portnum pkt
  forwardInbound ctx header metadata decoded pkt

/-- What a port number handler queues comes after what was queued. -/
theorem prefix_handlePortnum (ctx : MeshCtx S) (portnum : Int32) (pkt : InboundPacket) :
    ctx.txToLora <+: (handlePortnum env ctx portnum pkt).txToLora := by
  have hquiet : ∀ {n : Nat} {ctx ctx' : MeshCtx S}, Quiet n ctx ctx' →
      ctx.txToLora <+: ctx'.txToLora := by
    intro n ctx ctx' h
    obtain ⟨_, _, frames, _, _, hlora, _⟩ := h.originates
    exact ⟨frames, hlora.symm⟩
  by_cases hportnum : portnum = PortNum.routingApp.toI32
  · rw [handlePortnum_routing hportnum]
    rcases @handleRouting_cases S env ctx pkt with h | ⟨_, i, entry, _, _, _, _, _, h⟩
    · exact hquiet h
    · rw [← @txToLora_deliver S env ctx i entry]
      exact hquiet h
  · exact hquiet (quiet_handlePortnum ctx pkt hportnum)

theorem prefix_beforeAck (ctx : MeshCtx S) (frame : RadioFrame) (header : PacketHeader)
    (metadata : RadioMetadata) (decoded : DecodedPayload) :
    ctx.txToLora <+: (beforeAck env ctx frame header metadata decoded).txToLora := by
  obtain ⟨_, _, noted, _, _, hnoted, _⟩ :=
    (@quiet_noteSender S env ctx header metadata).originates
  have hbuffer : ∀ ctx : MeshCtx S,
      (bufferText ctx frame decoded.portnum).txToLora = ctx.txToLora := by
    intro ctx
    unfold bufferText
    split <;> rfl
  have hforward : ∀ (ctx : MeshCtx S) (pkt : InboundPacket),
      (forwardInbound ctx header metadata decoded pkt).txToLora = ctx.txToLora := by
    intro ctx pkt
    unfold forwardInbound forwardToBle pushFromRadio
    split
    · rw [MeshCtx.trySendBle_eq]
      rfl
    · rfl
  unfold beforeAck
  dsimp only
  rw [hforward]
  refine List.IsPrefix.trans ⟨noted, hnoted.symm⟩ ?_
  rw [← hbuffer]
  exact prefix_handlePortnum _ _ _

theorem settings_beforeAck {ctx ctx' : MeshCtx S} (h : ctx'.authority = ctx.authority)
    (frame : RadioFrame) {header : PacketHeader} (metadata : RadioMetadata)
    (decoded : DecodedPayload) (hdest : header.destination = ctx.device.myNodeNum) :
    (beforeAck env ctx' frame header metadata decoded).device.settings =
      (administered env ctx header decoded).settings := by
  unfold beforeAck
  dsimp only
  generalize hnoted : noteSender env ctx' header metadata = noted
  have hauthority : noted.authority = ctx.authority := by
    rw [← hnoted, MeshCtx.authority_of_core (core_noteSender ctx' header metadata), h]
  have hforUs : (inboundPacket noted.device header metadata decoded).addressedToUs = true := by
    have hnum : noted.device.myNodeNum = ctx.device.myNodeNum :=
      congrArg (·.1.myNodeNum) hauthority
    unfold inboundPacket
    dsimp only
    rw [hnum, ← hdest]
    simp [PacketHeader.isForUs]
  have hforwarded : ∀ (ctx : MeshCtx S) (pkt : InboundPacket),
      (forwardInbound ctx header metadata decoded pkt).device.settings = ctx.device.settings :=
    fun ctx pkt => congrArg (fun resident => resident.core.settings)
      (resident_forwardInbound ctx header metadata decoded pkt)
  rw [hforwarded]
  have hbuffered : (bufferText noted frame decoded.portnum).authority = ctx.authority := by
    rw [MeshCtx.authority_of_core (core_bufferText noted frame decoded.portnum), hauthority]
  generalize bufferText noted frame decoded.portnum = buffered at hbuffered
  unfold administered
  split
  · rename_i hadmin
    have hhandler : ∀ pkt, handlePortnum env buffered decoded.portnum pkt =
        handleAdmin env buffered pkt := by
      intro pkt
      unfold handlePortnum
      rw [hadmin, PortNum.tryFrom_toI32]
    rw [hhandler]
    unfold handleAdmin
    rw [if_pos hforUs]
    exact Admin.settings_dispatch_congr hbuffered _ _ _ _
  · rename_i hadmin
    have hsame : ∀ pkt, (handlePortnum env buffered decoded.portnum pkt).authority =
        buffered.authority :=
      fun pkt => MeshCtx.authority_of_core (core_handlePortnum buffered pkt hadmin)
    exact congrArg Prod.fst ((hsame _).trans hbuffered)

/-! ## First and further copies -/

omit [MeshStorage S] in
/-- Whether a frame can be built depends on the settings alone. -/
theorem buildable_congr {tx : TxBuilder} {d d' : DeviceState} (h : d.settings = d'.settings) :
    tx.TooLong env d ∨ tx.UnusableKey env d ↔ tx.TooLong env d' ∨ tx.UnusableKey env d' := by
  rw [DeviceState.eq_of_settings_eq h]
  exact Iff.rfl

omit [MeshStorage S] in
/-- What follows an acknowledgement leaves what built it, and what was queued. -/
theorem relayInbound_eq (ctx : MeshCtx S) (frame : RadioFrame) (header : PacketHeader)
    (metadata : RadioMetadata) :
    (relayInbound env ctx frame header metadata).txToLora = ctx.txToLora ∧
      (relayInbound env ctx frame header metadata).device = ctx.device ∧
      (relayInbound env ctx frame header metadata).router = ctx.router ∧
      (relayInbound env ctx frame header metadata).nodeDb = ctx.nodeDb := by
  unfold relayInbound scheduleRebroadcast
  split
  · split
    · split <;> exact ⟨rfl, rfl, rfl, rfl⟩
    · exact ⟨rfl, rfl, rfl, rfl⟩
  · exact ⟨rfl, rfl, rfl, rfl⟩

/-- A first copy is acknowledged whenever the acknowledgement can be built. -/
theorem queuesAck_handleNew {ctx : MeshCtx S} (router : MeshRouter) {frame : RadioFrame}
    {header : PacketHeader} (metadata : RadioMetadata) {decoded : DecodedPayload}
    (hdest : header.destination = ctx.device.myNodeNum) (hack : header.wantAck = true) :
    QueuesAck env ctx header decoded.channelIndex
        (handleNew env { ctx with router := router } frame header metadata decoded) ↔
      ¬ ((ackTx header decoded.channelIndex).TooLong env (administered env ctx header decoded) ∨
        (ackTx header decoded.channelIndex).UnusableKey env
          (administered env ctx header decoded)) := by
  have hnew : handleNew env { ctx with router := router } frame header metadata decoded =
      relayInbound env (ackInbound env (beforeAck env { ctx with router := router } frame header
        metadata decoded) header decoded) frame header metadata := rfl
  have hprefix : ctx.txToLora <+:
      (beforeAck env { ctx with router := router } frame header metadata decoded).txToLora :=
    @prefix_beforeAck S env _ { ctx with router := router } frame header metadata decoded
  have hsettings : (beforeAck env { ctx with router := router } frame header metadata
      decoded).device.settings = (administered env ctx header decoded).settings :=
    @settings_beforeAck S env _ ctx { ctx with router := router } rfl frame header metadata
      decoded hdest
  rw [hnew]
  generalize beforeAck env { ctx with router := router } frame header metadata decoded = before
    at hprefix hsettings
  have hnum : before.device.myNodeNum = ctx.device.myNodeNum := by
    have hadministered : (administered env ctx header decoded).myNodeNum =
        ctx.device.myNodeNum := by
      unfold administered
      split
      · exact (Admin.quiet_dispatch ctx _ _ _ true).myNodeNum_eq
      · rfl
    exact (congrArg DeviceState.myNodeNum hsettings).trans hadministered
  have hacked : ackInbound env before header decoded =
      originate env before (ackTx header decoded.channelIndex) := by
    unfold ackInbound
    rw [if_pos ⟨hdest.trans hnum.symm, hack⟩]
    rfl
  rw [hacked, ← buildable_congr hsettings]
  obtain ⟨hlora, hdevice, hrouter, hnodeDb⟩ := @relayInbound_eq S env
    (originate env before (ackTx header decoded.channelIndex)) frame header metadata
  unfold QueuesAck
  rw [hlora, hdevice, hrouter, hnodeDb]
  constructor
  · rintro ⟨ack, -, packetId, hbuild⟩ hunbuildable
    have hsame : (originate env before (ackTx header decoded.channelIndex)).device.settings =
        before.device.settings :=
      congrArg (fun resident => resident.core.settings) (resident_originate before _)
    rw [← buildable_congr hsame, ← TxBuilder.build_psk_eq_none_iff, hbuild] at hunbuildable
    cases hunbuildable
  · intro hbuildable
    cases hbuild : (ackTx header decoded.channelIndex).build env before.takePacketId.device
        before.takePacketId.router before.takePacketId.nodeDb before.device.nextPacketId none with
    | none => exact absurd (TxBuilder.build_psk_eq_none_iff.mp hbuild) hbuildable
    | some ack =>
        have horiginate : originate env before (ackTx header decoded.channelIndex) =
            before.takePacketId.sendLora ack := by
          unfold originate
          dsimp only
          rw [hbuild]
        rw [horiginate]
        refine ⟨ack, ?_, before.device.nextPacketId, hbuild⟩
        have hqueued : (before.takePacketId.sendLora ack).txToLora =
            before.txToLora ++ [ack] := rfl
        obtain ⟨queued, hqueue⟩ := hprefix
        rw [hqueued, ← hqueue, List.append_assoc, List.drop_left]
        exact List.mem_append_right _ (List.mem_singleton_self ack)

omit [MeshStorage S] in
theorem txToLora_upgradeRebroadcast (ctx : MeshCtx S) (frame : RadioFrame)
    (header : PacketHeader) (newHop : UInt8) :
    (upgradeRebroadcast ctx frame header newHop).txToLora = ctx.txToLora := by
  unfold upgradeRebroadcast
  split <;> rfl

omit [MeshStorage S] in
theorem not_queuesAck_of_txToLora_eq {ctx after : MeshCtx S} {header : PacketHeader}
    {channelIdx : UInt8} (h : after.txToLora = ctx.txToLora) :
    ¬ QueuesAck env ctx header channelIdx after := by
  rintro ⟨frame, hframe, -⟩
  rw [h, List.drop_length] at hframe
  cases hframe

/-- Exactly the first copies whose acknowledgement can be built are acknowledged. -/
theorem queuesAck_dispatch_iff {ctx : MeshCtx S} {frame : RadioFrame} {header : PacketHeader}
    {decoded : DecodedPayload} (h : WantsOurAck env ctx frame header decoded)
    (metadata : RadioMetadata) :
    QueuesAck env ctx header decoded.channelIndex (dispatch env ctx frame metadata) ↔
      AnswersCopy env ctx header decoded := by
  have hdispatch : dispatch env ctx frame metadata =
      handleDecoded env ctx frame header metadata decoded := by
    unfold dispatch
    rw [h.header_eq]
    dsimp only
    rw [if_neg h.sender_ne, h.decodes]
  rw [hdispatch]
  unfold AnswersCopy
  cases hfind : ctx.router.findRecord header.sender header.packetId with
  | none =>
      obtain ⟨router, hfilter⟩ : ∃ router, ctx.router.shouldFilterReceived header.sender
          header.packetId header.hopLimit header.relayNode (pendingHopLimit ctx header)
          ctx.device.role = (.new, router) := by
        unfold MeshRouter.shouldFilterReceived
        rw [hfind]
        exact ⟨_, rfl⟩
      unfold handleDecoded
      rw [hfilter]
      dsimp only
      rw [queuesAck_handleNew router metadata h.destination_eq h.wantAck, not_or]
      simp
  | some idx =>
      have hlora : (handleDecoded env ctx frame header metadata decoded).txToLora =
          ctx.txToLora := by
        unfold handleDecoded
        rw [MeshRouter.shouldFilterReceived_of_find hfind]
        split_ifs
        · exact txToLora_upgradeRebroadcast
            { ctx with router := _ } frame header (header.hopLimit - 1)
        · rfl
        · rfl
      constructor
      · intro hqueues
        exact absurd hqueues (not_queuesAck_of_txToLora_eq hlora)
      · rintro ⟨hnone, -⟩
        cases hnone

/-- In every reachable state, which copies are acknowledged. -/
theorem queuesAck_after_iff (mac : Bytes) (storage : S) (pkcKeypair : Key × Key)
    (entropy : Nat → UInt32) (events : List MeshState.Event) (frame : RadioFrame)
    (metadata : RadioMetadata) (header : PacketHeader) (decoded : DecodedPayload) :
    let ctx := MeshState.noteActivity
      (MeshState.after env mac storage pkcKeypair entropy events).ctx (.loraRx frame metadata)
    WantsOurAck env ctx frame header decoded →
      (QueuesAck env ctx header decoded.channelIndex (dispatch env ctx frame metadata) ↔
        AnswersCopy env ctx header decoded) :=
  fun h => queuesAck_dispatch_iff h metadata

/-- Node `0x11223344` sends us a packet and wants an acknowledgement. -/
def wantingFrame : RadioFrame where
  bytes :=
    [0x56, 0x34, 0x12, 0x28, 0x44, 0x33, 0x22, 0x11, 0x09, 0x00, 0x00, 0x00, 0x6b, 0x08, 0x00,
     0x44, 0x66, 0x03, 0x1b, 0x19, 0xd8, 0x03, 0x06]
  length_le := by decide

def wantingHeader : PacketHeader :=
  { strangerHeader with destination := 0x28123456, flags := 0x6b }

/-- The context in which the copy is heard after the events. -/
def wantingCtx (events : List MeshState.Event) : MeshCtx FakeStorage :=
  MeshState.noteActivity
    (MeshState.after KnownAnswers.defaultKey.env KnownAnswers.mac {} KnownAnswers.noKeypair
      KnownAnswers.noEntropy events).ctx (.loraRx wantingFrame ⟨0, 0⟩)

theorem wantsOurAck_first :
    WantsOurAck KnownAnswers.defaultKey.env (wantingCtx [.announce]) wantingFrame wantingHeader
      strangerPayload where
  header_eq := by decide
  sender_ne := by decide
  destination_eq := by decide
  wantAck := by decide
  decodes := by decide

theorem answersCopy_first :
    AnswersCopy KnownAnswers.defaultKey.env (wantingCtx [.announce]) wantingHeader
      strangerPayload := by
  refine ⟨by decide, ?_, ?_⟩
  · unfold TxBuilder.TooLong
    decide
  · rintro ⟨channel, hchannel, -, -, hlength, -⟩
    have hkey : (((ackTx wantingHeader strangerPayload.channelIndex).channelIdx.bind
        (administered KnownAnswers.defaultKey.env (wantingCtx [.announce]) wantingHeader
          strangerPayload).channels.get).or (administered KnownAnswers.defaultKey.env
            (wantingCtx [.announce]) wantingHeader strangerPayload).channels.primary).map
        (fun channel => (copyPsk channel.effectivePsk).length) = some 16 := by
      decide
    rw [hchannel] at hkey
    exact hlength (Option.some.inj hkey)

/-- The first copy is acknowledged. -/
theorem wantingFrame_acknowledged :
    QueuesAck KnownAnswers.defaultKey.env (wantingCtx [.announce]) wantingHeader
      strangerPayload.channelIndex
      (dispatch KnownAnswers.defaultKey.env (wantingCtx [.announce]) wantingFrame ⟨0, 0⟩) := by
  have hqueues := @queuesAck_after_iff FakeStorage KnownAnswers.defaultKey.env _
    KnownAnswers.mac {} KnownAnswers.noKeypair KnownAnswers.noEntropy [.announce] wantingFrame
    ⟨0, 0⟩ wantingHeader strangerPayload
  unfold wantingCtx
  exact (hqueues wantsOurAck_first).mpr answersCopy_first

/-- The same copy heard again is not. -/
theorem wantingFrame_not_acknowledged_again :
    let ctx := wantingCtx [.announce, .mesh (.loraRx wantingFrame ⟨0, 0⟩)]
    WantsOurAck KnownAnswers.defaultKey.env ctx wantingFrame wantingHeader strangerPayload ∧
      ¬ QueuesAck KnownAnswers.defaultKey.env ctx wantingHeader strangerPayload.channelIndex
        (dispatch KnownAnswers.defaultKey.env ctx wantingFrame ⟨0, 0⟩) := by
  intro ctx
  have hwants : WantsOurAck KnownAnswers.defaultKey.env ctx wantingFrame wantingHeader
      strangerPayload :=
    ⟨by decide, by decide, by decide, by decide, by decide⟩
  refine ⟨hwants, fun hqueues => ?_⟩
  obtain ⟨hfind, -⟩ := (queuesAck_dispatch_iff hwants ⟨0, 0⟩).mp hqueues
  have hfound : (ctx.router.findRecord wantingHeader.sender
      wantingHeader.packetId).isSome = true := by
    decide
  rw [hfind] at hfound
  cases hfound

end Handlers.FromRadio

end Meshtastenstein
