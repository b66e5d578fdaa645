import Meshtastenstein.Delivery
/-!
# What the phone sees of a received frame

A frame reaches the phone at once when it is connected, and from the message buffer
otherwise; either way the phone gets the header fields and a part of the message.
-/

namespace Meshtastenstein

open Lib Proto Handlers

/-! ## What else a reception tells -/

def Proto.FromRadio.Variant.IsOwn (ourNodeNum : UInt32) (variant : FromRadio.Variant) : Prop :=
  ∀ packet, variant = .packet packet → packet.fromNode = ourNodeNum

variable {S : Type} {env : Env}

/-- Of the packets that are queued for the phone, all are of the node itself, and none waits
for a slot. -/
structure TellsOwn (before after : MeshCtx S) : Prop where
  myNodeNum_eq : after.device.myNodeNum = before.device.myNodeNum
  tells : Tells (FromRadio.Variant.IsOwn before.device.myNodeNum) before after
  unblocked : Unblocked before after

namespace TellsOwn

variable {ctx ctx' ctx'' : MeshCtx S}

theorem of_eq (hnum : ctx'.device.myNodeNum = ctx.device.myNodeNum)
    (hble : ctx'.txToBle = ctx.txToBle) : TellsOwn ctx ctx' :=
  ⟨hnum, Tells.of_eq hble, Unblocked.of_eq hble⟩

theorem refl (ctx : MeshCtx S) : TellsOwn ctx ctx := of_eq rfl rfl

theorem trans (h : TellsOwn ctx ctx') (h' : TellsOwn ctx' ctx'') : TellsOwn ctx ctx'' := by
  obtain ⟨hnum, htells, hunblocked⟩ := h
  obtain ⟨hnum', htells', hunblocked'⟩ := h'
  rw [hnum] at htells'
  exact ⟨hnum'.trans hnum, htells.trans htells', hunblocked.trans hunblocked'⟩

end TellsOwn

namespace Handlers

theorem tellsOwn_notifyBleNodeUpdate (ctx : MeshCtx S) (sender : UInt32) :
    TellsOwn ctx (notifyBleNodeUpdate ctx sender) := by
  unfold notifyBleNodeUpdate
  split
  · refine ⟨(quiet_pushFromRadio ctx (isQuiet_makeNodeInfoFromRadio _)).myNodeNum_eq, ?_,
      Unblocked.push ctx _⟩
    apply Tells.push
    intro packet hpacket
    cases hpacket
  · exact TellsOwn.of_eq rfl rfl

theorem tellsOwn_sendBleRoutingResult (ctx : MeshCtx S) (dest requestId : UInt32)
    (error : RoutingError) :
    TellsOwn ctx (sendBleRoutingResult env ctx dest requestId error) := by
  refine ⟨by rw [sendBleRoutingResult_eq]; rfl, ?_, Unblocked.push ctx.takePacketId _⟩
  have hpush : Tells (FromRadio.Variant.IsOwn ctx.device.myNodeNum) ctx.takePacketId
      (sendBleRoutingResult env ctx dest requestId error) := by
    apply Tells.push
    intro packet hpacket
    cases hpacket
    rfl
  exact hpush

theorem txToBle_originate (ctx : MeshCtx S) (tx : TxBuilder) :
    (originate env ctx tx).txToBle = ctx.txToBle := by
  unfold originate
  dsimp only
  split <;> rfl

theorem tellsOwn_sendNodeinfo (ctx : MeshCtx S) (dest : UInt32) (wantResponse : Bool) :
    TellsOwn ctx (sendNodeinfo env ctx dest wantResponse) :=
  TellsOwn.of_eq (quiet_sendNodeinfo ctx dest wantResponse).myNodeNum_eq
    (FromRadio.txToBle_sendNodeinfo ctx dest wantResponse)

end Handlers

namespace Handlers.Admin

theorem txToBle_sendAdminResponse (ctx : MeshCtx S) (requester reqPktId : UInt32)
    (variant : AdminMessage.Variant) :
    (sendAdminResponse env ctx requester reqPktId variant true).txToBle = ctx.txToBle := by
  obtain ⟨session, entropy, hpasskey⟩ := ensureSessionPasskey_eq ctx
  unfold sendAdminResponse
  rw [if_pos rfl, txToBle_originate, hpasskey]

variable [MeshStorage S]

theorem txToBle_dispatch (ctx : MeshCtx S) (requester reqPktId : UInt32) (adminBytes : Bytes) :
    (dispatch env ctx requester reqPktId adminBytes true).txToBle = ctx.txToBle := by
  rcases dispatch_cases ctx requester reqPktId adminBytes true with
    ⟨answer, hanswer⟩ | hadministered
  · rw [hanswer, txToBle_sendAdminResponse]
  · exact congrArg (fun traffic => traffic.2.2.2.2.2.2) hadministered.traffic_eq

end Handlers.Admin

namespace Handlers.FromRadio

theorem tellsOwn_answerNodeinfo (ctx : MeshCtx S) (dest : UInt32) (wantResponse : Bool) :
    TellsOwn ctx (answerNodeinfo env ctx dest wantResponse) :=
  (tellsOwn_sendNodeinfo ctx dest wantResponse).trans (TellsOwn.of_eq rfl rfl)

theorem tellsOwn_maybeRequestNodeinfo (ctx : MeshCtx S) (sender : UInt32)
    (hopStart hopLimit : UInt8) :
    TellsOwn ctx (maybeRequestNodeinfo env ctx sender hopStart hopLimit) :=
  TellsOwn.of_eq (quiet_maybeRequestNodeinfo ctx sender hopStart hopLimit).myNodeNum_eq
    (txToBle_maybeRequestNodeinfo ctx sender hopStart hopLimit)

theorem tellsOwn_noteSender (ctx : MeshCtx S) (header : PacketHeader)
    (metadata : RadioMetadata) : TellsOwn ctx (noteSender env ctx header metadata) := by
  unfold noteSender
  dsimp only
  generalize hdb : (ctx.blink .singleBlink).modifyNodeDb _ = ctx₁
  have htouch : TellsOwn ctx ctx₁ := by
    rw [← hdb]
    exact TellsOwn.of_eq rfl rfl
  have hnotify : ∀ isNew : Bool, TellsOwn ctx
      (if isNew = true then notifyBleNodeUpdate ctx₁ header.sender else ctx₁) := by
    intro isNew
    split
    · exact htouch.trans (tellsOwn_notifyBleNodeUpdate ctx₁ header.sender)
    · exact htouch
  have hrequest : ∀ ctx₂, TellsOwn ctx ctx₂ → TellsOwn ctx
      (if ((ctx₂.nodeDb.get header.sender).bind (·.user)).isNone = true then
        maybeRequestNodeinfo env ctx₂ header.sender header.hopStart header.hopLimit
      else ctx₂) := by
    intro ctx₂ hown
    split
    · exact hown.trans (tellsOwn_maybeRequestNodeinfo ctx₂ _ _ _)
    · exact hown
  exact hrequest _ (hnotify _)

theorem tellsOwn_acknowledge (ctx : MeshCtx S) (requestId : UInt32) :
    TellsOwn ctx (acknowledge env ctx requestId) := by
  unfold acknowledge
  split
  · exact TellsOwn.refl ctx
  · rename_i i _
    have hremoved : TellsOwn ctx
        { ctx with pendingPackets := ctx.pendingPackets.swapRemove i } :=
      TellsOwn.of_eq rfl rfl
    dsimp only
    split
    · exact hremoved.trans (tellsOwn_sendBleRoutingResult _ _ _ _)
    · exact hremoved

theorem tellsOwn_handleRouting (ctx : MeshCtx S) (pkt : InboundPacket) :
    TellsOwn ctx (handleRouting env ctx pkt) := by
  unfold handleRouting
  split
  · exact TellsOwn.refl ctx
  · split
    · exact (tellsOwn_acknowledge ctx pkt.requestId).trans (TellsOwn.of_eq rfl rfl)
    · exact TellsOwn.refl ctx

theorem tellsOwn_handleNodeInfo (ctx : MeshCtx S) (pkt : InboundPacket) :
    TellsOwn ctx (handleNodeInfo env ctx pkt) := by
  unfold handleNodeInfo
  split
  · exact TellsOwn.refl ctx
  · rename_i user _
    have hdb : TellsOwn ctx (ctx.modifyNodeDb fun db => storeUser db pkt.sender user) :=
      TellsOwn.of_eq rfl rfl
    have hstored := hdb.trans (tellsOwn_notifyBleNodeUpdate _ pkt.sender)
    dsimp only
    split
    · exact hstored.trans (tellsOwn_answerNodeinfo _ pkt.sender false)
    · exact hstored

variable [MeshStorage S]

theorem handlePortnum_cases (ctx : MeshCtx S) (portnum : Int32) (pkt : InboundPacket) :
    (PortNum.tryFrom portnum = some .positionApp ∧
        handlePortnum env ctx portnum pkt = handlePosition env ctx pkt) ∨
      handlePortnum env ctx portnum pkt = handleNodeInfo env ctx pkt ∨
      handlePortnum env ctx portnum pkt = handleRouting env ctx pkt ∨
      ((handlePortnum env ctx portnum pkt).device.myNodeNum = ctx.device.myNodeNum ∧
        (handlePortnum env ctx portnum pkt).txToBle = ctx.txToBle) := by
  have hsilent : ∀ {handled : MeshCtx S}, handled.device.myNodeNum = ctx.device.myNodeNum →
      handled.txToBle = ctx.txToBle →
      (PortNum.tryFrom portnum = some .positionApp ∧ handled = handlePosition env ctx pkt) ∨
        handled = handleNodeInfo env ctx pkt ∨ handled = handleRouting env ctx pkt ∨
        (handled.device.myNodeNum = ctx.device.myNodeNum ∧ handled.txToBle = ctx.txToBle) :=
    fun hnum hble => Or.inr (Or.inr (Or.inr ⟨hnum, hble⟩))
  unfold handlePortnum
  split
  · exact hsilent rfl rfl
  · exact hsilent rfl rfl
  · exact hsilent rfl rfl
  · rename_i hport
    exact Or.inl ⟨hport, rfl⟩
  · exact Or.inr (Or.inl rfl)
  · exact Or.inr (Or.inr (Or.inl rfl))
  · unfold handleAdmin
    split
    · exact hsilent (Admin.quiet_dispatch ctx pkt.sender pkt.packetId pkt.payload
        true).myNodeNum_eq (Admin.txToBle_dispatch ctx _ _ _)
    · exact hsilent rfl rfl
  · exact hsilent rfl rfl
  · unfold handleTelemetry
    split <;> exact hsilent rfl rfl
  · unfold handleTraceroute
    dsimp only
    split
    · exact hsilent (quiet_originate ctx _).myNodeNum_eq (txToBle_originate ctx _)
    · exact hsilent rfl rfl
  · unfold handleNeighborInfo
    split <;> exact hsilent rfl rfl
  · exact hsilent rfl rfl
  · exact hsilent rfl rfl

theorem tellsOwn_handlePortnum (ctx : MeshCtx S) (portnum : Int32) (pkt : InboundPacket) :
    TellsOwn ctx (handlePortnum env ctx portnum pkt) := by
  rcases @handlePortnum_cases S env _ ctx portnum pkt with
    ⟨-, hposition⟩ | hnodeinfo | hrouting | ⟨hnum, hble⟩
  · rw [hposition]
    unfold handlePosition
    have hstored : ∀ f : NodeDb → NodeDb, TellsOwn ctx (ctx.modifyNodeDb f) :=
      fun _ => TellsOwn.of_eq rfl rfl
    split
    · exact TellsOwn.refl ctx
    · exact (hstored _).trans (tellsOwn_notifyBleNodeUpdate _ pkt.sender)
  · rw [hnodeinfo]
    exact tellsOwn_handleNodeInfo ctx pkt
  · rw [hrouting]
    exact tellsOwn_handleRouting ctx pkt
  · exact TellsOwn.of_eq hnum hble

omit [MeshStorage S] in
theorem txToBle_ackInbound (ctx : MeshCtx S) (header : PacketHeader) (decoded : DecodedPayload) :
    (ackInbound env ctx header decoded).txToBle = ctx.txToBle := by
  unfold ackInbound
  split
  · exact txToBle_originate ctx _
  · rfl

omit [MeshStorage S] in
theorem tellsOwn_ackInbound (ctx : MeshCtx S) (header : PacketHeader)
    (decoded : DecodedPayload) : TellsOwn ctx (ackInbound env ctx header decoded) :=
  TellsOwn.of_eq (quiet_ackInbound ctx header decoded).myNodeNum_eq
    (txToBle_ackInbound ctx header decoded)

omit [MeshStorage S] in
theorem txToBle_relayInbound (ctx : MeshCtx S) (frame : RadioFrame) (header : PacketHeader)
    (metadata : RadioMetadata) :
    (relayInbound env ctx frame header metadata).txToBle = ctx.txToBle := by
  unfold relayInbound scheduleRebroadcast
  repeat' split
  all_goals rfl

omit [MeshStorage S] in
theorem tellsOwn_relayInbound (ctx : MeshCtx S) (frame : RadioFrame) (header : PacketHeader)
    (metadata : RadioMetadata) : TellsOwn ctx (relayInbound env ctx frame header metadata) :=
  TellsOwn.of_eq (quiet_relayInbound ctx frame header metadata).myNodeNum_eq
    (txToBle_relayInbound ctx frame header metadata)

theorem txToBle_bufferText (ctx : MeshCtx S) (frame : RadioFrame) (portnum : Int32) :
    (bufferText ctx frame portnum).txToBle = ctx.txToBle := by
  unfold bufferText
  split <;> rfl

omit [MeshStorage S] in
theorem txToBle_answerUnknownPubkey (ctx : MeshCtx S) (header : PacketHeader) :
    (answerUnknownPubkey env ctx header).txToBle = ctx.txToBle := by
  unfold answerUnknownPubkey
  dsimp only
  split
  · exact (txToBle_sendNodeinfo _ header.sender false).trans (txToBle_originate ctx _)
  · exact txToBle_sendNodeinfo ctx header.sender false

omit [MeshStorage S] in
theorem txToBle_handleUndecodable (ctx : MeshCtx S) (frame : RadioFrame) (header : PacketHeader)
    (metadata : RadioMetadata) :
    (handleUndecodable env ctx frame header metadata).txToBle = ctx.txToBle := by
  unfold handleUndecodable maybeRelayOpaque
  dsimp only
  repeat' split
  all_goals rfl

/-! ## Frames forwarded at once -/

/-- The `Data` that comes out of a received frame. -/
def airData (env : Env) (ctx : MeshCtx S) (frame : RadioFrame) (header : PacketHeader) :
    Option Data :=
  ((pkcPlaintext env frame header ctx.device ctx.nodeDb ctx.pkcPrivBytes).or
    (pskPlaintext env frame header ctx.device)).bind env.prost.data.decode

/-- Another node's packet is queued for the phone. -/
def Forwards (before after : MeshCtx S) (packet : MeshPacket) : Prop :=
  packet.fromNode ≠ before.device.myNodeNum ∧
    ∃ msg ∈ after.txToBle.drop before.txToBle.length, msg.variant = .packet packet

/-- The packet has the addresses, the flags and the hop counts of the header and the
fields of the message. -/
structure Mirrors (header : PacketHeader) (data : Data) (packet : MeshPacket) : Prop where
  fromNode_eq : packet.fromNode = header.sender
  toNode_eq : packet.toNode = header.destination
  id_eq : packet.id = header.packetId
  wantAck_eq : packet.wantAck = header.wantAck
  hopLimit_eq : packet.hopLimit = header.hopLimit.toUInt32
  hopStart_eq : packet.hopStart = header.hopStart.toUInt32
  data_eq : ∃ data', packet.payloadVariant = some (.decoded data') ∧
    data'.portnum = data.portnum ∧ data'.payload = data.payload ∧
    data'.wantResponse = data.wantResponse ∧ data'.requestId = data.requestId ∧
    data'.replyId = data.replyId ∧ data'.emoji = data.emoji

/-- What is forwarded mirrors a message that neither wants a response nor answers a
request. -/
theorem mirrors_makeFromRadioPacket_iff {args : PacketForwardArgs} {packet : MeshPacket}
    (h : makeFromRadioPacket args = .packet packet) (data : Data) :
    Mirrors args.header data packet ↔
      (data.wantResponse = false ∧ data.requestId = 0) ∧
        args.portnum = data.portnum ∧ args.payload = data.payload ∧
        args.replyId = data.replyId ∧ args.emoji = data.emoji := by
  cases h
  constructor
  · rintro ⟨-, -, -, -, -, -, data', hdata, hportnum, hpayload, hresponse, hrequest, hreply,
      hemoji⟩
    cases hdata
    exact ⟨⟨hresponse.symm, hrequest.symm⟩, hportnum, hpayload, hreply, hemoji⟩
  · rintro ⟨⟨hresponse, hrequest⟩, hportnum, hpayload, hreply, hemoji⟩
    exact ⟨rfl, rfl, rfl, rfl, rfl, rfl, _, rfl, hportnum, hpayload, hresponse.symm,
      hrequest.symm, hreply, hemoji⟩

def forwardArgs (header : PacketHeader) (metadata : RadioMetadata) (decoded : DecodedPayload) :
    PacketForwardArgs where
  header := header
  channelIndex := decoded.channelIndex
  portnum := decoded.portnum
  payload := decoded.payload
  replyId := decoded.replyId
  emoji := decoded.emoji
  metadata := metadata

/-- Of a first copy the phone is told this, and nothing of any other node's packet. -/
theorem tells_handleNew (ctx : MeshCtx S) (frame : RadioFrame) (header : PacketHeader)
    (metadata : RadioMetadata) (decoded : DecodedPayload) :
    Tells (fun variant => variant.IsOwn ctx.device.myNodeNum ∨
        variant = makeFromRadioPacket (forwardArgs header metadata decoded)) ctx
      (handleNew env ctx frame header metadata decoded) := by
  unfold handleNew
  dsimp only
  generalize hnoted : noteSender env ctx header metadata = noted
  have hnote : TellsOwn ctx noted := by
    rw [← hnoted]
    exact tellsOwn_noteSender ctx header metadata
  generalize hpkt : inboundPacket noted.device header metadata decoded = pkt
  have hbuffer : TellsOwn noted (bufferText noted frame decoded.portnum) := by
    unfold bufferText
    split <;> exact TellsOwn.of_eq rfl rfl
  have hhandled := (hnote.trans hbuffer).trans
    (@tellsOwn_handlePortnum S env _ (bufferText noted frame decoded.portnum) decoded.portnum pkt)
  generalize handlePortnum env (bufferText noted frame decoded.portnum) decoded.portnum pkt =
    handled at hhandled ⊢
  have hforward : Tells (· = makeFromRadioPacket (forwardArgs header metadata decoded)) handled
      (forwardInbound handled header metadata decoded pkt) := by
    unfold forwardInbound forwardToBle
    split
    · apply Tells.push
      rw [← hpkt]
      rfl
    · exact Tells.refl handled
  have hnum : (forwardInbound handled header metadata decoded pkt).device.myNodeNum =
      ctx.device.myNodeNum :=
    (quiet_forwardInbound handled header metadata decoded pkt).myNodeNum_eq.trans
      hhandled.myNodeNum_eq
  generalize forwardInbound handled header metadata decoded pkt = forwarded at hforward hnum ⊢
  have hafter : TellsOwn forwarded
      (relayInbound env (ackInbound env forwarded header decoded) frame header metadata) :=
    (tellsOwn_ackInbound forwarded header decoded).trans (tellsOwn_relayInbound _ frame header
      metadata)
  have hrest := hafter.tells
  rw [hnum] at hrest
  exact ((hhandled.tells.mono fun _ h => Or.inl h).trans (hforward.mono fun _ h => Or.inr h)).trans
    (hrest.mono fun _ h => Or.inl h)

omit [MeshStorage S] in
theorem eq_decodedPayload_of_airData {ctx : MeshCtx S} {frame : RadioFrame}
    {header : PacketHeader} {data : Data} {decoded : DecodedPayload}
    (hdata : airData env ctx frame header = some data)
    (hdecoded : tryDecryptAndDecode env frame header ctx.device ctx.nodeDb ctx.pkcPrivBytes =
      .decoded decoded) :
    ∃ channelIndex, decoded = decodedPayload data channelIndex := by
  obtain ⟨plaintext, hplaintext, hdecode⟩ := Option.bind_eq_some_iff.mp hdata
  unfold tryDecryptAndDecode at hdecoded
  dsimp only at hdecoded
  rw [hplaintext] at hdecoded
  dsimp only at hdecoded
  rw [hdecode] at hdecoded
  dsimp only at hdecoded
  split at hdecoded
  · cases hdecoded
  · cases hdecoded
    exact ⟨_, rfl⟩

theorem tells_handleDecoded (ctx : MeshCtx S) (frame : RadioFrame) (header : PacketHeader)
    (metadata : RadioMetadata) (decoded : DecodedPayload) :
    Tells (fun variant => variant.IsOwn ctx.device.myNodeNum ∨
        variant = makeFromRadioPacket (forwardArgs header metadata decoded)) ctx
      (handleDecoded env ctx frame header metadata decoded) := by
  unfold handleDecoded
  dsimp only
  generalize ctx.router.shouldFilterReceived _ _ _ _ _ _ = filtered
  obtain ⟨verdict, router⟩ := filtered
  cases verdict with
  | new =>
      exact @tells_handleNew S env _ { ctx with router := router } frame header metadata decoded
  | duplicateUpgrade newHop =>
      apply Tells.of_eq
      dsimp only
      unfold upgradeRebroadcast
      split <;> rfl
  | duplicateCancelRelay => exact Tells.of_eq rfl
  | duplicateDrop => exact Tells.of_eq rfl

theorem eq_of_forwards {ctx : MeshCtx S} {frame : RadioFrame} {metadata : RadioMetadata}
    {header : PacketHeader} {data : Data} {packet : MeshPacket}
    (hheader : frame.header = some header) (hdata : airData env ctx frame header = some data)
    (h : Forwards ctx (dispatch env ctx frame metadata) packet) :
    ∃ channelIndex, makeFromRadioPacket
      (forwardArgs header metadata (decodedPayload data channelIndex)) = .packet packet := by
  obtain ⟨hforeign, msg, hmsg, hvariant⟩ := h
  have hsilent : ∀ {after : MeshCtx S}, after.txToBle = ctx.txToBle →
      msg ∉ after.txToBle.drop ctx.txToBle.length := by
    intro after hsame
    rw [hsame, List.drop_length]
    exact List.not_mem_nil
  unfold dispatch at hmsg
  rw [hheader] at hmsg
  dsimp only at hmsg
  split at hmsg
  · refine absurd hmsg (hsilent ?_)
    unfold hearOwnPacket
    split <;> rfl
  · cases houtcome : tryDecryptAndDecode env frame header ctx.device ctx.nodeDb
        ctx.pkcPrivBytes with
    | pkiUnknownPubkey =>
        rw [houtcome] at hmsg
        exact absurd hmsg (hsilent (txToBle_answerUnknownPubkey ctx header))
    | drop =>
        rw [houtcome] at hmsg
        exact absurd hmsg (hsilent (txToBle_handleUndecodable ctx frame header metadata))
    | decoded decoded =>
        rw [houtcome] at hmsg
        dsimp only at hmsg
        obtain ⟨channelIndex, hdecoded⟩ := eq_decodedPayload_of_airData hdata houtcome
        refine ⟨channelIndex, ?_⟩
        rw [← hdecoded, ← hvariant]
        rcases (tells_handleDecoded ctx frame header metadata decoded).mem hmsg with hown | hargs
        · exact absurd (hown packet hvariant) hforeign
        · exact hargs.symm

end Handlers.FromRadio

/-! ## Frames forwarded later -/

namespace Handlers.FromApp

open Handlers.FromRadio

def replayVariant (env : Env) (device : DeviceState) (frame : RadioFrame) :
    Option FromRadio.Variant :=
  match frame.header, decodePskFrame env frame device with
  | some header, some decoded =>
      some (makeFromRadioPacket
        { header := header
          channelIndex := decoded.channelIndex
          portnum := decoded.portnum
          payload := decoded.payload
          replyId := decoded.replyId
          emoji := decoded.emoji
          metadata := { rssi := 0, snr := 0 } })
  | _, _ => none

theorem replayFrame_eq (ctx : MeshCtx S) (frame : RadioFrame) :
    replayFrame env ctx frame =
      match replayVariant env ctx.device frame with
      | some variant => pushFromRadio ctx variant
      | none => ctx := by
  unfold replayFrame replayVariant
  cases frame.header with
  | none => rfl
  | some header => cases decodePskFrame env frame ctx.device <;> rfl

theorem device_replayFrame (ctx : MeshCtx S) (frame : RadioFrame) :
    (replayFrame env ctx frame).device = ctx.device := by
  unfold replayFrame pushFromRadio
  split
  · rw [MeshCtx.trySendBle_eq]
    rfl
  · rfl

theorem storage_replayFrame (ctx : MeshCtx S) (frame : RadioFrame) :
    (replayFrame env ctx frame).storage = ctx.storage := by
  unfold replayFrame pushFromRadio
  split
  · rw [MeshCtx.trySendBle_eq]
    rfl
  · rfl

theorem decodePskFrame_eq {frame : RadioFrame} {header : PacketHeader} (device : DeviceState)
    (hheader : frame.header = some header) :
    decodePskFrame env frame device =
      ((pskPlaintext env frame header device).bind env.prost.data.decode).map fun data =>
        { portnum := data.portnum
          payload := data.payload
          channelIndex := ((matchedChannel device header).map (·.index)).getD 0
          replyId := data.replyId
          emoji := data.emoji } := by
  have hread : ∀ plaintext : Bytes, (do
      let data ← env.prost.data.decode plaintext
      some
        ({ portnum := data.portnum
           payload := data.payload
           channelIndex := ((matchedChannel device header).map (·.index)).getD 0
           replyId := data.replyId
           emoji := data.emoji } : DecodedPskFrame)) =
      (env.prost.data.decode plaintext).map fun data =>
        { portnum := data.portnum
          payload := data.payload
          channelIndex := ((matchedChannel device header).map (·.index)).getD 0
          replyId := data.replyId
          emoji := data.emoji } := by
    intro plaintext
    cases env.prost.data.decode plaintext <;> rfl
  unfold matchedChannel at hread
  unfold decodePskFrame pskPlaintext matchedChannel
  rw [hheader, Option.bind_eq_bind, Option.bind_some, Option.map_bind]
  dsimp only
  simp only [hread]
  cases device.channels.findByHash header.channelIndex device.modemPreset.displayName with
  | none => rfl
  | some channel =>
      dsimp only
      split <;> rfl

variable [MeshStorage S]

/-- The frames that popping takes out of the message buffer, oldest first. -/
def buffered : Nat → S → List RadioFrame
  | 0, _ => []
  | remaining + 1, storage =>
      match MeshStorage.peek storage with
      | some (some frame) => frame :: buffered remaining (MeshStorage.pop storage)
      | _ => []

def Replays (env : Env) (ctx : MeshCtx S) (frame : RadioFrame) (packet : MeshPacket) : Prop :=
  frame ∈ buffered (MeshStorage.count ctx.storage) ctx.storage ∧
    replayVariant env ctx.device frame = some (.packet packet) ∧
    ∃ msg ∈ (replayStoredFrames env ctx).txToBle.drop ctx.txToBle.length,
      msg.variant = .packet packet

omit [MeshStorage S] in
theorem tells_replayFrame (ctx : MeshCtx S) (frame : RadioFrame) :
    Tells (fun variant => replayVariant env ctx.device frame = some variant) ctx
      (replayFrame env ctx frame) := by
  rw [replayFrame_eq]
  cases hvariant : replayVariant env ctx.device frame with
  | none => exact Tells.refl ctx
  | some variant => exact Tells.push ctx rfl

theorem tells_replayFrames (remaining : Nat) (ctx : MeshCtx S) :
    Tells (fun variant => ∃ frame ∈ buffered remaining ctx.storage,
      replayVariant env ctx.device frame = some variant) ctx (replayFrames env remaining ctx) := by
  induction remaining generalizing ctx with
  | zero => exact Tells.refl ctx
  | succ remaining ih =>
      unfold replayFrames buffered
      cases MeshStorage.peek ctx.storage with
      | none => exact Tells.refl ctx
      | some oldest =>
        cases oldest with
        | none => exact Tells.refl ctx
        | some frame =>
          dsimp only
          generalize hpopped : { ctx with storage := MeshStorage.pop ctx.storage } = popped
          have hdevice : popped.device = ctx.device := by rw [← hpopped]
          have hstorage : popped.storage = MeshStorage.pop ctx.storage := by rw [← hpopped]
          have hble : popped.txToBle = ctx.txToBle := by rw [← hpopped]
          have hfirst := @tells_replayFrame S env popped frame
          have hrest := ih (replayFrame env popped frame)
          rw [storage_replayFrame, device_replayFrame, hstorage, hdevice] at hrest
          rw [hdevice] at hfirst
          apply (Tells.of_eq hble).trans
          apply (hfirst.mono fun variant hvariant => ⟨frame, List.mem_cons_self, hvariant⟩).trans
          refine hrest.mono fun variant hvariant => ?_
          obtain ⟨later, hlater, hvariant⟩ := hvariant
          exact ⟨later, List.mem_cons_of_mem frame hlater, hvariant⟩

/-- Decrypted under its channel as the settings are now, the frame still holds the message. -/
def RereadsAlike (env : Env) (device : DeviceState) (frame : RadioFrame) (header : PacketHeader)
    (data : Data) : Prop :=
  ∃ data', (pskPlaintext env frame header device).bind env.prost.data.decode = some data' ∧
    data'.portnum = data.portnum ∧ data'.payload = data.payload ∧
    data'.replyId = data.replyId ∧ data'.emoji = data.emoji

theorem mirrors_of_replays_iff {ctx : MeshCtx S} {frame : RadioFrame} {header : PacketHeader}
    {packet : MeshPacket} (hheader : frame.header = some header) (data : Data)
    (h : Replays env ctx frame packet) :
    Mirrors header data packet ↔
      (data.wantResponse = false ∧ data.requestId = 0) ∧
        RereadsAlike env ctx.device frame header data := by
  obtain ⟨-, hvariant, -⟩ := h
  unfold replayVariant at hvariant
  rw [hheader, decodePskFrame_eq ctx.device hheader] at hvariant
  unfold RereadsAlike
  cases hread : (pskPlaintext env frame header ctx.device).bind env.prost.data.decode with
  | none =>
      rw [hread] at hvariant
      cases hvariant
  | some data' =>
      rw [hread] at hvariant
      have hpacket := Option.some.inj hvariant
      rw [mirrors_makeFromRadioPacket_iff hpacket data]
      refine and_congr_right fun _ => ?_
      constructor
      · exact fun hfields => ⟨data', rfl, hfields⟩
      · rintro ⟨reread, hreread, hfields⟩
        cases hreread
        exact hfields

/-- The context after the messages of a handshake stage, in which the replay starts. -/
def exchanged (env : Env) (ctx : MeshCtx S) (configId : UInt32) : MeshCtx S :=
  if configId = SPECIAL_NONCE_ONLY_NODES then sendNodeinfoExchange env ctx configId
  else sendConfigExchange env ctx configId

theorem handleToRadio_wantConfigId (ctx : MeshCtx S) (configId : UInt32) :
    handleToRadio env ctx (some (.wantConfigId configId)) =
      replayStoredFrames env (exchanged env ctx configId) := rfl

omit [MeshStorage S] in
theorem device_exchanged (ctx : MeshCtx S) (configId : UInt32) :
    (exchanged env ctx configId).device = ctx.device := by
  have hfold : ∀ (variants : List FromRadio.Variant) (ctx : MeshCtx S),
      (variants.foldl pushFromRadio ctx).device = ctx.device := by
    intro variants
    induction variants with
    | nil => exact fun _ => rfl
    | cons variant variants ih =>
        intro ctx
        rw [List.foldl_cons, ih]
        unfold pushFromRadio
        rw [MeshCtx.trySendBle_eq]
        rfl
  unfold exchanged sendNodeinfoExchange sendConfigExchange replaySatelliteDb
  dsimp only
  split
  · rw [hfold, hfold]
  · rw [hfold]

/-- In every run, which received frames the phone sees as they came over the air: live, and
in a replay later in the run. -/
theorem bridged_iff (mac : Bytes) (storage : S) (pkcKeypair : Key × Key)
    (entropy : Nat → UInt32) (events later : List MeshState.Event) (frame : RadioFrame)
    (metadata : RadioMetadata) (configId : UInt32) (header : PacketHeader) (data : Data) :
    let heard := MeshState.noteActivity
      (MeshState.after env mac storage pkcKeypair entropy events).ctx (.loraRx frame metadata)
    let asked := (MeshState.after env mac storage pkcKeypair entropy
      (events ++ .mesh (.loraRx frame metadata) :: later)).ctx
    frame.header = some header → airData env heard frame header = some data →
      (∀ packet, Forwards heard (FromRadio.dispatch env heard frame metadata) packet →
        (Mirrors header data packet ↔ data.wantResponse = false ∧ data.requestId = 0)) ∧
      ∀ packet, Replays env (exchanged env asked configId) frame packet →
        (Mirrors header data packet ↔ (data.wantResponse = false ∧ data.requestId = 0) ∧
          RereadsAlike env asked.device frame header data) := by
  intro heard asked hheader hdata
  constructor
  · intro packet hforwards
    obtain ⟨channelIndex, hpacket⟩ := eq_of_forwards hheader hdata hforwards
    have hmirrors := mirrors_makeFromRadioPacket_iff hpacket data
    constructor
    · exact fun h => (hmirrors.mp h).1
    · exact fun h => hmirrors.mpr ⟨h, rfl, rfl, rfl, rfl⟩
  · intro packet hreplays
    rw [← device_exchanged asked configId]
    exact mirrors_of_replays_iff hheader data hreplays

/-- The phone is connected when an acknowledgement of packet 7 is heard. -/
def bridgedRun : List MeshState.Event := [.announce, .mesh .bleConnected]

def bridgedCtx : MeshCtx FakeStorage :=
  MeshState.noteActivity
    (MeshState.after KnownAnswers.defaultKey.env KnownAnswers.mac {} KnownAnswers.noKeypair
      KnownAnswers.noEntropy bridgedRun).ctx (.loraRx strangerAck ⟨0, 0⟩)

def bridgedData : Data where
  portnum := PortNum.routingApp.toI32
  requestId := 7

theorem airData_strangerAck :
    airData KnownAnswers.defaultKey.env bridgedCtx strangerAck strangerHeader =
      some bridgedData := by
  decide

theorem strangerAck_bridged :
    ∀ packet, Forwards bridgedCtx
        (FromRadio.dispatch KnownAnswers.defaultKey.env bridgedCtx strangerAck ⟨0, 0⟩) packet →
      (Mirrors strangerHeader bridgedData packet ↔
        bridgedData.wantResponse = false ∧ bridgedData.requestId = 0) := by
  have hbridged := @bridged_iff FakeStorage KnownAnswers.defaultKey.env _ KnownAnswers.mac {}
    KnownAnswers.noKeypair KnownAnswers.noEntropy bridgedRun [] strangerAck ⟨0, 0⟩ 0
    strangerHeader bridgedData
  unfold bridgedCtx
  exact (hbridged (by decide) airData_strangerAck).1

def isForeign (nodeNum : UInt32) : FromRadio.Variant → Bool
  | .packet packet => packet.fromNode != nodeNum
  | _ => false

/-- The phone gets the acknowledgement without the id of the packet it acknowledges. -/
theorem strangerAck_bridged_without_requestId :
    ∃ packet, Forwards bridgedCtx
        (FromRadio.dispatch KnownAnswers.defaultKey.env bridgedCtx strangerAck ⟨0, 0⟩) packet ∧
      airData KnownAnswers.defaultKey.env bridgedCtx strangerAck strangerHeader =
        some bridgedData ∧
      ¬ Mirrors strangerHeader bridgedData packet := by
  have hqueued : ((FromRadio.dispatch KnownAnswers.defaultKey.env bridgedCtx strangerAck
      ⟨0, 0⟩).txToBle.drop bridgedCtx.txToBle.length).any
        (fun msg => isForeign bridgedCtx.device.myNodeNum msg.variant) = true := by
    decide
  obtain ⟨msg, hmsg, hpacket⟩ := List.any_eq_true.mp hqueued
  cases hvariant : msg.variant with
  | packet packet =>
      rw [hvariant] at hpacket
      have hforwards : Forwards bridgedCtx (FromRadio.dispatch KnownAnswers.defaultKey.env
          bridgedCtx strangerAck ⟨0, 0⟩) packet :=
        ⟨by simpa [isForeign] using hpacket, msg, hmsg, hvariant⟩
      refine ⟨packet, hforwards, airData_strangerAck, fun hmirrors => ?_⟩
      obtain ⟨channelIndex, hargs⟩ := eq_of_forwards (by decide) airData_strangerAck hforwards
      obtain ⟨⟨-, hrequest⟩, -⟩ := (mirrors_makeFromRadioPacket_iff hargs bridgedData).mp hmirrors
      exact absurd hrequest (by decide)
  | _ =>
      rw [hvariant] at hpacket
      cases hpacket

end Handlers.FromApp

end Meshtastenstein
