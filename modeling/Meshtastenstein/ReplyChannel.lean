import Meshtastenstein.ChannelRuns
import Meshtastenstein.DecryptVerdict
/-!
# The channel of a reply

Acknowledgements and traceroute replies are built for the slot the request came by.  They go
out on the channel of the request, unless the request itself is a command that puts another
channel in that slot or renames the channel with the preset.
-/

namespace Meshtastenstein

open Lib Proto Handlers

variable {S : Type} {env : Env}

/-! ## Outgoing frames -/

/-- A frame description and the context it is built in. -/
structure Outgoing (S : Type) where
  ctx : MeshCtx S
  tx : TxBuilder

def Outgoing.frame (env : Env) (out : Outgoing S) : Option RadioFrame :=
  out.tx.build env out.ctx.takePacketId.device out.ctx.takePacketId.router
    out.ctx.takePacketId.nodeDb out.ctx.device.nextPacketId none

/-- Acknowledgements and traceroute replies have these port numbers to themselves. -/
def TxBuilder.IsReply (tx : TxBuilder) : Prop :=
  tx.portnum = PortNum.routingApp.toI32 ∨ tx.portnum = PortNum.tracerouteApp.toI32

/-- `after` follows from `before` by queueing whatever of `sent` can be built. -/
def Queues (env : Env) (sent : List (Outgoing S)) (before after : MeshCtx S) : Prop :=
  after.txToLora = before.txToLora ++ sent.filterMap (Outgoing.frame env)

namespace Queues

variable {sent sent' : List (Outgoing S)} {ctx ctx' ctx'' : MeshCtx S}

theorem of_eq (h : ctx'.txToLora = ctx.txToLora) : Queues env [] ctx ctx' := by
  unfold Queues
  rw [h, List.filterMap_nil, List.append_nil]

theorem of_quiet (h : Quiet 0 ctx ctx') : Queues env [] ctx ctx' := by
  obtain ⟨k, hk, frames, ids, -, hlora, hids, hframes⟩ := h.originates
  obtain rfl : k = 0 := Nat.le_zero.mp hk
  obtain rfl : ids = [] := List.sublist_nil.mp hids
  obtain rfl : frames = [] := List.forall₂_nil_right_iff.mp hframes
  exact of_eq (by rw [hlora, List.append_nil])

theorem trans (h : Queues env sent ctx ctx') (h' : Queues env sent' ctx' ctx'') :
    Queues env (sent ++ sent') ctx ctx'' := by
  unfold Queues at *
  rw [h', h, List.filterMap_append, List.append_assoc]

theorem originate (ctx : MeshCtx S) (tx : TxBuilder) :
    Queues env [⟨ctx, tx⟩] ctx (Handlers.originate env ctx tx) := by
  unfold Queues Handlers.originate
  dsimp only
  cases hbuild : tx.build env ctx.takePacketId.device ctx.takePacketId.router
      ctx.takePacketId.nodeDb ctx.device.nextPacketId none with
  | some frame =>
      have hframe : Outgoing.frame env ⟨ctx, tx⟩ = some frame := hbuild
      rw [List.filterMap_cons_some hframe]
      rfl
  | none =>
      have hframe : Outgoing.frame env ⟨ctx, tx⟩ = none := hbuild
      rw [List.filterMap_cons_none hframe, List.filterMap_nil, List.append_nil]
      rfl

/-- A frame for the primary channel goes out when the airtime allows it. -/
theorem loraSend (ctx : MeshCtx S) (portnum : PortNum) (payload : Bytes) (dest : UInt32)
    (wantResponse : Bool) :
    Queues env (if txAllowedImpolite env ctx then [⟨ctx, loraTx portnum payload dest wantResponse⟩]
      else []) ctx (Handlers.loraSend env ctx portnum payload dest wantResponse).1 := by
  unfold Handlers.loraSend
  split
  · have horiginate := @originate S env ctx (loraTx portnum payload dest wantResponse)
    unfold Handlers.originate at horiginate
    dsimp only at horiginate ⊢
    split at horiginate <;> exact horiginate
  · exact of_eq rfl

theorem adminDispatch [MeshStorage S] (ctx : MeshCtx S) (requester reqPktId : UInt32)
    (adminBytes : Bytes) :
    ∃ sent, (∀ out ∈ sent, out.tx.portnum = PortNum.adminApp.toI32) ∧
      Queues env sent ctx (Admin.dispatch env ctx requester reqPktId adminBytes true) := by
  rcases @Admin.dispatch_cases S env _ ctx requester reqPktId adminBytes true with
    ⟨answer, hanswer⟩ | hadministered
  · rw [hanswer]
    unfold Admin.sendAdminResponse
    rw [if_pos rfl]
    refine ⟨_, fun out hout => ?_,
      (of_quiet (quiet_ensureSessionPasskey ctx)).trans (originate _ _)⟩
    rw [List.mem_singleton.mp hout]
  · exact ⟨[], by simp, of_quiet (Quiet.of_traffic_eq hadministered.traffic_eq)⟩

end Queues

def Unreplied (env : Env) (before after : MeshCtx S) : Prop :=
  ∃ others, (∀ out ∈ others, ¬ out.tx.IsReply) ∧ Queues env others before after

namespace Unreplied

variable {ctx ctx' ctx'' : MeshCtx S}

theorem of_queues_nil (h : Queues env [] ctx ctx') : Unreplied env ctx ctx' :=
  ⟨[], by simp, h⟩

theorem of_quiet (h : Quiet 0 ctx ctx') : Unreplied env ctx ctx' :=
  of_queues_nil (Queues.of_quiet h)

theorem of_eq (h : ctx'.txToLora = ctx.txToLora) : Unreplied env ctx ctx' :=
  of_queues_nil (Queues.of_eq h)

theorem trans (h : Unreplied env ctx ctx') (h' : Unreplied env ctx' ctx'') :
    Unreplied env ctx ctx'' := by
  obtain ⟨others, hothers, hqueues⟩ := h
  obtain ⟨others', hothers', hqueues'⟩ := h'
  refine ⟨others ++ others', fun out hout => ?_, hqueues.trans hqueues'⟩
  rcases List.mem_append.mp hout with hout | hout
  · exact hothers out hout
  · exact hothers' out hout

theorem originate (ctx : MeshCtx S) {tx : TxBuilder} (h : ¬ tx.IsReply) :
    Unreplied env ctx (Handlers.originate env ctx tx) := by
  refine ⟨[⟨ctx, tx⟩], fun out hout => ?_, Queues.originate ctx tx⟩
  rw [List.mem_singleton.mp hout]
  exact h

/-- A node information goes out like any other frame, when the airtime allows it. -/
theorem sendNodeinfo (ctx : MeshCtx S) (dest : UInt32) (wantResponse : Bool) :
    Unreplied env ctx (Handlers.sendNodeinfo env ctx dest wantResponse) := by
  have hreply : ∀ payload,
      ¬ (loraTx .nodeinfoApp payload dest wantResponse).IsReply := by
    intro payload hreply
    have hports : PortNum.nodeinfoApp.toI32 = PortNum.routingApp.toI32 ∨
        PortNum.nodeinfoApp.toI32 = PortNum.tracerouteApp.toI32 := hreply
    revert hports
    decide
  refine ⟨_, fun out hout => ?_, Queues.loraSend ctx .nodeinfoApp _ dest wantResponse⟩
  split at hout
  · rw [List.mem_singleton.mp hout]
    exact hreply _
  · cases hout

theorem answerNodeinfo (ctx : MeshCtx S) (dest : UInt32) (wantResponse : Bool) :
    Unreplied env ctx (FromRadio.answerNodeinfo env ctx dest wantResponse) :=
  (sendNodeinfo ctx dest wantResponse).trans (of_eq rfl)

theorem maybeRequestNodeinfo (ctx : MeshCtx S) (sender : UInt32) (hopStart hopLimit : UInt8) :
    Unreplied env ctx (FromRadio.maybeRequestNodeinfo env ctx sender hopStart hopLimit) := by
  unfold FromRadio.maybeRequestNodeinfo
  split_ifs
  · exact of_eq rfl
  · exact of_eq rfl
  · exact of_eq rfl
  · exact of_eq rfl
  · exact of_eq rfl
  · exact answerNodeinfo ctx sender true

theorem noteSender (ctx : MeshCtx S) (header : PacketHeader) (metadata : RadioMetadata) :
    Unreplied env ctx (FromRadio.noteSender env ctx header metadata) := by
  unfold FromRadio.noteSender
  dsimp only
  generalize hdb : (ctx.blink .singleBlink).modifyNodeDb _ = touched
  have htouched : Unreplied env ctx touched := by
    rw [← hdb]
    exact of_eq rfl
  have hnotified : ∀ isNew : Bool, Unreplied env ctx
      (if isNew = true then notifyBleNodeUpdate touched header.sender else touched) := by
    intro isNew
    split
    · exact htouched.trans (of_quiet (quiet_notifyBleNodeUpdate touched header.sender))
    · exact htouched
  have hrequest : ∀ noted, Unreplied env ctx noted → Unreplied env ctx
      (if ((noted.nodeDb.get header.sender).bind (·.user)).isNone = true then
        FromRadio.maybeRequestNodeinfo env noted header.sender header.hopStart header.hopLimit
      else noted) := by
    intro noted hsent
    split
    · exact hsent.trans (maybeRequestNodeinfo noted _ _ _)
    · exact hsent
  exact hrequest _ (hnotified _)

theorem handleNodeInfo (ctx : MeshCtx S) (pkt : FromRadio.InboundPacket) :
    Unreplied env ctx (FromRadio.handleNodeInfo env ctx pkt) := by
  unfold FromRadio.handleNodeInfo
  split
  · exact of_eq rfl
  · rename_i user _
    have hdb : Unreplied env ctx
        (ctx.modifyNodeDb fun db => FromRadio.storeUser db pkt.sender user) := of_eq rfl
    have hnotified := hdb.trans (of_quiet (quiet_notifyBleNodeUpdate _ pkt.sender))
    dsimp only
    split
    · exact hnotified.trans (answerNodeinfo _ pkt.sender false)
    · exact hnotified

theorem handleRouting (ctx : MeshCtx S) (pkt : FromRadio.InboundPacket) :
    Unreplied env ctx (FromRadio.handleRouting env ctx pkt) := by
  rcases @FromRadio.handleRouting_cases S env ctx pkt with
    hquiet | ⟨_, i, entry, _, _, _, _, _, hquiet⟩
  · exact of_quiet hquiet
  · exact (of_eq (FromRadio.txToLora_deliver ctx i entry)).trans (of_quiet hquiet)

variable [MeshStorage S]

theorem adminDispatch (ctx : MeshCtx S) (requester reqPktId : UInt32) (adminBytes : Bytes) :
    Unreplied env ctx (Admin.dispatch env ctx requester reqPktId adminBytes true) := by
  obtain ⟨sent, hadmin, hqueues⟩ :=
    @Queues.adminDispatch S env _ ctx requester reqPktId adminBytes
  refine ⟨sent, fun out hout hreply => ?_, hqueues⟩
  have hports : PortNum.adminApp.toI32 = PortNum.routingApp.toI32 ∨
      PortNum.adminApp.toI32 = PortNum.tracerouteApp.toI32 := by
    rw [← hadmin out hout]
    exact hreply
  revert hports
  decide

end Unreplied

/-! ## Replies -/

namespace Handlers.FromRadio

def tracerouteTx (env : Env) (ctx : MeshCtx S) (pkt : InboundPacket) : TxBuilder :=
  { dest := pkt.sender
    portnum := PortNum.tracerouteApp.toI32
    innerPayload := env.prost.routeDiscovery.encode
      (extendRoute ((env.prost.routeDiscovery.decode pkt.payload).getD {})
        ctx.device.myNodeNum pkt.snr)
    channelIdx := some pkt.channelIdx
    requestId := pkt.packetId }

def tracerouteReply (env : Env) (ctx : MeshCtx S) (portnum : Int32) (pkt : InboundPacket) :
    List (Outgoing S) :=
  if portnum = PortNum.tracerouteApp.toI32 ∧ pkt.addressedToUs = true ∧
      pkt.wantResponse = true then [⟨ctx, tracerouteTx env ctx pkt⟩]
  else []

def acknowledgement (ctx : MeshCtx S) (header : PacketHeader) (decoded : DecodedPayload) :
    List (Outgoing S) :=
  if header.destination = ctx.device.myNodeNum ∧ header.wantAck = true then
    [⟨ctx, ackTx header decoded.channelIndex⟩]
  else []

theorem queues_ackInbound (ctx : MeshCtx S) (header : PacketHeader) (decoded : DecodedPayload) :
    Queues env (acknowledgement ctx header decoded) ctx (ackInbound env ctx header decoded) := by
  unfold ackInbound acknowledgement
  split
  · exact Queues.originate ctx (ackTx header decoded.channelIndex)
  · exact Queues.of_eq rfl

theorem queues_handleTraceroute (ctx : MeshCtx S) (pkt : InboundPacket) :
    Queues env (tracerouteReply env ctx PortNum.tracerouteApp.toI32 pkt) ctx
      (handleTraceroute env ctx pkt) := by
  unfold handleTraceroute tracerouteReply
  by_cases hasked : pkt.addressedToUs = true ∧ pkt.wantResponse = true
  · rw [if_pos ⟨rfl, hasked⟩, if_pos (by rw [hasked.1, hasked.2]; rfl)]
    exact Queues.originate ctx (tracerouteTx env ctx pkt)
  · rw [if_neg (fun h => hasked h.2), if_neg (by simpa using hasked)]
    exact Queues.of_eq rfl

variable [MeshStorage S]

/-- The port numbers queue nothing but the traceroute reply that a receiver could take for a
reply. -/
theorem queues_handlePortnum (ctx : MeshCtx S) (portnum : Int32) (pkt : InboundPacket) :
    ∃ others, (∀ out ∈ others, ¬ out.tx.IsReply) ∧
      Queues env (others ++ tracerouteReply env ctx portnum pkt) ctx
        (handlePortnum env ctx portnum pkt) := by
  by_cases htraceroute : portnum = PortNum.tracerouteApp.toI32
  · subst htraceroute
    refine ⟨[], by simp, ?_⟩
    have hhandler : handlePortnum env ctx PortNum.tracerouteApp.toI32 pkt =
        handleTraceroute env ctx pkt := by
      unfold handlePortnum
      rw [PortNum.tryFrom_toI32]
    rw [hhandler, List.nil_append]
    exact queues_handleTraceroute ctx pkt
  · have hnone : tracerouteReply env ctx portnum pkt = [] :=
      if_neg fun h => htraceroute h.1
    rw [hnone]
    simp only [List.append_nil]
    have hsame : Unreplied env ctx ctx := Unreplied.of_eq rfl
    change Unreplied env ctx (handlePortnum env ctx portnum pkt)
    unfold handlePortnum
    split
    · exact hsame
    · exact hsame
    · exact hsame
    · exact Unreplied.of_quiet (quiet_handlePosition ctx pkt)
    · exact Unreplied.handleNodeInfo ctx pkt
    · exact Unreplied.handleRouting ctx pkt
    · unfold handleAdmin
      split
      · exact Unreplied.adminDispatch ctx _ _ _
      · exact hsame
    · exact hsame
    · exact Unreplied.of_quiet (quiet_handleTelemetry ctx pkt)
    · rename_i hportnum
      exact absurd (PortNum.toI32_of_tryFrom hportnum).symm htraceroute
    · exact Unreplied.of_quiet (quiet_handleNeighborInfo ctx pkt)
    · exact hsame
    · exact hsame

def newReplies (env : Env) (ctx : MeshCtx S) (frame : RadioFrame) (header : PacketHeader)
    (metadata : RadioMetadata) (decoded : DecodedPayload) : List (Outgoing S) :=
  let noted := noteSender env ctx header metadata
  tracerouteReply env (bufferText noted frame decoded.portnum) decoded.portnum
      (inboundPacket noted.device header metadata decoded) ++
    acknowledgement (beforeAck env ctx frame header metadata decoded) header decoded

/-- The replies to a packet that decoded; further copies get none. -/
def replies (env : Env) (ctx : MeshCtx S) (frame : RadioFrame) (header : PacketHeader)
    (metadata : RadioMetadata) (decoded : DecodedPayload) : List (Outgoing S) :=
  let (verdict, router) := ctx.router.shouldFilterReceived header.sender header.packetId
    header.hopLimit header.relayNode (pendingHopLimit ctx header) ctx.device.role
  match verdict with
  | .new => newReplies env { ctx with router := router } frame header metadata decoded
  | _ => []

theorem queues_handleNew (ctx : MeshCtx S) (frame : RadioFrame) (header : PacketHeader)
    (metadata : RadioMetadata) (decoded : DecodedPayload) :
    ∃ others, (∀ out ∈ others, ¬ out.tx.IsReply) ∧
      Queues env (others ++ newReplies env ctx frame header metadata decoded) ctx
        (handleNew env ctx frame header metadata decoded) := by
  unfold handleNew newReplies beforeAck
  dsimp only
  have hnoted := @Unreplied.noteSender S env ctx header metadata
  generalize noteSender env ctx header metadata = noted at hnoted ⊢
  generalize inboundPacket noted.device header metadata decoded = pkt
  have hbuffered : Queues env [] noted (bufferText noted frame decoded.portnum) :=
    Queues.of_quiet (quiet_bufferText noted frame decoded.portnum)
  generalize bufferText noted frame decoded.portnum = buffered at hbuffered ⊢
  obtain ⟨introduced, hintroduced, hqueued⟩ := hnoted
  obtain ⟨others, hothers, hhandled⟩ := @queues_handlePortnum S env _ buffered decoded.portnum pkt
  generalize handlePortnum env buffered decoded.portnum pkt = handled at hhandled ⊢
  have hforwarded : Queues env [] handled (forwardInbound handled header metadata decoded pkt) :=
    Queues.of_quiet (quiet_forwardInbound handled header metadata decoded pkt)
  generalize forwardInbound handled header metadata decoded pkt = before at hforwarded ⊢
  have hacked := @queues_ackInbound S env before header decoded
  have hrelayed : Queues env [] (ackInbound env before header decoded)
      (relayInbound env (ackInbound env before header decoded) frame header metadata) :=
    Queues.of_quiet (quiet_relayInbound _ frame header metadata)
  refine ⟨introduced ++ others, fun out hout => ?_, ?_⟩
  · rcases List.mem_append.mp hout with hout | hout
    · exact hintroduced out hout
    · exact hothers out hout
  · have hall := ((((hqueued.trans hbuffered).trans hhandled).trans hforwarded).trans
      hacked).trans hrelayed
    simpa only [List.append_nil, List.append_assoc] using hall

theorem queues_handleDecoded (ctx : MeshCtx S) (frame : RadioFrame) (header : PacketHeader)
    (metadata : RadioMetadata) (decoded : DecodedPayload) :
    ∃ others, (∀ out ∈ others, ¬ out.tx.IsReply) ∧
      Queues env (others ++ replies env ctx frame header metadata decoded) ctx
        (handleDecoded env ctx frame header metadata decoded) := by
  unfold handleDecoded replies
  generalize ctx.router.shouldFilterReceived header.sender header.packetId header.hopLimit
    header.relayNode (pendingHopLimit ctx header) ctx.device.role = filtered
  obtain ⟨verdict, router⟩ := filtered
  dsimp only
  cases verdict with
  | new => exact queues_handleNew { ctx with router := router } frame header metadata decoded
  | duplicateUpgrade newHop =>
      refine ⟨[], by simp, Queues.of_eq ?_⟩
      exact txToLora_upgradeRebroadcast { ctx with router := router } frame header newHop
  | duplicateCancelRelay => exact ⟨[], by simp, Queues.of_eq rfl⟩
  | duplicateDrop => exact ⟨[], by simp, Queues.of_eq rfl⟩

theorem replies_of_new {ctx : MeshCtx S} {header : PacketHeader}
    (h : ctx.router.findRecord header.sender header.packetId = none) (frame : RadioFrame)
    (metadata : RadioMetadata) (decoded : DecodedPayload) :
    ∃ router, replies env ctx frame header metadata decoded =
      newReplies env { ctx with router := router } frame header metadata decoded := by
  unfold replies MeshRouter.shouldFilterReceived
  rw [h]
  exact ⟨_, rfl⟩

theorem replies_of_find {ctx : MeshCtx S} {header : PacketHeader} {idx : Nat}
    (h : ctx.router.findRecord header.sender header.packetId = some idx) (frame : RadioFrame)
    (metadata : RadioMetadata) (decoded : DecodedPayload) :
    replies env ctx frame header metadata decoded = [] := by
  unfold replies
  rw [MeshRouter.shouldFilterReceived_of_find h]
  split_ifs <;> rfl

end Handlers.FromRadio

/-! ## Channels on the air -/

def ChannelConfig.onAir (channel : ChannelConfig) (presetName : Text) : UInt8 × Bytes :=
  (channel.hash presetName, channel.effectivePsk)

structure Outgoing.Answers (out : Outgoing S) (header : PacketHeader) (device : DeviceState)
    (channel : ChannelConfig) : Prop where
  dest_eq : out.tx.dest = header.sender
  requestId_eq : out.tx.requestId = header.packetId
  /-- On a channel of the same hash and the same effective key. -/
  onAir_eq : (out.tx.channel out.ctx.device).map
    (·.onAir out.ctx.device.modemPreset.displayName) =
      some (channel.onAir device.modemPreset.displayName)

namespace Handlers.Admin

/-- The command puts a channel with another hash or key in the slot, or has the channel go by
the name of another preset. -/
def Rekeys (env : Env) (device : DeviceState) (channel : ChannelConfig) :
    AdminMessage.Variant → Prop
  | .setChannel message => ∃ settings, message.settings = some settings ∧
      isValidPskLen settings.psk.length = true ∧
      message.index.toUInt32.toUInt8 = channel.index ∧
      (channelOfSettings message settings).onAir device.modemPreset.displayName ≠
        channel.onAir device.modemPreset.displayName
  | .setConfig config => ∃ lora, config.payloadVariant = some (.lora lora) ∧
      channel.onAir (ModemPreset.fromProto env
        lora.modemPreset.toUInt32.toUInt8).displayName ≠
        channel.onAir device.modemPreset.displayName
  | _ => False

variable [MeshStorage S]

theorem modemPreset_handleVariant (ctx : MeshCtx S) (requester reqPktId : UInt32)
    (viaLora : Bool) (variant : AdminMessage.Variant) :
    (handleVariant env ctx requester reqPktId viaLora variant).device.modemPreset =
      match variant with
      | .setConfig config => (setConfig env ctx config).device.modemPreset
      | _ => ctx.device.modemPreset := by
  have hanswered : ∀ answer,
      (sendAdminResponse env ctx requester reqPktId answer viaLora).device.modemPreset =
        ctx.device.modemPreset := by
    intro answer
    have hsettings := @settings_sendAdminResponse S env ctx requester reqPktId answer viaLora
    have hpreset := congrArg DeviceState.modemPreset hsettings
    exact hpreset
  cases variant with
  | getOwnerRequest _ => exact hanswered _
  | getConfigRequest configType =>
      unfold handleVariant
      dsimp only
      split
      · exact hanswered _
      · rfl
  | getChannelRequest _ => exact hanswered _
  | getModuleConfigRequest configType =>
      unfold handleVariant getModuleConfig
      dsimp only
      split
      · exact hanswered _
      · rfl
  | setChannel channel =>
      unfold handleVariant setChannel
      dsimp only
      split
      · split <;> rfl
      · rfl
  | addContact contact =>
      unfold handleVariant addContact
      dsimp only
      split <;> rfl
  | beginEditSettings _ => exact hanswered _
  | commitEditSettings _ => exact hanswered _
  | _ => rfl

/-- A channel with a usable key is put in the slot it names. -/
theorem get_setChannel_of_eq {ctx : MeshCtx S} {channel : ChannelConfig} {message : Channel}
    {settings : ChannelSettings}
    (h : ctx.device.channels.get channel.index = some channel)
    (hsettings : message.settings = some settings)
    (hvalid : isValidPskLen settings.psk.length = true)
    (hindex : message.index.toUInt32.toUInt8 = channel.index) :
    (setChannel env ctx message).device.channels.get channel.index =
      some (channelOfSettings message settings) := by
  rw [setChannel, hsettings]
  dsimp only
  rw [if_pos hvalid]
  change (ctx.device.channels.set _ _).get _ = _
  rw [ChannelSet.get_set, hindex, if_pos ⟨rfl, ChannelSet.lt_of_get_eq_some h⟩]

theorem get_setChannel_of_ne {ctx : MeshCtx S} {index : UInt8} {message : Channel}
    (hset : ¬ ∃ settings, message.settings = some settings ∧
      isValidPskLen settings.psk.length = true ∧ message.index.toUInt32.toUInt8 = index) :
    (setChannel env ctx message).device.channels.get index = ctx.device.channels.get index := by
  unfold setChannel
  split
  · rename_i settings hsettings
    split
    · rename_i hvalid
      change (ctx.device.channels.set _ _).get _ = _
      rw [ChannelSet.get_set,
        if_neg fun hsame => hset ⟨settings, hsettings, hvalid, hsame.1⟩]
    · rfl
  · rfl

theorem modemPreset_setConfig (ctx : MeshCtx S) (config : Config) :
    (setConfig env ctx config).device.modemPreset =
      match config.payloadVariant with
      | some (.lora lora) => ModemPreset.fromProto env lora.modemPreset.toUInt32.toUInt8
      | _ => ctx.device.modemPreset := by
  unfold setConfig
  cases config.payloadVariant with
  | none => rfl
  | some variant => cases variant <;> rfl

/-- A command leaves what the slot goes out on, unless it rekeys the channel in it. -/
theorem onAir_handleVariant {ctx : MeshCtx S} {channel : ChannelConfig}
    (h : ctx.device.channels.get channel.index = some channel) (requester reqPktId : UInt32)
    (viaLora : Bool) (variant : AdminMessage.Variant) :
    let after := (handleVariant env ctx requester reqPktId viaLora variant).device
    ∃ c, after.channels.get channel.index = some c ∧
      (c.onAir after.modemPreset.displayName =
        channel.onAir ctx.device.modemPreset.displayName ↔
          ¬ Rekeys env ctx.device channel variant) := by
  intro after
  have hchannels := @channels_handleVariant S _ env ctx requester reqPktId viaLora variant
  have hpreset := @modemPreset_handleVariant S env _ ctx requester reqPktId viaLora variant
  change after.channels = _ at hchannels
  change after.modemPreset = _ at hpreset
  have hkept : ¬ Rekeys env ctx.device channel variant →
      after.channels.get channel.index = some channel →
      after.modemPreset = ctx.device.modemPreset → ∃ c,
        after.channels.get channel.index = some c ∧
          (c.onAir after.modemPreset.displayName =
            channel.onAir ctx.device.modemPreset.displayName ↔
              ¬ Rekeys env ctx.device channel variant) :=
    fun hrekeys hslot hpreset => ⟨channel, hslot, iff_of_true (by rw [hpreset]) hrekeys⟩
  cases variant with
  | setChannel message =>
      dsimp only at hchannels hpreset
      by_cases hset : ∃ settings, message.settings = some settings ∧
          isValidPskLen settings.psk.length = true ∧
          message.index.toUInt32.toUInt8 = channel.index
      · obtain ⟨settings, hsettings, hvalid, hindex⟩ := hset
        have hslot := @get_setChannel_of_eq S env _ ctx channel message settings h hsettings hvalid
          hindex
        refine ⟨channelOfSettings message settings, by rw [hchannels, hslot], ?_⟩
        rw [hpreset, ← not_iff_not, not_not]
        constructor
        · exact fun hdiffers => ⟨settings, hsettings, hvalid, hindex, hdiffers⟩
        · rintro ⟨settings', hsettings', -, -, hdiffers⟩
          obtain rfl := Option.some.inj (hsettings.symm.trans hsettings')
          exact hdiffers
      · refine hkept ?_ (by rw [hchannels, get_setChannel_of_ne hset, h]) hpreset
        rintro ⟨settings, hsettings, hvalid, hindex, -⟩
        exact hset ⟨settings, hsettings, hvalid, hindex⟩
  | setConfig config =>
      dsimp only at hchannels hpreset
      rw [modemPreset_setConfig] at hpreset
      by_cases hset : ∃ lora, config.payloadVariant = some (.lora lora)
      · obtain ⟨lora, hlora⟩ := hset
        rw [hlora] at hpreset
        refine ⟨channel, by rw [hchannels, h], ?_⟩
        rw [hpreset, ← not_iff_not, not_not]
        constructor
        · exact fun hdiffers => ⟨lora, hlora, hdiffers⟩
        · rintro ⟨lora', hlora', hdiffers⟩
          obtain rfl : lora = lora' := by
            have hsame := hlora.symm.trans hlora'
            simpa using hsame
          exact hdiffers
      · refine hkept ?_ (by rw [hchannels, h]) ?_
        · rintro ⟨lora, hlora, -⟩
          exact hset ⟨lora, hlora⟩
        · rw [hpreset]
          split
          · rename_i lora hlora
            exact absurd ⟨lora, hlora⟩ hset
          · rfl
  | _ => exact hkept (fun hrekeys => hrekeys) (by rw [hchannels, h]) hpreset

end Handlers.Admin

namespace Handlers.FromRadio

/-! ## Packets that a channel opens -/

/-- The packet was opened with the key of a channel of ours. -/
structure OpenedOn (env : Env) (ctx : MeshCtx S) (frame : RadioFrame) (header : PacketHeader)
    (channel : ChannelConfig) (decoded : DecodedPayload) : Prop where
  header_eq : frame.header = some header
  sender_ne : header.sender ≠ ctx.device.myNodeNum
  matched : matchedChannel ctx.device header = some channel
  /-- It is no direct message. -/
  notDirect : pkcPlaintext env frame header ctx.device ctx.nodeDb ctx.pkcPrivBytes = none
  decodes : tryDecryptAndDecode env frame header ctx.device ctx.nodeDb ctx.pkcPrivBytes =
    .decoded decoded

theorem OpenedOn.channelIndex_eq {ctx : MeshCtx S} {frame : RadioFrame} {header : PacketHeader}
    {channel : ChannelConfig} {decoded : DecodedPayload}
    (h : OpenedOn env ctx frame header channel decoded) :
    decoded.channelIndex = channel.index := by
  have hdecodes := h.decodes
  cases hopened : openedData env frame header ctx.device ctx.nodeDb ctx.pkcPrivBytes with
  | none =>
      rw [tryDecryptAndDecode_of_unopened hopened] at hdecodes
      unfold finalUndecodedOutcome at hdecodes
      split at hdecodes <;> cases hdecodes
  | some data =>
      rw [tryDecryptAndDecode_of_opened hopened, h.matched] at hdecodes
      split at hdecodes
      · cases hdecodes
      · cases hdecodes
        rfl

theorem OpenedOn.get_eq {ctx : MeshCtx S} {frame : RadioFrame} {header : PacketHeader}
    {channel : ChannelConfig} {decoded : DecodedPayload}
    (h : OpenedOn env ctx frame header channel decoded) (htable : ctx.device.channels.WellFormed) :
    ctx.device.channels.get channel.index = some channel := by
  obtain ⟨hconfigured, -, -⟩ := ChannelSet.findByHash_spec h.matched
  obtain ⟨slot, hslot⟩ := ChannelSet.exists_get_of_mem_configured hconfigured
  rw [htable.index_eq hslot]
  exact hslot

variable [MeshStorage S]

/-- The packet is a command that rekeys the channel it came by, and its acknowledgement can
still be built afterwards. -/
structure RekeysOwnChannel (env : Env) (ctx : MeshCtx S) (header : PacketHeader)
    (channel : ChannelConfig) (decoded : DecodedPayload) : Prop where
  portnum_eq : decoded.portnum = PortNum.adminApp.toI32
  rekeys : ∃ variant, Admin.command env ctx decoded.payload true = some variant ∧
    Admin.Rekeys env ctx.device channel variant
  destination_eq : header.destination = ctx.device.myNodeNum
  wantAck : header.wantAck = true
  answered : AnswersCopy env ctx header decoded

/-- Administration leaves what the slot goes out on, unless it rekeys the channel in it. -/
theorem onAir_administered {ctx : MeshCtx S} {channel : ChannelConfig}
    (h : ctx.device.channels.get channel.index = some channel) (header : PacketHeader)
    (decoded : DecodedPayload) :
    let after := administered env ctx header decoded
    ∃ c, after.channels.get channel.index = some c ∧
      (c.onAir after.modemPreset.displayName =
        channel.onAir ctx.device.modemPreset.displayName ↔
          ¬ (decoded.portnum = PortNum.adminApp.toI32 ∧ ∃ variant,
            Admin.command env ctx decoded.payload true = some variant ∧
              Admin.Rekeys env ctx.device channel variant)) := by
  intro after
  change ∃ c, (administered env ctx header decoded).channels.get channel.index = some c ∧
    (c.onAir (administered env ctx header decoded).modemPreset.displayName = _ ↔ _)
  unfold administered
  split
  · rename_i hadmin
    rw [Admin.dispatch_eq]
    cases hcommand : Admin.command env ctx decoded.payload true with
    | none =>
        refine ⟨channel, h, iff_of_true rfl ?_⟩
        rintro ⟨-, variant, hnone, -⟩
        cases hnone
    | some variant =>
        obtain ⟨c, hc, honAir⟩ := @Admin.onAir_handleVariant S env _ ctx channel h
          header.sender header.packetId true variant
        refine ⟨c, hc, honAir.trans (not_congr ⟨?_, ?_⟩)⟩
        · exact fun hrekeys => ⟨hadmin, variant, rfl, hrekeys⟩
        · rintro ⟨-, variant', hsame, hrekeys⟩
          cases hsame
          exact hrekeys
  · rename_i hadmin
    exact ⟨channel, h, iff_of_true rfl fun hrekeys => hadmin hrekeys.1⟩

/-! ## Which replies go out on the channel -/

theorem myNodeNum_beforeAck (ctx : MeshCtx S) (frame : RadioFrame) (header : PacketHeader)
    (metadata : RadioMetadata) (decoded : DecodedPayload) :
    (beforeAck env ctx frame header metadata decoded).device.myNodeNum =
      ctx.device.myNodeNum := by
  have hhandled : ∀ (ctx : MeshCtx S) pkt,
      (handlePortnum env ctx decoded.portnum pkt).device.myNodeNum = ctx.device.myNodeNum := by
    intro ctx pkt
    by_cases hadmin : decoded.portnum = PortNum.adminApp.toI32
    · refine (quiet_handlePortnum ctx pkt ?_).myNodeNum_eq
      rw [hadmin]
      decide
    · exact congrArg (fun core => core.settings.myNodeNum) (core_handlePortnum ctx pkt hadmin)
  unfold beforeAck
  dsimp only
  rw [(quiet_forwardInbound _ header metadata decoded _).myNodeNum_eq, hhandled,
    (quiet_bufferText _ frame decoded.portnum).myNodeNum_eq,
    (quiet_noteSender ctx header metadata).myNodeNum_eq]

omit [MeshStorage S] in
theorem names_of_settings {d d' : DeviceState} (h : d.settings = d'.settings) :
    d.channels = d'.channels ∧ d.modemPreset = d'.modemPreset := by
  rw [DeviceState.eq_of_settings_eq h]
  exact ⟨rfl, rfl⟩

omit [MeshStorage S] in
theorem answers_of_mem_tracerouteReply {ctx built : MeshCtx S} {header : PacketHeader}
    {metadata : RadioMetadata} {decoded : DecodedPayload} {channel : ChannelConfig}
    {num : DeviceState} {out : Outgoing S}
    (hslot : ctx.device.channels.get channel.index = some channel)
    (hindex : decoded.channelIndex = channel.index)
    (hsettings : built.device.settings = ctx.device.settings)
    (hout : out ∈ tracerouteReply env built decoded.portnum
      (inboundPacket num header metadata decoded)) :
    out.Answers header ctx.device channel := by
  unfold tracerouteReply at hout
  split at hout
  · rw [List.mem_singleton.mp hout]
    obtain ⟨hchannels, hpreset⟩ := names_of_settings hsettings
    refine ⟨rfl, rfl, ?_⟩
    have hchannel : (tracerouteTx env built
        (inboundPacket num header metadata decoded)).channel built.device = some channel := by
      change ((some decoded.channelIndex).bind built.device.channels.get).or _ = _
      rw [Option.bind_some, hchannels, hindex, hslot]
      rfl
    rw [hchannel, hpreset]
    rfl
  · cases hout

theorem answers_acknowledgement_iff {ctx before : MeshCtx S} {header : PacketHeader}
    {decoded : DecodedPayload} {channel : ChannelConfig}
    (hslot : ctx.device.channels.get channel.index = some channel)
    (hindex : decoded.channelIndex = channel.index)
    (hsettings : before.device.settings = (administered env ctx header decoded).settings) :
    (Outgoing.mk before (ackTx header decoded.channelIndex)).Answers header ctx.device channel ↔
      ¬ (decoded.portnum = PortNum.adminApp.toI32 ∧ ∃ variant,
        Admin.command env ctx decoded.payload true = some variant ∧
          Admin.Rekeys env ctx.device channel variant) := by
  obtain ⟨hchannels, hpreset⟩ := names_of_settings hsettings
  obtain ⟨c, hc, honAir⟩ := @onAir_administered S env _ ctx channel hslot header decoded
  have hchannel : (ackTx header decoded.channelIndex).channel before.device = some c := by
    change ((some decoded.channelIndex).bind before.device.channels.get).or _ = _
    rw [Option.bind_some, hchannels, hindex, hc]
    rfl
  rw [← honAir]
  constructor
  · intro hanswers
    have hsame := hanswers.onAir_eq
    dsimp only at hsame
    rw [hchannel, hpreset] at hsame
    exact Option.some.inj hsame
  · intro hsame
    refine ⟨rfl, rfl, ?_⟩
    dsimp only
    rw [hchannel, hpreset]
    exact congrArg some hsame

omit [MeshStorage S] in
theorem isSome_frame_iff {out : Outgoing S} {device : DeviceState}
    (hsettings : out.ctx.device.settings = device.settings) :
    (out.frame env).isSome = true ↔
      ¬ out.tx.TooLong env device ∧ ¬ out.tx.UnusableKey env device := by
  have htaken : out.ctx.takePacketId.device.settings = device.settings := hsettings
  rw [← not_or, ← buildable_congr htaken, Option.isSome_iff_ne_none]
  unfold Outgoing.frame
  rw [Ne, TxBuilder.build_psk_eq_none_iff]

theorem settings_bufferText_noteSender (ctx : MeshCtx S) (frame : RadioFrame)
    (header : PacketHeader) (metadata : RadioMetadata) (portnum : Int32) :
    (bufferText (noteSender env ctx header metadata) frame portnum).device.settings =
      ctx.device.settings := by
  have hcore := (core_bufferText (noteSender env ctx header metadata) frame portnum).trans
    (core_noteSender ctx header metadata)
  exact congrArg Core.settings hcore

theorem answers_newReplies_iff {ctx : MeshCtx S} {frame : RadioFrame} {header : PacketHeader}
    {channel : ChannelConfig} {decoded : DecodedPayload} {router : MeshRouter}
    (hslot : ctx.device.channels.get channel.index = some channel)
    (hindex : decoded.channelIndex = channel.index)
    (hfind : ctx.router.findRecord header.sender header.packetId = none)
    (metadata : RadioMetadata) :
    (∀ out ∈ newReplies env { ctx with router := router } frame header metadata decoded,
      (out.frame env).isSome = true → out.Answers header ctx.device channel) ↔
        ¬ RekeysOwnChannel env ctx header channel decoded := by
  unfold newReplies
  dsimp only
  have hnum := @myNodeNum_beforeAck S env _ { ctx with router := router } frame header metadata
    decoded
  by_cases hacked : header.destination = ctx.device.myNodeNum ∧ header.wantAck = true
  · have hsettings := @settings_beforeAck S env _ ctx { ctx with router := router } rfl frame
      header metadata decoded hacked.1
    generalize beforeAck env { ctx with router := router } frame header metadata decoded =
      before at hnum hsettings
    have hack : acknowledgement before header decoded =
        [⟨before, ackTx header decoded.channelIndex⟩] :=
      if_pos ⟨hacked.1.trans hnum.symm, hacked.2⟩
    have hframe := @isSome_frame_iff S env ⟨before, ackTx header decoded.channelIndex⟩ _
      hsettings
    have hanswers := @answers_acknowledgement_iff S env _ ctx before header decoded channel
      hslot hindex hsettings
    rw [hack]
    constructor
    · intro hall hrekeys
      have hsent := hall _ (List.mem_append_right _ (List.mem_singleton_self _))
        (hframe.mpr hrekeys.answered.2)
      exact hanswers.mp hsent ⟨hrekeys.portnum_eq, hrekeys.rekeys⟩
    · intro hrekeys out hout hsome
      rcases List.mem_append.mp hout with hout | hout
      · exact answers_of_mem_tracerouteReply hslot hindex
          (settings_bufferText_noteSender { ctx with router := router } frame header metadata _)
          hout
      · rw [List.mem_singleton.mp hout] at hsome ⊢
        refine hanswers.mpr fun hcommand => hrekeys ?_
        exact ⟨hcommand.1, hcommand.2, hacked.1, hacked.2, hfind, hframe.mp hsome⟩
  · have hack : acknowledgement (beforeAck env { ctx with router := router } frame header
        metadata decoded) header decoded = [] := by
      unfold acknowledgement
      rw [hnum, if_neg hacked]
    rw [hack, List.append_nil]
    refine iff_of_true (fun out hout _ => ?_) fun hrekeys =>
      hacked ⟨hrekeys.destination_eq, hrekeys.wantAck⟩
    exact answers_of_mem_tracerouteReply hslot hindex
      (settings_bufferText_noteSender { ctx with router := router } frame header metadata _) hout

theorem answers_replies_iff {ctx : MeshCtx S} {frame : RadioFrame} {header : PacketHeader}
    {channel : ChannelConfig} {decoded : DecodedPayload}
    (h : OpenedOn env ctx frame header channel decoded)
    (htable : ctx.device.channels.WellFormed) (metadata : RadioMetadata) :
    (∀ out ∈ replies env ctx frame header metadata decoded, (out.frame env).isSome = true →
      out.Answers header ctx.device channel) ↔
        ¬ RekeysOwnChannel env ctx header channel decoded := by
  cases hfind : ctx.router.findRecord header.sender header.packetId with
  | some idx =>
      rw [replies_of_find hfind]
      refine iff_of_true (fun out hout => nomatch hout) fun hrekeys => ?_
      have hnone := hrekeys.answered.1
      rw [hfind] at hnone
      cases hnone
  | none =>
      obtain ⟨router, hreplies⟩ := @replies_of_new S env _ ctx header hfind frame metadata decoded
      rw [hreplies]
      exact answers_newReplies_iff (h.get_eq htable) h.channelIndex_eq hfind metadata

theorem isReply_of_mem_replies {ctx : MeshCtx S} {frame : RadioFrame} {header : PacketHeader}
    {metadata : RadioMetadata} {decoded : DecodedPayload} {out : Outgoing S}
    (h : out ∈ replies env ctx frame header metadata decoded) : out.tx.IsReply := by
  cases hfind : ctx.router.findRecord header.sender header.packetId with
  | some idx =>
      rw [replies_of_find hfind] at h
      cases h
  | none =>
      obtain ⟨router, hreplies⟩ := @replies_of_new S env _ ctx header hfind frame metadata decoded
      rw [hreplies] at h
      rcases List.mem_append.mp h with hout | hout
      · unfold tracerouteReply at hout
        split at hout
        · rw [List.mem_singleton.mp hout]
          exact Or.inr rfl
        · cases hout
      · unfold acknowledgement at hout
        split at hout
        · rw [List.mem_singleton.mp hout]
          exact Or.inl rfl
        · cases hout

/-- In every reachable state the replies to a packet are all that is queued under their port
numbers, and they go out on the channel of the packet, to its sender and under its id, exactly
when the packet does not itself rekey the channel. -/
theorem repliesOnChannel_iff (htext : DecodesText env) (mac : Bytes) (storage : S)
    (pkcKeypair : Key × Key) (entropy : Nat → UInt32) (events : List MeshState.Event)
    (frame : RadioFrame) (metadata : RadioMetadata) (header : PacketHeader)
    (channel : ChannelConfig) (decoded : DecodedPayload) :
    let ctx := MeshState.noteActivity
      (MeshState.after env mac storage pkcKeypair entropy events).ctx (.loraRx frame metadata)
    let answers := replies env ctx frame header metadata decoded
    OpenedOn env ctx frame header channel decoded →
      ((∀ out ∈ answers, out.tx.IsReply) ∧ ∃ others, (∀ out ∈ others, ¬ out.tx.IsReply) ∧
        Queues env (others ++ answers) ctx (dispatch env ctx frame metadata)) ∧
      ((∀ out ∈ answers, (out.frame env).isSome = true → out.Answers header ctx.device channel) ↔
        ¬ RekeysOwnChannel env ctx header channel decoded) := by
  intro ctx answers h
  have hdispatch : dispatch env ctx frame metadata =
      handleDecoded env ctx frame header metadata decoded := by
    unfold dispatch
    rw [h.header_eq]
    dsimp only
    rw [if_neg h.sender_ne, h.decodes]
  have htable : ctx.device.channels.WellFormed :=
    MeshState.wellFormed_channels htext mac storage pkcKeypair entropy events
  refine ⟨⟨fun out hout => isReply_of_mem_replies hout, ?_⟩, answers_replies_iff h htable metadata⟩
  rw [hdispatch]
  exact queues_handleDecoded ctx frame header metadata decoded

/-- A packet for us, opened with the public channel, has its acknowledgement on that channel. -/
theorem wantingFrame_answered :
    let env := KnownAnswers.defaultKey.phoneEnv
    let ctx := MeshState.noteActivity
      (MeshState.after env KnownAnswers.mac ({} : FakeStorage) KnownAnswers.noKeypair
        KnownAnswers.noEntropy [.announce]).ctx (.loraRx wantingFrame ⟨0, 0⟩)
    let answers := replies env ctx wantingFrame wantingHeader ⟨0, 0⟩ strangerPayload
    answers.length = 1 ∧ ∀ out ∈ answers, (out.frame env).isSome = true →
      out.Answers wantingHeader ctx.device ChannelConfig.defaultPrimary := by
  intro env ctx answers
  refine ⟨by decide, ?_⟩
  have hopened : OpenedOn env ctx wantingFrame wantingHeader ChannelConfig.defaultPrimary
      strangerPayload :=
    ⟨by decide, by decide, by decide, by decide, by decide⟩
  refine (repliesOnChannel_iff (decodesText_phoneEnv _) KnownAnswers.mac _
    KnownAnswers.noKeypair KnownAnswers.noEntropy [.announce] wantingFrame ⟨0, 0⟩ wantingHeader
    ChannelConfig.defaultPrimary strangerPayload hopened).2.mpr ?_
  intro hrekeys
  exact absurd hrekeys.portnum_eq (by decide)

/-- The keystream of a longer frame from node `0x11223344` besides. -/
def rekeyAnswers : KnownAnswers :=
  { KnownAnswers.defaultKey with
    aesCtr := (DEFAULT_PSK, buildNonce 9 0x11223344,
      [0x6e, 0x06, 0x2e, 0x1e, 0xd8, 0x03, 0x06, 0x14, 0xf3, 0xfb, 0x9b, 0x12, 0xaf, 0xe0, 0xf0,
       0x06, 0xf4, 0xde, 0x8f, 0x01, 0x15, 0x9a]) :: KnownAnswers.defaultKey.aesCtr }

/-- `SetChannel` for slot 0 without a key, under the session key that the phone was given. -/
def rekeyPayload : DecodedPayload :=
  { strangerPayload with
    portnum := PortNum.adminApp.toI32
    requestId := 0
    payload :=
      [0x8a, 0x02, 0x04, 0x12, 0x00, 0x18, 0x01, 0xaa, 0x06, 0x08, 0x00, 0x00, 0x00, 0x00, 0x00,
       0x00, 0x00, 0x00] }

/-- Node `0x11223344` opens our primary channel and wants an acknowledgement. -/
def rekeyFrame : RadioFrame where
  bytes :=
    [0x56, 0x34, 0x12, 0x28, 0x44, 0x33, 0x22, 0x11, 0x09, 0x00, 0x00, 0x00, 0x6b, 0x08, 0x00,
     0x44, 0x66, 0x00, 0x3c, 0x0c, 0x52, 0x01, 0x02, 0x06, 0xf3, 0xe3, 0x9a, 0xb8, 0xa9, 0xe8,
     0xf0, 0x06, 0xf4, 0xde, 0x8f, 0x01, 0x15, 0x9a]
  length_le := by simp [MAX_LORA_PAYLOAD_LEN]

def rekeyCtx : MeshCtx FakeStorage :=
  MeshState.noteActivity
    (MeshState.after rekeyAnswers.phoneEnv KnownAnswers.mac {} KnownAnswers.noKeypair
      KnownAnswers.noEntropy
      [.announce, .mesh .bleConnected, .mesh (.bleRx SessionRun.beginEdit)]).ctx
    (.loraRx rekeyFrame ⟨0, 0⟩)

theorem rekeysOwnChannel_rekeyFrame :
    RekeysOwnChannel rekeyAnswers.phoneEnv rekeyCtx wantingHeader ChannelConfig.defaultPrimary
      rekeyPayload where
  portnum_eq := rfl
  rekeys := by
    refine ⟨.setChannel { settings := some {}, role := 1 }, by rfl, {}, rfl, rfl, rfl, ?_⟩
    decide
  destination_eq := by decide
  wantAck := by decide
  answered := by
    refine ⟨by decide, ?_, ?_⟩
    · unfold TxBuilder.TooLong
      decide
    · rintro ⟨channel, hchannel, hencrypted, -⟩
      have hkey : (((ackTx wantingHeader rekeyPayload.channelIndex).channelIdx.bind
          (administered rekeyAnswers.phoneEnv rekeyCtx wantingHeader rekeyPayload).channels.get).or
            (administered rekeyAnswers.phoneEnv rekeyCtx wantingHeader
              rekeyPayload).channels.primary).map (·.isEncrypted) = some false := by
        decide
      rw [hchannel] at hkey
      have hopen : channel.isEncrypted = false := Option.some.inj hkey
      rw [hopen] at hencrypted
      cases hencrypted

/-- The acknowledgement of the command goes out on the channel that it puts in place. -/
theorem rekeyFrame_answered_elsewhere :
    OpenedOn rekeyAnswers.phoneEnv rekeyCtx rekeyFrame wantingHeader
      ChannelConfig.defaultPrimary rekeyPayload ∧
    ¬ ∀ out ∈ replies rekeyAnswers.phoneEnv rekeyCtx rekeyFrame wantingHeader ⟨0, 0⟩ rekeyPayload,
      (out.frame rekeyAnswers.phoneEnv).isSome = true →
        out.Answers wantingHeader rekeyCtx.device ChannelConfig.defaultPrimary := by
  have hopened : OpenedOn rekeyAnswers.phoneEnv rekeyCtx rekeyFrame wantingHeader
      ChannelConfig.defaultPrimary rekeyPayload :=
    ⟨by decide, by decide, by decide, by decide, by decide⟩
  have htable : rekeyCtx.device.channels.WellFormed :=
    MeshState.wellFormed_channels (decodesText_phoneEnv _) _ _ _ _ _
  exact ⟨hopened, fun hall =>
    (answers_replies_iff hopened htable ⟨0, 0⟩).mp hall rekeysOwnChannel_rekeyFrame⟩

end Handlers.FromRadio

end Meshtastenstein
