import Meshtastenstein.Handlers.Admin
/-!
# Frames from the radio

Decryption and authentication of a received frame, duplicate filtering, the port
number handlers and the rebroadcast decision.
-/

namespace Meshtastenstein.Handlers.FromRadio

open Lib Proto

variable {S : Type} [MeshStorage S] (env : Env)

/-! ## Decryption -/

structure DecodedPayload where
  portnum : Int32
  wantResponse : Bool
  requestId : UInt32
  replyId : UInt32
  emoji : UInt32
  payload : Bytes
  /-- Zero when no channel matched. -/
  channelIndex : UInt8
deriving DecidableEq

inductive DecryptOutcome
  | decoded (payload : DecodedPayload)
  | pkiUnknownPubkey
  | drop
deriving DecidableEq

def matchedChannel (device : DeviceState) (header : PacketHeader) : Option ChannelConfig :=
  device.channels.findByHash header.channelIndex device.modemPreset.displayName

def isPkcCandidate (frame : RadioFrame) (header : PacketHeader) (device : DeviceState)
    (pkcPriv : Key) : Bool :=
  header.channelIndex == 0 && header.destination == device.myNodeNum &&
    decide (PKC_OVERHEAD < frame.payload.length) && pkcPriv.isSet

def senderPubKey (frame : RadioFrame) (header : PacketHeader) (device : DeviceState)
    (db : NodeDb) (pkcPriv : Key) : Option Key :=
  if isPkcCandidate frame header device pkcPriv then db.pubKeyOf header.sender else none

def pkcPlaintext (frame : RadioFrame) (header : PacketHeader) (device : DeviceState)
    (db : NodeDb) (pkcPriv : Key) : Option Bytes :=
  match senderPubKey frame header device db pkcPriv with
  | none => none
  | some peerPubKey =>
      let mySecret := (keypairFromSeed env.crypto pkcPriv).1
      let sharedKey := deriveSharedKey env.crypto mySecret peerPubKey
      let plaintextLen := frame.payload.length - PKC_OVERHEAD
      if 256 < plaintextLen then none
      else
        decryptPkc env.crypto sharedKey header.packetId header.sender frame.payload
          plaintextLen

/-- What decryption under the matched channel yields: the raw payload when no channel
matched or the channel has no key. -/
def pskPlaintext (frame : RadioFrame) (header : PacketHeader) (device : DeviceState) :
    Option Bytes :=
  match matchedChannel device header with
  | some channel =>
      if channel.isEncrypted && !frame.payload.isEmpty then
        cryptPacket env.crypto (copyPsk channel.effectivePsk) header.packetId header.sender
          frame.payload
      else some frame.payload
  | none => some frame.payload

def finalUndecodedOutcome (header : PacketHeader) (device : DeviceState)
    (senderPubKey : Option Key) : DecryptOutcome :=
  if header.channelIndex = 0 ∧ header.destination = device.myNodeNum ∧
      senderPubKey = none then
    .pkiUnknownPubkey
  else .drop

def isLegacyDm (header : PacketHeader) (device : DeviceState) (data : Data)
    (pkcDecrypted : Bool) : Bool :=
  data.portnum == PortNum.textMessageApp.toI32 && header.destination == device.myNodeNum &&
    !pkcDecrypted

def decodedPayload (data : Data) (channelIndex : UInt8) : DecodedPayload where
  portnum := data.portnum
  wantResponse := data.wantResponse
  requestId := data.requestId
  replyId := data.replyId
  emoji := data.emoji
  payload := data.payload
  channelIndex := channelIndex

/-- PKC first, then the channel, then the decoding of what came out. -/
def tryDecryptAndDecode (frame : RadioFrame) (header : PacketHeader)
    (device : DeviceState) (db : NodeDb) (pkcPriv : Key) : DecryptOutcome :=
  let channelIndex := ((matchedChannel device header).map (·.index)).getD 0
  let senderPubKey := senderPubKey frame header device db pkcPriv
  let pkc := pkcPlaintext env frame header device db pkcPriv
  match pkc.or (pskPlaintext env frame header device) with
  | none => finalUndecodedOutcome header device senderPubKey
  | some payload =>
      match env.prost.data.decode payload with
      | none => finalUndecodedOutcome header device senderPubKey
      | some data =>
          if isLegacyDm header device data pkc.isSome then .drop
          else .decoded (decodedPayload data channelIndex)

/-! ## Port number handlers -/

structure InboundPacket where
  sender : UInt32
  packetId : UInt32
  relayNode : UInt8
  payload : Bytes
  addressedToUs : Bool
  wantResponse : Bool
  requestId : UInt32
  replyId : UInt32
  emoji : UInt32
  channelIdx : UInt8
  snr : Int8

def handleRemoteHardware (ctx : MeshCtx S) (_pkt : InboundPacket) : MeshCtx S := ctx

def handleTextMessage (ctx : MeshCtx S) (_pkt : InboundPacket) : MeshCtx S := ctx

def handleWaypoint (ctx : MeshCtx S) (_pkt : InboundPacket) : MeshCtx S := ctx

def handlePosition (ctx : MeshCtx S) (pkt : InboundPacket) : MeshCtx S :=
  match env.prost.position.decode pkt.payload with
  | none => ctx
  | some position =>
      notifyBleNodeUpdate (ctx.modifyNodeDb (·.updatePosition pkt.sender position)) pkt.sender

/-- Whether a node information of ours went out too recently for another. -/
def nodeinfoThrottled (ctx : MeshCtx S) : Bool :=
  match ctx.lastNodeinfoTx with
  | some t => decide (ctx.now - t < NODEINFO_MIN_INTERVAL_MS)
  | none => false

def answerNodeinfo (ctx : MeshCtx S) (dest : UInt32) (wantResponse : Bool) : MeshCtx S :=
  { sendNodeinfo env ctx dest wantResponse with lastNodeinfoTx := some ctx.now }

def storeUser (db : NodeDb) (sender : UInt32) (user : User) : NodeDb :=
  let db :=
    match (Key.ofBytes? user.publicKey).filter (·.isSet) with
    | some key => db.updatePubKey sender key
    | none => db
  db.updateUser sender user

def handleNodeInfo (ctx : MeshCtx S) (pkt : InboundPacket) : MeshCtx S :=
  match env.prost.user.decode pkt.payload with
  | none => ctx
  | some user =>
      let ctx := ctx.modifyNodeDb fun db => storeUser db pkt.sender user
      let ctx := notifyBleNodeUpdate ctx pkt.sender
      if pkt.wantResponse && !nodeinfoThrottled ctx then answerNodeinfo env ctx pkt.sender false
      else ctx

/-- Drop the pending packet a routing message names and report its delivery. -/
def acknowledge (ctx : MeshCtx S) (requestId : UInt32) : MeshCtx S :=
  match ctx.pendingPackets.position requestId with
  | none => ctx
  | some i =>
      let entry := ctx.pendingPackets.toList[i]?
      let ctx := { ctx with pendingPackets := ctx.pendingPackets.swapRemove i }
      match entry.bind fun e => e.bleNotify.map fun dest => (dest, e.packetId) with
      | some (dest, packetId) => sendBleRoutingResult env ctx dest packetId .none
      | none => ctx

def handleRouting (ctx : MeshCtx S) (pkt : InboundPacket) : MeshCtx S :=
  match env.prost.routing.decode pkt.payload with
  | none => ctx
  | some _ =>
      if pkt.requestId ≠ 0 then
        (acknowledge env ctx pkt.requestId).modifyNodeDb fun db =>
          ctx.router.learnRoute db pkt.sender pkt.relayNode
      else ctx

def handleTelemetry (ctx : MeshCtx S) (pkt : InboundPacket) : MeshCtx S :=
  match env.prost.telemetry.decode pkt.payload with
  | some { variant := some (.deviceMetrics metrics), .. } =>
      ctx.modifyNodeDb (·.updateDeviceMetrics pkt.sender metrics)
  | _ => ctx

/-- The route with us appended, the signal quality scaled by four. -/
def extendRoute (route : RouteDiscovery) (ourNodeNum : UInt32) (snr : Int8) :
    RouteDiscovery :=
  { route with
    route := route.route ++ [ourNodeNum]
    snrTowards := route.snrTowards ++ [snr.toInt32 * 4] }

def handleTraceroute (ctx : MeshCtx S) (pkt : InboundPacket) : MeshCtx S :=
  if pkt.addressedToUs && pkt.wantResponse then
    let route := (env.prost.routeDiscovery.decode pkt.payload).getD {}
    originate env ctx
      { dest := pkt.sender
        portnum := PortNum.tracerouteApp.toI32
        innerPayload := env.prost.routeDiscovery.encode
          (extendRoute route ctx.device.myNodeNum pkt.snr)
        channelIdx := some pkt.channelIdx
        requestId := pkt.packetId }
  else ctx

def handleNeighborInfo (ctx : MeshCtx S) (pkt : InboundPacket) : MeshCtx S :=
  match env.prost.neighborInfo.decode pkt.payload with
  | none => ctx
  | some info =>
      ctx.modifyNodeDb fun db =>
        info.neighbors.foldl (fun db nb => db.touch nb.nodeId 0 none 0) db

def handleAdmin (ctx : MeshCtx S) (pkt : InboundPacket) : MeshCtx S :=
  if pkt.addressedToUs then Admin.dispatch env ctx pkt.sender pkt.packetId pkt.payload true
  else ctx

def handlePortnum (ctx : MeshCtx S) (portnum : Int32) (pkt : InboundPacket) : MeshCtx S :=
  match PortNum.tryFrom portnum with
  | some .remoteHardwareApp => handleRemoteHardware ctx pkt
  | some .textMessageApp | some .textMessageCompressedApp => handleTextMessage ctx pkt
  | some .positionApp => handlePosition env ctx pkt
  | some .nodeinfoApp => handleNodeInfo env ctx pkt
  | some .routingApp => handleRouting env ctx pkt
  | some .adminApp => handleAdmin env ctx pkt
  | some .waypointApp => handleWaypoint ctx pkt
  | some .telemetryApp => handleTelemetry env ctx pkt
  | some .tracerouteApp => handleTraceroute env ctx pkt
  | some .neighborinfoApp => handleNeighborInfo env ctx pkt
  | some .unknownApp | none => ctx

/-! ## Rebroadcasts -/

def shouldRebroadcastForRole (role : DeviceRole) : Bool :=
  !(role == .clientMute || role == .clientHidden)

def earliestDue (pending : List PendingRebroadcast) : Option Nat :=
  pending.findIdx? fun p => pending.all fun q => decide (p.deadline ≤ q.deadline)

def queueRebroadcast (pending : Bounded PendingRebroadcast 8) (entry : PendingRebroadcast) :
    Bounded PendingRebroadcast 8 :=
  match pending.push entry with
  | some pending => pending
  | none =>
      match earliestDue pending.toList with
      | some idx => (pending.swapRemove idx).pushOrDrop entry
      | none => pending.pushOrDrop entry

def scheduleRebroadcast (ctx : MeshCtx S) (frame : RadioFrame) (metadata : RadioMetadata)
    (newHop : UInt8) : MeshCtx S :=
  let modem := ctx.device.modemConfig
  let delay := env.rebroadcastDelayMs metadata.snr ctx.device.role modem.spreadingFactor
    modem.bandwidthHz ctx.randomU32
  let entry : PendingRebroadcast :=
    { frame := frame.withRewrittenHeader newHop (lastByte ctx.device.myNodeNum)
      deadline := ctx.now + delay }
  { ctx.takeRandom with
    pendingRebroadcast := queueRebroadcast ctx.pendingRebroadcast entry }

def maybeRelayOpaque (ctx : MeshCtx S) (frame : RadioFrame) (header : PacketHeader)
    (metadata : RadioMetadata) : MeshCtx S :=
  if shouldRebroadcastForRole ctx.device.role = false then ctx
  else if header.hopLimit = 0 then ctx
  else
    let (relay, router) := ctx.router.shouldRelayOpaque header.sender header.packetId
      header.hopStart header.hopLimit
    let ctx := { ctx with router := router }
    if relay then scheduleRebroadcast env ctx frame metadata (header.hopLimit - 1)
    else ctx

def maybeRequestNodeinfo (ctx : MeshCtx S) (sender : UInt32) (hopStart hopLimit : UInt8) :
    MeshCtx S :=
  if ctx.device.role = .router ∨ ctx.device.role = .routerLate then ctx
  else if MAX_NODES ≤ ctx.nodeDb.len then ctx
  else if nodeinfoThrottled ctx then ctx
  else if ctx.channelMetrics.txAllowedPolite (region env ctx) = false then ctx
  else if ctx.device.hopLimit.toNat + 2 < hopStart.toNat - hopLimit.toNat then ctx
  else answerNodeinfo env ctx sender true

/-! ## Dispatch -/

/-- Layer 0: our own packet heard back is an implicit acknowledgement. -/
def hearOwnPacket (ctx : MeshCtx S) (header : PacketHeader) : MeshCtx S :=
  match ctx.pendingPackets.position header.packetId with
  | some i => { ctx with pendingPackets := ctx.pendingPackets.swapRemove i }
  | none => ctx

/-- Answer a direct message we hold no key for. -/
def answerUnknownPubkey (ctx : MeshCtx S) (header : PacketHeader) : MeshCtx S :=
  let ctx :=
    if header.wantAck then
      sendRoutingError env ctx header.sender header.packetId .pkiUnknownPubkey
    else ctx
  sendNodeinfo env ctx header.sender false

/-- A frame that could not be authenticated is relayed blind unless it is for us. -/
def handleUndecodable (ctx : MeshCtx S) (frame : RadioFrame) (header : PacketHeader)
    (metadata : RadioMetadata) : MeshCtx S :=
  if header.destination ≠ ctx.device.myNodeNum then
    maybeRelayOpaque env ctx frame header metadata
  else ctx

def isRebroadcastOf (header : PacketHeader) (p : PendingRebroadcast) : Bool :=
  match p.frame.header with
  | some ph => ph.sender == header.sender && ph.packetId == header.packetId
  | none => false

def pendingHopLimit (ctx : MeshCtx S) (header : PacketHeader) : Option UInt8 :=
  (ctx.pendingRebroadcast.toList.find? (isRebroadcastOf header)).bind fun p =>
    p.frame.header.map (·.hopLimit)

def upgradeRebroadcast (ctx : MeshCtx S) (frame : RadioFrame) (header : PacketHeader)
    (newHop : UInt8) : MeshCtx S :=
  match ctx.pendingRebroadcast.toList.findIdx? (isRebroadcastOf header) with
  | some i =>
      { ctx with
        pendingRebroadcast := ⟨ctx.pendingRebroadcast.toList.modify i fun p =>
          { p with frame := frame.withRewrittenHeader newHop (lastByte ctx.device.myNodeNum) },
          by simpa using ctx.pendingRebroadcast.length_le⟩ }
  | none => ctx

def cancelRebroadcast (ctx : MeshCtx S) (header : PacketHeader) : MeshCtx S :=
  { ctx with
    pendingRebroadcast := ctx.pendingRebroadcast.retain fun p => !isRebroadcastOf header p }

/-- Hops between the sender and us, when the header tells. -/
def hopsAway (header : PacketHeader) : Option UInt8 :=
  if 0 < header.hopStart ∧ header.hopLimit ≤ header.hopStart then
    some (header.hopStart - header.hopLimit)
  else none

/-- Record the sender in the node database and introduce ourselves if it has no name. -/
def noteSender (ctx : MeshCtx S) (header : PacketHeader) (metadata : RadioMetadata) :
    MeshCtx S :=
  let ctx := ctx.blink .singleBlink
  let isNewNode := (ctx.nodeDb.get header.sender).isNone
  let ctx := ctx.modifyNodeDb fun db =>
    (db.touch header.sender 0 (some metadata.snr) ctx.now).modify header.sender fun entry =>
      { entry with hopsAway := hopsAway header }
  let ctx := if isNewNode then notifyBleNodeUpdate ctx header.sender else ctx
  if ((ctx.nodeDb.get header.sender).bind (·.user)).isNone then
    maybeRequestNodeinfo env ctx header.sender header.hopStart header.hopLimit
  else ctx

def inboundPacket (device : DeviceState) (header : PacketHeader) (metadata : RadioMetadata)
    (decoded : DecodedPayload) : InboundPacket where
  sender := header.sender
  packetId := header.packetId
  relayNode := header.relayNode
  payload := decoded.payload
  addressedToUs := header.isForUs device.myNodeNum
  wantResponse := decoded.wantResponse
  requestId := decoded.requestId
  replyId := decoded.replyId
  emoji := decoded.emoji
  channelIdx := decoded.channelIndex
  snr := metadata.snr

def bufferText (ctx : MeshCtx S) (frame : RadioFrame) (portnum : Int32) : MeshCtx S :=
  if (portnum = PortNum.textMessageApp.toI32 ∨
      portnum = PortNum.textMessageCompressedApp.toI32) ∧ ctx.bleConnected = false then
    { ctx with storage := MeshStorage.add ctx.storage frame }
  else ctx

def forwardInbound (ctx : MeshCtx S) (header : PacketHeader) (metadata : RadioMetadata)
    (decoded : DecodedPayload) (pkt : InboundPacket) : MeshCtx S :=
  if (decoded.portnum ≠ PortNum.adminApp.toI32 ∨ pkt.addressedToUs = false) ∧
      ctx.bleConnected then
    forwardToBle ctx
      { header := header
        channelIndex := decoded.channelIndex
        portnum := decoded.portnum
        payload := pkt.payload
        replyId := pkt.replyId
        emoji := pkt.emoji
        metadata := metadata }
  else ctx

/-- Acknowledge a unicast that asked for it, on the channel it came by. -/
def ackInbound (ctx : MeshCtx S) (header : PacketHeader) (decoded : DecodedPayload) :
    MeshCtx S :=
  if header.destination = ctx.device.myNodeNum ∧ header.wantAck then
    sendRoutingAck env ctx header.sender header.packetId decoded.channelIndex
  else ctx

def relayInbound (ctx : MeshCtx S) (frame : RadioFrame) (header : PacketHeader)
    (metadata : RadioMetadata) : MeshCtx S :=
  if shouldRebroadcastForRole ctx.device.role then
    match ctx.router.shouldRebroadcast header.hopLimit header.sender with
    | some newHop =>
        if header.destination ≠ BROADCAST_ADDR ∧
            ctx.router.shouldRelayDirected header.destination header.nextHop = false then ctx
        else scheduleRebroadcast env ctx frame metadata newHop
    | none => ctx
  else ctx

/-- Process a packet seen for the first time. -/
def handleNew (ctx : MeshCtx S) (frame : RadioFrame) (header : PacketHeader)
    (metadata : RadioMetadata) (decoded : DecodedPayload) : MeshCtx S :=
  let ctx := noteSender env ctx header metadata
  let pkt := inboundPacket ctx.device header metadata decoded
  let ctx := bufferText ctx frame decoded.portnum
  let ctx := handlePortnum env ctx decoded.portnum pkt
  let ctx := forwardInbound ctx header metadata decoded pkt
  let ctx := ackInbound env ctx header decoded
  relayInbound env ctx frame header metadata

def handleDecoded (ctx : MeshCtx S) (frame : RadioFrame) (header : PacketHeader)
    (metadata : RadioMetadata) (decoded : DecodedPayload) : MeshCtx S :=
  let (verdict, router) := ctx.router.shouldFilterReceived header.sender header.packetId
    header.hopLimit header.relayNode (pendingHopLimit ctx header) ctx.device.role
  let ctx := { ctx with router := router }
  match verdict with
  | .new => handleNew env ctx frame header metadata decoded
  | .duplicateUpgrade newHop => upgradeRebroadcast ctx frame header newHop
  | .duplicateCancelRelay => cancelRebroadcast ctx header
  | .duplicateDrop => ctx

def dispatch (ctx : MeshCtx S) (frame : RadioFrame) (metadata : RadioMetadata) :
    MeshCtx S :=
  match frame.header with
  | none => ctx
  | some header =>
      if header.sender = ctx.device.myNodeNum then hearOwnPacket ctx header
      else
        match tryDecryptAndDecode env frame header ctx.device ctx.nodeDb ctx.pkcPrivBytes with
        | .decoded decoded => handleDecoded env ctx frame header metadata decoded
        | .pkiUnknownPubkey => answerUnknownPubkey env ctx header
        | .drop => handleUndecodable env ctx frame header metadata

end Meshtastenstein.Handlers.FromRadio
