import Meshtastenstein.Context
/-!
# Shared handler operations

Sending to the mesh, sending to the phone and the messages built for either.
-/

namespace Meshtastenstein.Handlers

open Lib Lib.Bytes Proto

variable {S : Type} (env : Env)

/-! ## Sending to the mesh -/

/-- Draw a packet id, build a channel-encrypted frame and queue it if that worked. -/
def originate (ctx : MeshCtx S) (tx : TxBuilder) : MeshCtx S :=
  let packetId := ctx.device.nextPacketId
  let ctx := ctx.takePacketId
  match tx.build env ctx.device ctx.router ctx.nodeDb packetId none with
  | some frame => ctx.sendLora frame
  | none => ctx

def sendRoutingError (ctx : MeshCtx S) (dest requestId : UInt32) (error : RoutingError) :
    MeshCtx S :=
  originate env ctx
    { dest := dest
      portnum := PortNum.routingApp.toI32
      innerPayload := env.prost.routing.encode { variant := some (.errorReason error) }
      channelIdx := some 0
      requestId := requestId }

/-- Acknowledge a packet; the request id of an empty routing message is the signal. -/
def sendRoutingAck (ctx : MeshCtx S) (dest requestId : UInt32) (channelIdx : UInt8) :
    MeshCtx S :=
  originate env ctx
    { dest := dest
      portnum := PortNum.routingApp.toI32
      innerPayload := []
      channelIdx := some channelIdx
      requestId := requestId }

def region (ctx : MeshCtx S) : Region := Region.fromProto env ctx.device.region

def txAllowedImpolite (ctx : MeshCtx S) : Bool :=
  ctx.channelMetrics.txAllowedImpolite (region env ctx)

/-- The frame description of `lora_send`: the primary channel, no acknowledgement. -/
def loraTx (portnum : PortNum) (payload : Bytes) (dest : UInt32) (wantResponse : Bool) :
    TxBuilder :=
  { dest := dest
    portnum := portnum.toI32
    innerPayload := payload
    channelIdx := none
    wantResponse := wantResponse }

/-- Send on the primary channel unless the airtime ceiling is reached; tells whether
a frame was queued. -/
def loraSend (ctx : MeshCtx S) (portnum : PortNum) (payload : Bytes) (dest : UInt32)
    (wantResponse : Bool) : MeshCtx S × Bool :=
  if txAllowedImpolite env ctx then
    let packetId := ctx.device.nextPacketId
    let ctx := ctx.takePacketId
    match (loraTx portnum payload dest wantResponse).build env ctx.device ctx.router
        ctx.nodeDb packetId none with
    | some frame => (ctx.sendLora frame, true)
    | none => (ctx, false)
  else (ctx, false)

def nodeInfoPayload (device : DeviceState) (nodeIdStr : Text) (pkcPub : Key) : Bytes :=
  env.prost.user.encode
    { id := nodeIdStr
      longName := device.longName.toList
      shortName := device.shortName.toList
      macaddr := device.mac
      hwModel := device.hwModel.toInt32
      role := device.role.toI32
      publicKey := if pkcPub.isSet then pkcPub.val else [] }

def sendNodeinfo (ctx : MeshCtx S) (dest : UInt32) (wantResponse : Bool) : MeshCtx S :=
  (loraSend env ctx .nodeinfoApp (nodeInfoPayload env ctx.device ctx.nodeIdStr ctx.pkcPubBytes)
    dest wantResponse).1

/-! ## Sending to the phone -/

/-- Queue one message for the phone under the next id; dropped when the queue is
full. -/
def pushFromRadio (ctx : MeshCtx S) (variant : FromRadio.Variant) : MeshCtx S :=
  ctx.takeFromRadioId.trySendBle { variant := variant, id := ctx.fromRadioId }

def routingResultPacket (ourNodeNum packetId dest requestId : UInt32)
    (error : RoutingError) : MeshPacket :=
  { fromNode := ourNodeNum
    toNode := dest
    id := packetId
    payloadVariant := some (.decoded
      { portnum := PortNum.routingApp.toI32
        payload := env.prost.routing.encode { variant := some (.errorReason error) }
        requestId := requestId }) }

def sendBleRoutingResult (ctx : MeshCtx S) (dest requestId : UInt32)
    (error : RoutingError) : MeshCtx S :=
  pushFromRadio ctx.takePacketId
    (.packet (routingResultPacket env ctx.device.myNodeNum ctx.device.nextPacketId dest
      requestId error))

variable {env} in
theorem sendBleRoutingResult_eq (ctx : MeshCtx S) (dest requestId : UInt32)
    (error : RoutingError) :
    sendBleRoutingResult env ctx dest requestId error =
      { ctx.takePacketId.takeFromRadioId with
        txToBle :=
          if ctx.txToBle.length < BLE_TX_QUEUE_SIZE then
            ctx.txToBle ++
              [{ variant := .packet (routingResultPacket env ctx.device.myNodeNum
                  ctx.device.nextPacketId dest requestId error)
                 id := ctx.fromRadioId }]
          else ctx.txToBle } :=
  MeshCtx.trySendBle_eq _ _

def sendBleRoutingAck (ctx : MeshCtx S) (dest requestId : UInt32) : MeshCtx S :=
  sendBleRoutingResult env ctx dest requestId .none

structure PacketForwardArgs where
  header : PacketHeader
  channelIndex : UInt8
  portnum : Int32
  payload : Bytes
  replyId : UInt32
  emoji : UInt32
  metadata : RadioMetadata

def makeFromRadioPacket (args : PacketForwardArgs) : FromRadio.Variant :=
  .packet
    { fromNode := args.header.sender
      toNode := args.header.destination
      channel := args.channelIndex.toUInt32
      id := args.header.packetId
      rxSnr := args.metadata.snr.toInt
      hopLimit := args.header.hopLimit.toUInt32
      hopStart := args.header.hopStart.toUInt32
      wantAck := args.header.wantAck
      rxRssi := some args.metadata.rssi.toInt32
      payloadVariant := some (.decoded
        { portnum := args.portnum
          payload := args.payload
          replyId := args.replyId
          emoji := args.emoji }) }

def forwardToBle (ctx : MeshCtx S) (args : PacketForwardArgs) : MeshCtx S :=
  pushFromRadio ctx (makeFromRadioPacket args)

def buildNodeIdString (nodeNum : UInt32) : Text :=
  utf8 "!" ++ hexByte (byteAt nodeNum 3) ++ hexByte (byteAt nodeNum 2) ++
    hexByte (byteAt nodeNum 1) ++ hexByte (byteAt nodeNum 0)

/-- The user sent for a node: the known one under its own id, or names made up from
the node number. -/
def nodeInfoUser (entry : NodeEntry) : User :=
  let id := buildNodeIdString entry.nodeNum
  let user : User :=
    match entry.user with
    | some user => { user with id := id }
    | none =>
        let short := hexByte (byteAt entry.nodeNum 1) ++ hexByte (byteAt entry.nodeNum 0)
        { id := id, longName := utf8 "Meshtastic " ++ short, shortName := short }
  match entry.pubKey with
  | some key => { user with publicKey := key.val }
  | none => user

def snrOrZero (snr : Option Int8) : ℚ :=
  match snr with
  | some snr => snr.toInt
  | none => 0

def makeNodeInfoFromRadio (entry : NodeEntry) : FromRadio.Variant :=
  .nodeInfo
    { num := entry.nodeNum
      user := some (nodeInfoUser entry)
      position := entry.position
      snr := snrOrZero entry.snr
      lastHeard := entry.lastHeard
      hopsAway := entry.hopsAway.map UInt8.toUInt32
      isFavorite := entry.isFavorite
      isIgnored := entry.isIgnored
      isMuted := entry.isMuted }

def notifyBleNodeUpdate (ctx : MeshCtx S) (sender : UInt32) : MeshCtx S :=
  match ctx.nodeDb.get sender with
  | some entry => pushFromRadio ctx (makeNodeInfoFromRadio entry)
  | none => ctx.takeFromRadioId

/-! ## Session passkey -/

def ensureSessionPasskey (ctx : MeshCtx S) : MeshCtx S :=
  let needsNew :=
    match ctx.sessionPasskey with
    | some existing => existing.needsRefresh ctx.now
    | none => true
  if needsNew then
    let key := toLeBytes ctx.randomU32 ++ toLeBytes ctx.takeRandom.randomU32
    { ctx.takeRandom.takeRandom with
      sessionPasskey := some { key := key, issuedAt := ctx.now } }
  else ctx

/-! ## Buffered frames -/

structure DecodedPskFrame where
  portnum : Int32
  payload : Bytes
  channelIndex : UInt8
  replyId : UInt32
  emoji : UInt32

def decodePskFrame (frame : RadioFrame) (device : DeviceState) : Option DecodedPskFrame := do
  let header ← frame.header
  let channel := device.channels.findByHash header.channelIndex device.modemPreset.displayName
  let channelIndex := (channel.map (·.index)).getD 0
  let payload ←
    match channel with
    | some channel =>
        if channel.isEncrypted && !frame.payload.isEmpty then
          cryptPacket env.crypto (copyPsk channel.effectivePsk) header.packetId
            header.sender frame.payload
        else some frame.payload
    | none => some frame.payload
  let data ← env.prost.data.decode payload
  some
    { portnum := data.portnum
      payload := data.payload
      channelIndex := channelIndex
      replyId := data.replyId
      emoji := data.emoji }

/-! ## Satellite replay -/

/-- A stable packet id for replayed state; never zero. -/
def makeReplayPacketId (num timestamp kind : UInt32) : UInt32 :=
  let h := (num * 2654435761 + timestamp) * 2654435761 + kind
  if h = 0 then 1 else h

def MIN_PLAUSIBLE_EPOCH : UInt32 := 1577836800

/-- `(hop_start, hop_limit)` from the last known hop count. -/
def replayHopFields (entry : NodeEntry) (configuredHopLimit : UInt8) : UInt32 × UInt32 :=
  match entry.hopsAway with
  | none => (0, 0)
  | some hops =>
      (configuredHopLimit.toUInt32,
        if hops ≤ configuredHopLimit then (configuredHopLimit - hops).toUInt32 else 0)

def makeReplayPacket (entry : NodeEntry) (portnum : PortNum) (payload : Bytes)
    (configuredHopLimit : UInt8) : FromRadio.Variant :=
  let rxTime := entry.lastHeard
  let (hopStart, hopLimit) := replayHopFields entry configuredHopLimit
  .packet
    { fromNode := entry.nodeNum
      toNode := BROADCAST_ADDR
      channel := 0
      id := makeReplayPacketId entry.nodeNum rxTime portnum.toI32.toUInt32
      rxTime := if MIN_PLAUSIBLE_EPOCH ≤ rxTime then some rxTime else none
      rxSnr := snrOrZero entry.snr
      hopStart := hopStart
      hopLimit := hopLimit
      priority := .background
      payloadVariant := some (.decoded { portnum := portnum.toI32, payload := payload }) }

def makeReplayTelemetryPacket (entry : NodeEntry) (metrics : DeviceMetrics)
    (configuredHopLimit : UInt8) : FromRadio.Variant :=
  makeReplayPacket entry .telemetryApp
    (env.prost.telemetry.encode
      { time := entry.lastHeard, variant := some (.deviceMetrics metrics) })
    configuredHopLimit

def makeReplayPositionPacket (entry : NodeEntry) (position : Position)
    (configuredHopLimit : UInt8) : FromRadio.Variant :=
  makeReplayPacket entry .positionApp (env.prost.position.encode position)
    configuredHopLimit

def replaySatelliteDb (ctx : MeshCtx S) : MeshCtx S :=
  let others := ctx.nodeDb.nodes.toList.filter (·.nodeNum != ctx.device.myNodeNum)
  let positions := others.filterMap fun entry =>
    entry.position.map fun position =>
      makeReplayPositionPacket env entry position ctx.device.hopLimit
  let telemetry := others.filterMap fun entry =>
    entry.deviceMetrics.map fun metrics =>
      makeReplayTelemetryPacket env entry metrics ctx.device.hopLimit
  (positions ++ telemetry).foldl pushFromRadio ctx

end Meshtastenstein.Handlers
