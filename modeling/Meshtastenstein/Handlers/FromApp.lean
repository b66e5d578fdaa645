import Meshtastenstein.Handlers.Admin
/-!
# Messages from the phone

Packets the phone wants sent, the configuration exchange and the replay of buffered
frames.
-/

namespace Meshtastenstein.Handlers.FromApp

open Lib Proto

variable {S : Type} [MeshStorage S] (env : Env)

/-! ## Phone sends -/

/-- The phone asks for PKC by naming one channel past the last slot. -/
def wantsPkc (pkt : MeshPacket) : Bool := pkt.channel == PKC_CHANNEL_INDEX.toUInt32

/-- The channel slot of a phone packet; the wire value is cut to a byte. -/
def channelIdx (pkt : MeshPacket) : UInt8 :=
  if wantsPkc pkt then 0 else pkt.channel.toUInt8

def wantAck (pkt : MeshPacket) (data : Data) : Bool :=
  pkt.wantAck || data.portnum == PortNum.textMessageApp.toI32

/-- The frame description of a phone packet. -/
def phoneTx (pkt : MeshPacket) (data : Data) : TxBuilder :=
  { dest := pkt.toNode
    portnum := data.portnum
    innerPayload := data.payload
    channelIdx := some (channelIdx pkt)
    wantAck := wantAck pkt data
    requestId := data.requestId
    replyId := data.replyId
    emoji := data.emoji
    hopLimit := some (min pkt.hopLimit.toUInt8 MAX_HOP_LIMIT) }

/-- Whom to tell how the send ended: the declared sender, or ourselves. -/
def ackDest (device : DeviceState) (pkt : MeshPacket) : UInt32 :=
  if pkt.fromNode = 0 then device.myNodeNum else pkt.fromNode

def pendingEntry (ctx : MeshCtx S) (pkt : MeshPacket) (packetId : UInt32)
    (frame : RadioFrame) : PendingPacket where
  frame := frame
  packetId := packetId
  dest := pkt.toNode
  sender := ctx.device.myNodeNum
  deadline := ctx.now + WANT_ACK_TIMEOUT_MS
  retriesLeft := NUM_RELIABLE_RETX
  isOurPacket := true
  bleNotify := some (ackDest ctx.device pkt)

/-- Queue a built frame: tracked until the mesh answers when an acknowledgement is
wanted, else confirmed to the phone at once. -/
def queuePhoneFrame (ctx : MeshCtx S) (pkt : MeshPacket) (data : Data) (packetId : UInt32)
    (frame : RadioFrame) : MeshCtx S :=
  if wantAck pkt data && pkt.toNode != BROADCAST_ADDR then
    match ctx.pendingPackets.push (pendingEntry ctx pkt packetId frame) with
    | some pending => { ctx with pendingPackets := pending }.sendLora frame
    | none => (sendBleRoutingAck env ctx (ackDest ctx.device pkt) pkt.id).sendLora frame
  else
    sendBleRoutingAck env (ctx.sendLora frame) (ackDest ctx.device pkt) pkt.id

def buildAndQueue (ctx : MeshCtx S) (pkt : MeshPacket) (data : Data) (packetId : UInt32)
    (pkcKeys : Option (Key × UInt32)) : MeshCtx S :=
  match (phoneTx pkt data).build env ctx.device ctx.router ctx.nodeDb packetId pkcKeys with
  | some frame => queuePhoneFrame env ctx pkt data packetId frame
  | none => ctx

def keyMismatch (db : NodeDb) (pkt : MeshPacket) : Bool :=
  pkt.publicKey.length == 32 &&
    (db.pubKeyOf pkt.toNode).any fun stored => stored.val != pkt.publicKey

def sendPkc (ctx : MeshCtx S) (pkt : MeshPacket) (data : Data) (packetId : UInt32) :
    MeshCtx S :=
  if portnumAllowsPkc data.portnum = false then ctx
  else if pkt.toNode = BROADCAST_ADDR ∨ pkt.toNode = 0 then ctx
  else if keyMismatch ctx.nodeDb pkt then
    sendBleRoutingResult env ctx pkt.toNode pkt.id .pkiFailed
  else if ctx.nodeDb.hasPubKey pkt.toNode = false ∨ ctx.pkcPrivBytes.isSet = false then
    sendBleRoutingResult env ctx pkt.toNode pkt.id .pkiSendFailPublicKey
  else
    buildAndQueue env ctx.takeRandom pkt data packetId (some (ctx.pkcPrivBytes, ctx.randomU32))

def packetIdFor (device : DeviceState) (pkt : MeshPacket) : UInt32 :=
  if pkt.id ≠ 0 then pkt.id else device.nextPacketId

theorem packetIdFor_of_ne_zero (device : DeviceState) {pkt : MeshPacket} (h : pkt.id ≠ 0) :
    packetIdFor device pkt = pkt.id := if_pos h

def sendToMesh (ctx : MeshCtx S) (pkt : MeshPacket) (data : Data) : MeshCtx S :=
  let packetId := packetIdFor ctx.device pkt
  let ctx := if pkt.id ≠ 0 then ctx else ctx.takePacketId
  if MAX_CHANNELS ≤ (channelIdx pkt).toNat ∧ wantsPkc pkt = false then ctx
  else if wantsPkc pkt then sendPkc env ctx pkt data packetId
  else buildAndQueue env ctx pkt data packetId none

/-- Whether a phone packet is administration of this very device. -/
def isLocalAdmin (device : DeviceState) (pkt : MeshPacket) (data : Data) : Bool :=
  data.portnum == PortNum.adminApp.toI32 &&
    (pkt.toNode == device.myNodeNum || pkt.toNode == BROADCAST_ADDR || pkt.toNode == 0)

def handleLocalAdmin (ctx : MeshCtx S) (pkt : MeshPacket) (data : Data) : MeshCtx S :=
  let ctx := Admin.dispatch env ctx pkt.fromNode pkt.id data.payload false
  if pkt.wantAck then sendBleRoutingAck env ctx pkt.fromNode pkt.id else ctx

/-- Remember the position the phone reports, when it fits. -/
def notePosition (ctx : MeshCtx S) (data : Data) : MeshCtx S :=
  if data.portnum = PortNum.positionApp.toI32 then
    { ctx with myPositionBytes := Bounded.ofListOrEmpty data.payload }
  else ctx

def transmitDecoded (ctx : MeshCtx S) (pkt : MeshPacket) (data : Data) : MeshCtx S :=
  if isLocalAdmin ctx.device pkt data then handleLocalAdmin env ctx pkt data
  else sendToMesh env (notePosition ctx data) pkt data

def transmitFromBlePacket (ctx : MeshCtx S) (pkt : MeshPacket) : MeshCtx S :=
  match pkt.payloadVariant with
  | some (.decoded data) => transmitDecoded env ctx pkt data
  | _ => ctx

/-! ## Configuration exchange -/

def ownNodeInfo (ctx : MeshCtx S) : FromRadio.Variant :=
  .nodeInfo
    { num := ctx.device.myNodeNum
      user := some
        { id := ctx.nodeIdStr
          longName := ctx.device.longName.toList
          shortName := ctx.device.shortName.toList
          hwModel := ctx.device.hwModel.toInt32
          isLicensed := false
          publicKey := ctx.pkcPubBytes.val }
      isFavorite := true }

def configVariants (ctx : MeshCtx S) : List Config.Variant :=
  [.device { role := ctx.device.role.toI32 }, .position, .power, .network, .display,
    .lora (Admin.buildLoraConfig env ctx.device), .bluetooth Admin.bluetoothConfig,
    .security { publicKey := ctx.pkcPubBytes.val, privateKey := ctx.pkcPrivBytes.val },
    .sessionkey, .deviceUi]

def moduleConfigVariants : List ModuleConfig.Variant :=
  [.mqtt, .serial, .externalNotification, .storeForward, .rangeTest, .telemetry,
    .cannedMessage, .audio, .remoteHardware, .neighborInfo, .ambientLighting,
    .detectionSensor, .paxcounter, .statusmessage, .trafficManagement, .tak, .meshBeacon]

/-- The messages of the first handshake stage, in order. -/
def configExchange (ctx : MeshCtx S) (configId : UInt32) : List FromRadio.Variant :=
  [.myInfo
      { myNodeNum := ctx.device.myNodeNum
        nodedbCount := 1 + UInt32.ofNat ctx.nodeDb.len
        minAppVersion := MIN_APP_VERSION },
    .deviceuiConfig, ownNodeInfo ctx,
    .metadata
      { firmwareVersion := FIRMWARE_VERSION
        deviceStateVersion := DEVICE_STATE_VERSION
        hasBluetooth := true
        hwModel := ctx.device.hwModel.toInt32
        role := ctx.device.role.toI32 },
    .regionPresets] ++
  (List.range MAX_CHANNELS).map (fun idx =>
    .channel (Admin.channelMessage ctx.device.channels (UInt8.ofNat idx))) ++
  (configVariants env ctx).map (fun variant => .config { payloadVariant := some variant }) ++
  moduleConfigVariants.map (fun variant =>
    .moduleConfig { payloadVariant := some variant }) ++
  [.configCompleteId configId]

def sendConfigExchange (ctx : MeshCtx S) (configId : UInt32) : MeshCtx S :=
  (configExchange env ctx configId).foldl pushFromRadio ctx

def nodeDbExchange (db : NodeDb) : List FromRadio.Variant :=
  ((db.nodes.toList.take CONFIG_EXCHANGE_MAX_NODES).map (·.nodeNum)).filterMap fun num =>
    (db.get num).map makeNodeInfoFromRadio

def sendNodeinfoExchange (ctx : MeshCtx S) (configId : UInt32) : MeshCtx S :=
  let messages : List FromRadio.Variant :=
    ownNodeInfo ctx :: nodeDbExchange ctx.nodeDb ++ [.configCompleteId configId]
  replaySatelliteDb env (messages.foldl pushFromRadio ctx)

/-! ## Replay of buffered frames -/

def replayFrame (ctx : MeshCtx S) (frame : RadioFrame) : MeshCtx S :=
  match frame.header, decodePskFrame env frame ctx.device with
  | some header, some decoded =>
      pushFromRadio ctx (makeFromRadioPacket
        { header := header
          channelIndex := decoded.channelIndex
          portnum := decoded.portnum
          payload := decoded.payload
          replyId := decoded.replyId
          emoji := decoded.emoji
          metadata := { rssi := 0, snr := 0 } })
  | _, _ => ctx

def replayFrames : Nat → MeshCtx S → MeshCtx S
  | 0, ctx => ctx
  | remaining + 1, ctx =>
      match MeshStorage.peek ctx.storage with
      | some (some frame) =>
          replayFrames remaining
            (replayFrame env { ctx with storage := MeshStorage.pop ctx.storage } frame)
      | _ => ctx

def replayStoredFrames (ctx : MeshCtx S) : MeshCtx S :=
  replayFrames env (MeshStorage.count ctx.storage) ctx

/-! ## Dispatch -/

def queueStatus (ctx : MeshCtx S) : FromRadio.Variant :=
  .queueStatus
    { res := 0
      free := UInt32.ofNat (LORA_TX_QUEUE_SIZE - ctx.txToLora.length)
      maxlen := UInt32.ofNat LORA_TX_QUEUE_SIZE
      meshPacketId := 0 }

def handleToRadio (ctx : MeshCtx S) : Option ToRadio.Variant → MeshCtx S
  | some (.packet pkt) => transmitFromBlePacket env ctx pkt
  | some (.wantConfigId id) =>
      let ctx :=
        if id = SPECIAL_NONCE_ONLY_NODES then sendNodeinfoExchange env ctx id
        else sendConfigExchange env ctx id
      replayStoredFrames env ctx
  | some (.heartbeat nonce) =>
      if nonce = 1 then sendNodeinfo env ctx BROADCAST_ADDR false
      else pushFromRadio ctx (queueStatus ctx)
  | some (.disconnect _) => { ctx with disconnCmd := ctx.disconnCmd.pushOrDrop () }
  | _ => ctx

def dispatch (ctx : MeshCtx S) (data : Bytes) : MeshCtx S :=
  if data.isEmpty then ctx
  else
    match env.prost.toRadio.decode data with
    | none => ctx
    | some toRadio => (handleToRadio env ctx toRadio.payloadVariant).blink .doubleBlink

end Meshtastenstein.Handlers.FromApp
