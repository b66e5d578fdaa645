import Meshtastenstein.Handlers.Util
/-!
# Administration

Admin messages from the phone, which is trusted by its pairing, and from the mesh,
which needs the session passkey.
-/

namespace Meshtastenstein.Handlers.Admin

open Lib Proto

variable {S : Type} [MeshStorage S] (env : Env)

/-! ## Responses -/

def responseBytes (ctx : MeshCtx S) (variant : AdminMessage.Variant) : Bytes :=
  env.prost.adminMessage.encode
    { sessionPasskey := (ctx.sessionPasskey.map (·.key)).getD []
      payloadVariant := some variant }

def sendAdminResponse (ctx : MeshCtx S) (requester reqPktId : UInt32)
    (variant : AdminMessage.Variant) (viaLora : Bool) : MeshCtx S :=
  let ctx := ensureSessionPasskey ctx
  let bytes := responseBytes env ctx variant
  if viaLora then
    originate env ctx
      { dest := requester
        portnum := PortNum.adminApp.toI32
        innerPayload := bytes
        requestId := reqPktId }
  else
    let packet : MeshPacket :=
      { fromNode := ctx.device.myNodeNum
        toNode := requester
        id := ctx.device.nextPacketId
        payloadVariant := some (.decoded
          { portnum := PortNum.adminApp.toI32
            payload := bytes
            requestId := reqPktId }) }
    (ctx.takePacketId.takeFromRadioId).sendBle
      { variant := .packet packet, id := ctx.fromRadioId }

/-! ## Reads -/

def channelMessage (channels : ChannelSet) (idx : UInt8) : Channel :=
  match channels.get idx with
  | some channel =>
      { index := idx.toUInt32.toInt32
        settings := some { psk := channel.psk.toList, name := channel.name.toList }
        role := channel.role.toI32 }
  | none => { index := idx.toUInt32.toInt32, settings := none, role := 0 }

def getChannel (ctx : MeshCtx S) (requester reqPktId idxPlus1 : UInt32) (viaLora : Bool) :
    MeshCtx S :=
  let idx := (if idxPlus1 = 0 then 0 else idxPlus1 - 1).toUInt8
  sendAdminResponse env ctx requester reqPktId
    (.getChannelResponse (channelMessage ctx.device.channels idx)) viaLora

def buildLoraConfig (device : DeviceState) : Config.LoRaConfig where
  usePreset := device.usePreset
  modemPreset := env.prost.modemPreset.toI32 device.modemPreset
  region := device.region.toUInt32.toInt32
  hopLimit := device.hopLimit.toUInt32
  txEnabled := device.txEnabled
  configOkToMqtt := device.configOkToMqtt
  spreadFactor := device.customSf.toUInt32
  bandwidth := (bwHzToCode device.customBwHz).toUInt32
  codingRate := device.customCr.toUInt32
  channelNum := device.channelNum
  txPower := LORA_TX_POWER_DBM

def bluetoothConfig : Config.BluetoothConfig where
  enabled := true
  mode := .randomPin

def configVariant (device : DeviceState) : AdminMessage.ConfigType → Config.Variant
  | .deviceConfig => .device { role := device.role.toI32 }
  | .loraConfig => .lora (buildLoraConfig env device)
  | .bluetoothConfig => .bluetooth bluetoothConfig
  | .positionConfig => .position
  | .powerConfig => .power
  | .networkConfig => .network
  | .displayConfig => .display
  | .securityConfig => .security {}
  | .sessionkeyConfig => .sessionkey
  | .deviceuiConfig => .deviceUi

def getConfig (ctx : MeshCtx S) (requester reqPktId : UInt32)
    (configType : AdminMessage.ConfigType) (viaLora : Bool) : MeshCtx S :=
  sendAdminResponse env ctx requester reqPktId
    (.getConfigResponse { payloadVariant := some (configVariant env ctx.device configType) })
    viaLora

def moduleConfigVariant : AdminMessage.ModuleConfigType → Option ModuleConfig.Variant
  | .mqttConfig => some .mqtt
  | .serialConfig => some .serial
  | .extnotifConfig => some .externalNotification
  | .storeforwardConfig => some .storeForward
  | .rangetestConfig => some .rangeTest
  | .telemetryConfig => some .telemetry
  | .cannedmsgConfig => some .cannedMessage
  | .audioConfig => some .audio
  | .remotehardwareConfig => some .remoteHardware
  | .neighborinfoConfig => some .neighborInfo
  | .ambientlightingConfig => some .ambientLighting
  | .detectionsensorConfig => some .detectionSensor
  | .paxcounterConfig => some .paxcounter
  | .statusmessageConfig => some .statusmessage
  | .trafficmanagementConfig | .takConfig | .meshbeaconConfig => none

def getModuleConfig (ctx : MeshCtx S) (requester reqPktId : UInt32) (configType : Int32)
    (viaLora : Bool) : MeshCtx S :=
  match (env.prost.moduleConfigType.tryFrom configType).bind moduleConfigVariant with
  | some variant =>
      sendAdminResponse env ctx requester reqPktId
        (.getModuleConfigResponse { payloadVariant := some variant }) viaLora
  | none => ctx

def getOwner (ctx : MeshCtx S) (requester reqPktId : UInt32) (viaLora : Bool) : MeshCtx S :=
  sendAdminResponse env ctx requester reqPktId
    (.getOwnerResponse
      { id := ctx.nodeIdStr
        longName := ctx.device.longName.toList
        shortName := ctx.device.shortName.toList
        hwModel := ctx.device.hwModel.toInt32
        isLicensed := false })
    viaLora

/-! ## Device settings -/

def saveDevice (ctx : MeshCtx S) (device : DeviceState) : MeshCtx S :=
  { ctx with device := device, storage := saveState env ctx.storage device }

def replaceName {cap : Nat} (old : Bounded UInt8 cap) (name : Text) : Bounded UInt8 cap :=
  if name.isEmpty then old else Bounded.ofListOrEmpty name

def setOwner (ctx : MeshCtx S) (user : User) : MeshCtx S :=
  saveDevice env ctx
    { ctx.device with
      longName := replaceName ctx.device.longName user.longName
      shortName := replaceName ctx.device.shortName user.shortName
      hwModel :=
        if user.hwModel ≠ 0 ∧ env.prost.isHardwareModel user.hwModel then
          user.hwModel.toUInt32
        else ctx.device.hwModel }

def isValidPskLen (len : Nat) : Bool := len == 0 || len == 1 || len == 16 || len == 32

def channelOfSettings (channel : Channel) (settings : ChannelSettings) : ChannelConfig where
  index := channel.index.toUInt32.toUInt8
  name := Bounded.ofListOrEmpty settings.name
  psk := Bounded.ofListOrEmpty settings.psk
  role := (ChannelRole.tryFrom channel.role).getD .secondary

def setChannel (ctx : MeshCtx S) (channel : Channel) : MeshCtx S :=
  match channel.settings with
  | some settings =>
      if isValidPskLen settings.psk.length then
        saveDevice env ctx
          { ctx.device with
            channels := ctx.device.channels.set channel.index.toUInt32.toUInt8
              (channelOfSettings channel settings) }
      else ctx
  | none => ctx

def clampCustomSf (spreadFactor : UInt32) : UInt8 :=
  if 5 ≤ spreadFactor ∧ spreadFactor ≤ 12 then spreadFactor.toUInt8 else 11

def clampCustomCr (codingRate : UInt32) : UInt8 :=
  if 4 ≤ codingRate ∧ codingRate ≤ 8 then codingRate.toUInt8 else 5

def clampCustomBwHz (bandwidthCode : UInt32) : UInt32 :=
  let hz := bwCodeToHz bandwidthCode.toUInt16
  if hz = 0 then 250000 else hz

def setLoraConfig (device : DeviceState) (lora : Config.LoRaConfig) : DeviceState :=
  { device with
    region := (env.prost.region.toI32
      (Region.fromProto env lora.region.toUInt32.toUInt8)).toUInt32.toUInt8
    usePreset := lora.usePreset
    modemPreset := ModemPreset.fromProto env lora.modemPreset.toUInt32.toUInt8
    customSf := clampCustomSf lora.spreadFactor
    customBwHz := clampCustomBwHz lora.bandwidth
    customCr := clampCustomCr lora.codingRate
    channelNum := lora.channelNum
    hopLimit := min lora.hopLimit.toUInt8 MAX_HOP_LIMIT
    txEnabled := lora.txEnabled
    configOkToMqtt := lora.configOkToMqtt }

def setConfig (ctx : MeshCtx S) (config : Config) : MeshCtx S :=
  match config.payloadVariant with
  | some (.device device) =>
      saveDevice env ctx
        { ctx.device with role := (DeviceRole.tryFrom device.role).getD ctx.device.role }
  | some (.lora lora) =>
      { saveDevice env ctx (setLoraConfig env ctx.device lora) with
        txEnabled := lora.txEnabled }
  | some _ => saveDevice env ctx ctx.device
  | none => ctx

/-! ## Node list -/

def addContactToDb (db : NodeDb) (contact : SharedContact) (user : User) : NodeDb :=
  match db.getOrCreate contact.nodeNum with
  | none => db
  | some (db, idx) =>
      let db := db.modifyAt idx fun n => { n with user := some user }
      let db :=
        match (Key.ofBytes? user.publicKey).filter (·.isSet) with
        | some key => db.updatePubKey contact.nodeNum key
        | none => db
      let db := db.markDirty
      if contact.shouldIgnore then
        (db.setIgnored contact.nodeNum true).setFavorite contact.nodeNum false
      else db.setFavorite contact.nodeNum true

def addContact (ctx : MeshCtx S) (contact : SharedContact) : MeshCtx S :=
  match contact.user with
  | some user => ctx.modifyNodeDb fun db => addContactToDb db contact user
  | none => ctx

def setFixedPosition (ctx : MeshCtx S) (position : Position) : MeshCtx S :=
  { ctx with myPositionBytes := Bounded.ofListOrEmpty (env.prost.position.encode position) }

def removeFixedPosition (ctx : MeshCtx S) : MeshCtx S :=
  { ctx with myPositionBytes := Bounded.empty }

/-! ## Power and reset -/

def reboot (ctx : MeshCtx S) (secs : UInt32) : MeshCtx S :=
  { ctx with rebootAfterSecs := some secs }

def factoryReset (ctx : MeshCtx S) : MeshCtx S :=
  { ctx with
    storage := MeshStorage.clearBond (MeshStorage.eraseConfig ctx.storage)
    rebootAfterSecs := some 2 }

def nodedbReset (ctx : MeshCtx S) : MeshCtx S :=
  { ctx with nodeDb := NodeDb.new ctx.device.myNodeNum }

def shutdown (ctx : MeshCtx S) (secs : UInt32) : MeshCtx S :=
  { ctx with shutdownAfterSecs := some secs }

/-! ## Dispatch -/

/-- Whether a command may run: over LoRa only under the live session passkey. -/
def isAuthorized (ctx : MeshCtx S) (msg : AdminMessage) (viaLora : Bool) : Bool :=
  if viaLora then
    if msg.sessionPasskey.isEmpty then false
    else
      match ctx.sessionPasskey with
      | some session => !session.isExpired ctx.now && msg.sessionPasskey == session.key
      | none => false
  else true

def handleVariant (ctx : MeshCtx S) (requester reqPktId : UInt32) (viaLora : Bool) :
    AdminMessage.Variant → MeshCtx S
  | .getOwnerRequest _ => getOwner env ctx requester reqPktId viaLora
  | .getConfigRequest configType =>
      match env.prost.configType.tryFrom configType with
      | some configType => getConfig env ctx requester reqPktId configType viaLora
      | none => ctx
  | .getChannelRequest idxPlus1 => getChannel env ctx requester reqPktId idxPlus1 viaLora
  | .getModuleConfigRequest configType =>
      getModuleConfig env ctx requester reqPktId configType viaLora
  | .setOwner user => setOwner env ctx user
  | .setConfig config => setConfig env ctx config
  | .setModuleConfig _ => ctx
  | .setChannel channel => setChannel env ctx channel
  | .setFavoriteNode nodeNum => ctx.modifyNodeDb (·.setFavorite nodeNum true)
  | .removeFavoriteNode nodeNum => ctx.modifyNodeDb (·.setFavorite nodeNum false)
  | .setIgnoredNode nodeNum => ctx.modifyNodeDb (·.setIgnored nodeNum true)
  | .removeIgnoredNode nodeNum => ctx.modifyNodeDb (·.setIgnored nodeNum false)
  | .toggleMutedNode nodeNum => ctx.modifyNodeDb (·.toggleMuted nodeNum)
  | .addContact contact => addContact ctx contact
  | .setFixedPosition position => setFixedPosition env ctx position
  | .removeFixedPosition _ => removeFixedPosition ctx
  | .beginEditSettings _ =>
      sendAdminResponse env ctx requester reqPktId (.beginEditSettings true) viaLora
  | .commitEditSettings _ =>
      sendAdminResponse env ctx requester reqPktId (.commitEditSettings true) viaLora
  | .rebootSeconds secs => reboot ctx secs.toUInt32
  | .factoryResetConfig _ => factoryReset ctx
  | .nodedbReset _ => nodedbReset ctx
  | .shutdownSeconds secs => shutdown ctx secs.toUInt32
  | .removeByNodenum nodeNum => ctx.modifyNodeDb (·.remove nodeNum)
  | _ => ctx

def dispatch (ctx : MeshCtx S) (requester reqPktId : UInt32) (adminBytes : Bytes)
    (viaLora : Bool) : MeshCtx S :=
  match env.prost.adminMessage.decode adminBytes with
  | none => ctx
  | some msg =>
      if isAuthorized ctx msg viaLora then
        match msg.payloadVariant with
        | some variant => handleVariant env ctx requester reqPktId viaLora variant
        | none => ctx
      else ctx

end Meshtastenstein.Handlers.Admin
