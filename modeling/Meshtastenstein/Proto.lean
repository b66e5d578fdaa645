import Mathlib.Data.Rat.Defs
/-!
# Protobuf messages

The messages the firmware exchanges with the mesh and with the phone, with the
fields it reads or writes.  Text is its UTF-8 bytes, a 32-bit float a rational
number.  Field defaults are those of the generated `Default` implementations.
-/

namespace Meshtastenstein

abbrev Bytes := List UInt8

abbrev Text := List UInt8

def utf8 (s : String) : Text :=
  s.toList.flatMap String.utf8EncodeChar

namespace Proto

/-! ## Port numbers and enumerations -/

/-- The port numbers the firmware names; every other value is unknown to it. -/
inductive PortNum
  | unknownApp
  | textMessageApp
  | remoteHardwareApp
  | positionApp
  | nodeinfoApp
  | routingApp
  | adminApp
  | textMessageCompressedApp
  | waypointApp
  | telemetryApp
  | tracerouteApp
  | neighborinfoApp
deriving DecidableEq

namespace PortNum

def toI32 : PortNum → Int32
  | unknownApp => 0
  | textMessageApp => 1
  | remoteHardwareApp => 2
  | positionApp => 3
  | nodeinfoApp => 4
  | routingApp => 5
  | adminApp => 6
  | textMessageCompressedApp => 7
  | waypointApp => 8
  | telemetryApp => 67
  | tracerouteApp => 70
  | neighborinfoApp => 71

def all : List PortNum :=
  [unknownApp, textMessageApp, remoteHardwareApp, positionApp, nodeinfoApp,
    routingApp, adminApp, textMessageCompressedApp, waypointApp, telemetryApp,
    tracerouteApp, neighborinfoApp]

def tryFrom (n : Int32) : Option PortNum :=
  all.find? fun p => p.toI32 == n

theorem tryFrom_toI32 (p : PortNum) : tryFrom p.toI32 = some p := by
  cases p <;> decide

theorem toI32_of_tryFrom {n : Int32} {p : PortNum} (h : tryFrom n = some p) :
    p.toI32 = n := by
  simpa using List.find?_some h

end PortNum

inductive DeviceRole
  | client
  | clientMute
  | router
  | routerClient
  | repeater
  | tracker
  | sensor
  | tak
  | clientHidden
  | lostAndFound
  | takTracker
  | routerLate
  | clientBase
deriving DecidableEq

inductive ChannelRole
  | disabled
  | primary
  | secondary
deriving DecidableEq

namespace ChannelRole

def toI32 : ChannelRole → Int32
  | disabled => 0
  | primary => 1
  | secondary => 2

def tryFrom (n : Int32) : Option ChannelRole :=
  if n = 0 then some disabled
  else if n = 1 then some primary
  else if n = 2 then some secondary
  else none

end ChannelRole

namespace DeviceRole

def toI32 : DeviceRole → Int32
  | client => 0
  | clientMute => 1
  | router => 2
  | routerClient => 3
  | repeater => 4
  | tracker => 5
  | sensor => 6
  | tak => 7
  | clientHidden => 8
  | lostAndFound => 9
  | takTracker => 10
  | routerLate => 11
  | clientBase => 12

def all : List DeviceRole :=
  [client, clientMute, router, routerClient, repeater, tracker, sensor, tak,
    clientHidden, lostAndFound, takTracker, routerLate, clientBase]

def tryFrom (n : Int32) : Option DeviceRole :=
  all.find? fun r => r.toI32 == n

end DeviceRole

/-- The values of `Routing.Error` the firmware reports. -/
inductive RoutingError
  | none
  | maxRetransmit
  | pkiFailed
  | pkiUnknownPubkey
  | pkiSendFailPublicKey
deriving DecidableEq

/-! ## Mesh payloads -/

/-- The `Data` wrapper around every application payload. -/
structure Data where
  portnum : Int32 := 0
  payload : Bytes := []
  wantResponse : Bool := false
  requestId : UInt32 := 0
  replyId : UInt32 := 0
  emoji : UInt32 := 0
  bitfield : Option UInt32 := none
deriving DecidableEq

inductive Routing.Variant
  | errorReason (error : RoutingError)
  /-- A route request or reply, or an error the firmware never reports. -/
  | other (raw : Bytes)
deriving DecidableEq

structure Routing where
  variant : Option Routing.Variant := none
deriving DecidableEq

structure User where
  id : Text := []
  longName : Text := []
  shortName : Text := []
  macaddr : Bytes := []
  hwModel : Int32 := 0
  isLicensed : Bool := false
  role : Int32 := 0
  publicKey : Bytes := []

/-- A position, carried as its own canonical encoding: the firmware stores and
forwards positions without looking inside. -/
structure Position where
  encoding : Bytes := []
deriving DecidableEq

structure DeviceMetrics where
  batteryLevel : Option UInt32 := none
  voltage : Option ℚ := none
  channelUtilization : Option ℚ := none
  airUtilTx : Option ℚ := none
  uptimeSeconds : Option UInt32 := none

inductive Telemetry.Variant
  | deviceMetrics (metrics : DeviceMetrics)
  | other (raw : Bytes)

structure Telemetry where
  time : UInt32 := 0
  variant : Option Telemetry.Variant := none

structure Neighbor where
  nodeId : UInt32
  snr : ℚ
  lastRxTime : UInt32
  nodeBroadcastIntervalSecs : UInt32

structure NeighborInfo where
  nodeId : UInt32
  lastSentById : UInt32
  nodeBroadcastIntervalSecs : UInt32
  neighbors : List Neighbor

structure RouteDiscovery where
  route : List UInt32 := []
  snrTowards : List Int32 := []
  routeBack : List UInt32 := []
  snrBack : List Int32 := []

/-! ## Configuration messages -/

structure Config.DeviceConfig where
  role : Int32 := 0

structure Config.LoRaConfig where
  usePreset : Bool := false
  modemPreset : Int32 := 0
  bandwidth : UInt32 := 0
  spreadFactor : UInt32 := 0
  codingRate : UInt32 := 0
  region : Int32 := 0
  hopLimit : UInt32 := 0
  txEnabled : Bool := false
  txPower : Int32 := 0
  channelNum : UInt32 := 0
  configOkToMqtt : Bool := false

inductive Config.PairingMode
  | randomPin
  | other (mode : Int32)

structure Config.BluetoothConfig where
  enabled : Bool := false
  mode : Config.PairingMode := .randomPin

structure Config.SecurityConfig where
  publicKey : Bytes := []
  privateKey : Bytes := []

inductive Config.Variant
  | device (config : Config.DeviceConfig)
  | position
  | power
  | network
  | display
  | lora (config : Config.LoRaConfig)
  | bluetooth (config : Config.BluetoothConfig)
  | security (config : Config.SecurityConfig)
  | sessionkey
  | deviceUi

structure Config where
  payloadVariant : Option Config.Variant := none

/-- `ModuleConfig.PayloadVariant`; the firmware only ever sends defaults. -/
inductive ModuleConfig.Variant
  | mqtt
  | serial
  | externalNotification
  | storeForward
  | rangeTest
  | telemetry
  | cannedMessage
  | audio
  | remoteHardware
  | neighborInfo
  | ambientLighting
  | detectionSensor
  | paxcounter
  | statusmessage
  | trafficManagement
  | tak
  | meshBeacon

structure ModuleConfig where
  payloadVariant : Option ModuleConfig.Variant := none

structure ChannelSettings where
  psk : Bytes := []
  name : Text := []

structure Channel where
  index : Int32 := 0
  settings : Option ChannelSettings := none
  role : Int32 := 0

/-! ## Administration -/

inductive AdminMessage.ConfigType
  | deviceConfig
  | positionConfig
  | powerConfig
  | networkConfig
  | displayConfig
  | loraConfig
  | bluetoothConfig
  | securityConfig
  | sessionkeyConfig
  | deviceuiConfig

inductive AdminMessage.ModuleConfigType
  | mqttConfig
  | serialConfig
  | extnotifConfig
  | storeforwardConfig
  | rangetestConfig
  | telemetryConfig
  | cannedmsgConfig
  | audioConfig
  | remotehardwareConfig
  | neighborinfoConfig
  | ambientlightingConfig
  | detectionsensorConfig
  | paxcounterConfig
  | statusmessageConfig
  | trafficmanagementConfig
  | takConfig
  | meshbeaconConfig

structure SharedContact where
  nodeNum : UInt32 := 0
  user : Option User := none
  shouldIgnore : Bool := false

inductive AdminMessage.Variant
  | getOwnerRequest (flag : Bool)
  | getConfigRequest (configType : Int32)
  | getChannelRequest (idxPlus1 : UInt32)
  | getModuleConfigRequest (configType : Int32)
  | setOwner (user : User)
  | setConfig (config : Config)
  | setModuleConfig (config : ModuleConfig)
  | setChannel (channel : Channel)
  | setFavoriteNode (nodeNum : UInt32)
  | removeFavoriteNode (nodeNum : UInt32)
  | setIgnoredNode (nodeNum : UInt32)
  | removeIgnoredNode (nodeNum : UInt32)
  | toggleMutedNode (nodeNum : UInt32)
  | addContact (contact : SharedContact)
  | setFixedPosition (position : Position)
  | removeFixedPosition (flag : Bool)
  | beginEditSettings (flag : Bool)
  | commitEditSettings (flag : Bool)
  | rebootSeconds (secs : Int32)
  | factoryResetConfig (value : Int32)
  | nodedbReset (flag : Bool)
  | shutdownSeconds (secs : Int32)
  | removeByNodenum (nodeNum : UInt32)
  | getOwnerResponse (user : User)
  | getConfigResponse (config : Config)
  | getChannelResponse (channel : Channel)
  | getModuleConfigResponse (config : ModuleConfig)
  | other (raw : Bytes)

structure AdminMessage where
  sessionPasskey : Bytes := []
  payloadVariant : Option AdminMessage.Variant := none

/-! ## Phone messages -/

inductive MeshPacket.Variant
  | decoded (data : Data)
  | encrypted (bytes : Bytes)

inductive MeshPacket.Priority
  | unset
  | background

structure MeshPacket where
  fromNode : UInt32 := 0
  toNode : UInt32 := 0
  channel : UInt32 := 0
  id : UInt32 := 0
  rxTime : Option UInt32 := none
  rxSnr : ℚ := 0
  hopLimit : UInt32 := 0
  wantAck : Bool := false
  priority : MeshPacket.Priority := .unset
  rxRssi : Option Int32 := none
  hopStart : UInt32 := 0
  publicKey : Bytes := []
  payloadVariant : Option MeshPacket.Variant := none

structure MyNodeInfo where
  myNodeNum : UInt32
  nodedbCount : UInt32
  minAppVersion : UInt32

structure NodeInfo where
  num : UInt32
  user : Option User := none
  position : Option Position := none
  snr : ℚ := 0
  lastHeard : UInt32 := 0
  hopsAway : Option UInt32 := none
  isFavorite : Bool := false
  isIgnored : Bool := false
  isMuted : Bool := false

structure DeviceMetadata where
  firmwareVersion : Text
  deviceStateVersion : UInt32
  hasBluetooth : Bool
  hwModel : Int32
  role : Int32

structure QueueStatus where
  res : Int32
  free : UInt32
  maxlen : UInt32
  meshPacketId : UInt32

inductive FromRadio.Variant
  | packet (packet : MeshPacket)
  | myInfo (info : MyNodeInfo)
  | nodeInfo (info : NodeInfo)
  | config (config : Config)
  | configCompleteId (id : UInt32)
  | moduleConfig (config : ModuleConfig)
  | channel (channel : Channel)
  | queueStatus (status : QueueStatus)
  | metadata (metadata : DeviceMetadata)
  | deviceuiConfig
  | regionPresets

structure FromRadio where
  id : UInt32
  payloadVariant : Option FromRadio.Variant

inductive ToRadio.Variant
  | packet (packet : MeshPacket)
  | wantConfigId (id : UInt32)
  | heartbeat (nonce : UInt32)
  | disconnect (flag : Bool)
  | other (raw : Bytes)

structure ToRadio where
  payloadVariant : Option ToRadio.Variant := none

end Proto

end Meshtastenstein
