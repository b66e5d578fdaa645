import Meshtastenstein.Channels
import Meshtastenstein.RadioConfig
import Meshtastenstein.Lib.Bytes
/-!
# Device state

The configuration of the node and its packet id counter.
-/

namespace Meshtastenstein

open Lib Lib.Bytes Proto

def hexByte (b : UInt8) : Text :=
  let digits : Text := utf8 "0123456789abcdef"
  [digits.getD (b >>> 4).toNat 0, digits.getD (b &&& 0xf).toNat 0]

structure DeviceState where
  myNodeNum : UInt32
  mac : Bytes
  shortName : Bounded UInt8 5
  longName : Bounded UInt8 40
  hwModel : UInt32
  role : DeviceRole
  modemPreset : ModemPreset
  /-- `LoRaConfig.RegionCode`. -/
  region : UInt8
  usePreset : Bool
  customSf : UInt8
  customBwHz : UInt32
  customCr : UInt8
  channelNum : UInt32
  hopLimit : UInt8
  txEnabled : Bool
  configOkToMqtt : Bool
  channels : ChannelSet
  /-- The last packet id handed out. -/
  packetIdCounter : UInt32

namespace DeviceState

/-- The node number of a MAC address: its last four bytes, big-endian. -/
def nodeNumOfMac (mac : Bytes) : UInt32 :=
  ofLeBytes (mac.getD 5 0) (mac.getD 4 0) (mac.getD 3 0) (mac.getD 2 0)

/-- The state a device with this 6-byte MAC address boots with. -/
def new (mac : Bytes) : DeviceState :=
  let shortName := hexByte (mac.getD 4 0) ++ hexByte (mac.getD 5 0)
  { myNodeNum := nodeNumOfMac mac
    mac := mac
    shortName := Bounded.ofListOrEmpty shortName
    longName := Bounded.ofListOrEmpty (utf8 "Meshtastic " ++ shortName)
    hwModel := 43
    role := .client
    modemPreset := .longFast
    region := 2
    usePreset := true
    customSf := 11
    customBwHz := 250000
    customCr := 5
    channelNum := 0
    hopLimit := DEFAULT_HOP_LIMIT
    txEnabled := true
    configOkToMqtt := false
    channels := ChannelSet.new
    packetIdCounter := nodeNumOfMac mac }

def nextPacketId (device : DeviceState) : UInt32 := device.packetIdCounter + 1

def takePacketId (device : DeviceState) : DeviceState :=
  { device with packetIdCounter := device.nextPacketId }

/-- The modem configuration of `lora_params`. -/
def modemConfig (device : DeviceState) : ModemConfig :=
  if device.usePreset then device.modemPreset.config
  else
    { spreadingFactor := device.customSf
      bandwidthHz := device.customBwHz
      codingRate := device.customCr }

end DeviceState

end Meshtastenstein
