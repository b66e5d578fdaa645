import Meshtastenstein.Device
import Meshtastenstein.NodeDb
import Meshtastenstein.Packet
/-!
# Persistent storage

The record the device configuration is saved as, and the storage port behind which
the flash adapters stand.
-/

namespace Meshtastenstein

open Lib Proto

/-! ## Saved configuration -/

structure SavedChannel where
  index : UInt8
  role : UInt8
  psk : Bounded UInt8 32
  name : Bounded UInt8 12

structure SavedConfig where
  longName : Bounded UInt8 40
  shortName : Bounded UInt8 5
  region : UInt8
  modemPreset : UInt8
  role : UInt8
  channels : Bounded SavedChannel 8
  usePreset : UInt8
  spreadFactor : UInt8
  bandwidthCode : UInt16
  codingRate : UInt8
  channelNum : UInt16
  hopLimit : UInt8
  txEnabled : UInt8
  configOkToMqtt : UInt8

def isUtf8 (bytes : Bytes) : Bool := bytes.toByteArray.validateUTF8

def savedChannels (channels : ChannelSet) : Bounded SavedChannel 8 where
  toList := (channels.configured.filter (·.isEnabled)).map fun c =>
    { index := c.index, role := c.role.toI32.toInt8.toUInt8, psk := c.psk, name := c.name }
  length_le := by
    have hconfigured : channels.configured.length ≤ 8 :=
      Nat.le_trans (List.length_filterMap_le _ _) (Nat.le_of_eq channels.length_eq)
    rw [List.length_map]
    exact Nat.le_trans (List.length_filter_le _ _) hconfigured

def savedConfigFromDevice (env : Env) (device : DeviceState) : SavedConfig where
  longName := device.longName
  shortName := device.shortName
  region := device.region
  modemPreset := (env.prost.modemPreset.toI32 device.modemPreset).toInt8.toUInt8
  role := device.role.toI32.toInt8.toUInt8
  channels := savedChannels device.channels
  usePreset := device.usePreset.toUInt8
  spreadFactor := device.customSf
  bandwidthCode := bwHzToCode device.customBwHz
  codingRate := device.customCr
  channelNum := device.channelNum.toUInt16
  hopLimit := device.hopLimit
  txEnabled := device.txEnabled.toUInt8
  configOkToMqtt := device.configOkToMqtt.toUInt8

/-- A preset from its number, `LongFast` when unknown. -/
def ModemPreset.fromProto (env : Env) (v : UInt8) : ModemPreset :=
  (env.prost.modemPreset.tryFrom v.toUInt32.toInt32).getD .longFast

/-- A region from its number, `Eu433` when unknown. -/
def Region.fromProto (env : Env) (v : UInt8) : Region :=
  (env.prost.region.tryFrom v.toUInt32.toInt32).getD .eu433

def applySavedChannel (channels : ChannelSet) (saved : SavedChannel) : ChannelSet :=
  let name : Bounded UInt8 12 :=
    if isUtf8 saved.name.toList then saved.name else Bounded.empty
  let restore (role : ChannelRole) : ChannelSet :=
    channels.set saved.index
      { index := saved.index, name := name, psk := saved.psk, role := role }
  if saved.role = 1 then restore .primary
  else if saved.role = 2 then restore .secondary
  else channels

def applySavedConfig (env : Env) (saved : SavedConfig) (device : DeviceState) :
    DeviceState :=
  { device with
    longName :=
      if saved.longName.toList ≠ [] ∧ isUtf8 saved.longName.toList then saved.longName
      else device.longName
    shortName :=
      if saved.shortName.toList ≠ [] ∧ isUtf8 saved.shortName.toList then saved.shortName
      else device.shortName
    region := saved.region
    modemPreset := ModemPreset.fromProto env saved.modemPreset
    usePreset := saved.usePreset != 0
    customSf := saved.spreadFactor
    customBwHz := bwCodeToHz saved.bandwidthCode
    customCr := saved.codingRate
    channelNum := saved.channelNum.toUInt32
    hopLimit := saved.hopLimit
    txEnabled := saved.txEnabled != 0
    configOkToMqtt := saved.configOkToMqtt != 0
    role := (DeviceRole.tryFrom saved.role.toUInt32.toInt32).getD .client
    channels := saved.channels.toList.foldl applySavedChannel device.channels }

/-! ## Storage port -/

/-- The storage a board provides.  Writes may fail; a read of the message ring fails
with `none`. -/
class MeshStorage (S : Type) where
  saveConfig : S → SavedConfig → S
  loadConfig : S → Option SavedConfig
  eraseConfig : S → S
  saveBond : S → Bytes → S
  clearBond : S → S
  /-- Save the node database; the flag tells whether that succeeded. -/
  saveNodeDb : S → NodeDb → S × Bool
  loadNodeDb : S → NodeDb → NodeDb
  loadPkcKeypair : S → Option (Key × Key)
  savePkcKeypair : S → Key × Key → S
  /-- Buffer a frame. -/
  add : S → RadioFrame → S
  /-- The oldest buffered frame. -/
  peek : S → Option (Option RadioFrame)
  pop : S → S
  count : S → Nat
  /-- The storage after a restart: what an adapter keeps in memory is read anew. -/
  reopen : S → S

variable {S : Type} [MeshStorage S]

def saveState (env : Env) (storage : S) (device : DeviceState) : S :=
  MeshStorage.saveConfig storage (savedConfigFromDevice env device)

def loadState (env : Env) (storage : S) (device : DeviceState) : DeviceState :=
  match MeshStorage.loadConfig storage with
  | some saved => applySavedConfig env saved device
  | none => device

theorem loadState_counter (env : Env) (storage : S) (device : DeviceState) :
    (loadState env storage device).packetIdCounter = device.packetIdCounter := by
  unfold loadState
  split <;> rfl

theorem loadState_myNodeNum (env : Env) (storage : S) (device : DeviceState) :
    (loadState env storage device).myNodeNum = device.myNodeNum := by
  unfold loadState
  split <;> rfl

theorem loadState_mac (env : Env) (storage : S) (device : DeviceState) :
    (loadState env storage device).mac = device.mac := by
  unfold loadState
  split <;> rfl

/-- Storage kept in memory: a single configuration, bond and key pair, no node
database and an unbounded message buffer, as in the test harness. -/
structure FakeStorage where
  savedState : Option SavedConfig := none
  bond : Option Bytes := none
  pkcKeypair : Option (Key × Key) := none
  ring : List RadioFrame := []

instance : MeshStorage FakeStorage where
  saveConfig s config := { s with savedState := some config }
  loadConfig s := s.savedState
  eraseConfig s := { s with savedState := none }
  saveBond s bytes := { s with bond := some bytes }
  clearBond s := { s with bond := none }
  saveNodeDb s _ := (s, true)
  loadNodeDb _ db := db
  loadPkcKeypair s := s.pkcKeypair
  savePkcKeypair s keypair := { s with pkcKeypair := some keypair }
  add s frame := { s with ring := s.ring ++ [frame] }
  peek s := some s.ring.head?
  pop s := { s with ring := s.ring.tail }
  count s := s.ring.length
  reopen s := s

end Meshtastenstein
