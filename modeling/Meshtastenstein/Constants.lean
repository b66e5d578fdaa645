import Meshtastenstein.Proto
/-!
# Constants

The numeric limits of the firmware, under the names of the source.
-/

namespace Meshtastenstein

def MAX_LORA_PAYLOAD_LEN : Nat := 255

/-- The well-known key a single-byte PSK of `0x01` stands for. -/
def DEFAULT_PSK : Bytes :=
  [0xd4, 0xf1, 0xbb, 0x3a, 0x20, 0x29, 0x07, 0x59, 0xf0, 0xbc, 0xff, 0xab, 0xcf, 0x4e,
    0x69, 0x01]

def DEFAULT_HOP_LIMIT : UInt8 := 3

def MAX_HOP_LIMIT : UInt8 := 7

def FIRMWARE_VERSION : Text := utf8 "2.8.0.0"

def DEVICE_STATE_VERSION : UInt32 := 25

def MIN_APP_VERSION : UInt32 := 30200

def SPECIAL_NONCE_ONLY_NODES : UInt32 := 69421

def BITFIELD_OK_TO_MQTT_SHIFT : UInt32 := 0

def BITFIELD_WANT_RESPONSE_SHIFT : UInt32 := 1

def LORA_TX_POWER_DBM : Int32 := 22

def NODEINFO_BROADCAST_INTERVAL_MS : Nat := 10800000

def NODEINFO_MIN_INTERVAL_MS : Nat := 300000

def WANT_ACK_TIMEOUT_MS : Nat := 5000

def POSITION_BROADCAST_INTERVAL_MS : Nat := 900000

def TELEMETRY_LORA_INTERVAL_MS : Nat := 3600000

def ROUTER_BROADCAST_INTERVAL_MS : Nat := 43200000

def NEIGHBORINFO_BROADCAST_INTERVAL_MS : Nat := 21600000

def CHANNEL_UTIL_THRESHOLD : ℚ := 25

def POLITE_CHANNEL_UTIL_PCT : ℚ := 25

def MAX_CHANNEL_UTIL_PCT : ℚ := 40

def POLITE_DUTY_CYCLE_FRACTION : ℚ := 1 / 2

def DUPLICATE_RING_SIZE : Nat := 200

def OPAQUE_SEEN_RING_SIZE : Nat := 32

def MAX_NODES : Nat := 96

def MAX_CHANNELS : Nat := 8

/-- The channel number the phone sends to ask for PKC. -/
def PKC_CHANNEL_INDEX : UInt8 := 8

def CONFIG_EXCHANGE_MAX_NODES : Nat := 10

def MAX_BUFFERED_MESSAGES : Nat := 10

def LORA_TX_QUEUE_SIZE : Nat := 5

def BLE_TX_QUEUE_SIZE : Nat := 64

def MESH_IN_QUEUE_SIZE : Nat := 16

def CAD_MAX_RETRIES : Nat := 5

def CAD_BACKOFF_BASE_MS : Nat := 50

def CAD_BACKOFF_JITTER_MS : Nat := 100

def INACTIVITY_TIMEOUT_MS : Nat := 300000

def LOW_BATTERY_THRESHOLD : UInt8 := 5

def NUM_RELIABLE_RETX : UInt8 := 3

def NO_NEXT_HOP : UInt8 := 0

def RETX_AIRTIME_EXTENSION_MS : Nat := 100

def MAX_RELAYERS_TRACKED : Nat := 6

def BROADCAST_ADDR : UInt32 := 0xFFFFFFFF

/-- The low byte of a node number, as relay fields carry it. -/
def lastByte (nodeNum : UInt32) : UInt8 :=
  (nodeNum &&& 0xFF).toUInt8

end Meshtastenstein
