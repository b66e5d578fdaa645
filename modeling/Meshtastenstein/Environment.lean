import Meshtastenstein.Constants
import Meshtastenstein.RadioConfig
/-!
# Code outside the repository

The generated protobuf codecs, the cryptographic crates and the floating-point
helpers are parameters of the model.  What a result relies on is stated as a
hypothesis on these parameters where it is used.
-/

namespace Meshtastenstein

open Proto

structure Codec (α : Type) where
  encode : α → Bytes
  decode : Bytes → Option α

def Codec.RoundTrips {α : Type} (codec : Codec α) (message : α) : Prop :=
  codec.decode (codec.encode message) = some message

structure EnumCode (α : Type) where
  toI32 : α → Int32
  tryFrom : Int32 → Option α

structure Prost where
  data : Codec Data
  routing : Codec Routing
  user : Codec User
  position : Codec Position
  telemetry : Codec Telemetry
  neighborInfo : Codec NeighborInfo
  routeDiscovery : Codec RouteDiscovery
  adminMessage : Codec AdminMessage
  toRadio : Codec ToRadio
  fromRadio : Codec FromRadio
  region : EnumCode Region
  modemPreset : EnumCode ModemPreset
  configType : EnumCode AdminMessage.ConfigType
  moduleConfigType : EnumCode AdminMessage.ModuleConfigType
  /-- Whether a number is a known `HardwareModel`. -/
  isHardwareModel : Int32 → Bool

abbrev Key := { bytes : Bytes // bytes.length = 32 }

def Key.zero : Key := ⟨List.replicate 32 0, rfl⟩

/-- Some byte of the key is not zero. -/
def Key.isSet (key : Key) : Bool := key.val.any (· != 0)

def Key.ofBytes? (bytes : Bytes) : Option Key :=
  if h : bytes.length = 32 then some ⟨bytes, h⟩ else none

structure Crypto where
  /-- Byte `i` of the AES-CTR keystream for a 16- or 32-byte key and a nonce. -/
  aesCtr : (key nonce : Bytes) → Nat → UInt8
  /-- Byte `i` of the AES-256-CCM keystream for a key and a 13-byte nonce. -/
  ccmKeystream : Key → (nonce : Bytes) → Nat → UInt8
  /-- The 8-byte AES-256-CCM tag of a plaintext. -/
  ccmTag : Key → (nonce plaintext : Bytes) → { tag : Bytes // tag.length = 8 }
  /-- X25519 of a secret and a public key. -/
  diffieHellman : (secret publicKey : Key) → Key
  /-- The public key of a secret. -/
  publicKey : (secret : Key) → Key
  sha256 : Bytes → Key

/-- Everything the firmware links against. -/
structure Env where
  prost : Prost
  crypto : Crypto
  /-- The contention-window delay of `rebroadcast_delay_ms`, from the SNR, the
  role, the spreading factor, the bandwidth and a random number. -/
  rebroadcastDelayMs : Int8 → DeviceRole → UInt8 → UInt32 → UInt32 → Nat
  /-- A broadcast interval stretched for a number of online nodes. -/
  congestedIntervalMs : (baseMs onlineCount : Nat) → Nat
  /-- Millivolts in volts. -/
  volts : UInt16 → ℚ

end Meshtastenstein
