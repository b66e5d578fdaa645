import Meshtastenstein.Crypto
import Meshtastenstein.Wire
/-!
# A concrete environment

The message encodings together with primitives that answer from recorded vectors.
A run whose every cryptographic question is recorded evaluates as on the device.
-/

namespace Meshtastenstein

open Proto

/-- Recorded inputs and outputs of the primitives. -/
structure KnownAnswers where
  /-- Key, nonce and the start of the keystream. -/
  aesCtr : List (Bytes × Bytes × Bytes) := []
  ccmKeystream : List (Key × Bytes × Bytes) := []
  /-- Key, nonce, plaintext and tag. -/
  ccmTag : List (Key × Bytes × Bytes × { tag : Bytes // tag.length = 8 }) := []
  diffieHellman : List (Key × Key × Key) := []
  publicKey : List (Key × Key) := []
  sha256 : List (Bytes × Key) := []

namespace KnownAnswers

/-- The MAC address of the node in the recorded runs; its number is `0x28123456`. -/
def mac : Bytes := [0x24, 0x6f, 0x28, 0x12, 0x34, 0x56]

/-- A key pair for runs in which no key is used. -/
def noKeypair : Key × Key := (Key.zero, Key.zero)

/-- Entropy for runs in which none is drawn. -/
def noEntropy : Nat → UInt32 := fun _ => 0

def zeroTag : { tag : Bytes // tag.length = 8 } := ⟨List.replicate 8 0, rfl⟩

/-- The primitives on the recorded inputs; zero elsewhere. -/
def crypto (answers : KnownAnswers) : Crypto where
  aesCtr key nonce i :=
    match answers.aesCtr.find? fun r => r.1 == key && r.2.1 == nonce with
    | some r => r.2.2.getD i 0
    | none => 0
  ccmKeystream key nonce i :=
    match answers.ccmKeystream.find? fun r => r.1 == key && r.2.1 == nonce with
    | some r => r.2.2.getD i 0
    | none => 0
  ccmTag key nonce plaintext :=
    match answers.ccmTag.find? fun r =>
        r.1 == key && r.2.1 == nonce && r.2.2.1 == plaintext with
    | some r => r.2.2.2
    | none => zeroTag
  diffieHellman secret publicKey :=
    match answers.diffieHellman.find? fun r => r.1 == secret && r.2.1 == publicKey with
    | some r => r.2.2
    | none => Key.zero
  publicKey secret :=
    match answers.publicKey.find? fun r => r.1 == secret with
    | some r => r.2
    | none => Key.zero
  sha256 bytes :=
    match answers.sha256.find? fun r => r.1 == bytes with
    | some r => r.2
    | none => Key.zero

/-- A message type no recorded run reads or writes. -/
def noCodec {α : Type} : Codec α where
  encode _ := []
  decode _ := none

def noCode {α : Type} : EnumCode α where
  toI32 _ := 0
  tryFrom _ := none

def prost : Prost where
  data := Wire.dataCodec
  routing := Wire.routingCodec
  user := Wire.userCodec
  position := { encode := Position.encoding, decode := fun bytes => some { encoding := bytes } }
  telemetry := noCodec
  neighborInfo := noCodec
  routeDiscovery := noCodec
  adminMessage := noCodec
  toRadio := { encode := fun _ => [], decode := Wire.decodeToRadio }
  fromRadio := noCodec
  region := Wire.regionCode
  modemPreset := Wire.modemPresetCode
  configType := noCode
  moduleConfigType := noCode
  isHardwareModel _ := true

def env (answers : KnownAnswers) : Env where
  prost := prost
  crypto := answers.crypto
  rebroadcastDelayMs _ _ _ _ _ := 0
  congestedIntervalMs baseMs _ := baseMs
  volts mv := (mv.toNat : ℚ) / 1000

/-- The environment of the runs with administration. -/
def adminEnv (answers : KnownAnswers) : Env :=
  { answers.env with prost := { prost with adminMessage := Wire.adminCodec } }

/-- The keystreams of the frames in the recorded runs, all under the default key. -/
def defaultKey : KnownAnswers where
  aesCtr :=
    [(DEFAULT_PSK, buildNonce 7 0x28123456,
      [0xbd, 0x67, 0xe0, 0x82, 0x7e, 0x87, 0x1a, 0xa9, 0xb6, 0x16, 0xf1, 0x61, 0x9c, 0x0d, 0x0c,
       0xcb]),
    (DEFAULT_PSK, buildNonce 0x28123457 0x28123456,
      [0xc5, 0x5b, 0xd5, 0x73, 0x89, 0x6d, 0x5a, 0x67, 0xf7, 0xda, 0x0a, 0x7d, 0xd4, 0x92, 0x53,
       0x0c, 0x7c, 0x7b, 0x4c, 0xee, 0x04, 0x5c, 0xdd, 0x31, 0xf2, 0x22, 0x50, 0x5d, 0x05, 0x75,
       0x65, 0xb1, 0xed, 0x9d, 0xcc, 0xc5, 0xa0, 0x2e, 0x94, 0x4c, 0x8a, 0x44, 0x4c, 0xc8, 0xfd,
       0x62, 0xec, 0x51, 0x78, 0x87, 0x1b, 0x3d, 0x2a, 0xf1, 0x1b, 0x67, 0x4a, 0xe1, 0x24, 0x18,
       0x90, 0x91, 0xa7, 0x2e]),
    (DEFAULT_PSK, buildNonce 0x28123458 0x28123456,
      [0x86, 0xdf, 0x12, 0xfc, 0xfd, 0x27, 0x64, 0x19, 0x79, 0x36, 0x90, 0x7a, 0x87, 0x80, 0xba,
       0x35]),
    (DEFAULT_PSK, buildNonce 9 0x11223344,
      [0x6e, 0x06, 0x2e, 0x1e, 0xd8, 0x03, 0x06, 0x14, 0xf3, 0xfb, 0x9b, 0x12, 0xaf, 0xe0, 0xf0,
       0x06])]

end KnownAnswers

end Meshtastenstein
