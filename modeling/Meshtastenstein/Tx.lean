import Meshtastenstein.Crypto
import Meshtastenstein.Device
import Meshtastenstein.Router
/-!
# Outgoing frames

Every frame the node originates is built here: the payload is wrapped in `Data`,
encrypted under a channel key or for one node, and framed.
-/

namespace Meshtastenstein

open Proto

structure TxBuilder where
  dest : UInt32 := BROADCAST_ADDR
  portnum : Int32 := PortNum.unknownApp.toI32
  innerPayload : Bytes := []
  /-- `none` for the primary channel. -/
  channelIdx : Option UInt8 := none
  wantAck : Bool := false
  wantResponse : Bool := false
  requestId : UInt32 := 0
  replyId : UInt32 := 0
  emoji : UInt32 := 0
  /-- `none` for the configured default. -/
  hopLimit : Option UInt8 := none

namespace TxBuilder

/-- The `Data` wrapper of the payload; its bitfield is always present. -/
def data (tx : TxBuilder) (device : DeviceState) : Data where
  portnum := tx.portnum
  payload := tx.innerPayload
  wantResponse := tx.wantResponse
  requestId := tx.requestId
  replyId := tx.replyId
  emoji := tx.emoji
  bitfield := some
    ((device.configOkToMqtt.toUInt32 <<< BITFIELD_OK_TO_MQTT_SHIFT) |||
      (tx.wantResponse.toUInt32 <<< BITFIELD_WANT_RESPONSE_SHIFT))

/-- The channel the frame goes out on: the requested slot, else the primary. -/
def channel (tx : TxBuilder) (device : DeviceState) : Option ChannelConfig :=
  (tx.channelIdx.bind device.channels.get).or device.channels.primary

def channelHash (tx : TxBuilder) (device : DeviceState)
    (pkcKeys : Option (Key × UInt32)) : UInt8 :=
  if pkcKeys.isSome then 0
  else
    match tx.channel device with
    | some channel => channel.hash device.modemPreset.displayName
    | none => 0

variable (env : Env)

def channelEncrypt (channel : ChannelConfig) (packetId sender : UInt32)
    (plaintext : Bytes) : Option Bytes :=
  if channel.isEncrypted then
    cryptPacket env.crypto (copyPsk channel.effectivePsk) packetId sender plaintext
  else some plaintext

/-- Encrypt the encoded wrapper: under PKC when keys are given, else under the
channel when there is one. -/
def encrypt (tx : TxBuilder) (device : DeviceState) (db : NodeDb) (packetId : UInt32)
    (pkcKeys : Option (Key × UInt32)) (plaintext : Bytes) : Option Bytes :=
  match pkcKeys with
  | some (privBytes, extraNonce) =>
      match db.pubKeyOf tx.dest with
      | none => none
      | some destPubKey =>
          let mySecret := (keypairFromSeed env.crypto privBytes).1
          let sharedKey := deriveSharedKey env.crypto mySecret destPubKey
          encryptPkc env.crypto sharedKey packetId device.myNodeNum extraNonce plaintext
            (plaintext.length + PKC_OVERHEAD)
  | none =>
      match tx.channel device with
      | some channel => channelEncrypt env channel packetId device.myNodeNum plaintext
      | none => some plaintext

def header (tx : TxBuilder) (device : DeviceState) (router : MeshRouter) (db : NodeDb)
    (packetId : UInt32) (pkcKeys : Option (Key × UInt32)) : PacketHeader :=
  let isBroadcast := tx.dest == BROADCAST_ADDR
  let hopLimit := min (tx.hopLimit.getD device.hopLimit) MAX_HOP_LIMIT
  { destination := tx.dest
    sender := device.myNodeNum
    packetId := packetId
    flags := PacketHeader.makeFlags (tx.wantAck && !isBroadcast) false hopLimit hopLimit
    channelIndex := tx.channelHash device pkcKeys
    nextHop := if isBroadcast then NO_NEXT_HOP else router.getNextHop db tx.dest 0
    relayNode := lastByte device.myNodeNum }

/-- Build the frame, or fail when encryption fails or the frame is too long. -/
def build (tx : TxBuilder) (device : DeviceState) (router : MeshRouter) (db : NodeDb)
    (packetId : UInt32) (pkcKeys : Option (Key × UInt32)) : Option RadioFrame :=
  match encrypt env tx device db packetId pkcKeys
      (env.prost.data.encode (tx.data device)) with
  | none => none
  | some encBuf =>
      RadioFrame.fromParts (tx.header device router db packetId pkcKeys) encBuf

variable {env}

/-- A built frame carries the built header and the encryption of the wrapper. -/
theorem build_eq_some {tx : TxBuilder} {device : DeviceState} {router : MeshRouter}
    {db : NodeDb} {packetId : UInt32} {pkcKeys : Option (Key × UInt32)}
    {frame : RadioFrame}
    (h : tx.build env device router db packetId pkcKeys = some frame) :
    ∃ encBuf,
      tx.encrypt env device db packetId pkcKeys
        (env.prost.data.encode (tx.data device)) = some encBuf ∧
      frame.header = some (tx.header device router db packetId pkcKeys) ∧
      frame.payload = encBuf := by
  unfold build at h
  split at h
  · cases h
  · rename_i encBuf hencrypt
    exact ⟨encBuf, hencrypt, RadioFrame.header_of_fromParts h,
      RadioFrame.payload_of_fromParts h⟩

theorem build_eq_none_iff {tx : TxBuilder} {device : DeviceState} {router : MeshRouter}
    {db : NodeDb} {packetId : UInt32} {pkcKeys : Option (Key × UInt32)} :
    tx.build env device router db packetId pkcKeys = none ↔
      ∀ encBuf, tx.encrypt env device db packetId pkcKeys
        (env.prost.data.encode (tx.data device)) = some encBuf →
          MAX_LORA_PAYLOAD_LEN < HEADER_SIZE + encBuf.length := by
  unfold build
  constructor
  · intro h encBuf hencrypt
    rw [hencrypt] at h
    exact (RadioFrame.fromParts_eq_none_iff _ _).mp h
  · intro h
    split
    · rfl
    · rename_i encBuf hencrypt
      exact (RadioFrame.fromParts_eq_none_iff _ _).mpr (h encBuf hencrypt)

theorem exists_build {tx : TxBuilder} {device : DeviceState} {db : NodeDb}
    {packetId : UInt32} {pkcKeys : Option (Key × UInt32)} {encBuf : Bytes}
    (router : MeshRouter)
    (hencrypt : tx.encrypt env device db packetId pkcKeys
      (env.prost.data.encode (tx.data device)) = some encBuf)
    (hfits : HEADER_SIZE + encBuf.length ≤ MAX_LORA_PAYLOAD_LEN) :
    ∃ frame, tx.build env device router db packetId pkcKeys = some frame := by
  cases hbuild : tx.build env device router db packetId pkcKeys with
  | some frame => exact ⟨frame, rfl⟩
  | none =>
      have hlong := build_eq_none_iff.mp hbuild encBuf hencrypt
      omega

theorem length_of_build {tx : TxBuilder} {device : DeviceState} {router : MeshRouter}
    {db : NodeDb} {packetId : UInt32} {pkcKeys : Option (Key × UInt32)}
    {frame : RadioFrame}
    (h : tx.build env device router db packetId pkcKeys = some frame) :
    HEADER_SIZE + frame.payload.length ≤ MAX_LORA_PAYLOAD_LEN := by
  obtain ⟨encBuf, hencrypt, -, hpayload⟩ := build_eq_some h
  rw [hpayload]
  by_contra hlong
  have hnone : tx.build env device router db packetId pkcKeys = none := by
    apply build_eq_none_iff.mpr
    intro encBuf' hencrypt'
    rw [hencrypt] at hencrypt'
    cases hencrypt'
    omega
  rw [hnone] at h
  cases h

/-! ## Channel encryption -/

theorem channelEncrypt_congr {c c' : ChannelConfig} (h : c.effectivePsk = c'.effectivePsk)
    (packetId sender : UInt32) (plaintext : Bytes) :
    channelEncrypt env c packetId sender plaintext =
      channelEncrypt env c' packetId sender plaintext := by
  have hencrypted : c.isEncrypted = c'.isEncrypted := by
    rw [Bool.eq_iff_iff, ← not_iff_not, Bool.not_eq_true, Bool.not_eq_true,
      ← c.effectivePsk_eq_nil_iff, ← c'.effectivePsk_eq_nil_iff, h]
  unfold channelEncrypt
  rw [hencrypted, h]

theorem length_of_channelEncrypt {c : ChannelConfig} {packetId sender : UInt32}
    {plaintext out : Bytes}
    (h : channelEncrypt env c packetId sender plaintext = some out) :
    out.length = plaintext.length := by
  unfold channelEncrypt at h
  split at h
  · exact length_of_cryptPacket env.crypto h
  · cases h
    rfl

theorem channelEncrypt_channelEncrypt {c : ChannelConfig} {packetId sender : UInt32}
    {plaintext out : Bytes}
    (h : channelEncrypt env c packetId sender plaintext = some out) :
    channelEncrypt env c packetId sender out = some plaintext := by
  unfold channelEncrypt at h ⊢
  split
  · rename_i hencrypted
    rw [if_pos hencrypted] at h
    exact cryptPacket_cryptPacket env.crypto h
  · rename_i hencrypted
    rw [if_neg hencrypted] at h
    cases h
    rfl

/-- A channel fails to encrypt exactly when it has a key that AES does not take. -/
theorem channelEncrypt_eq_none_iff {c : ChannelConfig} {packetId sender : UInt32}
    {plaintext : Bytes} :
    channelEncrypt env c packetId sender plaintext = none ↔
      c.isEncrypted = true ∧ plaintext ≠ [] ∧ (copyPsk c.effectivePsk).length ≠ 16 ∧
        (copyPsk c.effectivePsk).length ≠ 32 := by
  unfold channelEncrypt cryptPacket
  cases c.isEncrypted with
  | false => simp
  | true =>
      by_cases hempty : plaintext = []
      · simp [hempty]
      · simp [hempty]

theorem exists_channelEncrypt {c : ChannelConfig}
    (h : c.effectivePsk.length = 0 ∨ c.effectivePsk.length = 16 ∨
      c.effectivePsk.length = 32) (packetId sender : UInt32) (plaintext : Bytes) :
    ∃ out, channelEncrypt env c packetId sender plaintext = some out := by
  unfold channelEncrypt
  split
  · rename_i hencrypted
    have hne : c.effectivePsk ≠ [] := by
      rw [Ne, c.effectivePsk_eq_nil_iff, hencrypted]
      simp
    have hlength : (copyPsk c.effectivePsk).length = 16 ∨
        (copyPsk c.effectivePsk).length = 32 := by
      rw [copyPsk, List.take_of_length_le c.length_effectivePsk_le]
      rcases h with h | h
      · exact absurd (List.eq_nil_of_length_eq_zero h) hne
      · exact h
    exact exists_cryptPacket env.crypto hlength packetId sender plaintext
  · exact ⟨plaintext, rfl⟩

theorem encrypt_of_channel {tx : TxBuilder} {device : DeviceState} {c : ChannelConfig}
    (h : tx.channel device = some c) (db : NodeDb) (packetId : UInt32)
    (plaintext : Bytes) :
    tx.encrypt env device db packetId none plaintext =
      channelEncrypt env c packetId device.myNodeNum plaintext := by
  unfold encrypt
  rw [h]

theorem encrypt_of_no_channel {tx : TxBuilder} {device : DeviceState}
    (h : tx.channel device = none) (db : NodeDb) (packetId : UInt32)
    (plaintext : Bytes) :
    tx.encrypt env device db packetId none plaintext = some plaintext := by
  unfold encrypt
  rw [h]

end TxBuilder

end Meshtastenstein
