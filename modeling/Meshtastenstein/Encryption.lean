import Meshtastenstein.KnownAnswers
import Meshtastenstein.MeshTask
/-!
# Encryption of outgoing frames

When a built frame is encrypted, and that the receiving side of the firmware opens
what the sending side built.
-/

namespace Meshtastenstein

open Lib Proto Handlers

variable {S : Type} [MeshStorage S] (env : Env)

/-! ## Plaintext frames -/

/-- The frame carries the wrapper encrypted under the non-empty key of the channel it
goes out on. -/
def TxBuilder.Sealed (tx : TxBuilder) (device : DeviceState) (packetId : UInt32)
    (frame : RadioFrame) : Prop :=
  ∃ channel, tx.channel device = some channel ∧ channel.effectivePsk ≠ [] ∧
    cryptPacket env.crypto (copyPsk channel.effectivePsk) packetId device.myNodeNum
      (env.prost.data.encode (tx.data device)) = some frame.payload

/-- The frame goes out on a configured, enabled channel whose key is empty. -/
def TxBuilder.OpenByChoice (tx : TxBuilder) (device : DeviceState) : Prop :=
  ∃ channel, tx.channel device = some channel ∧ channel.isEnabled = true ∧
    channel.psk.toList = []

/-- No frame of this build goes out in plaintext by accident. -/
def TxBuilder.NoAccidentalPlaintext (tx : TxBuilder) (device : DeviceState)
    (router : MeshRouter) (db : NodeDb) (packetId : UInt32) : Prop :=
  ∀ frame, tx.build env device router db packetId none = some frame →
    tx.Sealed env device packetId frame ∨ tx.OpenByChoice device

/-- The wrapper alone is too long for a frame. -/
def TxBuilder.TooLong (tx : TxBuilder) (device : DeviceState) : Prop :=
  MAX_LORA_PAYLOAD_LEN < HEADER_SIZE + (env.prost.data.encode (tx.data device)).length

/-- The requested slot, or else the primary channel, exists and has a key or is
enabled. -/
def TxBuilder.HasUsableChannel (tx : TxBuilder) (device : DeviceState) : Prop :=
  ∃ channel, (tx.channelIdx.bind device.channels.get).or device.channels.primary =
      some channel ∧
    (channel.isEncrypted = true ∨ channel.isEnabled = true)

variable {env} in
theorem TxBuilder.exists_build_of_open {tx : TxBuilder} {device : DeviceState}
    (hopen : ∀ channel, tx.channel device = some channel → channel.isEncrypted = false)
    (router : MeshRouter) (db : NodeDb) (packetId : UInt32)
    (hfits : ¬ tx.TooLong env device) :
    ∃ frame, tx.build env device router db packetId none = some frame := by
  have hencrypt : tx.encrypt env device db packetId none
      (env.prost.data.encode (tx.data device)) =
      some (env.prost.data.encode (tx.data device)) := by
    cases hchannel : tx.channel device with
    | none => exact encrypt_of_no_channel hchannel db packetId _
    | some channel =>
        rw [encrypt_of_channel hchannel, channelEncrypt, hopen channel hchannel]
        rfl
  exact exists_build router hencrypt (Nat.le_of_not_lt hfits)

variable {env} in
theorem TxBuilder.build_eq_none_of_tooLong {tx : TxBuilder} {device : DeviceState}
    (h : tx.TooLong env device) (router : MeshRouter) (db : NodeDb) (packetId : UInt32) :
    tx.build env device router db packetId none = none := by
  apply build_eq_none_iff.mpr
  intro encBuf hencrypt
  cases hchannel : tx.channel device with
  | none =>
      rw [encrypt_of_no_channel hchannel] at hencrypt
      cases hencrypt
      exact h
  | some channel =>
      rw [encrypt_of_channel hchannel] at hencrypt
      rw [length_of_channelEncrypt hencrypt]
      exact h

def TxBuilder.UnusableKey (tx : TxBuilder) (device : DeviceState) : Prop :=
  ∃ channel, (tx.channelIdx.bind device.channels.get).or device.channels.primary =
      some channel ∧
    channel.isEncrypted = true ∧ env.prost.data.encode (tx.data device) ≠ [] ∧
    (copyPsk channel.effectivePsk).length ≠ 16 ∧ (copyPsk channel.effectivePsk).length ≠ 32

variable {env} in
/-- Without PKC keys, a frame is missing when the wrapper is too long or the channel's
key is unusable. -/
theorem TxBuilder.build_psk_eq_none_iff {tx : TxBuilder} {device : DeviceState}
    {router : MeshRouter} {db : NodeDb} {packetId : UInt32} :
    tx.build env device router db packetId none = none ↔
      tx.TooLong env device ∨ tx.UnusableKey env device := by
  constructor
  · intro hnone
    by_contra hnot
    obtain ⟨hfits, husable⟩ := not_or.mp hnot
    have hencrypt : ∃ encBuf, tx.encrypt env device db packetId none
        (env.prost.data.encode (tx.data device)) = some encBuf ∧
        encBuf.length = (env.prost.data.encode (tx.data device)).length := by
      cases hchannel : tx.channel device with
      | none => exact ⟨_, encrypt_of_no_channel hchannel db packetId _, rfl⟩
      | some channel =>
          cases hout : channelEncrypt env channel packetId device.myNodeNum
              (env.prost.data.encode (tx.data device)) with
          | some out =>
              exact ⟨out, (encrypt_of_channel hchannel db packetId _).trans hout,
                length_of_channelEncrypt hout⟩
          | none =>
              rw [channelEncrypt_eq_none_iff] at hout
              exact absurd ⟨channel, hchannel, hout⟩ husable
    obtain ⟨encBuf, hencBuf, hlength⟩ := hencrypt
    have hlong := build_eq_none_iff.mp hnone encBuf hencBuf
    rw [hlength] at hlong
    exact hfits hlong
  · rintro (hlong | ⟨channel, hchannel, hkey⟩)
    · exact build_eq_none_of_tooLong hlong router db packetId
    · apply build_eq_none_iff.mpr
      intro encBuf hencrypt
      rw [encrypt_of_channel hchannel, channelEncrypt_eq_none_iff.mpr hkey] at hencrypt
      cases hencrypt

variable {env} in
/-- Under PKC with a known key, only the size can keep a frame from being built. -/
theorem TxBuilder.build_pkc_eq_none_iff {tx : TxBuilder} {device : DeviceState}
    {router : MeshRouter} {db : NodeDb} {packetId extraNonce : UInt32}
    {privBytes destPubKey : Key} (hkey : db.pubKeyOf tx.dest = some destPubKey) :
    tx.build env device router db packetId (some (privBytes, extraNonce)) = none ↔
      MAX_LORA_PAYLOAD_LEN < HEADER_SIZE +
        (env.prost.data.encode (tx.data device)).length + PKC_OVERHEAD := by
  have hencrypt : tx.encrypt env device db packetId (some (privBytes, extraNonce))
      (env.prost.data.encode (tx.data device)) =
      encryptPkc env.crypto (deriveSharedKey env.crypto privBytes destPubKey) packetId
        device.myNodeNum extraNonce (env.prost.data.encode (tx.data device))
        ((env.prost.data.encode (tx.data device)).length + PKC_OVERHEAD) := by
    unfold encrypt
    rw [hkey]
    rfl
  constructor
  · intro hnone
    by_contra hfits
    have hoverhead : PKC_OVERHEAD = 12 := rfl
    have hheader : HEADER_SIZE = 16 := rfl
    have hmax : MAX_LORA_PAYLOAD_LEN = 255 := rfl
    have hccm : CCM_MAX_LEN = 65535 := rfl
    obtain ⟨wire, hwire⟩ := exists_encryptPkc env.crypto
      (deriveSharedKey env.crypto privBytes destPubKey) packetId device.myNodeNum
      extraNonce (env.prost.data.encode (tx.data device)) (by omega)
    have hlong := build_eq_none_iff.mp hnone wire (hencrypt.trans hwire)
    rw [length_of_encryptPkc env.crypto hwire] at hlong
    omega
  · intro hlong
    apply build_eq_none_iff.mpr
    intro encBuf hencBuf
    rw [hencrypt] at hencBuf
    rw [length_of_encryptPkc env.crypto hencBuf]
    omega

theorem TxBuilder.noAccidentalPlaintext_iff (tx : TxBuilder) (device : DeviceState)
    (router : MeshRouter) (db : NodeDb) (packetId : UInt32) :
    tx.NoAccidentalPlaintext env device router db packetId ↔
      tx.HasUsableChannel device ∨ tx.TooLong env device := by
  constructor
  · intro hsafe
    by_contra hnot
    obtain ⟨hunusable, hfits⟩ := not_or.mp hnot
    have hopen : ∀ channel, tx.channel device = some channel →
        channel.isEncrypted = false := by
      intro channel hchannel
      by_contra hencrypted
      exact hunusable ⟨channel, hchannel, Or.inl (by simpa using hencrypted)⟩
    obtain ⟨frame, hbuild⟩ := exists_build_of_open hopen router db packetId hfits
    rcases hsafe frame hbuild with ⟨channel, hchannel, hkey, -⟩ | ⟨channel, hchannel, hon, -⟩
    · exact hkey (channel.effectivePsk_eq_nil_iff.mpr (hopen channel hchannel))
    · exact hunusable ⟨channel, hchannel, Or.inr hon⟩
  · rintro (⟨channel, hchannel, husable⟩ | hlong) frame hbuild
    · obtain ⟨encBuf, hencrypt, -, hpayload⟩ := build_eq_some hbuild
      rw [encrypt_of_channel hchannel, ← hpayload, channelEncrypt] at hencrypt
      cases hencrypted : channel.isEncrypted with
      | true =>
          rw [hencrypted, if_pos rfl] at hencrypt
          refine Or.inl ⟨channel, hchannel, ?_, hencrypt⟩
          rw [Ne, channel.effectivePsk_eq_nil_iff, hencrypted]
          simp
      | false =>
          have hon : channel.isEnabled = true := by simpa [hencrypted] using husable
          exact Or.inr ⟨channel, hchannel, hon, by
            simpa [ChannelConfig.isEncrypted] using hencrypted⟩
    · rw [build_eq_none_of_tooLong hlong router db packetId] at hbuild
      cases hbuild

/-! ### Configuration runs -/

/-- What rewrites the channel table: the two admin commands, and a reboot. -/
inductive ConfigCommand
  | setChannel (channel : Channel)
  | setConfig (config : Config)
  | reboot

def configure (state : MeshState S) : ConfigCommand → MeshState S
  | .setChannel channel => state.withCtx (Admin.setChannel env state.ctx channel)
  | .setConfig config => state.withCtx (Admin.setConfig env state.ctx config)
  | .reboot => MeshState.reboot env state

def configuredDevice (mac : Bytes) (storage : S) (pkcKeypair : Key × Key)
    (entropy : Nat → UInt32) (commands : List ConfigCommand) : DeviceState :=
  (Transition.run (configure env) (MeshState.boot env mac storage pkcKeypair entropy)
    commands).ctx.device

/-- On a device configured in any way, no frame goes out in plaintext by accident
exactly when the frame's channel is usable or there is no frame. -/
theorem noAccidentalPlaintext_configuredDevice (mac : Bytes) (storage : S)
    (pkcKeypair : Key × Key) (entropy : Nat → UInt32) (commands : List ConfigCommand)
    (tx : TxBuilder) (router : MeshRouter) (db : NodeDb) (packetId : UInt32) :
    let device := configuredDevice env mac storage pkcKeypair entropy commands
    tx.NoAccidentalPlaintext env device router db packetId ↔
      tx.HasUsableChannel device ∨ tx.TooLong env device :=
  tx.noAccidentalPlaintext_iff env _ router db packetId

/-- Disabling the only channel leaves a broadcast in plaintext. -/
theorem accidental_plaintext_after_disable :
    ¬ TxBuilder.NoAccidentalPlaintext (KnownAnswers.env {})
      { portnum := PortNum.textMessageApp.toI32, innerPayload := utf8 "hi" }
      (configuredDevice (KnownAnswers.env {}) KnownAnswers.mac ({} : FakeStorage)
        KnownAnswers.noKeypair KnownAnswers.noEntropy
        [.setChannel { index := 0, settings := some { psk := [1] }, role := 0 }])
      (MeshRouter.new 0x28123456) (NodeDb.new 0x28123456) 1 := by
  rw [TxBuilder.noAccidentalPlaintext_iff]
  rintro (⟨channel, hchannel, -⟩ | hlong)
  · have hnone : (configuredDevice (KnownAnswers.env {}) KnownAnswers.mac
        ({} : FakeStorage) KnownAnswers.noKeypair KnownAnswers.noEntropy
        [.setChannel { index := 0, settings := some { psk := [1] }, role := 0 }]).channels.primary
        = none := by decide
    simp [hnone] at hchannel
  · exact absurd hlong (by unfold TxBuilder.TooLong; decide)

/-! ## Round trips -/

def TxBuilder.decrypt (tx : TxBuilder) (device : DeviceState) (db : NodeDb)
    (packetId : UInt32) (pkcKeys : Option (Key × UInt32)) (wire : Bytes) : Option Bytes :=
  match pkcKeys with
  | some (privBytes, _) =>
      (db.pubKeyOf tx.dest).bind fun destPubKey =>
        decryptPkc env.crypto
          (deriveSharedKey env.crypto (keypairFromSeed env.crypto privBytes).1 destPubKey)
          packetId device.myNodeNum wire wire.length
  | none =>
      match tx.channel device with
      | some channel => channelEncrypt env channel packetId device.myNodeNum wire
      | none => some wire

variable {env} in
theorem TxBuilder.decrypt_of_encrypt {tx : TxBuilder} {device : DeviceState} {db : NodeDb}
    {packetId : UInt32} {pkcKeys : Option (Key × UInt32)} {plaintext wire : Bytes}
    (h : tx.encrypt env device db packetId pkcKeys plaintext = some wire) :
    tx.decrypt env device db packetId pkcKeys wire = some plaintext := by
  cases pkcKeys with
  | none =>
      cases hchannel : tx.channel device with
      | none =>
          rw [encrypt_of_no_channel hchannel] at h
          unfold decrypt
          rw [hchannel]
          exact h.symm
      | some channel =>
          rw [encrypt_of_channel hchannel] at h
          unfold decrypt
          rw [hchannel]
          exact channelEncrypt_channelEncrypt h
  | some keys =>
      obtain ⟨privBytes, extraNonce⟩ := keys
      cases hkey : db.pubKeyOf tx.dest with
      | none =>
          unfold encrypt at h
          rw [hkey] at h
          cases h
      | some destPubKey =>
          unfold encrypt at h
          rw [hkey] at h
          have hlength := length_of_encryptPkc env.crypto h
          unfold decrypt
          rw [hkey]
          exact decryptPkc_encryptPkc env.crypto h (by omega)

open FromRadio in
theorem pskPlaintext_eq_channelEncrypt {frame : RadioFrame} {header : PacketHeader}
    {device : DeviceState} {channel : ChannelConfig}
    (h : matchedChannel device header = some channel) :
    pskPlaintext env frame header device =
      TxBuilder.channelEncrypt env channel header.packetId header.sender frame.payload := by
  unfold pskPlaintext TxBuilder.channelEncrypt
  rw [h]
  dsimp only
  cases hencrypted : channel.isEncrypted with
  | false => rfl
  | true =>
      cases hempty : frame.payload.isEmpty with
      | false => rfl
      | true =>
          rw [Bool.not_true, Bool.and_false, if_neg (by simp), if_pos rfl, cryptPacket,
            if_pos hempty]

section RoundTrip

open FromRadio

variable (tx : TxBuilder) (devA devB : DeviceState) (routerA : MeshRouter)
  (dbA dbB : NodeDb) (privA privB : Key) (packetId extraNonce : UInt32)

/-- The sender's key for its channel is empty or of a supported length, and the
receiver's first enabled channel with that hash has the same key. -/
structure PskLink (channelA channelB : ChannelConfig) : Prop where
  sends : tx.channel devA = some channelA
  keyLength : channelA.effectivePsk.length = 0 ∨ channelA.effectivePsk.length = 16 ∨
    channelA.effectivePsk.length = 32
  receives : devB.channels.findByHash (channelA.hash devA.modemPreset.displayName)
    devB.modemPreset.displayName = some channelB
  sameKey : channelB.effectivePsk = channelA.effectivePsk
  /-- Where the frame looks like a direct message, CCM rejects it: it is no CCM
  encryption under the key shared with the sender. -/
  ccmRejects : channelA.hash devA.modemPreset.displayName = 0 → tx.dest = devB.myNodeNum →
    ∀ peerPubKey, dbB.pubKeyOf devA.myNodeNum = some peerPubKey →
    ∀ wire, TxBuilder.channelEncrypt env channelA packetId devA.myNodeNum
      (env.prost.data.encode (tx.data devA)) = some wire →
    ∀ nonce plaintext, encryptPkc env.crypto
      (deriveSharedKey env.crypto (keypairFromSeed env.crypto privB).1 peerPubKey)
      packetId devA.myNodeNum nonce plaintext (plaintext.length + PKC_OVERHEAD) ≠ some wire

/-- Sender and receiver hold each other's public key, and the receiver is the
destination. -/
structure PkcLink : Prop where
  dest : tx.dest = devB.myNodeNum
  knowsReceiver : dbA.pubKeyOf tx.dest = some (keypairFromSeed env.crypto privB).2
  knowsSender : dbB.pubKeyOf devA.myNodeNum = some (keypairFromSeed env.crypto privA).2
  isSet : privB.isSet = true
  /-- X25519 is symmetric. -/
  symmetric : env.crypto.diffieHellman privA (env.crypto.publicKey privB) =
    env.crypto.diffieHellman privB (env.crypto.publicKey privA)

/-- What the receiver makes of the wrapper under a channel of index `channelIndex`. -/
def decodedTx (channelIndex : UInt8) : DecryptOutcome :=
  .decoded
    { portnum := tx.portnum
      wantResponse := tx.wantResponse
      requestId := tx.requestId
      replyId := tx.replyId
      emoji := tx.emoji
      payload := tx.innerPayload
      channelIndex := channelIndex }

variable {env tx devA devB routerA dbA dbB privA privB packetId extraNonce}
variable {channelA channelB : ChannelConfig}

theorem PskLink.encrypt_eq
    (link : PskLink env tx devA devB dbB privB packetId channelA channelB) :
    tx.encrypt env devA dbA packetId none (env.prost.data.encode (tx.data devA)) =
      TxBuilder.channelEncrypt env channelA packetId devA.myNodeNum
        (env.prost.data.encode (tx.data devA)) :=
  TxBuilder.encrypt_of_channel link.sends dbA packetId _

theorem PskLink.channelIndex_eq
    (link : PskLink env tx devA devB dbB privB packetId channelA channelB) :
    (tx.header devA routerA dbA packetId none).channelIndex =
      channelA.hash devA.modemPreset.displayName := by
  unfold TxBuilder.header TxBuilder.channelHash
  rw [link.sends]
  rfl

theorem PskLink.pkcPlaintext_eq_none
    (link : PskLink env tx devA devB dbB privB packetId channelA channelB)
    {frame : RadioFrame}
    (hencrypt : TxBuilder.channelEncrypt env channelA packetId devA.myNodeNum
      (env.prost.data.encode (tx.data devA)) = some frame.payload) :
    pkcPlaintext env frame (tx.header devA routerA dbA packetId none) devB dbB privB =
      none := by
  unfold pkcPlaintext
  cases hkey : senderPubKey frame (tx.header devA routerA dbA packetId none) devB dbB
      privB with
  | none => rfl
  | some peerPubKey =>
      unfold senderPubKey at hkey
      split at hkey
      · rename_i hcandidate
        simp only [isPkcCandidate, Bool.and_eq_true, beq_iff_eq] at hcandidate
        obtain ⟨⟨⟨hhash, hdest⟩, -⟩, -⟩ := hcandidate
        rw [link.channelIndex_eq] at hhash
        dsimp only
        split
        · rfl
        · exact decryptPkc_eq_none env.crypto
            (link.ccmRejects hhash hdest peerPubKey hkey _ hencrypt) _
      · cases hkey

theorem PskLink.tryDecryptAndDecode_eq
    (link : PskLink env tx devA devB dbB privB packetId channelA channelB)
    (hround : env.prost.data.RoundTrips (tx.data devA)) {frame : RadioFrame}
    (hbuild : tx.build env devA routerA dbA packetId none = some frame) :
    tryDecryptAndDecode env frame (tx.header devA routerA dbA packetId none) devB dbB
        privB =
      if tx.portnum = PortNum.textMessageApp.toI32 ∧ tx.dest = devB.myNodeNum then .drop
      else decodedTx tx channelB.index := by
  obtain ⟨encBuf, hencrypt, -, hpayload⟩ := TxBuilder.build_eq_some hbuild
  rw [link.encrypt_eq, ← hpayload] at hencrypt
  have hmatched : matchedChannel devB (tx.header devA routerA dbA packetId none) =
      some channelB := by
    unfold matchedChannel
    rw [link.channelIndex_eq]
    exact link.receives
  have hplain : pskPlaintext env frame (tx.header devA routerA dbA packetId none) devB =
      some (env.prost.data.encode (tx.data devA)) := by
    rw [pskPlaintext_eq_channelEncrypt env hmatched,
      TxBuilder.channelEncrypt_congr link.sameKey]
    exact TxBuilder.channelEncrypt_channelEncrypt hencrypt
  have hlegacy : isLegacyDm (tx.header devA routerA dbA packetId none) devB
      (tx.data devA) false = true ↔
      tx.portnum = PortNum.textMessageApp.toI32 ∧ tx.dest = devB.myNodeNum := by
    simp [isLegacyDm, TxBuilder.data, TxBuilder.header]
  unfold tryDecryptAndDecode
  rw [link.pkcPlaintext_eq_none hencrypt, hplain, hmatched]
  dsimp only [Option.or, Option.isSome]
  rw [hround]
  dsimp only
  simp only [hlegacy]
  rfl

/-- With a usable key, only the size can keep a channel frame from being built. -/
theorem PskLink.build_eq_none_iff
    (link : PskLink env tx devA devB dbB privB packetId channelA channelB) :
    tx.build env devA routerA dbA packetId none = none ↔
      MAX_LORA_PAYLOAD_LEN <
        HEADER_SIZE + (env.prost.data.encode (tx.data devA)).length := by
  rw [TxBuilder.build_psk_eq_none_iff]
  refine or_iff_left ?_
  rintro ⟨channel, hchannel, hencrypted, -, hlength⟩
  have hsame : channel = channelA := Option.some.inj (hchannel.symm.trans link.sends)
  subst hsame
  obtain ⟨out, hout⟩ := @TxBuilder.exists_channelEncrypt env _ link.keyLength packetId
    devA.myNodeNum [0]
  rw [TxBuilder.channelEncrypt, if_pos hencrypted, cryptPacket, if_neg (by simp),
    if_neg (by omega)] at hout
  cases hout

theorem PkcLink.encrypt_eq (link : PkcLink env tx devA devB dbA dbB privA privB) :
    tx.encrypt env devA dbA packetId (some (privA, extraNonce))
        (env.prost.data.encode (tx.data devA)) =
      encryptPkc env.crypto
        (deriveSharedKey env.crypto privB (env.crypto.publicKey privA)) packetId
        devA.myNodeNum extraNonce (env.prost.data.encode (tx.data devA))
        ((env.prost.data.encode (tx.data devA)).length + PKC_OVERHEAD) := by
  have hshared : deriveSharedKey env.crypto privA (env.crypto.publicKey privB) =
      deriveSharedKey env.crypto privB (env.crypto.publicKey privA) := by
    unfold deriveSharedKey
    rw [link.symmetric]
  unfold TxBuilder.encrypt
  rw [link.knowsReceiver]
  dsimp only [keypairFromSeed]
  rw [hshared]

theorem PkcLink.tryDecryptAndDecode_eq
    (link : PkcLink env tx devA devB dbA dbB privA privB)
    (hempty : env.prost.data.decode [] = some {})
    (hround : env.prost.data.RoundTrips (tx.data devA)) {frame : RadioFrame}
    (hbuild : tx.build env devA routerA dbA packetId (some (privA, extraNonce)) =
      some frame) :
    ∃ channelIndex,
      tryDecryptAndDecode env frame
        (tx.header devA routerA dbA packetId (some (privA, extraNonce))) devB dbB privB =
      decodedTx tx channelIndex := by
  set header := tx.header devA routerA dbA packetId (some (privA, extraNonce)) with hheader
  set plaintext := env.prost.data.encode (tx.data devA) with hplaintext
  obtain ⟨encBuf, hencrypt, -, hpayload⟩ := TxBuilder.build_eq_some hbuild
  rw [link.encrypt_eq, ← hpayload] at hencrypt
  have hlength : frame.payload.length = plaintext.length + PKC_OVERHEAD :=
    length_of_encryptPkc env.crypto hencrypt
  -- the wrapper always carries a bitfield, so its encoding is not the empty one
  have hne : plaintext ≠ [] := by
    intro hnil
    rw [Codec.RoundTrips, ← hplaintext, hnil, hempty] at hround
    simp [TxBuilder.data] at hround
  have hpos : 0 < plaintext.length := List.length_pos_iff.mpr hne
  have hoverhead : PKC_OVERHEAD = 12 := rfl
  have hcandidate : isPkcCandidate frame header devB privB = true := by
    have hdest : header.destination = devB.myNodeNum := link.dest
    have hhash : header.channelIndex = 0 := rfl
    have hlong : PKC_OVERHEAD < frame.payload.length := by omega
    simp [isPkcCandidate, hdest, hhash, hlong, link.isSet]
  have hsender : senderPubKey frame header devB dbB privB =
      some (env.crypto.publicKey privA) := by
    rw [senderPubKey, if_pos hcandidate]
    exact link.knowsSender
  have hfits : frame.payload.length - PKC_OVERHEAD ≤ 256 := by
    have hframe := TxBuilder.length_of_build hbuild
    have hmax : MAX_LORA_PAYLOAD_LEN = 255 := rfl
    omega
  have hpkc : pkcPlaintext env frame header devB dbB privB = some plaintext := by
    unfold pkcPlaintext
    rw [hsender]
    dsimp only
    rw [if_neg (by omega)]
    exact decryptPkc_encryptPkc env.crypto hencrypt (by omega)
  refine ⟨((matchedChannel devB header).map (·.index)).getD 0, ?_⟩
  unfold tryDecryptAndDecode
  rw [hpkc]
  dsimp only [Option.or, Option.isSome]
  rw [hround]
  dsimp only
  rw [if_neg (by simp [isLegacyDm])]
  rfl

variable (env tx devA devB routerA dbA dbB privA privB packetId extraNonce)

/-- Both halves of a link: what the receiver reads, and when there is no frame. -/
theorem tryDecryptAndDecode_build (hempty : env.prost.data.decode [] = some {})
    (hround : env.prost.data.RoundTrips (tx.data devA)) :
    (∀ channelA channelB,
      PskLink env tx devA devB dbB privB packetId channelA channelB →
      (∀ frame, tx.build env devA routerA dbA packetId none = some frame →
        ∃ header, frame.header = some header ∧
          tryDecryptAndDecode env frame header devB dbB privB =
            if tx.portnum = PortNum.textMessageApp.toI32 ∧ tx.dest = devB.myNodeNum then
              .drop
            else decodedTx tx channelB.index) ∧
      (tx.build env devA routerA dbA packetId none = none ↔
        MAX_LORA_PAYLOAD_LEN <
          HEADER_SIZE + (env.prost.data.encode (tx.data devA)).length)) ∧
    (PkcLink env tx devA devB dbA dbB privA privB →
      (∀ frame,
        tx.build env devA routerA dbA packetId (some (privA, extraNonce)) = some frame →
        ∃ header channelIndex, frame.header = some header ∧
          tryDecryptAndDecode env frame header devB dbB privB = decodedTx tx channelIndex) ∧
      (tx.build env devA routerA dbA packetId (some (privA, extraNonce)) = none ↔
        MAX_LORA_PAYLOAD_LEN <
          HEADER_SIZE + (env.prost.data.encode (tx.data devA)).length + PKC_OVERHEAD)) := by
  refine ⟨fun channelA channelB link => ⟨fun frame hbuild => ?_, link.build_eq_none_iff⟩,
    fun link => ⟨fun frame hbuild => ?_,
      TxBuilder.build_pkc_eq_none_iff link.knowsReceiver⟩⟩
  · obtain ⟨-, -, hheader, -⟩ := TxBuilder.build_eq_some hbuild
    exact ⟨_, hheader, link.tryDecryptAndDecode_eq hround hbuild⟩
  · obtain ⟨-, -, hheader, -⟩ := TxBuilder.build_eq_some hbuild
    obtain ⟨channelIndex, houtcome⟩ := link.tryDecryptAndDecode_eq hempty hround hbuild
    exact ⟨_, channelIndex, hheader, houtcome⟩

end RoundTrip

/-! ### A link worked out -/

namespace SampleLink

/-- The sender's secret. -/
def secretA : Key :=
  ⟨[0x01, 0x02, 0x03, 0x04, 0x05, 0x06, 0x07, 0x08, 0x09, 0x0a, 0x0b, 0x0c, 0x0d, 0x0e, 0x0f,
    0x10, 0x11, 0x12, 0x13, 0x14, 0x15, 0x16, 0x17, 0x18, 0x19, 0x1a, 0x1b, 0x1c, 0x1d, 0x1e,
    0x1f, 0x20], rfl⟩

def publicA : Key :=
  ⟨[0x07, 0xa3, 0x7c, 0xbc, 0x14, 0x20, 0x93, 0xc8, 0xb7, 0x55, 0xdc, 0x1b, 0x10, 0xe8, 0x6c,
    0xb4, 0x26, 0x37, 0x4a, 0xd1, 0x6a, 0xa8, 0x53, 0xed, 0x0b, 0xdf, 0xc0, 0xb2, 0xb8, 0x6d,
    0x1c, 0x7c], rfl⟩

/-- The receiver's secret. -/
def secretB : Key :=
  ⟨[0x21, 0x22, 0x23, 0x24, 0x25, 0x26, 0x27, 0x28, 0x29, 0x2a, 0x2b, 0x2c, 0x2d, 0x2e, 0x2f,
    0x30, 0x31, 0x32, 0x33, 0x34, 0x35, 0x36, 0x37, 0x38, 0x39, 0x3a, 0x3b, 0x3c, 0x3d, 0x3e,
    0x3f, 0x40], rfl⟩

def publicB : Key :=
  ⟨[0x58, 0x69, 0xaf, 0xf4, 0x50, 0x54, 0x97, 0x32, 0xcb, 0xaa, 0xed, 0x5e, 0x5d, 0xf9, 0xb3,
    0x0a, 0x6d, 0xa3, 0x1c, 0xb0, 0xe5, 0x74, 0x2b, 0xad, 0x5a, 0xd4, 0xa1, 0xa7, 0x68, 0xf1,
    0xa6, 0x7b], rfl⟩

def rawShared : Key :=
  ⟨[0xa8, 0x4d, 0xc7, 0xc3, 0xc8, 0xf0, 0x58, 0xb1, 0xb2, 0xdc, 0x4c, 0xd1, 0xe9, 0xb5, 0xdc,
    0x0a, 0x79, 0x87, 0xf8, 0x8b, 0x6a, 0x95, 0x64, 0xcd, 0xe3, 0x39, 0x1f, 0xc4, 0x21, 0x15,
    0x9e, 0x77], rfl⟩

def sharedKey : Key :=
  ⟨[0x55, 0xe8, 0x32, 0xa7, 0xed, 0x7d, 0x0f, 0x03, 0xb4, 0x6e, 0x90, 0x8d, 0x9c, 0xca, 0x79,
    0x5d, 0xe2, 0xd2, 0xbf, 0x14, 0x0f, 0xd8, 0x03, 0x08, 0xe8, 0x5a, 0x06, 0x06, 0x9a, 0xe2,
    0xb7, 0xa4], rfl⟩

/-- The answers of the primitives to one frame, under the default key and under PKC. -/
def answers : KnownAnswers where
  aesCtr :=
    [(DEFAULT_PSK, buildNonce 42 0x28123456,
      [0xa9, 0xb8, 0x32, 0x76, 0x8a, 0x9c, 0x26, 0x36, 0x1b, 0xf7, 0x2d, 0xc1, 0xdf, 0x63, 0xcf,
       0x4f])]
  ccmKeystream :=
    [(sharedKey, buildPkcNonce 42 0x28123456 0xdeadbeef,
      [0x63, 0x88, 0xc1, 0xa2, 0x4d, 0x14, 0x59, 0x14, 0xda, 0x5e, 0x57, 0x3b, 0x63, 0x26, 0xdc,
       0x12])]
  ccmTag :=
    [(sharedKey, buildPkcNonce 42 0x28123456 0xdeadbeef,
      [0x08, 0x80, 0x02, 0x12, 0x02, 0x68, 0x69, 0x18, 0x01, 0x35, 0x07, 0x00, 0x00, 0x00, 0x48,
       0x02],
      ⟨[0x90, 0x64, 0x3c, 0x9f, 0xa7, 0x8a, 0x4d, 0x8d], rfl⟩)]
  diffieHellman := [(secretA, publicB, rawShared), (secretB, publicA, rawShared)]
  publicKey := [(secretA, publicA), (secretB, publicB)]
  sha256 := [(rawShared.val, sharedKey)]

def devA : DeviceState := DeviceState.new KnownAnswers.mac

def devB : DeviceState := DeviceState.new [0x24, 0x6f, 0x28, 0xab, 0xcd, 0xef]

def dbA : NodeDb := (NodeDb.new devA.myNodeNum).updatePubKey devB.myNodeNum publicB

def dbB : NodeDb := (NodeDb.new devB.myNodeNum).updatePubKey devA.myNodeNum publicA

/-- A request to the receiver on a port number of its own. -/
def request : TxBuilder where
  dest := devB.myNodeNum
  portnum := 256
  innerPayload := utf8 "hi"
  wantResponse := true
  requestId := 7

theorem pskLink : PskLink answers.env request devA devB dbB secretB 42
    ChannelConfig.defaultPrimary ChannelConfig.defaultPrimary where
  sends := by decide
  keyLength := by decide
  receives := by decide
  sameKey := rfl
  ccmRejects h := absurd h (by decide)

theorem pkcLink : PkcLink answers.env request devA devB dbA dbB secretA secretB where
  dest := rfl
  knowsReceiver := by decide
  knowsSender := by decide
  isSet := by decide
  symmetric := by decide

/-- The request goes through either way. -/
theorem request_received :
    (∃ frame header,
      request.build answers.env devA (MeshRouter.new devA.myNodeNum) dbA 42 none =
        some frame ∧ frame.header = some header ∧
      FromRadio.tryDecryptAndDecode answers.env frame header devB dbB secretB =
        decodedTx request 0) ∧
    ∃ frame header channelIndex,
      request.build answers.env devA (MeshRouter.new devA.myNodeNum) dbA 42
        (some (secretA, 0xdeadbeef)) = some frame ∧ frame.header = some header ∧
      FromRadio.tryDecryptAndDecode answers.env frame header devB dbB secretB =
        decodedTx request channelIndex := by
  obtain ⟨hpsk, hpkc⟩ := tryDecryptAndDecode_build answers.env request devA devB
    (MeshRouter.new devA.myNodeNum) dbA dbB secretA secretB 42 0xdeadbeef (by decide)
    (Wire.dataCodec_roundTrips _ (by decide))
  obtain ⟨hread, hnone⟩ := hpsk _ _ pskLink
  obtain ⟨hreadPkc, hnonePkc⟩ := hpkc pkcLink
  have hbuilt : request.build answers.env devA (MeshRouter.new devA.myNodeNum) dbA 42 none ≠
      none := by
    rw [Ne, hnone]
    decide
  have hbuiltPkc : request.build answers.env devA (MeshRouter.new devA.myNodeNum) dbA 42
      (some (secretA, 0xdeadbeef)) ≠ none := by
    rw [Ne, hnonePkc]
    decide
  obtain ⟨frame, hframe⟩ := Option.ne_none_iff_exists'.mp hbuilt
  obtain ⟨framePkc, hframePkc⟩ := Option.ne_none_iff_exists'.mp hbuiltPkc
  obtain ⟨header, hheader, houtcome⟩ := hread frame hframe
  obtain ⟨headerPkc, channelIndex, hheaderPkc, houtcomePkc⟩ := hreadPkc framePkc hframePkc
  rw [if_neg (by decide)] at houtcome
  exact ⟨⟨frame, header, hframe, hheader, houtcome⟩,
    framePkc, headerPkc, channelIndex, hframePkc, hheaderPkc, houtcomePkc⟩

end SampleLink

end Meshtastenstein
