import Meshtastenstein.SettingsRuns
/-!
# Channels that can be used

A channel that is assigned carries frames between the nodes it is assigned at, unless its key
is a single byte other than the one that stands for the default key.
-/

namespace Meshtastenstein

open Lib Proto Handlers

/-! ## Keys -/

namespace Handlers.Admin

theorem psk_of_assigned {channel : Channel} {config : ChannelConfig}
    (h : assigned channel = some config) :
    isValidPskLen config.psk.toList.length = true := by
  obtain ⟨settings, -, hconfig⟩ := Option.bind_eq_some_iff.mp h
  split at hconfig
  · rename_i hvalid
    cases hconfig
    have hfits : settings.psk.length ≤ 32 := by
      unfold isValidPskLen at hvalid
      simp only [Bool.or_eq_true, beq_iff_eq] at hvalid
      omega
    have hpsk : (channelOfSettings channel settings).psk.toList = settings.psk :=
      Bounded.toList_ofListOrEmpty_of_le hfits
    rwa [hpsk]
  · cases hconfig

end Handlers.Admin

def ChannelConfig.HasAesKey (config : ChannelConfig) : Prop :=
  config.effectivePsk.length = 0 ∨ config.effectivePsk.length = 16 ∨
    config.effectivePsk.length = 32

theorem ChannelConfig.hasAesKey_iff {config : ChannelConfig}
    (h : Admin.isValidPskLen config.psk.toList.length = true) :
    config.HasAesKey ↔ (config.psk.toList.length = 1 → config.psk.toList = [0x01]) := by
  unfold Admin.isValidPskLen at h
  simp only [Bool.or_eq_true, beq_iff_eq] at h
  unfold HasAesKey effectivePsk
  by_cases hdefault : config.psk.toList = [0x01]
  · rw [if_pos hdefault]
    exact iff_of_true (Or.inr (Or.inl rfl)) fun _ => hdefault
  · rw [if_neg hdefault]
    constructor
    · intro hkey hone
      omega
    · intro hone
      have hne : config.psk.toList.length ≠ 1 := fun hlength => hdefault (hone hlength)
      omega

/-! ## Carrying a frame -/

variable {S : Type} [MeshStorage S]

/-- The sender builds a frame, and the receiver reads the message in it; a direct text message
it then refuses. -/
def Carries (env : Env) (tx : TxBuilder) (sender receiver : DeviceState) (router : MeshRouter)
    (dbA dbB : NodeDb) (privB : Key) (packetId : UInt32) : Prop :=
  ∃ frame header index,
    tx.build env sender router dbA packetId none = some frame ∧ frame.header = some header ∧
    FromRadio.tryDecryptAndDecode env frame header receiver dbB privB =
      if tx.portnum = PortNum.textMessageApp.toI32 ∧ tx.dest = receiver.myNodeNum then .drop
      else decodedTx tx index

/-- What is sent on the channel is read under its key: the first enabled channel of the hash at
the receiver has that key, and a frame that looks like a direct message is none under the key
shared with the sender. -/
structure HeardOn (env : Env) (tx : TxBuilder) (config : ChannelConfig)
    (sender receiver : DeviceState) (dbB : NodeDb) (privB : Key) (packetId : UInt32) : Prop where
  found : ∃ found,
    receiver.channels.findByHash (config.hash sender.modemPreset.displayName)
        receiver.modemPreset.displayName = some found ∧
      found.effectivePsk = config.effectivePsk
  ccmRejects : config.hash sender.modemPreset.displayName = 0 → tx.dest = receiver.myNodeNum →
    ∀ peerPubKey, dbB.pubKeyOf sender.myNodeNum = some peerPubKey →
    ∀ wire, TxBuilder.channelEncrypt env config packetId sender.myNodeNum
      (env.prost.data.encode (tx.data sender)) = some wire →
    ∀ nonce plaintext, encryptPkc env.crypto
      (deriveSharedKey env.crypto (keypairFromSeed env.crypto privB).1 peerPubKey)
      packetId sender.myNodeNum nonce plaintext (plaintext.length + PKC_OVERHEAD) ≠ some wire

theorem channel_of_assigned (env : Env) {channel : Channel} {config : ChannelConfig}
    (h : Admin.assigned channel = some config) (hslot : config.index.toNat < MAX_CHANNELS)
    (ctx : MeshCtx S) {tx : TxBuilder} (htx : tx.channelIdx = some config.index) :
    tx.channel (Admin.setChannel env ctx channel).device = some config := by
  unfold TxBuilder.channel
  rw [htx, Option.bind_some, Admin.channels_setChannel, h]
  dsimp only
  rw [ChannelSet.get_set, if_pos ⟨rfl, hslot⟩]
  rfl

theorem encode_data_ne_nil {env : Env} {tx : TxBuilder} {device : DeviceState}
    (hempty : env.prost.data.decode [] = some {})
    (hround : env.prost.data.RoundTrips (tx.data device)) :
    env.prost.data.encode (tx.data device) ≠ [] := by
  intro hnil
  have hdefault : some (tx.data device) = some {} := by rw [← hround, hnil, hempty]
  have hbitfield := congrArg Data.bitfield (Option.some.inj hdefault)
  cases hbitfield

/-- A channel that is assigned at two nodes carries every frame that fits only if its key, when
a single byte, is the one that stands for the default key; and then it does wherever it is heard
on. -/
theorem assigned_carries_iff (env : Env) (tx : TxBuilder) (ctxA ctxB : MeshCtx S)
    (router : MeshRouter) (dbA dbB : NodeDb) (privB : Key) (packetId : UInt32)
    (channel : Channel) (config : ChannelConfig)
    (hassigned : Admin.assigned channel = some config)
    (hslot : config.index.toNat < MAX_CHANNELS) (hempty : env.prost.data.decode [] = some {})
    (hround : env.prost.data.RoundTrips (tx.data (Admin.setChannel env ctxA channel).device))
    (htx : tx.channelIdx = some config.index)
    (hfits : ¬ tx.TooLong env (Admin.setChannel env ctxA channel).device) :
    let sender := (Admin.setChannel env ctxA channel).device
    let receiver := (Admin.setChannel env ctxB channel).device
    (Carries env tx sender receiver router dbA dbB privB packetId →
      config.psk.toList.length = 1 → config.psk.toList = [0x01]) ∧
    ((config.psk.toList.length = 1 → config.psk.toList = [0x01]) →
      HeardOn env tx config sender receiver dbB privB packetId →
      Carries env tx sender receiver router dbA dbB privB packetId) := by
  intro sender receiver
  have hsends : tx.channel sender = some config :=
    channel_of_assigned env hassigned hslot ctxA htx
  rw [← ChannelConfig.hasAesKey_iff (Admin.psk_of_assigned hassigned)]
  constructor
  · rintro ⟨frame, header, index, hbuild, -, -⟩
    obtain ⟨encBuf, hencrypt, -, -⟩ := TxBuilder.build_eq_some hbuild
    rw [TxBuilder.encrypt_of_channel hsends] at hencrypt
    by_contra hkey
    have hnone : TxBuilder.channelEncrypt env config packetId sender.myNodeNum
        (env.prost.data.encode (tx.data sender)) = none := by
      rw [TxBuilder.channelEncrypt_eq_none_iff]
      unfold ChannelConfig.HasAesKey at hkey
      rw [copyPsk, List.take_of_length_le config.length_effectivePsk_le]
      refine ⟨?_, encode_data_ne_nil hempty hround, by omega, by omega⟩
      rw [← Bool.not_eq_false, ← config.effectivePsk_eq_nil_iff]
      intro hnil
      rw [hnil] at hkey
      exact hkey (Or.inl rfl)
    rw [hnone] at hencrypt
    cases hencrypt
  · intro hkey hheard
    obtain ⟨found, hfound, hsame⟩ := hheard.found
    have link : PskLink env tx sender receiver dbB privB packetId config found :=
      { sends := hsends
        keyLength := hkey
        receives := hfound
        sameKey := hsame
        ccmRejects := hheard.ccmRejects }
    have hbuilt : tx.build env sender router dbA packetId none ≠ none := by
      rw [Ne, link.build_eq_none_iff]
      exact hfits
    obtain ⟨frame, hframe⟩ := Option.ne_none_iff_exists'.mp hbuilt
    obtain ⟨-, -, hheader, -⟩ := TxBuilder.build_eq_some hframe
    exact ⟨frame, _, found.index, hframe, hheader, link.tryDecryptAndDecode_eq hround hframe⟩

/-! ### Keys of one byte -/

namespace ByteKey

/-- The assignment of a secondary channel with a key of one byte. -/
def channel (byte : UInt8) : Channel where
  index := 1
  settings := some { psk := [byte], name := utf8 "x" }
  role := 2

def config (byte : UInt8) : ChannelConfig where
  index := 1
  name := Bounded.ofListOrEmpty (utf8 "x")
  psk := Bounded.ofListOrEmpty [byte]
  role := .secondary

theorem assigned_channel (byte : UInt8) :
    Admin.assigned (channel byte) = some (config byte) := rfl

/-- A node that has just booted. -/
def freshCtx (mac : Bytes) : MeshCtx FakeStorage :=
  (MeshState.after SampleLink.answers.env mac {} KnownAnswers.noKeypair KnownAnswers.noEntropy
    [.announce]).ctx

def sender (byte : UInt8) : DeviceState :=
  (Admin.setChannel SampleLink.answers.env (freshCtx KnownAnswers.mac) (channel byte)).device

def receiver (byte : UInt8) : DeviceState :=
  (Admin.setChannel SampleLink.answers.env (freshCtx [0x24, 0x6f, 0x28, 0xab, 0xcd, 0xef])
    (channel byte)).device

/-- The request of the recorded link, on the assigned channel. -/
def request : TxBuilder := { SampleLink.request with channelIdx := some 1 }

/-- The sentinel of the default key carries the request. -/
theorem sentinel_carries :
    Carries SampleLink.answers.env request (sender 1) (receiver 1)
      (MeshRouter.new 0x28123456) SampleLink.dbA SampleLink.dbB SampleLink.secretB 42 := by
  have hcarries := assigned_carries_iff SampleLink.answers.env request
    (freshCtx KnownAnswers.mac) (freshCtx [0x24, 0x6f, 0x28, 0xab, 0xcd, 0xef])
    (MeshRouter.new 0x28123456) SampleLink.dbA SampleLink.dbB SampleLink.secretB 42 (channel 1)
    (config 1) (assigned_channel 1) (by decide) (by decide)
    (Wire.dataCodec_roundTrips _ (by decide)) rfl
    (by unfold TxBuilder.TooLong; decide)
  refine hcarries.2 (fun _ => by decide) ⟨⟨config 1, by decide, rfl⟩, ?_⟩
  exact fun hzero => absurd hzero (by decide)

/-- The next key is accepted, and no frame can be built under it. -/
theorem second_byte_carries_nothing :
    (Admin.assigned (channel 2)).map (·.isEnabled) = some true ∧
      ¬ request.TooLong SampleLink.answers.env (sender 2) ∧
      ¬ Carries SampleLink.answers.env request (sender 2) (receiver 2)
        (MeshRouter.new 0x28123456) SampleLink.dbA SampleLink.dbB SampleLink.secretB 42 := by
  refine ⟨by decide, by unfold TxBuilder.TooLong; decide, ?_⟩
  rintro ⟨frame, header, index, hbuild, -, -⟩
  have hnone : request.build SampleLink.answers.env (sender 2) (MeshRouter.new 0x28123456)
      SampleLink.dbA 42 none = none := by
    decide
  rw [hnone] at hbuild
  cases hbuild

end ByteKey

end Meshtastenstein
