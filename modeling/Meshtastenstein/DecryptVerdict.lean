import Meshtastenstein.Encryption
/-!
# The verdict on a frame

Which key a frame is opened with, and what a frame that nothing opens is taken for.
-/

namespace Meshtastenstein.Handlers.FromRadio

open Lib Proto

variable (env : Env) (frame : RadioFrame) (header : PacketHeader) (device : DeviceState)
  (db : NodeDb) (pkcPriv : Key)

/-! ## Attempts -/

/-- The message a payload opens to: as a direct message, else under the matched channel. -/
def openedData : Option Data :=
  ((pkcPlaintext env frame header device db pkcPriv).or
    (pskPlaintext env frame header device)).bind env.prost.data.decode

variable {env frame header device db pkcPriv}

theorem tryDecryptAndDecode_of_unopened
    (h : openedData env frame header device db pkcPriv = none) :
    tryDecryptAndDecode env frame header device db pkcPriv =
      finalUndecodedOutcome header device (senderPubKey frame header device db pkcPriv) := by
  unfold openedData at h
  unfold tryDecryptAndDecode
  dsimp only
  cases hplain : (pkcPlaintext env frame header device db pkcPriv).or
      (pskPlaintext env frame header device) with
  | none => rfl
  | some payload =>
      rw [hplain] at h
      dsimp only
      rw [show env.prost.data.decode payload = none from h]

theorem tryDecryptAndDecode_of_opened {data : Data}
    (h : openedData env frame header device db pkcPriv = some data) :
    tryDecryptAndDecode env frame header device db pkcPriv =
      if isLegacyDm header device data
          (pkcPlaintext env frame header device db pkcPriv).isSome then .drop
      else .decoded
        (decodedPayload data (((matchedChannel device header).map (·.index)).getD 0)) := by
  obtain ⟨payload, hplain, hdata⟩ := Option.bind_eq_some_iff.mp h
  unfold tryDecryptAndDecode
  dsimp only
  rw [hplain]
  dsimp only
  rw [hdata]

/-- Without the sender's key there is no attempt to open a direct message. -/
theorem pkcPlaintext_of_senderPubKey (h : senderPubKey frame header device db pkcPriv = none) :
    pkcPlaintext env frame header device db pkcPriv = none := by
  unfold pkcPlaintext
  rw [h]

theorem isPkcCandidate_iff :
    isPkcCandidate frame header device pkcPriv = true ↔
      header.channelIndex = 0 ∧ header.destination = device.myNodeNum ∧
        PKC_OVERHEAD < frame.payload.length ∧ pkcPriv.isSet = true := by
  unfold isPkcCandidate
  rw [Bool.and_eq_true, Bool.and_eq_true, Bool.and_eq_true, beq_iff_eq, beq_iff_eq,
    decide_eq_true_eq, and_assoc, and_assoc]

/-! ## Unknown keys -/

variable (env frame header device db pkcPriv)

/-- An unknown key is reported only for a hash-0 unicast to us that nothing opens, from a
sender whose key is not stored; a frame that nothing opens is dropped when it is. -/
structure ReportsUnknownKey : Prop where
  unknown : tryDecryptAndDecode env frame header device db pkcPriv = .pkiUnknownPubkey →
    header.channelIndex = 0 ∧ header.destination = device.myNodeNum ∧
      openedData env frame header device db pkcPriv = none ∧
      db.pubKeyOf header.sender = none
  stored : (db.pubKeyOf header.sender).isSome →
    openedData env frame header device db pkcPriv = none →
    tryDecryptAndDecode env frame header device db pkcPriv = .drop

/-- A hash-0 unicast to us that no channel opens, from a sender whose stored key is not looked
up: the payload is too short for a direct message, or we have no key of our own. -/
structure KeyNotLookedUp : Prop where
  hash : header.channelIndex = 0
  toUs : header.destination = device.myNodeNum
  noCandidate : frame.payload.length ≤ PKC_OVERHEAD ∨ pkcPriv.isSet = false
  stored : (db.pubKeyOf header.sender).isSome
  unopened : (pskPlaintext env frame header device).bind env.prost.data.decode = none

variable {env frame header device db pkcPriv}

theorem KeyNotLookedUp.senderPubKey (h : KeyNotLookedUp env frame header device db pkcPriv) :
    senderPubKey frame header device db pkcPriv = none := by
  apply if_neg
  intro hcandidate
  obtain ⟨-, -, hlong, hset⟩ := isPkcCandidate_iff.mp hcandidate
  rcases h.noCandidate with hshort | hunset
  · exact absurd hlong (Nat.not_lt.mpr hshort)
  · rw [hunset] at hset
    cases hset

theorem KeyNotLookedUp.unopenedData (h : KeyNotLookedUp env frame header device db pkcPriv) :
    openedData env frame header device db pkcPriv = none := by
  unfold openedData
  rw [pkcPlaintext_of_senderPubKey h.senderPubKey]
  exact h.unopened

theorem finalUndecodedOutcome_eq_unknown_iff {key : Option Key} :
    finalUndecodedOutcome header device key = .pkiUnknownPubkey ↔
      header.channelIndex = 0 ∧ header.destination = device.myNodeNum ∧ key = none := by
  unfold finalUndecodedOutcome
  split
  · exact iff_of_true rfl ‹_›
  · exact iff_of_false (fun h => nomatch h) ‹_›

theorem finalUndecodedOutcome_eq_drop_iff {key : Option Key} :
    finalUndecodedOutcome header device key = .drop ↔
      ¬ (header.channelIndex = 0 ∧ header.destination = device.myNodeNum ∧ key = none) := by
  unfold finalUndecodedOutcome
  split
  · exact iff_of_false (fun h => nomatch h) (not_not.mpr ‹_›)
  · exact iff_of_true rfl ‹_›

theorem unopened_of_unknown
    (h : tryDecryptAndDecode env frame header device db pkcPriv = .pkiUnknownPubkey) :
    openedData env frame header device db pkcPriv = none := by
  cases hopened : openedData env frame header device db pkcPriv with
  | none => rfl
  | some data =>
      rw [tryDecryptAndDecode_of_opened hopened] at h
      split at h <;> cases h

theorem keyNotLookedUp_of_stored (hhash : header.channelIndex = 0)
    (htoUs : header.destination = device.myNodeNum)
    (hkey : senderPubKey frame header device db pkcPriv = none)
    (hstored : (db.pubKeyOf header.sender).isSome)
    (hopened : openedData env frame header device db pkcPriv = none) :
    KeyNotLookedUp env frame header device db pkcPriv where
  hash := hhash
  toUs := htoUs
  stored := hstored
  noCandidate := by
    by_contra hcandidate
    rw [not_or, Nat.not_le, Bool.not_eq_false] at hcandidate
    unfold senderPubKey at hkey
    rw [if_pos (isPkcCandidate_iff.mpr ⟨hhash, htoUs, hcandidate⟩)] at hkey
    rw [hkey] at hstored
    cases hstored
  unopened := by
    unfold openedData at hopened
    rwa [pkcPlaintext_of_senderPubKey hkey] at hopened

/-- Unknown keys are reported rightly exactly for the frames whose sender's stored key, if it
matters, is looked up. -/
theorem reportsUnknownKey_iff (env : Env) (frame : RadioFrame) (header : PacketHeader)
    (device : DeviceState) (db : NodeDb) (pkcPriv : Key) :
    ReportsUnknownKey env frame header device db pkcPriv ↔
      ¬ KeyNotLookedUp env frame header device db pkcPriv := by
  constructor
  · intro hreports hmissed
    have hdropped := hreports.stored hmissed.stored hmissed.unopenedData
    rw [tryDecryptAndDecode_of_unopened hmissed.unopenedData,
      finalUndecodedOutcome_eq_drop_iff] at hdropped
    exact hdropped ⟨hmissed.hash, hmissed.toUs, hmissed.senderPubKey⟩
  · intro hlooked
    constructor
    · intro hunknown
      have hopened := unopened_of_unknown hunknown
      rw [tryDecryptAndDecode_of_unopened hopened, finalUndecodedOutcome_eq_unknown_iff]
        at hunknown
      obtain ⟨hhash, htoUs, hkey⟩ := hunknown
      refine ⟨hhash, htoUs, hopened, ?_⟩
      rw [← Option.not_isSome_iff_eq_none]
      intro hstored
      exact hlooked (keyNotLookedUp_of_stored hhash htoUs hkey hstored hopened)
    · intro hstored hopened
      rw [tryDecryptAndDecode_of_unopened hopened, finalUndecodedOutcome_eq_drop_iff]
      rintro ⟨hhash, htoUs, hkey⟩
      exact hlooked (keyNotLookedUp_of_stored hhash htoUs hkey hstored hopened)

/-- One byte of noise under hash 0 to the receiver, from the sender whose key it holds. -/
def noiseFrame : RadioFrame where
  bytes :=
    [0xef, 0xcd, 0xab, 0x28, 0x56, 0x34, 0x12, 0x28, 0x05, 0x00, 0x00, 0x00, 0x63, 0x00, 0x00,
     0x56, 0xff]
  length_le := by decide

def noiseHeader : PacketHeader where
  destination := 0x28abcdef
  sender := 0x28123456
  packetId := 5
  flags := 0x63
  channelIndex := 0
  nextHop := 0
  relayNode := 0x56

/-- The noise is answered as if the sender's key were not stored. -/
theorem noise_reported_unknown :
    noiseFrame.header = some noiseHeader ∧
      ¬ ReportsUnknownKey SampleLink.answers.env noiseFrame noiseHeader SampleLink.devB
        SampleLink.dbB SampleLink.secretB := by
  refine ⟨by decide, ?_⟩
  rw [reportsUnknownKey_iff, not_not]
  exact ⟨rfl, by decide, Or.inl (by decide), by decide, by decide⟩

/-! ## Matching channels -/

/-- An enabled channel of the header's hash opens the payload to a message. -/
structure Opens (env : Env) (frame : RadioFrame) (header : PacketHeader) (device : DeviceState)
    (channel : ChannelConfig) (data : Data) : Prop where
  configured : channel ∈ device.channels.configured
  enabled : channel.isEnabled = true
  hash : channel.hash device.modemPreset.displayName = header.channelIndex
  decodes : (TxBuilder.channelEncrypt env channel header.packetId header.sender
    frame.payload).bind env.prost.data.decode = some data

/-- A frame that a channel opens to anything but a direct text message decodes, under the index
of a channel that opens it. -/
def TriesEveryChannel (env : Env) (frame : RadioFrame) (header : PacketHeader)
    (device : DeviceState) (db : NodeDb) (pkcPriv : Key) : Prop :=
  ∀ channel data, Opens env frame header device channel data →
    isLegacyDm header device data false = false →
    ∃ channel' data' payload, Opens env frame header device channel' data' ∧
      tryDecryptAndDecode env frame header device db pkcPriv = .decoded payload ∧
      payload.channelIndex = channel'.index

/-- The first of the matching channels opens the frame too; one that is taken for a direct
message is a message, and the first channel is among those that open it. -/
structure FirstOpens (env : Env) (frame : RadioFrame) (header : PacketHeader)
    (device : DeviceState) (db : NodeDb) (pkcPriv : Key) (first : ChannelConfig) : Prop where
  channel : pkcPlaintext env frame header device db pkcPriv = none →
    ∃ data, Opens env frame header device first data ∧
      isLegacyDm header device data false = false
  direct : ∀ plaintext, pkcPlaintext env frame header device db pkcPriv = some plaintext →
    (env.prost.data.decode plaintext).isSome ∧
      ∃ channel data, Opens env frame header device channel data ∧ first.index = channel.index

theorem isLegacyDm_of_pkc (header : PacketHeader) (device : DeviceState) (data : Data) :
    isLegacyDm header device data true = false :=
  Bool.and_false _

theorem exists_matchedChannel {channel : ChannelConfig} {data : Data}
    (h : Opens env frame header device channel data) :
    ∃ first, matchedChannel device header = some first := by
  unfold matchedChannel ChannelSet.findByHash
  apply Option.isSome_iff_exists.mp
  rw [List.find?_isSome]
  exact ⟨channel, h.configured, by rw [h.enabled, h.hash, beq_self_eq_true]; rfl⟩

theorem opens_matchedChannel_iff {first : ChannelConfig}
    (h : matchedChannel device header = some first) (data : Data) :
    Opens env frame header device first data ↔
      (pskPlaintext env frame header device).bind env.prost.data.decode = some data := by
  rw [pskPlaintext_eq_channelEncrypt env h]
  obtain ⟨hconfigured, henabled, hhash⟩ := ChannelSet.findByHash_spec h
  exact ⟨fun hopens => hopens.decodes, fun hdecodes => ⟨hconfigured, henabled, hhash, hdecodes⟩⟩

theorem decoded_of_opened {first : ChannelConfig} {data : Data}
    (hmatched : matchedChannel device header = some first)
    (hopened : openedData env frame header device db pkcPriv = some data)
    (hlegacy : isLegacyDm header device data
      (pkcPlaintext env frame header device db pkcPriv).isSome = false) :
    tryDecryptAndDecode env frame header device db pkcPriv =
      .decoded (decodedPayload data first.index) := by
  rw [tryDecryptAndDecode_of_opened hopened, hlegacy, hmatched]
  rfl

theorem opened_of_decoded {first : ChannelConfig} {payload : DecodedPayload}
    (hmatched : matchedChannel device header = some first)
    (h : tryDecryptAndDecode env frame header device db pkcPriv = .decoded payload) :
    ∃ data, openedData env frame header device db pkcPriv = some data ∧
      isLegacyDm header device data
        (pkcPlaintext env frame header device db pkcPriv).isSome = false ∧
      payload.channelIndex = first.index := by
  cases hopened : openedData env frame header device db pkcPriv with
  | none =>
      rw [tryDecryptAndDecode_of_unopened hopened] at h
      unfold finalUndecodedOutcome at h
      split at h <;> cases h
  | some data =>
      rw [tryDecryptAndDecode_of_opened hopened, hmatched] at h
      split at h
      · cases h
      · rename_i hlegacy
        cases h
        exact ⟨data, rfl, Bool.not_eq_true _ ▸ hlegacy, rfl⟩

/-- Every matching channel is as good as tried exactly when the first one opens whatever any of
them opens. -/
theorem triesEveryChannel_iff (env : Env) (frame : RadioFrame) (header : PacketHeader)
    (device : DeviceState) (db : NodeDb) (pkcPriv : Key) :
    TriesEveryChannel env frame header device db pkcPriv ↔
      ∀ channel data first, Opens env frame header device channel data →
        isLegacyDm header device data false = false →
        matchedChannel device header = some first →
        FirstOpens env frame header device db pkcPriv first := by
  constructor
  · intro htries channel data first hopens hplain hmatched
    obtain ⟨channel', data', payload, hopens', hdecoded, hindex⟩ :=
      htries channel data hopens hplain
    obtain ⟨opened, hopened, hlegacy, hfirst⟩ := opened_of_decoded hmatched hdecoded
    unfold openedData at hopened
    constructor
    · intro hpkc
      rw [hpkc] at hopened hlegacy
      exact ⟨opened, (opens_matchedChannel_iff hmatched opened).mpr hopened, hlegacy⟩
    · intro plaintext hpkc
      rw [hpkc] at hopened
      refine ⟨Option.isSome_iff_exists.mpr ⟨opened, hopened⟩, channel', data', hopens', ?_⟩
      exact hfirst.symm.trans hindex
  · intro hfirst channel data hopens hplain
    obtain ⟨first, hmatched⟩ := exists_matchedChannel hopens
    obtain ⟨hchannel, hdirect⟩ := hfirst channel data first hopens hplain hmatched
    cases hpkc : pkcPlaintext env frame header device db pkcPriv with
    | none =>
        obtain ⟨opened, hopens', hlegacy⟩ := hchannel hpkc
        have hopened : openedData env frame header device db pkcPriv = some opened := by
          unfold openedData
          rw [hpkc]
          exact (opens_matchedChannel_iff hmatched opened).mp hopens'
        refine ⟨first, opened, _, hopens', decoded_of_opened hmatched hopened ?_, rfl⟩
        rw [hpkc]
        exact hlegacy
    | some plaintext =>
        obtain ⟨hmessage, channel', data', hopens', hindex⟩ := hdirect plaintext hpkc
        obtain ⟨opened, hdecode⟩ := Option.isSome_iff_exists.mp hmessage
        have hopened : openedData env frame header device db pkcPriv = some opened := by
          unfold openedData
          rw [hpkc]
          exact hdecode
        refine ⟨channel', data', _, hopens', decoded_of_opened hmatched hopened ?_, hindex⟩
        rw [hpkc]
        exact isLegacyDm_of_pkc header device opened

def clearChannel : ChannelConfig where
  index := 1
  name := Bounded.ofListOrEmpty (utf8 "ai")
  psk := Bounded.empty
  role := .secondary

/-- A receiver with the default channel and, behind it, the clear one. -/
def collidingDevice : DeviceState :=
  { SampleLink.devB with channels := SampleLink.devB.channels.set 1 clearChannel }

/-- A broadcast of the text `hey` on the second channel. -/
def collidingFrame : RadioFrame where
  bytes :=
    [0xff, 0xff, 0xff, 0xff, 0x56, 0x34, 0x12, 0x28, 0x07, 0x00, 0x00, 0x00, 0x63, 0x08, 0x00,
     0x56, 0x08, 0x01, 0x12, 0x03, 0x68, 0x65, 0x79]
  length_le := by decide

def collidingHeader : PacketHeader where
  destination := BROADCAST_ADDR
  sender := 0x28123456
  packetId := 7
  flags := 0x63
  channelIndex := 8
  nextHop := 0
  relayNode := 0x56

/-- The text is dropped, the first channel's key having made noise of it. -/
theorem second_channel_deaf :
    collidingFrame.header = some collidingHeader ∧
      ¬ TriesEveryChannel KnownAnswers.defaultKey.env collidingFrame collidingHeader
        collidingDevice SampleLink.dbB SampleLink.secretB := by
  refine ⟨by decide, ?_⟩
  intro htries
  have hopens : Opens KnownAnswers.defaultKey.env collidingFrame collidingHeader collidingDevice
      clearChannel { portnum := 1, payload := utf8 "hey" } := by
    constructor <;> decide
  obtain ⟨-, -, payload, -, hdecoded, -⟩ := htries _ _ hopens (by decide)
  have hdropped : tryDecryptAndDecode KnownAnswers.defaultKey.env collidingFrame collidingHeader
      collidingDevice SampleLink.dbB SampleLink.secretB = .drop := by
    decide
  rw [hdropped] at hdecoded
  cases hdecoded

end Meshtastenstein.Handlers.FromRadio
