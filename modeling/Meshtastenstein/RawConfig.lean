import Meshtastenstein.ConfigRecord
import Meshtastenstein.Lib.CheckedBytes
/-!
# The configuration record in arrays

The saved configuration as the code keeps it, lengths beside arrays of a fixed size, and the
record written and read with every access checked.  No check fails, and it is the record of the
configuration in vectors.
-/

namespace Meshtastenstein

open Lib Lib.Bytes Lib.FixedArray

structure RawChannel where
  index : UInt8
  role : UInt8
  pskLen : UInt8
  psk : List.Vector UInt8 32
  nameLen : UInt8
  name : List.Vector UInt8 12
deriving DecidableEq

def RawChannel.default : RawChannel where
  index := 0
  role := 0
  pskLen := 0
  psk := List.Vector.replicate 32 0
  nameLen := 0
  name := List.Vector.replicate 12 0

structure RawConfig where
  longNameLen : UInt8
  longName : List.Vector UInt8 40
  shortNameLen : UInt8
  shortName : List.Vector UInt8 5
  region : UInt8
  modemPreset : UInt8
  role : UInt8
  numChannels : UInt8
  channels : List.Vector RawChannel 8
  usePreset : UInt8
  spreadFactor : UInt8
  bandwidthCode : UInt16
  codingRate : UInt8
  channelNum : UInt16
  hopLimit : UInt8
  txEnabled : UInt8
  configOkToMqtt : UInt8
deriving DecidableEq

/-! ## Writing -/

/-- A record that is being written. -/
abbrev ConfigBuffer := List.Vector UInt8 CONFIG_SIZE

namespace RawConfig

def encodeChannel? (buf : ConfigBuffer) (off : Nat) (ch : RawChannel) : Option ConfigBuffer := do
  let buf ← write? buf off [ch.index]
  let buf ← write? buf (off + 1) [ch.role]
  let buf ← write? buf (off + 2) [ch.pskLen]
  let buf ← write? buf (off + 3) (← slice? ch.psk 0 ch.pskLen.toNat)
  let buf ← write? buf (off + 35) [ch.nameLen]
  write? buf (off + 36) (← slice? ch.name 0 ch.nameLen.toNat)

def encodeFront? (cfg : RawConfig) (buf : ConfigBuffer) : Option ConfigBuffer := do
  let buf ← write? buf 0 (toLeBytes CONFIG_MAGIC)
  let buf ← write? buf 4 [CONFIG_VERSION]
  let buf ← write? buf 5 [cfg.longNameLen]
  let buf ← write? buf 6 (← slice? cfg.longName 0 cfg.longNameLen.toNat)
  let buf ← write? buf 46 [cfg.shortNameLen]
  let buf ← write? buf 47 (← slice? cfg.shortName 0 cfg.shortNameLen.toNat)
  let buf ← write? buf 52 [cfg.region]
  let buf ← write? buf 53 [cfg.modemPreset]
  let buf ← write? buf 54 [cfg.role]
  write? buf 55 [cfg.numChannels]

def encodeChannels? (cfg : RawConfig) (buf : ConfigBuffer) : Option ConfigBuffer :=
  (List.range cfg.numChannels.toNat).foldlM
    (fun buf i => do encodeChannel? buf (channelOffset i) (← read? cfg.channels i)) buf

def encodeLora? (cfg : RawConfig) (buf : ConfigBuffer) : Option ConfigBuffer := do
  let buf ← write? buf 440 [cfg.usePreset]
  let buf ← write? buf 441 [cfg.spreadFactor]
  let buf ← write? buf 442 [cfg.bandwidthCode.toUInt8, (cfg.bandwidthCode >>> 8).toUInt8]
  let buf ← write? buf 444 [cfg.codingRate]
  let buf ← write? buf 445 [cfg.channelNum.toUInt8, (cfg.channelNum >>> 8).toUInt8]
  let buf ← write? buf 447 [cfg.hopLimit]
  let buf ← write? buf 448 [cfg.txEnabled]
  write? buf 449 [cfg.configOkToMqtt]

def encode? (cfg : RawConfig) : Option ConfigBuffer := do
  let buf ← encodeFront? cfg (List.Vector.replicate CONFIG_SIZE 0xff)
  let buf ← encodeChannels? cfg buf
  encodeLora? cfg buf

/-! ## Reading -/

def decodeChannel? (buf : ConfigBuffer) (off : Nat) : Option RawChannel := do
  let pskLen := min (← read? buf (off + 2)) 32
  let psk ← fill? 32 0 (← slice? buf (off + 3) pskLen.toNat)
  let nameLen := min (← read? buf (off + 35)) 12
  let name ← fill? 12 0 (← slice? buf (off + 36) nameLen.toNat)
  some
    { index := ← read? buf off
      role := ← read? buf (off + 1)
      pskLen := pskLen
      psk := psk
      nameLen := nameLen
      name := name }

def u16At? (buf : ConfigBuffer) (offset : Nat) : Option UInt16 := do
  some ((← read? buf offset).toUInt16 ||| (← read? buf (offset + 1)).toUInt16 <<< 8)

/-- The fields of a record with the right magic and version. -/
def decodeFields? (buf : ConfigBuffer) : Option RawConfig := do
  let longNameLen := min (← read? buf 5) 40
  let longName ← fill? 40 0 (← slice? buf 6 longNameLen.toNat)
  let shortNameLen := min (← read? buf 46) 5
  let shortName ← fill? 5 0 (← slice? buf 47 shortNameLen.toNat)
  let numChannels := min (← read? buf 55) 8
  let channels ← fill? 8 RawChannel.default
    (← (List.range numChannels.toNat).mapM fun i => decodeChannel? buf (channelOffset i))
  let rawCh ← u16At? buf 445
  let hopLimit ← read? buf 447
  let txEnabled ← read? buf 448
  let configOkToMqtt ← read? buf 449
  some
    { longNameLen := longNameLen
      longName := longName
      shortNameLen := shortNameLen
      shortName := shortName
      region := ← read? buf 52
      modemPreset := ← read? buf 53
      role := ← read? buf 54
      numChannels := numChannels
      channels := channels
      usePreset := ← read? buf 440
      spreadFactor := ← read? buf 441
      bandwidthCode := ← u16At? buf 442
      codingRate := ← read? buf 444
      channelNum := if rawCh = 0xffff then 0 else rawCh
      hopLimit := if hopLimit = 0xff then DEFAULT_HOP_LIMIT else hopLimit
      txEnabled := if txEnabled = 0xff then 1 else txEnabled
      configOkToMqtt := if configOkToMqtt = 1 then 1 else 0 }

/-- The configuration of a record, none inside for a record of another kind. -/
def decode? (buf : ConfigBuffer) : Option (Option RawConfig) := do
  let magic ← wordAt? buf 0
  let version ← read? buf 4
  if magic ≠ CONFIG_MAGIC ∨ version ≠ CONFIG_VERSION then some none
  else
    let fields ← decodeFields? buf
    some (some fields)

/-- The lengths fit their arrays. -/
structure Within (cfg : RawConfig) : Prop where
  longName : cfg.longNameLen ≤ 40
  shortName : cfg.shortNameLen ≤ 5
  channels : cfg.numChannels ≤ 8
  psk : ∀ ch ∈ cfg.channels.toList, ch.pskLen ≤ 32
  name : ∀ ch ∈ cfg.channels.toList, ch.nameLen ≤ 12

end RawConfig

/-! ## Vectors in arrays -/

def SavedChannel.raw (ch : SavedChannel) : RawChannel where
  index := ch.index
  role := ch.role
  pskLen := UInt8.ofNat ch.psk.length
  psk := padded 0 ch.psk
  nameLen := UInt8.ofNat ch.name.length
  name := padded 0 ch.name

def SavedConfig.raw (cfg : SavedConfig) : RawConfig where
  longNameLen := UInt8.ofNat cfg.longName.length
  longName := padded 0 cfg.longName
  shortNameLen := UInt8.ofNat cfg.shortName.length
  shortName := padded 0 cfg.shortName
  region := cfg.region
  modemPreset := cfg.modemPreset
  role := cfg.role
  numChannels := UInt8.ofNat cfg.channels.length
  channels := padded RawChannel.default
    ⟨cfg.channels.toList.map SavedChannel.raw, by
      rw [List.length_map]
      exact cfg.channels.length_le⟩
  usePreset := cfg.usePreset
  spreadFactor := cfg.spreadFactor
  bandwidthCode := cfg.bandwidthCode
  codingRate := cfg.codingRate
  channelNum := cfg.channelNum
  hopLimit := cfg.hopLimit
  txEnabled := cfg.txEnabled
  configOkToMqtt := cfg.configOkToMqtt

theorem toNat_ofNat_length {α : Type} {cap : Nat} (hcap : cap < 256) (v : Bounded α cap) :
    (UInt8.ofNat v.length).toNat = v.length :=
  UInt8.toNat_ofNat_of_lt' (Nat.lt_of_le_of_lt v.length_le hcap)

theorem slice?_raw {cap : Nat} (hcap : cap < 256) (v : Bounded UInt8 cap) :
    slice? (padded 0 v) 0 (UInt8.ofNat v.length).toNat = some v.toList := by
  rw [toNat_ofNat_length hcap]
  exact slice?_padded 0 v

namespace RawConfig

/-! ## No check of the writer fails -/

theorem encodeChannel?_raw (buf : ConfigBuffer) {off : Nat} (h : off + 48 ≤ CONFIG_SIZE)
    (ch : SavedChannel) :
    ∃ written, encodeChannel? buf off ch.raw = some written ∧
      written.toList = encodeChannel buf.toList off ch := by
  have hpsk := ch.psk.length_le
  have hname := ch.name.length_le
  obtain ⟨first, hfirst, hfirstList⟩ := write?_byte buf (by omega : off < CONFIG_SIZE)
    ch.index
  obtain ⟨second, hsecond, hsecondList⟩ :=
    write?_byte first (by omega : off + 1 < CONFIG_SIZE) ch.role
  obtain ⟨third, hthird, hthirdList⟩ := write?_byte second
    (by omega : off + 2 < CONFIG_SIZE) (UInt8.ofNat ch.psk.length)
  obtain ⟨fourth, hfourth, hfourthList⟩ := write?_of_le third
    (by omega : off + 3 + ch.psk.toList.length ≤ CONFIG_SIZE)
  obtain ⟨fifth, hfifth, hfifthList⟩ := write?_byte fourth
    (by omega : off + 35 < CONFIG_SIZE) (UInt8.ofNat ch.name.length)
  obtain ⟨last, hlast, hlastList⟩ := write?_of_le fifth
    (by omega : off + 36 + ch.name.toList.length ≤ CONFIG_SIZE)
  refine ⟨last, ?_, ?_⟩
  · unfold encodeChannel? SavedChannel.raw
    dsimp only
    simp only [hfirst, hsecond, hthird, slice?_raw (by decide : 32 < 256), hfourth, hfifth,
      slice?_raw (by decide : 12 < 256), hlast, Option.bind_eq_bind, Option.bind_some]
  · have hhead : third.toList =
        patch buf.toList off [ch.index, ch.role, UInt8.ofNat ch.psk.length] := by
      have hafter : off + 1 + 1 + [UInt8.ofNat ch.psk.length].length ≤ CONFIG_SIZE := by
        rw [List.length_singleton]
        omega
      rw [patch_cons hfirstList (by simp only [List.length_cons, List.length_nil]; omega),
        patch_cons hsecondList hafter, hthirdList]
    unfold encodeChannel
    rw [hlastList, hfifthList, hfourthList, hhead]

theorem encodeFront?_raw (buf : ConfigBuffer) (cfg : SavedConfig) :
    ∃ written, encodeFront? cfg.raw buf = some written ∧
      written.toList = patches buf.toList (frontWrites cfg) := by
  have hlong := cfg.longName.length_le
  have hshort := cfg.shortName.length_le
  have hsize : CONFIG_SIZE = 512 := rfl
  obtain ⟨b0, h0, hlist0⟩ := write?_of_le buf
    (by decide : 0 + (toLeBytes CONFIG_MAGIC).length ≤ CONFIG_SIZE)
  obtain ⟨b1, h1, hlist1⟩ := write?_byte b0 (by decide : 4 < CONFIG_SIZE) CONFIG_VERSION
  obtain ⟨b2, h2, hlist2⟩ := write?_byte b1 (by decide : 5 < CONFIG_SIZE)
    (UInt8.ofNat cfg.longName.length)
  obtain ⟨b3, h3, hlist3⟩ := write?_of_le b2
    (by omega : 6 + cfg.longName.toList.length ≤ CONFIG_SIZE)
  obtain ⟨b4, h4, hlist4⟩ := write?_byte b3 (by decide : 46 < CONFIG_SIZE)
    (UInt8.ofNat cfg.shortName.length)
  obtain ⟨b5, h5, hlist5⟩ := write?_of_le b4
    (by omega : 47 + cfg.shortName.toList.length ≤ CONFIG_SIZE)
  obtain ⟨b6, h6, hlist6⟩ := write?_byte b5 (by decide : 52 < CONFIG_SIZE) cfg.region
  obtain ⟨b7, h7, hlist7⟩ := write?_byte b6 (by decide : 53 < CONFIG_SIZE)
    cfg.modemPreset
  obtain ⟨b8, h8, hlist8⟩ := write?_byte b7 (by decide : 54 < CONFIG_SIZE) cfg.role
  obtain ⟨b9, h9, hlist9⟩ := write?_byte b8 (by decide : 55 < CONFIG_SIZE)
    (UInt8.ofNat cfg.channels.length)
  refine ⟨b9, ?_, ?_⟩
  · unfold encodeFront? SavedConfig.raw
    dsimp only
    simp only [h0, h1, h2, slice?_raw (by decide : 40 < 256), h3, h4,
      slice?_raw (by decide : 5 < 256), h5, h6, h7, h8, h9, Option.bind_eq_bind,
      Option.bind_some]
  · have hcodes : b9.toList = patch b5.toList 52
        [cfg.region, cfg.modemPreset, cfg.role, UInt8.ofNat cfg.channels.length] := by
      rw [patch_cons hlist6 (by simp [CONFIG_SIZE]), patch_cons hlist7 (by simp [CONFIG_SIZE]),
        patch_cons hlist8 (by simp [CONFIG_SIZE]), hlist9]
    unfold frontWrites patches
    simp only [List.foldl_cons, List.foldl_nil]
    rw [hcodes, hlist5, hlist4, hlist3, hlist2, hlist1, hlist0]

theorem encodeLora?_raw (buf : ConfigBuffer) (cfg : SavedConfig) :
    ∃ written, encodeLora? cfg.raw buf = some written ∧
      written.toList = patches buf.toList (loraWrites cfg) := by
  obtain ⟨b0, h0, hlist0⟩ := write?_byte buf (by decide : 440 < CONFIG_SIZE)
    cfg.usePreset
  obtain ⟨b1, h1, hlist1⟩ := write?_byte b0 (by decide : 441 < CONFIG_SIZE)
    cfg.spreadFactor
  obtain ⟨b2, h2, hlist2⟩ := write?_of_le b1
    (by simp [CONFIG_SIZE] : 442 + [cfg.bandwidthCode.toUInt8,
      (cfg.bandwidthCode >>> 8).toUInt8].length ≤ CONFIG_SIZE)
  obtain ⟨b3, h3, hlist3⟩ := write?_byte b2 (by decide : 444 < CONFIG_SIZE)
    cfg.codingRate
  obtain ⟨b4, h4, hlist4⟩ := write?_of_le b3
    (by simp [CONFIG_SIZE] : 445 + [cfg.channelNum.toUInt8,
      (cfg.channelNum >>> 8).toUInt8].length ≤ CONFIG_SIZE)
  obtain ⟨b5, h5, hlist5⟩ := write?_byte b4 (by decide : 447 < CONFIG_SIZE)
    cfg.hopLimit
  obtain ⟨b6, h6, hlist6⟩ := write?_byte b5 (by decide : 448 < CONFIG_SIZE)
    cfg.txEnabled
  obtain ⟨b7, h7, hlist7⟩ := write?_byte b6 (by decide : 449 < CONFIG_SIZE)
    cfg.configOkToMqtt
  refine ⟨b7, ?_, ?_⟩
  · unfold encodeLora? SavedConfig.raw
    dsimp only
    simp only [h0, h1, h2, h3, h4, h5, h6, h7, Option.bind_eq_bind, Option.bind_some]
  · have hpreset : b1.toList = patch buf.toList 440 [cfg.usePreset, cfg.spreadFactor] := by
      rw [patch_cons hlist0 (by simp [CONFIG_SIZE]), hlist1]
    have hflags : b7.toList =
        patch b4.toList 447 [cfg.hopLimit, cfg.txEnabled, cfg.configOkToMqtt] := by
      rw [patch_cons hlist5 (by simp [CONFIG_SIZE]), patch_cons hlist6 (by simp [CONFIG_SIZE]),
        hlist7]
    unfold loraWrites patches
    simp only [List.foldl_cons, List.foldl_nil]
    rw [hflags, hlist4, hlist3, hlist2, hpreset]

theorem encodeChannels?_prefix (buf : ConfigBuffer) (cfg : SavedConfig) {m : Nat}
    (hm : m ≤ cfg.channels.length) :
    ∃ written, (List.range m).foldlM (fun buf i => do
        encodeChannel? buf (channelOffset i) (← read? cfg.raw.channels i)) buf = some written ∧
      written.toList = (cfg.channels.toList.take m).zipIdx.foldl
        (fun buf (ch, i) => encodeChannel buf (channelOffset i) ch) buf.toList := by
  induction m with
  | zero => exact ⟨buf, rfl, rfl⟩
  | succ m ih =>
      obtain ⟨before, hbefore, hlist⟩ := ih (by omega)
      have hlt : m < cfg.channels.toList.length := hm
      have hcount := cfg.channels.length_le
      have hroom : channelOffset m + 48 ≤ CONFIG_SIZE := by
        unfold channelOffset CONFIG_SIZE
        omega
      have hread : read? cfg.raw.channels m = some cfg.channels.toList[m].raw := by
        unfold SavedConfig.raw
        dsimp only
        rw [read?_padded _ _ (by unfold Bounded.length; rwa [List.length_map]), List.getElem?_map,
          List.getElem?_eq_getElem hlt]
        rfl
      obtain ⟨written, hwritten, hwrittenList⟩ :=
        encodeChannel?_raw before hroom cfg.channels.toList[m]
      refine ⟨written, ?_, ?_⟩
      · rw [List.range_succ, List.foldlM_append, hbefore]
        simp only [Option.bind_eq_bind, Option.bind_some, List.foldlM_cons, List.foldlM_nil,
          hread, hwritten]
        rfl
      · have htake : (cfg.channels.toList.take m).length = m := by
          rw [List.length_take]
          omega
        rw [List.take_succ_eq_append_getElem hlt, List.zipIdx_append, List.foldl_append,
          ← hlist, htake, Nat.zero_add, hwrittenList]
        rfl

theorem encode?_raw (cfg : SavedConfig) :
    ∃ record, encode? cfg.raw = some record ∧ record.toList = encodeConfig cfg := by
  obtain ⟨front, hfront, hfrontList⟩ :=
    encodeFront?_raw (List.Vector.replicate CONFIG_SIZE 0xff) cfg
  obtain ⟨channels, hchannels, hchannelsList⟩ :=
    encodeChannels?_prefix front cfg (Nat.le_refl _)
  obtain ⟨record, hrecord, hrecordList⟩ := encodeLora?_raw channels cfg
  refine ⟨record, ?_, ?_⟩
  · have hcount : cfg.raw.numChannels.toNat = cfg.channels.length :=
      toNat_ofNat_length (by decide) cfg.channels
    unfold encode? encodeChannels?
    rw [hfront]
    simp only [Option.bind_eq_bind, Option.bind_some] at hchannels ⊢
    rw [hcount, hchannels, Option.bind_some]
    exact hrecord
  · rw [hrecordList, hchannelsList, hfrontList, encodeConfig_eq_patches]
    unfold configWrites patches Bounded.length
    rw [List.foldl_append, List.foldl_append, List.foldl_flatMap, List.take_length]
    rfl

/-! ## No check of the reader fails -/

theorem toNat_min (a b : UInt8) : (min a b).toNat = min a.toNat b.toNat := by
  unfold min instMinUInt8 minOfLe
  dsimp only
  split
  · rename_i h
    exact (Nat.min_eq_left h).symm
  · rename_i h
    rw [UInt8.le_iff_toNat_le] at h
    exact (Nat.min_eq_right (by omega)).symm

theorem slice?_ofRecord (buf : ConfigBuffer) {offset cap : Nat} (hcap : cap < 256)
    (h : offset + cap ≤ CONFIG_SIZE) (len : UInt8) :
    min len (UInt8.ofNat cap) =
        UInt8.ofNat (Bounded.ofRecord buf.toList offset len.toNat cap).length ∧
      slice? buf offset (min len (UInt8.ofNat cap)).toNat =
        some (Bounded.ofRecord buf.toList offset len.toNat cap).toList := by
  have hmin : (min len (UInt8.ofNat cap)).toNat = min len.toNat cap := by
    rw [toNat_min, UInt8.toNat_ofNat_of_lt' hcap]
  have hlength : (Bounded.ofRecord buf.toList offset len.toNat cap).length =
      min len.toNat cap := by
    refine length_slice ?_
    rw [buf.toList_length]
    omega
  constructor
  · apply UInt8.toNat_inj.mp
    rw [hmin, hlength, UInt8.toNat_ofNat_of_lt' (Nat.lt_of_le_of_lt (Nat.min_le_right _ _) hcap)]
  · rw [hmin]
    exact slice?_of_le (by omega)

theorem decodeChannel?_eq {buf : ConfigBuffer} {off : Nat} (h : off + 48 ≤ CONFIG_SIZE) :
    decodeChannel? buf off = some (decodeChannel buf.toList off).raw := by
  obtain ⟨hpskLen, hpsk⟩ := slice?_ofRecord buf
    (by decide : 32 < 256) (by omega : off + 3 + 32 ≤ CONFIG_SIZE) (buf.toList.getD (off + 2) 0)
  obtain ⟨hnameLen, hname⟩ := slice?_ofRecord buf
    (by decide : 12 < 256) (by omega : off + 36 + 12 ≤ CONFIG_SIZE) (buf.toList.getD (off + 35) 0)
  change slice? buf (off + 3) (min _ (32 : UInt8)).toNat = _ at hpsk
  change slice? buf (off + 36) (min _ (12 : UInt8)).toNat = _ at hname
  unfold decodeChannel? SavedChannel.raw
  simp only [read?_of_lt (by omega : off < CONFIG_SIZE),
    read?_of_lt (by omega : off + 1 < CONFIG_SIZE),
    read?_of_lt (by omega : off + 2 < CONFIG_SIZE),
    read?_of_lt (by omega : off + 35 < CONFIG_SIZE), hpsk, hname, fill?_toList,
    Option.bind_eq_bind, Option.bind_some, Option.some_inj, RawChannel.mk.injEq]
  exact ⟨rfl, rfl, hpskLen, rfl, hnameLen, rfl⟩

theorem decodeChannels?_eq (buf : ConfigBuffer) {m : Nat} (hm : m ≤ 8) :
    (List.range m).mapM (fun i => decodeChannel? buf (channelOffset i)) =
      some (((List.range m).map fun i => decodeChannel buf.toList (channelOffset i)).map
        SavedChannel.raw) := by
  have hread : ∀ is : List Nat, (∀ i ∈ is, i < 8) →
      is.mapM (fun i => decodeChannel? buf (channelOffset i)) =
        some ((is.map fun i => decodeChannel buf.toList (channelOffset i)).map
          SavedChannel.raw) := by
    intro is
    induction is with
    | nil => exact fun _ => rfl
    | cons i is ih =>
        intro hall
        have hlt := hall i List.mem_cons_self
        have hroom : channelOffset i + 48 ≤ CONFIG_SIZE := by
          unfold channelOffset CONFIG_SIZE
          omega
        rw [List.mapM_cons, decodeChannel?_eq hroom,
          ih fun j hj => hall j (List.mem_cons_of_mem i hj)]
        rfl
  refine hread (List.range m) fun i hi => ?_
  rw [List.mem_range] at hi
  omega

theorem u16At?_of_lt {buf : ConfigBuffer} {offset : Nat} (h : offset + 1 < CONFIG_SIZE) :
    u16At? buf offset = some (u16At buf.toList offset) := by
  unfold u16At? u16At
  rw [read?_of_lt (by omega), read?_of_lt h]
  rfl

/-- No check of the reader fails, and it reads the record. -/
theorem decode?_eq (buf : ConfigBuffer) :
    decode? buf = some ((decodeConfig buf.toList).map SavedConfig.raw) := by
  have hread : ∀ i < CONFIG_SIZE, read? buf i = some (buf.toList.getD i 0) :=
    fun i hi => read?_of_lt hi
  unfold decode? decodeConfig
  rw [wordAt?_of_le (by decide), hread 4 (by decide)]
  simp only [Option.bind_eq_bind, Option.bind_some]
  by_cases hvalid : wordAt buf.toList 0 ≠ CONFIG_MAGIC ∨ buf.toList.getD 4 0 ≠ CONFIG_VERSION
  · rw [if_pos hvalid, if_pos hvalid]
    rfl
  · obtain ⟨hlongLen, hlong⟩ := slice?_ofRecord buf
      (by decide : 40 < 256) (by decide : 6 + 40 ≤ CONFIG_SIZE) (buf.toList.getD 5 0)
    obtain ⟨hshortLen, hshort⟩ := slice?_ofRecord buf
      (by decide : 5 < 256) (by decide : 47 + 5 ≤ CONFIG_SIZE) (buf.toList.getD 46 0)
    change slice? buf 6 (min _ (40 : UInt8)).toNat = _ at hlong
    change slice? buf 47 (min _ (5 : UInt8)).toNat = _ at hshort
    have hcount : (min (buf.toList.getD 55 0) 8).toNat = min (buf.toList.getD 55 0).toNat 8 :=
      toNat_min _ _
    have hchannels := decodeChannels?_eq buf (Nat.min_le_right (buf.toList.getD 55 0).toNat 8)
    have hfill : fill? 8 RawChannel.default (((List.range (min (buf.toList.getD 55 0).toNat 8)).map
        fun i => decodeChannel buf.toList (channelOffset i)).map SavedChannel.raw) = some _ :=
      dif_pos (by
        rw [List.length_map, List.length_map, List.length_range]
        exact Nat.min_le_right _ 8)
    have hnum : min (buf.toList.getD 55 0) 8 =
        UInt8.ofNat ((List.range (min (buf.toList.getD 55 0).toNat 8)).map fun i =>
          decodeChannel buf.toList (channelOffset i)).length := by
      apply UInt8.toNat_inj.mp
      rw [hcount, List.length_map, List.length_range]
      have hle := Nat.min_le_right (buf.toList.getD 55 0).toNat 8
      exact (UInt8.toNat_ofNat_of_lt' (Nat.lt_of_le_of_lt hle (by decide))).symm
    rw [if_neg hvalid, if_neg hvalid, Option.map_some]
    unfold decodeFields? SavedConfig.raw
    simp (disch := decide) only [hread, hlong, hshort, hcount, hchannels, hfill, fill?_toList,
      u16At?_of_lt, Option.bind_eq_bind, Option.bind_some, Option.some_inj, RawConfig.mk.injEq,
      and_true, true_and]
    exact ⟨hlongLen, hshortLen, hnum⟩

/-! ## Reading back -/

theorem reread_of_decodeConfig {buf : Bytes} {cfg : SavedConfig} (h : decodeConfig buf = some cfg) :
    cfg.reread = cfg := by
  unfold decodeConfig at h
  split at h
  · cases h
  · cases h
    unfold SavedConfig.reread
    simp only [SavedConfig.mk.injEq, true_and]
    refine ⟨?_, ?_, ?_, ?_⟩
    · split <;> simp_all
    · split <;> simp_all [DEFAULT_HOP_LIMIT]
    · split <;> simp_all
    · split <;> simp_all

theorem within_raw (cfg : SavedConfig) : cfg.raw.Within := by
  have hle : ∀ {α : Type} {cap : Nat} (v : Bounded α cap), cap < 256 →
      UInt8.ofNat v.length ≤ UInt8.ofNat cap := by
    intro α cap v hcap
    rw [UInt8.le_iff_toNat_le, toNat_ofNat_length hcap, UInt8.toNat_ofNat_of_lt' hcap]
    exact v.length_le
  have hchannel : ∀ ch ∈ cfg.raw.channels.toList,
      ch = RawChannel.default ∨ ∃ saved : SavedChannel, ch = saved.raw := by
    intro ch hch
    rcases List.mem_append.mp hch with hitem | hblank
    · obtain ⟨saved, -, rfl⟩ := List.mem_map.mp hitem
      exact Or.inr ⟨saved, rfl⟩
    · exact Or.inl (List.eq_of_mem_replicate hblank)
  refine ⟨hle cfg.longName (by decide), hle cfg.shortName (by decide),
    hle cfg.channels (by decide), fun ch hch => ?_, fun ch hch => ?_⟩
  · rcases hchannel ch hch with rfl | ⟨saved, rfl⟩
    · decide
    · exact hle saved.psk (by decide)
  · rcases hchannel ch hch with rfl | ⟨saved, rfl⟩
    · decide
    · exact hle saved.name (by decide)

/-- Whatever is on flash, reading it stays in bounds and gives nothing or a configuration whose
lengths fit; writing that stays in bounds too, and it reads back as it is. -/
theorem resave_eq (blob : ConfigBuffer) :
    ∃ decoded, decode? blob = some decoded ∧
      ∀ cfg, decoded = some cfg → cfg.Within ∧
        ∃ record, encode? cfg = some record ∧ decode? record = some (some cfg) := by
  refine ⟨_, decode?_eq blob, fun cfg hcfg => ?_⟩
  obtain ⟨saved, hsaved, rfl⟩ := Option.map_eq_some_iff.mp hcfg
  obtain ⟨record, hrecord, hlist⟩ := encode?_raw saved
  refine ⟨within_raw saved, record, hrecord, ?_⟩
  rw [decode?_eq, hlist, decodeConfig_encodeConfig, reread_of_decodeConfig hsaved]
  rfl

end RawConfig

end Meshtastenstein
