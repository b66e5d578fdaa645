import Meshtastenstein.Persistence
/-!
# The configuration record

Every field of a saved configuration is read back from where it was written, up to the
values that stand for "unset".
-/

namespace Meshtastenstein

open Lib Lib.Bytes

/-! ## What is written -/

def channelWrites (i : Nat) (ch : SavedChannel) : List (Nat × Bytes) :=
  [(channelOffset i, [ch.index, ch.role, UInt8.ofNat ch.psk.length]),
    (channelOffset i + 3, ch.psk.toList),
    (channelOffset i + 35, [UInt8.ofNat ch.name.length]),
    (channelOffset i + 36, ch.name.toList)]

def frontWrites (cfg : SavedConfig) : List (Nat × Bytes) :=
  [(0, toLeBytes CONFIG_MAGIC), (4, [CONFIG_VERSION]),
    (5, [UInt8.ofNat cfg.longName.length]), (6, cfg.longName.toList),
    (46, [UInt8.ofNat cfg.shortName.length]), (47, cfg.shortName.toList),
    (52, [cfg.region, cfg.modemPreset, cfg.role, UInt8.ofNat cfg.channels.length])]

def loraWrites (cfg : SavedConfig) : List (Nat × Bytes) :=
  [(440, [cfg.usePreset, cfg.spreadFactor]),
    (442, [cfg.bandwidthCode.toUInt8, (cfg.bandwidthCode >>> 8).toUInt8]),
    (444, [cfg.codingRate]),
    (445, [cfg.channelNum.toUInt8, (cfg.channelNum >>> 8).toUInt8]),
    (447, [cfg.hopLimit, cfg.txEnabled, cfg.configOkToMqtt])]

def configWrites (cfg : SavedConfig) : List (Nat × Bytes) :=
  frontWrites cfg ++
    (cfg.channels.toList.zipIdx.flatMap (fun (ch, i) => channelWrites i ch) ++ loraWrites cfg)

theorem encodeConfig_eq_patches (cfg : SavedConfig) :
    encodeConfig cfg = patches (List.replicate CONFIG_SIZE 0xff) (configWrites cfg) := by
  unfold patches configWrites
  rw [List.foldl_append, List.foldl_append, List.foldl_flatMap]
  rfl

theorem inOrder_channelWrites (i : Nat) (ch : SavedChannel) :
    InOrder (channelOffset i) (channelOffset (i + 1)) (channelWrites i ch) := by
  have hpsk := ch.psk.length_le
  have hname := ch.name.length_le
  simp only [channelWrites, InOrder, channelOffset, List.length_cons, List.length_nil]
  omega

theorem inOrder_allChannelWrites (channels : List SavedChannel) (i : Nat) :
    InOrder (channelOffset i) (channelOffset (i + channels.length))
      ((channels.zipIdx i).flatMap fun (ch, i) => channelWrites i ch) := by
  induction channels generalizing i with
  | nil => exact Nat.le_refl _
  | cons ch channels ih =>
      have hrest := ih (i + 1)
      rw [List.zipIdx_cons, List.flatMap_cons, List.length_cons,
        show i + (channels.length + 1) = i + 1 + channels.length by omega]
      exact (inOrder_channelWrites i ch).append hrest

theorem inOrder_configWrites (cfg : SavedConfig) : InOrder 0 CONFIG_SIZE (configWrites cfg) := by
  have hlong := cfg.longName.length_le
  have hshort := cfg.shortName.length_le
  have hfront : InOrder 0 (channelOffset 0) (frontWrites cfg) := by
    simp only [frontWrites, InOrder, channelOffset, List.length_cons, List.length_nil,
      length_toLeBytes]
    omega
  have hchannels := inOrder_allChannelWrites cfg.channels.toList 0
  have hlora : InOrder (channelOffset (0 + cfg.channels.toList.length)) CONFIG_SIZE
      (loraWrites cfg) := by
    have hcount := cfg.channels.length_le
    simp only [loraWrites, InOrder, channelOffset, CONFIG_SIZE, List.length_cons,
      List.length_nil]
    omega
  exact hfront.append (hchannels.append hlora)

theorem slice_encodeConfig (cfg : SavedConfig) {offset : Nat} {bytes : Bytes}
    (h : (offset, bytes) ∈ configWrites cfg) :
    slice (encodeConfig cfg) offset bytes.length = bytes := by
  rw [encodeConfig_eq_patches]
  exact slice_patches (inOrder_configWrites cfg) (by rw [List.length_replicate]) h

/-! ## What is read -/

theorem ofRecord_of_slice {cap : Nat} {buf : Bytes} {offset len : Nat} {v : Bounded UInt8 cap}
    (h : slice buf offset v.toList.length = v.toList) (hlen : len = v.length) :
    Bounded.ofRecord buf offset len cap = v := by
  have hmin : min len cap = v.toList.length := by
    rw [hlen]
    exact Nat.min_eq_left v.length_le
  apply Bounded.ext
  calc
    slice buf offset (min len cap) = slice buf offset v.toList.length := by rw [hmin]
    _ = v.toList := h

theorem ofRecord_eq {cap : Nat} {buf : Bytes} {offset at' : Nat} {v : Bounded UInt8 cap}
    (hcap : cap < 256) (hlen : buf.getD at' 0 = UInt8.ofNat v.length)
    (h : slice buf offset v.toList.length = v.toList) :
    Bounded.ofRecord buf offset (buf.getD at' 0).toNat cap = v := by
  refine ofRecord_of_slice h ?_
  rw [hlen]
  exact UInt8.toNat_ofNat_of_lt' (Nat.lt_of_le_of_lt v.length_le hcap)

theorem u16_ofBytes (x : UInt16) :
    x.toUInt8.toUInt16 ||| (x >>> 8).toUInt8.toUInt16 <<< 8 = x := by
  have hx : x.toNat < 65536 := x.toNat_lt
  have hlow : (x.toUInt8.toUInt16).toNat = x.toNat % 256 := by simp
  have hhigh : ((x >>> 8).toUInt8.toUInt16 <<< 8).toNat = (x.toNat / 256) <<< 8 := by
    have hshift : x.toNat >>> 8 = x.toNat / 256 := Nat.shiftRight_eq_div_pow _ 8
    simp [hshift, Nat.shiftLeft_eq]
    omega
  apply UInt16.toNat_inj.mp
  calc
    _ = x.toNat % 256 ||| (x.toNat / 256) <<< 8 := by rw [UInt16.toNat_or, hlow, hhigh]
    _ = (x.toNat / 256) <<< 8 + x.toNat % 256 := by
      rw [Nat.or_comm, Nat.shiftLeft_add_eq_or_of_lt (by omega)]
    _ = x.toNat := by
      rw [Nat.shiftLeft_eq]
      omega

theorem u16At_eq {buf : Bytes} {offset : Nat} {x : UInt16}
    (h : slice buf offset 2 = [x.toUInt8, (x >>> 8).toUInt8]) : u16At buf offset = x := by
  have hlow : buf.getD (offset + 0) 0 = x.toUInt8 := getD_of_slice h (Nat.zero_lt_two)
  have hhigh : buf.getD (offset + 1) 0 = (x >>> 8).toUInt8 := getD_of_slice h Nat.one_lt_two
  unfold u16At
  rw [← Nat.add_zero offset, hlow, Nat.add_zero, hhigh]
  exact u16_ofBytes x

/-- A configuration as it is read back: what stands for "unset" reads as the default. -/
def SavedConfig.reread (cfg : SavedConfig) : SavedConfig :=
  { cfg with
    channelNum := if cfg.channelNum = 0xffff then 0 else cfg.channelNum
    hopLimit := if cfg.hopLimit = 0xff then DEFAULT_HOP_LIMIT else cfg.hopLimit
    txEnabled := if cfg.txEnabled = 0xff then 1 else cfg.txEnabled
    configOkToMqtt := if cfg.configOkToMqtt = 1 then 1 else 0 }

theorem decodeChannel_encodeConfig (cfg : SavedConfig) {i : Nat} {ch : SavedChannel}
    (h : cfg.channels.toList[i]? = some ch) :
    decodeChannel (encodeConfig cfg) (channelOffset i) = ch := by
  have hwrites : ∀ write ∈ channelWrites i ch, write ∈ configWrites cfg := by
    intro write hwrite
    refine List.mem_append_right _ (List.mem_append_left _
      (List.mem_flatMap.mpr ⟨(ch, i), ?_, hwrite⟩))
    exact List.mem_zipIdx_iff_getElem?.mpr h
  have hread : ∀ offset bytes, (offset, bytes) ∈ channelWrites i ch →
      slice (encodeConfig cfg) offset bytes.length = bytes :=
    fun _ _ hwrite => slice_encodeConfig cfg (hwrites _ hwrite)
  have hhead := hread (channelOffset i) [ch.index, ch.role, UInt8.ofNat ch.psk.length]
    (by simp [channelWrites])
  have hpsk := hread (channelOffset i + 3) ch.psk.toList (by simp [channelWrites])
  have hnameLen := hread (channelOffset i + 35) [UInt8.ofNat ch.name.length]
    (by simp [channelWrites])
  have hname := hread (channelOffset i + 36) ch.name.toList (by simp [channelWrites])
  generalize encodeConfig cfg = buf at hhead hpsk hnameLen hname
  have hindex : buf.getD (channelOffset i) 0 = ch.index :=
    getD_of_slice hhead (Nat.zero_lt_succ 2)
  have hrole : buf.getD (channelOffset i + 1) 0 = ch.role :=
    getD_of_slice hhead (Nat.succ_lt_succ (Nat.zero_lt_succ 1))
  have hpskLen : buf.getD (channelOffset i + 2) 0 = UInt8.ofNat ch.psk.length :=
    getD_of_slice hhead (Nat.lt_succ_self 2)
  have hlen : buf.getD (channelOffset i + 35) 0 = UInt8.ofNat ch.name.length :=
    getD_of_slice hnameLen Nat.zero_lt_one
  unfold decodeChannel
  rw [ofRecord_eq (by decide) hpskLen hpsk, ofRecord_eq (by decide) hlen hname, hindex, hrole]

theorem decodeChannels_encodeConfig (cfg : SavedConfig)
    (h : (encodeConfig cfg).getD 55 0 = UInt8.ofNat cfg.channels.length) :
    (List.range (min ((encodeConfig cfg).getD 55 0).toNat 8)).map
      (fun i => decodeChannel (encodeConfig cfg) (channelOffset i)) = cfg.channels.toList := by
  have hcount : ((encodeConfig cfg).getD 55 0).toNat = cfg.channels.toList.length := by
    rw [h]
    exact UInt8.toNat_ofNat_of_lt' (Nat.lt_of_le_of_lt cfg.channels.length_le (by decide))
  rw [hcount, Nat.min_eq_left cfg.channels.length_le]
  apply List.ext_getElem
  · rw [List.length_map, List.length_range]
  · intro i _ hi
    rw [List.getElem_map, List.getElem_range]
    exact decodeChannel_encodeConfig cfg (List.getElem?_eq_getElem hi)

theorem decodeConfig_encodeConfig (cfg : SavedConfig) :
    decodeConfig (encodeConfig cfg) = some cfg.reread := by
  have hread : ∀ offset bytes, (offset, bytes) ∈ frontWrites cfg ++ loraWrites cfg →
      slice (encodeConfig cfg) offset bytes.length = bytes := by
    intro offset bytes hwrite
    apply slice_encodeConfig
    rcases List.mem_append.mp hwrite with hfront | hlora
    · exact List.mem_append_left _ hfront
    · exact List.mem_append_right _ (List.mem_append_right _ hlora)
  have hmagic := hread 0 (toLeBytes CONFIG_MAGIC) (by simp [frontWrites])
  have hversion := hread 4 [CONFIG_VERSION] (by simp [frontWrites])
  have hlongLen := hread 5 [UInt8.ofNat cfg.longName.length] (by simp [frontWrites])
  have hlong := hread 6 cfg.longName.toList (by simp [frontWrites])
  have hshortLen := hread 46 [UInt8.ofNat cfg.shortName.length] (by simp [frontWrites])
  have hshort := hread 47 cfg.shortName.toList (by simp [frontWrites])
  have hcodes := hread 52
    [cfg.region, cfg.modemPreset, cfg.role, UInt8.ofNat cfg.channels.length] (by simp [frontWrites])
  have hpreset := hread 440 [cfg.usePreset, cfg.spreadFactor] (by simp [loraWrites])
  have hbandwidth := hread 442
    [cfg.bandwidthCode.toUInt8, (cfg.bandwidthCode >>> 8).toUInt8] (by simp [loraWrites])
  have hcodingRate := hread 444 [cfg.codingRate] (by simp [loraWrites])
  have hchannelNum := hread 445
    [cfg.channelNum.toUInt8, (cfg.channelNum >>> 8).toUInt8] (by simp [loraWrites])
  have hflags := hread 447 [cfg.hopLimit, cfg.txEnabled, cfg.configOkToMqtt]
    (by simp [loraWrites])
  have hslots := decodeChannels_encodeConfig cfg
    (getD_of_slice hcodes (Nat.lt_succ_self 3))
  generalize encodeConfig cfg = buf at *
  have hcode : ∀ i < 4, buf.getD (52 + i) 0 =
      [cfg.region, cfg.modemPreset, cfg.role, UInt8.ofNat cfg.channels.length].getD i 0 :=
    fun i hi => getD_of_slice hcodes hi
  have hflag : ∀ i < 3, buf.getD (447 + i) 0 =
      [cfg.hopLimit, cfg.txEnabled, cfg.configOkToMqtt].getD i 0 :=
    fun i hi => getD_of_slice hflags hi
  have hvalid : ¬ (wordAt buf 0 ≠ CONFIG_MAGIC ∨ buf.getD 4 0 ≠ CONFIG_VERSION) := by
    rintro (h | h)
    · exact h (wordAt_of_slice hmagic)
    · exact h (getD_of_slice hversion Nat.zero_lt_one)
  unfold decodeConfig SavedConfig.reread
  rw [if_neg hvalid]
  congr 1
  simp only [SavedConfig.mk.injEq]
  refine ⟨?_, ?_, ?_, ?_, ?_, ?_, ?_, ?_, ?_, ?_, ?_, ?_, ?_, ?_⟩
  · exact ofRecord_eq (by decide) (getD_of_slice hlongLen Nat.zero_lt_one) hlong
  · exact ofRecord_eq (by decide) (getD_of_slice hshortLen Nat.zero_lt_one) hshort
  · exact hcode 0 (by decide)
  · exact hcode 1 (by decide)
  · exact hcode 2 (by decide)
  · exact Bounded.ext hslots
  · exact getD_of_slice hpreset Nat.zero_lt_two
  · exact getD_of_slice hpreset Nat.one_lt_two
  · exact u16At_eq hbandwidth
  · exact getD_of_slice hcodingRate Nat.zero_lt_one
  · rw [u16At_eq hchannelNum]
  · rw [show buf.getD 447 0 = cfg.hopLimit from hflag 0 (by decide)]
  · rw [show buf.getD 448 0 = cfg.txEnabled from hflag 1 (by decide)]
  · rw [show buf.getD 449 0 = cfg.configOkToMqtt from hflag 2 (by decide)]

end Meshtastenstein
