import Meshtastenstein.Lib.Record
import Meshtastenstein.Storage
/-!
# Record layouts

The byte layouts of the records on flash: device configuration, BLE bond, key pair and
message ring.
-/

namespace Meshtastenstein

open Lib Lib.Bytes

def Bounded.ofRecord (buf : Bytes) (offset len cap : Nat) : Bounded UInt8 cap :=
  ⟨slice buf offset (min len cap),
    Nat.le_trans (length_slice_le _ _ _) (Nat.min_le_right len cap)⟩

/-! ## BLE bond -/

def BOND_SIZE : Nat := 48
def BOND_MAGIC : UInt32 := 0x424F4E44
def BOND_VERSION : UInt8 := 2

def bondMagicValid (buf : Bytes) : Bool :=
  wordAt buf 0 == BOND_MAGIC && buf.getD 4 0 == BOND_VERSION

/-! ## Key pair -/

def PKC_BLOB_SIZE : Nat := 4 + 1 + 3 + 32 + 32
def PKC_MAGIC : UInt32 := 0x504B4331
def PKC_VERSION : UInt8 := 1

def encodePkcKeypair (keypair : Key × Key) : Bytes :=
  let buf := List.replicate PKC_BLOB_SIZE 0
  let buf := patch buf 0 (toLeBytes PKC_MAGIC)
  let buf := patch buf 4 [PKC_VERSION]
  let buf := patch buf 8 keypair.1.val
  patch buf 40 keypair.2.val

/-- The key pair of a record; a private key of zeros stands for none. -/
def decodePkcKeypair (buf : Bytes) : Option (Key × Key) :=
  if wordAt buf 0 ≠ PKC_MAGIC ∨ buf.getD 4 0 ≠ PKC_VERSION then none
  else
    match Key.ofBytes? (slice buf 8 32), Key.ofBytes? (slice buf 40 32) with
    | some privKey, some pubKey => if privKey.isSet then some (privKey, pubKey) else none
    | _, _ => none

/-! ## Device configuration -/

def CONFIG_SIZE : Nat := 512
def CONFIG_MAGIC : UInt32 := 0x4D434647
def CONFIG_VERSION : UInt8 := 2

def channelOffset (i : Nat) : Nat := 56 + i * 48

def encodeChannel (buf : Bytes) (offset : Nat) (ch : SavedChannel) : Bytes :=
  let buf := patch buf offset [ch.index, ch.role, UInt8.ofNat ch.psk.length]
  let buf := patch buf (offset + 3) ch.psk.toList
  let buf := patch buf (offset + 35) [UInt8.ofNat ch.name.length]
  patch buf (offset + 36) ch.name.toList

def encodeConfig (cfg : SavedConfig) : Bytes :=
  let buf := List.replicate CONFIG_SIZE 0xff
  let buf := patch buf 0 (toLeBytes CONFIG_MAGIC)
  let buf := patch buf 4 [CONFIG_VERSION]
  let buf := patch buf 5 [UInt8.ofNat cfg.longName.length]
  let buf := patch buf 6 cfg.longName.toList
  let buf := patch buf 46 [UInt8.ofNat cfg.shortName.length]
  let buf := patch buf 47 cfg.shortName.toList
  let buf := patch buf 52
    [cfg.region, cfg.modemPreset, cfg.role, UInt8.ofNat cfg.channels.length]
  let buf := cfg.channels.toList.zipIdx.foldl
    (fun buf (ch, i) => encodeChannel buf (channelOffset i) ch) buf
  let buf := patch buf 440 [cfg.usePreset, cfg.spreadFactor]
  let buf := patch buf 442 [cfg.bandwidthCode.toUInt8, (cfg.bandwidthCode >>> 8).toUInt8]
  let buf := patch buf 444 [cfg.codingRate]
  let buf := patch buf 445 [cfg.channelNum.toUInt8, (cfg.channelNum >>> 8).toUInt8]
  patch buf 447 [cfg.hopLimit, cfg.txEnabled, cfg.configOkToMqtt]

theorem length_encodeChannel {buf : Bytes} {offset : Nat} (h : offset + 48 ≤ buf.length)
    (ch : SavedChannel) : (encodeChannel buf offset ch).length = buf.length := by
  have hpsk := ch.psk.length_le
  have hname := ch.name.length_le
  unfold encodeChannel
  simp only [length_patch_eq, List.length_cons, List.length_nil]
  omega

theorem length_encodeConfig (cfg : SavedConfig) : (encodeConfig cfg).length = CONFIG_SIZE := by
  have hlong := cfg.longName.length_le
  have hshort := cfg.shortName.length_le
  have hchannels : ∀ (slots : List (SavedChannel × Nat)) (buf : Bytes),
      buf.length = CONFIG_SIZE → (∀ slot ∈ slots, slot.2 < 8) →
        (slots.foldl (fun buf (ch, i) => encodeChannel buf (channelOffset i) ch) buf).length =
          CONFIG_SIZE := by
    intro slots
    induction slots with
    | nil => exact fun buf hbuf _ => hbuf
    | cons slot slots ih =>
        intro buf hbuf hslots
        have hslot := hslots slot List.mem_cons_self
        have hfits : channelOffset slot.2 + 48 ≤ buf.length := by
          rw [hbuf]
          unfold channelOffset CONFIG_SIZE
          omega
        exact ih _ ((length_encodeChannel hfits slot.1).trans hbuf)
          fun later hlater => hslots later (List.mem_cons_of_mem slot hlater)
  unfold encodeConfig
  dsimp only
  generalize hfront : patch _ 52 _ = front
  have hlength : front.length = CONFIG_SIZE := by
    rw [← hfront]
    simp only [length_patch_eq, List.length_cons, List.length_nil, List.length_replicate,
      length_toLeBytes]
    unfold CONFIG_SIZE
    omega
  have hfolded := hchannels cfg.channels.toList.zipIdx front hlength fun slot hslot => by
    have hindex := List.snd_lt_of_mem_zipIdx hslot
    have hcount := cfg.channels.length_le
    omega
  simp only [length_patch_eq, List.length_cons, List.length_nil, hfolded]
  decide

def decodeChannel (buf : Bytes) (offset : Nat) : SavedChannel where
  index := buf.getD offset 0
  role := buf.getD (offset + 1) 0
  psk := Bounded.ofRecord buf (offset + 3) (buf.getD (offset + 2) 0).toNat 32
  name := Bounded.ofRecord buf (offset + 36) (buf.getD (offset + 35) 0).toNat 12

def u16At (buf : Bytes) (offset : Nat) : UInt16 :=
  (buf.getD offset 0).toUInt16 ||| (buf.getD (offset + 1) 0).toUInt16 <<< 8

/-- The configuration of a record.  The bytes `0xff` of fields that older records do not
have stand for their defaults. -/
def decodeConfig (buf : Bytes) : Option SavedConfig :=
  if wordAt buf 0 ≠ CONFIG_MAGIC ∨ buf.getD 4 0 ≠ CONFIG_VERSION then none
  else
    some
      { longName := Bounded.ofRecord buf 6 (buf.getD 5 0).toNat 40
        shortName := Bounded.ofRecord buf 47 (buf.getD 46 0).toNat 5
        region := buf.getD 52 0
        modemPreset := buf.getD 53 0
        role := buf.getD 54 0
        channels :=
          ⟨(List.range (min (buf.getD 55 0).toNat 8)).map fun i =>
              decodeChannel buf (channelOffset i), by
            rw [List.length_map, List.length_range]
            exact Nat.min_le_right _ 8⟩
        usePreset := buf.getD 440 0
        spreadFactor := buf.getD 441 0
        bandwidthCode := u16At buf 442
        codingRate := buf.getD 444 0
        channelNum := if u16At buf 445 = 0xffff then 0 else u16At buf 445
        hopLimit := if buf.getD 447 0 = 0xff then DEFAULT_HOP_LIMIT else buf.getD 447 0
        txEnabled := if buf.getD 448 0 = 0xff then 1 else buf.getD 448 0
        configOkToMqtt := if buf.getD 449 0 = 1 then 1 else 0 }

/-! ## Message ring -/

def RING_HEADER_SIZE : Nat := 64
def RING_MAGIC : UInt32 := 0x4D455348

structure RingHeader (capacity : Nat) where
  head : Fin capacity
  tail : Fin capacity
  count : Nat
  count_le : count ≤ capacity

def encodeRingHeader {capacity : Nat} (header : RingHeader capacity) : Bytes :=
  let buf := List.replicate RING_HEADER_SIZE 0xff
  let buf := patch buf 0 (toLeBytes RING_MAGIC)
  let buf := patch buf 4 (toLeBytes (UInt32.ofNat header.head))
  let buf := patch buf 8 (toLeBytes (UInt32.ofNat header.tail))
  patch buf 12 (toLeBytes (UInt32.ofNat header.count))

def decodeRingHeader (buf : Bytes) (capacity : Nat) : Option (RingHeader capacity) :=
  let head := (wordAt buf 4).toNat
  let tail := (wordAt buf 8).toNat
  let count := (wordAt buf 12).toNat
  if wordAt buf 0 ≠ RING_MAGIC then none
  else if h : head < capacity ∧ tail < capacity ∧ count ≤ capacity then
    some { head := ⟨head, h.1⟩, tail := ⟨tail, h.2.1⟩, count := count, count_le := h.2.2 }
  else none

def encodeRingSlotPrefix (buf : Bytes) (valid : Bool) (len : Nat) : Bytes :=
  patch buf 0 [if valid then 1 else 0, UInt8.ofNat len]

def decodeRingSlotPrefix (buf : Bytes) : Bool × Nat :=
  (buf.getD 0 0 == 1, (buf.getD 1 0).toNat)

theorem length_encodeRingHeader {capacity : Nat} (header : RingHeader capacity) :
    (encodeRingHeader header).length = RING_HEADER_SIZE := rfl

/-- The part of a header record that is read back. -/
def RING_HEADER_USED : Nat := 16

theorem decodeRingHeader_congr {buf buf' : Bytes} {capacity : Nat}
    (h : ∀ i < RING_HEADER_USED, buf'.getD i 0 = buf.getD i 0) :
    decodeRingHeader buf' capacity = decodeRingHeader buf capacity := by
  have hword : ∀ offset, offset + 4 ≤ RING_HEADER_USED →
      wordAt buf' offset = wordAt buf offset := by
    intro offset hoffset
    exact wordAt_congr fun i hi => h (offset + i) (by omega)
  unfold decodeRingHeader
  simp only [hword 0 (by decide), hword 4 (by decide), hword 8 (by decide),
    hword 12 (by decide)]

theorem wordAt_encodeRingHeader {capacity : Nat} (header : RingHeader capacity) :
    wordAt (encodeRingHeader header) 0 = RING_MAGIC ∧
      wordAt (encodeRingHeader header) 4 = UInt32.ofNat header.head ∧
      wordAt (encodeRingHeader header) 8 = UInt32.ofNat header.tail ∧
      wordAt (encodeRingHeader header) 12 = UInt32.ofNat header.count := by
  have hpatch : ∀ {buf : Bytes} {offset : Nat} (x : UInt32), buf.length = RING_HEADER_SIZE →
      offset ≤ 12 → (patch buf offset (toLeBytes x)).length = RING_HEADER_SIZE := by
    intro buf offset x hbuf hoffset
    rw [length_patch (by rw [hbuf, length_toLeBytes]; unfold RING_HEADER_SIZE; omega), hbuf]
  have hother : ∀ {buf : Bytes} {offset offset' : Nat} (x : UInt32),
      buf.length = RING_HEADER_SIZE → offset ≤ 12 → offset' + 4 ≤ offset →
        wordAt (patch buf offset (toLeBytes x)) offset' = wordAt buf offset' := by
    intro buf offset offset' x hbuf hoffset hdisjoint
    refine wordAt_patch_of_disjoint ?_ (Or.inl hdisjoint)
    rw [hbuf, length_toLeBytes]
    unfold RING_HEADER_SIZE
    omega
  have hsame : ∀ {buf : Bytes} {offset : Nat} (x : UInt32), buf.length = RING_HEADER_SIZE →
      offset ≤ 12 → wordAt (patch buf offset (toLeBytes x)) offset = x := by
    intro buf offset x hbuf hoffset
    refine wordAt_patch ?_ x
    rw [hbuf]
    unfold RING_HEADER_SIZE
    omega
  have hblank : (List.replicate RING_HEADER_SIZE (0xff : UInt8)).length = RING_HEADER_SIZE :=
    List.length_replicate
  unfold encodeRingHeader
  dsimp only
  have hmagic := hpatch RING_MAGIC hblank (Nat.zero_le 12)
  have hhead := @hpatch _ 4 (UInt32.ofNat header.head) hmagic (by decide)
  have htail := @hpatch _ 8 (UInt32.ofNat header.tail) hhead (by decide)
  refine ⟨?_, ?_, ?_, ?_⟩
  · rw [hother _ htail (by decide) (by decide), hother _ hhead (by decide) (by decide),
      hother _ hmagic (by decide) (by decide), hsame _ hblank (by decide)]
  · rw [hother _ htail (by decide) (by decide), hother _ hhead (by decide) (by decide),
      hsame _ hmagic (by decide)]
  · rw [hother _ htail (by decide) (by decide), hsame _ hhead (by decide)]
  · rw [hsame _ htail (by decide)]

theorem decodeRingHeader_encodeRingHeader {capacity : Nat} (hcapacity : capacity < UInt32.size)
    (header : RingHeader capacity) :
    decodeRingHeader (encodeRingHeader header) capacity = some header := by
  have hword : ∀ n ≤ capacity, (UInt32.ofNat n).toNat = n :=
    fun n hn => UInt32.toNat_ofNat_of_lt' (Nat.lt_of_le_of_lt hn hcapacity)
  obtain ⟨hmagic, hhead, htail, hcount⟩ := wordAt_encodeRingHeader header
  unfold decodeRingHeader
  simp only [hmagic, hhead, htail, hcount, hword _ header.head.isLt.le,
    hword _ header.tail.isLt.le, hword _ header.count_le]
  rw [if_neg (fun h => h rfl), dif_pos ⟨header.head.isLt, header.tail.isLt, header.count_le⟩]

end Meshtastenstein
