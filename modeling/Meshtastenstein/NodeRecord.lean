import Meshtastenstein.Snapshot
/-!
# The record of a node

What a snapshot record gives back of an entry.  Everything in it is read back but the names,
which are cut to a number of bytes: a name whose cut falls inside a character comes back empty.
-/

namespace Meshtastenstein

open Lib Lib.Bytes Proto

/-! ## Names cut to size -/

theorem isUtf8_iff_exists {bytes : Bytes} :
    isUtf8 bytes = true ↔ ∃ chars : List Char, bytes = chars.flatMap String.utf8EncodeChar := by
  unfold isUtf8
  rw [ByteArray.validateUTF8_eq_true_iff]
  constructor
  · rintro ⟨chars, hchars⟩
    refine ⟨chars, ?_⟩
    have hdata := congrArg (fun bytes => bytes.data.toList) hchars
    simpa [List.utf8Encode] using hdata
  · rintro ⟨chars, rfl⟩
    exact ⟨chars, by simp [List.utf8Encode]⟩

/-- A text that is not empty starts with a character of at most four bytes. -/
theorem exists_firstChar {text : Text} (h : isUtf8 text = true) (hne : text ≠ []) :
    ∃ first, first <+: text ∧ first ≠ [] ∧ isUtf8 first = true ∧ first.length ≤ 4 := by
  obtain ⟨chars, rfl⟩ := isUtf8_iff_exists.mp h
  cases chars with
  | nil => exact absurd rfl hne
  | cons c chars =>
      refine ⟨String.utf8EncodeChar c, ⟨chars.flatMap String.utf8EncodeChar, by simp⟩,
        String.utf8EncodeChar_ne_nil, isUtf8_iff_exists.mpr ⟨[c], by simp⟩, ?_⟩
      rw [String.length_utf8EncodeChar]
      exact c.utf8Size_le_four

/-- The longest prefix of a text that ends on a character boundary and fits in `maxLen`
bytes. -/
structure IsCut (maxLen : Nat) (text cut : Text) : Prop where
  isPrefix : cut <+: text
  isText : isUtf8 cut = true
  fits : cut.length ≤ maxLen
  longest : ∀ other, other <+: text → isUtf8 other = true → other.length ≤ maxLen →
    other.length ≤ cut.length

theorem IsCut.ne_nil {maxLen : Nat} {text cut first : Text} (h : IsCut maxLen text cut)
    (hfirst : first <+: text) (hne : first ≠ []) (htext : isUtf8 first = true)
    (hfits : first.length ≤ maxLen) : cut ≠ [] := by
  rintro rfl
  have hlength := h.longest first hfirst htext hfits
  exact hne (List.eq_nil_of_length_eq_zero (Nat.le_zero.mp hlength))

def keptName (maxLen : Nat) (name : Text) : Text :=
  if isUtf8 (name.take maxLen) then name.take maxLen else []

/-- A name is cut on a character boundary exactly when its first bytes end on one. -/
theorem isCut_keptName_iff {maxLen : Nat} {name : Text} (hfour : 4 ≤ maxLen)
    (h : isUtf8 name = true) :
    IsCut maxLen name (keptName maxLen name) ↔ isUtf8 (name.take maxLen) = true := by
  unfold keptName
  by_cases hboundary : isUtf8 (name.take maxLen) = true
  · rw [if_pos hboundary]
    refine iff_of_true ⟨List.take_prefix _ _, hboundary, List.length_take_le _ _, ?_⟩ hboundary
    intro other hother _ hfits
    have hle := hother.length_le
    rw [List.length_take]
    exact Nat.le_min.mpr ⟨hfits, hle⟩
  · rw [if_neg hboundary]
    refine iff_of_false (fun hcut => ?_) hboundary
    have hne : name ≠ [] := by
      rintro rfl
      exact hboundary (by rw [List.take_nil]; exact h)
    obtain ⟨first, hprefix, hfirst, htext, hlength⟩ := exists_firstChar h hne
    exact hcut.ne_nil hprefix hfirst htext (Nat.le_trans hlength hfour) rfl

/-! ## What is written -/

def recordWrites (n : NodeEntry) : List (Nat × Bytes) :=
  let short := encodeStrField (n.user.map (·.shortName)) 5
  let long := encodeStrField (n.user.map (·.longName)) 28
  [(0, toLeBytes n.nodeNum), (4, toLeBytes n.lastHeard),
    (8, toLeBytes (UInt32.ofNat n.lastSeenMs)),
    (12, toLeBytes (UInt32.ofNat (n.lastSeenMs / 2 ^ 32))),
    (16, [(n.snr.getD 0).toUInt8, n.hopsAway.getD 0, n.nextHop,
      n.isFavorite.toUInt8 ||| n.isIgnored.toUInt8 <<< 1 ||| n.isMuted.toUInt8 <<< 2]),
    (20, [short.2]), (21, short.1.take 5), (26, [long.2]), (27, long.1),
    (55, [(n.user.map (·.role.toInt8.toUInt8)).getD 0,
      (n.user.map (·.hwModel.toInt8.toUInt8)).getD 0,
      n.snr.isSome.toUInt8 ||| n.hopsAway.isSome.toUInt8 <<< 1 ||| n.user.isSome.toUInt8 <<< 2])]

def keyField (n : NodeEntry) : Bytes := (n.pubKey.map (·.val)).getD (List.replicate 32 0)

theorem encodeRecord_eq_patches (n : NodeEntry) :
    encodeRecord n = patches (List.replicate SNAPSHOT_RECORD_SIZE 0)
      (recordWrites n ++ (n.pubKey.map fun key => (64, key.val)).toList) := by
  unfold encodeRecord patches
  rw [List.foldl_append]
  cases n.pubKey with
  | none => rfl
  | some key => rfl

theorem inOrder_recordWrites (n : NodeEntry) : InOrder 0 64 (recordWrites n) := by
  have hshort := length_encodeStrField (n.user.map (·.shortName)) (by decide : 5 ≤ 28)
  have hlong := length_encodeStrField (n.user.map (·.longName)) (Nat.le_refl 28)
  simp only [recordWrites, InOrder, List.length_cons, List.length_nil, length_toLeBytes,
    List.length_take, hshort, hlong]
  omega

theorem inOrder_keyWrite (n : NodeEntry) : InOrder 64 SNAPSHOT_RECORD_SIZE
    (n.pubKey.map fun key => (64, key.val)).toList := by
  cases n.pubKey with
  | none => exact (by decide : 64 ≤ SNAPSHOT_RECORD_SIZE)
  | some key =>
      refine ⟨Nat.le_refl 64, ?_⟩
      change 64 + key.val.length ≤ SNAPSHOT_RECORD_SIZE
      rw [key.property]
      decide

theorem slice_encodeRecord (n : NodeEntry) {offset : Nat} {bytes : Bytes}
    (h : (offset, bytes) ∈ recordWrites n) :
    slice (encodeRecord n) offset bytes.length = bytes := by
  rw [encodeRecord_eq_patches]
  exact slice_patches ((inOrder_recordWrites n).append (inOrder_keyWrite n))
    (by rw [List.length_replicate]) (List.mem_append_left _ h)

theorem slice_key_encodeRecord (n : NodeEntry) : slice (encodeRecord n) 64 32 = keyField n := by
  have hwrites := (inOrder_recordWrites n).append (inOrder_keyWrite n)
  unfold keyField
  rw [encodeRecord_eq_patches]
  cases hkey : n.pubKey with
  | none =>
      have hblank : 64 ≤ (List.replicate SNAPSHOT_RECORD_SIZE (0 : UInt8)).length := by decide
      rw [Option.map_none, Option.toList_none, List.append_nil,
        slice_patches_of_ge (inOrder_recordWrites n) hblank (Nat.le_refl 64)]
      rfl
  | some key =>
      have hwrite : ((64 : Nat), key.val) ∈
          recordWrites n ++ (n.pubKey.map fun key => (64, key.val)).toList := by
        rw [hkey]
        exact List.mem_append_right _ (List.mem_singleton_self _)
      have hslice := @slice_patches 0 SNAPSHOT_RECORD_SIZE _ hwrites
        (List.replicate SNAPSHOT_RECORD_SIZE 0) (by rw [List.length_replicate]) _ hwrite
      rw [hkey, key.property] at hslice
      exact hslice

/-! ## What is read -/

def keptCode (code : Int32) : Int32 := code.toInt8.toUInt8.toUInt32.toInt32

def Proto.User.kept (user : User) : User where
  longName := keptName 28 user.longName
  shortName := keptName 5 user.shortName
  hwModel := keptCode user.hwModel
  role := keptCode user.role

def NodeEntry.reread (n : NodeEntry) : NodeEntry where
  nodeNum := n.nodeNum
  user := n.user.map User.kept
  lastHeard := n.lastHeard
  snr := n.snr
  hopsAway := n.hopsAway
  nextHop := n.nextHop
  lastSeenMs := n.lastSeenMs % 2 ^ 64
  pubKey := n.pubKey.filter (·.isSet)
  isFavorite := n.isFavorite
  isIgnored := n.isIgnored
  isMuted := n.isMuted

/-- A name is read back from its field as far as it fits. -/
theorem slice_strField {buf : Bytes} {offset maxLen size : Nat} {src : Option Text} {len : UInt8}
    (hmax : maxLen ≤ size) (hsize : size ≤ 28) (hlen : len = (encodeStrField src maxLen).2)
    (h : slice buf offset size = (encodeStrField src maxLen).1.take size) :
    min len.toNat maxLen = ((src.getD []).take maxLen).length ∧
      slice buf offset (min len.toNat maxLen) = (src.getD []).take maxLen := by
  unfold encodeStrField at hlen h
  dsimp only at hlen h
  generalize hcut : (src.getD []).take maxLen = cut at hlen h ⊢
  have hfits : cut.length ≤ maxLen := by
    rw [← hcut]
    exact List.length_take_le _ _
  have hmin : min len.toNat maxLen = cut.length := by
    rw [hlen, UInt8.toNat_ofNat_of_lt' (Nat.lt_of_le_of_lt hfits (by
      have hbyte : UInt8.size = 256 := rfl
      omega))]
    exact Nat.min_eq_left hfits
  refine ⟨hmin, ?_⟩
  calc
    slice buf offset (min len.toNat maxLen) = (slice buf offset size).take cut.length := by
      rw [hmin]
      unfold slice
      rw [List.take_take, Nat.min_eq_left (Nat.le_trans hfits hmax)]
    _ = cut := by
      rw [h, List.take_take, Nat.min_eq_left (Nat.le_trans hfits hmax)]
      unfold patch
      rw [List.take_zero, List.nil_append, List.take_append_of_le_length (Nat.le_refl _),
        List.take_length]

theorem millis_of_words (ms : Nat) :
    (UInt32.ofNat ms).toNat + 2 ^ 32 * (UInt32.ofNat (ms / 2 ^ 32)).toNat = ms % 2 ^ 64 := by
  rw [UInt32.toNat_ofNat', UInt32.toNat_ofNat']
  omega

theorem flags_of_byte (a b c : Bool) :
    let byte := a.toUInt8 ||| b.toUInt8 <<< 1 ||| c.toUInt8 <<< 2
    (byte &&& 1 ≠ 0 ↔ a = true) ∧ (byte &&& 2 ≠ 0 ↔ b = true) ∧ (byte &&& 4 ≠ 0 ↔ c = true) := by
  cases a <;> cases b <;> cases c <;> decide

theorem ofBytes?_keyField (n : NodeEntry) :
    (Key.ofBytes? (keyField n)).filter (·.isSet) = n.pubKey.filter (·.isSet) := by
  unfold keyField
  cases n.pubKey with
  | none => rfl
  | some key =>
      have hkey : Key.ofBytes? key.val = some key := dif_pos key.property
      rw [Option.map_some, Option.getD_some, hkey]

theorem shortName_encodeRecord (n : NodeEntry) :
    let len := min ((encodeRecord n).getD 20 0).toNat 5
    let name := ((n.user.map (·.shortName)).getD []).take 5
    len = name.length ∧ slice (encodeRecord n) 21 len = name := by
  have hlen : (encodeRecord n).getD 20 0 = _ :=
    getD_of_slice (@slice_encodeRecord n 20 [(encodeStrField (n.user.map (·.shortName)) 5).2]
      (by simp [recordWrites])) (by decide : 0 < 1)
  have hname := @slice_encodeRecord n 21 ((encodeStrField (n.user.map (·.shortName)) 5).1.take 5)
    (by simp [recordWrites])
  rw [List.length_take, length_encodeStrField _ (by decide : 5 ≤ 28)] at hname
  exact slice_strField (Nat.le_refl 5) (by decide) hlen hname

theorem longName_encodeRecord (n : NodeEntry) :
    let len := min ((encodeRecord n).getD 26 0).toNat 28
    let name := ((n.user.map (·.longName)).getD []).take 28
    len = name.length ∧ slice (encodeRecord n) 27 len = name := by
  have hlen : (encodeRecord n).getD 26 0 = _ :=
    getD_of_slice (@slice_encodeRecord n 26 [(encodeStrField (n.user.map (·.longName)) 28).2]
      (by simp [recordWrites])) (by decide : 0 < 1)
  have hlong := length_encodeStrField (n.user.map (·.longName)) (Nat.le_refl 28)
  have hname := @slice_encodeRecord n 27 (encodeStrField (n.user.map (·.longName)) 28).1
    (by simp [recordWrites])
  rw [hlong] at hname
  refine slice_strField (Nat.le_refl 28) (Nat.le_refl 28) hlen ?_
  rw [hname, List.take_of_length_le (Nat.le_of_eq hlong)]

/-- An entry is read back from its record, unless its number is reserved. -/
theorem decodeRecord_encodeRecord_eq (n : NodeEntry) :
    decodeRecord (encodeRecord n) =
      if n.nodeNum = 0 ∨ n.nodeNum = BROADCAST_ADDR then none else some n.reread := by
  have hword : ∀ offset x, (offset, toLeBytes x) ∈ recordWrites n →
      wordAt (encodeRecord n) offset = x :=
    fun offset x hwrite => wordAt_of_slice (slice_encodeRecord n hwrite)
  have hheard := hword 4 n.lastHeard (by simp [recordWrites])
  have hlow := hword 8 (UInt32.ofNat n.lastSeenMs) (by simp [recordWrites])
  have hhigh := hword 12 (UInt32.ofNat (n.lastSeenMs / 2 ^ 32)) (by simp [recordWrites])
  have hlink := @slice_encodeRecord n 16 [(n.snr.getD 0).toUInt8, n.hopsAway.getD 0, n.nextHop,
    n.isFavorite.toUInt8 ||| n.isIgnored.toUInt8 <<< 1 ||| n.isMuted.toUInt8 <<< 2]
    (by simp [recordWrites])
  have hcodes := @slice_encodeRecord n 55 [(n.user.map (·.role.toInt8.toUInt8)).getD 0,
    (n.user.map (·.hwModel.toInt8.toUInt8)).getD 0,
    n.snr.isSome.toUInt8 ||| n.hopsAway.isSome.toUInt8 <<< 1 ||| n.user.isSome.toUInt8 <<< 2]
    (by simp [recordWrites])
  have hsnr : (encodeRecord n).getD 16 0 = (n.snr.getD 0).toUInt8 :=
    getD_of_slice hlink (by decide : 0 < 4)
  have hhops : (encodeRecord n).getD 17 0 = n.hopsAway.getD 0 :=
    getD_of_slice hlink (by decide : 1 < 4)
  have hnext : (encodeRecord n).getD 18 0 = n.nextHop :=
    getD_of_slice hlink (by decide : 2 < 4)
  have hmarks : (encodeRecord n).getD 19 0 =
      n.isFavorite.toUInt8 ||| n.isIgnored.toUInt8 <<< 1 ||| n.isMuted.toUInt8 <<< 2 :=
    getD_of_slice hlink (by decide : 3 < 4)
  have hrole : (encodeRecord n).getD 55 0 = (n.user.map (·.role.toInt8.toUInt8)).getD 0 :=
    getD_of_slice hcodes (by decide : 0 < 3)
  have hmodel : (encodeRecord n).getD 56 0 = (n.user.map (·.hwModel.toInt8.toUInt8)).getD 0 :=
    getD_of_slice hcodes (by decide : 1 < 3)
  have hknown : (encodeRecord n).getD 57 0 =
      n.snr.isSome.toUInt8 ||| n.hopsAway.isSome.toUInt8 <<< 1 ||| n.user.isSome.toUInt8 <<< 2 :=
    getD_of_slice hcodes (by decide : 2 < 3)
  obtain ⟨hshortLen, hshort⟩ := shortName_encodeRecord n
  obtain ⟨hlongLen, hlong⟩ := longName_encodeRecord n
  have hkey := slice_key_encodeRecord n
  obtain ⟨hfavorite, hignored, hmuted⟩ := flags_of_byte n.isFavorite n.isIgnored n.isMuted
  obtain ⟨hheardSnr, hheardHops, hheardUser⟩ :=
    flags_of_byte n.snr.isSome n.hopsAway.isSome n.user.isSome
  unfold decodeRecord
  dsimp only
  rw [(startsWith_encodeRecord n).2, hshort, hlong, hshortLen, hlongLen, hkey, hheard, hlow, hhigh,
    hsnr, hhops, hnext, hmarks, hrole, hmodel, hknown, millis_of_words, ofBytes?_keyField]
  refine if_congr Iff.rfl rfl (congrArg some ?_)
  simp only [hfavorite, hignored, hmuted, hheardSnr, hheardHops, hheardUser]
  have hmeasured : (if n.snr.isSome = true then some (n.snr.getD 0).toUInt8.toInt8 else none) =
      n.snr := by
    cases n.snr <;> rfl
  have hcounted : (if n.hopsAway.isSome = true then some (n.hopsAway.getD 0) else none) =
      n.hopsAway := by
    cases n.hopsAway <;> rfl
  rw [hmeasured, hcounted, Bool.decide_eq_true, Bool.decide_eq_true, Bool.decide_eq_true]
  unfold NodeEntry.reread
  cases n.user with
  | none => rfl
  | some user =>
      simp only [Option.isSome_some, or_true, if_true]
      rfl

/-! ## What is kept -/

structure Proto.User.Keeps (user kept : User) : Prop where
  role_eq : user.role < 256 → kept.role = user.role
  hwModel_eq : user.hwModel < 256 → kept.hwModel = user.hwModel
  shortName_cut : IsCut 5 user.shortName kept.shortName
  longName_cut : IsCut 28 user.longName kept.longName

structure NodeEntry.Keeps (n kept : NodeEntry) : Prop where
  nodeNum_eq : kept.nodeNum = n.nodeNum
  lastHeard_eq : kept.lastHeard = n.lastHeard
  snr_eq : kept.snr = n.snr
  hopsAway_eq : kept.hopsAway = n.hopsAway
  nextHop_eq : kept.nextHop = n.nextHop
  pubKey_eq : kept.pubKey = n.pubKey
  isFavorite_eq : kept.isFavorite = n.isFavorite
  isIgnored_eq : kept.isIgnored = n.isIgnored
  isMuted_eq : kept.isMuted = n.isMuted
  user : Option.Rel User.Keeps n.user kept.user

structure Proto.User.IsText (user : User) : Prop where
  longName : isUtf8 user.longName = true
  shortName : isUtf8 user.shortName = true

/-- An entry as the handlers leave one: its key is not blank, and the names are text. -/
structure NodeEntry.Sound (n : NodeEntry) : Prop where
  keyed : ∀ key, n.pubKey = some key → key.isSet = true
  named : ∀ user, n.user = some user → user.IsText

/-- A user that fits its record: no code is negative, and the first bytes of the names end on
character boundaries. -/
structure Proto.User.FitsRecord (user : User) : Prop where
  role_nonneg : 0 ≤ user.role
  hwModel_nonneg : 0 ≤ user.hwModel
  shortName_boundary : isUtf8 (user.shortName.take 5) = true
  longName_boundary : isUtf8 (user.longName.take 28) = true

instance (user : User) : Decidable user.FitsRecord :=
  decidable_of_iff (0 ≤ user.role ∧ 0 ≤ user.hwModel ∧ isUtf8 (user.shortName.take 5) = true ∧
      isUtf8 (user.longName.take 28) = true)
    ⟨fun h => ⟨h.1, h.2.1, h.2.2.1, h.2.2.2⟩,
      fun h => ⟨h.role_nonneg, h.hwModel_nonneg, h.shortName_boundary, h.longName_boundary⟩⟩

theorem toInt_keptCode (code : Int32) : (keptCode code).toInt = code.toInt % 256 := by
  have hbits : (keptCode code).toBitVec = (code.toBitVec.signExtend 8).setWidth 32 := by
    simp [keptCode]
  have hlow : (code.toBitVec.signExtend 8).toNat = code.toBitVec.toNat % 256 := by
    simp [BitVec.toNat_signExtend]
  have hlt := code.toBitVec.isLt
  change BitVec.toInt _ = BitVec.toInt _ % 256
  rw [hbits, BitVec.toInt_setWidth, hlow, BitVec.toInt_eq_toNat_bmod, Int.bmod_def, Int.bmod_def]
  omega

theorem keptCode_iff (code : Int32) : (code < 256 → keptCode code = code) ↔ 0 ≤ code := by
  rw [Int32.lt_iff_toInt_lt, Int32.le_iff_toInt_le, ← Int32.toInt_inj, toInt_keptCode]
  change (code.toInt < 256 → _) ↔ 0 ≤ code.toInt
  omega

theorem Proto.User.keeps_kept_iff {user : User} (h : user.IsText) :
    user.Keeps user.kept ↔ user.FitsRecord := by
  have hshort := @isCut_keptName_iff 5 _ (by decide) h.shortName
  have hlong := @isCut_keptName_iff 28 _ (by decide) h.longName
  constructor
  · intro hkeeps
    exact ⟨(keptCode_iff _).mp hkeeps.role_eq, (keptCode_iff _).mp hkeeps.hwModel_eq,
      hshort.mp hkeeps.shortName_cut, hlong.mp hkeeps.longName_cut⟩
  · intro hfits
    exact ⟨(keptCode_iff _).mpr hfits.role_nonneg, (keptCode_iff _).mpr hfits.hwModel_nonneg,
      hshort.mpr hfits.shortName_boundary, hlong.mpr hfits.longName_boundary⟩

theorem NodeEntry.keeps_reread_iff {n : NodeEntry} (h : n.Sound) :
    n.Keeps n.reread ↔ ∀ user, n.user = some user → user.FitsRecord := by
  have hkey : n.reread.pubKey = n.pubKey := by
    change n.pubKey.filter (·.isSet) = n.pubKey
    cases hkey : n.pubKey with
    | none => rfl
    | some key => rw [Option.filter_some, if_pos (h.keyed key hkey)]
  have huser : n.reread.user = n.user.map User.kept := rfl
  constructor
  · intro hkeeps user hsome
    have hrel := hkeeps.user
    rw [huser, hsome] at hrel
    cases hrel with
    | some hkept => exact (User.keeps_kept_iff (h.named user hsome)).mp hkept
  · intro hfits
    refine ⟨rfl, rfl, rfl, rfl, rfl, hkey, rfl, rfl, rfl, ?_⟩
    rw [huser]
    cases hsome : n.user with
    | none => exact Option.Rel.none
    | some user =>
        exact Option.Rel.some ((User.keeps_kept_iff (h.named user hsome)).mpr (hfits user hsome))

/-! ## What a snapshot shows -/

structure KeptUser where
  longName : Text
  shortName : Text
  hwModel : Int32
  role : Int32

/-- What a snapshot shows of an entry, apart from when and how it was heard. -/
structure KeptEntry where
  nodeNum : UInt32
  user : Option KeptUser
  pubKey : Option Key
  nextHop : UInt8
  isFavorite : Bool
  isIgnored : Bool
  isMuted : Bool

def NodeEntry.kept (entry : NodeEntry) : KeptEntry where
  nodeNum := entry.nodeNum
  user := entry.user.map fun user => ⟨user.longName, user.shortName, user.hwModel, user.role⟩
  pubKey := entry.pubKey
  nextHop := entry.nextHop
  isFavorite := entry.isFavorite
  isIgnored := entry.isIgnored
  isMuted := entry.isMuted

structure KeptUser.IsWhole (user : KeptUser) : Prop where
  longName_text : isUtf8 user.longName = true
  longName_fits : user.longName.length ≤ 28
  shortName_text : isUtf8 user.shortName = true
  shortName_fits : user.shortName.length ≤ 5
  hwModel_byte : 0 ≤ user.hwModel ∧ user.hwModel < 256
  role_byte : 0 ≤ user.role ∧ user.role < 256

structure KeptEntry.IsWhole (entry : KeptEntry) : Prop where
  unreserved : ¬ (entry.nodeNum = 0 ∨ entry.nodeNum = BROADCAST_ADDR)
  keyed : ∀ key, entry.pubKey = some key → key.isSet = true
  user : ∀ user, entry.user = some user → user.IsWhole

theorem keptCode_eq_iff (code : Int32) : keptCode code = code ↔ 0 ≤ code ∧ code < 256 := by
  rw [Int32.lt_iff_toInt_lt, Int32.le_iff_toInt_le, ← Int32.toInt_inj, toInt_keptCode]
  change code.toInt % 256 = code.toInt ↔ 0 ≤ code.toInt ∧ code.toInt < 256
  omega

theorem keptCode_keptCode (code : Int32) : keptCode (keptCode code) = keptCode code := by
  rw [← Int32.toInt_inj, toInt_keptCode, toInt_keptCode]
  omega

theorem keptName_of_fits {maxLen : Nat} {name : Text} (htext : isUtf8 name = true)
    (hfits : name.length ≤ maxLen) : keptName maxLen name = name := by
  unfold keptName
  rw [List.take_of_length_le hfits, if_pos htext]

theorem keptName_fits (maxLen : Nat) (name : Text) :
    isUtf8 (keptName maxLen name) = true ∧ (keptName maxLen name).length ≤ maxLen := by
  unfold keptName
  split
  · rename_i htext
    exact ⟨htext, List.length_take_le _ _⟩
  · exact ⟨isUtf8_iff_exists.mpr ⟨[], rfl⟩, Nat.zero_le _⟩

theorem kept_reread_of_isWhole {n : NodeEntry} (h : n.kept.IsWhole) : n.reread.kept = n.kept := by
  have hkey : n.pubKey.filter (·.isSet) = n.pubKey := by
    cases hkey : n.pubKey with
    | none => rfl
    | some key => rw [Option.filter_some, if_pos (h.keyed key hkey)]
  have hwhole := h.user
  unfold NodeEntry.reread NodeEntry.kept at *
  dsimp only at *
  rw [hkey]
  cases huser : n.user with
  | none => rfl
  | some user =>
      rw [huser] at hwhole
      obtain ⟨hlong, hlongFits, hshort, hshortFits, hmodel, hrole⟩ := hwhole _ rfl
      unfold User.kept
      dsimp only [Option.map_some] at *
      rw [keptName_of_fits hlong hlongFits, keptName_of_fits hshort hshortFits,
        (keptCode_eq_iff _).mpr hmodel, (keptCode_eq_iff _).mpr hrole]

theorem isWhole_reread {n : NodeEntry} (h : ¬ (n.nodeNum = 0 ∨ n.nodeNum = BROADCAST_ADDR)) :
    n.reread.kept.IsWhole := by
  refine ⟨h, fun key hkey => ?_, fun user huser => ?_⟩
  · exact (Option.filter_eq_some_iff.mp hkey).2
  · change (n.user.map User.kept).map _ = some user at huser
    obtain ⟨_, hkept, rfl⟩ := Option.map_eq_some_iff.mp huser
    obtain ⟨stored, -, rfl⟩ := Option.map_eq_some_iff.mp hkept
    obtain ⟨hlong, hlongFits⟩ := keptName_fits 28 stored.longName
    obtain ⟨hshort, hshortFits⟩ := keptName_fits 5 stored.shortName
    exact ⟨hlong, hlongFits, hshort, hshortFits, (keptCode_eq_iff _).mp (keptCode_keptCode _),
      (keptCode_eq_iff _).mp (keptCode_keptCode _)⟩

namespace NodeDb

/-- What a snapshot shows of the database. -/
def kept (db : NodeDb) : List KeptEntry := db.nodes.toList.map NodeEntry.kept

def shownBy (buf : Bytes) : List KeptEntry :=
  ((snapshotRecords buf (buf.getD 5 0).toNat).filterMap decodeRecord).map NodeEntry.kept

structure IsWhole (db : NodeDb) : Prop where
  len_le : db.len ≤ MAX_PERSISTED_NODES
  entries : ∀ entry ∈ db.kept, entry.IsWhole

theorem shownBy_toSnapshot (db : NodeDb) :
    shownBy db.toSnapshot =
      (db.persisted.filterMap fun n => decodeRecord (encodeRecord n)).map NodeEntry.kept := by
  obtain ⟨-, -, -, hcount, hrecords⟩ := snapshot_toSnapshot db
  unfold shownBy
  rw [hcount, hrecords, List.filterMap_map]
  rfl

theorem filterMap_decodeRecord {entries : List NodeEntry}
    (h : ∀ entry ∈ entries, ¬ (entry.nodeNum = 0 ∨ entry.nodeNum = BROADCAST_ADDR)) :
    (entries.map encodeRecord).filterMap decodeRecord = entries.map NodeEntry.reread := by
  rw [List.filterMap_map, ← List.filterMap_eq_map]
  refine List.filterMap_congr fun n hn => ?_
  exact (decodeRecord_encodeRecord_eq n).trans (if_neg (h n hn))

/-- The snapshot of a database shows it exactly when it is whole: what is read back of a record
is whole, and a whole entry is read back as it is. -/
theorem perm_shownBy_iff (db : NodeDb) : db.kept.Perm (shownBy db.toSnapshot) ↔ db.IsWhole := by
  rw [shownBy_toSnapshot]
  constructor
  · intro hperm
    refine ⟨?_, fun entry hentry => ?_⟩
    · have hlength := hperm.length_eq
      unfold kept at hlength
      rw [List.length_map, List.length_map] at hlength
      have hread := List.length_filterMap_le (fun n => decodeRecord (encodeRecord n)) db.persisted
      have hle := db.length_persisted_le
      unfold len Bounded.length
      omega
    · obtain ⟨read, hread, rfl⟩ := List.mem_map.mp (hperm.mem_iff.mp hentry)
      obtain ⟨n, -, hdecoded⟩ := List.mem_filterMap.mp hread
      rw [decodeRecord_encodeRecord_eq] at hdecoded
      split at hdecoded
      · cases hdecoded
      · rename_i hnum
        obtain rfl := Option.some.inj hdecoded
        exact isWhole_reread hnum
  · intro h
    have hperm := perm_persisted h.len_le
    have hwhole : ∀ n ∈ db.persisted, n.kept.IsWhole :=
      fun n hn => h.entries _ (List.mem_map_of_mem (hperm.mem_iff.mp hn))
    have hread := filterMap_decodeRecord fun n hn => (hwhole n hn).unreserved
    rw [List.filterMap_map] at hread
    change (db.persisted.filterMap fun n => decodeRecord (encodeRecord n)) = _ at hread
    rw [hread, List.map_map]
    have hsame : db.persisted.map (NodeEntry.kept ∘ NodeEntry.reread) =
        db.persisted.map NodeEntry.kept :=
      List.map_congr_left fun n hn => kept_reread_of_isWhole (hwhole n hn)
    rw [hsame]
    exact (hperm.map NodeEntry.kept).symm

end NodeDb

end Meshtastenstein
