import Meshtastenstein.Bonds
import Meshtastenstein.MessageRing
/-!
# Reading bonds back

A bond that is written comes back from its record, and from flash, except that its address is
taken for a random one.
-/

namespace Meshtastenstein

open Lib Lib.Bytes Lib.NorFlash

def key128OfBytes? (bytes : Bytes) : Option Key128 :=
  if h : bytes.length = 16 then some ⟨bytes, h⟩ else none

def SecurityLevel.ofCode (code : UInt8) : SecurityLevel :=
  if code = 1 then encrypted else if code = 2 then encryptedAuthenticated else noEncryption

/-- The bond of a record, where `irkFromLeBytes` is how the host makes a resolving key of its
bytes. -/
def deserializeBond (irkFromLeBytes : Key128 → Option Key128) (b : Bytes) :
    Option BondInformation :=
  if bondMagicValid b = false then none
  else do
    let addr : Address :=
      { kind := .randomAddr
        raw := ⟨[b.getD 5 0, b.getD 6 0, b.getD 7 0, b.getD 8 0, b.getD 9 0, b.getD 10 0], rfl⟩ }
    let irk ← (if b.getD 11 0 ≠ 0 then (key128OfBytes? (slice b 12 16)).map irkFromLeBytes
      else some none : Option (Option Key128))
    let ltk ← key128OfBytes? (slice b 28 16)
    some
      { ltk := ltk
        identity := { addr := addr, irk := irk }
        securityLevel := SecurityLevel.ofCode (b.getD 44 0)
        isBonded := b.getD 45 0 != 0 }

/-! ## What is written -/

def bondFront (info : BondInformation) : List (Nat × Bytes) :=
  [(0, toLeBytes BOND_MAGIC), (4, [BOND_VERSION]), (5, info.identity.addr.raw.val)]

def bondIrk : Option Key128 → List (Nat × Bytes)
  | some irk => [(11, [1]), (12, irk.val)]
  | none => []

def bondBack (info : BondInformation) : List (Nat × Bytes) :=
  [(28, info.ltk.val), (44, [info.securityLevel.code]), (45, [info.isBonded.toUInt8])]

def bondWrites (info : BondInformation) : List (Nat × Bytes) :=
  bondFront info ++ (bondIrk info.identity.irk ++ bondBack info)

theorem serializeBond_eq_patches (info : BondInformation) :
    serializeBond info = patches (List.replicate BOND_SIZE 0) (bondWrites info) := by
  unfold serializeBond bondWrites
  cases info.identity.irk <;> rfl

theorem inOrder_bondFront (info : BondInformation) : InOrder 0 11 (bondFront info) := by
  have hraw := info.identity.addr.raw.property
  simp only [bondFront, InOrder, List.length_cons, List.length_nil, length_toLeBytes]
  omega

theorem inOrder_bondIrk (irk : Option Key128) : InOrder 11 28 (bondIrk irk) := by
  cases irk with
  | none => exact (by decide : 11 ≤ 28)
  | some irk =>
      have hirk := irk.property
      simp only [bondIrk, InOrder, List.length_cons, List.length_nil]
      omega

theorem inOrder_bondBack (info : BondInformation) : InOrder 28 BOND_SIZE (bondBack info) := by
  have hltk := info.ltk.property
  simp only [bondBack, InOrder, List.length_cons, List.length_nil, BOND_SIZE]
  omega

theorem inOrder_bondWrites (info : BondInformation) : InOrder 0 BOND_SIZE (bondWrites info) :=
  (inOrder_bondFront info).append
    ((inOrder_bondIrk info.identity.irk).append (inOrder_bondBack info))

theorem slice_serializeBond (info : BondInformation) {offset : Nat} {bytes : Bytes}
    (h : (offset, bytes) ∈ bondWrites info) :
    slice (serializeBond info) offset bytes.length = bytes := by
  rw [serializeBond_eq_patches]
  exact slice_patches (inOrder_bondWrites info) (by rw [List.length_replicate]) h

/-- Without a resolving key its flag stays clear. -/
theorem irkFlag_serializeBond {info : BondInformation} (h : info.identity.irk = none) :
    (serializeBond info).getD 11 0 = 0 := by
  have hslice : slice (serializeBond info) 11 1 = [0] := by
    rw [serializeBond_eq_patches]
    unfold bondWrites
    rw [h]
    exact slice_patches_of_gap (inOrder_bondFront info) (inOrder_bondBack info)
      (by rw [List.length_replicate]) (Nat.le_refl 11) (by decide)
  exact getD_of_slice hslice Nat.zero_lt_one

/-! ## What is read -/

theorem SecurityLevel.ofCode_code (level : SecurityLevel) : ofCode level.code = level := by
  cases level <;> rfl

theorem key128OfBytes?_val (key : Key128) : key128OfBytes? key.val = some key :=
  dif_pos key.property

def BondInformation.withRandomAddr (info : BondInformation) : BondInformation :=
  { info with
    identity := { info.identity with addr := { info.identity.addr with kind := .randomAddr } } }

theorem withRandomAddr_eq_iff (info : BondInformation) :
    info.withRandomAddr = info ↔ info.identity.addr.kind = .randomAddr := by
  obtain ⟨ltk, ⟨⟨kind, raw⟩, irk⟩, level, bonded⟩ := info
  unfold BondInformation.withRandomAddr
  simp only [BondInformation.mk.injEq, Identity.mk.injEq, Address.mk.injEq, and_true, true_and]
  exact eq_comm

theorem raw_serializeBond (info : BondInformation) :
    [(serializeBond info).getD 5 0, (serializeBond info).getD 6 0, (serializeBond info).getD 7 0,
      (serializeBond info).getD 8 0, (serializeBond info).getD 9 0,
      (serializeBond info).getD 10 0] = info.identity.addr.raw.val := by
  have hraw := info.identity.addr.raw.property
  have hwrite : (5, info.identity.addr.raw.val) ∈ bondFront info := by simp [bondFront]
  have hslice := slice_serializeBond info (List.mem_append_left _ hwrite)
  rw [hraw] at hslice
  have hat : ∀ i < 6, (serializeBond info).getD (5 + i) 0 =
      info.identity.addr.raw.val.getD i 0 := fun i hi => getD_of_slice hslice hi
  rw [hat 0 (by decide), hat 1 (by decide), hat 2 (by decide), hat 3 (by decide),
    hat 4 (by decide), hat 5 (by decide)]
  generalize info.identity.addr.raw.val = raw at hraw
  match raw, hraw with
  | [_, _, _, _, _, _], _ => rfl

/-- The resolving key is in the record exactly when its flag says so. -/
theorem irk_serializeBond {irkFromLeBytes : Key128 → Option Key128} {info : BondInformation}
    (hirk : ∀ irk, info.identity.irk = some irk → irkFromLeBytes irk = some irk) :
    (if (serializeBond info).getD 11 0 ≠ 0 then
        (key128OfBytes? (slice (serializeBond info) 12 16)).map irkFromLeBytes
      else some none) = some info.identity.irk := by
  cases hfound : info.identity.irk with
  | none => rw [if_neg (not_not_intro (irkFlag_serializeBond hfound))]
  | some irk =>
      have hwrites : ∀ write ∈ bondIrk (some irk), write ∈ bondWrites info := by
        intro write hwrite
        rw [← hfound] at hwrite
        exact List.mem_append_right _ (List.mem_append_left _ hwrite)
      have hflag : (serializeBond info).getD 11 0 = 1 :=
        getD_of_slice (slice_serializeBond info (hwrites (11, [1]) (by simp [bondIrk])))
          Nat.zero_lt_one
      have hslice := slice_serializeBond info (hwrites (12, irk.val) (by simp [bondIrk]))
      rw [irk.property] at hslice
      rw [hflag, if_pos (by decide), hslice, key128OfBytes?_val, Option.map_some,
        hirk irk hfound]

/-- A bond comes back from its record with its address taken for a random one. -/
theorem deserializeBond_serializeBond {irkFromLeBytes : Key128 → Option Key128}
    {info : BondInformation}
    (hirk : ∀ irk, info.identity.irk = some irk → irkFromLeBytes irk = some irk) :
    deserializeBond irkFromLeBytes (serializeBond info) = some info.withRandomAddr := by
  have hread : ∀ offset bytes, (offset, bytes) ∈ bondBack info →
      slice (serializeBond info) offset bytes.length = bytes := fun offset bytes hwrite =>
    slice_serializeBond info (List.mem_append_right _ (List.mem_append_right _ hwrite))
  have hltk := hread 28 info.ltk.val (by simp [bondBack])
  rw [info.ltk.property] at hltk
  have hlevel : (serializeBond info).getD 44 0 = info.securityLevel.code :=
    getD_of_slice (hread 44 [info.securityLevel.code] (by simp [bondBack])) Nat.zero_lt_one
  have hbonded : (serializeBond info).getD 45 0 = info.isBonded.toUInt8 :=
    getD_of_slice (hread 45 [info.isBonded.toUInt8] (by simp [bondBack])) Nat.zero_lt_one
  have hflag : (info.isBonded.toUInt8 != 0) = info.isBonded := by
    cases info.isBonded <;> rfl
  unfold deserializeBond
  rw [(isBondRecord_serializeBond info).magicValid, if_neg (by decide)]
  simp only [irk_serializeBond hirk, hltk, key128OfBytes?_val, raw_serializeBond, hlevel,
    hbonded, hflag, SecurityLevel.ofCode_code, Option.bind_eq_bind, Option.bind_some]
  rfl

namespace NvsStorage

variable {medium : Medium} {F : Type} [WorkingFlash medium F] {partition : Partition F}

/-- A bond comes back as it was negotiated, from its record and from flash, exactly when its
address is a random one. -/
theorem bond_roundTrip_iff {irkFromLeBytes : Key128 → Option Key128} (info : BondInformation)
    (hirk : ∀ irk, info.identity.irk = some irk → irkFromLeBytes irk = some irk)
    (s : partition.Storage) :
    (deserializeBond irkFromLeBytes (serializeBond info) = some info ∧
        (s.saveBond (serializeBond info)).1.loadBond.bind (deserializeBond irkFromLeBytes) =
          some info) ↔
      info.identity.addr.kind = .randomAddr := by
  rw [loadBond_saveBond (isBondRecord_serializeBond info) s, Option.bind_some, and_self,
    deserializeBond_serializeBond hirk, Option.some_inj, withRandomAddr_eq_iff]

/-- A bond with a phone under an address of a kind, with a resolving key. -/
def phoneBond (kind : AddrKind) : BondInformation where
  ltk := ⟨List.replicate 16 0x3c, rfl⟩
  identity :=
    { addr := { kind := kind, raw := ⟨[0x11, 0x22, 0x33, 0x44, 0x55, 0xc6], rfl⟩ }
      irk := some ⟨List.replicate 16 0x5a, rfl⟩ }
  securityLevel := .encryptedAuthenticated
  isBonded := true

/-- A resolving key is a number other than zero. -/
def irkOfBytes (bytes : Key128) : Option Key128 :=
  if bytes.val.any (· != 0) then some bytes else none

theorem phoneBond_roundTrip :
    let s := opened wholeFlash blankImage
    deserializeBond irkOfBytes (serializeBond (phoneBond .randomAddr)) =
        some (phoneBond .randomAddr) ∧
      (s.saveBond (serializeBond (phoneBond .randomAddr))).1.loadBond.bind
        (deserializeBond irkOfBytes) = some (phoneBond .randomAddr) := by
  refine (bond_roundTrip_iff (phoneBond .randomAddr) ?_ _).mpr rfl
  intro irk hirk
  cases hirk
  rfl

/-- A phone with a public address comes back as another one. -/
theorem phoneBond_public_lost :
    deserializeBond irkOfBytes (serializeBond (phoneBond .publicAddr)) =
        some (phoneBond .randomAddr) ∧
      phoneBond .randomAddr ≠ phoneBond .publicAddr := by
  decide +kernel

end NvsStorage

end Meshtastenstein
