import Meshtastenstein.Sectors
/-!
# Bonds

What the BLE host knows of a phone it is bonded with, and the record of it on flash.
-/

namespace Meshtastenstein

open Lib Lib.Bytes Lib.NorFlash

inductive AddrKind
  | publicAddr
  | randomAddr
deriving DecidableEq

structure Address where
  kind : AddrKind
  raw : { bytes : Bytes // bytes.length = 6 }
deriving DecidableEq

/-- A 128-bit key as its bytes, the lowest first. -/
abbrev Key128 := { bytes : Bytes // bytes.length = 16 }

structure Identity where
  addr : Address
  irk : Option Key128
deriving DecidableEq

inductive SecurityLevel
  | noEncryption
  | encrypted
  | encryptedAuthenticated
deriving DecidableEq

structure BondInformation where
  ltk : Key128
  identity : Identity
  securityLevel : SecurityLevel
  isBonded : Bool
deriving DecidableEq

def SecurityLevel.code : SecurityLevel → UInt8
  | noEncryption => 0
  | encrypted => 1
  | encryptedAuthenticated => 2

/-! ## Records -/

def initBondHeader (b : Bytes) : Bytes :=
  patch (patch b 0 (toLeBytes BOND_MAGIC)) 4 [BOND_VERSION]

def serializeBond (info : BondInformation) : Bytes :=
  let b := initBondHeader (List.replicate BOND_SIZE 0)
  let b := patch b 5 info.identity.addr.raw.val
  let b :=
    match info.identity.irk with
    | some irk => patch (patch b 11 [1]) 12 irk.val
    | none => b
  let b := patch b 28 info.ltk.val
  let b := patch b 44 [info.securityLevel.code]
  patch b 45 [info.isBonded.toUInt8]

structure IsBondRecord (b : Bytes) : Prop where
  length_eq : b.length = BOND_SIZE
  magicValid : bondMagicValid b = true

theorem isBondRecord_initBondHeader :
    IsBondRecord (initBondHeader (List.replicate BOND_SIZE 0)) := ⟨rfl, rfl⟩

/-- What is filled in behind the header leaves it as it is. -/
theorem IsBondRecord.patch {b bytes : Bytes} {offset : Nat} (h : IsBondRecord b)
    (hoffset : 5 ≤ offset) (hfits : offset + bytes.length ≤ BOND_SIZE) :
    IsBondRecord (patch b offset bytes) where
  length_eq := by
    rw [length_patch (by rwa [h.length_eq]), h.length_eq]
  magicValid := by
    have hroom : offset + bytes.length ≤ b.length := by rwa [h.length_eq]
    have hmagic := h.magicValid
    unfold bondMagicValid at hmagic ⊢
    rw [wordAt_patch_of_disjoint hroom (Or.inl (by omega)), getD_patch hroom,
      if_neg (by omega)]
    exact hmagic

theorem IsBondRecord.patch_byte {b : Bytes} {offset : Nat} (h : IsBondRecord b)
    (hoffset : 5 ≤ offset) (hlt : offset < BOND_SIZE) (byte : UInt8) :
    IsBondRecord (Bytes.patch b offset [byte]) := h.patch hoffset hlt

theorem isBondRecord_serializeBond (info : BondInformation) :
    IsBondRecord (serializeBond info) := by
  have hraw := info.identity.addr.raw.property
  have hltk := info.ltk.property
  have haddr : IsBondRecord (patch (initBondHeader (List.replicate BOND_SIZE 0)) 5
      info.identity.addr.raw.val) :=
    isBondRecord_initBondHeader.patch (Nat.le_refl 5) (by rw [hraw]; decide)
  have hfilled : ∀ b : Bytes, IsBondRecord b → IsBondRecord
      (patch (patch (patch b 28 info.ltk.val) 44 [info.securityLevel.code]) 45
        [info.isBonded.toUInt8]) := by
    intro b hb
    have hkey : IsBondRecord (patch b 28 info.ltk.val) :=
      hb.patch (by decide) (by rw [hltk]; decide)
    exact (hkey.patch_byte (by decide) (by decide) _).patch_byte (by decide) (by decide) _
  unfold serializeBond
  dsimp only
  cases info.identity.irk with
  | none => exact hfilled _ haddr
  | some irk =>
      have hirk := irk.property
      have hflag := haddr.patch_byte (by decide : 5 ≤ 11) (by decide) 1
      exact hfilled _ (hflag.patch (by decide) (by rw [hirk]; decide))

/-! ## Flash -/

namespace NvsStorage

variable {medium : Medium} {F : Type} [WorkingFlash medium F] {partition : Partition F}
  {s s' : partition.Storage}

theorem AgreeOn.loadBond_eq (h : AgreeOn BOND_SECTOR s s') : s'.loadBond = s.loadBond := by
  unfold loadBond
  rw [h.loadSector_eq (by decide) (by decide) (by decide)]

theorem loadBond_saveBond {b : Bytes} (h : IsBondRecord b) (s : partition.Storage) :
    (s.saveBond b).1.loadBond = some b := by
  have hlength := h.length_eq
  have hload : (s.saveSector BOND_SECTOR b).1.loadSector BOND_SECTOR b.length = some b :=
    loadSector_saveSector (by decide) (by rw [hlength]; decide) (by rw [hlength]; decide)
  unfold loadBond saveBond
  rw [← hlength, hload, Option.filter_some, if_pos h.magicValid]

theorem loadBond_clearBond (s : partition.Storage) : s.clearBond.loadBond = none := by
  unfold loadBond clearBond
  rw [loadSector_eraseSector (by decide) (by decide) (by decide)]
  rfl

end NvsStorage

end Meshtastenstein
