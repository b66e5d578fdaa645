import Meshtastenstein.NvsStorage
/-!
# Sectors

What writing or erasing one of the five sectors does to the others: nothing.
-/

namespace Meshtastenstein

open Lib Lib.NorFlash Lib.WorkingFlash

variable {medium : Medium} {F : Type} [WorkingFlash medium F]

/-- Where the five sectors lie on a flash. -/
structure Partition (F : Type) [WorkingFlash medium F] where
  baseOffset : Nat
  aligned : SECTOR_SIZE ∣ baseOffset
  fits : baseOffset + 5 * SECTOR_SIZE ≤ capacity F

abbrev Partition.Storage (partition : Partition F) : Type :=
  NvsStorage F partition.baseOffset

namespace NvsStorage

variable {partition : Partition F} {s s' s'' : partition.Storage} {sector other : Nat}

theorem sectors_sector (s : partition.Storage) (hsector : sector < 5) :
    Sectors (capacity F) (s.sectorOffset sector) (s.sectorOffset sector + SECTOR_SIZE) := by
  have haligned := partition.aligned
  have hfits := partition.fits
  unfold Sectors sectorOffset
  unfold SECTOR_SIZE at haligned hfits ⊢
  omega

theorem words_sector (s : partition.Storage) (hsector : sector < 5) {len : Nat}
    (hlen : WORD_SIZE ∣ len) (hle : len ≤ SECTOR_SIZE) :
    Words (capacity F) (s.sectorOffset sector) len := by
  have haligned := partition.aligned
  have hfits := partition.fits
  unfold Words sectorOffset WORD_SIZE
  unfold WORD_SIZE at hlen
  unfold SECTOR_SIZE at haligned hfits hle ⊢
  omega

def AgreeOn (sector : Nat) (s s' : partition.Storage) : Prop :=
  ∀ i < SECTOR_SIZE, cells s'.flash (s'.sectorOffset sector + i) =
    cells s.flash (s.sectorOffset sector + i)

theorem AgreeOn.trans (h : AgreeOn sector s s') (h' : AgreeOn sector s' s'') :
    AgreeOn sector s s'' := fun i hi => (h' i hi).trans (h i hi)

theorem AgreeOn.cellsAt_eq (h : AgreeOn sector s s') {start len : Nat}
    (hlen : start + len ≤ SECTOR_SIZE) :
    cellsAt s'.flash (s'.sectorOffset sector + start) len =
      cellsAt s.flash (s.sectorOffset sector + start) len := by
  refine List.map_congr_left fun i hi => ?_
  rw [Nat.add_assoc, Nat.add_assoc]
  exact h (start + i) (by have := List.mem_range.mp hi; omega)

theorem loadSector_eq (s : partition.Storage) (hsector : sector < 5) {len : Nat}
    (hlen : WORD_SIZE ∣ len) (hle : len ≤ SECTOR_SIZE) :
    s.loadSector sector len = some (cellsAt s.flash (s.sectorOffset sector) len) :=
  read_eq s.flash _ _ (s.words_sector hsector hlen hle)

theorem AgreeOn.loadSector_eq (h : AgreeOn sector s s') (hsector : sector < 5) {len : Nat}
    (hlen : WORD_SIZE ∣ len) (hle : len ≤ SECTOR_SIZE) :
    s'.loadSector sector len = s.loadSector sector len := by
  have hcells := h.cellsAt_eq (Nat.zero_add len ▸ hle)
  rw [Nat.add_zero, Nat.add_zero] at hcells
  rw [NvsStorage.loadSector_eq s' hsector hlen hle, NvsStorage.loadSector_eq s hsector hlen hle,
    hcells]

/-! ## Erasing -/

theorem agreeOn_eraseSector (hsector : sector < 5) (hne : other ≠ sector) :
    AgreeOn other s (s.eraseSector sector) := by
  intro i hi
  refine (cells_erase s.flash _ _ _ (s.sectors_sector hsector)).trans (if_neg ?_)
  unfold sectorOffset
  unfold SECTOR_SIZE at hi ⊢
  omega

theorem loadSector_eraseSector (hsector : sector < 5) {len : Nat} (hlen : WORD_SIZE ∣ len)
    (hle : len ≤ SECTOR_SIZE) :
    (s.eraseSector sector).loadSector sector len = some (List.replicate len 0xff) := by
  rw [loadSector_eq _ hsector hlen hle]
  exact congrArg some (cellsAt_erase (s.sectors_sector hsector) (Nat.le_refl _)
    (Nat.add_le_add_left hle _))

/-! ## Saving -/

theorem saveSector_eq (hsector : sector < 5) (bytes : Bytes) :
    s.saveSector sector bytes =
      ({ s with flash := (write (s.eraseSector sector).flash (s.sectorOffset sector) bytes).1 },
        (write (s.eraseSector sector).flash (s.sectorOffset sector) bytes).2) := by
  unfold saveSector eraseSector
  dsimp only
  rw [if_pos (erase_ok s.flash _ _ (s.sectors_sector hsector))]

theorem saveSector_ok (hsector : sector < 5) {bytes : Bytes} (hlen : WORD_SIZE ∣ bytes.length)
    (hle : bytes.length ≤ SECTOR_SIZE) : (s.saveSector sector bytes).2 = true := by
  rw [saveSector_eq hsector]
  exact write_ok _ _ _ (s.words_sector hsector hlen hle)

theorem agreeOn_saveSector (hsector : sector < 5) {bytes : Bytes}
    (hlen : WORD_SIZE ∣ bytes.length) (hle : bytes.length ≤ SECTOR_SIZE)
    (hne : other ≠ sector) : AgreeOn other s (s.saveSector sector bytes).1 := by
  refine (agreeOn_eraseSector hsector hne).trans fun i hi => ?_
  rw [saveSector_eq hsector]
  refine (cells_write _ _ _ _ (s.words_sector hsector hlen hle)).trans (if_neg ?_)
  change ¬ (s.sectorOffset sector ≤ s.sectorOffset other + i ∧
    s.sectorOffset other + i < s.sectorOffset sector + bytes.length)
  unfold sectorOffset
  unfold SECTOR_SIZE at hi hle ⊢
  omega

theorem loadSector_saveSector (hsector : sector < 5) {bytes : Bytes}
    (hlen : WORD_SIZE ∣ bytes.length) (hle : bytes.length ≤ SECTOR_SIZE) :
    (s.saveSector sector bytes).1.loadSector sector bytes.length = some bytes := by
  rw [loadSector_eq _ hsector hlen hle, saveSector_eq hsector]
  refine congrArg some (cellsAt_write_erased (s.words_sector hsector hlen hle) ?_)
  exact cellsAt_erase (s.sectors_sector hsector) (Nat.le_refl _) (Nat.add_le_add_left hle _)

/-! ## Records -/

theorem snapshot_fits (db : NodeDb) :
    WORD_SIZE ∣ db.toSnapshot.length ∧ db.toSnapshot.length ≤ SECTOR_SIZE := by
  rw [(NodeDb.snapshot_toSnapshot db).1]
  decide

theorem saveNodeDb_ok (s : partition.Storage) (db : NodeDb) : (s.saveNodeDb db).2 = true :=
  saveSector_ok (by decide) (snapshot_fits db).1 (snapshot_fits db).2

theorem loadNodeDb_saveNodeDb (s : partition.Storage) (db db' : NodeDb) :
    (s.saveNodeDb db).1.loadNodeDb db' = (db'.restoreSnapshot db.toSnapshot).1 := by
  unfold loadNodeDb saveNodeDb
  rw [← (NodeDb.snapshot_toSnapshot db).1,
    loadSector_saveSector (by decide) (snapshot_fits db).1 (snapshot_fits db).2]

theorem agreeOn_saveNodeDb (db : NodeDb) {sector : Nat} (h : sector ≠ NODEDB_SECTOR) :
    AgreeOn sector s (s.saveNodeDb db).1 :=
  agreeOn_saveSector (by decide) (snapshot_fits db).1 (snapshot_fits db).2 h

theorem agreeOn_saveConfig (cfg : SavedConfig) {sector : Nat} (h : sector ≠ CONFIG_SECTOR) :
    AgreeOn sector s (s.saveConfig cfg).1 := by
  have hlength := length_encodeConfig cfg
  refine agreeOn_saveSector (by decide) ?_ ?_ h
  · rw [hlength]
    decide
  · rw [hlength]
    decide

theorem ring_saveSector (sector : Nat) (bytes : Bytes) :
    (s.saveSector sector bytes).1.ring = s.ring := by
  unfold saveSector
  dsimp only
  split <;> rfl

end NvsStorage

end Meshtastenstein
