import Meshtastenstein.ConfigRecord
import Meshtastenstein.FactoryReset
/-!
# Records on flash

What the adapter makes of a flash, as a store of four records: the last thing saved under each,
or nothing.  The message ring next to them and a restart leave them alone.
-/

namespace Meshtastenstein

open Lib Lib.Bytes Lib.NorFlash Lib.WorkingFlash

/-! ## Operations -/

/-- What is done to the storage a board provides. -/
inductive StorageOp
  | saveConfig (cfg : SavedConfig)
  | eraseConfig
  | saveBond (bytes : Bytes) (h : bytes.length = BOND_SIZE)
  | clearBond
  | saveNodeDb (db : NodeDb)
  | savePkcKeypair (keypair : Key × Key)
  | add (frame : RadioFrame)
  | pop
  | reopen

def StorageOp.perform {S : Type} [MeshStorage S] (storage : S) : StorageOp → S
  | .saveConfig cfg => MeshStorage.saveConfig storage cfg
  | .eraseConfig => MeshStorage.eraseConfig storage
  | .saveBond bytes _ => MeshStorage.saveBond storage bytes
  | .clearBond => MeshStorage.clearBond storage
  | .saveNodeDb db => (MeshStorage.saveNodeDb storage db).1
  | .savePkcKeypair keypair => MeshStorage.savePkcKeypair storage keypair
  | .add frame => MeshStorage.add storage frame
  | .pop => MeshStorage.pop storage
  | .reopen => MeshStorage.reopen storage

/-! ## The store of records -/

/-- What the records say; the snapshot is what a node database is restored from. -/
structure SavedRecords where
  config : Option SavedConfig
  bond : Option Bytes
  snapshot : Option Bytes
  keypair : Option (Key × Key)

/-- A record holds what was saved last, as far as it can be told from none. -/
def SavedRecords.step (records : SavedRecords) : StorageOp → SavedRecords
  | .saveConfig cfg => { records with config := some cfg.reread }
  | .eraseConfig =>
      { records with
        config := none
        snapshot := some (List.replicate SNAPSHOT_BYTES 0xff) }
  | .saveBond bytes _ => { records with bond := (some bytes).filter bondMagicValid }
  | .clearBond => { records with bond := none }
  | .saveNodeDb db => { records with snapshot := some db.toSnapshot }
  | .savePkcKeypair keypair =>
      { records with keypair := (some keypair).filter fun keypair => keypair.1.isSet }
  | .add _ => records
  | .pop => records
  | .reopen => records

/-! ## The key pair record -/

theorem Key.ofBytes?_val (key : Key) : Key.ofBytes? key.val = some key := dif_pos key.property

def keypairWrites (keypair : Key × Key) : List (Nat × Bytes) :=
  [(0, toLeBytes PKC_MAGIC), (4, [PKC_VERSION]), (8, keypair.1.val), (40, keypair.2.val)]

theorem encodePkcKeypair_eq_patches (keypair : Key × Key) :
    encodePkcKeypair keypair = patches (List.replicate PKC_BLOB_SIZE 0) (keypairWrites keypair) :=
  rfl

theorem inOrder_keypairWrites (keypair : Key × Key) :
    InOrder 0 PKC_BLOB_SIZE (keypairWrites keypair) := by
  have hpriv := keypair.1.property
  have hpub := keypair.2.property
  simp only [keypairWrites, InOrder, PKC_BLOB_SIZE, List.length_cons, List.length_nil,
    length_toLeBytes]
  omega

theorem length_encodePkcKeypair (keypair : Key × Key) :
    (encodePkcKeypair keypair).length = PKC_BLOB_SIZE := by
  have hpriv := keypair.1.property
  have hpub := keypair.2.property
  unfold encodePkcKeypair
  simp only [length_patch_eq, List.length_replicate, List.length_cons, List.length_nil,
    length_toLeBytes, hpriv, hpub]
  decide

/-- A key pair is read back from its record, unless its private key stands for none. -/
theorem decodePkcKeypair_encodePkcKeypair (keypair : Key × Key) :
    decodePkcKeypair (encodePkcKeypair keypair) =
      (some keypair).filter fun keypair => keypair.1.isSet := by
  have hread : ∀ offset bytes, (offset, bytes) ∈ keypairWrites keypair →
      slice (encodePkcKeypair keypair) offset bytes.length = bytes := by
    intro offset bytes hwrite
    rw [encodePkcKeypair_eq_patches]
    exact slice_patches (inOrder_keypairWrites keypair) (by rw [List.length_replicate]) hwrite
  have hmagic := hread 0 (toLeBytes PKC_MAGIC) (by simp [keypairWrites])
  have hversion := hread 4 [PKC_VERSION] (by simp [keypairWrites])
  have hpriv := hread 8 keypair.1.val (by simp [keypairWrites])
  have hpub := hread 40 keypair.2.val (by simp [keypairWrites])
  rw [keypair.1.property] at hpriv
  rw [keypair.2.property] at hpub
  have hvalid : ¬ (wordAt (encodePkcKeypair keypair) 0 ≠ PKC_MAGIC ∨
      (encodePkcKeypair keypair).getD 4 0 ≠ PKC_VERSION) := by
    have hword := wordAt_of_slice hmagic
    have hbyte : (encodePkcKeypair keypair).getD (4 + 0) 0 = PKC_VERSION :=
      getD_of_slice hversion Nat.zero_lt_one
    rintro (hne | hne)
    · exact hne hword
    · exact hne hbyte
  unfold decodePkcKeypair
  rw [if_neg hvalid, hpriv, hpub, Key.ofBytes?_val, Key.ofBytes?_val]
  rfl

variable {medium : Medium} {F : Type} [WorkingFlash medium F] {partition : Partition F}

namespace NvsStorage

variable {s s' : partition.Storage} {sector : Nat}

def records (s : partition.Storage) : SavedRecords where
  config := s.loadConfig
  bond := s.loadBond
  snapshot := s.loadSector NODEDB_SECTOR SNAPSHOT_BYTES
  keypair := s.loadPkcKeypair

/-! ## What leaves a record alone -/

theorem loadConfig_congr (h : AgreeOn CONFIG_SECTOR s s') : s'.loadConfig = s.loadConfig := by
  unfold loadConfig
  rw [h.loadSector_eq (by decide) (by decide) (by decide)]

theorem loadSnapshot_congr (h : AgreeOn NODEDB_SECTOR s s') :
    s'.loadSector NODEDB_SECTOR SNAPSHOT_BYTES = s.loadSector NODEDB_SECTOR SNAPSHOT_BYTES :=
  h.loadSector_eq (by decide) (by decide) (by decide)

theorem loadPkcKeypair_congr (h : AgreeOn PKC_SECTOR s s') :
    s'.loadPkcKeypair = s.loadPkcKeypair := by
  unfold loadPkcKeypair
  rw [h.loadSector_eq (by decide) (by decide) (by decide)]

theorem records_congr (h : ∀ sector ≠ STORAGE_SECTOR, AgreeOn sector s s') :
    s'.records = s.records := by
  unfold records
  rw [loadConfig_congr (h _ (by decide)), (h _ (by decide)).loadBond_eq,
    loadSnapshot_congr (h _ (by decide)), loadPkcKeypair_congr (h _ (by decide))]

theorem agreeOn_write {offset : Nat} {bytes : Bytes} (hsector : sector ≠ STORAGE_SECTOR)
    (hwords : Words (capacity F) offset bytes.length)
    (hstart : s.sectorOffset STORAGE_SECTOR ≤ offset)
    (hstop : offset + bytes.length ≤ s.sectorOffset STORAGE_SECTOR + SECTOR_SIZE)
    {ring : MessageRing} (h : s' = { ring := ring, flash := (write s.flash offset bytes).1 }) :
    AgreeOn sector s s' := by
  subst h
  intro i hi
  refine (cells_write s.flash _ _ _ hwords).trans (if_neg ?_)
  change ¬ (offset ≤ s.sectorOffset sector + i ∧ s.sectorOffset sector + i < offset + bytes.length)
  unfold sectorOffset STORAGE_SECTOR at hstart hstop
  unfold STORAGE_SECTOR at hsector
  unfold sectorOffset
  unfold SECTOR_SIZE at *
  omega

theorem agreeOn_persistSlot (hsector : sector ≠ STORAGE_SECTOR)
    (index : Fin MAX_BUFFERED_MESSAGES) : AgreeOn sector s (s.persistSlot index) := by
  have hlength := length_encodeSlot (s.ring.slots index)
  have hwords := s.words_slot index
  have hindex : index.val < 10 := index.isLt
  rw [← hlength] at hwords
  refine agreeOn_write hsector hwords ?_ ?_ rfl
  · exact Nat.le_add_right _ _
  · rw [hlength]
    unfold slotFlashOffset RING_HEADER_SIZE SLOT_FLASH_SIZE SECTOR_SIZE
    omega

theorem agreeOn_persistHeader (hsector : sector ≠ STORAGE_SECTOR) :
    AgreeOn sector s s.persistHeader := by
  have hlength := length_encodeRingHeader s.ring.header
  have hwords := s.words_header
  rw [← hlength] at hwords
  refine agreeOn_write hsector hwords (Nat.le_refl _) ?_ rfl
  rw [hlength]
  exact Nat.add_le_add_left (by decide) _

theorem agreeOn_add (hsector : sector ≠ STORAGE_SECTOR) (frame : RadioFrame) :
    AgreeOn sector s (s.add frame) :=
  (@agreeOn_persistSlot _ _ _ partition
    { s with ring := s.ring.push { valid := true, frame := frame } } sector hsector _).trans
    (agreeOn_persistHeader hsector)

theorem agreeOn_pop (hsector : sector ≠ STORAGE_SECTOR) : AgreeOn sector s s.pop := by
  unfold pop
  split
  · exact fun _ _ => rfl
  · exact (@agreeOn_persistSlot _ _ _ partition
      { s with ring := s.ring.pop fun slot => { slot with valid := false } } sector hsector
      _).trans (agreeOn_persistHeader hsector)

/-! ## Every operation is one of the store -/

theorem agreeOn_savePkcKeypair (keypair : Key × Key) (hsector : sector ≠ PKC_SECTOR) :
    AgreeOn sector s (s.savePkcKeypair keypair).1 := by
  have hlength := length_encodePkcKeypair keypair
  refine agreeOn_saveSector (by decide) ?_ ?_ hsector
  · rw [hlength]
    decide
  · rw [hlength]
    decide

theorem agreeOn_saveBond {bytes : Bytes} (h : bytes.length = BOND_SIZE)
    (hsector : sector ≠ BOND_SECTOR) : AgreeOn sector s (s.saveBond bytes).1 := by
  refine agreeOn_saveSector (by decide) ?_ ?_ hsector
  · rw [h]
    decide
  · rw [h]
    decide

theorem loadSector_saveSector_of_length {len : Nat} {bytes : Bytes} (hsector : sector < 5)
    (h : bytes.length = len) (hlen : WORD_SIZE ∣ len) (hle : len ≤ SECTOR_SIZE) :
    (s.saveSector sector bytes).1.loadSector sector len = some bytes := by
  subst h
  exact loadSector_saveSector hsector hlen hle

theorem records_saveConfig (cfg : SavedConfig) :
    (s.saveConfig cfg).1.records = { s.records with config := some cfg.reread } := by
  have hloaded : (s.saveConfig cfg).1.loadConfig = some cfg.reread := by
    unfold loadConfig saveConfig
    rw [loadSector_saveSector_of_length (by decide) (length_encodeConfig cfg) (by decide)
      (by decide), Option.bind_some, decodeConfig_encodeConfig]
  unfold records
  rw [hloaded, (agreeOn_saveConfig cfg (by decide)).loadBond_eq,
    loadSnapshot_congr (agreeOn_saveConfig cfg (by decide)),
    loadPkcKeypair_congr (agreeOn_saveConfig cfg (by decide))]

theorem records_saveBond {bytes : Bytes} (h : bytes.length = BOND_SIZE) :
    (s.saveBond bytes).1.records =
      { s.records with bond := (some bytes).filter bondMagicValid } := by
  have hloaded : (s.saveBond bytes).1.loadBond = (some bytes).filter bondMagicValid := by
    unfold loadBond saveBond
    rw [loadSector_saveSector_of_length (by decide) h (by decide) (by decide)]
  unfold records
  rw [hloaded, loadConfig_congr (agreeOn_saveBond h (by decide)),
    loadSnapshot_congr (agreeOn_saveBond h (by decide)),
    loadPkcKeypair_congr (agreeOn_saveBond h (by decide))]

theorem records_saveNodeDb (db : NodeDb) :
    (s.saveNodeDb db).1.records = { s.records with snapshot := some db.toSnapshot } := by
  have hloaded : (s.saveNodeDb db).1.loadSector NODEDB_SECTOR SNAPSHOT_BYTES =
      some db.toSnapshot :=
    loadSector_saveSector_of_length (by decide) (NodeDb.snapshot_toSnapshot db).1 (by decide)
      (by decide)
  unfold records
  rw [hloaded, loadConfig_congr (agreeOn_saveNodeDb db (by decide)),
    (agreeOn_saveNodeDb db (by decide)).loadBond_eq,
    loadPkcKeypair_congr (agreeOn_saveNodeDb db (by decide))]

theorem records_savePkcKeypair (keypair : Key × Key) :
    (s.savePkcKeypair keypair).1.records =
      { s.records with keypair := (some keypair).filter fun keypair => keypair.1.isSet } := by
  have hloaded : (s.savePkcKeypair keypair).1.loadPkcKeypair =
      (some keypair).filter fun keypair => keypair.1.isSet := by
    unfold loadPkcKeypair savePkcKeypair
    rw [loadSector_saveSector_of_length (by decide) (length_encodePkcKeypair keypair) (by decide)
      (by decide), Option.bind_some, decodePkcKeypair_encodePkcKeypair]
  unfold records
  rw [hloaded, loadConfig_congr (agreeOn_savePkcKeypair keypair (by decide)),
    (agreeOn_savePkcKeypair keypair (by decide)).loadBond_eq,
    loadSnapshot_congr (agreeOn_savePkcKeypair keypair (by decide))]

theorem records_clearBond : s.clearBond.records = { s.records with bond := none } := by
  have hother : ∀ sector ≠ BOND_SECTOR, AgreeOn sector s s.clearBond :=
    fun sector hsector => agreeOn_eraseSector (by decide) hsector
  unfold records
  rw [s.loadBond_clearBond, loadConfig_congr (hother _ (by decide)),
    loadSnapshot_congr (hother _ (by decide)), loadPkcKeypair_congr (hother _ (by decide))]

theorem records_eraseConfig :
    s.eraseConfig.records =
      { s.records with
        config := none
        snapshot := some (List.replicate SNAPSHOT_BYTES 0xff) } := by
  have hother : ∀ sector, sector ≠ CONFIG_SECTOR → sector ≠ NODEDB_SECTOR →
      AgreeOn sector s s.eraseConfig := fun sector hconfig hnodes =>
    (agreeOn_eraseSector (by decide) hconfig).trans (agreeOn_eraseSector (by decide) hnodes)
  have hconfig : s.eraseConfig.loadConfig = none := by
    rw [show s.eraseConfig.loadConfig = (s.eraseSector CONFIG_SECTOR).loadConfig from
      loadConfig_congr (agreeOn_eraseSector (by decide) (by decide))]
    unfold loadConfig
    rw [loadSector_eraseSector (by decide) (by decide) (by decide), Option.bind_some,
      decodeConfig_erased]
  have hsnapshot : s.eraseConfig.loadSector NODEDB_SECTOR SNAPSHOT_BYTES =
      some (List.replicate SNAPSHOT_BYTES 0xff) :=
    loadSector_eraseSector (by decide) (by decide) (by decide)
  unfold records
  rw [hconfig, hsnapshot, (hother _ (by decide) (by decide)).loadBond_eq,
    loadPkcKeypair_congr (hother _ (by decide) (by decide))]

theorem records_perform (op : StorageOp) : (op.perform s).records = s.records.step op := by
  cases op with
  | saveConfig cfg => exact records_saveConfig cfg
  | eraseConfig => exact records_eraseConfig
  | saveBond bytes h => exact records_saveBond h
  | clearBond => exact records_clearBond
  | saveNodeDb db => exact records_saveNodeDb db
  | savePkcKeypair keypair => exact records_savePkcKeypair keypair
  | add frame => exact records_congr fun sector hsector => agreeOn_add hsector frame
  | pop => exact records_congr fun sector hsector => agreeOn_pop hsector
  | reopen => exact records_congr fun sector hsector => agreeOn_reopen s hsector

/-- Whatever is done to a flash that works, in whatever order, the records are those of the
store: each holds what was saved last, until it is erased. -/
theorem records_run (s : partition.Storage) (ops : List StorageOp) :
    (Transition.run StorageOp.perform s ops).records =
      Transition.run SavedRecords.step s.records ops :=
  Transition.run_project (fun _ op => records_perform op) s ops

end NvsStorage

end Meshtastenstein
