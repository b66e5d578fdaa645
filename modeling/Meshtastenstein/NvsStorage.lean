import Meshtastenstein.Lib.CircularQueue
import Meshtastenstein.Lib.NorFlash
import Meshtastenstein.Snapshot
/-!
# Flash storage

The storage adapter of the boards: five sectors of a flash, of which one holds the message
ring, which is kept in memory too.
-/

namespace Meshtastenstein

open Lib Lib.Bytes Lib.NorFlash

def CONFIG_SECTOR : Nat := 0
def BOND_SECTOR : Nat := 1
def STORAGE_SECTOR : Nat := 2
def NODEDB_SECTOR : Nat := 3
def PKC_SECTOR : Nat := 4

/-- Valid flag, length, payload and padding. -/
def SLOT_FLASH_SIZE : Nat := 260

structure CachedSlot where
  valid : Bool := false
  frame : RadioFrame := ⟨[], Nat.zero_le _⟩

abbrev MessageRing := CircularQueue CachedSlot MAX_BUFFERED_MESSAGES

/-- The adapter over a flash whose sectors start at an offset. -/
structure NvsStorage (F : Type) (baseOffset : Nat) where
  ring : MessageRing
  flash : F

def MessageRing.empty : MessageRing := CircularQueue.empty (by decide) {}

def MessageRing.header (ring : MessageRing) : RingHeader MAX_BUFFERED_MESSAGES where
  head := ring.head
  tail := ring.tail
  count := ring.count
  count_le := ring.count_le

def CachedSlot.shown (slot : CachedSlot) : Option RadioFrame :=
  if slot.valid then some slot.frame else none

def encodeSlot (slot : CachedSlot) : Bytes :=
  let buf := encodeRingSlotPrefix (List.replicate SLOT_FLASH_SIZE 0) slot.valid
    slot.frame.bytes.length
  if slot.valid ∧ 0 < slot.frame.bytes.length then patch buf 2 slot.frame.bytes else buf

def decodeSlot (buf : Bytes) (slot : CachedSlot) : CachedSlot :=
  let (valid, len) := decodeRingSlotPrefix buf
  let payload := slice buf 2 len
  if h : valid ∧ len ≤ MAX_LORA_PAYLOAD_LEN then
    { valid := true, frame := ⟨payload, Nat.le_trans (length_slice_le _ _ _) h.2⟩ }
  else { slot with valid := false }

namespace NvsStorage

variable {F : Type} [NorFlash F] {baseOffset : Nat}

omit [NorFlash F] in
def sectorOffset (_ : NvsStorage F baseOffset) (sector : Nat) : Nat :=
  baseOffset + sector * SECTOR_SIZE

omit [NorFlash F] in
def slotFlashOffset (s : NvsStorage F baseOffset) (index : Fin MAX_BUFFERED_MESSAGES) : Nat :=
  s.sectorOffset STORAGE_SECTOR + (RING_HEADER_SIZE + index * SLOT_FLASH_SIZE)

/-! ## Message ring -/

def persistSlot (s : NvsStorage F baseOffset) (index : Fin MAX_BUFFERED_MESSAGES) :
    NvsStorage F baseOffset :=
  { s with flash := (write s.flash (s.slotFlashOffset index) (encodeSlot (s.ring.slots index))).1 }

def persistHeader (s : NvsStorage F baseOffset) : NvsStorage F baseOffset :=
  { s with
    flash := (write s.flash (s.sectorOffset STORAGE_SECTOR) (encodeRingHeader s.ring.header)).1 }

def initEmpty (s : NvsStorage F baseOffset) : NvsStorage F baseOffset :=
  persistHeader { s with ring := MessageRing.empty }

def loadSlot (s : NvsStorage F baseOffset) (index : Fin MAX_BUFFERED_MESSAGES) : CachedSlot :=
  match read s.flash (s.slotFlashOffset index) SLOT_FLASH_SIZE with
  | some buf => decodeSlot buf (s.ring.slots index)
  | none => { s.ring.slots index with valid := false }

def loadSlots (s : NvsStorage F baseOffset) : NvsStorage F baseOffset :=
  { s with ring := { s.ring with slots := s.loadSlot } }

def loadOrInit (s : NvsStorage F baseOffset) : NvsStorage F baseOffset :=
  match read s.flash (s.sectorOffset STORAGE_SECTOR) RING_HEADER_SIZE with
  | none => s.initEmpty
  | some buf =>
      match decodeRingHeader buf MAX_BUFFERED_MESSAGES with
      | none => s.initEmpty
      | some header =>
          loadSlots
            { s with
              ring :=
                { slots := s.ring.slots
                  head := header.head
                  tail := header.tail
                  count := header.count
                  count_le := header.count_le } }

def new (flash : F) (baseOffset : Nat) : NvsStorage F baseOffset :=
  loadOrInit { ring := MessageRing.empty, flash := flash }

def add (s : NvsStorage F baseOffset) (frame : RadioFrame) : NvsStorage F baseOffset :=
  let slotIdx := s.ring.head
  let s := { s with ring := s.ring.push { valid := true, frame := frame } }
  (s.persistSlot slotIdx).persistHeader

def peek (s : NvsStorage F baseOffset) : Option (Option RadioFrame) :=
  if s.ring.count = 0 then some none
  else
    let slot := s.ring.slots s.ring.tail
    if slot.valid then some (some slot.frame) else none

/-- Drop the oldest frame; an empty ring is left alone. -/
def pop (s : NvsStorage F baseOffset) : NvsStorage F baseOffset :=
  if s.ring.count = 0 then s
  else
    let oldTail := s.ring.tail
    let s := { s with ring := s.ring.pop fun slot => { slot with valid := false } }
    (s.persistSlot oldTail).persistHeader

def clear (s : NvsStorage F baseOffset) : NvsStorage F baseOffset :=
  persistHeader { s with ring := MessageRing.empty }

/-! ## Sectors -/

def saveSector (s : NvsStorage F baseOffset) (sector : Nat) (bytes : Bytes) :
    NvsStorage F baseOffset × Bool :=
  let base := s.sectorOffset sector
  let (flash, erased) := erase s.flash base (base + SECTOR_SIZE)
  if erased then
    let (flash, ok) := write flash base bytes
    ({ s with flash := flash }, ok)
  else ({ s with flash := flash }, false)

def eraseSector (s : NvsStorage F baseOffset) (sector : Nat) : NvsStorage F baseOffset :=
  let base := s.sectorOffset sector
  { s with flash := (erase s.flash base (base + SECTOR_SIZE)).1 }

def loadSector (s : NvsStorage F baseOffset) (sector len : Nat) : Option Bytes :=
  read s.flash (s.sectorOffset sector) len

def loadConfig (s : NvsStorage F baseOffset) : Option SavedConfig :=
  (s.loadSector CONFIG_SECTOR CONFIG_SIZE).bind decodeConfig

def saveConfig (s : NvsStorage F baseOffset) (cfg : SavedConfig) : NvsStorage F baseOffset × Bool :=
  s.saveSector CONFIG_SECTOR (encodeConfig cfg)

/-- A factory reset also forgets the other nodes. -/
def eraseConfig (s : NvsStorage F baseOffset) : NvsStorage F baseOffset :=
  (s.eraseSector CONFIG_SECTOR).eraseSector NODEDB_SECTOR

def loadBond (s : NvsStorage F baseOffset) : Option Bytes :=
  (s.loadSector BOND_SECTOR BOND_SIZE).filter bondMagicValid

def saveBond (s : NvsStorage F baseOffset) (bytes : Bytes) : NvsStorage F baseOffset × Bool :=
  s.saveSector BOND_SECTOR bytes

def clearBond (s : NvsStorage F baseOffset) : NvsStorage F baseOffset := s.eraseSector BOND_SECTOR

def saveNodeDb (s : NvsStorage F baseOffset) (db : NodeDb) : NvsStorage F baseOffset × Bool :=
  s.saveSector NODEDB_SECTOR db.toSnapshot

def loadNodeDb (s : NvsStorage F baseOffset) (db : NodeDb) : NodeDb :=
  match s.loadSector NODEDB_SECTOR SNAPSHOT_BYTES with
  | some buf => (db.restoreSnapshot buf).1
  | none => db

def loadPkcKeypair (s : NvsStorage F baseOffset) : Option (Key × Key) :=
  (s.loadSector PKC_SECTOR PKC_BLOB_SIZE).bind decodePkcKeypair

def savePkcKeypair (s : NvsStorage F baseOffset) (keypair : Key × Key) :
    NvsStorage F baseOffset × Bool :=
  s.saveSector PKC_SECTOR (encodePkcKeypair keypair)

/-- The adapter that is built on the flash anew. -/
def reopen (s : NvsStorage F baseOffset) : NvsStorage F baseOffset := new s.flash baseOffset

end NvsStorage

instance {F : Type} [NorFlash F] {baseOffset : Nat} :
    MeshStorage (NvsStorage F baseOffset) where
  saveConfig s cfg := (s.saveConfig cfg).1
  loadConfig := NvsStorage.loadConfig
  eraseConfig := NvsStorage.eraseConfig
  saveBond s bytes := (s.saveBond bytes).1
  clearBond := NvsStorage.clearBond
  saveNodeDb := NvsStorage.saveNodeDb
  loadNodeDb := NvsStorage.loadNodeDb
  loadPkcKeypair := NvsStorage.loadPkcKeypair
  savePkcKeypair s keypair := (s.savePkcKeypair keypair).1
  add := NvsStorage.add
  peek := NvsStorage.peek
  pop := NvsStorage.pop
  count s := s.ring.count
  reopen := NvsStorage.reopen

end Meshtastenstein
