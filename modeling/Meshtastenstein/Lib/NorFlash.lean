import Mathlib.Data.List.Basic
/-!
# Flash memories

Flashes are read and written by words and erased by sectors, and every access may fail.
The medium says what becomes of a byte that is written without being erased: on NOR flash
a write can only clear bits.
-/

namespace Meshtastenstein.Lib

/-- How a byte takes another value. -/
structure Medium where
  program : UInt8 → UInt8 → UInt8
  program_erased : ∀ byte, program 0xff byte = byte

/-- A write clears bits and sets none. -/
def Medium.nor : Medium where
  program old new := old &&& new
  program_erased _ := UInt8.neg_one_and

def Medium.overwriting : Medium where
  program _ new := new
  program_erased _ := rfl

/-- The accesses of a flash; writing and erasing tell whether they succeeded. -/
class NorFlash (F : Type) where
  read : F → Nat → Nat → Option (List UInt8)
  write : F → Nat → List UInt8 → F × Bool
  /-- Erase from one offset up to another. -/
  erase : F → Nat → Nat → F × Bool

namespace NorFlash

def WORD_SIZE : Nat := 4

def SECTOR_SIZE : Nat := 0x1000

def Words (capacity offset len : Nat) : Prop :=
  WORD_SIZE ∣ offset ∧ WORD_SIZE ∣ len ∧ offset + len ≤ capacity

def Sectors (capacity start stop : Nat) : Prop :=
  SECTOR_SIZE ∣ start ∧ SECTOR_SIZE ∣ stop ∧ start ≤ stop ∧ stop ≤ capacity

instance (capacity offset len : Nat) : Decidable (Words capacity offset len) :=
  inferInstanceAs (Decidable (_ ∧ _ ∧ _))

instance (capacity start stop : Nat) : Decidable (Sectors capacity start stop) :=
  inferInstanceAs (Decidable (_ ∧ _ ∧ _ ∧ _))

end NorFlash

open NorFlash

/-- A flash on which every aligned access within the capacity succeeds. -/
class WorkingFlash (medium : outParam Medium) (F : Type) extends NorFlash F where
  capacity : Nat
  cells : F → Nat → UInt8
  read_eq (flash : F) (offset len : Nat) : Words capacity offset len →
    read flash offset len = some ((List.range len).map fun i => cells flash (offset + i))
  write_ok (flash : F) (offset : Nat) (bytes : List UInt8) :
    Words capacity offset bytes.length → (write flash offset bytes).2 = true
  cells_write (flash : F) (offset : Nat) (bytes : List UInt8) (i : Nat) :
    Words capacity offset bytes.length →
      cells (write flash offset bytes).1 i =
        if offset ≤ i ∧ i < offset + bytes.length then
          medium.program (cells flash i) (bytes.getD (i - offset) 0)
        else cells flash i
  erase_ok (flash : F) (start stop : Nat) :
    Sectors capacity start stop → (erase flash start stop).2 = true
  cells_erase (flash : F) (start stop i : Nat) : Sectors capacity start stop →
    cells (erase flash start stop).1 i = if start ≤ i ∧ i < stop then 0xff else cells flash i

/-! ## Cells -/

namespace WorkingFlash

variable {medium : Medium} {F : Type} [WorkingFlash medium F]

def cellsAt (flash : F) (offset len : Nat) : List UInt8 :=
  (List.range len).map fun i => cells flash (offset + i)

theorem length_cellsAt (flash : F) (offset len : Nat) :
    (cellsAt flash offset len).length = len := by
  unfold cellsAt
  rw [List.length_map, List.length_range]

theorem getD_cellsAt (flash : F) (offset : Nat) {len i : Nat} (hi : i < len) :
    (cellsAt flash offset len).getD i 0 = cells flash (offset + i) := by
  unfold cellsAt
  rw [List.getD_eq_getElem?_getD, List.getElem?_map, List.getElem?_range hi]
  rfl

theorem cellsAt_congr {flash flash' : F} {offset len : Nat}
    (h : ∀ i < len, cells flash' (offset + i) = cells flash (offset + i)) :
    cellsAt flash' offset len = cellsAt flash offset len :=
  List.map_congr_left fun i hi => h i (List.mem_range.mp hi)

def Takes (flash : F) (offset : Nat) (bytes : List UInt8) : Prop :=
  ∀ i < bytes.length,
    medium.program (cells flash (offset + i)) (bytes.getD i 0) = bytes.getD i 0

instance (flash : F) (offset : Nat) (bytes : List UInt8) : Decidable (Takes flash offset bytes) :=
  inferInstanceAs (Decidable (∀ i < bytes.length, _))

theorem cells_write_of_takes {flash : F} {offset : Nat} {bytes : List UInt8} {used i : Nat}
    (hwords : Words (capacity F) offset bytes.length) (hused : used ≤ bytes.length)
    (h : Takes flash offset (bytes.take used)) (hi : i < used) :
    cells (write flash offset bytes).1 (offset + i) = bytes.getD i 0 := by
  rw [cells_write flash offset bytes (offset + i) hwords, if_pos ⟨by omega, by omega⟩,
    Nat.add_sub_cancel_left]
  have htaken := h i (by rw [List.length_take]; omega)
  have hget : (bytes.take used).getD i 0 = bytes.getD i 0 := by
    rw [List.getD_eq_getElem?_getD, List.getD_eq_getElem?_getD, List.getElem?_take_of_lt hi]
  rwa [hget] at htaken

theorem cellsAt_write_of_disjoint {flash : F} {offset : Nat} {bytes : List UInt8}
    {offset' len : Nat} (hwords : Words (capacity F) offset bytes.length)
    (h : offset' + len ≤ offset ∨ offset + bytes.length ≤ offset') :
    cellsAt (write flash offset bytes).1 offset' len = cellsAt flash offset' len := by
  refine cellsAt_congr fun i hi => ?_
  rw [cells_write flash offset bytes (offset' + i) hwords, if_neg (by omega)]

theorem cellsAt_erase {flash : F} {start stop offset len : Nat}
    (hsectors : Sectors (capacity F) start stop) (hstart : start ≤ offset)
    (hstop : offset + len ≤ stop) :
    cellsAt (erase flash start stop).1 offset len = List.replicate len 0xff := by
  rw [List.eq_replicate_iff]
  refine ⟨length_cellsAt _ _ _, fun byte hbyte => ?_⟩
  obtain ⟨i, hi, rfl⟩ := List.mem_map.mp hbyte
  have hlt := List.mem_range.mp hi
  rw [cells_erase flash start stop (offset + i) hsectors, if_pos ⟨by omega, by omega⟩]

theorem cellsAt_write_erased {flash : F} {offset : Nat} {bytes : List UInt8}
    (hwords : Words (capacity F) offset bytes.length)
    (h : cellsAt flash offset bytes.length = List.replicate bytes.length 0xff) :
    cellsAt (write flash offset bytes).1 offset bytes.length = bytes := by
  apply List.ext_getElem?
  intro i
  by_cases hi : i < bytes.length
  · have herased : cells flash (offset + i) = 0xff := by
      rw [← getD_cellsAt flash offset hi, h, List.getD_eq_getElem?_getD,
        List.getElem?_replicate, if_pos hi]
      rfl
    unfold cellsAt
    rw [List.getElem?_map, List.getElem?_range hi, Option.map_some,
      cells_write flash offset bytes (offset + i) hwords, if_pos ⟨by omega, by omega⟩, herased,
      medium.program_erased, Nat.add_sub_cancel_left, List.getD_eq_getElem?_getD,
      List.getElem?_eq_getElem hi]
    rfl
  · rw [List.getElem?_eq_none (by rw [length_cellsAt]; omega), List.getElem?_eq_none (by omega)]

end WorkingFlash

/-! ## Images and power cuts -/

structure Image (medium : Medium) (capacity : Nat) where
  cells : Nat → UInt8

namespace Image

variable {medium : Medium} {capacity : Nat}

def erased : Image medium capacity where
  cells := fun _ => 0xff

def write (image : Image medium capacity) (offset : Nat) (bytes : List UInt8) :
    Image medium capacity where
  cells i :=
    if offset ≤ i ∧ i < offset + bytes.length then
      medium.program (image.cells i) (bytes.getD (i - offset) 0)
    else image.cells i

def erase (image : Image medium capacity) (start stop : Nat) : Image medium capacity where
  cells i := if start ≤ i ∧ i < stop then 0xff else image.cells i

instance : WorkingFlash medium (Image medium capacity) where
  read image offset len :=
    if Words capacity offset len then
      some ((List.range len).map fun i => image.cells (offset + i))
    else none
  write image offset bytes :=
    if Words capacity offset bytes.length then (image.write offset bytes, true)
    else (image, false)
  erase image start stop :=
    if Sectors capacity start stop then (image.erase start stop, true) else (image, false)
  capacity := capacity
  cells := cells
  read_eq _ _ _ h := if_pos h
  write_ok _ _ _ h := by rw [if_pos h]
  cells_write _ _ _ _ h := by
    rw [if_pos h]
    rfl
  erase_ok _ _ _ h := by rw [if_pos h]
  cells_erase _ _ _ _ h := by
    rw [if_pos h]
    rfl

end Image

/-- A flash that loses power after so many more writes. -/
structure Interrupted (F : Type) where
  flash : F
  left : Nat

instance {F : Type} [NorFlash F] : NorFlash (Interrupted F) where
  read dying offset len := read dying.flash offset len
  write dying offset bytes :=
    match dying.left with
    | 0 => (dying, false)
    | left + 1 =>
        let (flash, ok) := write dying.flash offset bytes
        ({ flash := flash, left := left }, ok)
  erase dying start stop :=
    match dying.left with
    | 0 => (dying, false)
    | left + 1 =>
        let (flash, ok) := erase dying.flash start stop
        ({ flash := flash, left := left }, ok)

end Meshtastenstein.Lib
