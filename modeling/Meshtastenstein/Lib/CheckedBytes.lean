import Meshtastenstein.Lib.Bounded
import Meshtastenstein.Lib.Record
import Mathlib.Data.Vector.Basic
/-!
# Bytes behind bounds checks

Reads and writes that fail outside of the buffer, and arrays that are filled from the front.
Inside, they are those without the check.
-/

namespace Meshtastenstein.Lib

open Bytes

variable {α : Type} {n : Nat}

namespace FixedArray

variable {buf : List.Vector UInt8 n} {offset len i : Nat}

/-! ## Reads -/

def read? (arr : List.Vector α n) (i : Nat) : Option α := arr.toList[i]?

def slice? (arr : List.Vector α n) (offset len : Nat) : Option (List α) :=
  if offset + len ≤ n then some ((arr.toList.drop offset).take len) else none

def wordAt? (buf : List.Vector UInt8 n) (offset : Nat) : Option UInt32 := do
  some (ofLeBytes (← read? buf offset) (← read? buf (offset + 1)) (← read? buf (offset + 2))
    (← read? buf (offset + 3)))

theorem read?_of_lt (h : i < n) : read? buf i = some (buf.toList.getD i 0) := by
  have hlt : i < buf.toList.length := by rwa [buf.toList_length]
  unfold read?
  rw [List.getD_eq_getElem?_getD, List.getElem?_eq_getElem hlt]
  rfl

theorem slice?_of_le {arr : List.Vector α n} (h : offset + len ≤ n) :
    slice? arr offset len = some ((arr.toList.drop offset).take len) := if_pos h

theorem wordAt?_of_le (h : offset + 4 ≤ n) :
    wordAt? buf offset = some (wordAt buf.toList offset) := by
  unfold wordAt?
  rw [read?_of_lt (by omega), read?_of_lt (by omega), read?_of_lt (by omega),
    read?_of_lt (by omega)]
  rfl

/-! ## Writes -/

def write? (buf : List.Vector UInt8 n) (offset : Nat) (bytes : List UInt8) :
    Option (List.Vector UInt8 n) :=
  if h : offset + bytes.length ≤ n then
    some ⟨patch buf.toList offset bytes, by
      rw [length_patch (by rwa [buf.toList_length]), buf.toList_length]⟩
  else none

theorem write?_of_le (buf : List.Vector UInt8 n) {bytes : List UInt8}
    (h : offset + bytes.length ≤ n) :
    ∃ written, write? buf offset bytes = some written ∧
      written.toList = patch buf.toList offset bytes :=
  ⟨_, dif_pos h, rfl⟩

theorem write?_byte (buf : List.Vector UInt8 n) (h : offset < n) (byte : UInt8) :
    ∃ written, write? buf offset [byte] = some written ∧
      written.toList = patch buf.toList offset [byte] :=
  write?_of_le buf h

/-! ## Arrays filled from the front -/

def padded (blank : α) (items : Bounded α n) : List.Vector α n :=
  ⟨items.toList ++ List.replicate (n - items.length) blank, by
    have hle := items.length_le
    rw [List.length_append, List.length_replicate]
    unfold Bounded.length
    omega⟩

/-- Copy items to the front of a blank array, which fails when they do not fit. -/
def fill? (n : Nat) (blank : α) (items : List α) : Option (List.Vector α n) :=
  if h : items.length ≤ n then some (padded blank ⟨items, h⟩) else none

theorem fill?_toList (blank : α) (items : Bounded α n) :
    fill? n blank items.toList = some (padded blank items) := dif_pos items.length_le

theorem slice?_padded (blank : α) (items : Bounded α n) :
    slice? (padded blank items) 0 items.length = some items.toList := by
  have hle : 0 + items.length ≤ n := by
    rw [Nat.zero_add]
    exact items.length_le
  rw [slice?_of_le hle]
  exact congrArg some List.take_left

theorem read?_padded (blank : α) (items : Bounded α n) {i : Nat} (h : i < items.length) :
    read? (padded blank items) i = items.toList[i]? :=
  List.getElem?_append_left h

end FixedArray

namespace Bytes

variable {buf bytes : List UInt8} {offset : Nat}

theorem patch_patch_adjacent {more : List UInt8}
    (h : offset + bytes.length + more.length ≤ buf.length) :
    patch (patch buf offset bytes) (offset + bytes.length) more =
      patch buf offset (bytes ++ more) := by
  have hfirst : offset + bytes.length ≤ buf.length := by omega
  have hboth : offset + (bytes ++ more).length ≤ buf.length := by
    rw [List.length_append]
    omega
  apply List.ext_getElem?
  intro i
  rw [getElem?_patch (by rw [length_patch hfirst]; omega), getElem?_patch hfirst,
    getElem?_patch hboth, List.length_append, List.getElem?_append]
  by_cases hlow : i < offset
  · rw [if_neg (by omega), if_neg (by omega), if_neg (by omega)]
  · by_cases hmid : i < offset + bytes.length
    · rw [if_neg (by omega), if_pos ⟨by omega, hmid⟩, if_pos ⟨by omega, by omega⟩,
        if_pos (by omega)]
    · by_cases hhigh : i < offset + bytes.length + more.length
      · rw [if_pos ⟨by omega, hhigh⟩, if_pos ⟨by omega, by omega⟩, if_neg (by omega)]
        congr 1
        omega
      · rw [if_neg (by omega), if_neg (by omega), if_neg (by omega)]

end Bytes

theorem FixedArray.patch_cons {buf first : List.Vector UInt8 n} {offset : Nat} {byte : UInt8}
    {bytes : List UInt8} (hfirst : first.toList = patch buf.toList offset [byte])
    (h : offset + 1 + bytes.length ≤ n) :
    patch buf.toList offset (byte :: bytes) = patch first.toList (offset + 1) bytes := by
  rw [hfirst]
  exact (@patch_patch_adjacent buf.toList [byte] offset bytes (by rwa [buf.toList_length])).symm

end Meshtastenstein.Lib
