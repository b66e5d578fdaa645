import Mathlib.Algebra.Group.Nat.Defs
import Mathlib.Data.List.Basic
/-!
# Little-endian words and keystreams

The byte-level vocabulary of wire formats: fixed-width little-endian words with
their round trips, and the stream cipher that combines bytes with a keystream by
exclusive or.
-/

namespace Meshtastenstein.Lib.Bytes

/-! ## Little-endian words -/

def byteAt (x : UInt32) (i : Nat) : UInt8 :=
  UInt8.ofNat (x.toNat / 256 ^ i)

/-- The word whose bytes are given, least significant first. -/
def ofLeBytes (b0 b1 b2 b3 : UInt8) : UInt32 :=
  UInt32.ofNat (b0.toNat + 256 * b1.toNat + 256 ^ 2 * b2.toNat + 256 ^ 3 * b3.toNat)

/-- The four bytes of a word, least significant first. -/
def toLeBytes (x : UInt32) : List UInt8 :=
  [byteAt x 0, byteAt x 1, byteAt x 2, byteAt x 3]

@[simp] theorem length_toLeBytes (x : UInt32) : (toLeBytes x).length = 4 := rfl

theorem toNat_byteAt (x : UInt32) (i : Nat) :
    (byteAt x i).toNat = x.toNat / 256 ^ i % 256 := by
  simp [byteAt]

@[simp] theorem ofLeBytes_byteAt (x : UInt32) :
    ofLeBytes (byteAt x 0) (byteAt x 1) (byteAt x 2) (byteAt x 3) = x := by
  apply UInt32.toNat_inj.mp
  have hx := x.toNat_lt
  simp only [ofLeBytes, toNat_byteAt, UInt32.toNat_ofNat']
  omega

theorem toLeBytes_injective {x y : UInt32} (h : toLeBytes x = toLeBytes y) :
    x = y := by
  simp only [toLeBytes, List.cons.injEq, and_true] at h
  obtain ⟨h0, h1, h2, h3⟩ := h
  rw [← ofLeBytes_byteAt x, ← ofLeBytes_byteAt y, h0, h1, h2, h3]

/-- The word stored at an offset; bytes past the end read as zero. -/
def wordAt (bytes : List UInt8) (offset : Nat) : UInt32 :=
  ofLeBytes (bytes.getD offset 0) (bytes.getD (offset + 1) 0)
    (bytes.getD (offset + 2) 0) (bytes.getD (offset + 3) 0)

theorem wordAt_append (before after : List UInt8) (x : UInt32) :
    wordAt (before ++ (toLeBytes x ++ after)) before.length = x := by
  have hget : ∀ i, (before ++ (toLeBytes x ++ after)).getD (before.length + i) 0 =
      (toLeBytes x ++ after).getD i 0 := by
    intro i
    rw [List.getD_eq_getElem?_getD, List.getD_eq_getElem?_getD,
      List.getElem?_append_right (Nat.le_add_right _ _), Nat.add_sub_cancel_left]
  have hzero := hget 0
  rw [Nat.add_zero] at hzero
  unfold wordAt
  rw [hzero, hget, hget, hget]
  exact ofLeBytes_byteAt x

theorem toLeBytes_ofLeBytes (b0 b1 b2 b3 : UInt8) :
    toLeBytes (ofLeBytes b0 b1 b2 b3) = [b0, b1, b2, b3] := by
  have h0 := b0.toNat_lt
  have h1 := b1.toNat_lt
  have h2 := b2.toNat_lt
  have h3 := b3.toNat_lt
  have hvalue : (ofLeBytes b0 b1 b2 b3).toNat =
      b0.toNat + 256 * b1.toNat + 256 ^ 2 * b2.toNat + 256 ^ 3 * b3.toNat := by
    rw [ofLeBytes, UInt32.toNat_ofNat']
    omega
  simp only [toLeBytes, List.cons.injEq, and_true]
  refine ⟨?_, ?_, ?_, ?_⟩ <;>
  · apply UInt8.toNat_inj.mp
    rw [toNat_byteAt, hvalue]
    omega

theorem toLeBytes_wordAt (bytes : List UInt8) (offset : Nat)
    (h : offset + 4 ≤ bytes.length) :
    toLeBytes (wordAt bytes offset) = (bytes.drop offset).take 4 := by
  rw [wordAt, toLeBytes_ofLeBytes, List.drop_eq_getElem_cons (by omega),
    List.drop_eq_getElem_cons (show offset + 1 < bytes.length by omega),
    List.drop_eq_getElem_cons (show offset + 2 < bytes.length by omega),
    List.drop_eq_getElem_cons (show offset + 3 < bytes.length by omega)]
  simp only [List.getD_eq_getElem?_getD, List.take_succ_cons, List.take_zero]
  rw [List.getElem?_eq_getElem (by omega), List.getElem?_eq_getElem (by omega),
    List.getElem?_eq_getElem (by omega), List.getElem?_eq_getElem (by omega)]
  rfl

/-! ## Keystreams -/

/-- Combine every byte with the keystream byte of its position. -/
def applyKeystream (keystream : Nat → UInt8) (data : List UInt8) : List UInt8 :=
  data.mapIdx fun i b => b ^^^ keystream i

@[simp] theorem length_applyKeystream (keystream : Nat → UInt8)
    (data : List UInt8) :
    (applyKeystream keystream data).length = data.length := by
  simp [applyKeystream]

@[simp] theorem applyKeystream_applyKeystream (keystream : Nat → UInt8)
    (data : List UInt8) :
    applyKeystream keystream (applyKeystream keystream data) = data := by
  apply List.ext_getElem
  · simp
  · intro i _ _
    simp only [applyKeystream, List.getElem_mapIdx, UInt8.xor_assoc, UInt8.xor_self,
      UInt8.xor_zero]

end Meshtastenstein.Lib.Bytes
