import Meshtastenstein.Lib.Bytes
/-!
# The protobuf wire format

Base-128 varints and the records of a message: a field number with a varint, a
fixed 32-bit word or a length-delimited block.  Reading gives back what was written,
for one varint, for one field in front of any rest, and for a whole list of fields.
A varint takes a byte for every seven bits, which bounds the length of every record.
-/

namespace Meshtastenstein.Lib.Protobuf

open Lib.Bytes

/-! ## Varints -/

/-- At most `fuel` groups of seven bits, least significant first; every byte but the
last has its high bit set. -/
def encodeVarintFuel : Nat → Nat → List UInt8
  | 0, _ => []
  | fuel + 1, n =>
      if n < 128 then [UInt8.ofNat n]
      else UInt8.ofNat (n % 128 + 128) :: encodeVarintFuel fuel (n / 128)

/-- The varint of a 64-bit number takes at most ten bytes. -/
def encodeVarint (n : Nat) : List UInt8 := encodeVarintFuel 10 n

def decodeVarintFuel : Nat → List UInt8 → Option (Nat × List UInt8)
  | 0, _ => none
  | _, [] => none
  | fuel + 1, b :: rest =>
      if b.toNat < 128 then some (b.toNat, rest)
      else
        (decodeVarintFuel fuel rest).map fun (high, rest) =>
          (b.toNat - 128 + 128 * high, rest)

def decodeVarint (bytes : List UInt8) : Option (Nat × List UInt8) :=
  (decodeVarintFuel 10 bytes).filter fun r => decide (r.1 < 2 ^ 64)

theorem decodeVarintFuel_encodeVarintFuel (fuel n : Nat) (rest : List UInt8)
    (h : n < 128 ^ (fuel + 1)) :
    decodeVarintFuel (fuel + 1) (encodeVarintFuel (fuel + 1) n ++ rest) =
      some (n, rest) := by
  induction fuel generalizing n with
  | zero =>
      have hbyte : (UInt8.ofNat n).toNat = n := by
        rw [UInt8.toNat_ofNat']
        omega
      rw [encodeVarintFuel, if_pos (by omega), List.cons_append, decodeVarintFuel, hbyte,
        if_pos (by omega)]
      rfl
  | succ fuel ih =>
      rw [encodeVarintFuel]
      split
      · rename_i hlt
        have hbyte : (UInt8.ofNat n).toNat = n := by
          rw [UInt8.toNat_ofNat']
          omega
        rw [List.cons_append, decodeVarintFuel, hbyte, if_pos hlt]
        rfl
      · rename_i hge
        have hbyte : (UInt8.ofNat (n % 128 + 128)).toNat = n % 128 + 128 := by
          rw [UInt8.toNat_ofNat']
          omega
        have hhigh : n / 128 < 128 ^ (fuel + 1) := by
          rw [Nat.div_lt_iff_lt_mul (by omega)]
          rwa [Nat.pow_succ] at h
        rw [List.cons_append, decodeVarintFuel, hbyte, if_neg (by omega), ih _ hhigh]
        simp only [Option.map_some, Option.some.injEq, Prod.mk.injEq, and_true]
        omega

theorem decodeVarint_encodeVarint (n : Nat) (rest : List UInt8) (h : n < 2 ^ 64) :
    decodeVarint (encodeVarint n ++ rest) = some (n, rest) := by
  unfold decodeVarint encodeVarint
  rw [decodeVarintFuel_encodeVarintFuel 9 n rest (by omega), Option.filter_some,
    if_pos (decide_eq_true h)]

theorem encodeVarint_ne_nil (n : Nat) : encodeVarint n ≠ [] := by
  unfold encodeVarint encodeVarintFuel
  split <;> simp

theorem length_encodeVarintFuel_le (fuel n : Nat) :
    (encodeVarintFuel fuel n).length ≤ fuel := by
  induction fuel generalizing n with
  | zero => exact Nat.le_refl 0
  | succ fuel ih =>
      rw [encodeVarintFuel]
      split
      · exact Nat.le_add_left 1 fuel
      · exact Nat.succ_le_succ (ih (n / 128))

theorem length_encodeVarintFuel_le_of_lt {groups : Nat} (fuel : Nat) {n : Nat}
    (h : n < 128 ^ (groups + 1)) : (encodeVarintFuel fuel n).length ≤ groups + 1 := by
  induction groups generalizing fuel n with
  | zero =>
      cases fuel with
      | zero => exact Nat.zero_le _
      | succ fuel =>
          rw [encodeVarintFuel, if_pos (by omega)]
          exact Nat.le_refl 1
  | succ groups ih =>
      cases fuel with
      | zero => exact Nat.zero_le _
      | succ fuel =>
          rw [encodeVarintFuel]
          split
          · exact Nat.le_add_left 1 _
          · have hhigh : n / 128 < 128 ^ (groups + 1) := by
              rw [Nat.div_lt_iff_lt_mul (by omega)]
              rwa [Nat.pow_succ] at h
            exact Nat.succ_le_succ (ih fuel hhigh)

theorem length_encodeVarintFuel_mono (fuel : Nat) {m n : Nat} (h : m ≤ n) :
    (encodeVarintFuel fuel m).length ≤ (encodeVarintFuel fuel n).length := by
  induction fuel generalizing m n with
  | zero => exact Nat.le_refl 0
  | succ fuel ih =>
      rw [encodeVarintFuel, encodeVarintFuel]
      by_cases hn : n < 128
      · rw [if_pos hn, if_pos (by omega)]
        exact Nat.le_refl 1
      · rw [if_neg hn]
        split
        · exact Nat.le_add_left 1 _
        · exact Nat.succ_le_succ (ih (Nat.div_le_div_right h))

theorem length_encodeVarintFuel_of_decode {fuel n : Nat} {bytes rest : List UInt8}
    (h : decodeVarintFuel fuel bytes = some (n, rest)) :
    (encodeVarintFuel fuel n).length + rest.length ≤ bytes.length := by
  induction fuel generalizing bytes n with
  | zero => cases h
  | succ fuel ih =>
      cases bytes with
      | nil => cases h
      | cons b later =>
          rw [decodeVarintFuel] at h
          split at h
          · rename_i hlow
            cases h
            rw [encodeVarintFuel, if_pos hlow, List.length_cons]
            exact Nat.le_of_eq (Nat.add_comm 1 _)
          · obtain ⟨⟨high, after⟩, hhigh, hread⟩ := Option.map_eq_some_iff.mp h
            cases hread
            have hlen := ih hhigh
            have hpos : b.toNat < 256 := b.toNat_lt
            rw [encodeVarintFuel, List.length_cons]
            split
            · have hle : rest.length ≤ later.length := Nat.le_trans (Nat.le_add_left _ _) hlen
              rw [List.length_singleton]
              omega
            · have hquotient : (b.toNat - 128 + 128 * high) / 128 = high := by omega
              rw [hquotient, List.length_cons]
              omega

def varintLen (n : Nat) : Nat := (encodeVarint n).length

theorem varintLen_le (n : Nat) : varintLen n ≤ 10 := length_encodeVarintFuel_le 10 n

theorem varintLen_le_of_lt {groups n : Nat} (h : n < 128 ^ (groups + 1)) :
    varintLen n ≤ groups + 1 :=
  length_encodeVarintFuel_le_of_lt 10 h

theorem varintLen_mono {m n : Nat} (h : m ≤ n) : varintLen m ≤ varintLen n :=
  length_encodeVarintFuel_mono 10 h

theorem one_le_varintLen (n : Nat) : 1 ≤ varintLen n :=
  List.length_pos_iff.mpr (encodeVarint_ne_nil n)

theorem varintLen_of_decodeVarint {n : Nat} {bytes rest : List UInt8}
    (h : decodeVarint bytes = some (n, rest)) : varintLen n + rest.length ≤ bytes.length :=
  length_encodeVarintFuel_of_decode (Option.filter_eq_some_iff.mp h).1

def blockLen (n : Nat) : Nat := varintLen n + n

theorem blockLen_mono {m n : Nat} (h : m ≤ n) : blockLen m ≤ blockLen n :=
  Nat.add_le_add (varintLen_mono h) h

theorem blockLen_le {n : Nat} (h : n < 16384) : blockLen n ≤ n + 2 := by
  have hlen : varintLen n ≤ 1 + 1 := varintLen_le_of_lt h
  unfold blockLen
  omega

/-! ## Fields -/

inductive Value
  | varint (n : Nat)
  | bytes (content : List UInt8)
  | fixed32 (word : UInt32)
deriving DecidableEq

namespace Value

def wireType : Value → Nat
  | varint _ => 0
  | bytes _ => 2
  | fixed32 _ => 5

def encode : Value → List UInt8
  | varint n => encodeVarint n
  | bytes content => encodeVarint content.length ++ content
  | fixed32 word => toLeBytes word

/-- Numbers and lengths fit 64 bits. -/
def Fits : Value → Prop
  | varint n => n < 2 ^ 64
  | bytes content => content.length < 2 ^ 64
  | fixed32 _ => True

/-- A value of the given wire type and what follows it. -/
def decode (wireType : Nat) (bytes : List UInt8) : Option (Value × List UInt8) :=
  if wireType = 0 then
    (decodeVarint bytes).map fun (n, rest) => (varint n, rest)
  else if wireType = 2 then
    (decodeVarint bytes).bind fun (length, rest) =>
      if length ≤ rest.length then some (.bytes (rest.take length), rest.drop length)
      else none
  else if wireType = 5 then
    if 4 ≤ bytes.length then some (fixed32 (wordAt bytes 0), bytes.drop 4) else none
  else none

theorem decode_encode (value : Value) (rest : List UInt8) (h : value.Fits) :
    decode value.wireType (value.encode ++ rest) = some (value, rest) := by
  cases value with
  | varint n =>
      unfold decode wireType encode
      rw [if_pos rfl, decodeVarint_encodeVarint n rest h]
      rfl
  | bytes content =>
      have htype : (Value.bytes content).wireType = 2 := rfl
      unfold decode encode
      rw [htype, if_neg (by decide), if_pos rfl, List.append_assoc,
        decodeVarint_encodeVarint _ _ h, Option.bind_some]
      dsimp only
      rw [if_pos (by simp), List.take_left, List.drop_left]
  | fixed32 word =>
      have hword : wordAt (toLeBytes word ++ rest) 0 = word := wordAt_append [] rest word
      have htype : (fixed32 word).wireType = 5 := rfl
      unfold decode encode
      rw [htype, if_neg (by decide), if_neg (by decide), if_pos rfl, if_pos (by simp), hword]
      rfl

theorem length_encode_of_decode {wireType : Nat} {value : Value} {bytes rest : List UInt8}
    (h : decode wireType bytes = some (value, rest)) :
    value.encode.length + rest.length ≤ bytes.length := by
  unfold decode at h
  split at h
  · obtain ⟨⟨n, after⟩, hn, hread⟩ := Option.map_eq_some_iff.mp h
    cases hread
    exact varintLen_of_decodeVarint hn
  · split at h
    · obtain ⟨⟨len, after⟩, hlen, hread⟩ := Option.bind_eq_some_iff.mp h
      dsimp only at hread
      split at hread
      · rename_i hfits
        cases hread
        have hvarint := varintLen_of_decodeVarint hlen
        have htake : (after.take len).length = len := by
          rw [List.length_take]
          omega
        unfold encode
        rw [List.length_append, htake, List.length_drop]
        change varintLen len + len + _ ≤ _
        omega
      · cases hread
    · split at h
      · split at h
        · rename_i hfour
          cases h
          unfold encode
          rw [length_toLeBytes, List.length_drop]
          omega
        · cases h
      · cases h

end Value

structure Field where
  number : Nat
  value : Value
deriving DecidableEq

namespace Field

def encode (field : Field) : List UInt8 :=
  encodeVarint (8 * field.number + field.value.wireType) ++ field.value.encode

/-- The number is one the format allows and the value fits. -/
def Fits (field : Field) : Prop :=
  0 < field.number ∧ field.number < 2 ^ 29 ∧ field.value.Fits

def decode (bytes : List UInt8) : Option (Field × List UInt8) :=
  (decodeVarint bytes).bind fun (key, rest) =>
    if key / 8 = 0 ∨ 2 ^ 29 ≤ key / 8 then none
    else (Value.decode (key % 8) rest).map fun (value, rest) => (⟨key / 8, value⟩, rest)

theorem wireType_lt (value : Value) : value.wireType < 8 := by
  cases value <;> simp [Value.wireType]

theorem wireType_of_decode {wireType : Nat} {value : Value} {bytes rest : List UInt8}
    (h : Value.decode wireType bytes = some (value, rest)) : value.wireType = wireType := by
  unfold Value.decode at h
  split at h
  · rename_i htype
    obtain ⟨_, -, hread⟩ := Option.map_eq_some_iff.mp h
    cases hread
    exact htype.symm
  · split at h
    · rename_i htype
      obtain ⟨_, -, hread⟩ := Option.bind_eq_some_iff.mp h
      dsimp only at hread
      split at hread
      · cases hread
        exact htype.symm
      · cases hread
    · split at h
      · rename_i htype
        split at h
        · cases h
          exact htype.symm
        · cases h
      · cases h

theorem length_encode_le (field : Field) (h : field.number < 16) :
    field.encode.length ≤ 1 + field.value.encode.length := by
  have htype := wireType_lt field.value
  have hkey : varintLen (8 * field.number + field.value.wireType) ≤ 0 + 1 :=
    varintLen_le_of_lt (by omega)
  unfold encode
  rw [List.length_append]
  exact Nat.add_le_add_right hkey _

theorem length_encode_le_add_two (field : Field) (h : field.number < 2048) :
    field.encode.length ≤ 2 + field.value.encode.length := by
  have htype := wireType_lt field.value
  have hkey : varintLen (8 * field.number + field.value.wireType) ≤ 1 + 1 :=
    varintLen_le_of_lt (by omega)
  unfold encode
  rw [List.length_append]
  exact Nat.add_le_add_right hkey _

theorem lt_length_encode (field : Field) : field.value.encode.length < field.encode.length := by
  have hkey := one_le_varintLen (8 * field.number + field.value.wireType)
  unfold encode
  rw [List.length_append]
  change _ < varintLen _ + _
  omega

theorem length_encode_of_decode {field : Field} {bytes rest : List UInt8}
    (h : decode bytes = some (field, rest)) : field.encode.length + rest.length ≤ bytes.length := by
  unfold decode at h
  obtain ⟨⟨key, after⟩, hkey, hvalue⟩ := Option.bind_eq_some_iff.mp h
  dsimp only at hvalue
  split at hvalue
  · cases hvalue
  · obtain ⟨⟨value, later⟩, hread, hfield⟩ := Option.map_eq_some_iff.mp hvalue
    cases hfield
    have htype := wireType_of_decode hread
    have hwhole : 8 * (key / 8) + value.wireType = key := by omega
    have hvarint := varintLen_of_decodeVarint hkey
    have hlen := Value.length_encode_of_decode hread
    unfold encode
    rw [List.length_append]
    dsimp only
    rw [hwhole]
    change varintLen key + _ + _ ≤ _
    omega

theorem decode_encode (field : Field) (rest : List UInt8) (h : field.Fits) :
    decode (field.encode ++ rest) = some (field, rest) := by
  obtain ⟨hpos, hlt, hvalue⟩ := h
  have htype := wireType_lt field.value
  have hnumber : (8 * field.number + field.value.wireType) / 8 = field.number := by omega
  have hmod : (8 * field.number + field.value.wireType) % 8 = field.value.wireType := by
    omega
  unfold decode encode
  rw [List.append_assoc, decodeVarint_encodeVarint _ _ (by omega), Option.bind_some]
  dsimp only
  rw [hnumber, hmod, if_neg (by omega), Value.decode_encode _ _ hvalue]
  rfl

theorem encode_ne_nil (field : Field) : field.encode ≠ [] := by
  unfold encode
  intro h
  exact encodeVarint_ne_nil _ (List.append_eq_nil_iff.mp h).1

end Field

/-! ## Messages -/

def encodeFields (fields : List Field) : List UInt8 :=
  fields.flatMap Field.encode

/-- Every record takes at least one byte, so the length bounds the number of steps. -/
def decodeFieldsFuel : Nat → List UInt8 → Option (List Field)
  | _, [] => some []
  | 0, _ => none
  | fuel + 1, bytes =>
      (Field.decode bytes).bind fun (field, rest) =>
        (decodeFieldsFuel fuel rest).map (field :: ·)

def decodeFields (bytes : List UInt8) : Option (List Field) :=
  decodeFieldsFuel bytes.length bytes

theorem decodeFieldsFuel_encodeFields (fields : List Field)
    (hfits : ∀ field ∈ fields, field.Fits) (fuel : Nat)
    (hfuel : (encodeFields fields).length ≤ fuel) :
    decodeFieldsFuel fuel (encodeFields fields) = some fields := by
  induction fields generalizing fuel with
  | nil =>
      unfold decodeFieldsFuel
      rfl
  | cons field fields ih =>
      have hne := field.encode_ne_nil
      have hpos : 0 < field.encode.length := List.length_pos_iff.mpr hne
      have hcons : encodeFields (field :: fields) = field.encode ++ encodeFields fields :=
        List.flatMap_cons
      rw [hcons, List.length_append] at hfuel
      rw [hcons]
      obtain ⟨fuel, rfl⟩ : ∃ k, fuel = k + 1 := ⟨fuel - 1, by omega⟩
      have hwhole : field.encode ++ encodeFields fields ≠ [] := by simp [hne]
      obtain ⟨b, bytes, hbytes⟩ := List.exists_cons_of_ne_nil hwhole
      have hstep : decodeFieldsFuel (fuel + 1) (field.encode ++ encodeFields fields) =
          (Field.decode (field.encode ++ encodeFields fields)).bind fun (field, rest) =>
            (decodeFieldsFuel fuel rest).map (field :: ·) := by
        rw [hbytes]
        rfl
      rw [hstep, Field.decode_encode _ _ (hfits field List.mem_cons_self), Option.bind_some]
      dsimp only
      rw [ih (fun f hf => hfits f (List.mem_cons_of_mem _ hf)) fuel (by omega)]
      rfl

/-- Reading a message gives its records back. -/
theorem decodeFields_encodeFields (fields : List Field)
    (hfits : ∀ field ∈ fields, field.Fits) :
    decodeFields (encodeFields fields) = some fields :=
  decodeFieldsFuel_encodeFields fields hfits _ (Nat.le_refl _)

theorem encodeFields_append (fields later : List Field) :
    encodeFields (fields ++ later) = encodeFields fields ++ encodeFields later :=
  List.flatMap_append

theorem length_encodeFields_cons (field : Field) (fields : List Field) :
    (encodeFields (field :: fields)).length =
      field.encode.length + (encodeFields fields).length := by
  unfold encodeFields
  rw [List.flatMap_cons, List.length_append]

/-- Written again, a message is no longer than it was read. -/
theorem length_encodeFields_of_decodeFieldsFuel {fuel : Nat} {bytes : List UInt8}
    {fields : List Field} (h : decodeFieldsFuel fuel bytes = some fields) :
    (encodeFields fields).length ≤ bytes.length := by
  induction fuel generalizing bytes fields with
  | zero =>
      cases bytes with
      | nil =>
          cases h
          exact Nat.zero_le _
      | cons byte bytes => cases h
  | succ fuel ih =>
      cases bytes with
      | nil =>
          cases h
          exact Nat.zero_le _
      | cons byte bytes =>
          obtain ⟨⟨field, rest⟩, hfield, hlater⟩ := Option.bind_eq_some_iff.mp h
          obtain ⟨later, hread, rfl⟩ := Option.map_eq_some_iff.mp hlater
          have hfirst := Field.length_encode_of_decode hfield
          have hrest := ih hread
          rw [length_encodeFields_cons]
          omega

theorem length_encodeFields_of_decodeFields {bytes : List UInt8} {fields : List Field}
    (h : decodeFields bytes = some fields) : (encodeFields fields).length ≤ bytes.length :=
  length_encodeFields_of_decodeFieldsFuel h

/-- What every record adds no more to than its length grows no larger than the message. -/
theorem measure_foldlM_le {α : Type} {merge : α → Field → Option α} (measure : α → Nat)
    (hmerge : ∀ acc field acc', merge acc field = some acc' →
      measure acc' ≤ measure acc + field.encode.length)
    {fields : List Field} {acc acc' : α} (h : fields.foldlM merge acc = some acc') :
    measure acc' ≤ measure acc + (encodeFields fields).length := by
  induction fields generalizing acc with
  | nil =>
      cases h
      exact Nat.le_add_right _ _
  | cons field fields ih =>
      rw [List.foldlM_cons] at h
      obtain ⟨next, hnext, hrest⟩ := Option.bind_eq_some_iff.mp h
      have hfirst := hmerge acc field next hnext
      have hlater := ih hrest
      rw [length_encodeFields_cons]
      omega

end Meshtastenstein.Lib.Protobuf
