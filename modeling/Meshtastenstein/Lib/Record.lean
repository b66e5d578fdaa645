import Meshtastenstein.Lib.Bytes
/-!
# Fixed-size records

Records of a fixed size are filled in by overwriting bytes at offsets and taken apart by
reading them at offsets.
-/

namespace Meshtastenstein.Lib.Bytes

def patch (buf : List UInt8) (offset : Nat) (bytes : List UInt8) : List UInt8 :=
  buf.take offset ++ (bytes ++ buf.drop (offset + bytes.length))

def slice (buf : List UInt8) (offset len : Nat) : List UInt8 := (buf.drop offset).take len

theorem length_patch_eq (buf bytes : List UInt8) (offset : Nat) :
    (patch buf offset bytes).length =
      min offset buf.length + (bytes.length + (buf.length - (offset + bytes.length))) := by
  unfold patch
  rw [List.length_append, List.length_append, List.length_take, List.length_drop]

theorem length_patch {buf bytes : List UInt8} {offset : Nat}
    (h : offset + bytes.length ≤ buf.length) : (patch buf offset bytes).length = buf.length := by
  rw [length_patch_eq]
  omega

theorem length_slice_le (buf : List UInt8) (offset len : Nat) :
    (slice buf offset len).length ≤ len := List.length_take_le _ _

theorem length_slice {buf : List UInt8} {offset len : Nat} (h : offset + len ≤ buf.length) :
    (slice buf offset len).length = len := by
  unfold slice
  rw [List.length_take, List.length_drop]
  omega

theorem getElem?_patch {buf bytes : List UInt8} {offset : Nat}
    (h : offset + bytes.length ≤ buf.length) (i : Nat) :
    (patch buf offset bytes)[i]? =
      if offset ≤ i ∧ i < offset + bytes.length then bytes[i - offset]? else buf[i]? := by
  have htake : (buf.take offset).length = offset := by
    rw [List.length_take]
    omega
  unfold patch
  by_cases hlow : i < offset
  · rw [List.getElem?_append_left (by omega), List.getElem?_take_of_lt hlow, if_neg (by omega)]
  · rw [List.getElem?_append_right (by omega), htake]
    by_cases hhigh : i < offset + bytes.length
    · rw [List.getElem?_append_left (by omega), if_pos ⟨by omega, hhigh⟩]
    · rw [List.getElem?_append_right (by omega), if_neg (by omega), List.getElem?_drop]
      congr 1
      omega

theorem getD_patch {buf bytes : List UInt8} {offset : Nat}
    (h : offset + bytes.length ≤ buf.length) (i : Nat) :
    (patch buf offset bytes).getD i 0 =
      if offset ≤ i ∧ i < offset + bytes.length then bytes.getD (i - offset) 0
      else buf.getD i 0 := by
  rw [List.getD_eq_getElem?_getD, getElem?_patch h]
  split <;> rw [List.getD_eq_getElem?_getD]

theorem getElem?_slice (buf : List UInt8) (offset len i : Nat) :
    (slice buf offset len)[i]? = if i < len then buf[offset + i]? else none := by
  unfold slice
  rw [List.getElem?_take, List.getElem?_drop]

theorem getD_slice {buf : List UInt8} {offset len i : Nat} (hi : i < len) :
    (slice buf offset len).getD i 0 = buf.getD (offset + i) 0 := by
  rw [List.getD_eq_getElem?_getD, getElem?_slice, if_pos hi, List.getD_eq_getElem?_getD]

theorem slice_patch {buf bytes : List UInt8} {offset : Nat}
    (h : offset + bytes.length ≤ buf.length) :
    slice (patch buf offset bytes) offset bytes.length = bytes := by
  apply List.ext_getElem?
  intro i
  rw [getElem?_slice]
  by_cases hi : i < bytes.length
  · rw [if_pos hi, getElem?_patch h, if_pos ⟨by omega, by omega⟩, Nat.add_sub_cancel_left]
  · rw [if_neg hi, List.getElem?_eq_none (by omega)]

theorem slice_patch_of_disjoint {buf bytes : List UInt8} {offset offset' len : Nat}
    (h : offset + bytes.length ≤ buf.length)
    (hdisjoint : offset' + len ≤ offset ∨ offset + bytes.length ≤ offset') :
    slice (patch buf offset bytes) offset' len = slice buf offset' len := by
  apply List.ext_getElem?
  intro i
  rw [getElem?_slice, getElem?_slice]
  by_cases hi : i < len
  · rw [if_pos hi, if_pos hi, getElem?_patch h, if_neg (by omega)]
  · rw [if_neg hi, if_neg hi]

/-- Records that agree on the bytes read agree on what is read. -/
theorem slice_congr {buf buf' : List UInt8} {offset len : Nat} (hbuf : offset + len ≤ buf.length)
    (hbuf' : offset + len ≤ buf'.length)
    (h : ∀ i < len, buf'.getD (offset + i) 0 = buf.getD (offset + i) 0) :
    slice buf' offset len = slice buf offset len := by
  apply List.ext_getElem
  · rw [length_slice hbuf, length_slice hbuf']
  · intro i hi hi'
    rw [length_slice hbuf'] at hi
    have hat := h i hi
    rw [← getD_slice hi, ← getD_slice hi] at hat
    rwa [List.getD_eq_getElem?_getD, List.getD_eq_getElem?_getD, List.getElem?_eq_getElem,
      List.getElem?_eq_getElem] at hat

theorem wordAt_congr {buf buf' : List UInt8} {offset : Nat}
    (h : ∀ i < 4, buf'.getD (offset + i) 0 = buf.getD (offset + i) 0) :
    wordAt buf' offset = wordAt buf offset := by
  unfold wordAt
  have hzero := h 0 (by decide)
  rw [Nat.add_zero] at hzero
  rw [hzero, h 1 (by decide), h 2 (by decide), h 3 (by decide)]

theorem wordAt_patch {buf : List UInt8} {offset : Nat} (h : offset + 4 ≤ buf.length)
    (x : UInt32) : wordAt (patch buf offset (toLeBytes x)) offset = x := by
  have htake : (buf.take offset).length = offset := by
    rw [List.length_take]
    omega
  have hword := wordAt_append (buf.take offset) (buf.drop (offset + 4)) x
  rwa [htake] at hword

theorem wordAt_patch_of_disjoint {buf bytes : List UInt8} {offset offset' : Nat}
    (h : offset + bytes.length ≤ buf.length)
    (hdisjoint : offset' + 4 ≤ offset ∨ offset + bytes.length ≤ offset') :
    wordAt (patch buf offset bytes) offset' = wordAt buf offset' := by
  refine wordAt_congr fun i hi => ?_
  rw [getD_patch h, if_neg (by omega)]

def StartsWith (x : UInt32) (buf : List UInt8) : Prop := 4 ≤ buf.length ∧ wordAt buf 0 = x

theorem startsWith_patch_zero {buf : List UInt8} (h : 4 ≤ buf.length) (x : UInt32) :
    StartsWith x (patch buf 0 (toLeBytes x)) := by
  refine ⟨?_, wordAt_patch (by omega) x⟩
  rw [length_patch_eq, length_toLeBytes]
  omega

theorem StartsWith.patch {x : UInt32} {buf : List UInt8} (h : StartsWith x buf) {offset : Nat}
    (hoffset : 4 ≤ offset) (bytes : List UInt8) : StartsWith x (patch buf offset bytes) := by
  obtain ⟨hlength, hword⟩ := h
  refine ⟨?_, Eq.trans (wordAt_congr fun i hi => ?_) hword⟩
  · rw [length_patch_eq]
    omega
  · unfold Bytes.patch
    rw [List.getD_eq_getElem?_getD, List.getD_eq_getElem?_getD,
      List.getElem?_append_left (by rw [List.length_take]; omega),
      List.getElem?_take_of_lt (by omega)]

theorem wordAt_of_slice {buf : List UInt8} {offset : Nat} {x : UInt32}
    (h : slice buf offset 4 = toLeBytes x) : wordAt buf offset = x := by
  have hat : ∀ i < 4, buf.getD (offset + i) 0 = (toLeBytes x).getD i 0 := by
    intro i hi
    rw [← h, getD_slice hi]
  have hword : wordAt (toLeBytes x ++ []) 0 = x := wordAt_append [] [] x
  rw [List.append_nil] at hword
  calc
    wordAt buf offset = wordAt (toLeBytes x) 0 := by
      unfold wordAt
      have hzero := hat 0 (by decide)
      rw [Nat.add_zero] at hzero
      rw [hzero, hat 1 (by decide), hat 2 (by decide), hat 3 (by decide)]
    _ = x := hword

theorem getD_of_slice {buf bytes : List UInt8} {offset len : Nat}
    (h : slice buf offset len = bytes) {i : Nat} (hi : i < len) :
    buf.getD (offset + i) 0 = bytes.getD i 0 := by
  rw [← h, getD_slice hi]

/-! ## Writing a record place by place -/

/-- Overwrite several places, given with their offsets. -/
def patches (buf : List UInt8) (writes : List (Nat × List UInt8)) : List UInt8 :=
  writes.foldl (fun buf write => patch buf write.1 write.2) buf

/-- The writes follow one another without overlap, from one offset to another. -/
def InOrder (start finish : Nat) : List (Nat × List UInt8) → Prop
  | [] => start ≤ finish
  | write :: writes => start ≤ write.1 ∧ InOrder (write.1 + write.2.length) finish writes

theorem InOrder.le {start finish : Nat} {writes : List (Nat × List UInt8)}
    (h : InOrder start finish writes) : start ≤ finish := by
  induction writes generalizing start with
  | nil => exact h
  | cons write writes ih =>
      have hrest := ih h.2
      have hstart := h.1
      omega

theorem InOrder.append {start middle finish : Nat} {writes later : List (Nat × List UInt8)}
    (h : InOrder start middle writes) (hlater : InOrder middle finish later) :
    InOrder start finish (writes ++ later) := by
  induction writes generalizing start with
  | nil =>
      have hle : start ≤ middle := h
      cases later with
      | nil => exact Nat.le_trans hle hlater
      | cons write later => exact ⟨Nat.le_trans hle hlater.1, hlater.2⟩
  | cons write writes ih => exact ⟨h.1, ih h.2⟩

theorem slice_patches_of_le {start finish : Nat} {writes : List (Nat × List UInt8)}
    (h : InOrder start finish writes) {buf : List UInt8} (hbuf : finish ≤ buf.length)
    {offset len : Nat} (hbefore : offset + len ≤ start) :
    slice (patches buf writes) offset len = slice buf offset len := by
  induction writes generalizing start buf with
  | nil => rfl
  | cons write writes ih =>
      have hstart := h.1
      have hle := h.2.le
      have hpatch : (patch buf write.1 write.2).length = buf.length := length_patch (by omega)
      calc
        slice (patches buf (write :: writes)) offset len =
            slice (patch buf write.1 write.2) offset len :=
          ih h.2 (hpatch ▸ hbuf) (by omega)
        _ = slice buf offset len := slice_patch_of_disjoint (by omega) (Or.inl (by omega))

theorem slice_patches_of_ge {start finish : Nat} {writes : List (Nat × List UInt8)}
    (h : InOrder start finish writes) {buf : List UInt8} (hbuf : finish ≤ buf.length)
    {offset len : Nat} (hafter : finish ≤ offset) :
    slice (patches buf writes) offset len = slice buf offset len := by
  induction writes generalizing start buf with
  | nil => rfl
  | cons write writes ih =>
      have hstart := h.1
      have hle := h.2.le
      have hpatch : (patch buf write.1 write.2).length = buf.length := length_patch (by omega)
      calc
        slice (patches buf (write :: writes)) offset len =
            slice (patch buf write.1 write.2) offset len :=
          ih h.2 (hpatch ▸ hbuf)
        _ = slice buf offset len := slice_patch_of_disjoint (by omega) (Or.inr (by omega))

theorem length_patches {start finish : Nat} {writes : List (Nat × List UInt8)}
    (h : InOrder start finish writes) {buf : List UInt8} (hbuf : finish ≤ buf.length) :
    (patches buf writes).length = buf.length := by
  induction writes generalizing start buf with
  | nil => rfl
  | cons write writes ih =>
      have hle := h.2.le
      have hpatch : (patch buf write.1 write.2).length = buf.length := length_patch (by omega)
      exact (ih h.2 (hpatch ▸ hbuf)).trans hpatch

theorem slice_patches_of_gap {start before after finish : Nat}
    {writes later : List (Nat × List UInt8)} (h : InOrder start before writes)
    (hlater : InOrder after finish later) {buf : List UInt8} (hbuf : finish ≤ buf.length)
    {offset len : Nat} (hbefore : before ≤ offset) (hafter : offset + len ≤ after) :
    slice (patches buf (writes ++ later)) offset len = slice buf offset len := by
  have hle := hlater.le
  have hroom : before ≤ buf.length := by omega
  have hlength := length_patches h hroom
  calc
    slice (patches buf (writes ++ later)) offset len =
        slice (patches (patches buf writes) later) offset len := by
      unfold patches
      rw [List.foldl_append]
    _ = slice (patches buf writes) offset len :=
      slice_patches_of_le hlater (hlength ▸ hbuf) hafter
    _ = slice buf offset len := slice_patches_of_ge h hroom hbefore

/-- Everything that was written is read back. -/
theorem slice_patches {start finish : Nat} {writes : List (Nat × List UInt8)}
    (h : InOrder start finish writes) {buf : List UInt8} (hbuf : finish ≤ buf.length)
    {write : Nat × List UInt8} (hwrite : write ∈ writes) :
    slice (patches buf writes) write.1 write.2.length = write.2 := by
  induction writes generalizing start buf with
  | nil => cases hwrite
  | cons first writes ih =>
      have hle := h.2.le
      have hpatch : (patch buf first.1 first.2).length = buf.length := length_patch (by omega)
      rcases List.mem_cons.mp hwrite with rfl | hlater
      · calc
          slice (patches buf (write :: writes)) write.1 write.2.length =
              slice (patch buf write.1 write.2) write.1 write.2.length :=
            slice_patches_of_le h.2 (hpatch ▸ hbuf) (Nat.le_refl _)
          _ = write.2 := slice_patch (by omega)
      · exact ih h.2 (hpatch ▸ hbuf) hlater

/-! ## Rows of records -/

/-- Overwrite one place after another, `size` bytes apart. -/
def patchAll (buf : List UInt8) (offset size : Nat) : List (List UInt8) → List UInt8
  | [] => buf
  | record :: records => patchAll (patch buf offset record) (offset + size) size records

theorem length_patchAll {size : Nat} {records : List (List UInt8)}
    (hsize : ∀ record ∈ records, record.length = size) {buf : List UInt8} {offset : Nat}
    (h : offset + records.length * size ≤ buf.length) :
    (patchAll buf offset size records).length = buf.length := by
  induction records generalizing buf offset with
  | nil => rfl
  | cons record records ih =>
      have hrecord : record.length = size := hsize record List.mem_cons_self
      rw [List.length_cons, Nat.succ_mul] at h
      have hpatch : (patch buf offset record).length = buf.length := length_patch (by omega)
      unfold patchAll
      rw [ih (fun r hr => hsize r (List.mem_cons_of_mem _ hr)) (by rw [hpatch]; omega), hpatch]

theorem slice_patchAll_of_le {size : Nat} {records : List (List UInt8)}
    (hsize : ∀ record ∈ records, record.length = size) {buf : List UInt8}
    {offset offset' len : Nat} (h : offset + records.length * size ≤ buf.length)
    (hbefore : offset' + len ≤ offset) :
    slice (patchAll buf offset size records) offset' len = slice buf offset' len := by
  induction records generalizing buf offset with
  | nil => rfl
  | cons record records ih =>
      have hrecord : record.length = size := hsize record List.mem_cons_self
      rw [List.length_cons, Nat.succ_mul] at h
      have hpatch : (patch buf offset record).length = buf.length := length_patch (by omega)
      unfold patchAll
      rw [ih (fun r hr => hsize r (List.mem_cons_of_mem _ hr)) (by rw [hpatch]; omega)
        (by omega), slice_patch_of_disjoint (by omega) (Or.inl hbefore)]

theorem getD_patchAll_of_lt {size : Nat} {records : List (List UInt8)}
    (hsize : ∀ record ∈ records, record.length = size) {buf : List UInt8} {offset i : Nat}
    (h : offset + records.length * size ≤ buf.length) (hi : i < offset) :
    (patchAll buf offset size records).getD i 0 = buf.getD i 0 := by
  have hslice : slice (patchAll buf offset size records) 0 offset = slice buf 0 offset :=
    slice_patchAll_of_le hsize h (by omega)
  rw [← Nat.zero_add i, ← getD_slice hi, hslice, getD_slice hi]

theorem slices_patchAll {size : Nat} {records : List (List UInt8)}
    (hsize : ∀ record ∈ records, record.length = size) {buf : List UInt8} {offset : Nat}
    (h : offset + records.length * size ≤ buf.length) :
    ((List.range records.length).map fun i =>
      slice (patchAll buf offset size records) (offset + i * size) size) = records := by
  induction records generalizing buf offset with
  | nil => rfl
  | cons record records ih =>
      have hrecord : record.length = size := hsize record List.mem_cons_self
      have hrest : ∀ r ∈ records, r.length = size :=
        fun r hr => hsize r (List.mem_cons_of_mem _ hr)
      rw [List.length_cons, Nat.succ_mul] at h
      have hpatch : (patch buf offset record).length = buf.length := length_patch (by omega)
      have hroom : offset + size + records.length * size ≤ (patch buf offset record).length := by
        rw [hpatch]
        omega
      have hfirst : slice (patchAll buf offset size (record :: records)) offset size = record := by
        unfold patchAll
        rw [slice_patchAll_of_le hrest hroom (Nat.le_refl _), ← hrecord]
        exact slice_patch (by omega)
      rw [List.length_cons, List.range_succ_eq_map, List.map_cons, Nat.zero_mul, Nat.add_zero,
        hfirst, List.map_map]
      congr 1
      calc
        _ = (List.range records.length).map fun i =>
            slice (patchAll (patch buf offset record) (offset + size) size records)
              (offset + size + i * size) size := by
          refine List.map_congr_left fun i _ => ?_
          rw [Function.comp_apply, Nat.succ_mul, Nat.add_comm (i * size) size, ← Nat.add_assoc]
          rfl
        _ = records := ih hrest hroom

end Meshtastenstein.Lib.Bytes
