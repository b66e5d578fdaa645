import Meshtastenstein.Lib.Transition
import Meshtastenstein.Sectors
/-!
# The message ring on flash

The ring in memory and the ring on flash are written separately, and the latter without an
erase.  They stay alike as long as every byte that is read back takes its value.
-/

namespace Meshtastenstein

open Lib Lib.Bytes Lib.NorFlash Lib.WorkingFlash

inductive RingOp
  | add (frame : RadioFrame)
  | pop
  | clear

/-- One operation of the message ring. -/
def NvsStorage.step {F : Type} [NorFlash F] {baseOffset : Nat} (s : NvsStorage F baseOffset) :
    RingOp → NvsStorage F baseOffset
  | .add frame => s.add frame
  | .pop => s.pop
  | .clear => s.clear

variable {medium : Medium} {F : Type} [WorkingFlash medium F]

/-! ## Slots -/

/-- The part of a slot record that is read back. -/
def slotBytes (slot : CachedSlot) : Bytes :=
  (encodeSlot slot).take (if slot.valid then 2 + slot.frame.bytes.length else 1)

theorem length_encodeSlot (slot : CachedSlot) : (encodeSlot slot).length = SLOT_FLASH_SIZE := by
  have hframe := slot.frame.length_le
  unfold MAX_LORA_PAYLOAD_LEN at hframe
  unfold encodeSlot encodeRingSlotPrefix SLOT_FLASH_SIZE
  dsimp only
  split
  · simp only [length_patch_eq, List.length_replicate, List.length_cons, List.length_nil]
    omega
  · simp only [length_patch_eq, List.length_replicate, List.length_cons, List.length_nil]
    omega

theorem encodeSlot_prefix (slot : CachedSlot) :
    (encodeSlot slot).getD 0 0 = (if slot.valid then 1 else 0) ∧
      (encodeSlot slot).getD 1 0 = UInt8.ofNat slot.frame.bytes.length ∧
      (slot.valid = true →
        slice (encodeSlot slot) 2 slot.frame.bytes.length = slot.frame.bytes) := by
  have hframe := slot.frame.length_le
  unfold MAX_LORA_PAYLOAD_LEN at hframe
  have hprefix : 0 + [if slot.valid then (1 : UInt8) else 0,
      UInt8.ofNat slot.frame.bytes.length].length ≤
        (List.replicate SLOT_FLASH_SIZE (0 : UInt8)).length := by
    rw [List.length_replicate]
    exact (by decide : 2 ≤ 260)
  have hlength := (length_patch hprefix).trans List.length_replicate
  have hget := getD_patch hprefix
  unfold encodeSlot encodeRingSlotPrefix
  dsimp only
  generalize patch (List.replicate SLOT_FLASH_SIZE (0 : UInt8)) 0 _ = buf at hlength hget ⊢
  have hroom : 2 + slot.frame.bytes.length ≤ buf.length := by
    rw [hlength]
    unfold SLOT_FLASH_SIZE
    omega
  split
  · refine ⟨?_, ?_, fun _ => slice_patch hroom⟩
    · rw [getD_patch hroom, if_neg (by omega), hget]
      rfl
    · rw [getD_patch hroom, if_neg (by omega), hget]
      rfl
  · rename_i hempty
    refine ⟨hget 0, hget 1, fun hvalid => ?_⟩
    have hnil : slot.frame.bytes = [] := by
      rw [← List.length_eq_zero_iff]
      exact Nat.eq_zero_of_not_pos fun hpos => hempty ⟨hvalid, hpos⟩
    rw [hnil]
    exact List.take_zero

/-- A record whose bytes that are read back are those of the slot shows what it shows. -/
theorem shown_decodeSlot {buf : Bytes} (hlength : buf.length = SLOT_FLASH_SIZE)
    (slot cached : CachedSlot)
    (h : ∀ i < (slotBytes slot).length, buf.getD i 0 = (encodeSlot slot).getD i 0) :
    (decodeSlot buf cached).shown = slot.shown := by
  have hframe := slot.frame.length_le
  unfold MAX_LORA_PAYLOAD_LEN at hframe
  obtain ⟨hflag, hlen, hpayload⟩ := encodeSlot_prefix slot
  have hencoded := length_encodeSlot slot
  unfold slotBytes at h
  rw [List.length_take, hencoded] at h
  unfold SLOT_FLASH_SIZE at h hlength hencoded
  unfold decodeSlot decodeRingSlotPrefix CachedSlot.shown
  dsimp only
  cases hvalid : slot.valid with
  | false =>
      rw [hvalid] at h hflag
      have hfirst : buf.getD 0 0 = 0 := (h 0 Nat.one_pos).trans hflag
      rw [hfirst]
      rfl
  | true =>
      rw [hvalid] at h hflag
      rw [if_pos rfl] at h
      have hfirst : buf.getD 0 0 = 1 := (h 0 (by omega)).trans hflag
      have hsecond : (buf.getD 1 0).toNat = slot.frame.bytes.length := by
        rw [h 1 (by omega), hlen]
        exact UInt8.toNat_ofNat_of_lt' (by unfold UInt8.size; omega)
      have hslice : slice buf 2 slot.frame.bytes.length = slot.frame.bytes := by
        exact (slice_congr (by omega) (by omega) fun i hi => h (2 + i) (by omega)).trans
          (hpayload hvalid)
      simp only [hfirst, hsecond]
      rw [dif_pos ⟨by decide, hframe⟩]
      simp only [hslice]

/-! ## Records on flash -/

variable {partition : Partition F}

namespace NvsStorage

def headerOnFlash (s : partition.Storage) : Option (RingHeader MAX_BUFFERED_MESSAGES) :=
  decodeRingHeader (cellsAt s.flash (s.sectorOffset STORAGE_SECTOR) RING_HEADER_SIZE)
    MAX_BUFFERED_MESSAGES

def shownOnFlash (s : partition.Storage) (index : Fin MAX_BUFFERED_MESSAGES) : Option RadioFrame :=
  (decodeSlot (cellsAt s.flash (s.slotFlashOffset index) SLOT_FLASH_SIZE) {}).shown

/-- The buffered frames, oldest first; a slot that is not valid shows none. -/
def queue (s : partition.Storage) : List (Option RadioFrame) := s.ring.toList.map CachedSlot.shown

theorem words_header (s : partition.Storage) :
    Words (capacity F) (s.sectorOffset STORAGE_SECTOR) RING_HEADER_SIZE := by
  have haligned := partition.aligned
  have hfits := partition.fits
  unfold Words sectorOffset WORD_SIZE RING_HEADER_SIZE STORAGE_SECTOR
  unfold SECTOR_SIZE at haligned hfits ⊢
  omega

theorem words_slot (s : partition.Storage) (index : Fin MAX_BUFFERED_MESSAGES) :
    Words (capacity F) (s.slotFlashOffset index) SLOT_FLASH_SIZE := by
  have haligned := partition.aligned
  have hfits := partition.fits
  have hindex : index.val < 10 := index.isLt
  unfold Words slotFlashOffset sectorOffset WORD_SIZE RING_HEADER_SIZE STORAGE_SECTOR
    SLOT_FLASH_SIZE
  unfold SECTOR_SIZE at haligned hfits ⊢
  omega

/-! ## Writes -/

def slotWrite (s : partition.Storage) (index : Fin MAX_BUFFERED_MESSAGES) : Nat × Bytes :=
  (s.slotFlashOffset index, slotBytes (s.ring.slots index))

def headerWrite (s : partition.Storage) : Nat × Bytes :=
  (s.sectorOffset STORAGE_SECTOR, (encodeRingHeader s.ring.header).take RING_HEADER_USED)

variable {s : partition.Storage}

theorem headerOnFlash_persistSlot (index : Fin MAX_BUFFERED_MESSAGES) :
    (s.persistSlot index).headerOnFlash = s.headerOnFlash := by
  have hwords := s.words_slot index
  rw [← length_encodeSlot (s.ring.slots index)] at hwords
  have hcells : cellsAt (s.persistSlot index).flash (s.sectorOffset STORAGE_SECTOR)
      RING_HEADER_SIZE = cellsAt s.flash (s.sectorOffset STORAGE_SECTOR) RING_HEADER_SIZE := by
    refine cellsAt_write_of_disjoint hwords (Or.inl ?_)
    unfold slotFlashOffset
    omega
  exact congrArg (fun buf => decodeRingHeader buf MAX_BUFFERED_MESSAGES) hcells

theorem shownOnFlash_persistSlot_of_ne {index other : Fin MAX_BUFFERED_MESSAGES}
    (hne : other ≠ index) : (s.persistSlot index).shownOnFlash other = s.shownOnFlash other := by
  have hlength := length_encodeSlot (s.ring.slots index)
  have hwords := s.words_slot index
  rw [← hlength] at hwords
  have hval : other.val ≠ index.val := fun heq => hne (Fin.ext heq)
  have hcells : cellsAt (s.persistSlot index).flash (s.slotFlashOffset other)
      SLOT_FLASH_SIZE = cellsAt s.flash (s.slotFlashOffset other) SLOT_FLASH_SIZE := by
    refine cellsAt_write_of_disjoint hwords ?_
    rw [hlength]
    unfold slotFlashOffset SLOT_FLASH_SIZE
    omega
  exact congrArg (fun buf => (decodeSlot buf {}).shown) hcells

theorem shownOnFlash_persistSlot {index : Fin MAX_BUFFERED_MESSAGES}
    (htakes : Takes s.flash (s.slotWrite index).1 (s.slotWrite index).2) :
    (s.persistSlot index).shownOnFlash index = (s.ring.slots index).shown := by
  have hlength := length_encodeSlot (s.ring.slots index)
  have hwords := s.words_slot index
  rw [← hlength] at hwords
  refine shown_decodeSlot (length_cellsAt _ _ _) _ _ fun i hi => ?_
  unfold slotWrite slotBytes at htakes
  unfold slotBytes at hi
  rw [List.length_take] at hi
  rw [getD_cellsAt _ _ (by omega)]
  refine cells_write_of_takes hwords (Nat.min_le_right _ _) ?_ hi
  rwa [← List.take_eq_take_min]

theorem shownOnFlash_persistHeader (index : Fin MAX_BUFFERED_MESSAGES) :
    s.persistHeader.shownOnFlash index = s.shownOnFlash index := by
  have hwords := s.words_header
  rw [← length_encodeRingHeader s.ring.header] at hwords
  have hcells : cellsAt s.persistHeader.flash (s.slotFlashOffset index) SLOT_FLASH_SIZE =
      cellsAt s.flash (s.slotFlashOffset index) SLOT_FLASH_SIZE := by
    refine cellsAt_write_of_disjoint hwords (Or.inr ?_)
    rw [length_encodeRingHeader]
    unfold slotFlashOffset
    omega
  exact congrArg (fun buf => (decodeSlot buf {}).shown) hcells

theorem headerOnFlash_persistHeader
    (htakes : Takes s.flash s.headerWrite.1 s.headerWrite.2) :
    s.persistHeader.headerOnFlash = some s.ring.header := by
  have hwords := s.words_header
  rw [← length_encodeRingHeader s.ring.header] at hwords
  rw [← decodeRingHeader_encodeRingHeader (by decide) s.ring.header]
  refine decodeRingHeader_congr fun i hi => ?_
  rw [getD_cellsAt _ _ (Nat.lt_of_lt_of_le hi (by decide))]
  refine cells_write_of_takes hwords ?_ htakes hi
  rw [length_encodeRingHeader]
  decide

/-! ## Restarts -/

/-- The rings in memory and on flash are alike: the positions, what the queued slots show,
and if the next frame goes elsewhere than behind them, what all slots show. -/
structure Synced (s : partition.Storage) : Prop where
  header : s.headerOnFlash = some s.ring.header
  queued : ∀ n < s.ring.count,
    s.shownOnFlash (s.ring.slotAt n) = (s.ring.slots (s.ring.slotAt n)).shown
  rest : s.ring.InOrder ∨ ∀ index, s.shownOnFlash index = (s.ring.slots index).shown

theorem headerOnFlash_congr {s' : partition.Storage} (h : AgreeOn STORAGE_SECTOR s s') :
    s'.headerOnFlash = s.headerOnFlash := by
  have hcells := h.cellsAt_eq (by decide : 0 + RING_HEADER_SIZE ≤ SECTOR_SIZE)
  exact congrArg (fun buf => decodeRingHeader buf MAX_BUFFERED_MESSAGES) hcells

theorem shownOnFlash_congr {s' : partition.Storage} (h : AgreeOn STORAGE_SECTOR s s')
    (index : Fin MAX_BUFFERED_MESSAGES) : s'.shownOnFlash index = s.shownOnFlash index := by
  have hindex : index.val < 10 := index.isLt
  have hfits : RING_HEADER_SIZE + index.val * SLOT_FLASH_SIZE + SLOT_FLASH_SIZE ≤ SECTOR_SIZE := by
    unfold RING_HEADER_SIZE SLOT_FLASH_SIZE SECTOR_SIZE
    omega
  exact congrArg (fun buf => (decodeSlot buf {}).shown) (h.cellsAt_eq hfits)

theorem Synced.congr {s' : partition.Storage} (h : s.Synced) (hring : s'.ring = s.ring)
    (hflash : AgreeOn STORAGE_SECTOR s s') : s'.Synced where
  header := by rw [headerOnFlash_congr hflash, hring, h.header]
  queued n hn := by
    rw [hring] at hn ⊢
    rw [shownOnFlash_congr hflash, h.queued n hn]
  rest := by
    rw [hring]
    exact h.rest.imp id fun hall index => (shownOnFlash_congr hflash index).trans (hall index)

theorem loadOrInit_of_header {s : partition.Storage} {header : RingHeader MAX_BUFFERED_MESSAGES}
    (h : s.headerOnFlash = some header) :
    s.loadOrInit = loadSlots
      { s with
        ring :=
          { slots := s.ring.slots
            head := header.head
            tail := header.tail
            count := header.count
            count_le := header.count_le } } := by
  have hread : read s.flash (s.sectorOffset STORAGE_SECTOR) RING_HEADER_SIZE =
      some (cellsAt _ _ _) :=
    WorkingFlash.read_eq s.flash _ _ s.words_header
  unfold headerOnFlash at h
  unfold loadOrInit
  rw [hread]
  dsimp only
  rw [h]

theorem loadOrInit_of_no_header {s : partition.Storage} (h : s.headerOnFlash = none) :
    s.loadOrInit = s.initEmpty := by
  have hread : read s.flash (s.sectorOffset STORAGE_SECTOR) RING_HEADER_SIZE =
      some (cellsAt _ _ _) :=
    WorkingFlash.read_eq s.flash _ _ s.words_header
  unfold headerOnFlash at h
  unfold loadOrInit
  rw [hread]
  dsimp only
  rw [h]

theorem shown_loadSlots {s : partition.Storage} {index : Fin MAX_BUFFERED_MESSAGES}
    (h : s.ring.slots index = {}) :
    (s.loadSlots.ring.slots index).shown = s.shownOnFlash index := by
  unfold loadSlots loadSlot
  dsimp only
  rw [WorkingFlash.read_eq s.flash _ _ (s.words_slot index), h]
  rfl

theorem reopen_of_header {header : RingHeader MAX_BUFFERED_MESSAGES}
    (hheader : s.headerOnFlash = some header) :
    s.reopen.flash = s.flash ∧ s.reopen.ring.header = header ∧
      ∀ index, (s.reopen.ring.slots index).shown = s.shownOnFlash index := by
  have hopened : s.reopen = _ := loadOrInit_of_header
    (s := { ring := MessageRing.empty, flash := s.flash }) hheader
  rw [hopened]
  exact ⟨rfl, rfl, fun _ => shown_loadSlots rfl⟩

theorem reopen_of_no_header (hheader : s.headerOnFlash = none) :
    s.reopen = initEmpty { s with ring := MessageRing.empty } :=
  loadOrInit_of_no_header hheader

/-- A storage whose rings are alike comes back from a restart with its queue. -/
theorem queue_reopen (hsynced : s.Synced) : s.reopen.queue = s.queue := by
  obtain ⟨-, hheader, hslots⟩ := reopen_of_header hsynced.header
  refine CircularQueue.map_toList_congr (congrArg RingHeader.tail hheader)
    (congrArg RingHeader.count hheader) fun n hn => ?_
  rw [hslots]
  exact hsynced.queued n hn

end NvsStorage

/-! ## Operations -/

namespace NvsStorage

variable {s : partition.Storage}

/-- The bytes that the writes of an operation have to leave on flash. -/
def writes (s : partition.Storage) : RingOp → List (Nat × Bytes)
  | .add frame =>
      let s' : partition.Storage := { s with ring := s.ring.push { valid := true, frame := frame } }
      [s'.slotWrite s.ring.head, s'.headerWrite]
  | .pop =>
      if s.ring.count = 0 then []
      else
        let s' : partition.Storage :=
          { s with ring := s.ring.pop fun slot => { slot with valid := false } }
        [s'.slotWrite s.ring.tail, s'.headerWrite]
  | .clear =>
      let s' : partition.Storage := { s with ring := MessageRing.empty }
      [s'.headerWrite]

/-- What the operation writes can be written without an erase. -/
def Fits (s : partition.Storage) (op : RingOp) : Prop :=
  ∀ write ∈ s.writes op, Takes s.flash write.1 write.2

instance (s : partition.Storage) (op : RingOp) : Decidable (s.Fits op) :=
  inferInstanceAs (Decidable (∀ write ∈ s.writes op, _))

theorem synced_persist {ring : MessageRing} {index : Fin MAX_BUFFERED_MESSAGES}
    (hring : s.ring = ring)
    (hslot : Takes s.flash (s.slotWrite index).1 (s.slotWrite index).2)
    (hheader : Takes s.flash s.headerWrite.1 s.headerWrite.2)
    (hqueued : ∀ n < ring.count, ring.slotAt n ≠ index →
      s.shownOnFlash (ring.slotAt n) = (ring.slots (ring.slotAt n)).shown)
    (hrest : ring.InOrder ∨
      ∀ other ≠ index, s.shownOnFlash other = (ring.slots other).shown) :
    (s.persistSlot index).persistHeader.Synced := by
  subst hring
  have hwords := s.words_slot index
  rw [← length_encodeSlot (s.ring.slots index)] at hwords
  -- the slot is written behind the header
  have htakes : Takes (s.persistSlot index).flash s.headerWrite.1 s.headerWrite.2 := by
    intro i hi
    have hcell : cells (s.persistSlot index).flash (s.headerWrite.1 + i) =
        cells s.flash (s.headerWrite.1 + i) := by
      refine (cells_write s.flash _ _ _ hwords).trans (if_neg ?_)
      have hused : i < RING_HEADER_USED := hi
      unfold headerWrite slotFlashOffset
      unfold RING_HEADER_USED at hused
      unfold RING_HEADER_SIZE
      omega
    rw [hcell]
    exact hheader i hi
  have hshown : ∀ other, (s.persistSlot index).persistHeader.shownOnFlash other =
      if other = index then (s.ring.slots index).shown else s.shownOnFlash other := by
    intro other
    rw [shownOnFlash_persistHeader]
    by_cases heq : other = index
    · rw [if_pos heq, heq]
      exact shownOnFlash_persistSlot hslot
    · rw [if_neg heq]
      exact shownOnFlash_persistSlot_of_ne heq
  refine ⟨headerOnFlash_persistHeader htakes, fun n hn => ?_, hrest.imp id ?_⟩
  · change (s.persistSlot index).persistHeader.shownOnFlash (s.ring.slotAt n) =
      (s.ring.slots (s.ring.slotAt n)).shown
    rw [hshown]
    by_cases heq : s.ring.slotAt n = index
    · rw [if_pos heq, heq]
    · rw [if_neg heq]
      exact hqueued n hn heq
  · intro hall other
    change (s.persistSlot index).persistHeader.shownOnFlash other = (s.ring.slots other).shown
    rw [hshown]
    by_cases heq : other = index
    · rw [if_pos heq, heq]
    · rw [if_neg heq]
      exact hall other heq

theorem synced_persistHeader_empty (hring : s.ring = MessageRing.empty)
    (hheader : Takes s.flash s.headerWrite.1 s.headerWrite.2) : s.persistHeader.Synced where
  header := headerOnFlash_persistHeader hheader
  queued n hn := by
    have hcount : s.persistHeader.ring.count = 0 := by
      change s.ring.count = 0
      rw [hring]
      rfl
    rw [hcount] at hn
    cases hn
  rest := by
    refine Or.inl ?_
    change s.ring.InOrder
    rw [hring]
    exact CircularQueue.inOrder_empty _ _

/-- After a push, every slot but the new one is one that was queued, if the ring was in
order. -/
theorem shown_of_push (hsynced : s.Synced) (slot : CachedSlot) {n : Nat}
    (hn : n < (s.ring.push slot).count) (hne : (s.ring.push slot).slotAt n ≠ s.ring.head) :
    s.shownOnFlash ((s.ring.push slot).slotAt n) =
      ((s.ring.push slot).slots ((s.ring.push slot).slotAt n)).shown := by
  rw [CircularQueue.slots_push_of_ne hne]
  rcases hsynced.rest with horder | hall
  · by_cases hroom : s.ring.count < MAX_BUFFERED_MESSAGES
    · rw [CircularQueue.slotAt_push_of_lt hroom] at hne ⊢
      have hcount : (s.ring.push slot).count = s.ring.count + 1 := if_pos hroom
      rw [hcount] at hn
      refine hsynced.queued n (Nat.lt_of_le_of_ne (Nat.le_of_lt_succ hn) ?_)
      rintro rfl
      exact hne horder.symm
    · rw [CircularQueue.slotAt_push_of_full hroom] at hne ⊢
      have hcount : (s.ring.push slot).count = s.ring.count := if_neg hroom
      rw [hcount] at hn
      refine hsynced.queued (n + 1) (Nat.lt_of_le_of_ne hn ?_)
      intro heq
      rw [heq] at hne
      exact hne horder.symm
  · exact hall _

theorem synced_step (hsynced : s.Synced) {op : RingOp} (hfits : s.Fits op) :
    (s.step op).Synced := by
  unfold Fits writes at hfits
  cases op with
  | add frame =>
      rw [List.forall_mem_cons, List.forall_mem_singleton] at hfits
      unfold step add
      refine synced_persist rfl hfits.1 hfits.2 (fun n hn hne => shown_of_push hsynced _ hn hne)
        (hsynced.rest.imp (fun horder => horder.push _) fun hall other hne => ?_)
      rw [CircularQueue.slots_push_of_ne hne]
      exact hall other
  | pop =>
      unfold step pop
      dsimp only at hfits ⊢
      by_cases hcount : s.ring.count = 0
      · rw [if_pos hcount]
        exact hsynced
      · rw [if_neg hcount] at hfits ⊢
        rw [List.forall_mem_cons, List.forall_mem_singleton] at hfits
        have hpos := Nat.pos_of_ne_zero hcount
        refine synced_persist rfl hfits.1 hfits.2 (fun n hn hne => ?_)
          (hsynced.rest.imp (fun horder => horder.pop hpos _) fun hall other hne => ?_)
        · have hn' : n < s.ring.count - 1 := hn
          rw [CircularQueue.slots_pop_of_ne hne, CircularQueue.slotAt_pop]
          exact hsynced.queued (n + 1) (by omega)
        · rw [CircularQueue.slots_pop_of_ne hne]
          exact hall other
  | clear =>
      rw [List.forall_mem_singleton] at hfits
      exact synced_persistHeader_empty rfl hfits

/-! ## Whole runs -/

/-- The header that starts an empty ring can be written without an erase, if it has to be. -/
def OpensFit (s : partition.Storage) : Prop := s.headerOnFlash = none → s.Fits .clear

def unopened (partition : Partition F) (flash : F) : partition.Storage where
  ring := MessageRing.empty
  flash := flash

/-- The adapter that a board builds on its flash. -/
def opened (partition : Partition F) (flash : F) : partition.Storage :=
  new flash partition.baseOffset

theorem synced_reopen (hopens : s.OpensFit) : s.reopen.Synced := by
  cases hheader : s.headerOnFlash with
  | some header =>
      obtain ⟨hflash, hring, hslots⟩ := reopen_of_header hheader
      refine ⟨?_, fun n _ => ?_, Or.inr fun index => ?_⟩
      · unfold headerOnFlash
        rw [hflash, hring]
        exact hheader
      · unfold shownOnFlash
        rw [hflash]
        exact (hslots _).symm
      · unfold shownOnFlash
        rw [hflash]
        exact (hslots index).symm
  | none =>
      rw [reopen_of_no_header hheader]
      have hfits := hopens hheader
      unfold Fits writes at hfits
      rw [List.forall_mem_singleton] at hfits
      exact synced_persistHeader_empty rfl hfits

/-- A storage in which every write of a run fits comes back from a restart with its queue. -/
theorem queue_reopen_run (partition : Partition F) (flash : F) (ops : List RingOp)
    (hopens : (unopened partition flash).OpensFit)
    (hfits : Transition.Always step Fits (opened partition flash) ops) :
    (Transition.run step (opened partition flash) ops).reopen.queue =
      (Transition.run step (opened partition flash) ops).queue := by
  have hboot : (opened partition flash).Synced := synced_reopen hopens
  have hstep : ∀ (s : partition.Storage) (op : RingOp), s.Synced → s.Fits op →
      (s.step op).Synced := fun _ _ hs hop => synced_step hs hop
  exact queue_reopen (Transition.invariant_run hstep hboot hfits)

end NvsStorage

/-! ## Images -/

/-- A flash of just the five sectors. -/
def wholeFlash {medium : Medium} : Partition (Image medium 0x5000) where
  baseOffset := 0
  aligned := ⟨0, rfl⟩
  fits := Nat.le_refl 0x5000

def helloFrame : RadioFrame := ⟨[0x68, 0x65, 0x6c, 0x6c, 0x6f], by decide⟩

def worldFrame : RadioFrame := ⟨[0x77, 0x6f, 0x72, 0x6c, 0x64], by decide⟩

def lastSlotImage : Image Medium.nor 0x5000 :=
  let header : RingHeader MAX_BUFFERED_MESSAGES :=
    { MessageRing.empty.header with
      head := ⟨2, by decide⟩
      tail := ⟨9, by decide⟩
      count := 3
      count_le := by decide }
  let slot (index : Nat) : Nat := 0x2000 + (RING_HEADER_SIZE + index * SLOT_FLASH_SIZE)
  (((Image.erased.write 0x2000 (encodeRingHeader header)).write (slot 9)
    (encodeSlot { valid := true, frame := worldFrame })).write (slot 0)
    (encodeSlot { valid := true, frame := helloFrame })).write (slot 1)
    (encodeSlot { valid := true, frame := worldFrame })

namespace NvsStorage

set_option maxRecDepth 4000 in
/-- Dropping the frame in the last slot clears bits only, and the other two are still there. -/
theorem queue_reopen_lastSlot :
    let s := Transition.run step (opened wholeFlash lastSlotImage) [.pop]
    s.queue = [some helloFrame, some worldFrame] ∧ s.reopen.queue = s.queue := by
  have hheader : (unopened wholeFlash lastSlotImage).headerOnFlash.isSome = true := by
    decide +kernel
  refine ⟨by decide +kernel, queue_reopen_run wholeFlash lastSlotImage [.pop]
    (fun hnone => ?_) (by decide +kernel)⟩
  rw [hnone] at hheader
  cases hheader

def blankImage : Image Medium.nor 0x5000 := Image.erased

set_option maxRecDepth 4000 in
/-- The first frame that is buffered on a blank flash does not survive a restart. -/
theorem blank_loses_frame :
    let s := (opened wholeFlash blankImage).step (.add helloFrame)
    s.queue = [some helloFrame] ∧ s.reopen.queue = [] := by decide

end NvsStorage

end Meshtastenstein
