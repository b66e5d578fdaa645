import Meshtastenstein.Persistence
import Mathlib.Data.List.Sort
/-!
# Snapshots of the node database

What is kept on flash of the node database, and how it is restored.
-/

namespace Meshtastenstein

open Lib Lib.Bytes Proto

def MAX_PERSISTED_NODES : Nat := 42
def SNAPSHOT_RECORD_SIZE : Nat := 96
def SNAPSHOT_HEADER_SIZE : Nat := 16
def SNAPSHOT_BYTES : Nat := SNAPSHOT_HEADER_SIZE + MAX_PERSISTED_NODES * SNAPSHOT_RECORD_SIZE
def SNAPSHOT_MAGIC : UInt32 := 0x4E444232
def SNAPSHOT_VERSION : UInt8 := 2

/-! ## Records -/

/-- A name cut to its field, in 28 bytes, and its length. -/
def encodeStrField (src : Option Text) (maxLen : Nat) : Bytes × UInt8 :=
  let bytes := (src.getD []).take maxLen
  (patch (List.replicate 28 0) 0 bytes, UInt8.ofNat bytes.length)

def encodeRecord (n : NodeEntry) : Bytes :=
  let buf := List.replicate SNAPSHOT_RECORD_SIZE 0
  let buf := patch buf 0 (toLeBytes n.nodeNum)
  let buf := patch buf 4 (toLeBytes n.lastHeard)
  let buf := patch buf 8 (toLeBytes (UInt32.ofNat n.lastSeenMs))
  let buf := patch buf 12 (toLeBytes (UInt32.ofNat (n.lastSeenMs / 2 ^ 32)))
  let buf := patch buf 16 [(n.snr.getD 0).toUInt8, n.hopsAway.getD 0, n.nextHop,
    n.isFavorite.toUInt8 ||| n.isIgnored.toUInt8 <<< 1 ||| n.isMuted.toUInt8 <<< 2]
  let (shortName, shortLen) := encodeStrField (n.user.map (·.shortName)) 5
  let (longName, longLen) := encodeStrField (n.user.map (·.longName)) 28
  let buf := patch buf 20 [shortLen]
  let buf := patch buf 21 (shortName.take 5)
  let buf := patch buf 26 [longLen]
  let buf := patch buf 27 longName
  let buf := patch buf 55
    [(n.user.map (·.role.toInt8.toUInt8)).getD 0, (n.user.map (·.hwModel.toInt8.toUInt8)).getD 0,
      n.snr.isSome.toUInt8 ||| n.hopsAway.isSome.toUInt8 <<< 1 ||| n.user.isSome.toUInt8 <<< 2]
  match n.pubKey with
  | some key => patch buf 64 key.val
  | none => buf

/-- The entry of a record, unless its node number is reserved.  A key of zeros stands for
none. -/
def decodeRecord (buf : Bytes) : Option NodeEntry :=
  let nodeNum := wordAt buf 0
  if nodeNum = 0 ∨ nodeNum = BROADCAST_ADDR then none
  else
    let known := buf.getD 57 0
    let flags := buf.getD 19 0
    let shortLen := min (buf.getD 20 0).toNat 5
    let longLen := min (buf.getD 26 0).toNat 28
    let shortName := slice buf 21 shortLen
    let longName := slice buf 27 longLen
    some
      { nodeNum := nodeNum
        user :=
          if 0 < shortLen ∨ 0 < longLen ∨ known &&& 4 ≠ 0 then
            some
              { longName := if isUtf8 longName then longName else []
                shortName := if isUtf8 shortName then shortName else []
                hwModel := (buf.getD 56 0).toUInt32.toInt32
                role := (buf.getD 55 0).toUInt32.toInt32 }
          else none
        lastHeard := wordAt buf 4
        snr := if known &&& 1 ≠ 0 then some (buf.getD 16 0).toInt8 else none
        hopsAway := if known &&& 2 ≠ 0 then some (buf.getD 17 0) else none
        nextHop := buf.getD 18 0
        lastSeenMs := (wordAt buf 8).toNat + 2 ^ 32 * (wordAt buf 12).toNat
        pubKey := (Key.ofBytes? (slice buf 64 32)).filter (·.isSet)
        isFavorite := flags &&& 1 ≠ 0
        isIgnored := flags &&& 2 ≠ 0
        isMuted := flags &&& 4 ≠ 0 }

theorem length_encodeStrField (src : Option Text) {maxLen : Nat} (h : maxLen ≤ 28) :
    (encodeStrField src maxLen).1.length = 28 := by
  unfold encodeStrField
  dsimp only
  rw [length_patch, List.length_replicate]
  rw [List.length_replicate, List.length_take]
  omega

theorem length_encodeRecord (n : NodeEntry) :
    (encodeRecord n).length = SNAPSHOT_RECORD_SIZE := by
  have hshort :=
    length_encodeStrField (n.user.map (·.shortName)) (Nat.le_of_ble_eq_true rfl : 5 ≤ 28)
  have hlong := length_encodeStrField (n.user.map (·.longName)) (Nat.le_refl 28)
  unfold encodeRecord
  dsimp only
  split
  · rename_i key _
    simp only [length_patch_eq, List.length_replicate, length_toLeBytes, List.length_cons,
      List.length_nil, List.length_take, hshort, hlong, key.property]
    decide
  · simp only [length_patch_eq, List.length_replicate, length_toLeBytes, List.length_cons,
      List.length_nil, List.length_take, hshort, hlong]
    decide

theorem startsWith_encodeRecord (n : NodeEntry) : StartsWith n.nodeNum (encodeRecord n) := by
  have hblank : 4 ≤ (List.replicate SNAPSHOT_RECORD_SIZE (0 : UInt8)).length := by decide
  have hnum := startsWith_patch_zero hblank n.nodeNum
  have hheard := ((hnum.patch (by decide : 4 ≤ 4) (toLeBytes n.lastHeard)).patch
    (by decide : 4 ≤ 8) (toLeBytes (UInt32.ofNat n.lastSeenMs))).patch (by decide : 4 ≤ 12)
      (toLeBytes (UInt32.ofNat (n.lastSeenMs / 2 ^ 32)))
  unfold encodeRecord
  dsimp only
  have hrest := fun link shortLen shortName longLen longName known =>
    ((((((hheard.patch (by decide : 4 ≤ 16) link).patch (by decide : 4 ≤ 20) shortLen).patch
      (by decide : 4 ≤ 21) shortName).patch (by decide : 4 ≤ 26) longLen).patch
        (by decide : 4 ≤ 27) longName).patch (by decide : 4 ≤ 55) known)
  split
  · exact (hrest _ _ _ _ _ _).patch (by decide) _
  · exact hrest _ _ _ _ _ _

/-- A record gives back its node, unless the number is reserved. -/
theorem decodeRecord_encodeRecord (n : NodeEntry) :
    (decodeRecord (encodeRecord n)).map (·.nodeNum) =
      if n.nodeNum = 0 ∨ n.nodeNum = BROADCAST_ADDR then none else some n.nodeNum := by
  unfold decodeRecord
  dsimp only
  rw [(startsWith_encodeRecord n).2]
  split <;> rfl

namespace NodeDb

/-! ## Snapshots -/

/-- The entries a snapshot has room for, the most recently heard ones first.  The order of
entries heard in the same second is not specified. -/
def persisted (db : NodeDb) : List NodeEntry :=
  (db.nodes.toList.insertionSort fun a b => b.lastHeard ≤ a.lastHeard).take MAX_PERSISTED_NODES

def toSnapshot (db : NodeDb) : Bytes :=
  let buf := List.replicate SNAPSHOT_BYTES 0
  let buf := patch buf 0 (toLeBytes SNAPSHOT_MAGIC)
  let buf := patch buf 4 [SNAPSHOT_VERSION, UInt8.ofNat db.persisted.length]
  patchAll buf SNAPSHOT_HEADER_SIZE SNAPSHOT_RECORD_SIZE (db.persisted.map encodeRecord)

def snapshotRecords (buf : Bytes) (count : Nat) : List Bytes :=
  (List.range count).map fun slot =>
    slice buf (SNAPSHOT_HEADER_SIZE + slot * SNAPSHOT_RECORD_SIZE) SNAPSHOT_RECORD_SIZE

def restoreRecords (ourNodeNum : UInt32) (nodes : Bounded NodeEntry MAX_NODES) :
    List Bytes → Bounded NodeEntry MAX_NODES
  | [] => nodes
  | record :: records =>
      match decodeRecord record with
      | some entry =>
          if entry.nodeNum ≠ ourNodeNum ∧
              nodes.toList.all (fun n => n.nodeNum != entry.nodeNum) = true then
            match nodes.push entry with
            | some nodes => restoreRecords ourNodeNum nodes records
            | none => nodes
          else restoreRecords ourNodeNum nodes records
      | none => restoreRecords ourNodeNum nodes records

/-- Put the nodes of a snapshot in place of all entries but our own; a snapshot that is not
understood changes nothing. -/
def restoreSnapshot (db : NodeDb) (buf : Bytes) : NodeDb × Bool :=
  let count := (buf.getD 5 0).toNat
  if buf.length < SNAPSHOT_BYTES then (db, false)
  else if wordAt buf 0 ≠ SNAPSHOT_MAGIC ∨ buf.getD 4 0 ≠ SNAPSHOT_VERSION then (db, false)
  else if MAX_PERSISTED_NODES < count then (db, false)
  else
    let own := db.nodes.retain (·.nodeNum == db.ourNodeNum)
    ({ db with
        nodes := restoreRecords db.ourNodeNum own (snapshotRecords buf count)
        dirty := false }, true)

/-! ## Round trips -/

theorem length_persisted_le (db : NodeDb) : db.persisted.length ≤ MAX_PERSISTED_NODES :=
  List.length_take_le _ _

/-- A database that fits in a snapshot is written as a whole. -/
theorem perm_persisted {db : NodeDb} (h : db.len ≤ MAX_PERSISTED_NODES) :
    db.persisted.Perm db.nodes.toList := by
  unfold persisted
  rw [List.take_of_length_le (by rw [List.length_insertionSort]; exact h)]
  exact List.perm_insertionSort _ _

theorem snapshot_toSnapshot (db : NodeDb) :
    (toSnapshot db).length = SNAPSHOT_BYTES ∧ wordAt (toSnapshot db) 0 = SNAPSHOT_MAGIC ∧
      (toSnapshot db).getD 4 0 = SNAPSHOT_VERSION ∧
      ((toSnapshot db).getD 5 0).toNat = db.persisted.length ∧
      snapshotRecords (toSnapshot db) db.persisted.length = db.persisted.map encodeRecord := by
  have hcount := db.length_persisted_le
  have hsize : ∀ record ∈ db.persisted.map encodeRecord, record.length = SNAPSHOT_RECORD_SIZE := by
    intro record hrecord
    obtain ⟨n, -, rfl⟩ := List.mem_map.mp hrecord
    exact length_encodeRecord n
  have hblank : (List.replicate SNAPSHOT_BYTES (0 : UInt8)).length = SNAPSHOT_BYTES :=
    List.length_replicate
  unfold toSnapshot
  dsimp only
  generalize List.replicate SNAPSHOT_BYTES (0 : UInt8) = blank at hblank ⊢
  have hmagic : (patch blank 0 (toLeBytes SNAPSHOT_MAGIC)).length = SNAPSHOT_BYTES :=
    (length_patch (by rw [hblank]; decide)).trans hblank
  have hstarts : StartsWith SNAPSHOT_MAGIC (patch blank 0 (toLeBytes SNAPSHOT_MAGIC)) :=
    startsWith_patch_zero (by rw [hblank]; decide) SNAPSHOT_MAGIC
  generalize patch blank 0 (toLeBytes SNAPSHOT_MAGIC) = buf at hmagic hstarts ⊢
  have hfits : 4 + [SNAPSHOT_VERSION, UInt8.ofNat db.persisted.length].length ≤ buf.length := by
    rw [hmagic]
    exact (by decide : 4 + 2 ≤ SNAPSHOT_BYTES)
  have hheader := (length_patch hfits).trans hmagic
  have hmark := getD_patch hfits
  have hword := (hstarts.patch (Nat.le_refl 4)
    [SNAPSHOT_VERSION, UInt8.ofNat db.persisted.length]).2
  generalize patch buf 4 [SNAPSHOT_VERSION, UInt8.ofNat db.persisted.length] = header
    at hheader hmark hword ⊢
  have hroom : SNAPSHOT_HEADER_SIZE + (db.persisted.map encodeRecord).length *
      SNAPSHOT_RECORD_SIZE ≤ header.length := by
    rw [hheader, List.length_map]
    unfold SNAPSHOT_BYTES
    exact Nat.add_le_add_left (Nat.mul_le_mul_right _ hcount) _
  have hget : ∀ i < SNAPSHOT_HEADER_SIZE, (patchAll header SNAPSHOT_HEADER_SIZE
      SNAPSHOT_RECORD_SIZE (db.persisted.map encodeRecord)).getD i 0 = header.getD i 0 :=
    fun i hi => getD_patchAll_of_lt hsize hroom hi
  refine ⟨(length_patchAll hsize hroom).trans hheader, ?_, ?_, ?_, ?_⟩
  · rw [← hword]
    refine wordAt_congr fun i hi => hget (0 + i) ?_
    unfold SNAPSHOT_HEADER_SIZE
    omega
  · rw [hget 4 (by decide), hmark]
    rfl
  · rw [hget 5 (by decide), hmark]
    refine UInt8.toNat_ofNat_of_lt' (Nat.lt_of_le_of_lt hcount ?_)
    decide
  · have hslices := slices_patchAll hsize hroom
    rwa [List.length_map] at hslices

theorem restoreSnapshot_toSnapshot (db db' : NodeDb) :
    db'.restoreSnapshot (toSnapshot db) =
      ({ db' with
          nodes := restoreRecords db'.ourNodeNum (db'.nodes.retain (·.nodeNum == db'.ourNodeNum))
            (db.persisted.map encodeRecord)
          dirty := false }, true) := by
  obtain ⟨hlength, hmagic, hversion, hcount, hrecords⟩ := snapshot_toSnapshot db
  have hle := db.length_persisted_le
  unfold restoreSnapshot
  dsimp only
  rw [if_neg (by rw [hlength]; exact Nat.lt_irrefl _), hmagic, hversion,
    if_neg (by rintro (h | h) <;> exact h rfl), hcount, if_neg (Nat.not_lt.mpr hle), hrecords]

theorem length_le_restoreRecords (ourNodeNum : UInt32) (nodes : Bounded NodeEntry MAX_NODES)
    (records : List Bytes) :
    nodes.length ≤ (restoreRecords ourNodeNum nodes records).length := by
  induction records generalizing nodes with
  | nil => exact Nat.le_refl _
  | cons record records ih =>
      unfold restoreRecords
      split
      · rename_i entry _
        split
        · by_cases hroom : nodes.length < MAX_NODES
          · rw [Bounded.push_of_lt nodes entry hroom]
            refine Nat.le_trans ?_ (ih _)
            unfold Bounded.length
            rw [List.length_append]
            exact Nat.le_add_right _ _
          · rw [Bounded.push_of_full nodes entry hroom]
        · exact ih nodes
      · exact ih nodes

/-- Only records of ourselves and of reserved numbers add nothing to an empty database. -/
theorem restoreRecords_eq_empty_iff (ourNodeNum : UInt32) (entries : List NodeEntry) :
    restoreRecords ourNodeNum Bounded.empty (entries.map encodeRecord) = Bounded.empty ↔
      ∀ entry ∈ entries, entry.nodeNum = ourNodeNum ∨ entry.nodeNum = 0 ∨
        entry.nodeNum = BROADCAST_ADDR := by
  induction entries with
  | nil => exact iff_of_true rfl (fun _ hentry => nomatch hentry)
  | cons entry entries ih =>
      rw [List.forall_mem_cons, List.map_cons]
      unfold restoreRecords
      have hdecoded := decodeRecord_encodeRecord entry
      by_cases hreserved : entry.nodeNum = 0 ∨ entry.nodeNum = BROADCAST_ADDR
      · rw [if_pos hreserved, Option.map_eq_none_iff] at hdecoded
        rw [hdecoded]
        exact ih.trans (iff_and_self.mpr fun _ => Or.inr hreserved)
      · rw [if_neg hreserved] at hdecoded
        obtain ⟨restored, hrestored, hnum⟩ := Option.map_eq_some_iff.mp hdecoded
        rw [hrestored]
        dsimp only
        rw [hnum]
        by_cases hours : entry.nodeNum = ourNodeNum
        · rw [if_neg (fun h => h.1 hours)]
          exact ih.trans (iff_and_self.mpr fun _ => Or.inl hours)
        · have hpush := Bounded.push_of_lt (Bounded.empty : Bounded NodeEntry MAX_NODES) restored
            (by decide)
          rw [if_pos ⟨hours, rfl⟩, hpush]
          constructor
          · intro hempty
            have hgrown := length_le_restoreRecords ourNodeNum
              ⟨[restored], Nat.succ_le_succ (Nat.zero_le 95)⟩ (entries.map encodeRecord)
            change restoreRecords ourNodeNum ⟨[restored], _⟩ _ = _ at hempty
            rw [hempty] at hgrown
            cases hgrown
          · rintro ⟨hnone | hnone, -⟩
            · exact absurd hnone hours
            · exact absurd hnone hreserved

end NodeDb

end Meshtastenstein
