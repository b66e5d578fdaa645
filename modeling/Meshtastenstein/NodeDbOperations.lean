import Mathlib.Data.List.Perm.Subperm
import Mathlib.Data.List.Nodup
import Meshtastenstein.Router
import Meshtastenstein.Snapshot
import Meshtastenstein.Lib.Transition
/-!
# Operations of the node database

Whatever is done to it, and whatever bytes it is restored from, the node database holds one
entry for each node it knows and none under a reserved number.
-/

namespace Meshtastenstein

open Lib Lib.Bytes Lib.Transition Proto

/-! ## Operations -/

/-- What a caller does to an entry it was lent: any field may change but the node number. -/
structure EntryEdit where
  apply : NodeEntry → NodeEntry
  nodeNum_apply : ∀ entry, (apply entry).nodeNum = entry.nodeNum

inductive NodeDbOp
  | touch (nodeNum time : UInt32) (snr : Option Int8) (nowMs : Nat)
  | getOrCreate (nodeNum : UInt32) (edit : EntryEdit)
  | getMut (nodeNum : UInt32) (edit : EntryEdit)
  | updateUser (nodeNum : UInt32) (user : User)
  | updatePubKey (nodeNum : UInt32) (key : Key)
  | updateDeviceMetrics (nodeNum : UInt32) (metrics : DeviceMetrics)
  | updatePosition (nodeNum : UInt32) (position : Position)
  | setFavorite (nodeNum : UInt32) (favorite : Bool)
  | setIgnored (nodeNum : UInt32) (ignored : Bool)
  | toggleMuted (nodeNum : UInt32)
  | learnRoute (router : MeshRouter) (sender : UInt32) (relayNode : UInt8)
  | pruneStale (nowSecs maxAgeSecs : UInt32)
  | remove (nodeNum : UInt32)
  | restoreSnapshot (buf : Bytes)
  | markDirty
  | markClean

namespace NodeDbOp

def apply (db : NodeDb) : NodeDbOp → NodeDb
  | touch nodeNum time snr nowMs => db.touch nodeNum time snr nowMs
  | getOrCreate nodeNum edit => db.upsert nodeNum edit.apply
  | getMut nodeNum edit => db.modify nodeNum edit.apply
  | updateUser nodeNum user => db.updateUser nodeNum user
  | updatePubKey nodeNum key => db.updatePubKey nodeNum key
  | updateDeviceMetrics nodeNum metrics => db.updateDeviceMetrics nodeNum metrics
  | updatePosition nodeNum position => db.updatePosition nodeNum position
  | setFavorite nodeNum favorite => db.setFavorite nodeNum favorite
  | setIgnored nodeNum ignored => db.setIgnored nodeNum ignored
  | toggleMuted nodeNum => db.toggleMuted nodeNum
  | learnRoute router sender relayNode => router.learnRoute db sender relayNode
  | pruneStale nowSecs maxAgeSecs => db.pruneStale nowSecs maxAgeSecs
  | remove nodeNum => db.remove nodeNum
  | restoreSnapshot buf => (db.restoreSnapshot buf).1
  | markDirty => db.markDirty
  | markClean => db.markClean

end NodeDbOp

namespace NodeDb

def numbers (db : NodeDb) : List UInt32 := db.nodes.toList.map (·.nodeNum)

/-- The database of a node, with one entry for each node and none under a reserved number. -/
structure WellFormed (ourNodeNum : UInt32) (db : NodeDb) : Prop where
  own : db.ourNodeNum = ourNodeNum
  nodup : db.numbers.Nodup
  unreserved : ∀ nodeNum ∈ db.numbers, ¬ (nodeNum = 0 ∨ nodeNum = BROADCAST_ADDR)

theorem wellFormed_new (ourNodeNum : UInt32) : (new ourNodeNum).WellFormed ourNodeNum :=
  ⟨rfl, List.nodup_nil, fun _ hnum => absurd hnum List.not_mem_nil⟩

/-! ## What an operation does to the numbers -/

/-- Losing entries, or having them in another order, does no harm. -/
theorem WellFormed.of_subperm {ourNodeNum : UInt32} {db db' : NodeDb}
    (h : db.WellFormed ourNodeNum) (hown : db'.ourNodeNum = db.ourNodeNum)
    (hsub : db'.numbers.Subperm db.numbers) : db'.WellFormed ourNodeNum where
  own := hown.trans h.own
  nodup := by
    obtain ⟨kept, hperm, hkept⟩ := hsub
    exact hperm.nodup_iff.mp (hkept.nodup h.nodup)
  unreserved := fun nodeNum hnum => h.unreserved nodeNum (hsub.subset hnum)

theorem WellFormed.of_numbers_eq {ourNodeNum : UInt32} {db db' : NodeDb}
    (h : db.WellFormed ourNodeNum) (hown : db'.ourNodeNum = db.ourNodeNum)
    (hnumbers : db'.numbers = db.numbers) : db'.WellFormed ourNodeNum :=
  h.of_subperm hown (List.Perm.of_eq hnumbers).subperm

theorem wellFormed_concat {ourNodeNum nodeNum : UInt32} {db db' : NodeDb}
    (h : db.WellFormed ourNodeNum) (hown : db'.ourNodeNum = db.ourNodeNum)
    (hnumbers : db'.numbers = db.numbers ++ [nodeNum]) (hnew : nodeNum ∉ db.numbers)
    (hnum : ¬ (nodeNum = 0 ∨ nodeNum = BROADCAST_ADDR)) : db'.WellFormed ourNodeNum where
  own := hown.trans h.own
  nodup := by
    rw [hnumbers, ← List.concat_eq_append]
    exact h.nodup.concat hnew
  unreserved := by
    intro n hn
    rw [hnumbers] at hn
    rcases List.mem_append.mp hn with hn | hn
    · exact h.unreserved n hn
    · rw [List.mem_singleton.mp hn]
      exact hnum

variable {ourNodeNum : UInt32} {db : NodeDb}

theorem numbers_modifyAt (db : NodeDb) (idx : Nat) {f : NodeEntry → NodeEntry}
    (hf : ∀ entry, (f entry).nodeNum = entry.nodeNum) :
    (db.modifyAt idx f).numbers = db.numbers := by
  unfold numbers modifyAt
  dsimp only
  apply List.ext_getElem?
  intro i
  rw [List.getElem?_map, List.getElem?_map, List.getElem?_modify]
  cases db.nodes.toList[i]? with
  | none => rfl
  | some entry =>
      apply congrArg some
      dsimp only
      split
      · exact hf entry
      · rfl

theorem not_mem_numbers_of_position {nodeNum : UInt32} (h : db.position nodeNum = none) :
    nodeNum ∉ db.numbers := by
  intro hmem
  obtain ⟨entry, hentry, rfl⟩ := List.mem_map.mp hmem
  have hne := List.findIdx?_eq_none_iff.mp h entry hentry
  exact absurd (beq_self_eq_true _) (by rw [hne]; exact Bool.false_ne_true)

/-- Asking for an entry leaves the numbers, or adds the one asked for when it is new. -/
theorem getOrCreate_cases {nodeNum : UInt32} {db' : NodeDb} {idx : Nat}
    (h : db.getOrCreate nodeNum = some (db', idx)) :
    ¬ (nodeNum = 0 ∨ nodeNum = BROADCAST_ADDR) ∧ db'.ourNodeNum = db.ourNodeNum ∧
      (db.position nodeNum = some idx ∧ db' = db ∨
        nodeNum ∉ db.numbers ∧ db'.numbers = db.numbers ++ [nodeNum]) := by
  unfold getOrCreate at h
  split at h
  · cases h
  · rename_i hnum
    refine ⟨hnum, ?_⟩
    cases hposition : db.position nodeNum with
    | some found =>
        rw [hposition] at h
        cases h
        exact ⟨rfl, Or.inl ⟨rfl, rfl⟩⟩
    | none =>
        rw [hposition] at h
        dsimp only at h
        by_cases hroom : db.nodes.length < MAX_NODES
        · rw [Bounded.push_of_lt _ _ hroom] at h
          cases h
          refine ⟨rfl, Or.inr ⟨not_mem_numbers_of_position hposition, ?_⟩⟩
          unfold numbers
          rw [List.map_append]
          rfl
        · rw [Bounded.push_of_full _ _ hroom] at h
          cases h

theorem WellFormed.getOrCreate (h : db.WellFormed ourNodeNum) {nodeNum : UInt32}
    {db' : NodeDb} {idx : Nat} (hcreate : db.getOrCreate nodeNum = some (db', idx)) :
    db'.WellFormed ourNodeNum := by
  obtain ⟨hnum, hown, ⟨-, rfl⟩ | ⟨hnew, hnumbers⟩⟩ := getOrCreate_cases hcreate
  · exact h
  · exact wellFormed_concat h hown hnumbers hnew hnum

theorem WellFormed.modifyAt (h : db.WellFormed ourNodeNum) (idx : Nat) {f : NodeEntry → NodeEntry}
    (hf : ∀ entry, (f entry).nodeNum = entry.nodeNum) :
    (db.modifyAt idx f).WellFormed ourNodeNum :=
  h.of_numbers_eq rfl (db.numbers_modifyAt idx hf)

theorem WellFormed.upsert (h : db.WellFormed ourNodeNum) (nodeNum : UInt32)
    {f : NodeEntry → NodeEntry} (hf : ∀ entry, (f entry).nodeNum = entry.nodeNum) :
    (db.upsert nodeNum f).WellFormed ourNodeNum := by
  unfold NodeDb.upsert
  split
  · rename_i created idx hcreate
    exact (h.getOrCreate hcreate).modifyAt idx hf
  · exact h

theorem WellFormed.modify (h : db.WellFormed ourNodeNum) (nodeNum : UInt32)
    {f : NodeEntry → NodeEntry} (hf : ∀ entry, (f entry).nodeNum = entry.nodeNum) :
    (db.modify nodeNum f).WellFormed ourNodeNum := by
  unfold NodeDb.modify
  split
  · exact h.modifyAt _ hf
  · exact h

theorem WellFormed.markDirty (h : db.WellFormed ourNodeNum) : db.markDirty.WellFormed ourNodeNum :=
  h.of_numbers_eq rfl rfl

theorem WellFormed.updateUser (h : db.WellFormed ourNodeNum) (nodeNum : UInt32) (user : User) :
    (db.updateUser nodeNum user).WellFormed ourNodeNum := by
  unfold NodeDb.updateUser
  split
  · rename_i created idx hcreate
    apply WellFormed.markDirty
    exact (h.getOrCreate hcreate).modifyAt idx fun _ => rfl
  · exact h

theorem WellFormed.updatePubKey (h : db.WellFormed ourNodeNum) (nodeNum : UInt32) (key : Key) :
    (db.updatePubKey nodeNum key).WellFormed ourNodeNum := by
  unfold NodeDb.updatePubKey
  split
  · rename_i created idx hcreate
    apply WellFormed.markDirty
    exact (h.getOrCreate hcreate).modifyAt idx fun _ => rfl
  · exact h

theorem WellFormed.setFavorite (h : db.WellFormed ourNodeNum) (nodeNum : UInt32) (favorite : Bool) :
    (db.setFavorite nodeNum favorite).WellFormed ourNodeNum := by
  unfold NodeDb.setFavorite
  split
  · apply WellFormed.markDirty
    exact h.modifyAt _ fun _ => rfl
  · exact h

theorem WellFormed.setIgnored (h : db.WellFormed ourNodeNum) (nodeNum : UInt32) (ignored : Bool) :
    (db.setIgnored nodeNum ignored).WellFormed ourNodeNum := by
  unfold NodeDb.setIgnored
  split
  · apply WellFormed.markDirty
    exact h.modifyAt _ fun _ => rfl
  · exact h

theorem WellFormed.toggleMuted (h : db.WellFormed ourNodeNum) (nodeNum : UInt32) :
    (db.toggleMuted nodeNum).WellFormed ourNodeNum := by
  unfold NodeDb.toggleMuted
  split
  · apply WellFormed.markDirty
    exact h.modifyAt _ fun _ => rfl
  · exact h

theorem WellFormed.pruneStale (h : db.WellFormed ourNodeNum) (nowSecs maxAgeSecs : UInt32) :
    (db.pruneStale nowSecs maxAgeSecs).WellFormed ourNodeNum :=
  h.of_subperm rfl ((List.filter_sublist.map _).subperm)

theorem WellFormed.touch (h : db.WellFormed ourNodeNum) (nodeNum time : UInt32) (snr : Option Int8)
    (nowMs : Nat) : (db.touch nodeNum time snr nowMs).WellFormed ourNodeNum := by
  unfold NodeDb.touch
  dsimp only
  split
  · split
    · exact (h.pruneStale time 7200).upsert nodeNum fun _ => rfl
    · exact h
  · exact h.upsert nodeNum fun _ => rfl

theorem WellFormed.remove (h : db.WellFormed ourNodeNum) (nodeNum : UInt32) :
    (db.remove nodeNum).WellFormed ourNodeNum := by
  unfold NodeDb.remove
  split
  · rename_i idx hposition
    obtain ⟨hidx, -⟩ := List.findIdx?_eq_some_iff_getElem.mp hposition
    have hperm := (Bounded.perm_swapRemove db.nodes idx hidx).map (·.nodeNum)
    have hsub : ((db.nodes.swapRemove idx).toList.map (·.nodeNum)).Subperm db.numbers :=
      (List.sublist_cons_self _ _).subperm.trans hperm.symm.subperm
    exact h.of_subperm rfl hsub
  · exact h

theorem WellFormed.learnRoute (h : db.WellFormed ourNodeNum) (router : MeshRouter) (sender : UInt32)
    (relayNode : UInt8) : (router.learnRoute db sender relayNode).WellFormed ourNodeNum := by
  unfold MeshRouter.learnRoute
  generalize (if relayNode ≠ 0 then relayNode else lastByte sender) = nextHop
  dsimp only
  split
  · exact h
  · exact h.upsert sender fun _ => rfl

/-! ## The entry of a node -/

theorem nodeNum_of_get {nodeNum : UInt32} {entry : NodeEntry} (h : db.get nodeNum = some entry) :
    entry.nodeNum = nodeNum := by
  have hfound := List.find?_some (show db.nodes.toList.find? _ = some entry from h)
  exact beq_iff_eq.mp hfound

theorem get_eq_none_iff {nodeNum : UInt32} : db.get nodeNum = none ↔ nodeNum ∉ db.numbers := by
  unfold get numbers
  rw [List.find?_eq_none, List.mem_map]
  constructor
  · rintro hnone ⟨entry, hentry, hnum⟩
    exact hnone entry hentry (beq_iff_eq.mpr hnum)
  · intro hnew entry hentry hnum
    exact hnew ⟨entry, hentry, beq_iff_eq.mp hnum⟩

theorem position_eq (db : NodeDb) (nodeNum : UInt32) :
    db.position nodeNum = db.numbers.findIdx? (· == nodeNum) := by
  unfold position numbers
  rw [List.findIdx?_map]
  rfl

theorem get_of_position (db : NodeDb) (nodeNum : UInt32) :
    db.get nodeNum = (db.position nodeNum).bind fun idx => db.nodes.toList[idx]? :=
  List.find?_eq_bind_findIdx?_getElem?

theorem get_modifyAt {nodeNum : UInt32} {idx : Nat} (h : db.position nodeNum = some idx)
    {f : NodeEntry → NodeEntry} (hf : ∀ entry, (f entry).nodeNum = entry.nodeNum) :
    (db.modifyAt idx f).get nodeNum = (db.get nodeNum).map f := by
  have hsame : (db.modifyAt idx f).position nodeNum = some idx := by
    rw [position_eq, db.numbers_modifyAt idx hf, ← position_eq, h]
  rw [get_of_position, get_of_position, hsame, h]
  change (db.nodes.toList.modify idx f)[idx]? = db.nodes.toList[idx]?.map f
  rw [List.getElem?_modify]
  simp only [if_true, Option.map_eq_map]

theorem get_modify {nodeNum : UInt32} {f : NodeEntry → NodeEntry} {entry : NodeEntry}
    (hget : (db.modify nodeNum f).get nodeNum = some entry)
    (hf : ∀ entry, (f entry).nodeNum = entry.nodeNum) :
    ∃ old, db.get nodeNum = some old ∧ entry = f old := by
  unfold NodeDb.modify at hget
  split at hget
  · rename_i idx hposition
    rw [get_modifyAt hposition hf] at hget
    obtain ⟨old, hold, rfl⟩ := Option.map_eq_some_iff.mp hget
    exact ⟨old, hold, rfl⟩
  · rename_i hposition
    rw [get_eq_none_iff.mpr (not_mem_numbers_of_position hposition)] at hget
    cases hget

theorem get_getOrCreate {nodeNum : UInt32} {db' : NodeDb} {idx : Nat}
    (h : db.getOrCreate nodeNum = some (db', idx)) :
    db'.position nodeNum = some idx ∧
      db'.get nodeNum = some ((db.get nodeNum).getD { nodeNum := nodeNum }) := by
  obtain ⟨hnum, -⟩ := getOrCreate_cases h
  unfold NodeDb.getOrCreate at h
  rw [if_neg hnum] at h
  cases hposition : db.position nodeNum with
  | some found =>
      rw [hposition] at h
      cases h
      obtain ⟨hidx, -⟩ := List.findIdx?_eq_some_iff_getElem.mp hposition
      refine ⟨hposition, ?_⟩
      rw [get_of_position, hposition, Option.bind_some, List.getElem?_eq_getElem hidx]
      rfl
  | none =>
      have hnew := get_eq_none_iff.mpr (not_mem_numbers_of_position hposition)
      rw [hposition] at h
      dsimp only at h
      by_cases hroom : db.nodes.length < MAX_NODES
      · rw [Bounded.push_of_lt _ _ hroom] at h
        cases h
        rw [hnew]
        constructor
        · have hnone : db.nodes.toList.findIdx? (fun n => n.nodeNum == nodeNum) = none := hposition
          change (db.nodes.toList ++ [({ nodeNum := nodeNum } : NodeEntry)]).findIdx? _ = some _
          rw [List.findIdx?_append, hnone, Option.none_or, List.findIdx?_singleton,
            if_pos (beq_self_eq_true nodeNum)]
          change some (0 + _) = some ((db.nodes.toList ++ [_]).length - 1)
          rw [List.length_append, Nat.zero_add]
          rfl
        · have hnone : db.nodes.toList.find? (fun n => n.nodeNum == nodeNum) = none := hnew
          change (db.nodes.toList ++ [({ nodeNum := nodeNum } : NodeEntry)]).find? _ = some _
          rw [List.find?_append, hnone, Option.none_or, List.find?_singleton,
            if_pos (beq_self_eq_true nodeNum)]
          rfl
      · rw [Bounded.push_of_full _ _ hroom] at h
        cases h

theorem WellFormed.isSome_getOrCreate (h : db.WellFormed ourNodeNum) {nodeNum : UInt32}
    {entry : NodeEntry} (hget : db.get nodeNum = some entry) :
    (db.getOrCreate nodeNum).isSome = true := by
  have hknown : nodeNum ∈ db.numbers := by
    by_contra hnew
    rw [get_eq_none_iff.mpr hnew] at hget
    cases hget
  unfold NodeDb.getOrCreate
  rw [if_neg (h.unreserved nodeNum hknown)]
  split
  · rfl
  · rename_i hposition
    exact absurd hknown (not_mem_numbers_of_position hposition)

theorem WellFormed.get_upsert (h : db.WellFormed ourNodeNum) {nodeNum : UInt32}
    {f : NodeEntry → NodeEntry} {entry : NodeEntry}
    (hget : (db.upsert nodeNum f).get nodeNum = some entry)
    (hf : ∀ entry, (f entry).nodeNum = entry.nodeNum) :
    entry = f ((db.get nodeNum).getD { nodeNum := nodeNum }) := by
  unfold NodeDb.upsert at hget
  split at hget
  · rename_i created idx hcreate
    obtain ⟨hposition, hcreated⟩ := get_getOrCreate hcreate
    rw [get_modifyAt hposition hf, hcreated] at hget
    exact (Option.some.inj hget).symm
  · rename_i hrejected
    have hasked := h.isSome_getOrCreate hget
    rw [hrejected] at hasked
    cases hasked

theorem WellFormed.get_updateUser (h : db.WellFormed ourNodeNum) {nodeNum : UInt32} {user : User}
    {entry : NodeEntry} (hget : (db.updateUser nodeNum user).get nodeNum = some entry) :
    entry.user = some user := by
  have hupsert : (db.upsert nodeNum fun n => { n with user := some user }).get nodeNum =
      some entry := by
    rw [← hget]
    unfold NodeDb.upsert NodeDb.updateUser
    split <;> rfl
  rw [h.get_upsert hupsert fun _ => rfl]

theorem WellFormed.get_touch (h : db.WellFormed ourNodeNum) {nodeNum time : UInt32}
    {snr : Option Int8} {nowMs : Nat} {entry : NodeEntry}
    (hget : (db.touch nodeNum time snr nowMs).get nodeNum = some entry) :
    let old := (db.get nodeNum).getD { nodeNum := nodeNum }
    entry = { old with lastHeard := time, snr := snr.or old.snr, lastSeenMs := nowMs } := by
  unfold NodeDb.touch at hget
  dsimp only at hget ⊢
  split at hget
  · rename_i hfull
    have hnew : db.get nodeNum = none := by
      rw [get_eq_none_iff]
      intro hknown
      obtain ⟨known, hmem, hnum⟩ := List.mem_map.mp hknown
      have hne := List.all_eq_true.mp (Bool.and_eq_true_iff.mp hfull).2 known hmem
      exact bne_iff_ne.mp hne hnum
    split at hget
    · have hpruned : (db.pruneStale time 7200).get nodeNum = none := by
        rw [get_eq_none_iff] at hnew ⊢
        exact fun hkept => hnew ((List.filter_sublist.map _).subset hkept)
      have hentry := (h.pruneStale time 7200).get_upsert hget fun _ => rfl
      rw [hpruned] at hentry
      rw [hnew]
      exact hentry
    · rw [hnew] at hget
      cases hget
  · exact h.get_upsert hget fun _ => rfl

/-! ## Restoring -/

theorem unreserved_decodeRecord {record : Bytes} {entry : NodeEntry}
    (h : decodeRecord record = some entry) :
    ¬ (entry.nodeNum = 0 ∨ entry.nodeNum = BROADCAST_ADDR) := by
  unfold decodeRecord at h
  dsimp only at h
  split at h
  · cases h
  · rename_i hnum
    cases h
    exact hnum

theorem WellFormed.restoreRecords (h : db.WellFormed ourNodeNum) (self : UInt32)
    (records : List Bytes) :
    WellFormed ourNodeNum { db with nodes := restoreRecords self db.nodes records } := by
  induction records generalizing db with
  | nil => exact h
  | cons record records ih =>
      unfold NodeDb.restoreRecords
      split
      · rename_i entry hentry
        split
        · rename_i hnew
          split
          · rename_i nodes hpush
            have hadded : WellFormed ourNodeNum { db with nodes := nodes } := by
              by_cases hroom : db.nodes.length < MAX_NODES
              · rw [Bounded.push_of_lt _ _ hroom] at hpush
                cases hpush
                refine wellFormed_concat h rfl List.map_append ?_ (unreserved_decodeRecord hentry)
                intro hknown
                obtain ⟨known, hmem, hnum⟩ := List.mem_map.mp hknown
                have hne := List.all_eq_true.mp hnew.2 known hmem
                exact bne_iff_ne.mp hne hnum
              · rw [Bounded.push_of_full _ _ hroom] at hpush
                cases hpush
            exact ih hadded
          · exact h
        · exact ih h
      · exact ih h

/-- Records of different nodes are all restored, but for our own. -/
theorem toList_restoreRecords {records : List Bytes} {nodes : Bounded NodeEntry MAX_NODES}
    (hnodup : (nodes.toList.map (·.nodeNum) ++
      (records.filterMap decodeRecord).map (·.nodeNum)).Nodup)
    (hroom : nodes.length + records.length ≤ MAX_NODES) :
    (restoreRecords ourNodeNum nodes records).toList =
      nodes.toList ++ (records.filterMap decodeRecord).filter fun n => n.nodeNum != ourNodeNum := by
  induction records generalizing nodes with
  | nil => exact (List.append_nil _).symm
  | cons record records ih =>
      rw [List.length_cons] at hroom
      unfold restoreRecords
      cases hentry : decodeRecord record with
      | none =>
          rw [List.filterMap_cons_none hentry] at hnodup ⊢
          exact ih hnodup (by omega)
      | some entry =>
          rw [List.filterMap_cons_some hentry, List.map_cons] at hnodup
          rw [List.filterMap_cons_some hentry]
          dsimp only
          by_cases hours : entry.nodeNum = ourNodeNum
          · rw [if_neg (fun h => h.1 hours), List.filter_cons_of_neg (by simpa using hours)]
            refine ih (hnodup.sublist ?_) (by omega)
            exact (List.Sublist.refl _).append (List.sublist_cons_self _ _)
          · have hnew : nodes.toList.all (fun n => n.nodeNum != entry.nodeNum) = true := by
              rw [List.all_eq_true]
              intro known hknown
              have hdisjoint := List.disjoint_of_nodup_append hnodup
              have hne : known.nodeNum ≠ entry.nodeNum := fun hsame =>
                hdisjoint (List.mem_map_of_mem hknown) (hsame ▸ List.mem_cons_self)
              simpa using hne
            rw [if_pos ⟨hours, hnew⟩, Bounded.push_of_lt _ _ (by omega),
              List.filter_cons_of_pos (by simpa using hours)]
            dsimp only
            rw [ih]
            · rw [List.append_assoc]
              rfl
            · rw [List.map_append, List.append_assoc]
              exact hnodup
            · unfold Bounded.length
              rw [List.length_append]
              change nodes.length + 1 + records.length ≤ MAX_NODES
              omega

/-- A snapshot is either left alone or takes the place of everything but our own entry. -/
theorem restoreSnapshot_cases (db : NodeDb) (buf : Bytes) :
    db.restoreSnapshot buf = (db, false) ∨
      db.restoreSnapshot buf =
        ({ db with
            nodes := restoreRecords db.ourNodeNum (db.nodes.retain (·.nodeNum == db.ourNodeNum))
              (snapshotRecords buf (buf.getD 5 0).toNat)
            dirty := false }, true) := by
  unfold restoreSnapshot
  dsimp only
  split
  · exact Or.inl rfl
  · split
    · exact Or.inl rfl
    · split
      · exact Or.inl rfl
      · exact Or.inr rfl

theorem WellFormed.restoreSnapshot (h : db.WellFormed ourNodeNum) (buf : Bytes) :
    (db.restoreSnapshot buf).1.WellFormed ourNodeNum := by
  rcases db.restoreSnapshot_cases buf with hleft | hrestored
  · rw [hleft]
    exact h
  · rw [hrestored]
    have hown : WellFormed ourNodeNum
        { db with nodes := db.nodes.retain (·.nodeNum == db.ourNodeNum) } :=
      h.of_subperm rfl ((List.filter_sublist.map _).subperm)
    exact (hown.restoreRecords db.ourNodeNum _).of_numbers_eq rfl rfl

/-! ## Our own entry -/

theorem prefix_restoreRecords (ourNodeNum : UInt32) (nodes : Bounded NodeEntry MAX_NODES)
    (records : List Bytes) :
    nodes.toList <+: (restoreRecords ourNodeNum nodes records).toList := by
  induction records generalizing nodes with
  | nil => exact List.prefix_rfl
  | cons record records ih =>
      unfold restoreRecords
      split
      · rename_i entry _
        split
        · by_cases hroom : nodes.length < MAX_NODES
          · rw [Bounded.push_of_lt _ _ hroom]
            have hfits : (nodes.toList ++ [entry]).length ≤ MAX_NODES := by
              rw [List.length_append]
              exact hroom
            have hrest := ih ⟨nodes.toList ++ [entry], hfits⟩
            exact (List.prefix_append nodes.toList [entry]).trans hrest
          · rewrite [Bounded.push_of_full _ _ hroom]
            exact List.prefix_rfl
        · exact ih nodes
      · exact ih nodes

theorem find?_filter_of_imp {α : Type} {l : List α} {p q : α → Bool}
    (himp : ∀ a, p a = true → q a = true) : (l.filter q).find? p = l.find? p := by
  rw [List.find?_filter]
  congr 1
  funext a
  cases hp : p a with
  | false => simp
  | true => simp [himp a hp]

theorem get_pruneStale_own (db : NodeDb) (nowSecs maxAgeSecs : UInt32) :
    (db.pruneStale nowSecs maxAgeSecs).get db.ourNodeNum = db.get db.ourNodeNum := by
  apply find?_filter_of_imp
  intro entry hown
  rw [hown, Bool.true_or, Bool.true_or]

theorem get_restoreSnapshot_own {entry : NodeEntry} (h : db.get db.ourNodeNum = some entry)
    (buf : Bytes) : (db.restoreSnapshot buf).1.get db.ourNodeNum = some entry := by
  rcases db.restoreSnapshot_cases buf with hleft | hrestored
  · rw [hleft]
    exact h
  · rw [hrestored]
    have hown : (db.nodes.retain (·.nodeNum == db.ourNodeNum)).toList.find?
        (fun n => n.nodeNum == db.ourNodeNum) = some entry :=
      (find?_filter_of_imp fun _ hsame => hsame).trans h
    exact (prefix_restoreRecords db.ourNodeNum _ _).find?_eq_some hown

/-! ## Every sequence of operations -/

theorem WellFormed.apply (h : db.WellFormed ourNodeNum) (op : NodeDbOp) :
    (op.apply db).WellFormed ourNodeNum := by
  cases op with
  | touch nodeNum time snr nowMs => exact h.touch nodeNum time snr nowMs
  | getOrCreate nodeNum edit => exact h.upsert nodeNum edit.nodeNum_apply
  | getMut nodeNum edit => exact h.modify nodeNum edit.nodeNum_apply
  | updateDeviceMetrics nodeNum metrics => exact h.upsert nodeNum fun _ => rfl
  | updatePosition nodeNum position => exact h.upsert nodeNum fun _ => rfl
  | learnRoute router sender relayNode => exact h.learnRoute router sender relayNode
  | pruneStale nowSecs maxAgeSecs => exact h.pruneStale nowSecs maxAgeSecs
  | remove nodeNum => exact h.remove nodeNum
  | restoreSnapshot buf => exact h.restoreSnapshot buf
  | markDirty => exact h.markDirty
  | markClean => exact h.of_numbers_eq rfl rfl
  | updateUser nodeNum user => exact h.updateUser nodeNum user
  | updatePubKey nodeNum key => exact h.updatePubKey nodeNum key
  | setFavorite nodeNum favorite => exact h.setFavorite nodeNum favorite
  | setIgnored nodeNum ignored => exact h.setIgnored nodeNum ignored
  | toggleMuted nodeNum => exact h.toggleMuted nodeNum

theorem wellFormed_after (ourNodeNum : UInt32) (ops : List NodeDbOp) :
    (run NodeDbOp.apply (new ourNodeNum) ops).WellFormed ourNodeNum := by
  have hok : Always NodeDbOp.apply (fun _ _ => True) (new ourNodeNum) ops :=
    always_of_forall (fun _ _ => trivial) _
  refine @invariant_run _ _ _ (WellFormed ourNodeNum) _ ?_ _ _ (wellFormed_new ourNodeNum) hok
  exact fun _ op h _ => h.apply op

/-- Over any operations, the database holds at most one entry for each node, none under a
reserved number and no more than it has room for; neither pruning nor a snapshot moves our own
entry, and a snapshot that is refused moves nothing. -/
theorem wellFormed_run (ourNodeNum : UInt32) (ops : List NodeDbOp) :
    let db := run NodeDbOp.apply (new ourNodeNum) ops
    (db.nodes.toList.map (·.nodeNum)).Nodup ∧
      (∀ entry ∈ db.nodes.toList, entry.nodeNum ≠ 0 ∧ entry.nodeNum ≠ 0xFFFFFFFF) ∧
      db.len ≤ 96 ∧
      (∀ nowSecs maxAgeSecs : UInt32,
        (db.pruneStale nowSecs maxAgeSecs).get ourNodeNum = db.get ourNodeNum) ∧
      (∀ (buf : Bytes) (entry : NodeEntry), db.get ourNodeNum = some entry →
        (db.restoreSnapshot buf).1.get ourNodeNum = some entry) ∧
      ∀ buf : Bytes, (db.restoreSnapshot buf).2 = false → (db.restoreSnapshot buf).1 = db := by
  intro db
  have hvalid : db.WellFormed ourNodeNum :=
    wellFormed_after ourNodeNum ops
  refine ⟨hvalid.nodup, ?_, db.nodes.length_le, ?_, ?_, ?_⟩
  · intro entry hentry
    exact not_or.mp (hvalid.unreserved _ (List.mem_map_of_mem hentry))
  · rw [← hvalid.own]
    exact db.get_pruneStale_own
  · rw [← hvalid.own]
    exact fun buf _ hentry => get_restoreSnapshot_own hentry buf
  · intro buf hrefused
    rcases db.restoreSnapshot_cases buf with hleft | hrestored
    · rw [hleft]
    · rw [hrestored] at hrefused
      cases hrefused

end NodeDb

end Meshtastenstein
