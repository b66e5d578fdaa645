import Meshtastenstein.Delivery
import Meshtastenstein.Holdings
import Meshtastenstein.NodeDbOperations
import Meshtastenstein.NodeRecord
import Meshtastenstein.Runs
/-!
# The dirty flag

An edit sets the flag, or changes nothing that a snapshot shows, unless it is one of the four
that forget it.
-/

namespace Meshtastenstein

open Lib Proto Handlers

/-! ## Snapshots -/

namespace NodeDb

/-- While the flag is not set, the database is as the snapshot shows it. -/
def Agrees (db : NodeDb) (snapshot : List KeptEntry) : Prop :=
  db.dirty = false → db.kept.Perm snapshot

/-- The flag is set, or nothing has happened that a snapshot shows. -/
def Marked (db db' : NodeDb) : Prop :=
  db'.dirty = true ∨ (db'.kept = db.kept ∧ db'.dirty = db.dirty)

theorem Marked.refl (db : NodeDb) : Marked db db := Or.inr ⟨rfl, rfl⟩

theorem Marked.agrees {db db' : NodeDb} {snapshot : List KeptEntry} (h : Marked db db')
    (hdb : db.Agrees snapshot) : db'.Agrees snapshot := by
  intro hclean
  rcases h with hdirty | ⟨hkept, hdirty⟩
  · rw [hdirty] at hclean
    cases hclean
  · rw [hkept]
    exact hdb (hdirty.symm.trans hclean)

/-! ## Entries -/

theorem map_modify {α β : Type} {f : α → α} {g : α → β} {items : List α} {idx : Nat}
    (h : ∀ item, items[idx]? = some item → g (f item) = g item) :
    (items.modify idx f).map g = items.map g := by
  apply List.ext_getElem?
  intro i
  rw [List.getElem?_map, List.getElem?_map]
  by_cases hi : idx = i
  · subst hi
    rw [List.getElem?_modify_eq]
    cases hitem : items[idx]? with
    | none => rfl
    | some item => exact congrArg some (h item hitem)
  · rw [List.getElem?_modify_ne f items hi]

theorem kept_modifyAt {db : NodeDb} {idx : Nat} {f : NodeEntry → NodeEntry}
    (h : ∀ entry, db.nodes.toList[idx]? = some entry → (f entry).kept = entry.kept) :
    (db.modifyAt idx f).kept = db.kept := map_modify h

theorem marked_upsert {db : NodeDb} {nodeNum : UInt32} {f : NodeEntry → NodeEntry}
    (h : ∀ entry, db.get nodeNum = some entry → (f entry).kept = entry.kept) :
    Marked db (db.upsert nodeNum f) := by
  unfold upsert getOrCreate
  split
  · rename_i db' idx hcreated
    split at hcreated
    · cases hcreated
    · split at hcreated
      · rename_i idx' hposition
        cases hcreated
        refine Or.inr ⟨kept_modifyAt fun entry hentry => h entry ?_, rfl⟩
        rw [get_of_position, hposition]
        exact hentry
      · split at hcreated
        · cases hcreated
          exact Or.inl rfl
        · cases hcreated
  · exact Marked.refl db

theorem marked_modify {db : NodeDb} {nodeNum : UInt32} {f : NodeEntry → NodeEntry}
    (h : ∀ entry, db.get nodeNum = some entry → (f entry).kept = entry.kept) :
    Marked db (db.modify nodeNum f) := by
  unfold modify
  split
  · rename_i idx hposition
    refine Or.inr ⟨kept_modifyAt fun entry hentry => h entry ?_, rfl⟩
    rw [get_of_position, hposition]
    exact hentry
  · exact Marked.refl db

theorem not_perm_modify {α β : Type} {f : α → α} {g : α → β} {items : List α} {idx : Nat}
    {item : α} (hitem : items[idx]? = some item) (h : g (f item) ≠ g item) :
    ¬ ((items.modify idx f).map g).Perm (items.map g) := by
  intro hperm
  induction items generalizing idx with
  | nil => cases hitem
  | cons first rest ih =>
      cases idx with
      | zero =>
          obtain rfl : first = item := Option.some.inj hitem
          have hsame : [g (f first)].Perm [g first] :=
            (List.perm_append_right_iff (rest.map g)).mp hperm
          exact h (List.singleton_perm_singleton.mp hsame)
      | succ idx => exact ih hitem ((List.perm_cons (g first)).mp hperm)

theorem kept_modifyAt_ne {db : NodeDb} {idx : Nat} {f : NodeEntry → NodeEntry}
    {entry : NodeEntry} (hentry : db.nodes.toList[idx]? = some entry)
    (h : (f entry).kept ≠ entry.kept) : ¬ (db.modifyAt idx f).kept.Perm db.kept :=
  not_perm_modify hentry h

end NodeDb

/-! ## Forgetful edits -/

/-- The next hop that an acknowledgement teaches. -/
def learnedHop (sender : UInt32) (relayNode : UInt8) : UInt8 :=
  if relayNode ≠ 0 then relayNode else lastByte sender

def NodeDbEdit.Forgets (db : NodeDb) (snapshot : List KeptEntry) : NodeDbEdit → Prop
  -- stale nodes make room for a node number that gets no entry
  | .touch nodeNum time _ _ =>
      db.dirty = false ∧ (nodeNum = 0 ∨ nodeNum = BROADCAST_ADDR) ∧ db.nodes.isFull = true ∧
        db.nodes.toList.all (·.nodeNum != nodeNum) = true ∧ (db.pruneStale time 7200).len < db.len
  -- a known node gets another next hop
  | .learnRoute sender relayNode =>
      db.dirty = false ∧ ¬ (sender = 0 ∨ sender = BROADCAST_ADDR) ∧
        learnedHop sender relayNode ≠ NO_NEXT_HOP ∧
        ∃ entry, db.get sender = some entry ∧ entry.nextHop ≠ learnedHop sender relayNode
  | .clearRoute dest =>
      db.dirty = false ∧ ∃ entry, db.get dest = some entry ∧ entry.nextHop ≠ NO_NEXT_HOP
  -- the new database is clean, whatever the snapshot shows
  | .reset _ => snapshot ≠ []
  | _ => False

namespace NodeDb

theorem marked_setFavorite (db : NodeDb) (nodeNum : UInt32) (favorite : Bool) :
    Marked db (db.setFavorite nodeNum favorite) := by
  unfold setFavorite
  split
  · exact Or.inl rfl
  · exact Marked.refl db

theorem marked_setIgnored (db : NodeDb) (nodeNum : UInt32) (ignored : Bool) :
    Marked db (db.setIgnored nodeNum ignored) := by
  unfold setIgnored
  split
  · exact Or.inl rfl
  · exact Marked.refl db

theorem marked_toggleMuted (db : NodeDb) (nodeNum : UInt32) :
    Marked db (db.toggleMuted nodeNum) := by
  unfold toggleMuted
  split
  · exact Or.inl rfl
  · exact Marked.refl db

theorem marked_remove (db : NodeDb) (nodeNum : UInt32) :
    Marked db (db.remove nodeNum) := by
  unfold remove
  split
  · exact Or.inl rfl
  · exact Marked.refl db

theorem marked_updateUser (db : NodeDb) (nodeNum : UInt32) (user : User) :
    Marked db (db.updateUser nodeNum user) := by
  unfold updateUser
  split
  · exact Or.inl rfl
  · exact Marked.refl db

theorem marked_updatePubKey (db : NodeDb) (nodeNum : UInt32) (key : Key) :
    Marked db (db.updatePubKey nodeNum key) := by
  unfold updatePubKey
  split
  · exact Or.inl rfl
  · exact Marked.refl db

theorem Marked.trans {db db' db'' : NodeDb} (h : Marked db db') (h' : Marked db' db'')  :
    Marked db db'' := by
  rcases h' with hdirty' | ⟨hkept', hdirty'⟩
  · exact Or.inl hdirty'
  · rcases h with hdirty | ⟨hkept, hdirty⟩
    · exact Or.inl (hdirty'.trans hdirty)
    · exact Or.inr ⟨hkept'.trans hkept, hdirty'.trans hdirty⟩

theorem marked_storeUser (db : NodeDb) (sender : UInt32) (user : User) :
    Marked db (FromRadio.storeUser db sender user) := by
  unfold FromRadio.storeUser
  dsimp only
  split
  · exact (marked_updatePubKey db sender _).trans (marked_updateUser _ sender user)
  · exact marked_updateUser db sender user

theorem Marked.dirty {db db' : NodeDb} (h : Marked db db') (hdb : db.dirty = true) :
    db'.dirty = true := by
  rcases h with hdirty | ⟨-, hdirty⟩
  · exact hdirty
  · exact hdirty.trans hdb

theorem marked_addContactToDb (db : NodeDb) (contact : SharedContact) (user : User) :
    Marked db (Admin.addContactToDb db contact user) := by
  -- whatever is stored of the contact, the flag is set
  have hmarked : ∀ stored : NodeDb, Marked db
      (if contact.shouldIgnore then
        (stored.markDirty.setIgnored contact.nodeNum true).setFavorite contact.nodeNum false
      else stored.markDirty.setFavorite contact.nodeNum true) := by
    intro stored
    split
    · exact Or.inl ((marked_setFavorite _ _ _).dirty ((marked_setIgnored _ _ _).dirty rfl))
    · exact Or.inl ((marked_setFavorite _ _ _).dirty rfl)
  unfold Admin.addContactToDb
  split
  · exact Marked.refl db
  · exact hmarked _

/-- Dropping stale nodes leaves fewer, which a snapshot shows. -/
theorem kept_pruneStale_ne {db : NodeDb} {nowSecs maxAgeSecs : UInt32}
    (h : (db.pruneStale nowSecs maxAgeSecs).len < db.len) :
    ¬ (db.pruneStale nowSecs maxAgeSecs).kept.Perm db.kept := by
  intro hsame
  have hlength := hsame.length_eq
  unfold kept at hlength
  rw [List.length_map, List.length_map] at hlength
  exact Nat.ne_of_lt h hlength

theorem dirty_upsert {db : NodeDb} {nodeNum : UInt32} {f : NodeEntry → NodeEntry}
    (hnum : ¬ (nodeNum = 0 ∨ nodeNum = BROADCAST_ADDR)) (hnew : db.position nodeNum = none)
    (hroom : db.nodes.length < MAX_NODES) : (db.upsert nodeNum f).dirty = true := by
  unfold upsert getOrCreate
  rw [if_neg hnum, hnew, Bounded.push_of_lt _ _ hroom]
  rfl

theorem not_agrees_of_kept_ne {db db' : NodeDb} {snapshot : List KeptEntry}
    (hdb : db.Agrees snapshot) (hclean : db.dirty = false) (h : ¬ db'.kept.Perm db.kept)
    (hsame : db'.dirty = db.dirty) : ¬ db'.Agrees snapshot :=
  fun hagrees => h ((hagrees (hsame.trans hclean)).trans (hdb hclean).symm)

/-- A touched database is marked, unless stale nodes went for nothing. -/
theorem agrees_touch_iff {db : NodeDb} {snapshot : List KeptEntry} (hdb : db.Agrees snapshot)
    (nodeNum time : UInt32) (snr : Option Int8) (nowMs : Nat) :
    (db.touch nodeNum time snr nowMs).Agrees snapshot ↔
      ¬ (NodeDbEdit.touch nodeNum time snr nowMs).Forgets db snapshot := by
  unfold touch NodeDbEdit.Forgets
  dsimp only
  by_cases hfull : (db.nodes.isFull && db.nodes.toList.all (·.nodeNum != nodeNum)) = true
  · obtain ⟨hcap, hnew⟩ := Bool.and_eq_true_iff.mp hfull
    rw [if_pos hfull]
    by_cases hpruned : (db.pruneStale time 7200).len < db.len
    · rw [if_pos hpruned]
      by_cases hnum : nodeNum = 0 ∨ nodeNum = BROADCAST_ADDR
      · -- the number gets no entry
        have hsame : ∀ f, (db.pruneStale time 7200).upsert nodeNum f = db.pruneStale time 7200 := by
          intro f
          unfold upsert getOrCreate
          rw [if_pos hnum]
        rw [hsame]
        constructor
        · rintro hagrees ⟨hclean, -⟩
          exact not_agrees_of_kept_ne hdb hclean (kept_pruneStale_ne hpruned) rfl hagrees
        · intro hremembers hclean
          exact absurd ⟨hclean, hnum, hcap, hnew, hpruned⟩ hremembers
      · have hposition : (db.pruneStale time 7200).position nodeNum = none := by
          unfold position
          rw [List.findIdx?_eq_none_iff]
          intro entry hentry
          have hne := List.all_eq_true.mp hnew entry (List.mem_of_mem_filter hentry)
          simpa using hne
        have hroom : (db.pruneStale time 7200).nodes.length < MAX_NODES :=
          Nat.lt_of_lt_of_le hpruned db.nodes.length_le
        constructor
        · intro _ hforgets
          exact hnum hforgets.2.1
        · intro _ hclean
          rw [dirty_upsert hnum hposition hroom] at hclean
          cases hclean
    · rw [if_neg hpruned]
      constructor
      · intro _ hforgets
        exact hpruned hforgets.2.2.2.2
      · exact fun _ => hdb
  · rw [if_neg hfull]
    constructor
    · intro _ hforgets
      exact hfull (Bool.and_eq_true_iff.mpr ⟨hforgets.2.2.1, hforgets.2.2.2.1⟩)
    · intro _
      refine Marked.agrees (marked_upsert ?_) hdb
      exact fun _ _ => rfl

theorem agrees_learnRoute_iff {db : NodeDb} {snapshot : List KeptEntry} (hdb : db.Agrees snapshot)
    (sender : UInt32) (relayNode : UInt8) :
    ((NodeDbEdit.learnRoute sender relayNode).apply db).Agrees snapshot ↔
      ¬ (NodeDbEdit.learnRoute sender relayNode).Forgets db snapshot := by
  unfold NodeDbEdit.apply NodeDbEdit.Forgets
  change (if learnedHop sender relayNode = NO_NEXT_HOP then db
    else db.upsert sender fun entry => { entry with nextHop := learnedHop sender relayNode }).Agrees
      snapshot ↔ _
  by_cases hhop : learnedHop sender relayNode = NO_NEXT_HOP
  · rw [if_pos hhop]
    constructor
    · intro _ hforgets
      exact hforgets.2.2.1 hhop
    · exact fun _ => hdb
  · rw [if_neg hhop]
    by_cases hsame : ∀ entry, db.get sender = some entry →
        entry.nextHop = learnedHop sender relayNode
    · constructor
      · rintro _ ⟨-, -, -, entry, hentry, hne⟩
        exact hne (hsame entry hentry)
      · intro _
        refine (marked_upsert fun entry hentry => ?_).agrees hdb
        rw [← hsame entry hentry]
    · simp only [not_forall] at hsame
      obtain ⟨entry, hentry, hne⟩ := hsame
      rw [get_of_position] at hentry
      obtain ⟨idx, hposition, hidx⟩ := Option.bind_eq_some_iff.mp hentry
      by_cases hnum : sender = 0 ∨ sender = BROADCAST_ADDR
      · constructor
        · intro _ hforgets
          exact hforgets.2.1 hnum
        · intro _
          unfold upsert getOrCreate
          rw [if_pos hnum]
          exact hdb
      · have hupsert : db.upsert sender (fun entry =>
            { entry with nextHop := learnedHop sender relayNode }) =
              db.modifyAt idx fun entry =>
                { entry with nextHop := learnedHop sender relayNode } := by
          unfold upsert getOrCreate
          rw [if_neg hnum, hposition]
        rw [hupsert]
        constructor
        · rintro hagrees ⟨hclean, -⟩
          refine not_agrees_of_kept_ne hdb hclean (kept_modifyAt_ne hidx ?_) rfl hagrees
          intro hkept
          exact hne (congrArg KeptEntry.nextHop hkept).symm
        · intro hremembers hclean
          refine absurd ⟨hclean, hnum, hhop, entry, ?_, hne⟩ hremembers
          rw [get_of_position]
          exact hentry

theorem agrees_clearRoute_iff {db : NodeDb} {snapshot : List KeptEntry} (hdb : db.Agrees snapshot)
    (dest : UInt32) :
    ((NodeDbEdit.clearRoute dest).apply db).Agrees snapshot ↔
      ¬ (NodeDbEdit.clearRoute dest).Forgets db snapshot := by
  unfold NodeDbEdit.apply NodeDbEdit.Forgets
  dsimp only
  by_cases hsame : ∀ entry, db.get dest = some entry → entry.nextHop = NO_NEXT_HOP
  · constructor
    · rintro _ ⟨-, entry, hentry, hne⟩
      exact hne (hsame entry hentry)
    · intro _
      refine Marked.agrees (marked_modify fun entry hentry => ?_) hdb
      rw [← hsame entry hentry]
  · simp only [not_forall] at hsame
    obtain ⟨entry, hentry, hne⟩ := hsame
    have hget := hentry
    rw [get_of_position] at hget
    obtain ⟨idx, hposition, hidx⟩ := Option.bind_eq_some_iff.mp hget
    have hmodify : db.modify dest (fun n => { n with nextHop := NO_NEXT_HOP }) =
        db.modifyAt idx fun n => { n with nextHop := NO_NEXT_HOP } := by
      unfold modify
      rw [hposition]
    rw [hmodify]
    constructor
    · rintro hagrees ⟨hclean, -⟩
      refine not_agrees_of_kept_ne hdb hclean (kept_modifyAt_ne hidx ?_) rfl hagrees
      intro hkept
      exact hne (congrArg KeptEntry.nextHop hkept).symm
    · intro hremembers hclean
      exact absurd ⟨hclean, entry, hentry, hne⟩ hremembers

theorem agrees_reset_iff (db : NodeDb) (snapshot : List KeptEntry) (ourNodeNum : UInt32) :
    ((NodeDbEdit.reset ourNodeNum).apply db).Agrees snapshot ↔
      ¬ (NodeDbEdit.reset ourNodeNum).Forgets db snapshot := by
  unfold NodeDbEdit.apply NodeDbEdit.Forgets Agrees
  constructor
  · intro hagrees hkept
    exact hkept (hagrees rfl).nil_eq.symm
  · intro hempty _
    rw [not_not.mp hempty]
    exact List.Perm.refl _

/-- All the other edits set the flag, or change nothing that a snapshot shows. -/
theorem agrees_apply_iff {db : NodeDb} {snapshot : List KeptEntry} (hdb : db.Agrees snapshot)
    (edit : NodeDbEdit) :
    (edit.apply db).Agrees snapshot ↔ ¬ edit.Forgets db snapshot := by
  have hmarked : ∀ db', Marked db db' → (db'.Agrees snapshot ↔ ¬ False) :=
    fun db' h => ⟨fun _ => id, fun _ => h.agrees hdb⟩
  cases edit with
  | touch nodeNum time snr nowMs => exact agrees_touch_iff hdb nodeNum time snr nowMs
  | learnRoute sender relayNode => exact agrees_learnRoute_iff hdb sender relayNode
  | clearRoute dest => exact agrees_clearRoute_iff hdb dest
  | reset ourNodeNum => exact agrees_reset_iff db snapshot ourNodeNum
  | hopsAway nodeNum hops => exact hmarked _ (marked_modify fun _ _ => rfl)
  | position nodeNum pos => exact hmarked _ (marked_upsert fun _ _ => rfl)
  | deviceMetrics nodeNum metrics => exact hmarked _ (marked_upsert fun _ _ => rfl)
  | user nodeNum usr => exact hmarked _ (marked_storeUser db nodeNum usr)
  | favorite nodeNum fav => exact hmarked _ (marked_setFavorite db nodeNum fav)
  | ignored nodeNum ign => exact hmarked _ (marked_setIgnored db nodeNum ign)
  | toggleMuted nodeNum => exact hmarked _ (marked_toggleMuted db nodeNum)
  | contact shared usr => exact hmarked _ (marked_addContactToDb db shared usr)
  | remove nodeNum => exact hmarked _ (marked_remove db nodeNum)

theorem agrees_edits_iff {db : NodeDb} {snapshot : List KeptEntry} (hdb : db.Agrees snapshot)
    (edits : List NodeDbEdit) :
    (∀ t ∈ Transition.trace NodeDbEdit.apply db edits, t.after.Agrees snapshot) ↔
      Transition.Always NodeDbEdit.apply (fun db edit => ¬ edit.Forgets db snapshot) db edits := by
  induction edits generalizing db with
  | nil => exact iff_of_true (fun _ ht => nomatch ht) (fun _ ht => nomatch ht)
  | cons edit edits ih =>
      rw [Transition.always_cons, ← agrees_apply_iff hdb edit]
      constructor
      · intro hall
        have hfirst := hall ⟨db, edit, edit.apply db⟩ List.mem_cons_self
        exact ⟨hfirst, (ih hfirst).mp fun t ht => hall t (List.mem_cons_of_mem _ ht)⟩
      · rintro ⟨hfirst, hrest⟩ t ht
        rcases List.mem_cons.mp ht with rfl | ht
        · exact hfirst
        · exact (ih hfirst).mpr hrest t ht

end NodeDb

/-! ## Steps -/

variable {S : Type} [MeshStorage S] {env : Env}

namespace MeshState

/-- A step edits the database and does nothing else to it, up to the housekeeping. -/
theorem nodeDb_handled (state : MeshState S) (event : Event) :
    (handled env state event).nodeDb = state.ctx.nodeDb.edited (edits env state event) := by
  by_cases hevent : ∀ mesh, event ≠ .mesh mesh
  · exact congrArg Holdings.nodeDb (@holdings_handled_of_timer S _ env state event hevent)
  · simp only [not_forall, not_not] at hevent
    obtain ⟨mesh, rfl⟩ := hevent
    unfold handled edits
    dsimp only
    split
    · rw [(dispatch_records (noteActivity state.ctx mesh) mesh).nodeDb_eq]
      cases mesh <;> rfl
    · rfl

end MeshState

end Meshtastenstein
