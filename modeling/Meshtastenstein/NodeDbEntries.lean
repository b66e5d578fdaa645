import Meshtastenstein.DirtyFlag
import Meshtastenstein.NodeDbOperations
import Meshtastenstein.NvsStorage
/-!
# The entries over a run

A step edits the entries and the housekeeping leaves them alone; a restart puts those of a
snapshot in their place.  What every edit and every snapshot keeps up holds of the entries of
every reachable node database.
-/

namespace Meshtastenstein

open Lib Lib.Bytes Proto Handlers

namespace NodeDb

/-! ## What holds of every entry -/

def Forall (P : NodeEntry → Prop) (db : NodeDb) : Prop := ∀ entry ∈ db.nodes.toList, P entry

namespace Forall

variable {P : NodeEntry → Prop} {db : NodeDb}

theorem of_subset {db' : NodeDb} (h : Forall P db) (hsub : db'.nodes.toList ⊆ db.nodes.toList) :
    Forall P db' :=
  fun entry hentry => h entry (hsub hentry)

theorem modifyAt (h : Forall P db) (idx : Nat) {f : NodeEntry → NodeEntry}
    (hf : ∀ entry, P entry → P (f entry)) : Forall P (db.modifyAt idx f) := by
  intro entry hentry
  obtain ⟨i, hi⟩ := List.mem_iff_getElem?.mp hentry
  change (db.nodes.toList.modify idx f)[i]? = some entry at hi
  rw [List.getElem?_modify] at hi
  obtain ⟨old, hold, hentry⟩ := Option.map_eq_some_iff.mp hi
  have hknown := h old (List.mem_of_getElem? hold)
  by_cases hidx : idx = i
  · rw [if_pos hidx] at hentry
    rw [← hentry]
    exact hf old hknown
  · rw [if_neg hidx] at hentry
    rw [← hentry]
    exact hknown

theorem getOrCreate (h : Forall P db) {nodeNum : UInt32}
    (hnew : ¬ (nodeNum = 0 ∨ nodeNum = BROADCAST_ADDR) → P { nodeNum := nodeNum })
    {db' : NodeDb} {idx : Nat} (hcreate : db.getOrCreate nodeNum = some (db', idx)) :
    Forall P db' := by
  have hnum := (getOrCreate_cases hcreate).1
  unfold NodeDb.getOrCreate at hcreate
  rw [if_neg hnum] at hcreate
  split at hcreate
  · cases hcreate
    exact h
  · by_cases hroom : db.nodes.length < MAX_NODES
    · rw [Bounded.push_of_lt _ _ hroom] at hcreate
      cases hcreate
      intro entry hentry
      rcases List.mem_append.mp hentry with hold | hfresh
      · exact h entry hold
      · rw [List.mem_singleton.mp hfresh]
        exact hnew hnum
    · rw [Bounded.push_of_full _ _ hroom] at hcreate
      cases hcreate

theorem upsert (h : Forall P db) {nodeNum : UInt32}
    (hnew : ¬ (nodeNum = 0 ∨ nodeNum = BROADCAST_ADDR) → P { nodeNum := nodeNum })
    {f : NodeEntry → NodeEntry} (hf : ∀ entry, P entry → P (f entry)) :
    Forall P (db.upsert nodeNum f) := by
  unfold NodeDb.upsert
  split
  · rename_i created idx hcreate
    exact (h.getOrCreate hnew hcreate).modifyAt idx hf
  · exact h

theorem modify (h : Forall P db) (nodeNum : UInt32) {f : NodeEntry → NodeEntry}
    (hf : ∀ entry, P entry → P (f entry)) : Forall P (db.modify nodeNum f) := by
  unfold NodeDb.modify
  split
  · exact h.modifyAt _ hf
  · exact h

theorem pruneStale (h : Forall P db) (nowSecs maxAgeSecs : UInt32) :
    Forall P (db.pruneStale nowSecs maxAgeSecs) :=
  h.of_subset (List.filter_subset_self _)

theorem touch (h : Forall P db) {nodeNum : UInt32} (time : UInt32) (snr : Option Int8) (nowMs : Nat)
    (hnew : ¬ (nodeNum = 0 ∨ nodeNum = BROADCAST_ADDR) → P { nodeNum := nodeNum })
    (hf : ∀ entry : NodeEntry, P entry →
      P { entry with lastHeard := time, snr := snr.or entry.snr, lastSeenMs := nowMs }) :
    Forall P (db.touch nodeNum time snr nowMs) := by
  unfold NodeDb.touch
  dsimp only
  split
  · split
    · exact (h.pruneStale time 7200).upsert hnew hf
    · exact h
  · exact h.upsert hnew hf

theorem remove (h : Forall P db) (nodeNum : UInt32) : Forall P (db.remove nodeNum) := by
  unfold NodeDb.remove
  split
  · rename_i idx hposition
    obtain ⟨hidx, -⟩ := List.findIdx?_eq_some_iff_getElem.mp hposition
    have hperm := Bounded.perm_swapRemove db.nodes idx hidx
    exact h.of_subset fun entry hentry => hperm.mem_iff.mpr (List.mem_cons_of_mem _ hentry)
  · exact h

theorem updateUser (h : Forall P db) {nodeNum : UInt32}
    (hnew : ¬ (nodeNum = 0 ∨ nodeNum = BROADCAST_ADDR) → P { nodeNum := nodeNum }) {user : User}
    (hf : ∀ entry : NodeEntry, P entry → P { entry with user := some user }) :
    Forall P (db.updateUser nodeNum user) := by
  unfold NodeDb.updateUser
  split
  · rename_i created idx hcreate
    exact (h.getOrCreate hnew hcreate).modifyAt idx hf
  · exact h

theorem updatePubKey (h : Forall P db) {nodeNum : UInt32}
    (hnew : ¬ (nodeNum = 0 ∨ nodeNum = BROADCAST_ADDR) → P { nodeNum := nodeNum }) {key : Key}
    (hf : ∀ entry : NodeEntry, P entry → P { entry with pubKey := some key }) :
    Forall P (db.updatePubKey nodeNum key) := by
  unfold NodeDb.updatePubKey
  split
  · rename_i created idx hcreate
    exact (h.getOrCreate hnew hcreate).modifyAt idx hf
  · exact h

theorem storeUser (h : Forall P db) {sender : UInt32}
    (hnew : ¬ (sender = 0 ∨ sender = BROADCAST_ADDR) → P { nodeNum := sender }) {user : User}
    (hkey : ∀ key : Key, key.isSet = true → ∀ entry : NodeEntry, P entry →
      P { entry with pubKey := some key })
    (huser : ∀ entry : NodeEntry, P entry → P { entry with user := some user }) :
    Forall P (FromRadio.storeUser db sender user) := by
  unfold FromRadio.storeUser
  dsimp only
  split
  · rename_i key hfound
    have hset := (Option.filter_eq_some_iff.mp hfound).2
    exact (h.updatePubKey hnew (hkey key hset)).updateUser hnew huser
  · exact h.updateUser hnew huser

theorem setFavorite (h : Forall P db) (nodeNum : UInt32) {favorite : Bool}
    (hf : ∀ entry : NodeEntry, P entry → P { entry with isFavorite := favorite }) :
    Forall P (db.setFavorite nodeNum favorite) := by
  unfold NodeDb.setFavorite
  split
  · exact h.modifyAt _ hf
  · exact h

theorem setIgnored (h : Forall P db) (nodeNum : UInt32) {ignored : Bool}
    (hf : ∀ entry : NodeEntry, P entry →
      P { entry with
          isIgnored := ignored
          position := if ignored then none else entry.position
          pubKey := if ignored then none else entry.pubKey }) :
    Forall P (db.setIgnored nodeNum ignored) := by
  unfold NodeDb.setIgnored
  split
  · exact h.modifyAt _ hf
  · exact h

theorem toggleMuted (h : Forall P db) (nodeNum : UInt32)
    (hf : ∀ entry : NodeEntry, P entry → P { entry with isMuted := !entry.isMuted }) :
    Forall P (db.toggleMuted nodeNum) := by
  unfold NodeDb.toggleMuted
  split
  · exact h.modifyAt _ hf
  · exact h

theorem markContact (h : Forall P db) (contact : SharedContact)
    (hfavorite : ∀ favorite (entry : NodeEntry), P entry →
      P { entry with isFavorite := favorite })
    (hignored : ∀ entry : NodeEntry, P entry →
      P { entry with isIgnored := true, position := none, pubKey := none }) :
    Forall P
      (if contact.shouldIgnore then
        (db.markDirty.setIgnored contact.nodeNum true).setFavorite contact.nodeNum false
      else db.markDirty.setFavorite contact.nodeNum true) := by
  have hdirty : Forall P db.markDirty := h
  have hmarked := @setIgnored P db.markDirty hdirty contact.nodeNum true hignored
  split
  · exact hmarked.setFavorite _ (hfavorite false)
  · exact hdirty.setFavorite _ (hfavorite true)

theorem addContactToDb (h : Forall P db) {contact : SharedContact}
    (hnew : ¬ (contact.nodeNum = 0 ∨ contact.nodeNum = BROADCAST_ADDR) →
      P { nodeNum := contact.nodeNum }) {user : User}
    (huser : ∀ entry : NodeEntry, P entry → P { entry with user := some user })
    (hkey : ∀ key : Key, key.isSet = true → ∀ entry : NodeEntry, P entry →
      P { entry with pubKey := some key })
    (hfavorite : ∀ favorite (entry : NodeEntry), P entry →
      P { entry with isFavorite := favorite })
    (hignored : ∀ entry : NodeEntry, P entry →
      P { entry with isIgnored := true, position := none, pubKey := none }) :
    Forall P (Admin.addContactToDb db contact user) := by
  unfold Admin.addContactToDb
  split
  · exact h
  · rename_i created idx hcreate
    have hcreated := (h.getOrCreate hnew hcreate).modifyAt idx huser
    refine markContact ?_ contact hfavorite hignored
    split
    · rename_i key hfound
      exact hcreated.updatePubKey hnew (hkey key (Option.filter_eq_some_iff.mp hfound).2)
    · exact hcreated

theorem edited (h : Forall P db) {edits : List NodeDbEdit}
    (hedit : ∀ edit ∈ edits, ∀ db : NodeDb, Forall P db → Forall P (edit.apply db)) :
    Forall P (db.edited edits) := by
  induction edits generalizing db with
  | nil => exact h
  | cons edit edits ih =>
      have hfirst := hedit edit List.mem_cons_self db h
      exact ih hfirst fun later hlater => hedit later (List.mem_cons_of_mem _ hlater)

theorem restoreRecords {ourNodeNum : UInt32} {nodes : Bounded NodeEntry MAX_NODES}
    {records : List Bytes} (h : ∀ entry ∈ nodes.toList, P entry)
    (hread : ∀ record ∈ records, ∀ entry, decodeRecord record = some entry → P entry) :
    ∀ entry ∈ (NodeDb.restoreRecords ourNodeNum nodes records).toList, P entry := by
  induction records generalizing nodes with
  | nil => exact h
  | cons record records ih =>
      have hlater : ∀ record ∈ records, ∀ entry, decodeRecord record = some entry → P entry :=
        fun later hlater => hread later (List.mem_cons_of_mem _ hlater)
      unfold NodeDb.restoreRecords
      split
      · rename_i entry hentry
        split
        · by_cases hroom : nodes.length < MAX_NODES
          · rw [Bounded.push_of_lt _ _ hroom]
            refine ih (fun known hknown => ?_) hlater
            rcases List.mem_append.mp hknown with hold | hnew
            · exact h known hold
            · rw [List.mem_singleton.mp hnew]
              exact hread record List.mem_cons_self entry hentry
          · rw [Bounded.push_of_full _ _ hroom]
            exact h
        · exact ih h hlater
      · exact ih h hlater

theorem restoreSnapshot (h : Forall P db) {buf : Bytes}
    (hread : ∀ record ∈ snapshotRecords buf (buf.getD 5 0).toNat,
      ∀ entry, decodeRecord record = some entry → P entry) :
    Forall P (db.restoreSnapshot buf).1 := by
  rcases db.restoreSnapshot_cases buf with hleft | hrestored
  · rw [hleft]
    exact h
  · rw [hrestored]
    exact restoreRecords (fun entry hentry => h entry (List.mem_of_mem_filter hentry)) hread

end Forall

theorem forall_new {P : NodeEntry → Prop} (ourNodeNum : UInt32) : Forall P (new ourNodeNum) :=
  fun _ hentry => absurd hentry List.not_mem_nil

/-! ## Edits keep the numbers in order -/

theorem WellFormed.self {ourNodeNum : UInt32} {db : NodeDb} (h : db.WellFormed ourNodeNum) :
    db.WellFormed db.ourNodeNum := by
  rw [h.own]
  exact h

theorem WellFormed.storeUser {ourNodeNum : UInt32} {db : NodeDb} (h : db.WellFormed ourNodeNum)
    (sender : UInt32) (user : User) :
    (FromRadio.storeUser db sender user).WellFormed ourNodeNum := by
  unfold FromRadio.storeUser
  dsimp only
  split
  · exact (h.updatePubKey sender _).updateUser sender user
  · exact h.updateUser sender user

theorem WellFormed.addContactToDb {ourNodeNum : UInt32} {db : NodeDb} (h : db.WellFormed ourNodeNum)
    (contact : SharedContact) (user : User) :
    (Admin.addContactToDb db contact user).WellFormed ourNodeNum := by
  have hmarked : ∀ stored : NodeDb, stored.WellFormed ourNodeNum → WellFormed ourNodeNum
      (if contact.shouldIgnore then
        (stored.markDirty.setIgnored contact.nodeNum true).setFavorite contact.nodeNum false
      else stored.markDirty.setFavorite contact.nodeNum true) := by
    intro stored hstored
    split
    · exact (hstored.markDirty.setIgnored contact.nodeNum true).setFavorite contact.nodeNum false
    · exact hstored.markDirty.setFavorite contact.nodeNum true
  unfold Admin.addContactToDb
  split
  · exact h
  · rename_i created idx hcreate
    have hcreated := (h.getOrCreate hcreate).modifyAt idx
      (f := fun n => { n with user := some user }) fun _ => rfl
    refine hmarked _ ?_
    split
    · exact hcreated.updatePubKey contact.nodeNum _
    · exact hcreated

theorem WellFormed.edit {ourNodeNum : UInt32} {db : NodeDb} (h : db.WellFormed ourNodeNum)
    (edit : NodeDbEdit) : (edit.apply db).WellFormed (edit.apply db).ourNodeNum := by
  cases edit with
  | touch nodeNum time snr nowMs => exact (h.touch nodeNum time snr nowMs).self
  | hopsAway nodeNum hops =>
      have hedited : ((NodeDbEdit.hopsAway nodeNum hops).apply db).WellFormed ourNodeNum :=
        h.modify nodeNum fun _ => rfl
      exact hedited.self
  | position nodeNum pos =>
      have hedited : ((NodeDbEdit.position nodeNum pos).apply db).WellFormed ourNodeNum :=
        h.upsert nodeNum fun _ => rfl
      exact hedited.self
  | user nodeNum usr => exact (h.storeUser nodeNum usr).self
  | deviceMetrics nodeNum metrics =>
      have hedited : ((NodeDbEdit.deviceMetrics nodeNum metrics).apply db).WellFormed ourNodeNum :=
        h.upsert nodeNum fun _ => rfl
      exact hedited.self
  | learnRoute sender relayNode =>
      have hlearned := h.learnRoute (MeshRouter.new ourNodeNum) sender relayNode
      exact hlearned.self
  | clearRoute dest =>
      have hedited : ((NodeDbEdit.clearRoute dest).apply db).WellFormed ourNodeNum :=
        h.modify dest fun _ => rfl
      exact hedited.self
  | favorite nodeNum fav => exact (h.setFavorite nodeNum fav).self
  | ignored nodeNum ign => exact (h.setIgnored nodeNum ign).self
  | toggleMuted nodeNum => exact (h.toggleMuted nodeNum).self
  | contact shared usr => exact (h.addContactToDb shared usr).self
  | remove nodeNum => exact (h.remove nodeNum).self
  | reset ourNodeNum => exact (wellFormed_new ourNodeNum).self

theorem WellFormed.edited {db : NodeDb} (h : db.WellFormed db.ourNodeNum)
    (edits : List NodeDbEdit) : (db.edited edits).WellFormed (db.edited edits).ourNodeNum := by
  induction edits generalizing db with
  | nil => exact h
  | cons edit edits ih => exact ih (h.edit edit)

end NodeDb

/-! ## Steps -/

/-- What a storage loads is the database it was given, or a snapshot restored into it. -/
def LoadsSnapshots (S : Type) [MeshStorage S] : Prop :=
  ∀ (storage : S) (db : NodeDb), MeshStorage.loadNodeDb storage db = db ∨
    ∃ buf, MeshStorage.loadNodeDb storage db = (db.restoreSnapshot buf).1

theorem loadsSnapshots_fake : LoadsSnapshots FakeStorage := fun _ _ => Or.inl rfl

theorem loadsSnapshots_nvs {F : Type} [NorFlash F] {baseOffset : Nat} :
    LoadsSnapshots (NvsStorage F baseOffset) := by
  intro storage db
  change storage.loadNodeDb db = db ∨ ∃ buf, storage.loadNodeDb db = (db.restoreSnapshot buf).1
  unfold NvsStorage.loadNodeDb
  split
  · exact Or.inr ⟨_, rfl⟩
  · exact Or.inl rfl

def NodeDb.SameEntries (db db' : NodeDb) : Prop :=
  db'.nodes = db.nodes ∧ db'.ourNodeNum = db.ourNodeNum

namespace MeshState

variable {S : Type} [MeshStorage S] {env : Env}

theorem sameEntries_saveNodeDb (ctx : MeshCtx S) :
    ctx.nodeDb.SameEntries (saveNodeDb ctx).nodeDb := by
  unfold saveNodeDb
  dsimp only
  split <;> exact ⟨rfl, rfl⟩

theorem sameEntries_flushNodeDb (state : MeshState S) :
    state.ctx.nodeDb.SameEntries (flushNodeDb state).ctx.nodeDb := by
  rw [ctx_flushNodeDb]
  split
  · exact sameEntries_saveNodeDb state.ctx
  · exact ⟨rfl, rfl⟩

theorem sameEntries_handleShutdown (state : MeshState S) :
    state.ctx.nodeDb.SameEntries (handleShutdown state).ctx.nodeDb := by
  rw [ctx_handleShutdown]
  unfold withoutShutdown
  dsimp only
  split
  · exact sameEntries_saveNodeDb state.ctx
  · exact ⟨rfl, rfl⟩

theorem sameEntries_housed (state : MeshState S) (event : MeshEvent) :
    (handled env state (.mesh event)).nodeDb.SameEntries (housed env state event).ctx.nodeDb := by
  have hflushed := sameEntries_flushNodeDb (state.withCtx (handled env state (.mesh event)))
  have hshutdown :=
    sameEntries_handleShutdown (flushNodeDb (state.withCtx (handled env state (.mesh event))))
  exact ⟨hshutdown.1.trans hflushed.1, hshutdown.2.trans hflushed.2⟩

theorem sameEntries_step {state : MeshState S} {event : Event}
    (h : restarts env state event = false) :
    (state.ctx.nodeDb.edited (edits env state event)).SameEntries
      (step env state event).ctx.nodeDb := by
  rw [← nodeDb_handled]
  cases event with
  | mesh event =>
      cases hstarted : state.started with
      | true =>
          rw [step_eq_housed hstarted h]
          exact sameEntries_housed state event
      | false =>
          unfold step handled
          dsimp only
          rw [hstarted]
          exact ⟨rfl, rfl⟩
  | _ =>
      rw [step_of_timer h (by intro mesh hmesh; cases hmesh)]
      exact ⟨rfl, rfl⟩

theorem nodeDb_boot (hloads : LoadsSnapshots S) (mac : Bytes) (storage : S)
    (pkcKeypair : Key × Key) (entropy : Nat → UInt32) :
    ∃ ourNodeNum, (boot env mac storage pkcKeypair entropy).ctx.nodeDb = NodeDb.new ourNodeNum ∨
      ∃ buf, (boot env mac storage pkcKeypair entropy).ctx.nodeDb =
        ((NodeDb.new ourNodeNum).restoreSnapshot buf).1 :=
  ⟨_, hloads storage _⟩

theorem wellFormed_boot (hloads : LoadsSnapshots S) (mac : Bytes) (storage : S)
    (pkcKeypair : Key × Key) (entropy : Nat → UInt32) :
    let db := (boot env mac storage pkcKeypair entropy).ctx.nodeDb
    db.WellFormed db.ourNodeNum := by
  obtain ⟨ourNodeNum, hnew | ⟨buf, hrestored⟩⟩ :=
    @nodeDb_boot S _ env hloads mac storage pkcKeypair entropy
  · dsimp only
    rw [hnew]
    exact NodeDb.wellFormed_new ourNodeNum
  · dsimp only
    rw [hrestored]
    exact ((NodeDb.wellFormed_new ourNodeNum).restoreSnapshot buf).self

theorem wellFormed_nodeDb_step (hloads : LoadsSnapshots S) {state : MeshState S}
    (h : state.ctx.nodeDb.WellFormed state.ctx.nodeDb.ourNodeNum) (event : Event) :
    (step env state event).ctx.nodeDb.WellFormed (step env state event).ctx.nodeDb.ourNodeNum := by
  cases hrestarts : restarts env state event with
  | true =>
      obtain ⟨housed, -, hstep⟩ := step_of_restarts hrestarts
      rw [hstep]
      exact wellFormed_boot hloads _ _ _ _
  | false =>
      obtain ⟨hnodes, hown⟩ := sameEntries_step hrestarts
      have hedited := h.edited (edits env state event)
      have hnumbers : (step env state event).ctx.nodeDb.numbers =
          (state.ctx.nodeDb.edited (edits env state event)).numbers := by
        unfold NodeDb.numbers
        rw [hnodes]
      exact (hedited.of_numbers_eq hown hnumbers).self

/-- In every reachable state the database has one entry for each node and none under a reserved
number. -/
theorem wellFormed_nodeDb (hloads : LoadsSnapshots S) (mac : Bytes) (storage : S)
    (pkcKeypair : Key × Key) (entropy : Nat → UInt32) (events : List Event) :
    let db := (after env mac storage pkcKeypair entropy events).ctx.nodeDb
    db.WellFormed db.ourNodeNum :=
  @Transition.invariant_run _ _ (step env)
    (fun state => state.ctx.nodeDb.WellFormed state.ctx.nodeDb.ourNodeNum) (fun _ _ => True)
    (fun _ event hstate _ => wellFormed_nodeDb_step hloads hstate event) _ _
    (wellFormed_boot hloads mac storage pkcKeypair entropy) fun _ _ => trivial

theorem forall_boot {P : NodeEntry → Prop} (hloads : LoadsSnapshots S)
    (hread : ∀ record entry, decodeRecord record = some entry → P entry) (mac : Bytes)
    (storage : S) (pkcKeypair : Key × Key) (entropy : Nat → UInt32) :
    (boot env mac storage pkcKeypair entropy).ctx.nodeDb.Forall P := by
  obtain ⟨ourNodeNum, hnew | ⟨buf, hrestored⟩⟩ :=
    @nodeDb_boot S _ env hloads mac storage pkcKeypair entropy
  · rw [hnew]
    exact NodeDb.forall_new ourNodeNum
  · rw [hrestored]
    exact (NodeDb.forall_new ourNodeNum).restoreSnapshot fun record _ => hread record

theorem forall_nodeDb_step {P : NodeEntry → Prop} (hloads : LoadsSnapshots S)
    (hread : ∀ record entry, decodeRecord record = some entry → P entry) {state : MeshState S}
    {event : Event} (hedit : ∀ edit ∈ edits env state event, ∀ db : NodeDb, db.Forall P →
      (edit.apply db).Forall P)
    (h : state.ctx.nodeDb.Forall P) : (step env state event).ctx.nodeDb.Forall P := by
  cases hrestarts : restarts env state event with
  | true =>
      obtain ⟨housed, -, hstep⟩ := step_of_restarts hrestarts
      rw [hstep]
      exact forall_boot hloads hread _ _ _ _
  | false =>
      obtain ⟨hnodes, -⟩ := sameEntries_step hrestarts
      intro entry hentry
      rw [hnodes] at hentry
      exact h.edited hedit entry hentry

theorem forall_nodeDb {P : NodeEntry → Prop} (hloads : LoadsSnapshots S)
    (hread : ∀ record entry, decodeRecord record = some entry → P entry)
    (hedit : ∀ (state : MeshState S) event, ∀ edit ∈ edits env state event, ∀ db : NodeDb,
      db.Forall P → (edit.apply db).Forall P)
    (mac : Bytes) (storage : S) (pkcKeypair : Key × Key) (entropy : Nat → UInt32)
    (events : List Event) :
    (after env mac storage pkcKeypair entropy events).ctx.nodeDb.Forall P :=
  @Transition.preserved_run _ _ (step env) (fun state => state.ctx.nodeDb.Forall P)
    (fun state event => forall_nodeDb_step hloads hread (hedit state event)) _
    (forall_boot hloads hread mac storage pkcKeypair entropy) events

end MeshState

end Meshtastenstein
