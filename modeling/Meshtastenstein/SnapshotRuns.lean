import Meshtastenstein.DirtyFlag
import Meshtastenstein.MeshNetwork
import Meshtastenstein.NvsStorage
/-!
# The node database and its snapshot

A start restores the database from the bytes in storage, and the housekeeping writes it back.  A
clean database agrees with the snapshot that was written or restored last, unless an edit forgot
to set the flag, or a snapshot could not hold what was written or give back what it holds.
-/

namespace Meshtastenstein

open Lib Lib.Bytes Proto Handlers

/-! ## Restoring -/

namespace NodeDb

/-- What the snapshot in storage shows, record by record; bytes that are refused show nothing. -/
def shownIn (bytes : Option Bytes) : List KeptEntry :=
  match bytes with
  | some buf => if ((new 0).restoreSnapshot buf).2 then shownBy buf else []
  | none => []

def loaded (db : NodeDb) (bytes : Option Bytes) : NodeDb :=
  match bytes with
  | some buf => (db.restoreSnapshot buf).1
  | none => db

/-- The snapshot shows no node twice, and not the one that restores it. -/
structure Restorable (ourNodeNum : UInt32) (snapshot : List KeptEntry) : Prop where
  nodup : (snapshot.map (·.nodeNum)).Nodup
  others : ourNodeNum ∉ snapshot.map (·.nodeNum)

theorem accepted_eq (db db' : NodeDb) (buf : Bytes) :
    (db.restoreSnapshot buf).2 = (db'.restoreSnapshot buf).2 := by
  unfold restoreSnapshot
  dsimp only
  split_ifs <;> rfl

theorem restoreSnapshot_of_accepted {db : NodeDb} {buf : Bytes}
    (h : (db.restoreSnapshot buf).2 = true) :
    (buf.getD 5 0).toNat ≤ MAX_PERSISTED_NODES ∧
      (db.restoreSnapshot buf).1 =
        { db with
          nodes := restoreRecords db.ourNodeNum (db.nodes.retain (·.nodeNum == db.ourNodeNum))
            (snapshotRecords buf (buf.getD 5 0).toNat)
          dirty := false } := by
  unfold restoreSnapshot at h ⊢
  dsimp only at h ⊢
  split_ifs at h ⊢ with hlength hformat hcount
  exact ⟨Nat.not_lt.mp hcount, rfl⟩

/-- What a new database has restored is what the snapshot shows, unless it shows a node twice
or the node itself. -/
theorem perm_restored_iff {ourNodeNum : UInt32} {buf : Bytes}
    (h : ((new ourNodeNum).restoreSnapshot buf).2 = true) :
    ((new ourNodeNum).restoreSnapshot buf).1.kept.Perm (shownBy buf) ↔
      Restorable ourNodeNum (shownBy buf) := by
  have hwellFormed := (wellFormed_new ourNodeNum).restoreSnapshot buf
  obtain ⟨hcount, hrestored⟩ := restoreSnapshot_of_accepted h
  have hnodes : ((new ourNodeNum).restoreSnapshot buf).1.nodes =
      restoreRecords ourNodeNum Bounded.empty (snapshotRecords buf (buf.getD 5 0).toNat) := by
    rw [hrestored]
    rfl
  have hroom : (Bounded.empty : Bounded NodeEntry MAX_NODES).length +
      (snapshotRecords buf (buf.getD 5 0).toNat).length ≤ MAX_NODES := by
    unfold MAX_PERSISTED_NODES at hcount
    unfold snapshotRecords
    rw [List.length_map, List.length_range]
    change 0 + (buf.getD 5 0).toNat ≤ 96
    omega
  have hall := fun hnodup => @toList_restoreRecords ourNodeNum _ Bounded.empty hnodup hroom
  unfold kept shownBy
  rw [hnodes]
  generalize (snapshotRecords buf (buf.getD 5 0).toNat).filterMap decodeRecord = entries at hall ⊢
  have hnumbers : (entries.map NodeEntry.kept).map (·.nodeNum) = entries.map (·.nodeNum) :=
    List.map_map
  constructor
  · intro hperm
    have hnodup : (entries.map (·.nodeNum)).Nodup := by
      rw [← hnumbers, ← (hperm.map _).nodup_iff, List.map_map]
      have hnums := hwellFormed.nodup
      unfold numbers at hnums
      rw [hnodes] at hnums
      exact hnums
    have hlength := hperm.length_eq
    rw [hall hnodup, List.length_map, List.length_map] at hlength
    refine ⟨hnumbers ▸ hnodup, fun hours => ?_⟩
    obtain ⟨entry, hentry, hnum⟩ := List.mem_map.mp (hnumbers ▸ hours)
    have hothers := List.length_filter_eq_length_iff.mp hlength entry hentry
    exact bne_iff_ne.mp hothers hnum
  · rintro ⟨hnodup, hothers⟩
    rw [hnumbers] at hnodup hothers
    have hkeep : entries.filter (fun n => n.nodeNum != ourNodeNum) = entries :=
      List.filter_eq_self.mpr fun entry hentry =>
        bne_iff_ne.mpr fun hnum => hothers (hnum ▸ List.mem_map_of_mem hentry)
    rw [hall hnodup, hkeep]
    exact List.Perm.refl _

theorem agrees_loaded_iff (ourNodeNum : UInt32) (bytes : Option Bytes) :
    ((new ourNodeNum).loaded bytes).Agrees (shownIn bytes) ↔
      Restorable ourNodeNum (shownIn bytes) := by
  have hnothing : (new ourNodeNum).Agrees [] ↔ Restorable ourNodeNum [] :=
    iff_of_true (fun _ => List.Perm.refl _) ⟨List.nodup_nil, List.not_mem_nil⟩
  cases bytes with
  | none => exact hnothing
  | some buf =>
      unfold loaded shownIn
      dsimp only
      rw [accepted_eq (new 0) (new ourNodeNum)]
      cases haccepted : ((new ourNodeNum).restoreSnapshot buf).2 with
      | false =>
          have hsame : (new ourNodeNum).restoreSnapshot buf = (new ourNodeNum, false) := by
            rcases (new ourNodeNum).restoreSnapshot_cases buf with hleft | hrestored
            · exact hleft
            · rw [hrestored] at haccepted
              cases haccepted
          rw [hsame]
          exact hnothing
      | true =>
          have hclean : ((new ourNodeNum).restoreSnapshot buf).1.dirty = false := by
            rw [(restoreSnapshot_of_accepted haccepted).2]
          rw [if_pos rfl, ← perm_restored_iff haccepted]
          exact ⟨fun hagrees => hagrees hclean, fun hperm _ => hperm⟩

end NodeDb

/-- A storage that hands out the bytes of the snapshot, which are restored into the database. -/
class SnapshotStorage (S : Type) [MeshStorage S] where
  loadNodeDbInternal : S → Option Bytes
  loadNodeDb_eq : ∀ (storage : S) (db : NodeDb),
    MeshStorage.loadNodeDb storage db = db.loaded (loadNodeDbInternal storage)

instance {F : Type} [NorFlash F] {baseOffset : Nat} :
    SnapshotStorage (NvsStorage F baseOffset) where
  loadNodeDbInternal s := s.loadSector NODEDB_SECTOR SNAPSHOT_BYTES
  loadNodeDb_eq _ _ := rfl

instance : SnapshotStorage FakeStorage where
  loadNodeDbInternal _ := none
  loadNodeDb_eq _ _ := rfl

/-! ## Writing back -/

variable {S : Type} [MeshStorage S] {env : Env}

namespace MeshState

def snapshotOfSave (ctx : MeshCtx S) (snapshot : List KeptEntry) : List KeptEntry :=
  if (MeshStorage.saveNodeDb ctx.storage ctx.nodeDb).2 then NodeDb.shownBy ctx.nodeDb.toSnapshot
  else snapshot

def FlushWrites (state : MeshState S) : Prop :=
  (state.ctx.nodeDb.dirty ∧ NODE_DB_FLUSH_INTERVAL_MS ≤ state.ctx.now - state.lastNodeDbFlush) ∧
    (MeshStorage.saveNodeDb state.ctx.storage state.ctx.nodeDb).2 = true

def ShutdownWrites (state : MeshState S) : Prop :=
  (state.ctx.shutdownAfterSecs.isSome ∧ state.ctx.nodeDb.dirty) ∧
    (MeshStorage.saveNodeDb state.ctx.storage state.ctx.nodeDb).2 = true

def snapshotOfFlush (state : MeshState S) (snapshot : List KeptEntry) : List KeptEntry :=
  if state.ctx.nodeDb.dirty ∧
      NODE_DB_FLUSH_INTERVAL_MS ≤ state.ctx.now - state.lastNodeDbFlush then
    snapshotOfSave state.ctx snapshot
  else snapshot

def snapshotOfShutdown (state : MeshState S) (snapshot : List KeptEntry) : List KeptEntry :=
  if state.ctx.shutdownAfterSecs.isSome ∧ state.ctx.nodeDb.dirty then
    snapshotOfSave state.ctx snapshot
  else snapshot

def beforeFlush (env : Env) (state : MeshState S) (event : Event) : MeshState S :=
  state.withCtx (handled env state event)

/-- The housekeeping of the step writes the database. -/
def Writes (env : Env) (state : MeshState S) (event : Event) : Prop :=
  state.started = true ∧ (∃ mesh, event = .mesh mesh) ∧
    (FlushWrites (beforeFlush env state event) ∨
      ShutdownWrites (flushNodeDb (beforeFlush env state event)))

/-- The context after the housekeeping, before the node may restart. -/
def tended (env : Env) (state : MeshState S) (event : Event) : MeshCtx S :=
  match event with
  | .mesh mesh => if state.started then (housed env state mesh).ctx else state.ctx
  | _ => handled env state event

/-- What the snapshot shows after the housekeeping. -/
def snapshotTended (env : Env) (state : MeshState S) (snapshot : List KeptEntry)
    (event : Event) : List KeptEntry :=
  match event with
  | .mesh _ =>
      if state.started then
        snapshotOfShutdown (flushNodeDb (beforeFlush env state event))
          (snapshotOfFlush (beforeFlush env state event) snapshot)
      else snapshot
  | _ => snapshot

theorem ctx_step_eq_tended {state : MeshState S} {event : Event}
    (h : restarts env state event = false) :
    (step env state event).ctx = tended env state event := by
  unfold tended
  cases event with
  | mesh mesh =>
      dsimp only
      by_cases hstarted : state.started = true
      · rw [if_pos hstarted, step_eq_housed hstarted h]
      · rw [if_neg hstarted]
        unfold step
        dsimp only
        rw [if_neg hstarted]
  | _ => exact step_of_timer h (by intro mesh hmesh; cases hmesh)

theorem agrees_saveNodeDb_iff {ctx : MeshCtx S} {snapshot : List KeptEntry}
    (h : ctx.nodeDb.Agrees snapshot) :
    (saveNodeDb ctx).nodeDb.Agrees (snapshotOfSave ctx snapshot) ↔
      ((MeshStorage.saveNodeDb ctx.storage ctx.nodeDb).2 = true → ctx.nodeDb.IsWhole) := by
  unfold saveNodeDb snapshotOfSave
  dsimp only
  split
  · rename_i hsaved
    rw [← NodeDb.perm_shownBy_iff]
    exact ⟨fun hagrees _ => hagrees rfl, fun hperm _ => hperm hsaved⟩
  · rename_i hfailed
    exact iff_of_true h fun hsaved => absurd hsaved hfailed

theorem agrees_flushNodeDb_iff {state : MeshState S} {snapshot : List KeptEntry}
    (h : state.ctx.nodeDb.Agrees snapshot) :
    (flushNodeDb state).ctx.nodeDb.Agrees (snapshotOfFlush state snapshot) ↔
      (FlushWrites state → state.ctx.nodeDb.IsWhole) := by
  unfold flushNodeDb snapshotOfFlush FlushWrites
  split
  · rename_i hdue
    exact (agrees_saveNodeDb_iff h).trans
      ⟨fun hwhole hflushes => hwhole hflushes.2, fun hwhole hsaved => hwhole ⟨hdue, hsaved⟩⟩
  · rename_i hdue
    exact iff_of_true h fun hflushes => absurd hflushes.1 hdue

theorem agrees_handleShutdown_iff {state : MeshState S} {snapshot : List KeptEntry}
    (h : state.ctx.nodeDb.Agrees snapshot) :
    (handleShutdown state).ctx.nodeDb.Agrees (snapshotOfShutdown state snapshot) ↔
      (ShutdownWrites state → state.ctx.nodeDb.IsWhole) := by
  unfold handleShutdown snapshotOfShutdown ShutdownWrites
  cases state.ctx.shutdownAfterSecs with
  | none => exact iff_of_true h fun hsaves => nomatch hsaves.1.1
  | some secs =>
      dsimp only [Option.isSome_some]
      by_cases hdirty : state.ctx.nodeDb.dirty = true
      · rw [if_pos hdirty, if_pos ⟨rfl, hdirty⟩]
        have hcleared : (MeshCtx.nodeDb { state.ctx with shutdownAfterSecs := none }).Agrees
            snapshot := h
        exact (agrees_saveNodeDb_iff hcleared).trans
          ⟨fun hwhole hsaves => hwhole hsaves.2, fun hwhole hsaved =>
            hwhole ⟨⟨rfl, hdirty⟩, hsaved⟩⟩
      · rw [if_neg hdirty, if_neg fun hboth => hdirty hboth.2]
        exact iff_of_true h fun hsaves => absurd hsaves.1.2 hdirty

theorem agrees_handleShutdown_of_clean {state : MeshState S} (snapshot : List KeptEntry)
    (hclean : state.ctx.nodeDb.dirty = false) :
    (handleShutdown state).ctx.nodeDb.Agrees (snapshotOfShutdown state snapshot) ↔
      state.ctx.nodeDb.Agrees snapshot := by
  unfold handleShutdown snapshotOfShutdown
  rw [hclean, if_neg fun h => nomatch h.2]
  split
  · dsimp only
    rw [hclean]
    rfl
  · rfl

theorem clean_of_flushWrites {state : MeshState S} (h : FlushWrites state) :
    (flushNodeDb state).ctx.nodeDb.dirty = false := by
  unfold flushNodeDb
  rw [if_pos h.1]
  dsimp only
  rw [nodeDb_saveNodeDb_of_ok h.2]
  rfl

theorem nodes_flushNodeDb (state : MeshState S) :
    (flushNodeDb state).ctx.nodeDb.nodes = state.ctx.nodeDb.nodes := by
  unfold flushNodeDb saveNodeDb
  split
  · dsimp only
    split <;> rfl
  · rfl

theorem isWhole_flushNodeDb_iff (state : MeshState S) :
    (flushNodeDb state).ctx.nodeDb.IsWhole ↔ state.ctx.nodeDb.IsWhole := by
  have hnodes := nodes_flushNodeDb state
  have hkept : (flushNodeDb state).ctx.nodeDb.kept = state.ctx.nodeDb.kept :=
    congrArg (fun nodes => nodes.toList.map NodeEntry.kept) hnodes
  have hlen : (flushNodeDb state).ctx.nodeDb.len = state.ctx.nodeDb.len :=
    congrArg Bounded.length hnodes
  constructor
  · rintro ⟨hle, hentries⟩
    exact ⟨hlen ▸ hle, hkept ▸ hentries⟩
  · rintro ⟨hle, hentries⟩
    exact ⟨hlen ▸ hle, hkept ▸ hentries⟩

/-- The housekeeping keeps the agreement unless it writes a database that a snapshot cannot
show. -/
theorem agrees_housekept_iff {state : MeshState S} {snapshot : List KeptEntry}
    (h : state.ctx.nodeDb.Agrees snapshot) :
    (handleShutdown (flushNodeDb state)).ctx.nodeDb.Agrees
        (snapshotOfShutdown (flushNodeDb state) (snapshotOfFlush state snapshot)) ↔
      (FlushWrites state ∨ ShutdownWrites (flushNodeDb state) → state.ctx.nodeDb.IsWhole) := by
  have hflushed := agrees_flushNodeDb_iff h
  by_cases hwrites : FlushWrites state
  · rw [agrees_handleShutdown_of_clean _ (clean_of_flushWrites hwrites), hflushed]
    exact ⟨fun hwhole _ => hwhole hwrites, fun hwhole hflush => hwhole (Or.inl hflush)⟩
  · rw [agrees_handleShutdown_iff (hflushed.mpr fun hflush => absurd hflush hwrites),
      isWhole_flushNodeDb_iff, or_iff_right hwrites]

theorem agrees_tended_iff {state : MeshState S} {snapshot : List KeptEntry} {event : Event}
    (h : (handled env state event).nodeDb.Agrees snapshot) :
    (tended env state event).nodeDb.Agrees (snapshotTended env state snapshot event) ↔
      (Writes env state event → (handled env state event).nodeDb.IsWhole) := by
  unfold tended snapshotTended Writes
  cases event with
  | mesh event =>
      dsimp only
      by_cases hstarted : state.started = true
      · rw [if_pos hstarted, if_pos hstarted]
        refine (@agrees_housekept_iff S _ (beforeFlush env state (.mesh event)) _ h).trans ?_
        exact ⟨fun hwhole hwrites => hwhole hwrites.2.2,
          fun hwhole hwrites => hwhole ⟨hstarted, ⟨event, rfl⟩, hwrites⟩⟩
      · rw [if_neg hstarted, if_neg hstarted]
        refine iff_of_true ?_ fun hwrites => absurd hwrites.1 hstarted
        unfold handled at h
        dsimp only at h
        rw [if_neg hstarted] at h
        exact h
  | _ => exact iff_of_true h fun hwrites => nomatch hwrites.2.1

/-! ## Whole runs -/

variable [SnapshotStorage S]

/-- What the snapshot that a restart finds in storage shows. -/
def snapshotReopened (env : Env) (state : MeshState S) (event : Event) : List KeptEntry :=
  NodeDb.shownIn (SnapshotStorage.loadNodeDbInternal (reopened env state event))

/-- What the snapshot shows after a step: the housekeeping may write one, a restart restores
one. -/
def snapshotAfter (env : Env) (state : MeshState S) (snapshot : List KeptEntry) (event : Event) :
    List KeptEntry :=
  if restarts env state event then snapshotReopened env state event
  else snapshotTended env state snapshot event

theorem agrees_boot_iff (mac : Bytes) (storage : S) (pkcKeypair : Key × Key)
    (entropy : Nat → UInt32) :
    (boot env mac storage pkcKeypair entropy).ctx.nodeDb.Agrees
        (NodeDb.shownIn (SnapshotStorage.loadNodeDbInternal storage)) ↔
      NodeDb.Restorable (DeviceState.nodeNumOfMac mac)
        (NodeDb.shownIn (SnapshotStorage.loadNodeDbInternal storage)) := by
  have hloaded : (boot env mac storage pkcKeypair entropy).ctx.nodeDb =
      (NodeDb.new (DeviceState.nodeNumOfMac mac)).loaded
        (SnapshotStorage.loadNodeDbInternal storage) := by
    rw [← SnapshotStorage.loadNodeDb_eq]
    exact congrArg (fun num => MeshStorage.loadNodeDb storage (NodeDb.new num))
      (loadState_myNodeNum env storage (DeviceState.new mac))
  rw [hloaded]
  exact NodeDb.agrees_loaded_iff _ _

theorem agrees_restarted_iff {num : UInt32} {state : MeshState S} {event : Event}
    (hnumbered : IsNumbered num state) (h : restarts env state event = true) :
    (step env state event).ctx.nodeDb.Agrees (snapshotReopened env state event) ↔
      NodeDb.Restorable num (snapshotReopened env state event) := by
  have hnum := (@IsNumbered.step S _ env num state hnumbered event).myNodeNum_eq
  rw [nodeDb_of_restarts h, SnapshotStorage.loadNodeDb_eq, hnum]
  exact NodeDb.agrees_loaded_iff num _

end MeshState

/-- A node, and what is shown by the snapshot that was written or restored last. -/
structure SnapshotRun (S : Type) where
  state : MeshState S
  snapshot : List KeptEntry

namespace SnapshotRun

variable [SnapshotStorage S]

def step (env : Env) (run : SnapshotRun S) (event : MeshState.Event) : SnapshotRun S where
  state := run.state.step env event
  snapshot := run.state.snapshotAfter env run.snapshot event

def boot (env : Env) (mac : Bytes) (storage : S) (pkcKeypair : Key × Key)
    (entropy : Nat → UInt32) : SnapshotRun S where
  state := MeshState.boot env mac storage pkcKeypair entropy
  snapshot := NodeDb.shownIn (SnapshotStorage.loadNodeDbInternal storage)

/-- After each edit, after the housekeeping and after a restart, a clean database agrees with
the snapshot. -/
structure KeepsFlag (env : Env) (run : SnapshotRun S) (event : MeshState.Event) : Prop where
  edits : ∀ t ∈ Transition.trace NodeDbEdit.apply run.state.ctx.nodeDb
    (run.state.edits env event), t.after.Agrees run.snapshot
  tended : (run.state.tended env event).nodeDb.Agrees
    (run.state.snapshotTended env run.snapshot event)
  after : (run.step env event).state.ctx.nodeDb.Agrees (run.step env event).snapshot

/-- No edit of the step forgets the flag, a database that is written after the edits is whole,
and so is what a restart can restore. -/
structure Remembers (env : Env) (run : SnapshotRun S) (event : MeshState.Event) : Prop where
  edits : Transition.Always NodeDbEdit.apply (fun db edit => ¬ edit.Forgets db run.snapshot)
    run.state.ctx.nodeDb (run.state.edits env event)
  whole : run.state.Writes env event →
    (run.state.ctx.nodeDb.edited (run.state.edits env event)).IsWhole
  restorable : run.state.restarts env event = true →
    NodeDb.Restorable run.state.ctx.device.myNodeNum (run.state.snapshotReopened env event)

theorem after_iff {num : UInt32} {run : SnapshotRun S} (hnumbered : run.state.IsNumbered num)
    {event : MeshState.Event} (htended : (run.state.tended env event).nodeDb.Agrees
      (run.state.snapshotTended env run.snapshot event)) :
    (run.step env event).state.ctx.nodeDb.Agrees (run.step env event).snapshot ↔
      (run.state.restarts env event = true →
        NodeDb.Restorable run.state.ctx.device.myNodeNum
          (run.state.snapshotReopened env event)) := by
  unfold step MeshState.snapshotAfter
  cases hrestarts : run.state.restarts env event with
  | true =>
      rw [if_pos rfl, hnumbered.myNodeNum_eq]
      exact (MeshState.agrees_restarted_iff hnumbered hrestarts).trans
        ⟨fun h _ => h, fun h => h rfl⟩
  | false =>
      rw [if_neg Bool.false_ne_true]
      dsimp only
      rw [MeshState.ctx_step_eq_tended hrestarts]
      exact iff_of_true htended fun h => nomatch h

theorem keepsFlag_iff {num : UInt32} {run : SnapshotRun S}
    (h : run.state.ctx.nodeDb.Agrees run.snapshot) (hnumbered : run.state.IsNumbered num)
    (event : MeshState.Event) : KeepsFlag env run event ↔ Remembers env run event := by
  have hlater : ∀ (db : NodeDb) (edit : NodeDbEdit), db.Agrees run.snapshot →
      ¬ edit.Forgets db run.snapshot → (edit.apply db).Agrees run.snapshot :=
    fun db edit hdb => (NodeDb.agrees_apply_iff hdb edit).mpr
  have htended : Transition.Always NodeDbEdit.apply
      (fun db edit => ¬ edit.Forgets db run.snapshot) run.state.ctx.nodeDb
        (run.state.edits env event) →
      ((run.state.tended env event).nodeDb.Agrees
          (run.state.snapshotTended env run.snapshot event) ↔
        (run.state.Writes env event →
          (run.state.ctx.nodeDb.edited (run.state.edits env event)).IsWhole)) := by
    intro hremembers
    have hedited := Transition.invariant_run hlater h hremembers
    have hhandled := @MeshState.nodeDb_handled S _ env run.state event
    rw [← hhandled]
    exact MeshState.agrees_tended_iff (hhandled ▸ hedited)
  constructor
  · intro hkeeps
    have hedits := (NodeDb.agrees_edits_iff h _).mp hkeeps.edits
    exact ⟨hedits, (htended hedits).mp hkeeps.tended,
      (after_iff hnumbered hkeeps.tended).mp hkeeps.after⟩
  · intro hremembers
    have hagrees := (htended hremembers.edits).mpr hremembers.whole
    exact ⟨(NodeDb.agrees_edits_iff h _).mpr hremembers.edits, hagrees,
      (after_iff hnumbered hagrees).mpr hremembers.restorable⟩

/-- In every run a clean database agrees with the snapshot exactly as long as no edit forgets the
flag, what is written fits in a snapshot, and what is restored is all that the snapshot shows. -/
theorem keepsFlag_run_iff (env : Env) (mac : Bytes) (storage : S) (pkcKeypair : Key × Key)
    (entropy : Nat → UInt32) (events : List MeshState.Event) :
    let run := boot env mac storage pkcKeypair entropy
    run.state.ctx.nodeDb.Agrees run.snapshot ∧
        Transition.Always (step env) (KeepsFlag env) run events ↔
      NodeDb.Restorable (DeviceState.nodeNumOfMac mac) run.snapshot ∧
        Transition.Always (step env) (Remembers env) run events := by
  intro run
  have hboot : run.state.ctx.nodeDb.Agrees run.snapshot ↔
      NodeDb.Restorable (DeviceState.nodeNumOfMac mac) run.snapshot :=
    MeshState.agrees_boot_iff mac storage pkcKeypair entropy
  rw [← hboot]
  refine and_congr_right fun hagrees => ?_
  have hiff : ∀ (run : SnapshotRun S) (event : MeshState.Event),
      run.state.ctx.nodeDb.Agrees run.snapshot ∧
        run.state.IsNumbered (DeviceState.nodeNumOfMac mac) →
      (KeepsFlag env run event ↔ Remembers env run event) :=
    fun _ event hrun => keepsFlag_iff hrun.1 hrun.2 event
  refine Transition.always_congr hiff (fun run event hrun hremembers => ?_)
    ⟨hagrees, MeshState.isNumbered_boot mac storage pkcKeypair entropy⟩
  exact ⟨((hiff run event hrun).mpr hremembers).after, hrun.2.step event⟩

def forgetNodes : Bytes := [0x0a, 0x09, 0x22, 0x07, 0x08, 0x06, 0x12, 0x03, 0xa0, 0x06, 0x01]

/-- Node `0x11223344` is heard and flushed, then the database is reset. -/
def resetRun : SnapshotRun FakeStorage :=
  Transition.run (step KnownAnswers.defaultKey.adminEnv)
    (boot KnownAnswers.defaultKey.adminEnv KnownAnswers.mac {} KnownAnswers.noKeypair
      KnownAnswers.noEntropy)
    [.announce, .mesh (.loraRx FromRadio.strangerAck ⟨0, 0⟩), .elapse 300000,
      .mesh .bleConnected, .mesh (.bleRx forgetNodes)]

/-- The snapshot still has the node that the database has forgotten without a mark. -/
theorem resetRun_forgets_flag :
    resetRun.state.ctx.nodeDb.dirty = false ∧
      resetRun.state.ctx.nodeDb.get 0x11223344 = none ∧
      resetRun.snapshot.map (·.nodeNum) = [0x11223344] := by decide +kernel

end SnapshotRun

end Meshtastenstein
