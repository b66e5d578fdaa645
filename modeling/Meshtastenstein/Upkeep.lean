import Meshtastenstein.FlashRecords
import Meshtastenstein.NodeDbEntries
/-!
# Upkeep of the storage

What the mesh task does with the storage in a step, as operations on it: it buffers and drains
frames, saves settings, bonds and the nodes it knows, and never touches the key pair.
-/

namespace Meshtastenstein

open Lib Handlers

variable {S : Type} [MeshStorage S] {env : Env}

/-- An operation of the mesh task, which has these nodes on record: it saves no key pair and no
other nodes. -/
def StorageOp.IsUpkeep (nodes : Bounded NodeEntry MAX_NODES) : StorageOp → Prop
  | .savePkcKeypair _ => False
  | .saveNodeDb db => db.nodes = nodes
  | _ => True

def Tended (nodes : Bounded NodeEntry MAX_NODES) (storage storage' : S) : Prop :=
  ∃ ops : List StorageOp, (∀ op ∈ ops, op.IsUpkeep nodes) ∧
    storage' = Transition.run StorageOp.perform storage ops

namespace Tended

variable {nodes : Bounded NodeEntry MAX_NODES} {storage storage' storage'' : S}

theorem refl (storage : S) : Tended nodes storage storage := ⟨[], by simp, rfl⟩

theorem of_op (op : StorageOp) (h : op.IsUpkeep nodes) :
    Tended nodes storage (op.perform storage) := ⟨[op], by simpa using h, rfl⟩

theorem trans (h : Tended nodes storage storage') (h' : Tended nodes storage' storage'') :
    Tended nodes storage storage'' := by
  obtain ⟨ops, hops, rfl⟩ := h
  obtain ⟨ops', hops', rfl⟩ := h'
  refine ⟨ops ++ ops', ?_, (Transition.run_append _ _ _).symm⟩
  intro op hop
  rcases List.mem_append.mp hop with hop | hop
  · exact hops op hop
  · exact hops' op hop

theorem of_configured (h : Configured storage storage') : Tended nodes storage storage' := by
  cases h with
  | kept => exact refl storage
  | saved config => exact of_op (.saveConfig config) trivial
  | erased => exact (of_op .eraseConfig trivial).trans (of_op .clearBond trivial)

end Tended

def MeshEvent.Sized (event : MeshEvent) : Prop :=
  ∀ bytes, event = .bondSave bytes → bytes.length = BOND_SIZE

namespace Handlers

variable {nodes : Bounded NodeEntry MAX_NODES}

theorem tended_drained (remaining : Nat) (storage : S) :
    Tended nodes storage (FromApp.drained remaining storage) := by
  induction remaining generalizing storage with
  | zero => exact .refl storage
  | succ remaining ih =>
      unfold FromApp.drained
      split
      · exact (Tended.of_op .pop trivial).trans (ih _)
      · exact .refl storage

theorem tended_kept (ctx : MeshCtx S) {event : MeshEvent} (h : MeshEvent.Sized event) :
    Tended nodes ctx.storage (kept env ctx event) := by
  cases event with
  | loraRx frame metadata =>
      unfold kept FromRadio.bufferedStorage FromRadio.bufferText
      dsimp only
      split
      · split
        · exact .of_op (.add frame) trivial
        · exact .refl _
      · exact .refl _
  | bleRx bytes =>
      unfold kept FromApp.replayedStorage
      dsimp only
      split
      · exact tended_drained _ _
      · exact .refl _
  | bondSave bytes => exact .of_op (.saveBond bytes (h bytes rfl)) trivial
  | bondClear => exact .of_op .clearBond trivial
  | _ => exact .refl _

end Handlers

namespace MeshState

theorem tended_saveNodeDb (ctx : MeshCtx S) :
    Tended ctx.nodeDb.nodes ctx.storage (saveNodeDb ctx).storage :=
  .of_op (.saveNodeDb ctx.nodeDb) rfl

theorem tended_flushNodeDb (state : MeshState S) :
    Tended state.ctx.nodeDb.nodes state.ctx.storage (flushNodeDb state).ctx.storage := by
  unfold flushNodeDb
  split
  · exact tended_saveNodeDb state.ctx
  · exact .refl _

theorem tended_handleShutdown (state : MeshState S) :
    Tended state.ctx.nodeDb.nodes state.ctx.storage (handleShutdown state).ctx.storage := by
  unfold handleShutdown
  split
  · dsimp only
    split
    · exact tended_saveNodeDb { state.ctx with shutdownAfterSecs := none }
    · exact .refl _
  · exact .refl _

theorem tended_handled {nodes : Bounded NodeEntry MAX_NODES} (state : MeshState S) {event : Event}
    (h : ∀ mesh, event = .mesh mesh → mesh.Sized) :
    Tended nodes state.ctx.storage (handled env state event).storage := by
  by_cases hmesh : ∃ mesh, event = .mesh mesh
  · obtain ⟨mesh, rfl⟩ := hmesh
    have hkept := @tended_kept S _ env nodes (noteActivity state.ctx mesh) mesh (h mesh rfl)
    have hconfigured := (@dispatch_records S _ env (noteActivity state.ctx mesh) mesh).configured
    have hsame : (noteActivity state.ctx mesh).storage = state.ctx.storage := by
      cases mesh <;> rfl
    unfold handled
    dsimp only
    split
    · rw [hsame] at hkept
      exact hkept.trans (.of_configured hconfigured)
    · exact .refl _
  · have hholdings := @holdings_handled_of_timer S _ env state event
      fun mesh hevent => hmesh ⟨mesh, hevent⟩
    rw [show (handled env state event).storage = state.ctx.storage from
      congrArg Holdings.storage hholdings]
    exact .refl _

/-- Whatever a step does with the storage, no key pair is saved, and of the other nodes only
what is known of them after the work of the step. -/
theorem tended_step (state : MeshState S) {event : Event}
    (h : ∀ mesh, event = .mesh mesh → mesh.Sized) :
    Tended (handled env state event).nodeDb.nodes state.ctx.storage
      (step env state event).ctx.storage := by
  have hhandled := @tended_handled S _ env (handled env state event).nodeDb.nodes state event h
  by_cases hmesh : ∃ mesh, event = .mesh mesh
  · obtain ⟨mesh, rfl⟩ := hmesh
    cases hstarted : state.started with
    | false =>
        unfold step
        dsimp only
        rw [hstarted]
        exact .refl _
    | true =>
        have hflushed := hhandled.trans
          (tended_flushNodeDb (state.withCtx (handled env state (.mesh mesh))))
        have hshut := tended_handleShutdown
          (flushNodeDb (state.withCtx (handled env state (.mesh mesh))))
        rw [(sameEntries_flushNodeDb _).1] at hshut
        have hhoused : Tended (handled env state (.mesh mesh)).nodeDb.nodes state.ctx.storage
            (housed env state mesh).ctx.storage := hflushed.trans hshut
        unfold step
        dsimp only
        rw [if_pos hstarted, handleEvent_eq mesh hstarted]
        split
        · exact hhoused.trans (.of_op .reopen trivial)
        · exact hhoused
  · cases hrestarts : restarts env state event with
    | false =>
        rw [step_of_timer hrestarts fun mesh hevent => hmesh ⟨mesh, hevent⟩]
        exact hhandled
    | true =>
        cases event with
        | powerCycle => exact .of_op .reopen trivial
        | mesh mesh => exact absurd ⟨mesh, rfl⟩ hmesh
        | _ => cases hrestarts

end MeshState

end Meshtastenstein
