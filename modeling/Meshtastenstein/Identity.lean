import Meshtastenstein.MeshNetwork
import Meshtastenstein.Upkeep
/-!
# One identity for the life of a device

A board makes a key pair when it first starts and finds it on flash ever after.  Nothing that
the mesh task does with the storage touches that record, not even a factory reset, so whenever
and however a node restarts, it comes back as who it was.
-/

namespace Meshtastenstein

open Lib Lib.NorFlash Lib.WorkingFlash Handlers

variable {S : Type} [MeshStorage S] {env : Env}

namespace MeshState

theorem keys_step (state : MeshState S) (event : Event) :
    (step env state event).ctx.keys = state.ctx.keys ∧
      (step env state event).ctx.device.mac = state.ctx.device.mac := by
  obtain ⟨hmac, -, hbadge⟩ := @identity_handled S _ env state event
  have hkeys : (handled env state event).keys = state.ctx.keys := congrArg Prod.fst hbadge
  cases hrestarts : restarts env state event with
  | false =>
      obtain ⟨houtgoing, -⟩ := outgoing_of_housekept (step_of_not_restarts hrestarts)
      simp only [MeshCtx.outgoing, Prod.mk.injEq] at houtgoing
      obtain ⟨-, hmac', -, hbadge', -⟩ := houtgoing
      exact ⟨(congrArg Prod.fst hbadge').trans hkeys, hmac'.trans hmac⟩
  | true =>
      obtain ⟨housed, hkept, hreboot⟩ := step_of_restarts hrestarts
      obtain ⟨houtgoing, -⟩ := outgoing_of_housekept hkept
      simp only [MeshCtx.outgoing, Prod.mk.injEq] at houtgoing
      obtain ⟨-, hmac', -, hbadge', -⟩ := houtgoing
      rw [hreboot]
      refine ⟨(congrArg Prod.fst hbadge').trans hkeys, ?_⟩
      calc
        (reboot env housed).ctx.device.mac = housed.ctx.device.mac :=
          loadState_mac env _ (DeviceState.new housed.ctx.device.mac)
        _ = state.ctx.device.mac := hmac'.trans hmac

end MeshState

/-! ## Starting up -/

namespace NvsStorage

variable {medium : Medium} {F : Type} [WorkingFlash medium F] {partition : Partition F}

/-- What a board starts with: the key pair on flash, or one made of a random seed and saved.  A
key pair that cannot be saved stops the start. -/
def startKeypair (env : Env) (storage : partition.Storage) (seed : Key) :
    Option ((Key × Key) × partition.Storage) :=
  match storage.loadPkcKeypair with
  | some keypair => some (keypair, storage)
  | none =>
      let keypair := keypairFromSeed env.crypto seed
      let (storage, saved) := storage.savePkcKeypair keypair
      if saved then some (keypair, storage) else none

/-- The start of a board: the storage is opened, the key pair settled, and the mesh task boots. -/
def startUp (env : Env) (partition : Partition F) (mac : Bytes) (flash : F) (seed : Key)
    (entropy : Nat → UInt32) : Option (MeshState partition.Storage) :=
  (startKeypair env (opened partition flash) seed).map fun started =>
    MeshState.boot env mac started.2 started.1 entropy

theorem startKeypair_of_load {storage : partition.Storage} {keypair : Key × Key}
    (h : storage.loadPkcKeypair = some keypair) (seed : Key) :
    startKeypair env storage seed = some (keypair, storage) := by
  unfold startKeypair
  rw [h]

/-- A board starts with a key pair that it will find on flash again. -/
theorem startKeypair_saved (storage : partition.Storage) {seed : Key} (hseed : seed.isSet = true) :
    ∃ keypair storage', startKeypair env storage seed = some (keypair, storage') ∧
      storage'.loadPkcKeypair = some keypair := by
  cases hload : storage.loadPkcKeypair with
  | some keypair => exact ⟨keypair, storage, startKeypair_of_load hload seed, hload⟩
  | none =>
      let keypair := keypairFromSeed env.crypto seed
      have hsaved : (storage.savePkcKeypair keypair).2 = true :=
        saveSector_ok (by decide) (by rw [length_encodePkcKeypair]; decide)
          (by rw [length_encodePkcKeypair]; decide)
      refine ⟨keypair, (storage.savePkcKeypair keypair).1, ?_, ?_⟩
      · unfold startKeypair
        rw [hload]
        exact if_pos hsaved
      · have hset : keypair.1.isSet = true := hseed
        calc
          (storage.savePkcKeypair keypair).1.loadPkcKeypair =
              (some keypair).filter fun keypair => keypair.1.isSet :=
            congrArg SavedRecords.keypair (@records_savePkcKeypair _ _ _ _ storage keypair)
          _ = some keypair := by rw [Option.filter_some, if_pos hset]

/-! ## Every start is the same -/

theorem loadPkcKeypair_perform {nodes : Bounded NodeEntry MAX_NODES}
    {storage : partition.Storage} {op : StorageOp} (h : op.IsUpkeep nodes) :
    (op.perform storage).loadPkcKeypair = storage.loadPkcKeypair := by
  have hrecord := congrArg SavedRecords.keypair (@records_perform _ _ _ _ storage op)
  cases op with
  | savePkcKeypair keypair => exact h.elim
  | _ => exact hrecord

theorem loadPkcKeypair_of_tended {nodes : Bounded NodeEntry MAX_NODES}
    {storage storage' : partition.Storage} (h : Tended nodes storage storage') :
    storage'.loadPkcKeypair = storage.loadPkcKeypair := by
  obtain ⟨ops, hops, rfl⟩ := h
  induction ops generalizing storage with
  | nil => rfl
  | cons op ops ih =>
      calc
        (Transition.run StorageOp.perform (op.perform storage) ops).loadPkcKeypair =
            (op.perform storage).loadPkcKeypair :=
          ih fun op hop => hops op (List.mem_cons_of_mem _ hop)
        _ = storage.loadPkcKeypair := loadPkcKeypair_perform (hops op List.mem_cons_self)

structure Settled (mac : Bytes) (keypair : Key × Key) (state : MeshState partition.Storage) :
    Prop where
  onFlash : state.ctx.storage.loadPkcKeypair = some keypair
  keys_eq : state.ctx.keys = keypair
  mac_eq : state.ctx.device.mac = mac

theorem Settled.step {mac : Bytes} {keypair : Key × Key} {state : MeshState partition.Storage}
    (h : Settled mac keypair state) {event : MeshState.Event}
    (hsized : ∀ mesh, event = .mesh mesh → mesh.Sized) :
    Settled mac keypair (MeshState.step env state event) := by
  obtain ⟨hkeys, hmac⟩ := @MeshState.keys_step _ _ env state event
  exact ⟨(loadPkcKeypair_of_tended (MeshState.tended_step state hsized)).trans h.onFlash,
    hkeys.trans h.keys_eq, hmac.trans h.mac_eq⟩

theorem Settled.startUp_eq {mac : Bytes} {keypair : Key × Key}
    {state : MeshState partition.Storage} (h : Settled mac keypair state) (seed : Key) :
    startUp env partition mac state.ctx.storage.flash seed state.ctx.entropy =
      some (MeshState.reboot env state) := by
  have hload : (opened partition state.ctx.storage.flash).loadPkcKeypair = some keypair :=
    (loadPkcKeypair_congr (state.ctx.storage.agreeOn_reopen (by decide))).trans h.onFlash
  unfold startUp MeshState.reboot
  rw [startKeypair_of_load hload, h.mac_eq, ← h.keys_eq]
  rfl

/-- From whatever is on a flash that works a board starts, and stays who it is: after any run
of the mesh task, restarts and factory resets included, the node has the keys it started with and
the address of its board, and a new start, at any moment and with any seed, is its restart. -/
theorem identity_run (env : Env) (partition : Partition F) (mac : Bytes) (flash : F) {seed : Key}
    (hseed : seed.isSet = true) (entropy : Nat → UInt32) (events : List MeshState.Event)
    (hsized : ∀ mesh, .mesh mesh ∈ events → mesh.Sized) :
    ∃ state, startUp env partition mac flash seed entropy = some state ∧
      let after := Transition.run (MeshState.step env) state events
      after.ctx.keys = state.ctx.keys ∧ after.ctx.device.mac = mac ∧
      ∀ seed', startUp env partition mac after.ctx.storage.flash seed' after.ctx.entropy =
        some (MeshState.reboot env after) := by
  obtain ⟨keypair, storage, hstart, hload⟩ :=
    @startKeypair_saved env _ _ _ _ (opened partition flash) seed hseed
  refine ⟨MeshState.boot env mac storage keypair entropy, ?_, ?_⟩
  · unfold startUp
    rw [hstart]
    rfl
  intro after
  have hsettled : Settled mac keypair (MeshState.boot env mac storage keypair entropy) :=
    ⟨hload, rfl, loadState_mac env storage (DeviceState.new mac)⟩
  have hafter : Settled mac keypair after := by
    refine @Transition.invariant_run _ _ (MeshState.step env) (Settled mac keypair)
      (fun _ event => ∀ mesh, event = .mesh mesh → mesh.Sized)
      (fun _ _ hbefore hok => hbefore.step hok) _ events hsettled ?_
    intro t ht mesh hmesh
    exact hsized mesh (hmesh ▸ Transition.event_mem_of_mem_trace ht)
  exact ⟨hafter.keys_eq.trans hsettled.keys_eq.symm, hafter.mac_eq, hafter.startUp_eq⟩

def someSeed : Key := ⟨List.replicate 32 7, rfl⟩

/-- A node introduces itself, is paired with a phone, which resets it, and loses its power. -/
def lifetime : List MeshState.Event :=
  [.announce, .mesh (.bondSave (List.replicate BOND_SIZE 0)), .mesh (.bleRx resetNode), .announce,
    .powerCycle]

theorem lifetime_identity :
    ∃ state, startUp KnownAnswers.defaultKey.adminEnv (@wholeFlash Medium.nor) KnownAnswers.mac
        blankImage someSeed KnownAnswers.noEntropy = some state ∧
      let after := Transition.run (MeshState.step KnownAnswers.defaultKey.adminEnv) state lifetime
      after.ctx.keys = state.ctx.keys ∧ after.ctx.device.mac = KnownAnswers.mac ∧
      ∀ seed', startUp KnownAnswers.defaultKey.adminEnv (@wholeFlash Medium.nor)
        KnownAnswers.mac after.ctx.storage.flash seed' after.ctx.entropy =
          some (MeshState.reboot KnownAnswers.defaultKey.adminEnv after) := by
  refine identity_run _ _ _ _ (by decide) _ lifetime ?_
  intro mesh hmesh bytes hbytes
  subst hbytes
  simp only [lifetime, List.mem_cons, MeshState.Event.mesh.injEq, reduceCtorEq,
    MeshEvent.bondSave.injEq, List.not_mem_nil, or_false, false_or] at hmesh
  rw [hmesh, List.length_replicate]

end NvsStorage

end Meshtastenstein
