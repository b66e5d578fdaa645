import Meshtastenstein.AdminSession
import Meshtastenstein.Bonds
import Meshtastenstein.Delivery
import Meshtastenstein.MessageRing
/-!
# Factory resets

A factory reset erases the settings, the bond and the other nodes and restarts the node.
The database in memory and the message ring are left alone, and a flush may come between.
-/

namespace Meshtastenstein

open Lib Lib.NorFlash Lib.WorkingFlash Proto Handlers

variable {medium : Medium} {F : Type} [WorkingFlash medium F] {partition : Partition F}

/-! ## Erased records -/

theorem decodeConfig_erased : decodeConfig (List.replicate CONFIG_SIZE 0xff) = none := by
  unfold decodeConfig
  rw [if_pos (Or.inr (by decide))]

theorem restoreSnapshot_erased (db : NodeDb) :
    (db.restoreSnapshot (List.replicate SNAPSHOT_BYTES 0xff)).1 = db := by
  have hversion : (List.replicate SNAPSHOT_BYTES (0xff : UInt8)).getD 4 0 ≠ SNAPSHOT_VERSION := by
    decide
  unfold NodeDb.restoreSnapshot
  dsimp only
  split
  · rfl
  · rw [if_pos (Or.inr hversion)]

namespace NvsStorage

variable {s s' : partition.Storage}

def wiped (s : partition.Storage) : partition.Storage := s.eraseConfig.clearBond

theorem agreeOn_wiped {sector : Nat} (hconfig : sector ≠ CONFIG_SECTOR)
    (hnodeDb : sector ≠ NODEDB_SECTOR) (hbond : sector ≠ BOND_SECTOR) :
    AgreeOn sector s s.wiped :=
  ((agreeOn_eraseSector (by decide) hconfig).trans
    (agreeOn_eraseSector (by decide) hnodeDb)).trans (agreeOn_eraseSector (by decide) hbond)

theorem loadConfig_wiped (s : partition.Storage) : s.wiped.loadConfig = none := by
  have hkept : AgreeOn CONFIG_SECTOR (s.eraseSector CONFIG_SECTOR) s.wiped :=
    (agreeOn_eraseSector (by decide) (by decide)).trans
      (agreeOn_eraseSector (by decide) (by decide))
  unfold loadConfig
  rw [hkept.loadSector_eq (by decide) (by decide) (by decide),
    loadSector_eraseSector (by decide) (by decide) (by decide)]
  exact decodeConfig_erased

theorem loadBond_wiped (s : partition.Storage) : s.wiped.loadBond = none :=
  s.eraseConfig.loadBond_clearBond

theorem loadNodeDb_wiped (s : partition.Storage) (db : NodeDb) : s.wiped.loadNodeDb db = db := by
  have hkept : AgreeOn NODEDB_SECTOR s.eraseConfig s.wiped :=
    agreeOn_eraseSector (by decide) (by decide)
  unfold loadNodeDb
  rw [hkept.loadSector_eq (by decide) (by decide) (by decide)]
  unfold eraseConfig
  rw [loadSector_eraseSector (by decide) (by decide) (by decide)]
  exact restoreSnapshot_erased db

/-! ## Restarts -/

/-- Nothing is buffered on a flash without a ring, or with an empty one. -/
theorem queue_reopen_eq_nil_iff (s : partition.Storage) :
    s.reopen.queue = [] ↔ ∀ header, s.headerOnFlash = some header → header.count = 0 := by
  cases hheader : s.headerOnFlash with
  | none =>
      refine iff_of_true ?_ fun header h => nomatch h
      rw [reopen_of_no_header hheader]
      rfl
  | some header =>
      obtain ⟨-, hring, -⟩ := reopen_of_header hheader
      have hcount : s.reopen.ring.count = header.count := congrArg RingHeader.count hring
      rw [← List.length_eq_zero_iff]
      unfold queue
      rw [List.length_map, CircularQueue.length_toList, hcount]
      exact ⟨fun h other hother => Option.some.inj hother ▸ h, fun h => h header rfl⟩

/-- Building the adapter anew leaves the other sectors alone. -/
theorem agreeOn_reopen (s : partition.Storage) {sector : Nat} (h : sector ≠ STORAGE_SECTOR) :
    AgreeOn sector s s.reopen := by
  cases hheader : s.headerOnFlash with
  | none =>
      rw [reopen_of_no_header hheader]
      intro i hi
      have hwords := s.words_header
      rw [← length_encodeRingHeader MessageRing.empty.header] at hwords
      refine (cells_write s.flash _ _ _ hwords).trans (if_neg ?_)
      rw [length_encodeRingHeader]
      change ¬ (s.sectorOffset STORAGE_SECTOR ≤ s.sectorOffset sector + i ∧
        s.sectorOffset sector + i < s.sectorOffset STORAGE_SECTOR + RING_HEADER_SIZE)
      unfold sectorOffset RING_HEADER_SIZE
      unfold SECTOR_SIZE at hi ⊢
      omega
  | some header =>
      obtain ⟨hflash, -⟩ := reopen_of_header hheader
      intro i _
      rw [hflash]
      rfl

theorem loadConfig_reopen (s : partition.Storage) : s.reopen.loadConfig = s.loadConfig := by
  unfold loadConfig
  rw [(s.agreeOn_reopen (by decide)).loadSector_eq (by decide) (by decide) (by decide)]

theorem loadNodeDb_reopen (s : partition.Storage) (db : NodeDb) :
    s.reopen.loadNodeDb db = s.loadNodeDb db := by
  unfold loadNodeDb
  rw [(s.agreeOn_reopen (by decide)).loadSector_eq (by decide) (by decide) (by decide)]

end NvsStorage

/-! ## Resets -/

variable {env : Env}

def Resets (env : Env) (state : MeshState partition.Storage) (event : MeshEvent)
    (noted : MeshCtx partition.Storage) : Prop :=
  ∃ request full, SessionRun.called env state (.mesh event) = some (noted, request) ∧
    Admin.command env noted request.bytes request.viaLora = some (.factoryResetConfig full)

/-- Nothing of the previous owner is on flash when the node restarts, and it comes up as the
first time. -/
structure Final (env : Env) (state : MeshState partition.Storage) (event : MeshEvent) :
    Prop where
  restarts : MeshState.restarts env state (.mesh event) = true
  noConfig : (MeshState.housed env state event).ctx.storage.loadConfig = none
  noBond : (MeshState.housed env state event).ctx.storage.loadBond = none
  noNodes : let fresh := NodeDb.new (DeviceState.new state.ctx.device.mac).myNodeNum
    ((MeshState.housed env state event).ctx.storage.loadNodeDb fresh).nodes = Bounded.empty
  noMessages : (MeshState.housed env state event).ctx.storage.reopen.queue = []
  device : (MeshState.step env state (.mesh event)).ctx.device =
    DeviceState.new state.ctx.device.mac
  nodeDb : (MeshState.step env state (.mesh event)).ctx.nodeDb =
    NodeDb.new (DeviceState.new state.ctx.device.mac).myNodeNum
  messages : (MeshState.step env state (.mesh event)).ctx.storage.queue = []

/-- No message is buffered on flash, and no flush with another node comes before the
restart. -/
structure Clean (noted : MeshCtx partition.Storage) (lastNodeDbFlush : Nat) : Prop where
  messages : ∀ header, noted.storage.headerOnFlash = some header → header.count = 0
  nodes : MeshState.Flushes noted lastNodeDbFlush →
    ∀ entry ∈ noted.nodeDb.persisted,
      entry.nodeNum = (DeviceState.new noted.device.mac).myNodeNum ∨ entry.nodeNum = 0 ∨
        entry.nodeNum = BROADCAST_ADDR

def leftBehind (noted : MeshCtx partition.Storage) (lastNodeDbFlush : Nat) : partition.Storage :=
  if MeshState.Flushes noted lastNodeDbFlush then
    (noted.storage.wiped.saveNodeDb noted.nodeDb).1
  else noted.storage.wiped

section

variable {noted : MeshCtx partition.Storage} {lastNodeDbFlush : Nat}

theorem agreeOn_leftBehind {sector : Nat} (h : sector ≠ NODEDB_SECTOR) :
    NvsStorage.AgreeOn sector noted.storage.wiped (leftBehind noted lastNodeDbFlush) := by
  unfold leftBehind
  split
  · exact NvsStorage.agreeOn_saveNodeDb _ h
  · exact fun _ _ => rfl

theorem loadConfig_leftBehind : (leftBehind noted lastNodeDbFlush).loadConfig = none := by
  have hwiped := noted.storage.loadConfig_wiped
  unfold NvsStorage.loadConfig at hwiped ⊢
  rwa [(agreeOn_leftBehind (by decide)).loadSector_eq (by decide) (by decide) (by decide)]

theorem loadBond_leftBehind : (leftBehind noted lastNodeDbFlush).loadBond = none :=
  (agreeOn_leftBehind (by decide)).loadBond_eq.trans noted.storage.loadBond_wiped

theorem headerOnFlash_leftBehind :
    (leftBehind noted lastNodeDbFlush).headerOnFlash = noted.storage.headerOnFlash :=
  (NvsStorage.headerOnFlash_congr (agreeOn_leftBehind (by decide))).trans
    (NvsStorage.headerOnFlash_congr
      (NvsStorage.agreeOn_wiped (by decide) (by decide) (by decide)))

theorem loadState_leftBehind (device : DeviceState) :
    loadState env (MeshStorage.reopen (leftBehind noted lastNodeDbFlush)) device = device := by
  have hload : MeshStorage.loadConfig (MeshStorage.reopen
      (leftBehind noted lastNodeDbFlush)) = none :=
    (NvsStorage.loadConfig_reopen _).trans loadConfig_leftBehind
  unfold loadState
  rw [hload]

theorem loadNodeDb_leftBehind (ourNodeNum : UInt32) :
    (leftBehind noted lastNodeDbFlush).loadNodeDb (NodeDb.new ourNodeNum) =
        NodeDb.new ourNodeNum ↔
      (MeshState.Flushes noted lastNodeDbFlush →
        ∀ entry ∈ noted.nodeDb.persisted, entry.nodeNum = ourNodeNum ∨ entry.nodeNum = 0 ∨
          entry.nodeNum = BROADCAST_ADDR) := by
  unfold leftBehind
  split
  · rename_i hflushes
    rw [NvsStorage.loadNodeDb_saveNodeDb, NodeDb.restoreSnapshot_toSnapshot]
    have hrestored := NodeDb.restoreRecords_eq_empty_iff ourNodeNum noted.nodeDb.persisted
    constructor
    · intro hnew _
      exact hrestored.mp (congrArg NodeDb.nodes hnew)
    · intro hentries
      have hempty := hrestored.mpr (hentries hflushes)
      exact congrArg (fun nodes => ({ NodeDb.new ourNodeNum with nodes := nodes } : NodeDb)) hempty
  · rename_i hflushes
    exact iff_of_true (NvsStorage.loadNodeDb_wiped _ _) fun h => absurd h hflushes

end

theorem loadNodeDb_nodes_iff (s : partition.Storage) (ourNodeNum : UInt32) :
    (s.loadNodeDb (NodeDb.new ourNodeNum)).nodes = Bounded.empty ↔
      s.loadNodeDb (NodeDb.new ourNodeNum) = NodeDb.new ourNodeNum := by
  have hrest : (s.loadNodeDb (NodeDb.new ourNodeNum)).ourNodeNum = ourNodeNum ∧
      (s.loadNodeDb (NodeDb.new ourNodeNum)).dirty = false := by
    unfold NvsStorage.loadNodeDb
    split
    · unfold NodeDb.restoreSnapshot
      dsimp only
      repeat' split
      all_goals exact ⟨rfl, rfl⟩
    · exact ⟨rfl, rfl⟩
  generalize s.loadNodeDb (NodeDb.new ourNodeNum) = db at hrest ⊢
  obtain ⟨nodes, _, _⟩ := db
  obtain ⟨rfl, rfl⟩ := hrest
  constructor
  · rintro rfl
    rfl
  · intro hnew
    exact congrArg NodeDb.nodes hnew

section

variable {state : MeshState partition.Storage} {event : MeshEvent}
  {noted : MeshCtx partition.Storage}

theorem lasting_of_resets (h : Resets env state event noted) :
    state.started = true ∧ noted.device.mac = state.ctx.device.mac ∧
      (MeshState.handled env state (.mesh event)).lasting =
        (Admin.factoryReset noted).lasting := by
  obtain ⟨request, full, hcalled, hcommand⟩ := h
  unfold SessionRun.called at hcalled
  dsimp only at hcalled
  split at hcalled
  · rename_i hstarted
    have hmac : noted.device.mac = (MeshState.noteActivity state.ctx event).device.mac := by
      have hsettings := congrArg (fun standing => standing.2.mac) (standing_adminCall hcalled)
      exact hsettings
    have hdevice : (MeshState.noteActivity state.ctx event).device = state.ctx.device := by
      cases event <;> rfl
    have hrun : Admin.run env noted request = Admin.factoryReset noted := by
      unfold Admin.run
      rw [Admin.dispatch_eq, hcommand]
      rfl
    refine ⟨hstarted, hdevice ▸ hmac, ?_⟩
    unfold MeshState.handled
    dsimp only
    rw [if_pos hstarted, lasting_dispatch hcalled, hrun]
  · cases hcalled

theorem step_of_resets (h : Resets env state event noted) :
    MeshState.restarts env state (.mesh event) = true ∧
      (MeshState.housed env state event).ctx.device.mac = state.ctx.device.mac ∧
      MeshState.step env state (.mesh event) =
        MeshState.reboot env (MeshState.housed env state event) := by
  obtain ⟨hstarted, hnoted, hlasting⟩ := lasting_of_resets h
  have hreboot : (MeshState.handled env state (.mesh event)).rebootAfterSecs = some 2 :=
    congrArg (fun lasting => lasting.1.1.rebootAfterSecs) hlasting
  have hrestarts : MeshState.restarts env state (.mesh event) = true := by
    unfold MeshState.restarts
    rw [hstarted, hreboot]
    rfl
  refine ⟨hrestarts, ?_, ?_⟩
  · obtain ⟨_, _, _, hhoused⟩ := @MeshState.housekept_housed _ _ env state event
    calc
      (MeshState.housed env state event).ctx.device.mac =
          (MeshState.handled env state (.mesh event)).device.mac := by rw [hhoused]
      _ = noted.device.mac := congrArg (fun lasting => lasting.2.mac) hlasting
      _ = state.ctx.device.mac := hnoted
  · unfold MeshState.step
    dsimp only
    rw [if_pos hstarted, MeshState.handleEvent_eq event hstarted, if_pos hrestarts]

theorem storage_of_resets (h : Resets env state event noted) :
    (MeshState.housed env state event).ctx.storage = leftBehind noted state.lastNodeDbFlush := by
  obtain ⟨-, -, hlasting⟩ := lasting_of_resets h
  have hholdings := congrArg (fun lasting => lasting.1.1) hlasting
  have hstorage : (MeshState.handled env state (.mesh event)).storage = noted.storage.wiped :=
    congrArg Holdings.storage hholdings
  have hnodeDb : (MeshState.handled env state (.mesh event)).nodeDb = noted.nodeDb :=
    congrArg Holdings.nodeDb hholdings
  have hshutdown : (MeshState.handled env state (.mesh event)).shutdownAfterSecs =
      noted.shutdownAfterSecs := congrArg Holdings.shutdownAfterSecs hholdings
  have hnow : (MeshState.handled env state (.mesh event)).now = noted.now :=
    congrArg (fun lasting => lasting.1.2.2) hlasting
  have hhoused := @MeshState.ctx_housed _ _ env state event fun _ => NvsStorage.saveNodeDb_ok _ _
  have hflushes : MeshState.Flushes (MeshState.handled env state (.mesh event))
      state.lastNodeDbFlush ↔ MeshState.Flushes noted state.lastNodeDbFlush := by
    unfold MeshState.Flushes
    rw [hnodeDb, hnow, hshutdown]
  rw [hhoused]
  unfold leftBehind
  by_cases h : MeshState.Flushes noted state.lastNodeDbFlush
  · rw [if_pos h, if_pos (hflushes.mpr h), ← hstorage, ← hnodeDb]
    rfl
  · rw [if_neg h, if_neg (mt hflushes.mp h)]
    exact hstorage

/-- A factory reset is final exactly when nothing was buffered and no flush comes between. -/
theorem final_iff (h : Resets env state event noted) :
    Final env state event ↔ Clean noted state.lastNodeDbFlush := by
  obtain ⟨-, hnoted, -⟩ := lasting_of_resets h
  obtain ⟨hrestarts, hmac, hstep⟩ := step_of_resets h
  have hstorage := storage_of_resets h
  have hqueue : (leftBehind noted state.lastNodeDbFlush).reopen.queue = [] ↔
      ∀ header, noted.storage.headerOnFlash = some header → header.count = 0 := by
    rw [NvsStorage.queue_reopen_eq_nil_iff, headerOnFlash_leftBehind]
  have hnodes := @loadNodeDb_leftBehind _ _ _ partition noted state.lastNodeDbFlush
    (DeviceState.new state.ctx.device.mac).myNodeNum
  constructor
  · intro hfinal
    have hnoMessages := hfinal.noMessages
    have hnoNodes := (loadNodeDb_nodes_iff _ _).mp hfinal.noNodes
    rw [hstorage] at hnoMessages hnoNodes
    exact
      { messages := hqueue.mp hnoMessages
        nodes := hnoted ▸ hnodes.mp hnoNodes }
  · rintro ⟨hmessages, hentries⟩
    rw [hnoted] at hentries
    refine
      { restarts := hrestarts
        noConfig := hstorage ▸ loadConfig_leftBehind
        noBond := hstorage ▸ loadBond_leftBehind
        noNodes := (loadNodeDb_nodes_iff _ _).mpr (hstorage ▸ hnodes.mpr hentries)
        noMessages := hstorage ▸ hqueue.mpr hmessages
        device := ?_
        nodeDb := ?_
        messages := ?_ }
    · rw [hstep]
      unfold MeshState.reboot
      rw [hstorage, hmac]
      exact loadState_leftBehind _
    · rw [hstep]
      unfold MeshState.reboot
      rw [hstorage, hmac]
      have hkept := (leftBehind noted state.lastNodeDbFlush).loadNodeDb_reopen
        (NodeDb.new (DeviceState.new state.ctx.device.mac).myNodeNum)
      have hdevice := @loadState_leftBehind _ _ _ partition env noted state.lastNodeDbFlush
        (DeviceState.new state.ctx.device.mac)
      calc
        _ = MeshStorage.loadNodeDb (MeshStorage.reopen (leftBehind noted state.lastNodeDbFlush))
            (NodeDb.new (DeviceState.new state.ctx.device.mac).myNodeNum) :=
          congrArg (fun device => MeshStorage.loadNodeDb
            (MeshStorage.reopen (leftBehind noted state.lastNodeDbFlush))
            (NodeDb.new device.myNodeNum)) hdevice
        _ = _ := hkept.trans (hnodes.mpr hentries)
    · rw [hstep]
      unfold MeshState.reboot
      rw [hstorage]
      exact hqueue.mpr hmessages

end

theorem not_final_of_get {state : MeshState partition.Storage} {event : MeshEvent}
    {nodeNum : UInt32}
    (h : ((MeshState.step env state (.mesh event)).ctx.nodeDb.get nodeNum).isSome = true) :
    ¬ Final env state event := by
  intro hfinal
  rw [hfinal.nodeDb] at h
  cases h

/-- In every run a factory reset is final exactly when nothing was buffered and no flush with
another node comes before the restart. -/
theorem final_run_iff (env : Env) (mac : Bytes) (storage : partition.Storage)
    (pkcKeypair : Key × Key) (entropy : Nat → UInt32) (events : List MeshState.Event)
    (event : MeshEvent) (noted : MeshCtx partition.Storage)
    (h : Resets env (MeshState.after env mac storage pkcKeypair entropy events) event noted) :
    Final env (MeshState.after env mac storage pkcKeypair entropy events) event ↔
      Clean noted
        (MeshState.after env mac storage pkcKeypair entropy events).lastNodeDbFlush :=
  final_iff h

def resetNode : Bytes := [0x0a, 0x09, 0x22, 0x07, 0x08, 0x06, 0x12, 0x03, 0x98, 0x06, 0x01]

def blankNode (events : List MeshState.Event) :
    MeshState (@wholeFlash Medium.nor).Storage :=
  MeshState.after KnownAnswers.defaultKey.adminEnv KnownAnswers.mac
    (NvsStorage.opened wholeFlash NvsStorage.blankImage) KnownAnswers.noKeypair
    KnownAnswers.noEntropy events

theorem resets_resetNode {state : MeshState partition.Storage} (h : state.started = true) :
    Resets KnownAnswers.defaultKey.adminEnv state (.bleRx resetNode) state.ctx := by
  let data : Data := { portnum := 6, payload := [0x98, 0x06, 0x01] }
  let pkt : MeshPacket := { payloadVariant := some (.decoded data) }
  have hlocal : FromApp.isLocalAdmin state.ctx.device pkt data = true := by
    unfold FromApp.isLocalAdmin
    rw [Bool.and_eq_true, Bool.or_eq_true]
    exact ⟨rfl, Or.inr rfl⟩
  have hpacket : FromApp.localAdmin KnownAnswers.defaultKey.adminEnv state.ctx resetNode =
      some (pkt, data) := if_pos hlocal
  refine ⟨⟨0, 0, data.payload, false⟩, 1, ?_, rfl⟩
  unfold SessionRun.called adminCall
  dsimp only
  rw [if_pos h]
  exact congrArg (Option.map _) hpacket

/-- A factory reset of a node that has heard nobody. -/
theorem final_run_unheard :
    let state := blankNode [.announce, .mesh .bleConnected]
    Final KnownAnswers.defaultKey.adminEnv state (.bleRx resetNode) ↔
      Clean state.ctx state.lastNodeDbFlush :=
  final_run_iff _ _ _ _ _ _ _ _ (resets_resetNode (by decide +kernel))

/-- Node `0x11223344` was heard five minutes ago. -/
def heardNode : MeshState (@wholeFlash Medium.nor).Storage :=
  blankNode [.announce, .mesh .bleConnected, .mesh (.loraRx FromRadio.strangerAck ⟨0, 0⟩),
    .elapse 300000]

/-- The flush before the restart brings the node back. -/
theorem reset_restores_node :
    Resets KnownAnswers.defaultKey.adminEnv heardNode (.bleRx resetNode) heardNode.ctx ∧
      ((MeshState.step KnownAnswers.defaultKey.adminEnv heardNode
        (.mesh (.bleRx resetNode))).ctx.nodeDb.get 0x11223344).isSome = true ∧
      ¬ Final KnownAnswers.defaultKey.adminEnv heardNode (.bleRx resetNode) := by
  have hrestored : ((MeshState.step KnownAnswers.defaultKey.adminEnv heardNode
      (.mesh (.bleRx resetNode))).ctx.nodeDb.get 0x11223344).isSome = true := by decide +kernel
  exact ⟨resets_resetNode (by decide +kernel), hrestored, not_final_of_get hrestored⟩

end Meshtastenstein
