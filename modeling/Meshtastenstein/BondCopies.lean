import Meshtastenstein.BondTask
import Meshtastenstein.KnownAnswers
import Meshtastenstein.LinkState
import Meshtastenstein.MessageRing
/-!
# Three copies of a bond

The host of the BLE stack, the BLE task and flash agree on the bond of a phone whenever the
node advertises again, as long as no bond is delivered after a rejection in one connection
and the phones do not take turns.
-/

namespace Meshtastenstein

open Lib Lib.NorFlash Lib.WorkingFlash Handlers

variable {medium : Medium} {F : Type} [WorkingFlash medium F] {partition : Partition F}
  {env : Env}

/-! ## Notices -/

namespace MeshEvent

/-- What the BLE task tells of a connection and its security. -/
def IsNotice : MeshEvent → Prop
  | .bleConnected => True
  | .bleDisconnected => True
  | .bondSave record => IsBondRecord record
  | .bondClear => True
  | _ => False

def storeBond (bond : Option Bytes) : MeshEvent → Option Bytes
  | .bondSave record => some record
  | .bondClear => none
  | _ => bond

end MeshEvent

namespace MeshState

structure Stores (env : Env) (state : MeshState partition.Storage) (event : MeshEvent) : Prop where
  restarts_eq : restarts env state (.mesh event) = false
  started_eq : (step env state (.mesh event)).started = true
  rebootAfterSecs_eq : (step env state (.mesh event)).ctx.rebootAfterSecs = none
  loadBond_eq : (step env state (.mesh event)).ctx.storage.loadBond =
    event.storeBond state.ctx.storage.loadBond

theorem loadBond_saveNodeDb (ctx : MeshCtx partition.Storage) :
    (saveNodeDb ctx).storage.loadBond = ctx.storage.loadBond :=
  (NvsStorage.agreeOn_saveNodeDb ctx.nodeDb (by decide)).loadBond_eq

theorem started_housed {S : Type} [MeshStorage S] (state : MeshState S) (event : MeshEvent) :
    (housed env state event).started = state.started := by
  have hflush : ∀ state : MeshState S, (flushNodeDb state).started = state.started := by
    intro state
    unfold flushNodeDb
    split <;> rfl
  unfold housed handleShutdown
  split
  · exact hflush _
  · exact hflush _

theorem loadBond_housed (state : MeshState partition.Storage) (event : MeshEvent) :
    (housed env state event).ctx.storage.loadBond =
      (handled env state (.mesh event)).storage.loadBond := by
  rw [ctx_housed fun _ => NvsStorage.saveNodeDb_ok _ _]
  split
  · exact loadBond_saveNodeDb _
  · rfl

theorem stores_of_isNotice {state : MeshState partition.Storage} {event : MeshEvent}
    (hstarted : state.started = true) (hreboot : state.ctx.rebootAfterSecs = none)
    (h : event.IsNotice) : Stores env state event := by
  have hhandled : (handled env state (.mesh event)).rebootAfterSecs = none ∧
      (handled env state (.mesh event)).storage.loadBond =
        event.storeBond state.ctx.storage.loadBond := by
    unfold handled
    dsimp only
    rw [if_pos hstarted]
    cases event with
    | bleConnected => exact ⟨hreboot, rfl⟩
    | bleDisconnected => exact ⟨hreboot, rfl⟩
    | bondSave record => exact ⟨hreboot, NvsStorage.loadBond_saveBond h state.ctx.storage⟩
    | bondClear => exact ⟨hreboot, NvsStorage.loadBond_clearBond state.ctx.storage⟩
    | _ => exact h.elim
  have hrestarts : restarts env state (.mesh event) = false := by
    unfold restarts
    dsimp only
    rw [hhandled.1, Option.isSome_none, Bool.and_false]
  have hstep := step_eq_housed hstarted hrestarts
  exact
    { restarts_eq := hrestarts
      started_eq := by rw [hstep, started_housed, hstarted]
      rebootAfterSecs_eq := by
        rw [hstep, (housekept_housed state event).rebootAfterSecs_eq, hhandled.1]
      loadBond_eq := by rw [hstep, loadBond_housed, hhandled.2] }

end MeshState

/-! ## The queue -/

namespace Firmware

structure Notified (fw : Firmware partition.Storage) : Prop where
  started_eq : fw.mesh.started = true
  rebootAfterSecs_eq : fw.mesh.ctx.rebootAfterSecs = none
  isNotice : ∀ event ∈ fw.meshIn, event.IsNotice

/-- The bond on flash once the mesh task has taken all that waits. -/
def pendingBond (fw : Firmware partition.Storage) : Option Bytes :=
  fw.meshIn.foldl MeshEvent.storeBond fw.mesh.ctx.storage.loadBond

/-- Taking an event leaves the link alone, and what is pending. -/
theorem Notified.receive {fw : Firmware partition.Storage} (h : fw.Notified) :
    (fw.step env .esp32 .receive).Notified ∧
      (fw.step env .esp32 .receive).meshIn = fw.meshIn.tail ∧
      (fw.step env .esp32 .receive).phase = fw.phase ∧
      (fw.step env .esp32 .receive).pendingBond = fw.pendingBond := by
  cases hmeshIn : fw.meshIn with
  | nil =>
      have hsame : fw.step env .esp32 .receive = fw := by
        unfold step Firmware.receive
        dsimp only
        rw [hmeshIn]
      rw [hsame]
      exact ⟨h, hmeshIn, rfl, rfl⟩
  | cons event rest =>
      have hnotice := h.isNotice event (by rw [hmeshIn]; exact List.mem_cons_self)
      have hstores := @MeshState.stores_of_isNotice _ _ _ _ env _ _ h.started_eq
        h.rebootAfterSecs_eq hnotice
      have hstep : fw.step env .esp32 .receive = stamped
          { fw with meshIn := rest, mesh := MeshState.step env fw.mesh (.mesh event) } := by
        unfold step Firmware.receive
        dsimp only
        rw [hmeshIn]
        dsimp only
        rw [if_pos h.started_eq]
        unfold runMesh
        rw [if_neg (by rw [hstores.restarts_eq]; exact Bool.false_ne_true)]
      rw [hstep]
      refine ⟨⟨hstores.started_eq, hstores.rebootAfterSecs_eq, fun later hlater => ?_⟩, rfl, rfl,
        ?_⟩
      · exact h.isNotice later (by rw [hmeshIn]; exact List.mem_cons_of_mem event hlater)
      · unfold pendingBond
        rw [hmeshIn, List.foldl_cons, ← hstores.loadBond_eq]
        rfl

theorem Notified.settled {fw : Firmware partition.Storage} (h : fw.Notified) :
    (BondTask.settled env fw).mesh.ctx.storage.loadBond = fw.pendingBond := by
  unfold BondTask.settled
  generalize hlength : fw.meshIn.length = n
  induction n generalizing fw with
  | zero =>
      have hmeshIn := List.length_eq_zero_iff.mp hlength
      unfold pendingBond
      rw [hmeshIn]
      rfl
  | succ n ih =>
      obtain ⟨hnotified, htail, -, hpending⟩ := @Notified.receive _ _ _ _ env _ h
      have hrest := ih hnotified (by rw [htail, List.length_tail, hlength]; rfl)
      rw [List.replicate_succ, ← hpending]
      exact hrest

theorem Notified.tryPost {fw : Firmware partition.Storage} (h : fw.Notified) {event : MeshEvent}
    (hnotice : event.IsNotice) (hroom : fw.meshIn.length < MESH_IN_QUEUE_SIZE) :
    (fw.tryPost event).Notified ∧
      (fw.tryPost event).pendingBond = event.storeBond fw.pendingBond := by
  have hposted : (fw.tryPost event).meshIn = fw.meshIn ++ [event] :=
    Mailbox.trySend_of_lt hroom event
  refine ⟨⟨h.started_eq, h.rebootAfterSecs_eq, fun later hlater => ?_⟩, ?_⟩
  · rw [hposted] at hlater
    rcases List.mem_append.mp hlater with hlater | hlater
    · exact h.isNotice later hlater
    · rw [List.mem_singleton.mp hlater]
      exact hnotice
  · unfold pendingBond
    rw [hposted, List.foldl_append]
    rfl

/-- An event that asks nothing of the mesh task and posts nothing leaves the bond alone. -/
theorem Notified.of_idle {fw : Firmware partition.Storage} (h : fw.Notified) {event : Event}
    (hnone : fw.meshEvent event = none)
    (hmeshIn : (fw.step env .esp32 event).meshIn = fw.meshIn) :
    (fw.step env .esp32 event).Notified ∧
      (fw.step env .esp32 event).pendingBond = fw.pendingBond := by
  obtain ⟨txToBle, disconnCmd, hmesh⟩ := @mesh_step_of_none _ _ env .esp32 fw event hnone
  have hctx := congrArg MeshState.ctx hmesh
  refine ⟨⟨?_, ?_, fun later hlater => h.isNotice later (hmeshIn ▸ hlater)⟩, ?_⟩
  · exact (congrArg MeshState.started hmesh).trans h.started_eq
  · exact (congrArg MeshCtx.rebootAfterSecs hctx).trans h.rebootAfterSecs_eq
  · unfold pendingBond
    rw [hmeshIn, hmesh]
    rfl

theorem meshIn_advertised {S : Type} [MeshStorage S] (fw : Firmware S) (ok : Bool) :
    (fw.step env .esp32 (.advertised ok)).meshIn = fw.meshIn := by
  unfold step
  dsimp only
  split
  · cases ok <;> rfl
  · rfl

theorem isLinked_advertised {S : Type} [MeshStorage S] (fw : Firmware S) (ok : Bool) :
    (fw.step env .esp32 (.advertised ok)).isLinked = fw.isLinked := by
  unfold step
  dsimp only
  split
  · rename_i hphase
    cases ok with
    | true =>
        unfold isLinked
        rw [hphase]
        rfl
    | false => rfl
  · rfl

theorem accepted_of_accepting {S : Type} [MeshStorage S] {fw : Firmware S}
    (hphase : fw.phase = .accepting) (ok : Bool) :
    (fw.step env .esp32 (.accepted ok)).meshIn = fw.meshIn ∧
      (fw.step env .esp32 (.accepted ok)).isLinked = ok := by
  unfold step
  dsimp only
  rw [hphase]
  cases ok <;> exact ⟨rfl, rfl⟩

theorem Notified.gatt {fw : Firmware partition.Storage} (h : fw.Notified) {conn : GattConnection}
    (hphase : fw.phase = .connected conn) (hroom : fw.meshIn.length < MESH_IN_QUEUE_SIZE)
    {ledger : BondLedger} (hpending : fw.pendingBond = ledger.current.map Bond.record)
    (link : BleLink) (event : SecurityEvent) :
    (fw.step env .esp32 (.gatt event.gatt)).Notified ∧
      (fw.step env .esp32 (.gatt event.gatt)).pendingBond =
        (ledger.note link event).current.map Bond.record := by
  have hpost : ∀ item : MeshEvent, item.IsNotice →
      item.storeBond (ledger.current.map Bond.record) =
        (ledger.note link event).current.map Bond.record →
      (fw.tryPost item).Notified ∧
        (fw.tryPost item).pendingBond = (ledger.note link event).current.map Bond.record := by
    intro item hnotice hstores
    rw [← hstores, ← hpending]
    exact h.tryPost hnotice hroom
  rw [step_gatt hphase]
  cases event with
  | bondLost => exact hpost .bondClear trivial rfl
  | pairingFailed peerRejected =>
      cases peerRejected with
      | true => exact hpost .bondClear trivial rfl
      | false => exact ⟨h, hpending⟩
  | pairingComplete bond =>
      exact hpost (.bondSave bond.record) (isBondRecord_serializeBond bond.val) rfl
  | encrypted => exact hpost .bleConnected trivial rfl
  | disconnected =>
      have hcurrent : (ledger.note link .disconnected).current = ledger.current := by
        unfold BondLedger.note
        dsimp only
        split <;> rfl
      obtain ⟨hnotified, hstored⟩ := hpost .bleDisconnected trivial (by rw [hcurrent]; rfl)
      exact ⟨⟨hnotified.started_eq, hnotified.rebootAfterSecs_eq, hnotified.isNotice⟩, hstored⟩

theorem isLinked_gatt {S : Type} [MeshStorage S] {fw : Firmware S} {conn : GattConnection}
    (hphase : fw.phase = .connected conn) (event : SecurityEvent) :
    (fw.step env .esp32 (.gatt event.gatt)).isLinked = !event.isDisconnected := by
  have hlinked : fw.isLinked = true := by
    unfold isLinked
    rw [hphase]
  rw [step_gatt hphase]
  cases event with
  | pairingFailed peerRejected => cases peerRejected <;> exact hlinked
  | disconnected => rfl
  | _ => exact hlinked

end Firmware

/-! ## Coherence -/

namespace BondRun

variable {T : Type} {host : BleHost T}

/-- The three copies are the bond that was delivered last and not followed by a rejection, or
all absent. -/
structure Coherent (env : Env) (host : BleHost T) (run : BondRun partition.Storage T)
    (peer : Identity) : Prop where
  stack : host.bond run.task.stack peer = run.ledger.current.map (·.val)
  bondBytes : run.task.bondBytes = run.ledger.current.map Bond.record
  flash : (BondTask.settled env run.task.fw).mesh.ctx.storage.loadBond =
    run.ledger.current.map Bond.record

/-- When a connection is over and the node advertises again, the copies are coherent for its
peer. -/
def CoherentAgain (env : Env) (host : BleHost T) (run : BondRun partition.Storage T)
    (event : BondTask.Event) : Prop :=
  ∀ link, run.task.link = some link → event = .security .disconnected →
    Coherent env host (run.step env host event) link.peerIdentity

/-- A connection ends with no bond delivered after a rejection; without a rejection, its peer
is the one that the last bond was delivered to. -/
def KeepsBond (run : BondRun partition.Storage T) (event : BondTask.Event) : Prop :=
  ∀ link, run.task.link = some link → event = .security .disconnected →
    if link.bondClearPending then run.ledger.current = none
    else run.ledger.held link.peerIdentity = run.ledger.current

/-- There is room for what a security event has the BLE task post. -/
def HasRoom (run : BondRun partition.Storage T) : BondTask.Event → Prop
  | .security _ => run.task.fw.meshIn.length < MESH_IN_QUEUE_SIZE
  | _ => True

/-- The task agrees with the record, but for what a connection with a rejection leaves to its
end. -/
structure Tracked (host : BleHost T) (run : BondRun partition.Storage T) : Prop where
  notified : run.task.fw.Notified
  linked : run.task.link.isSome = run.task.fw.isLinked
  pending : run.task.fw.pendingBond = run.ledger.current.map Bond.record
  bondBytes : (∀ link, run.task.link = some link → link.bondClearPending = false) →
    run.task.bondBytes = run.ledger.current.map Bond.record
  stack : ∀ peer, (∀ link, run.task.link = some link → link.bondClearPending = true →
      peer ≠ link.peerIdentity) →
    host.bond run.task.stack peer = (run.ledger.held peer).map (·.val)

theorem filter_isBonded (bond : Option Bond) :
    (bond.map (·.val)).filter (·.isBonded) = bond.map (·.val) := by
  cases bond with
  | none => rfl
  | some bond => exact Option.filter_some_pos bond.property

theorem step_security {run : BondRun partition.Storage T} {link : BleLink}
    (hlink : run.task.link = some link) (event : SecurityEvent) :
    run.step env host (.security event) =
      ⟨BondTask.handleSecurity host
          { run.task with
            fw := run.task.fw.step env .esp32 (.gatt event.gatt)
            stack := host.deliver run.task.stack link.peerIdentity event } link event,
        run.ledger.note link event⟩ := by
  unfold step noted BondTask.step
  dsimp only
  rw [hlink]

/-- What a connection leaves behind when the peer rejected our keys. -/
theorem step_disconnected_of_rejected {run : BondRun partition.Storage T} {link : BleLink}
    (hlink : run.task.link = some link) (hclear : link.bondClearPending = true) :
    run.step env host (.security .disconnected) =
      ⟨⟨run.task.fw.step env .esp32 (.gatt .disconnected),
          host.removeBondInformation
            (host.deliver run.task.stack link.peerIdentity .disconnected) link.peerIdentity,
          none, none⟩,
        ⟨run.ledger.current, Function.update run.ledger.held link.peerIdentity none⟩⟩ := by
  rw [step_security hlink]
  unfold BondTask.handleSecurity BondLedger.note
  dsimp only
  rw [if_pos hclear, if_pos hclear]
  rfl

theorem step_disconnected_of_kept {run : BondRun partition.Storage T} {link : BleLink}
    (hlink : run.task.link = some link) (hclear : link.bondClearPending = false) :
    run.step env host (.security .disconnected) =
      ⟨⟨run.task.fw.step env .esp32 (.gatt .disconnected),
          host.deliver run.task.stack link.peerIdentity .disconnected,
          run.task.bondBytes, none⟩, run.ledger⟩ := by
  have hkept : ¬ link.bondClearPending = true := by
    rw [hclear]
    exact Bool.false_ne_true
  rw [step_security hlink]
  unfold BondTask.handleSecurity BondLedger.note
  dsimp only
  rw [if_neg hkept, if_neg hkept]
  rfl

variable {run : BondRun partition.Storage T} {link : BleLink}

theorem Tracked.stack_of_ne (h : Tracked host run) (hlink : run.task.link = some link)
    {peer : Identity} (hne : peer ≠ link.peerIdentity) :
    host.bond run.task.stack peer = (run.ledger.held peer).map (·.val) := by
  refine h.stack peer fun other hother _ => ?_
  rw [hlink] at hother
  cases hother
  exact hne

theorem Tracked.stack_of_kept (h : Tracked host run) (hlink : run.task.link = some link)
    (hclear : link.bondClearPending = false) (peer : Identity) :
    host.bond run.task.stack peer = (run.ledger.held peer).map (·.val) := by
  refine h.stack peer fun other hother hpending => ?_
  rw [hlink] at hother
  cases hother
  rw [hclear] at hpending
  cases hpending

theorem Tracked.bondBytes_of_kept (h : Tracked host run) (hlink : run.task.link = some link)
    (hclear : link.bondClearPending = false) :
    run.task.bondBytes = run.ledger.current.map Bond.record := by
  refine h.bondBytes fun other hother => ?_
  rw [hlink] at hother
  cases hother
  exact hclear

theorem Tracked.stack_disconnected (h : Tracked host run) (hhost : host.Lawful)
    (hlink : run.task.link = some link) (peer : Identity) :
    host.bond (run.step env host (.security .disconnected)).task.stack peer =
      ((run.step env host (.security .disconnected)).ledger.held peer).map (·.val) := by
  by_cases hsame : peer = link.peerIdentity
  · subst hsame
    cases hclear : link.bondClearPending with
    | true =>
        rw [step_disconnected_of_rejected hlink hclear]
        dsimp only
        rw [Function.update_self, hhost.removed]
        rfl
    | false =>
        rw [step_disconnected_of_kept hlink hclear]
        dsimp only
        rw [hhost.disconnected, h.stack_of_kept hlink hclear, filter_isBonded]
  · have hheld := h.stack_of_ne hlink hsame
    cases hclear : link.bondClearPending with
    | true =>
        rw [step_disconnected_of_rejected hlink hclear]
        dsimp only
        rw [Function.update_of_ne hsame, hhost.removed_elsewhere _ _ _ hsame,
          hhost.elsewhere _ _ _ _ hsame, hheld]
    | false =>
        rw [step_disconnected_of_kept hlink hclear]
        dsimp only
        rw [hhost.elsewhere _ _ _ _ hsame, hheld]

theorem current_disconnected (hlink : run.task.link = some link) :
    (run.step env host (.security .disconnected)).ledger.current = run.ledger.current := by
  cases hclear : link.bondClearPending with
  | true => rw [step_disconnected_of_rejected hlink hclear]
  | false => rw [step_disconnected_of_kept hlink hclear]

theorem fw_security (hlink : run.task.link = some link) (event : SecurityEvent) :
    (run.step env host (.security event)).task.fw =
      run.task.fw.step env .esp32 (.gatt event.gatt) := by
  rw [step_security hlink]
  unfold BondTask.handleSecurity
  cases event with
  | pairingFailed peerRejected => cases peerRejected <;> rfl
  | disconnected =>
      dsimp only
      split <;> rfl
  | _ => rfl

theorem Tracked.fw_security (h : Tracked host run) (hlink : run.task.link = some link)
    (event : SecurityEvent) (hroom : run.HasRoom (.security event)) :
    (run.step env host (.security event)).task.fw.Notified ∧
      (run.step env host (.security event)).task.fw.pendingBond =
        (run.step env host (.security event)).ledger.current.map Bond.record ∧
      (run.step env host (.security event)).task.fw.isLinked = !event.isDisconnected := by
  have hlinked := h.linked
  rw [hlink, Option.isSome_some] at hlinked
  obtain ⟨conn, hphase⟩ := Firmware.exists_connected hlinked.symm
  obtain ⟨hnotified, hpending⟩ := @Firmware.Notified.gatt _ _ _ _ env _ h.notified conn hphase
    hroom _ h.pending link event
  rw [BondRun.fw_security hlink]
  refine ⟨hnotified, ?_, Firmware.isLinked_gatt hphase event⟩
  rw [hpending, step_security hlink]

theorem coherentAgain_iff (hhost : host.Lawful) (h : Tracked host run) (event : BondTask.Event)
    (hroom : run.HasRoom event) : run.CoherentAgain env host event ↔ run.KeepsBond event := by
  refine forall_congr' fun link => forall_congr' fun hlink => forall_congr' fun hevent => ?_
  subst hevent
  obtain ⟨hnotified, hpending, -⟩ := @Tracked.fw_security _ _ _ _ env _ _ _ _ h hlink _ hroom
  have hflash := (@Firmware.Notified.settled _ _ _ _ env _ hnotified).trans hpending
  have hstack := @Tracked.stack_disconnected _ _ _ _ env _ _ _ _ h hhost hlink link.peerIdentity
  have hcurrent := @current_disconnected _ _ _ _ env _ host _ _ hlink
  cases hclear : link.bondClearPending with
  | true =>
      rw [if_pos rfl]
      have hgone : host.bond (run.step env host (.security .disconnected)).task.stack
          link.peerIdentity = none := by
        rw [hstack, step_disconnected_of_rejected hlink hclear]
        dsimp only
        rw [Function.update_self]
        rfl
      constructor
      · intro hcoherent
        have hsame := hcoherent.stack
        rw [hgone, hcurrent] at hsame
        exact Option.map_eq_none_iff.mp hsame.symm
      · intro hnone
        refine ⟨?_, ?_, hflash⟩
        · rw [hgone, hcurrent, hnone]
          rfl
        · rw [step_disconnected_of_rejected hlink hclear]
          dsimp only
          rw [hnone]
          rfl
  | false =>
      rw [if_neg Bool.false_ne_true]
      rw [step_disconnected_of_kept hlink hclear] at hstack
      constructor
      · intro hcoherent
        have hsame := hcoherent.stack
        rw [step_disconnected_of_kept hlink hclear, hstack] at hsame
        exact Option.map_injective Subtype.val_injective hsame
      · intro hheld
        refine ⟨?_, ?_, hflash⟩
        · rw [step_disconnected_of_kept hlink hclear, hstack]
          exact congrArg (Option.map _) hheld
        · rw [step_disconnected_of_kept hlink hclear]
          exact h.bondBytes_of_kept hlink hclear

/-! ## Steps -/

theorem step_rejected (hlink : run.task.link = some link) {event : SecurityEvent}
    (hevent : event.isRejection = true) :
    run.step env host (.security event) =
      ⟨⟨run.task.fw.step env .esp32 (.gatt event.gatt),
          host.deliver run.task.stack link.peerIdentity event, run.task.bondBytes,
          some { link with bondClearPending := true }⟩,
        { run.ledger with current := none }⟩ := by
  rw [step_security hlink]
  cases event with
  | bondLost => rfl
  | pairingFailed peerRejected =>
      cases peerRejected with
      | true => rfl
      | false => cases hevent
  | _ => cases hevent

theorem Tracked.stack_quiet (h : Tracked host run) {event : SecurityEvent}
    (hlink : run.task.link = some link)
    (hkept : host.bond (host.deliver run.task.stack link.peerIdentity event) link.peerIdentity =
      host.bond run.task.stack link.peerIdentity)
    (hhost : host.Lawful) {peer : Identity}
    (hpeer : ∀ other, run.task.link = some other → other.bondClearPending = true →
      peer ≠ other.peerIdentity) :
    host.bond (host.deliver run.task.stack link.peerIdentity event) peer =
      (run.ledger.held peer).map (·.val) := by
  by_cases hsame : peer = link.peerIdentity
  · subst hsame
    rw [hkept]
    exact h.stack _ hpeer
  · rw [hhost.elsewhere _ _ _ _ hsame]
    exact h.stack_of_ne hlink hsame

/-- A rejection leaves the copies in memory to the end of the connection. -/
theorem Tracked.step_rejected (h : Tracked host run) (hhost : host.Lawful)
    (hlink : run.task.link = some link) {event : SecurityEvent}
    (hevent : event.isRejection = true) (hroom : run.HasRoom (.security event)) :
    Tracked host (run.step env host (.security event)) := by
  obtain ⟨hnotified, hpending, hlinked⟩ := @Tracked.fw_security _ _ _ _ env _ _ _ _ h hlink _ hroom
  rw [SecurityEvent.isDisconnected_of_isRejection hevent] at hlinked
  rw [BondRun.step_rejected hlink hevent] at hnotified hpending hlinked ⊢
  exact
    { notified := hnotified
      linked := hlinked.symm
      pending := hpending
      bondBytes := fun hclear => nomatch hclear _ rfl
      stack := fun peer hpeer => by
        have hne := hpeer _ rfl rfl
        dsimp only
        rw [hhost.elsewhere _ _ _ _ hne]
        exact h.stack_of_ne hlink hne }

theorem Tracked.step_quiet (h : Tracked host run) (hhost : host.Lawful)
    (hlink : run.task.link = some link) {event : SecurityEvent}
    (hstep : run.step env host (.security event) =
      ⟨{ run.task with
          fw := run.task.fw.step env .esp32 (.gatt event.gatt)
          stack := host.deliver run.task.stack link.peerIdentity event }, run.ledger⟩)
    (hkept : host.bond (host.deliver run.task.stack link.peerIdentity event) link.peerIdentity =
      host.bond run.task.stack link.peerIdentity)
    (hlasts : event.isDisconnected = false) (hroom : run.HasRoom (.security event)) :
    Tracked host (run.step env host (.security event)) := by
  obtain ⟨hnotified, hpending, hlinked⟩ := @Tracked.fw_security _ _ _ _ env _ _ _ _ h hlink _ hroom
  rw [hlasts] at hlinked
  rw [hstep] at hnotified hpending hlinked ⊢
  exact
    { notified := hnotified
      linked := (congrArg Option.isSome hlink).trans hlinked.symm
      pending := hpending
      bondBytes := h.bondBytes
      stack := fun _ hpeer => h.stack_quiet hlink hkept hhost hpeer }

theorem Tracked.step_paired (h : Tracked host run) (hhost : host.Lawful)
    (hlink : run.task.link = some link) (bond : Bond)
    (hroom : run.HasRoom (.security (.pairingComplete bond))) :
    Tracked host (run.step env host (.security (.pairingComplete bond))) := by
  obtain ⟨hnotified, hpending, hlinked⟩ := @Tracked.fw_security _ _ _ _ env _ _ _ _ h hlink _ hroom
  rw [BondRun.step_security hlink] at hnotified hpending hlinked ⊢
  refine
    { notified := hnotified
      linked := (congrArg Option.isSome hlink).trans hlinked.symm
      pending := hpending
      bondBytes := fun _ => rfl
      stack := fun peer hpeer => ?_ }
  unfold BondTask.handleSecurity BondLedger.note
  dsimp only
  by_cases hsame : peer = link.peerIdentity
  · subst hsame
    rw [hhost.paired, Function.update_self]
    rfl
  · rw [hhost.elsewhere _ _ _ _ hsame, Function.update_of_ne hsame]
    exact h.stack_of_ne hlink hsame

/-- The end of a connection settles what a rejection left to it. -/
theorem Tracked.step_disconnected (h : Tracked host run) (hhost : host.Lawful)
    (hlink : run.task.link = some link) (hroom : run.HasRoom (.security .disconnected))
    (hkeeps : run.KeepsBond (.security .disconnected)) :
    Tracked host (run.step env host (.security .disconnected)) := by
  obtain ⟨hnotified, hpending, hlinked⟩ := @Tracked.fw_security _ _ _ _ env _ _ _ _ h hlink _ hroom
  have hover : (run.step env host (.security .disconnected)).task.link = none ∧
      (run.step env host (.security .disconnected)).task.bondBytes =
        (run.step env host (.security .disconnected)).ledger.current.map Bond.record := by
    cases hclear : link.bondClearPending with
    | true =>
        have hnone := hkeeps link hlink rfl
        rw [if_pos hclear] at hnone
        rw [step_disconnected_of_rejected hlink hclear, hnone]
        exact ⟨rfl, rfl⟩
    | false =>
        rw [step_disconnected_of_kept hlink hclear]
        exact ⟨rfl, h.bondBytes_of_kept hlink hclear⟩
  exact
    { notified := hnotified
      linked := by
        rw [hover.1, hlinked]
        rfl
      pending := hpending
      bondBytes := fun _ => hover.2
      stack := fun peer _ => h.stack_disconnected hhost hlink peer }

theorem Tracked.step_security (h : Tracked host run) (hhost : host.Lawful)
    (hlink : run.task.link = some link) (event : SecurityEvent)
    (hroom : run.HasRoom (.security event)) (hkeeps : run.KeepsBond (.security event)) :
    Tracked host (run.step env host (.security event)) := by
  cases event with
  | bondLost => exact h.step_rejected hhost hlink rfl hroom
  | pairingFailed peerRejected =>
      cases peerRejected with
      | true => exact h.step_rejected hhost hlink rfl hroom
      | false =>
          exact h.step_quiet hhost hlink (BondRun.step_security hlink _) (hhost.pairingFailed _ _)
            rfl hroom
  | encrypted =>
      exact h.step_quiet hhost hlink (BondRun.step_security hlink _) (hhost.encrypted _ _) rfl hroom
  | pairingComplete bond => exact h.step_paired hhost hlink bond hroom
  | disconnected => exact h.step_disconnected hhost hlink hroom hkeeps

theorem Tracked.of_fw (h : Tracked host run) {fw : Firmware partition.Storage}
    (hnotified : fw.Notified) (hlinked : fw.isLinked = run.task.fw.isLinked)
    (hpending : fw.pendingBond = run.task.fw.pendingBond) :
    Tracked host ⟨{ run.task with fw := fw }, run.ledger⟩ where
  notified := hnotified
  linked := h.linked.trans hlinked.symm
  pending := hpending.trans h.pending
  bondBytes := h.bondBytes
  stack := h.stack

theorem Tracked.link_of_accepting (h : Tracked host run) (hphase : run.task.fw.phase = .accepting) :
    run.task.link = none := by
  have hlinked := h.linked
  unfold Firmware.isLinked at hlinked
  rw [hphase] at hlinked
  exact Option.not_isSome_iff_eq_none.mp (by rw [hlinked]; exact Bool.false_ne_true)

theorem step_of_link_eq_none (hlink : run.task.link = none) (event : SecurityEvent) :
    run.step env host (.security event) = run := by
  unfold BondRun.step noted BondTask.step
  dsimp only
  rw [hlink]

theorem Tracked.step (hhost : host.Lawful) (h : Tracked host run) (event : BondTask.Event)
    (hroom : run.HasRoom event) (hkeeps : run.KeepsBond event) :
    Tracked host (run.step env host event) := by
  have hnotified := h.notified
  cases event with
  | advertised ok =>
      have hidle := @Firmware.Notified.of_idle _ _ _ _ env _ hnotified (.advertised ok) rfl
        (Firmware.meshIn_advertised _ ok)
      exact h.of_fw hidle.1 (Firmware.isLinked_advertised _ ok) hidle.2
  | accepted peer =>
      unfold BondRun.step noted BondTask.step
      dsimp only
      split
      · rename_i hphase
        have hlink := h.link_of_accepting hphase
        have haccepted := @Firmware.accepted_of_accepting env _ _ _ hphase peer.isSome
        have hidle := @Firmware.Notified.of_idle _ _ _ _ env _ hnotified
          (.accepted peer.isSome) rfl haccepted.1
        -- a new connection has seen no rejection
        exact
          { notified := hidle.1
            linked := by rw [Option.isSome_map, haccepted.2]
            pending := hidle.2.trans h.pending
            bondBytes := fun _ => h.bondBytes fun _ hsome => nomatch hlink.symm.trans hsome
            stack := fun other _ => h.stack other fun _ hsome => nomatch hlink.symm.trans hsome }
      · exact h
  | security event =>
      cases hlink : run.task.link with
      | none =>
          rw [step_of_link_eq_none hlink]
          exact h
      | some link => exact h.step_security hhost hlink event hroom hkeeps
  | receive =>
      obtain ⟨hreceived, -, hphase, hpending⟩ := @Firmware.Notified.receive _ _ _ _ env _ hnotified
      refine h.of_fw hreceived ?_ hpending
      unfold Firmware.isLinked
      rw [hphase]

/-! ## Runs -/

/-- The node advertises for the first time: it holds the bond that was saved, or none. -/
def start (env : Env) (mac : Bytes) (storage : partition.Storage) (pkcKeypair : Key × Key)
    (entropy : Nat → UInt32) (stack : T) (saved : Option Bond) : BondRun partition.Storage T where
  task :=
    { fw := (Firmware.boot env mac storage pkcKeypair entropy).step env .esp32 .announce
      stack := stack
      bondBytes := storage.loadBond
      link := none }
  ledger := { current := saved, held := fun peer => saved.filter (·.val.identity == peer) }

structure Restored (host : BleHost T) (storage : partition.Storage) (stack : T)
    (saved : Option Bond) : Prop where
  flash : storage.loadBond = saved.map Bond.record
  stack : ∀ peer, host.bond stack peer =
    (saved.filter (·.val.identity == peer)).map (·.val)

theorem notified_announce (mac : Bytes) (storage : partition.Storage) (pkcKeypair : Key × Key)
    (entropy : Nat → UInt32) :
    ((Firmware.boot env mac storage pkcKeypair entropy).step env .esp32 .announce).Notified ∧
      ((Firmware.boot env mac storage pkcKeypair entropy).step env .esp32 .announce).pendingBond =
        storage.loadBond := by
  have hresident := @Periodic.resident_broadcastNodeinfo _ env
    (MeshState.bootCtx env mac storage pkcKeypair entropy)
  have hreboot := congrArg (fun resident => resident.holdings.rebootAfterSecs) hresident
  have hstorage := congrArg (fun resident => resident.holdings.storage) hresident
  refine ⟨⟨rfl, hreboot, fun _ hnone => nomatch hnone⟩, ?_⟩
  exact congrArg NvsStorage.loadBond hstorage

theorem tracked_start {storage : partition.Storage} {stack : T} {saved : Option Bond}
    (h : Restored host storage stack saved) (mac : Bytes) (pkcKeypair : Key × Key)
    (entropy : Nat → UInt32) :
    Tracked host (start env mac storage pkcKeypair entropy stack saved) := by
  obtain ⟨hnotified, hpending⟩ := @notified_announce _ _ _ _ env mac storage pkcKeypair entropy
  exact
    { notified := hnotified
      linked := rfl
      pending := hpending.trans h.flash
      bondBytes := fun _ => h.flash
      stack := fun peer _ => h.stack peer }

/-! ### One phone -/

/-- When a connection with a rejection is over, no bond was delivered after it. -/
def RejectsLast (run : BondRun partition.Storage T) (event : BondTask.Event) : Prop :=
  ∀ link, run.task.link = some link → event = .security .disconnected →
    link.bondClearPending = true → run.ledger.current = none

/-- Nobody else connects. -/
def IsWith (phone : Identity) : BondTask.Event → Prop
  | .accepted (some peer) => peer = phone
  | _ => True

/-- Only the phone connects, and unless it rejected our keys the last bond is its own. -/
structure OnePhone (phone : Identity) (run : BondRun partition.Storage T) : Prop where
  peerIdentity : ∀ link, run.task.link = some link → link.peerIdentity = phone
  held : (∀ link, run.task.link = some link → link.bondClearPending = false) →
    run.ledger.held phone = run.ledger.current

theorem OnePhone.keepsBond_iff {phone : Identity} (h : run.OnePhone phone)
    (event : BondTask.Event) : run.KeepsBond event ↔ run.RejectsLast event := by
  refine forall_congr' fun link => forall_congr' fun hlink => forall_congr' fun _ => ?_
  cases hclear : link.bondClearPending with
  | true =>
      rw [if_pos rfl]
      exact ⟨fun hnone _ => hnone, fun hlast => hlast rfl⟩
  | false =>
      have hheld := h.held fun other hother => by
        rw [hlink] at hother
        cases hother
        exact hclear
      rw [if_neg Bool.false_ne_true, h.peerIdentity link hlink]
      exact iff_of_true hheld fun htrue => nomatch htrue

theorem OnePhone.step_security {phone : Identity} (h : run.OnePhone phone)
    (hlink : run.task.link = some link) {event : SecurityEvent}
    (hlast : run.RejectsLast (.security event)) :
    (run.step env host (.security event)).OnePhone phone := by
  have hpeer := h.peerIdentity link hlink
  have hrejected : event.isRejection = true →
      (run.step env host (.security event)).OnePhone phone := by
    intro hevent
    rw [step_rejected hlink hevent]
    refine ⟨fun other hother => ?_, fun hclear => nomatch hclear _ rfl⟩
    cases hother
    exact hpeer
  cases event with
  | bondLost => exact hrejected rfl
  | pairingFailed peerRejected =>
      cases peerRejected with
      | true => exact hrejected rfl
      | false =>
          rw [BondRun.step_security hlink]
          exact ⟨h.peerIdentity, h.held⟩
  | encrypted =>
      rw [BondRun.step_security hlink]
      exact ⟨h.peerIdentity, h.held⟩
  | pairingComplete bond =>
      rw [BondRun.step_security hlink]
      refine ⟨h.peerIdentity, fun _ => ?_⟩
      rw [← hpeer]
      exact Function.update_self _ _ _
  | disconnected =>
      cases hclear : link.bondClearPending with
      | true =>
          have hnone := hlast link hlink rfl hclear
          rw [step_disconnected_of_rejected hlink hclear]
          refine ⟨(fun _ hgone => nomatch hgone), fun _ => ?_⟩
          rw [← hpeer, hnone]
          exact Function.update_self _ _ _
      | false =>
          rw [step_disconnected_of_kept hlink hclear]
          refine ⟨(fun _ hgone => nomatch hgone), fun _ => h.held fun other hother => ?_⟩
          rw [hlink] at hother
          cases hother
          exact hclear

theorem OnePhone.step {phone : Identity} (h : run.OnePhone phone) (htracked : Tracked host run)
    {event : BondTask.Event} (hphone : IsWith phone event) (hlast : run.RejectsLast event) :
    (run.step env host event).OnePhone phone := by
  cases event with
  | advertised ok => exact ⟨h.peerIdentity, h.held⟩
  | receive => exact ⟨h.peerIdentity, h.held⟩
  | accepted peer =>
      unfold BondRun.step noted BondTask.step
      dsimp only
      split
      · rename_i hphase
        have hlink := htracked.link_of_accepting hphase
        have hheld := h.held fun _ hsome => nomatch hlink.symm.trans hsome
        refine ⟨fun link hsome => ?_, fun _ => hheld⟩
        obtain ⟨identity, hpeer, rfl⟩ := Option.map_eq_some_iff.mp hsome
        subst hpeer
        exact hphone
      · exact h
  | security event =>
      cases hlink : run.task.link with
      | none =>
          rw [step_of_link_eq_none hlink]
          exact h
      | some link => exact h.step_security hlink hlast

/-- In a run in which the BLE task finds room, the copies are coherent after every connection
exactly when each connection keeps the bond: with one phone, when each that rejects our keys
does so last. -/
theorem coherentAgain_always_iff (env : Env) (hhost : host.Lawful) (mac : Bytes)
    (storage : partition.Storage) (pkcKeypair : Key × Key) (entropy : Nat → UInt32) (stack : T)
    (saved : Option Bond) (hrestored : Restored host storage stack saved)
    (events : List BondTask.Event)
    (hroom : Transition.Always (BondRun.step env host) HasRoom
      (start env mac storage pkcKeypair entropy stack saved) events) :
    (Transition.Always (BondRun.step env host) (CoherentAgain env host)
        (start env mac storage pkcKeypair entropy stack saved) events ↔
      Transition.Always (BondRun.step env host) KeepsBond
        (start env mac storage pkcKeypair entropy stack saved) events) ∧
    ∀ phone, (∀ bond, saved = some bond → bond.val.identity = phone) →
      (∀ event ∈ events, IsWith phone event) →
      (Transition.Always (BondRun.step env host) (CoherentAgain env host)
          (start env mac storage pkcKeypair entropy stack saved) events ↔
        Transition.Always (BondRun.step env host) RejectsLast
          (start env mac storage pkcKeypair entropy stack saved) events) := by
  have hstart := @tracked_start _ _ _ _ env _ host _ _ _ hrestored mac pkcKeypair entropy
  have hiff := @Transition.always_congr_of_always _ _ (BondRun.step env host) (Tracked host)
    HasRoom (CoherentAgain env host) KeepsBond
    (fun _ event h hroom => coherentAgain_iff hhost h event hroom)
    (fun _ event h hroom hkeeps => h.step hhost event hroom hkeeps) _ events hstart hroom
  refine ⟨hiff, fun phone hsaved hevents => hiff.trans ?_⟩
  have hone : (start env mac storage pkcKeypair entropy stack saved).OnePhone phone := by
    refine ⟨(fun _ hnone => nomatch hnone), fun _ => ?_⟩
    cases saved with
    | none => rfl
    | some bond =>
        change (some bond).filter (fun bond : Bond => bond.val.identity == phone) = some bond
        rw [Option.filter_some, if_pos (beq_iff_eq.mpr (hsaved bond rfl))]
  refine @Transition.always_congr_of_always _ _ (BondRun.step env host)
    (fun run => Tracked host run ∧ run.OnePhone phone)
    (fun run event => run.HasRoom event ∧ IsWith phone event) _ _
    (fun _ event h _ => h.2.keepsBond_iff event) ?_ _ _ ⟨hstart, hone⟩
    (hroom.and (Transition.always_of_forall hevents _))
  intro run event h hside hlast
  exact ⟨h.1.step hhost event hside.1 ((h.2.keepsBond_iff event).mpr hlast),
    h.2.step h.1 hside.2 hlast⟩

/-! ### A phone that pairs anew -/

def tableHost : BleHost (Identity → Option BondInformation) where
  bond stack peer := stack peer
  deliver stack peer event :=
    match event with
    | .pairingComplete bond => Function.update stack peer (some bond.val)
    | .disconnected => Function.update stack peer ((stack peer).filter (·.isBonded))
    | _ => stack
  removeBondInformation stack peer := Function.update stack peer none

theorem lawful_tableHost : tableHost.Lawful where
  paired _ _ _ := Function.update_self _ _ _
  pairingFailed _ _ := rfl
  encrypted _ _ := rfl
  disconnected _ _ := Function.update_self _ _ _
  elsewhere _ _ _ event hne := by
    cases event with
    | pairingComplete bond => exact Function.update_of_ne hne _ _
    | disconnected => exact Function.update_of_ne hne _ _
    | _ => rfl
  removed _ _ := Function.update_self _ _ _
  removed_elsewhere _ _ _ hne := Function.update_of_ne hne _ _

def phone : Identity where
  addr := { kind := .randomAddr, raw := ⟨[1, 2, 3, 4, 5, 0xc6], rfl⟩ }
  irk := none

def bondUnder (byte : UInt8) : Bond where
  val :=
    { ltk := ⟨List.replicate 16 byte, List.length_replicate⟩
      identity := phone
      securityLevel := .encryptedAuthenticated
      isBonded := true }
  property := rfl

def connected : List BondTask.Event := [.advertised true, .accepted (some phone)]

def firstPairing : List BondTask.Event :=
  connected ++ [.security (.pairingComplete (bondUnder 7)), .security .encrypted,
    .security .disconnected, .receive, .receive, .receive]

/-- The phone forgets the node, and gives up. -/
def forgotten : List BondTask.Event :=
  firstPairing ++ connected ++ [.security .bondLost, .security .disconnected]

/-- The phone forgets the node, and pairs with it in the same connection. -/
def pairedAnew : List BondTask.Event :=
  firstPairing ++ connected ++ [.security .bondLost, .security (.pairingComplete (bondUnder 9)),
    .security .encrypted]

def blankFlash : (@wholeFlash Medium.nor).Storage :=
  NvsStorage.opened wholeFlash NvsStorage.blankImage

def blankNode : BondRun (@wholeFlash Medium.nor).Storage (Identity → Option BondInformation) :=
  start KnownAnswers.defaultKey.env KnownAnswers.mac blankFlash KnownAnswers.noKeypair
    KnownAnswers.noEntropy (fun _ => none) none

theorem restored_blankFlash : Restored tableHost blankFlash (fun _ => none) none where
  flash := by decide +kernel
  stack _ := rfl

theorem hasRoom_of_lt {events : List BondTask.Event}
    (h : Transition.Always (BondRun.step env host)
      (fun run _ => run.task.fw.meshIn.length < MESH_IN_QUEUE_SIZE) run events) :
    Transition.Always (BondRun.step env host) HasRoom run events := by
  intro step hstep
  have hlt := h step hstep
  unfold HasRoom
  split
  · exact hlt
  · trivial

theorem forgotten_coherent :
    Transition.Always (BondRun.step KnownAnswers.defaultKey.env tableHost)
      (CoherentAgain KnownAnswers.defaultKey.env tableHost) blankNode forgotten := by
  refine ((coherentAgain_always_iff KnownAnswers.defaultKey.env lawful_tableHost
    KnownAnswers.mac blankFlash KnownAnswers.noKeypair KnownAnswers.noEntropy (fun _ => none) none
    restored_blankFlash forgotten (hasRoom_of_lt (by decide +kernel))).2 phone
    (fun _ hnone => nomatch hnone) ?_).mpr ?_
  · simp [forgotten, firstPairing, connected, IsWith]
  · have hlast : Transition.Always (BondRun.step KnownAnswers.defaultKey.env tableHost)
        (fun run _ => run.task.link.any (·.bondClearPending) = true →
          run.ledger.current.isNone = true) blankNode forgotten := by
      decide +kernel
    intro step hstep link hlink _ hclear
    refine Option.isNone_iff_eq_none.mp (hlast step hstep ?_)
    rw [hlink]
    exact hclear

/-- The bond that the phone makes anew stays on flash, but not with the BLE task. -/
theorem pairedAnew_not_coherent :
    Transition.Always (BondRun.step KnownAnswers.defaultKey.env tableHost) HasRoom blankNode
        (pairedAnew ++ [.security .disconnected]) ∧
      ¬ Transition.Always (BondRun.step KnownAnswers.defaultKey.env tableHost)
        (CoherentAgain KnownAnswers.defaultKey.env tableHost) blankNode
        (pairedAnew ++ [.security .disconnected]) := by
  refine ⟨hasRoom_of_lt (by decide +kernel), fun hcoherent => ?_⟩
  have hlink : (Transition.run (BondRun.step KnownAnswers.defaultKey.env tableHost) blankNode
      pairedAnew).task.link = some ⟨phone, true⟩ := by
    decide +kernel
  have hlast := @Transition.forall_trace_concat _ _ _
    (fun step => CoherentAgain KnownAnswers.defaultKey.env tableHost step.before step.event)
    _ _ _ hcoherent
  have hkept := congrArg Option.isSome (hlast _ hlink rfl).bondBytes
  revert hkept
  decide +kernel

end BondRun

end Meshtastenstein
