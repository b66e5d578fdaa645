import Meshtastenstein.Delivery
import Meshtastenstein.DirtyFlag
import Meshtastenstein.LowBattery
/-!
# Durability of sleep

The mesh task saves the node database before it hands over a request to shut down.  Nobody
saves it when the watchdog itself decides to sleep, nor while the watchdog waits.
-/

namespace Meshtastenstein

open Lib

variable {S : Type} [MeshStorage S] {env : Env} {board : Board}

/-! ## The mesh task -/

namespace MeshState

def Saves (env : Env) (state : MeshState S) : Event → Prop
  | .mesh event => state.started = true ∧
      Flushes (handled env state (.mesh event)) state.lastNodeDbFlush
  | _ => False

/-- What the step saves is written. -/
def WritesOk (env : Env) (state : MeshState S) (event : Event) : Prop :=
  Saves env state event →
    (MeshStorage.saveNodeDb (handled env state event).storage
      (handled env state event).nodeDb).2 = true

def LeavesDirty (env : Env) (state : MeshState S) (event : Event) : Prop :=
  (state.ctx.nodeDb.edited (state.edits env event)).dirty = true ∧ ¬ Saves env state event

theorem nodeDb_step {state : MeshState S} {event : Event} (hok : WritesOk env state event)
    (hrestarts : restarts env state event = false) :
    (Saves env state event ∧ (step env state event).ctx.nodeDb.dirty = false) ∨
      (¬ Saves env state event ∧ (step env state event).ctx.nodeDb =
        state.ctx.nodeDb.edited (state.edits env event)) := by
  cases event with
  | mesh event =>
      by_cases hstarted : state.started = true
      · have hhoused := @ctx_housed S _ env state event fun h => hok ⟨hstarted, h⟩
        rw [step_eq_housed hstarted hrestarts, hhoused]
        by_cases hflushes : Flushes (handled env state (.mesh event)) state.lastNodeDbFlush
        · left
          rw [if_pos hflushes]
          refine ⟨⟨hstarted, hflushes⟩, ?_⟩
          exact congrArg NodeDb.dirty (nodeDb_saveNodeDb_of_ok (hok ⟨hstarted, hflushes⟩))
        · right
          rw [if_neg hflushes]
          exact ⟨fun h => hflushes h.2, nodeDb_handled state (.mesh event)⟩
      · right
        refine ⟨fun h => hstarted h.1, ?_⟩
        unfold step edits
        dsimp only
        rw [if_neg hstarted, if_neg hstarted]
        rfl
  | _ =>
      right
      refine ⟨id, ?_⟩
      rw [step_of_timer hrestarts (by intro mesh hmesh; cases hmesh), nodeDb_handled]

theorem clean_step {state : MeshState S} {event : Event} (hok : WritesOk env state event)
    (hrestarts : restarts env state event = false) (hclean : ¬ LeavesDirty env state event) :
    (step env state event).ctx.nodeDb.dirty = false := by
  rcases nodeDb_step hok hrestarts with ⟨-, hsaved⟩ | ⟨hkept, hedited⟩
  · exact hsaved
  · rw [hedited]
    exact Bool.eq_false_iff.mpr fun hdirty => hclean ⟨hdirty, hkept⟩

theorem clean_of_shutdownCmd {state : MeshState S} {event : Event}
    (hok : WritesOk env state event) (hrestarts : restarts env state event = false)
    (hcmd : (step env state event).shutdownCmd ≠ state.shutdownCmd) :
    (step env state event).ctx.nodeDb.dirty = false := by
  cases event with
  | mesh event =>
      by_cases hstarted : state.started = true
      · rw [step_eq_housed hstarted hrestarts, shutdownCmd_housed] at hcmd
        have hrequested : (handled env state (.mesh event)).shutdownAfterSecs.isSome = true := by
          cases hsecs : (handled env state (.mesh event)).shutdownAfterSecs with
          | none =>
              rw [hsecs] at hcmd
              exact absurd rfl hcmd
          | some secs => rfl
        refine clean_step hok hrestarts fun hdirty => hdirty.2 ⟨hstarted, ?_, Or.inr hrequested⟩
        rw [nodeDb_handled]
        exact hdirty.1
      · refine absurd ?_ hcmd
        unfold step
        dsimp only
        rw [if_neg hstarted]
  | announce =>
      refine absurd ?_ hcmd
      unfold step announce
      dsimp only
      split <;> rfl
  | rebroadcastDue =>
      refine absurd ?_ hcmd
      unfold step
      dsimp only
      split <;> rfl
  | retransmissionDue =>
      refine absurd ?_ hcmd
      unfold step
      dsimp only
      split <;> rfl
  | powerCycle => cases hrestarts
  | _ => exact absurd rfl hcmd

end MeshState

/-! ## The watchdog -/

namespace Machine

def SleepPending (m : Machine S) : Prop :=
  m.fw.mesh.shutdownCmd.isSome = true ∨
    ∃ wakeAt secs, m.watchdog.phase = .leaving wakeAt secs

/-- The watchdog decides on a sleep that nobody asked for. -/
def Decides (board : Board) (m : Machine S) : Prop :=
  Checks m ∧ (m.batteryIsLow || m.noteActivity.isInactive board) = true

/-- The watchdog calls `enter_sleep`. -/
def EntersSleep (m : Machine S) (event : Event) : Prop :=
  event = .watchdog ∧ ∃ wakeAt, m.watchdog.phase = .leaving wakeAt 0 ∧ wakeAt ≤ m.now

def SleepsClean (m : Machine S) (event : Event) : Prop :=
  EntersSleep m event → m.fw.mesh.ctx.nodeDb.dirty = false

def WritesOk (env : Env) (m : Machine S) : Event → Prop
  | .task task => ∀ work ∈ m.fw.meshEvent task, MeshState.WritesOk env m.fw.mesh work
  | _ => True

/-- The watchdog decides by itself only while the database is clean, and while a sleep is
pending no step leaves it marked. -/
def Spares (env : Env) (board : Board) (m : Machine S) : Event → Prop
  | .watchdog => Decides board m → m.fw.mesh.ctx.nodeDb.dirty = false
  | .task task => SleepPending m → ∀ work ∈ m.fw.meshEvent task,
      MeshState.restarts env m.fw.mesh work = false → ¬ MeshState.LeavesDirty env m.fw.mesh work
  | _ => True

def Ready (m : Machine S) : Prop := SleepPending m → m.fw.mesh.ctx.nodeDb.dirty = false

omit [MeshStorage S] in
theorem nodeDb_poll (m : Machine S) :
    (m.poll board).fw.mesh.ctx.nodeDb = m.fw.mesh.ctx.nodeDb := by
  unfold poll check keepLeaving
  dsimp only
  repeat' split
  all_goals rfl

omit [MeshStorage S] in
/-- When a sleep is pending after a look of the watchdog, it was before, or the watchdog has
decided on it. -/
theorem pending_of_poll {m : Machine S} (h : SleepPending (m.poll board)) :
    SleepPending m ∨ Decides board m := by
  cases hphase : m.watchdog.phase with
  | leaving wakeAt secs => exact Or.inl (Or.inr ⟨wakeAt, secs, hphase⟩)
  | asleep =>
      unfold poll at h
      rw [hphase] at h
      exact Or.inl h
  | feeding since =>
      cases hshutdown : m.fw.mesh.shutdownCmd with
      | some secs => exact Or.inl (Or.inl (by rw [hshutdown]; rfl))
      | none =>
          by_cases hdue : m.activity.isSome = true ∨ since + WATCHDOG_FEED_INTERVAL_MS ≤ m.now
          · have hchecks : Checks m := ⟨hshutdown, since, hphase, hdue⟩
            refine Or.inr ⟨hchecks, ?_⟩
            rw [poll_of_checks hchecks] at h
            by_contra hneither
            rw [if_neg hneither] at h
            rcases h with hcmd | ⟨wakeAt, secs, hleaving⟩
            · change m.fw.mesh.shutdownCmd.isSome = true at hcmd
              rw [hshutdown] at hcmd
              cases hcmd
            · cases hleaving
          · unfold poll at h
            rw [hphase] at h
            dsimp only at h
            rw [if_neg hdue] at h
            exact Or.inl h

theorem restarts_of_meshEvent {m : Machine S} {task : Firmware.Event} {work : MeshState.Event}
    (h : m.fw.meshEvent task = some work) :
    m.restarts env task = MeshState.restarts env m.fw.mesh work := by
  unfold restarts
  rw [h]
  rfl

theorem not_pending_of_restarts {m : Machine S} {task : Firmware.Event}
    (h : m.restarts env task = true) : ¬ SleepPending (m.runTask env board task) := by
  cases hwork : m.fw.meshEvent task with
  | none =>
      unfold restarts at h
      rw [hwork] at h
      cases h
  | some work =>
      have hrestarts := (restarts_of_meshEvent hwork).symm.trans h
      obtain ⟨housed, -, hreboot⟩ := MeshState.step_of_restarts hrestarts
      have hmesh := (@Firmware.mesh_step_of_meshEvent S _ env board _ _ _ hwork).trans hreboot
      unfold runTask
      dsimp only
      rw [if_pos h]
      rintro (hcmd | ⟨wakeAt, secs, hleaving⟩)
      · change (Firmware.step env board m.fw task).mesh.shutdownCmd.isSome = true at hcmd
        rw [hmesh] at hcmd
        cases hcmd
      · cases hleaving

theorem ready_runTask {m : Machine S} (h : Ready m) {task : Firmware.Event}
    (hok : WritesOk env m (.task task)) (hspares : Spares env board m (.task task)) :
    Ready (m.runTask env board task) := by
  cases hrestarts : m.restarts env task with
  | true => exact fun hpending => absurd hpending (not_pending_of_restarts hrestarts)
  | false =>
      intro hpending
      unfold runTask at hpending ⊢
      dsimp only at hpending ⊢
      rw [if_neg (by rw [hrestarts]; exact Bool.false_ne_true)] at hpending ⊢
      change (Firmware.step env board m.fw task).mesh.shutdownCmd.isSome = true ∨ _ at hpending
      change (Firmware.step env board m.fw task).mesh.ctx.nodeDb.dirty = false
      cases hwork : m.fw.meshEvent task with
      | none =>
          obtain ⟨_, _, hmesh⟩ := @Firmware.mesh_step_of_none S _ env board _ _ hwork
          rw [hmesh] at hpending ⊢
          exact h hpending
      | some work =>
          have hmesh := @Firmware.mesh_step_of_meshEvent S _ env board _ _ _ hwork
          have hgoes := (restarts_of_meshEvent hwork).symm.trans hrestarts
          have hwrites := hok work hwork
          rw [hmesh] at hpending ⊢
          by_cases hbefore : SleepPending m
          · exact MeshState.clean_step hwrites hgoes
              (hspares hbefore work hwork hgoes)
          · refine MeshState.clean_of_shutdownCmd hwrites hgoes fun hsame => hbefore ?_
            rw [hsame] at hpending
            exact hpending

theorem ready_step {m : Machine S} (h : Ready m) {event : Event} (hok : WritesOk env m event)
    (hspares : Spares env board m event) : Ready (m.step env board event) := by
  unfold step
  split
  · exact ready_runTask h hok hspares
  · exact h
  · exact h
  · exact ready_runTask h hok hspares
  · exact h
  · unfold takeLevel
    split <;> exact h
  · intro hpending
    rw [nodeDb_poll]
    rcases pending_of_poll hpending with hbefore | hdecides
    · exact h hbefore
    · exact hspares hdecides

omit [MeshStorage S] in
theorem sleepsClean_of_ready {m : Machine S} (h : Ready m) (event : Event) :
    SleepsClean m event := by
  rintro ⟨-, wakeAt, hleaving, -⟩
  exact h (Or.inr ⟨wakeAt, 0, hleaving⟩)

/-- In every run whose writes succeed the node sleeps with a clean database, as long as the
watchdog decides by itself only while it is clean, and no step marks it while a sleep is
pending. -/
theorem sleepsClean_run (env : Env) (board : Board) (mac : Bytes) (storage : S)
    (pkcKeypair : Key × Key) (entropy : Nat → UInt32) (events : List Event)
    (hok : Transition.Always (step env board) (WritesOk env)
      (boot env mac storage pkcKeypair entropy) events)
    (hspares : Transition.Always (step env board) (Spares env board)
      (boot env mac storage pkcKeypair entropy) events) :
    Transition.Always (step env board) SleepsClean
      (boot env mac storage pkcKeypair entropy) events := by
  have hboot : Ready (boot env mac storage pkcKeypair entropy) := by
    rintro (hcmd | ⟨wakeAt, secs, hleaving⟩)
    · cases hcmd
    · cases hleaving
  have hstep : ∀ (m : Machine S) (event : Event), Ready m →
      WritesOk env m event ∧ Spares env board m event → Ready (m.step env board event) :=
    fun m event hm hboth => ready_step hm hboth.1 hboth.2
  exact Transition.forall_trace hstep (fun m event hm _ => sleepsClean_of_ready hm event) hboot
    (hok.and hspares)

/-! ## Two runs -/

section

omit [MeshStorage S]

instance (m : Machine S) : Decidable (Checks m) :=
  match hphase : m.watchdog.phase with
  | .feeding since =>
      decidable_of_iff (m.fw.mesh.shutdownCmd = none ∧
          (m.activity.isSome = true ∨ since + WATCHDOG_FEED_INTERVAL_MS ≤ m.now)) <| by
        unfold Checks
        rw [hphase]
        exact and_congr_right fun _ => ⟨fun h => ⟨since, rfl, h⟩, fun ⟨_, hsame, h⟩ =>
          WatchdogPhase.feeding.inj hsame ▸ h⟩
  | .leaving _ _ => isFalse fun ⟨_, _, hsame, _⟩ => nomatch hphase.symm.trans hsame
  | .asleep => isFalse fun ⟨_, _, hsame, _⟩ => nomatch hphase.symm.trans hsame

instance (m : Machine S) : Decidable (SleepPending m) :=
  match hphase : m.watchdog.phase with
  | .leaving wakeAt secs => isTrue (Or.inr ⟨wakeAt, secs, hphase⟩)
  | .feeding _ => decidable_of_iff (m.fw.mesh.shutdownCmd.isSome = true)
      ⟨Or.inl, fun h => h.resolve_right fun ⟨_, _, hsame⟩ => nomatch hphase.symm.trans hsame⟩
  | .asleep => decidable_of_iff (m.fw.mesh.shutdownCmd.isSome = true)
      ⟨Or.inl, fun h => h.resolve_right fun ⟨_, _, hsame⟩ => nomatch hphase.symm.trans hsame⟩

instance (m : Machine S) : Decidable (Decides board m) := inferInstanceAs (Decidable (_ ∧ _))

end

instance (state : MeshState S) (work : MeshState.Event) :
    Decidable (MeshState.Saves env state work) :=
  match work with
  | .mesh _ => inferInstanceAs (Decidable (_ ∧ MeshState.Flushes _ _))
  | .announce | .rebroadcastDue | .retransmissionDue | .bleTaken | .loraTaken | .elapse _
  | .powerCycle => isFalse id

instance (state : MeshState S) (work : MeshState.Event) :
    Decidable (MeshState.LeavesDirty env state work) := inferInstanceAs (Decidable (_ ∧ _))

instance (m : Machine S) (event : Event) : Decidable (Spares env board m event) :=
  match event with
  | .watchdog => inferInstanceAs (Decidable (Decides board m → _))
  | .task task => inferInstanceAs (Decidable (SleepPending m → ∀ work ∈ m.fw.meshEvent task,
      MeshState.restarts env m.fw.mesh work = false → ¬ MeshState.LeavesDirty env m.fw.mesh work))
  | .batteryRead _ | .levelTaken => isTrue trivial

theorem writesOk_fakeStorage (m : Machine FakeStorage) (event : Event) : WritesOk env m event := by
  cases event with
  | task task => exact fun _ _ _ => rfl
  | _ => trivial

def bootedNode : Machine FakeStorage :=
  boot KnownAnswers.defaultKey.adminEnv KnownAnswers.mac {} KnownAnswers.noKeypair
    KnownAnswers.noEntropy

/-- Node `0x11223344` is heard. -/
def hearing : List Event :=
  [.task .announce, .task (.posted (.loraRx Handlers.FromRadio.strangerAck ⟨0, 0⟩)), .task .receive]

/-- The phone has this node shut down in a second. -/
def shutdownSoon : Bytes := [0x0a, 0x09, 0x22, 0x07, 0x08, 0x06, 0x12, 0x03, 0x90, 0x06, 0x01]

def shutdownRun : List Event :=
  hearing ++ [.task (.posted (.bleRx shutdownSoon)), .task .receive, .task (.elapse 500),
    .watchdog, .task (.elapse 500), .watchdog, .task (.elapse 1000), .watchdog]

/-- A node that was asked to sleeps with what it has heard on flash. -/
theorem sleepsClean_shutdownRun :
    Transition.Always (step KnownAnswers.defaultKey.adminEnv .nrf52) SleepsClean bootedNode
      shutdownRun := by
  refine @sleepsClean_run FakeStorage _ KnownAnswers.defaultKey.adminEnv .nrf52 KnownAnswers.mac {}
    KnownAnswers.noKeypair KnownAnswers.noEntropy shutdownRun ?_ ?_
  · exact fun t _ => writesOk_fakeStorage t.before t.event
  · decide

example : (Transition.run (step KnownAnswers.defaultKey.adminEnv .nrf52) bootedNode
    shutdownRun).watchdog.phase = .asleep := by decide

/-- The battery runs low right after a node was heard. -/
def lowBatteryRun : List Event :=
  hearing ++ [.batteryRead 3230, .task (.elapse 500), .watchdog, .task (.elapse 500)]

/-- On both boards the node sleeps without having saved what it heard. -/
theorem lowBattery_sleeps_dirty :
    let env := KnownAnswers.defaultKey.adminEnv
    ∀ board,
      Transition.Always (step env board) (WritesOk env) bootedNode lowBatteryRun ∧
      EntersSleep (Transition.run (step env board) bootedNode lowBatteryRun) .watchdog ∧
      ¬ SleepsClean (Transition.run (step env board) bootedNode lowBatteryRun) .watchdog := by
  intro env board
  have hsleeps : EntersSleep (Transition.run (step env board) bootedNode lowBatteryRun)
      .watchdog := by
    cases board <;> exact ⟨rfl, 1000, by decide, by decide⟩
  have hdirty : (Transition.run (step env board) bootedNode
      lowBatteryRun).fw.mesh.ctx.nodeDb.dirty = true := by
    cases board <;> decide
  refine ⟨fun t _ => writesOk_fakeStorage t.before t.event, hsleeps, fun hclean => ?_⟩
  exact Bool.false_ne_true ((hclean hsleeps).symm.trans hdirty)

end Machine

end Meshtastenstein
