import Meshtastenstein.KnownAnswers
import Meshtastenstein.Watchdog
/-!
# Low battery

The battery level is a cell with two readers.  The watchdog learns of a low level as long
as the GATT event loop does not come first, and an empty battery does not hide it.
-/

namespace Meshtastenstein.Machine

open Lib

variable {S : Type}

def LowPublished (m : Machine S) : Prop :=
  ∃ before level voltageMv later, m.readings = before ++ .put (level, voltageMv) :: later ∧
    isLowBattery level = true ∧ ∀ reading, .put reading ∈ later → reading.1 ≤ level

/-- A low level that was published is observed, and the node goes to sleep. -/
def Observes [MeshStorage S] (env : Env) (board : Board) (m : Machine S) (event : Event) : Prop :=
  event = .watchdog → Checks m → LowPublished m →
    ∃ level voltageMv, m.batLevel = some (level, voltageMv) ∧ isLowBattery level = true ∧
      (m.step env board event).watchdog.phase = .leaving (m.now + SLEEP_GRACE_MS) 0

/-- Whenever the watchdog looks for a low level that was published, the last that happened to
the signal is a publication, and not of level 0. -/
def LastStands (m : Machine S) (event : Event) : Prop :=
  event = .watchdog → Checks m → LowPublished m →
    ∃ level voltageMv, m.readings.getLast? = some (.put (level, voltageMv)) ∧ level ≠ 0

theorem isLowBattery_iff (level : UInt8) :
    isLowBattery level = true ↔ level ≠ 0 ∧ level ≤ LOW_BATTERY_THRESHOLD := by
  unfold isLowBattery
  rw [Bool.and_eq_true, decide_eq_true_iff, decide_eq_true_iff, UInt8.pos_iff_ne_zero]

theorem isLowBattery_of_last {m : Machine S} (h : LowPublished m) {level : UInt8}
    {voltageMv : UInt16} (hlast : m.readings.getLast? = some (.put (level, voltageMv)))
    (hlevel : level ≠ 0) : isLowBattery level = true := by
  obtain ⟨before, published, publishedMv, later, hreadings, hlow, hlater⟩ := h
  rw [hreadings] at hlast
  rcases Signal.getLast?_append_cons before _ later hlast with hsame | hmem
  · cases hsame
    exact hlow
  · have hle : level ≤ published := hlater _ hmem
    exact (isLowBattery_iff level).mpr
      ⟨hlevel, UInt8.le_trans hle ((isLowBattery_iff published).mp hlow).2⟩

def Recorded (m : Machine S) : Prop := m.batLevel = Signal.after m.readings

variable [MeshStorage S] {env : Env} {board : Board}

omit [MeshStorage S] in
theorem recorded_check {m : Machine S} (h : Recorded m) : Recorded (m.check board) := by
  unfold check
  cases m.fw.mesh.shutdownCmd with
  | some secs => exact h
  | none =>
      dsimp only
      repeat' split
      all_goals rfl

omit [MeshStorage S] in
theorem recorded_poll {m : Machine S} (h : Recorded m) : Recorded (m.poll board) := by
  unfold poll
  split
  · split
    · exact recorded_check h
    · exact h
  · split
    · unfold keepLeaving
      dsimp only
      split <;> exact h
    · exact h
  · exact h

theorem recorded_runTask {m : Machine S} (h : Recorded m) (event : Firmware.Event) :
    Recorded (m.runTask env board event) := by
  unfold runTask
  dsimp only
  split
  · exact (Signal.after_concat m.readings .take).symm
  · exact h

theorem recorded_step {m : Machine S} (h : Recorded m) (event : Event) :
    Recorded (m.step env board event) := by
  unfold step
  split
  · exact recorded_runTask h _
  · exact h
  · exact h
  · exact recorded_runTask h _
  · exact (Signal.after_concat m.readings (.put _)).symm
  · unfold takeLevel
    split
    · exact (Signal.after_concat m.readings .take).symm
    · exact h
  · exact recorded_poll h

theorem step_of_low {m : Machine S} (hchecks : Checks m) (hlow : m.batteryIsLow = true) :
    (m.step env board .watchdog).watchdog.phase = .leaving (m.now + SLEEP_GRACE_MS) 0 := by
  have hpoll : m.step env board .watchdog = m.poll board := by
    obtain ⟨-, since, hphase, -⟩ := hchecks
    unfold step
    rw [hphase]
  rw [hpoll, poll_of_checks hchecks, hlow]
  rfl

theorem observes_iff {m : Machine S} (h : Recorded m) (event : Event) :
    Observes env board m event ↔ LastStands m event := by
  refine forall₃_congr fun hevent hchecks hpublished => ?_
  unfold Recorded at h
  constructor
  · rintro ⟨level, voltageMv, hlevel, hlow, -⟩
    rw [h] at hlevel
    exact ⟨level, voltageMv, (Signal.after_eq_some_iff _ _).mp hlevel,
      ((isLowBattery_iff level).mp hlow).1⟩
  · rintro ⟨level, voltageMv, hlast, hne⟩
    have hlevel := h.trans ((Signal.after_eq_some_iff _ _).mpr hlast)
    have hlow := isLowBattery_of_last hpublished hlast hne
    have hseen : m.batteryIsLow = true := by
      unfold batteryIsLow
      rw [hlevel]
      exact hlow
    exact ⟨level, voltageMv, hlevel, hlow, hevent ▸ step_of_low hchecks hseen⟩

/-- In every run the low levels are observed exactly as long as the last that happens to the
signal before a look is a publication other than 0. -/
theorem observes_run_iff (env : Env) (board : Board) (mac : Bytes) (storage : S)
    (pkcKeypair : Key × Key) (entropy : Nat → UInt32) (events : List Event) :
    Transition.Always (step env board) (Observes env board)
        (boot env mac storage pkcKeypair entropy) events ↔
      Transition.Always (step env board) LastStands
        (boot env mac storage pkcKeypair entropy) events := by
  have hboot : Recorded (boot env mac storage pkcKeypair entropy) := rfl
  exact Transition.always_congr (fun _ event hm => observes_iff hm event)
    (fun _ event hm _ => recorded_step hm event) hboot

def bootedMachine : Machine FakeStorage :=
  boot (KnownAnswers.env {}) KnownAnswers.mac {} KnownAnswers.noKeypair KnownAnswers.noEntropy

/-- A phone is connected when the battery is read at 4 %. -/
def takenRun : List Event :=
  [.task (.advertised true), .task (.accepted true), .batteryRead 3230, .levelTaken,
    .task (.elapse 500)]

/-- The battery is read at 4 % and then as empty, before the watchdog looks. -/
def emptyRun : List Event :=
  [.batteryRead 3230, .batteryRead 3050, .task (.elapse 500)]

theorem not_observes_of_lost {m : Machine S} (hchecks : Checks m) (hpublished : LowPublished m)
    (hlost : m.batteryIsLow = false) : ¬ Observes env board m .watchdog := by
  intro hobserves
  obtain ⟨level, voltageMv, hlevel, hlow, -⟩ := hobserves rfl hchecks hpublished
  unfold batteryIsLow at hlost
  rw [hlevel] at hlost
  exact Bool.false_ne_true (hlost.symm.trans hlow)

/-- On both boards the phone, or an empty battery, hides a low level from the watchdog. -/
theorem low_level_hidden :
    let env := KnownAnswers.env {}
    ∀ board,
      ¬ Observes env board (Transition.run (step env board) bootedMachine takenRun) .watchdog ∧
      ¬ Observes env board (Transition.run (step env board) bootedMachine emptyRun) .watchdog := by
  intro env board
  constructor
  · refine not_observes_of_lost (by cases board <;> exact ⟨rfl, 0, rfl, Or.inr (by decide)⟩)
      ⟨[], 4, 3230, [.take], ?_, rfl, by simp⟩ ?_
    · cases board <;> rfl
    · cases board <;> rfl
  · refine not_observes_of_lost (by cases board <;> exact ⟨rfl, 0, rfl, Or.inr (by decide)⟩)
      ⟨[], 4, 3230, [.put (0, 3050)], ?_, rfl, by simp⟩ ?_
    · cases board <;> rfl
    · cases board <;> rfl

end Meshtastenstein.Machine
