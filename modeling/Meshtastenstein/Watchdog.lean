import Meshtastenstein.BleTask
import Meshtastenstein.Lib.SingleSlot
/-!
# Watchdog

The battery task, the watchdog task and the signals between them and the others.  The
watchdog puts the node to sleep: when asked to, when the battery is low, and on one board
when nothing happens.
-/

namespace Meshtastenstein

open Lib

/-! ## Battery -/

/-- Open-circuit voltages of a battery, in steps of 10 %. -/
def OCV_TABLE : List Nat :=
  [4200, 4050, 3900, 3800, 3730, 3680, 3630, 3570, 3500, 3400, 3100]

def voltageToLevel (mvolts : UInt16) : UInt8 :=
  let v := mvolts.toNat
  if OCV_TABLE.getD 0 0 ≤ v then 100
  else if v ≤ OCV_TABLE.getD 10 0 then 0
  else
    match (List.range 10).find? fun i => OCV_TABLE.getD (i + 1) 0 ≤ v with
    | some i =>
        let vHigh := OCV_TABLE.getD i 0
        let vLow := OCV_TABLE.getD (i + 1) 0
        let pctHigh := 100 - i * 10
        let pctLow := 100 - (i + 1) * 10
        UInt8.ofNat (pctLow + (v - vLow) * (pctHigh - pctLow) / (vHigh - vLow))
    | none => 0

example : (voltageToLevel 4200, voltageToLevel 3975, voltageToLevel 3230, voltageToLevel 3100) =
    (100, 85, 4, 0) := by decide

/-- A level at which the watchdog puts the node to sleep. -/
def isLowBattery (level : UInt8) : Bool :=
  decide (0 < level) && decide (level ≤ LOW_BATTERY_THRESHOLD)

/-! ## Watchdog -/

def WATCHDOG_FEED_INTERVAL_MS : Nat := 500

def SLEEP_GRACE_MS : Nat := 500

/-- A node that cannot be woken does not sleep because nothing happens. -/
def Board.sleepOnInactivity : Board → Bool
  | .esp32 => true
  | .nrf52 => false

inductive WatchdogPhase
  /-- Fed, it waits for activity, for one interval at most. -/
  | feeding (since : Nat)
  /-- It waits to enter sleep, with so many seconds of the requested delay to go. -/
  | leaving (wakeAt : Nat) (remainingSecs : Nat)
  | asleep
deriving DecidableEq

structure Watchdog where
  lastActivity : Nat
  phase : WatchdogPhase

structure Machine (S : Type) where
  fw : Firmware S
  activity : Option Nat
  batLevel : Option (UInt8 × UInt16)
  watchdog : Watchdog
  /-- What was done to `bat_level` since the watchdog looked at it.  It is kept for the
  specification only: no step depends on it. -/
  readings : List (Signal.Op (UInt8 × UInt16))

/-- The event counts against inactivity; what this node sent itself does not. -/
def MeshEvent.isActivity (myNodeNum : UInt32) : MeshEvent → Bool
  | .loraRx frame _ => (frame.header.map fun header => header.sender != myNodeNum).getD true
  | .bleRx _ => true
  | .bleConnected => true
  | _ => false

namespace Machine

variable {S : Type}

/-- After a reset the tasks and the signals start over. -/
def start (fw : Firmware S) (readings : List (Signal.Op (UInt8 × UInt16))) : Machine S where
  fw := fw
  activity := none
  batLevel := none
  watchdog := { lastActivity := fw.mesh.ctx.now, phase := .feeding fw.mesh.ctx.now }
  readings := readings

def now (m : Machine S) : Nat := m.fw.mesh.ctx.now

def withPhase (m : Machine S) (phase : WatchdogPhase) : Machine S :=
  { m with watchdog := { m.watchdog with phase := phase } }

/-! ## Battery task -/

def publish (m : Machine S) (voltageMv : UInt16) : Machine S :=
  let level := voltageToLevel voltageMv
  { m with
    fw := m.fw.tryPost (.batteryUpdate level voltageMv)
    batLevel := some (level, voltageMv)
    readings := m.readings ++ [.put (level, voltageMv)] }

/-- The GATT event loop takes the level, to notify the phone. -/
def takeLevel (m : Machine S) : Machine S :=
  match m.fw.phase, m.batLevel with
  | .connected _, some _ => { m with batLevel := none, readings := m.readings ++ [.take] }
  | _, _ => m

/-! ## Watchdog task -/

def leave (m : Machine S) (secs : Nat) : Machine S :=
  { m with fw := m.fw.commandDisconnect }.withPhase (.leaving (m.now + SLEEP_GRACE_MS) secs)

/-- `activity_signal.wait()` or its timeout has returned. -/
def noteActivity (m : Machine S) : Machine S :=
  { m with
    activity := none
    watchdog := { m.watchdog with lastActivity := m.activity.getD m.watchdog.lastActivity } }

def takeShutdown (m : Machine S) : Machine S :=
  { m with fw := { m.fw with mesh := { m.fw.mesh with shutdownCmd := none } } }

/-- `bat_level.try_take()`. -/
def takeReading (m : Machine S) : Machine S := { m with batLevel := none, readings := [] }

def batteryIsLow (m : Machine S) : Bool :=
  (m.batLevel.map fun reading => isLowBattery reading.1).getD false

def isInactive (board : Board) (m : Machine S) : Bool :=
  board.sleepOnInactivity && decide (INACTIVITY_TIMEOUT_MS ≤ m.now - m.watchdog.lastActivity)

/-- Whether the node is to sleep: it was asked to, its battery is low, or nothing happens. -/
def check (board : Board) (m : Machine S) : Machine S :=
  match m.fw.mesh.shutdownCmd with
  | some secs => m.takeShutdown.leave secs.toNat
  | none =>
      if m.batteryIsLow then m.takeReading.leave 0
      else if m.isInactive board then m.takeReading.leave 0
      else m.takeReading.withPhase (.feeding m.now)

def keepLeaving (m : Machine S) (remainingSecs : Nat) : Machine S :=
  let chunk := min remainingSecs (max (WATCHDOG_FEED_INTERVAL_MS / 1000) 1)
  if remainingSecs = 0 then m.withPhase .asleep
  else m.withPhase (.leaving (m.now + chunk * 1000) (remainingSecs - chunk))

def poll (board : Board) (m : Machine S) : Machine S :=
  match m.watchdog.phase with
  | .feeding since =>
      if m.activity.isSome ∨ since + WATCHDOG_FEED_INTERVAL_MS ≤ m.now then
        m.noteActivity.check board
      else m
  | .leaving wakeAt remainingSecs =>
      if wakeAt ≤ m.now then m.keepLeaving remainingSecs else m
  | .asleep => m

/-- The watchdog looks at the battery level when it is polled. -/
def Checks (m : Machine S) : Prop :=
  m.fw.mesh.shutdownCmd = none ∧
    ∃ since, m.watchdog.phase = .feeding since ∧
      (m.activity.isSome = true ∨ since + WATCHDOG_FEED_INTERVAL_MS ≤ m.now)

/-- A look decides on sleep, or the watchdog goes on. -/
theorem poll_of_checks {board : Board} {m : Machine S} (h : Checks m) :
    m.poll board =
      if m.batteryIsLow || m.noteActivity.isInactive board then
        m.noteActivity.takeReading.leave 0
      else m.noteActivity.takeReading.withPhase (.feeding m.now) := by
  obtain ⟨hshutdown, since, hphase, hdue⟩ := h
  have hchecked : m.poll board = m.noteActivity.check board := by
    unfold poll
    rw [hphase]
    exact if_pos hdue
  have hnone : m.noteActivity.fw.mesh.shutdownCmd = none := hshutdown
  have hsame : m.noteActivity.batteryIsLow = m.batteryIsLow := rfl
  rw [hchecked]
  unfold check
  rw [hnone, hsame]
  dsimp only
  cases m.batteryIsLow with
  | true => rfl
  | false => rfl

/-! ## Steps -/

inductive Event
  /-- The mesh, BLE and LoRa tasks and the clock. -/
  | task (event : Firmware.Event)
  | batteryRead (voltageMv : UInt16)
  | levelTaken
  | watchdog

variable [MeshStorage S] (env : Env)

def restarts (m : Machine S) (event : Firmware.Event) : Bool :=
  ((m.fw.meshEvent event).map (MeshState.restarts env m.fw.mesh)).getD false

def signalsActivity (m : Machine S) (event : Firmware.Event) : Bool :=
  match m.fw.meshEvent event with
  | some (.mesh taken) => taken.isActivity m.fw.mesh.ctx.device.myNodeNum
  | _ => false

def runTask (board : Board) (m : Machine S) (event : Firmware.Event) : Machine S :=
  let fw := m.fw.step env board event
  if m.restarts env event then start fw (m.readings ++ [.take])
  else
    { m with
      fw := fw
      activity := if m.signalsActivity event then some m.now else m.activity }

/-- Asleep, the node does nothing until it is woken, by a reset. -/
def step (board : Board) (m : Machine S) (event : Event) : Machine S :=
  match m.watchdog.phase, event with
  | .asleep, .task .powerCycle => m.runTask env board .powerCycle
  | .asleep, _ => m
  -- the watchdog asks for its disconnects itself
  | _, .task .watchdogDisconnect => m
  | _, .task event => m.runTask env board event
  | _, .batteryRead voltageMv => m.publish voltageMv
  | _, .levelTaken => m.takeLevel
  | _, .watchdog => m.poll board

def boot (mac : Bytes) (storage : S) (pkcKeypair : Key × Key) (entropy : Nat → UInt32) :
    Machine S :=
  start (Firmware.boot env mac storage pkcKeypair entropy) []

end Machine

end Meshtastenstein
