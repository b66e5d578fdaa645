import Meshtastenstein.Lib.Flow
import Meshtastenstein.LoraLoop
/-!
# The LoRa task, one wait at a time

Between taking a frame and listening again the task waits for the radio and for timers many
times, while the other tasks go on.  Here each of these waits is a phase of its own.  A frame is
sent after listening before talking: the task scans the channel, and backs off while it is busy.
-/

namespace Meshtastenstein

open Lib

/-! ## Phases -/

inductive LoraPhase
  /-- A frame from either side, since some time. -/
  | receiving (since : Nat)
  /-- `prepare_for_cad`. -/
  | preparingCad (frame : RadioFrame) (cadRetries : Fin CAD_MAX_RETRIES)
  /-- `cad`. -/
  | scanning (frame : RadioFrame) (cadRetries : Fin CAD_MAX_RETRIES)
  | backingOff (frame : RadioFrame) (cadRetries : Fin (CAD_MAX_RETRIES + 1)) (deadline : Nat)
  /-- `prepare_for_tx`. -/
  | preparingTx (frame : RadioFrame)
  /-- `tx`, since some time. -/
  | sending (frame : RadioFrame) (txStart : Nat)
  /-- `prepare_for_rx` after a frame was sent. -/
  | resuming
  /-- `prepare_for_rx` after a reception failed. -/
  | recovering

inductive LoraAnswer
  /-- The channel was silent for the whole interval. -/
  | silence
  | received (data : Bytes) (metadata : RadioMetadata)
  | rxError
  | cadPrepared (ok : Bool)
  /-- A scan finds the channel busy or free, or fails; with the tick count by then. -/
  | scanned (busy : Option Bool) (ticks : UInt64)
  | backedOff
  | txPrepared (ok : Bool)
  | sent (ok : Bool)
  | rxPrepared (ok : Bool)

structure LoraTask where
  phase : LoraPhase
  /-- The clock and the airtime counters. -/
  loop : LoraLoop

namespace LoraLoop

/-- Send a report unless the last one is too recent. -/
def reportIfDue (loop : LoraLoop) : LoraLoop × List MeshEvent :=
  if loop.isReportDue then (loop.reported, [loop.reportChannelUtil]) else (loop, [])

def countReception (loop : LoraLoop) (data : Bytes) : LoraLoop :=
  { loop with rxAirtimeMs := loop.rxAirtimeMs + data.length }

def countTransmission (loop : LoraLoop) (txStart : Nat) : LoraLoop :=
  { loop with txAirtimeMs := loop.txAirtimeMs + (loop.now - txStart) }

end LoraLoop

namespace LoraTask

inductive Event
  | elapse (ms : Nat)
  /-- A frame comes from the queue. -/
  | taken (frame : RadioFrame) (txEnabled : Bool)
  | answered (answer : LoraAnswer)

/-- The task when it has entered RX mode. -/
def init (now : Nat) : LoraTask := ⟨.receiving now, LoraLoop.init now⟩

/-! ## Steps -/

def listen (frame : RadioFrame) (cadRetries : Nat) : LoraPhase :=
  if h : cadRetries < CAD_MAX_RETRIES then .preparingCad frame ⟨cadRetries, h⟩
  else .preparingTx frame

def backoffMs (nodeNum : UInt32) (ticks : UInt64) : Nat :=
  CAD_BACKOFF_BASE_MS + (ticks ^^^ nodeNum.toUInt64).toNat % CAD_BACKOFF_JITTER_MS

def take (task : LoraTask) (frame : RadioFrame) (txEnabled : Bool) : LoraTask :=
  match task.phase with
  | .receiving _ =>
      { task with phase := if txEnabled then listen frame 0 else .receiving task.loop.now }
  | _ => task

/-- The task after a wait, and what it puts into `mesh_in`. -/
def answer (nodeNum : UInt32) (task : LoraTask) (answer : LoraAnswer) :
    LoraTask × List MeshEvent :=
  match task.phase, answer with
  | .receiving since, .silence =>
      if since + LoraLoop.SILENT_CHANNEL_REPORT_INTERVAL ≤ task.loop.now then
        (⟨.receiving task.loop.now, task.loop.reported⟩, [task.loop.reportChannelUtil])
      else (task, [])
  | .receiving _, .received data metadata =>
      let (loop, reports) := (task.loop.countReception data).reportIfDue
      (⟨.receiving loop.now, loop⟩,
        ((RadioFrame.fromRaw data).map fun frame => .loraRx frame metadata).toList ++ reports)
  | .receiving _, .rxError => ({ task with phase := .recovering }, [])
  | .preparingCad frame cadRetries, .cadPrepared ok =>
      ({ task with phase := if ok then .scanning frame cadRetries else .preparingTx frame }, [])
  | .scanning frame cadRetries, .scanned busy ticks =>
      if busy = some true then
        ({ task with
            phase := .backingOff frame cadRetries.succ (task.loop.now + backoffMs nodeNum ticks) },
          [])
      else ({ task with phase := .preparingTx frame }, [])
  | .backingOff frame cadRetries deadline, .backedOff =>
      if deadline ≤ task.loop.now then ({ task with phase := listen frame cadRetries }, [])
      else (task, [])
  | .preparingTx frame, .txPrepared ok =>
      ({ task with phase := if ok then .sending frame task.loop.now else .resuming }, [])
  | .sending _ txStart, .sent ok =>
      (⟨.resuming, if ok then task.loop.countTransmission txStart else task.loop⟩, [])
  | .resuming, .rxPrepared _ =>
      let (loop, reports) := task.loop.reportIfDue
      (⟨.receiving loop.now, loop⟩, reports)
  | .recovering, .rxPrepared _ => ({ task with phase := .receiving task.loop.now }, [])
  | _, _ => (task, [])

def step (nodeNum : UInt32) (task : LoraTask) : Event → LoraTask
  | .elapse ms => { task with loop := task.loop.wait ms }
  | .taken frame txEnabled => task.take frame txEnabled
  | .answered answer => (task.answer nodeNum answer).1

/-- What a step puts into `mesh_in`, as far as that has room. -/
def posted (nodeNum : UInt32) (task : LoraTask) : Event → List MeshEvent
  | .answered answer => (task.answer nodeNum answer).2
  | _ => []

/-! ## What the end of a wait comes to -/

def awaits (task : LoraTask) (answer : LoraAnswer) : Bool :=
  match task.phase, answer with
  | .receiving since, .silence =>
      decide (since + LoraLoop.SILENT_CHANNEL_REPORT_INTERVAL ≤ task.loop.now)
  | .receiving _, .received _ _ => true
  | .receiving _, .rxError => true
  | .preparingCad _ _, .cadPrepared _ => true
  | .scanning _ _, .scanned _ _ => true
  | .backingOff _ _ deadline, .backedOff => decide (deadline ≤ task.loop.now)
  | .preparingTx _, .txPrepared _ => true
  | .sending _ _, .sent _ => true
  | .resuming, .rxPrepared _ => true
  | .recovering, .rxPrepared _ => true
  | _, _ => false

def ended (task : LoraTask) : Event → Option (LoraPhase × LoraAnswer)
  | .answered answer => if task.awaits answer then some (task.phase, answer) else none
  | _ => none

/-- The wait of a phase ends with an answer, in another phase and with some events posted. -/
inductive Moves (nodeNum : UInt32) : LoraTask → LoraAnswer → LoraTask → List MeshEvent → Prop
  | silence {since : Nat} {loop : LoraLoop}
      (h : since + LoraLoop.SILENT_CHANNEL_REPORT_INTERVAL ≤ loop.now) :
      Moves nodeNum ⟨.receiving since, loop⟩ .silence ⟨.receiving loop.now, loop.reported⟩
        [loop.reportChannelUtil]
  | received {since : Nat} {loop : LoraLoop} {data : Bytes} {metadata : RadioMetadata} :
      Moves nodeNum ⟨.receiving since, loop⟩ (.received data metadata)
        ⟨.receiving (loop.countReception data).reportIfDue.1.now,
          (loop.countReception data).reportIfDue.1⟩
        (((RadioFrame.fromRaw data).map fun frame => .loraRx frame metadata).toList ++
          (loop.countReception data).reportIfDue.2)
  | rxError {since : Nat} {loop : LoraLoop} :
      Moves nodeNum ⟨.receiving since, loop⟩ .rxError ⟨.recovering, loop⟩ []
  | cadReady {frame : RadioFrame} {cadRetries : Fin CAD_MAX_RETRIES} {loop : LoraLoop} :
      Moves nodeNum ⟨.preparingCad frame cadRetries, loop⟩ (.cadPrepared true)
        ⟨.scanning frame cadRetries, loop⟩ []
  | cadFailed {frame : RadioFrame} {cadRetries : Fin CAD_MAX_RETRIES} {loop : LoraLoop} :
      Moves nodeNum ⟨.preparingCad frame cadRetries, loop⟩ (.cadPrepared false)
        ⟨.preparingTx frame, loop⟩ []
  | busy {frame : RadioFrame} {cadRetries : Fin CAD_MAX_RETRIES} {loop : LoraLoop}
      {ticks : UInt64} :
      Moves nodeNum ⟨.scanning frame cadRetries, loop⟩ (.scanned (some true) ticks)
        ⟨.backingOff frame cadRetries.succ (loop.now + backoffMs nodeNum ticks), loop⟩ []
  | notBusy {frame : RadioFrame} {cadRetries : Fin CAD_MAX_RETRIES} {loop : LoraLoop}
      {busy : Option Bool} {ticks : UInt64} (h : busy ≠ some true) :
      Moves nodeNum ⟨.scanning frame cadRetries, loop⟩ (.scanned busy ticks)
        ⟨.preparingTx frame, loop⟩ []
  | backedOff {frame : RadioFrame} {cadRetries : Fin (CAD_MAX_RETRIES + 1)} {deadline : Nat}
      {loop : LoraLoop} (h : deadline ≤ loop.now) :
      Moves nodeNum ⟨.backingOff frame cadRetries deadline, loop⟩ .backedOff
        ⟨listen frame cadRetries, loop⟩ []
  | txReady {frame : RadioFrame} {loop : LoraLoop} :
      Moves nodeNum ⟨.preparingTx frame, loop⟩ (.txPrepared true)
        ⟨.sending frame loop.now, loop⟩ []
  | txRefused {frame : RadioFrame} {loop : LoraLoop} :
      Moves nodeNum ⟨.preparingTx frame, loop⟩ (.txPrepared false) ⟨.resuming, loop⟩ []
  | sent {frame : RadioFrame} {txStart : Nat} {loop : LoraLoop} {ok : Bool} :
      Moves nodeNum ⟨.sending frame txStart, loop⟩ (.sent ok)
        ⟨.resuming, if ok then loop.countTransmission txStart else loop⟩ []
  | resumed {loop : LoraLoop} {ok : Bool} :
      Moves nodeNum ⟨.resuming, loop⟩ (.rxPrepared ok)
        ⟨.receiving loop.reportIfDue.1.now, loop.reportIfDue.1⟩ loop.reportIfDue.2
  | recovered {loop : LoraLoop} {ok : Bool} :
      Moves nodeNum ⟨.recovering, loop⟩ (.rxPrepared ok) ⟨.receiving loop.now, loop⟩ []

variable {nodeNum : UInt32}

/-- An answer ends the wait of the phase, or it changes nothing. -/
theorem moves_answer (task : LoraTask) (answer : LoraAnswer) :
    task.awaits answer = true ∧
        Moves nodeNum task answer (task.answer nodeNum answer).1 (task.answer nodeNum answer).2 ∨
      task.awaits answer = false ∧ task.answer nodeNum answer = (task, []) := by
  obtain ⟨phase, loop⟩ := task
  cases phase with
  | receiving since =>
      cases answer with
      | silence =>
          unfold LoraTask.answer awaits
          dsimp only
          split
          · rename_i h
            exact Or.inl ⟨decide_eq_true h, .silence h⟩
          · rename_i h
            exact Or.inr ⟨decide_eq_false h, rfl⟩
      | received data metadata => exact Or.inl ⟨rfl, .received⟩
      | rxError => exact Or.inl ⟨rfl, .rxError⟩
      | _ => exact Or.inr ⟨rfl, rfl⟩
  | preparingCad frame cadRetries =>
      cases answer with
      | cadPrepared ok =>
          cases ok with
          | true => exact Or.inl ⟨rfl, .cadReady⟩
          | false => exact Or.inl ⟨rfl, .cadFailed⟩
      | _ => exact Or.inr ⟨rfl, rfl⟩
  | scanning frame cadRetries =>
      cases answer with
      | scanned busy ticks =>
          unfold LoraTask.answer
          dsimp only
          split
          · rename_i h
            subst h
            exact Or.inl ⟨rfl, .busy⟩
          · rename_i h
            exact Or.inl ⟨rfl, .notBusy h⟩
      | _ => exact Or.inr ⟨rfl, rfl⟩
  | backingOff frame cadRetries deadline =>
      cases answer with
      | backedOff =>
          unfold LoraTask.answer awaits
          dsimp only
          split
          · rename_i h
            exact Or.inl ⟨decide_eq_true h, .backedOff h⟩
          · rename_i h
            exact Or.inr ⟨decide_eq_false h, rfl⟩
      | _ => exact Or.inr ⟨rfl, rfl⟩
  | preparingTx frame =>
      cases answer with
      | txPrepared ok =>
          cases ok with
          | true => exact Or.inl ⟨rfl, .txReady⟩
          | false => exact Or.inl ⟨rfl, .txRefused⟩
      | _ => exact Or.inr ⟨rfl, rfl⟩
  | sending frame txStart =>
      cases answer with
      | sent ok => exact Or.inl ⟨rfl, .sent⟩
      | _ => exact Or.inr ⟨rfl, rfl⟩
  | resuming =>
      cases answer with
      | rxPrepared ok => exact Or.inl ⟨rfl, .resumed⟩
      | _ => exact Or.inr ⟨rfl, rfl⟩
  | recovering =>
      cases answer with
      | rxPrepared ok => exact Or.inl ⟨rfl, .recovered⟩
      | _ => exact Or.inr ⟨rfl, rfl⟩

inductive Steps (nodeNum : UInt32) (task : LoraTask) :
    Event → LoraTask → List MeshEvent → Prop
  | elapsed (ms : Nat) : Steps nodeNum task (.elapse ms) { task with loop := task.loop.wait ms } []
  | taken {since : Nat} {frame : RadioFrame} {txEnabled : Bool}
      (hphase : task.phase = .receiving since) :
      Steps nodeNum task (.taken frame txEnabled)
        { task with phase := if txEnabled then listen frame 0 else .receiving task.loop.now } []
  | untaken {frame : RadioFrame} {txEnabled : Bool}
      (hphase : ∀ since, task.phase ≠ .receiving since) :
      Steps nodeNum task (.taken frame txEnabled) task []
  | moved {answer : LoraAnswer} {task' : LoraTask} {events : List MeshEvent}
      (hawaits : task.awaits answer = true) (h : Moves nodeNum task answer task' events) :
      Steps nodeNum task (.answered answer) task' events
  | unmoved {answer : LoraAnswer} (hawaits : task.awaits answer = false) :
      Steps nodeNum task (.answered answer) task []

theorem steps (nodeNum : UInt32) (task : LoraTask) (event : Event) :
    Steps nodeNum task event (task.step nodeNum event) (task.posted nodeNum event) := by
  cases event with
  | elapse ms => exact .elapsed ms
  | taken frame txEnabled =>
      unfold step posted take
      dsimp only
      split
      · rename_i since hphase
        exact .taken hphase
      · rename_i hphase
        exact .untaken hphase
  | answered answer =>
      unfold step posted
      dsimp only
      rcases @moves_answer nodeNum task answer with ⟨hawaits, hmoves⟩ | ⟨hawaits, hsame⟩
      · exact .moved hawaits hmoves
      · rw [hsame]
        exact .unmoved hawaits

theorem ended_of_awaits {task : LoraTask} {answer : LoraAnswer} (h : task.awaits answer = true) :
    task.ended (.answered answer) = some (task.phase, answer) := if_pos h

theorem ended_of_not_awaits {task : LoraTask} {answer : LoraAnswer}
    (h : task.awaits answer = false) : task.ended (.answered answer) = none := by
  unfold ended
  dsimp only
  rw [h]
  rfl

theorem phase_of_ended {task : LoraTask} {event : Event} {waited : LoraPhase × LoraAnswer}
    (h : task.ended event = some waited) : waited.1 = task.phase := by
  unfold ended at h
  split at h
  · split at h
    · obtain rfl := Option.some.inj h
      rfl
    · cases h
  · cases h

/-! ## Every frame is offered to the transmitter once, in order -/

/-- The frame that has not been offered to the transmitter yet. -/
def inHand (task : LoraTask) : List RadioFrame :=
  match task.phase with
  | .preparingCad frame _ => [frame]
  | .scanning frame _ => [frame]
  | .backingOff frame _ _ => [frame]
  | .preparingTx frame => [frame]
  | _ => []

def takes (task : LoraTask) : Event → List RadioFrame
  | .taken frame true =>
      match task.phase with
      | .receiving _ => [frame]
      | _ => []
  | _ => []

def offered : LoraPhase × LoraAnswer → List (RadioFrame × Bool)
  | (.preparingTx frame, .txPrepared ok) => [(frame, ok)]
  | _ => []

def outcomes (task : LoraTask) (event : Event) : List (RadioFrame × Bool) :=
  (task.ended event).toList.flatMap offered

@[simp] theorem inHand_listen (frame : RadioFrame) (cadRetries : Nat) (loop : LoraLoop) :
    inHand ⟨listen frame cadRetries, loop⟩ = [frame] := by
  unfold listen
  split <;> rfl

theorem inHand_of_receiving {task : LoraTask} {since : Nat} (h : task.phase = .receiving since) :
    task.inHand = [] := by
  unfold inHand
  rw [h]

theorem takes_of_receiving {task : LoraTask} {since : Nat} (h : task.phase = .receiving since)
    (frame : RadioFrame) : task.takes (.taken frame true) = [frame] := by
  unfold takes
  dsimp only
  rw [h]

theorem takes_of_not_receiving {task : LoraTask} (h : ∀ since, task.phase ≠ .receiving since)
    (frame : RadioFrame) (txEnabled : Bool) : task.takes (.taken frame txEnabled) = [] := by
  unfold takes
  split
  · split
    · rename_i since hsince
      exact absurd hsince (h since)
    · rfl
  · rfl

theorem outcomes_step (task : LoraTask) (event : Event) :
    (task.outcomes event).map Prod.fst ++ (task.step nodeNum event).inHand =
      task.inHand ++ task.takes event := by
  have hsteps := steps nodeNum task event
  generalize task.step nodeNum event = task', task.posted nodeNum event = posted at hsteps
  cases hsteps with
  | elapsed ms => exact (List.append_nil _).symm
  | @taken since frame txEnabled hphase =>
      rw [inHand_of_receiving hphase]
      cases txEnabled with
      | false => rfl
      | true =>
          rw [if_pos rfl, inHand_listen, takes_of_receiving hphase]
          rfl
  | @untaken frame txEnabled hphase =>
      rw [takes_of_not_receiving hphase]
      exact (List.append_nil _).symm
  | moved hawaits hmoves =>
      unfold outcomes
      rw [ended_of_awaits hawaits]
      cases hmoves with
      | backedOff h => exact inHand_listen _ _ _
      | _ => rfl
  | unmoved hawaits =>
      unfold outcomes
      rw [ended_of_not_awaits hawaits]
      exact (List.append_nil _).symm

/-- Over any run, each frame that was taken to be sent was offered to the transmitter exactly
once and in turn, but for the one in hand. -/
theorem outcomes_run (nodeNum : UInt32) (now : Nat) (events : List Event) :
    (Transition.observed (step nodeNum) outcomes (init now) events).map Prod.fst ++
        (Transition.run (step nodeNum) (init now) events).inHand =
      Transition.observed (step nodeNum) takes (init now) events := by
  rw [Transition.map_observed]
  exact Transition.observed_pipeline (step nodeNum) inHand outcomes_step (init now) events

/-! ## What a frame costs -/

def scans (task : LoraTask) (event : Event) : Nat :=
  match task.ended event with
  | some (.scanning _ _, _) => 1
  | _ => 0

/-- The time to back off that a step sets. -/
def backoff (nodeNum : UInt32) (task : LoraTask) (event : Event) : Nat :=
  match task.ended event with
  | some (.scanning _ _, .scanned (some true) ticks) => backoffMs nodeNum ticks
  | _ => 0

/-- Whether a step ends the wait of the phase; a frame to send ends `rx` before its time. -/
def ends (task : LoraTask) : Event → Bool
  | .elapse _ => false
  | .taken _ _ =>
      match task.phase with
      | .receiving _ => true
      | _ => false
  | .answered answer => task.awaits answer

/-- The operations of the radio that a step ends. -/
def operations (task : LoraTask) (event : Event) : Nat :=
  match task.phase with
  | .backingOff _ _ _ => 0
  | _ => if task.ends event then 1 else 0

/-- The passes of the loop whose wait for a frame a step ends. -/
def passes (task : LoraTask) (event : Event) : Nat :=
  match task.phase with
  | .receiving _ => if task.ends event then 1 else 0
  | _ => 0

def rxErrors (task : LoraTask) (event : Event) : Nat :=
  match task.ended event with
  | some (.receiving _, .rxError) => 1
  | _ => 0

def MAX_BACKOFF_MS : Nat := CAD_BACKOFF_BASE_MS + (CAD_BACKOFF_JITTER_MS - 1)

/-- Preparing and making every scan, then to prepare, to send and to listen again. -/
def MAX_OPERATIONS : Nat := 2 * CAD_MAX_RETRIES + 3

def scansLeft (task : LoraTask) : Nat :=
  match task.phase with
  | .preparingCad _ cadRetries => CAD_MAX_RETRIES - cadRetries
  | .scanning _ cadRetries => CAD_MAX_RETRIES - cadRetries
  | .backingOff _ cadRetries _ => CAD_MAX_RETRIES - cadRetries
  | _ => 0

def operationsLeft (task : LoraTask) : Nat :=
  match task.phase with
  | .receiving _ => 0
  | .preparingCad _ cadRetries => 2 * (CAD_MAX_RETRIES - cadRetries) + 3
  | .scanning _ cadRetries => 2 * (CAD_MAX_RETRIES - cadRetries) + 2
  | .backingOff _ cadRetries _ => 2 * (CAD_MAX_RETRIES - cadRetries) + 3
  | .preparingTx _ => 3
  | .sending _ _ => 2
  | .resuming => 1
  | .recovering => 1

theorem backoffMs_le (nodeNum : UInt32) (ticks : UInt64) :
    backoffMs nodeNum ticks ≤ MAX_BACKOFF_MS := by
  have hjitter : (ticks ^^^ nodeNum.toUInt64).toNat % CAD_BACKOFF_JITTER_MS <
      CAD_BACKOFF_JITTER_MS := Nat.mod_lt _ (by decide)
  unfold backoffMs MAX_BACKOFF_MS
  omega

theorem scansLeft_listen (frame : RadioFrame) (cadRetries : Nat) (loop : LoraLoop) :
    scansLeft ⟨listen frame cadRetries, loop⟩ = CAD_MAX_RETRIES - cadRetries := by
  unfold listen
  split
  · rfl
  · rename_i h
    exact (Nat.sub_eq_zero_of_le (Nat.le_of_not_lt h)).symm

theorem operationsLeft_listen (frame : RadioFrame) (cadRetries : Nat) (loop : LoraLoop) :
    operationsLeft ⟨listen frame cadRetries, loop⟩ = 2 * (CAD_MAX_RETRIES - cadRetries) + 3 := by
  unfold listen
  split
  · rfl
  · rename_i h
    rw [Nat.sub_eq_zero_of_le (Nat.le_of_not_lt h)]
    rfl

theorem scans_step (task : LoraTask) (event : Event) :
    task.scans event + (task.step nodeNum event).scansLeft ≤
      CAD_MAX_RETRIES * (task.takes event).length + task.scansLeft := by
  have hsteps := steps nodeNum task event
  generalize task.step nodeNum event = task', task.posted nodeNum event = posted at hsteps
  cases hsteps with
  | elapsed ms => exact Nat.le_of_eq rfl
  | @taken since frame txEnabled hphase =>
      cases txEnabled with
      | false => exact Nat.zero_le _
      | true =>
          rw [if_pos rfl, scansLeft_listen, takes_of_receiving hphase]
          exact Nat.le_add_right _ _
  | untaken hphase => exact Nat.add_le_add_right (Nat.zero_le _) _
  | moved hawaits hmoves =>
      unfold scans
      rw [ended_of_awaits hawaits]
      cases hmoves with
      | cadReady => exact Nat.add_le_add_right (Nat.zero_le _) _
      | @busy frame cadRetries loop ticks =>
          have hlt := cadRetries.isLt
          change 1 + (CAD_MAX_RETRIES - (cadRetries.val + 1)) ≤
            0 + (CAD_MAX_RETRIES - cadRetries.val)
          omega
      | @notBusy frame cadRetries loop busy ticks h =>
          have hlt := cadRetries.isLt
          change 1 + 0 ≤ 0 + (CAD_MAX_RETRIES - cadRetries.val)
          omega
      | backedOff h =>
          rw [scansLeft_listen]
          exact Nat.le_of_eq rfl
      | _ => exact Nat.zero_le _
  | unmoved hawaits =>
      unfold scans
      rw [ended_of_not_awaits hawaits]
      exact Nat.add_le_add_right (Nat.zero_le _) _

theorem backoff_step (task : LoraTask) (event : Event) :
    task.backoff nodeNum event ≤ MAX_BACKOFF_MS * task.scans event := by
  unfold backoff scans
  split
  · rename_i hended
    rw [hended]
    exact backoffMs_le nodeNum _
  · exact Nat.zero_le _

theorem ends_of_not_receiving {task : LoraTask} (h : ∀ since, task.phase ≠ .receiving since)
    (frame : RadioFrame) (txEnabled : Bool) : task.ends (.taken frame txEnabled) = false := by
  unfold ends
  dsimp only
  split
  · rename_i since hsince
    exact absurd hsince (h since)
  · rfl

theorem ends_of_awaits {task : LoraTask} {answer : LoraAnswer} (h : task.awaits answer = true) :
    task.ends (.answered answer) = true := h

theorem operations_of_not_ends {task : LoraTask} {event : Event} (h : task.ends event = false) :
    task.operations event = 0 := by
  unfold operations
  rw [h]
  split <;> rfl

/-- Each operation is paid for by the frame in hand, by the pass of the loop or by the failed
reception it is due to. -/
theorem operations_step (task : LoraTask) (event : Event) :
    task.operations event + (task.step nodeNum event).operationsLeft ≤
      (MAX_OPERATIONS * (task.takes event).length + (task.passes event + task.rxErrors event)) +
        task.operationsLeft := by
  have hsteps := steps nodeNum task event
  generalize task.step nodeNum event = task', task.posted nodeNum event = posted at hsteps
  cases hsteps with
  | elapsed ms =>
      rw [operations_of_not_ends rfl, Nat.zero_add]
      exact Nat.le_add_left _ _
  | @taken since frame txEnabled hphase =>
      obtain ⟨phase, loop⟩ := task
      obtain rfl : phase = .receiving since := hphase
      cases txEnabled with
      | false => exact Nat.le_of_eq rfl
      | true =>
          rw [if_pos rfl, operationsLeft_listen]
          exact Nat.le_of_eq rfl
  | @untaken frame txEnabled hphase =>
      rw [operations_of_not_ends (ends_of_not_receiving hphase frame txEnabled), Nat.zero_add]
      exact Nat.le_add_left _ _
  | moved hawaits hmoves =>
      unfold operations passes rxErrors
      rw [ended_of_awaits hawaits, ends_of_awaits hawaits]
      cases hmoves with
      | @cadReady frame cadRetries loop =>
          change 1 + (2 * (CAD_MAX_RETRIES - cadRetries.val) + 2) ≤
            0 + 0 + (2 * (CAD_MAX_RETRIES - cadRetries.val) + 3)
          omega
      | @cadFailed frame cadRetries loop =>
          have hlt := cadRetries.isLt
          change 1 + 3 ≤ 0 + 0 + (2 * (CAD_MAX_RETRIES - cadRetries.val) + 3)
          omega
      | @busy frame cadRetries loop ticks =>
          have hlt := cadRetries.isLt
          change 1 + (2 * (CAD_MAX_RETRIES - (cadRetries.val + 1)) + 3) ≤
            0 + 0 + (2 * (CAD_MAX_RETRIES - cadRetries.val) + 2)
          omega
      | @notBusy frame cadRetries loop busy ticks h =>
          have hlt := cadRetries.isLt
          change 1 + 3 ≤ 0 + 0 + (2 * (CAD_MAX_RETRIES - cadRetries.val) + 2)
          omega
      | backedOff h =>
          rw [operationsLeft_listen]
          exact Nat.add_le_add_right (Nat.zero_le _) _
      | txRefused => exact Nat.le_succ 2
      | _ => exact Nat.le_of_eq rfl
  | @unmoved answer hawaits =>
      have hends : task.ends (.answered answer) = false := hawaits
      rw [operations_of_not_ends hends, Nat.zero_add]
      exact Nat.le_add_left _ _

/-- Over any run, each frame that was taken to be sent costs at most five scans, five times the
longest time to back off, and thirteen operations of the radio; what else the radio does is to
receive, once in each pass of the loop, and to listen again after a failed reception. -/
theorem work_run (nodeNum : UInt32) (now : Nat) (events : List Event) :
    Transition.spent (step nodeNum) scans (init now) events ≤
        CAD_MAX_RETRIES *
          (Transition.observed (step nodeNum) takes (init now) events).length ∧
      Transition.spent (step nodeNum) (backoff nodeNum) (init now) events ≤
        MAX_BACKOFF_MS * CAD_MAX_RETRIES *
          (Transition.observed (step nodeNum) takes (init now) events).length ∧
      Transition.spent (step nodeNum) operations (init now) events ≤
        MAX_OPERATIONS *
            (Transition.observed (step nodeNum) takes (init now) events).length +
          (Transition.spent (step nodeNum) passes (init now) events +
            Transition.spent (step nodeNum) rxErrors (init now) events) := by
  have hscans := Transition.spent_add_potential_le scansLeft (@scans_step nodeNum) (init now)
    events
  have hbackoff := @Transition.spent_le_spent _ _ (step nodeNum) _ _ (@backoff_step nodeNum)
    (init now) events
  have hoperations := Transition.spent_add_potential_le operationsLeft (@operations_step nodeNum)
    (init now) events
  rw [Transition.spent_mul, Transition.spent_length] at hscans
  rw [Transition.spent_mul] at hbackoff
  rw [Transition.spent_add, Transition.spent_mul, Transition.spent_length,
    Transition.spent_add] at hoperations
  have hidle : scansLeft (init now) = 0 ∧ operationsLeft (init now) = 0 := ⟨rfl, rfl⟩
  rw [hidle.1] at hscans
  rw [hidle.2] at hoperations
  refine ⟨by omega, ?_, by omega⟩
  rw [Nat.mul_assoc]
  exact hbackoff.trans (Nat.mul_le_mul_left _ (by omega))

/-! ## Listening before talking -/

inductive CadOutcome
  | busy
  | free
  /-- `cad` fails. -/
  | failed
  /-- `prepare_for_cad` fails, and no CAD is made. -/
  | unprepared
deriving DecidableEq

def CadOutcome.ofScan : Option Bool → CadOutcome
  | some true => .busy
  | some false => .free
  | none => .failed

def found : LoraPhase × LoraAnswer → List CadOutcome
  | (.preparingCad _ _, .cadPrepared false) => [.unprepared]
  | (.scanning _ _, .scanned busy _) => [.ofScan busy]
  | _ => []

/-- The task, and what came of its tries to listen since it took the frame in hand. -/
structure Watched where
  task : LoraTask
  tries : List CadOutcome

/-- The channel was busy every time, or it was until a try ended otherwise. -/
def MayTalk (tries : List CadOutcome) : Prop :=
  tries = List.replicate CAD_MAX_RETRIES .busy ∨
    ∃ busy < CAD_MAX_RETRIES, ∃ last, last ≠ .busy ∧
      tries = List.replicate busy .busy ++ [last]

theorem CadOutcome.ofScan_ne_busy {busy : Option Bool} (h : busy ≠ some true) :
    ofScan busy ≠ .busy := by
  unfold ofScan
  split
  · exact absurd rfl h
  · nofun
  · nofun

namespace Watched

def step (nodeNum : UInt32) (watched : Watched) (event : Event) : Watched where
  task := watched.task.step nodeNum event
  tries :=
    (if (watched.task.takes event).isEmpty then watched.tries else []) ++
      (watched.task.ended event).toList.flatMap found

def Counted (watched : Watched) : Prop :=
  match watched.task.phase with
  | .preparingCad _ cadRetries => watched.tries = List.replicate cadRetries .busy
  | .scanning _ cadRetries => watched.tries = List.replicate cadRetries .busy
  | .backingOff _ cadRetries _ => watched.tries = List.replicate cadRetries .busy
  | .preparingTx _ => MayTalk watched.tries
  | _ => True

theorem counted_listen (frame : RadioFrame) {cadRetries : Nat} (h : cadRetries ≤ CAD_MAX_RETRIES)
    (loop : LoraLoop) : Counted ⟨⟨listen frame cadRetries, loop⟩,
      List.replicate cadRetries .busy⟩ := by
  unfold listen
  split
  · rfl
  · rename_i hmax
    obtain rfl : cadRetries = CAD_MAX_RETRIES := by omega
    exact Or.inl rfl

theorem counted_step {watched : Watched} (h : watched.Counted) (event : Event) :
    (watched.step nodeNum event).Counted := by
  obtain ⟨task, tries⟩ := watched
  unfold step
  dsimp only
  have hsteps := steps nodeNum task event
  generalize task.step nodeNum event = task', task.posted nodeNum event = posted at hsteps
  cases hsteps with
  | elapsed ms =>
      rw [show task.takes (.elapse ms) = [] from rfl, show task.ended (.elapse ms) = none from rfl,
        Option.toList_none, List.flatMap_nil, List.append_nil]
      exact h
  | @taken since frame txEnabled hphase =>
      cases txEnabled with
      | false => trivial
      | true =>
          rw [takes_of_receiving hphase, if_pos rfl]
          exact counted_listen frame (Nat.zero_le _) _
  | @untaken frame txEnabled hphase =>
      rw [takes_of_not_receiving hphase,
        show task.ended (.taken frame txEnabled) = none from rfl, Option.toList_none,
        List.flatMap_nil, List.append_nil]
      exact h
  | @moved answer _ _ hawaits hmoves =>
      rw [ended_of_awaits hawaits, show task.takes (.answered answer) = [] from rfl,
        Option.toList_some, List.flatMap_singleton]
      cases hmoves with
      | cadReady =>
          exact (List.append_nil tries).trans h
      | @cadFailed frame cadRetries loop =>
          obtain rfl : tries = _ := h
          exact Or.inr ⟨cadRetries, cadRetries.isLt, .unprepared, nofun, rfl⟩
      | @busy frame cadRetries loop ticks =>
          obtain rfl : tries = _ := h
          exact List.replicate_succ'.symm
      | @notBusy frame cadRetries loop busy ticks hbusy =>
          obtain rfl : tries = _ := h
          exact Or.inr ⟨cadRetries, cadRetries.isLt, .ofScan busy,
            CadOutcome.ofScan_ne_busy hbusy, rfl⟩
      | @backedOff frame cadRetries deadline loop hdeadline =>
          obtain rfl : tries = _ := h
          have hcounted := counted_listen frame (Nat.le_of_lt_succ cadRetries.isLt) loop
          rw [← List.append_nil (List.replicate _ _)] at hcounted
          exact hcounted
      | _ => trivial
  | @unmoved answer hawaits =>
      rw [ended_of_not_awaits hawaits, show task.takes (.answered answer) = [] from rfl,
        Option.toList_none, List.flatMap_nil, List.append_nil]
      exact h

/-- Whatever the radio answers, a frame is offered to the transmitter only after five CADs that
found the channel busy, or after fewer and a last try that did not: the CAD found the channel free
or failed, or the radio could not be prepared for it. -/
theorem mayTalk_of_offered (nodeNum : UInt32) (now : Nat) (events : List Event) :
    ∀ t ∈ Transition.trace (step nodeNum) ⟨init now, []⟩ events, ∀ outcome ∈
      t.before.task.outcomes t.event, MayTalk t.before.tries := by
  have hpolite : ∀ (watched : Watched) (event : Event), watched.Counted →
      ∀ outcome ∈ watched.task.outcomes event, MayTalk watched.tries := by
    intro watched event h outcome houtcome
    obtain ⟨waited, hended, hoffered⟩ := List.mem_flatMap.mp houtcome
    have hphase := phase_of_ended (Option.mem_toList.mp hended)
    unfold offered at hoffered
    split at hoffered
    · unfold Counted at h
      rw [← hphase] at h
      exact h
    · cases hoffered
  intro t ht
  have hcounted : t.before.Counted :=
    @Transition.preserved_trace _ _ (step nodeNum) Counted (fun _ event h => counted_step h event)
      ⟨init now, []⟩ trivial events t ht
  exact hpolite t.before t.event hcounted

/-- A frame that waits for a busy channel to clear. -/
def patience : List Event :=
  [.taken { bytes := [], length_le := Nat.zero_le _ } true, .answered (.cadPrepared true),
    .answered (.scanned (some true) 3), .elapse 53, .answered .backedOff,
    .answered (.cadPrepared true), .answered (.scanned (some false) 4)]

theorem patience_mayTalk : MayTalk [.busy, .free] :=
  mayTalk_of_offered 0 0 (patience ++ [.answered (.txPrepared true)])
    ⟨Transition.run (step 0) ⟨init 0, []⟩ patience, .answered (.txPrepared true),
      Transition.run (step 0) ⟨init 0, []⟩ (patience ++ [.answered (.txPrepared true)])⟩
    (by simp [patience, Transition.trace, Transition.run])
    ({ bytes := [], length_le := Nat.zero_le _ }, true) (List.mem_singleton.mpr rfl)

end Watched

/-! ## The loop that the task follows -/

/-- The task is as far as the loop, which takes a frame and all that comes of it in one step, or
ahead of it by the waits of a frame. -/
def Follows (task : LoraTask) (loop : LoraLoop) : Prop :=
  match task.phase with
  | .receiving since => since = loop.now ∧ ∃ ms, task.loop = loop.wait ms
  | .sending _ txStart =>
      ∃ listening airtime, txStart = loop.now + listening ∧
        task.loop = loop.wait (listening + airtime)
  | .resuming =>
      ∃ listening result resuming, task.loop = loop.heard (.frame 0 true listening result resuming)
  | _ => ∃ ms, task.loop = loop.wait ms

end LoraTask

namespace LoraLoop

theorem wait_wait (loop : LoraLoop) (ms later : Nat) :
    (loop.wait ms).wait later = loop.wait (ms + later) := by
  unfold wait
  dsimp only
  rw [Nat.add_assoc]

theorem wait_heard_frame (loop : LoraLoop) (listening ms later : Nat) (result : TxResult) :
    (loop.heard (.frame 0 true listening result ms)).wait later =
      loop.heard (.frame 0 true listening result (ms + later)) := by
  cases result <;> exact wait_wait _ ms later

theorem heard_failed (loop : LoraLoop) (listening took : Nat) :
    loop.wait (listening + took) = loop.heard (.frame 0 true listening (.failed took) 0) := by
  rw [← wait_wait]
  simp only [heard, if_true, Nat.zero_add]
  rfl

theorem heard_complete (loop : LoraLoop) (listening airtime : Nat) :
    (loop.wait (listening + airtime)).countTransmission (loop.now + listening) =
      loop.heard (.frame 0 true listening (.complete airtime) 0) := by
  have hairtime : (loop.wait (listening + airtime)).now - (loop.now + listening) = airtime := by
    change loop.now + (listening + airtime) - (loop.now + listening) = airtime
    omega
  unfold countTransmission
  rw [hairtime, ← wait_wait]
  simp only [heard, if_true, Nat.zero_add]
  rfl

theorem step_received (loop : LoraLoop) (ms : Nat) (data : Bytes) (metadata : RadioMetadata) :
    loop.step (.received ms data metadata) =
        ((loop.wait ms).countReception data).reportIfDue.1 ∧
      loop.posted (.received ms data metadata) =
        ((RadioFrame.fromRaw data).map fun frame => .loraRx frame metadata).toList ++
          ((loop.wait ms).countReception data).reportIfDue.2 := by
  unfold step posted reportIfDue
  dsimp only
  rw [show loop.heard (.received ms data metadata) = (loop.wait ms).countReception data from rfl]
  unfold reports
  dsimp only
  split <;> exact ⟨rfl, rfl⟩

theorem step_frame (loop : LoraLoop) (listening resuming : Nat) (result : TxResult) :
    loop.step (.frame 0 true listening result resuming) =
        (loop.heard (.frame 0 true listening result resuming)).reportIfDue.1 ∧
      loop.posted (.frame 0 true listening result resuming) =
        (loop.heard (.frame 0 true listening result resuming)).reportIfDue.2 := by
  have hreports : (loop.heard (.frame 0 true listening result resuming)).reports
      (.frame 0 true listening result resuming) =
        (loop.heard (.frame 0 true listening result resuming)).isReportDue := Bool.true_and _
  unfold step posted reportIfDue
  dsimp only
  rw [hreports]
  split <;> exact ⟨rfl, rfl⟩

end LoraLoop

namespace LoraTask

open LoraLoop

theorem follows_listen {frame : RadioFrame} {cadRetries : Nat} {loop coarse : LoraLoop} {ms : Nat}
    (h : loop = coarse.wait ms) : Follows ⟨listen frame cadRetries, loop⟩ coarse := by
  unfold listen
  split <;> exact ⟨ms, h⟩

theorem follows_wait {task : LoraTask} {coarse : LoraLoop} (h : task.Follows coarse) (ms : Nat) :
    Follows { task with loop := task.loop.wait ms } coarse := by
  obtain ⟨phase, loop⟩ := task
  unfold Follows at h ⊢
  dsimp only at h ⊢
  cases phase with
  | receiving since =>
      obtain ⟨hsince, before, rfl⟩ := h
      exact ⟨hsince, before + ms, wait_wait coarse before ms⟩
  | sending frame txStart =>
      obtain ⟨listening, airtime, hstart, rfl⟩ := h
      refine ⟨listening, airtime + ms, hstart, ?_⟩
      rw [wait_wait, Nat.add_assoc]
  | resuming =>
      obtain ⟨listening, result, before, rfl⟩ := h
      exact ⟨listening, result, before + ms, wait_heard_frame coarse listening before ms result⟩
  | _ =>
      obtain ⟨before, rfl⟩ := h
      exact ⟨before + ms, wait_wait coarse before ms⟩

theorem follows_step {task : LoraTask} {coarse : LoraLoop} (h : task.Follows coarse)
    (event : Event) :
    ∃ inputs, (task.step nodeNum event).Follows (Transition.run LoraLoop.step coarse inputs) ∧
      task.posted nodeNum event =
        Transition.observed LoraLoop.step LoraLoop.posted coarse inputs := by
  have hsteps := steps nodeNum task event
  generalize task.step nodeNum event = task', task.posted nodeNum event = posted at hsteps
  cases hsteps with
  | elapsed ms => exact ⟨[], follows_wait h ms, rfl⟩
  | @taken since frame txEnabled hphase =>
      obtain ⟨phase, loop⟩ := task
      obtain rfl : phase = .receiving since := hphase
      obtain ⟨-, ms, rfl⟩ := h
      cases txEnabled with
      | false => exact ⟨[.frame ms false 0 .prepareFailed 0], ⟨rfl, 0, rfl⟩, rfl⟩
      | true => exact ⟨[], follows_listen rfl, rfl⟩
  | untaken hphase => exact ⟨[], h, rfl⟩
  | moved hawaits hmoves =>
      cases hmoves with
      | @silence since loop hsilent =>
          obtain ⟨rfl, ms, rfl⟩ := h
          obtain ⟨late, rfl⟩ : ∃ late, ms = SILENT_CHANNEL_REPORT_INTERVAL + late :=
            Nat.exists_eq_add_of_le (by
              change coarse.now + _ ≤ coarse.now + ms at hsilent
              omega)
          have hnow : (coarse.wait (SILENT_CHANNEL_REPORT_INTERVAL + late)).now =
              (coarse.wait (SILENT_CHANNEL_REPORT_INTERVAL + late)).reported.now := by
            unfold reported
            dsimp only
            split <;> rfl
          exact ⟨[.silence late], ⟨hnow, 0, rfl⟩, rfl⟩
      | @received since loop data metadata =>
          obtain ⟨rfl, ms, rfl⟩ := h
          obtain ⟨hstep, hposted⟩ := step_received coarse ms data metadata
          refine ⟨[.received ms data metadata], ⟨?_, 0, ?_⟩, ?_⟩
          · exact congrArg LoraLoop.now hstep.symm
          · exact hstep.symm
          · rw [← hposted]
            exact (List.append_nil _).symm
      | rxError =>
          obtain ⟨-, ms, rfl⟩ := h
          exact ⟨[], ⟨ms, rfl⟩, rfl⟩
      | backedOff hdeadline =>
          obtain ⟨ms, rfl⟩ := h
          exact ⟨[], follows_listen rfl, rfl⟩
      | txReady =>
          obtain ⟨ms, rfl⟩ := h
          exact ⟨[], ⟨ms, 0, rfl, rfl⟩, rfl⟩
      | txRefused =>
          obtain ⟨ms, rfl⟩ := h
          have hwaited : coarse.wait ms =
              coarse.heard (.frame 0 true ms .prepareFailed 0) := by
            simp only [heard, if_true, Nat.zero_add]
            rfl
          exact ⟨[], ⟨ms, .prepareFailed, 0, hwaited⟩, rfl⟩
      | @sent frame txStart loop ok =>
          obtain ⟨listening, airtime, rfl, rfl⟩ := h
          cases ok with
          | false => exact ⟨[], ⟨listening, _, 0, heard_failed coarse listening airtime⟩, rfl⟩
          | true => exact ⟨[], ⟨listening, _, 0, heard_complete coarse listening airtime⟩, rfl⟩
      | resumed =>
          obtain ⟨listening, result, resuming, rfl⟩ := h
          obtain ⟨hstep, hposted⟩ := step_frame coarse listening resuming result
          refine ⟨[.frame 0 true listening result resuming], ⟨?_, 0, ?_⟩, ?_⟩
          · exact congrArg LoraLoop.now hstep.symm
          · exact hstep.symm
          · rw [← hposted]
            exact (List.append_nil _).symm
      | recovered =>
          obtain ⟨ms, rfl⟩ := h
          exact ⟨[.rxError ms 0], ⟨rfl, 0, rfl⟩, rfl⟩
      | _ =>
          obtain ⟨ms, rfl⟩ := h
          exact ⟨[], ⟨ms, rfl⟩, rfl⟩
  | unmoved hawaits => exact ⟨[], h, rfl⟩

theorem follows_init (now : Nat) : (init now).Follows (LoraLoop.init now) := ⟨rfl, 0, rfl⟩

/-- Between two frames the task is where the loop is, whatever it waited for, and it has put the
same events into `mesh_in`. -/
theorem follows_run (nodeNum : UInt32) (now : Nat) (events : List Event) :
    ∃ inputs,
      (Transition.run (step nodeNum) (init now) events).Follows
        (Transition.run LoraLoop.step (LoraLoop.init now) inputs) ∧
      Transition.observed (step nodeNum) (posted nodeNum) (init now) events =
        Transition.observed LoraLoop.step LoraLoop.posted (LoraLoop.init now) inputs :=
  @Transition.simulation_run _ _ (step nodeNum) _ _ _ LoraLoop.step Follows (posted nodeNum)
    LoraLoop.posted (fun _ _ event h => follows_step h event) _ _ (follows_init now) events

end LoraTask

end Meshtastenstein
