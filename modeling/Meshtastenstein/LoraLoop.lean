import Meshtastenstein.Lib.Metering
import Meshtastenstein.MeshTask
/-!
# The LoRa loop

The loop of the LoRa task: it waits for a frame to send, a frame on the air or the end of a
silence, counts airtime since the start of a window, and reports the share of the window that
the airtime makes up.  The clock counts milliseconds.
-/

namespace Meshtastenstein

open Lib Handlers

/-- The received bytes as a frame, when they are neither too short nor too long. -/
def RadioFrame.fromRaw (data : Bytes) : Option RadioFrame :=
  if h : data.length < HEADER_SIZE ∨ MAX_LORA_PAYLOAD_LEN < data.length then none
  else some ⟨data, Nat.le_of_not_lt fun hlt => h (Or.inr hlt)⟩

inductive TxResult
  | prepareFailed
  | failed (took : Nat)
  | complete (airtime : Nat)

/-- What the loop wakes up for, with the time that its waits take. -/
inductive LoraEvent
  /-- Nothing happens for the whole interval; the timer fires `late`. -/
  | silence (late : Nat)
  /-- A frame from the queue.  Listening for a free channel only delays it. -/
  | frame (wait : Nat) (txEnabled : Bool) (listening : Nat) (result : TxResult)
      (resuming : Nat)
  | received (wait : Nat) (data : Bytes) (metadata : RadioMetadata)
  | rxError (wait recovering : Nat)

structure LoraLoop where
  now : Nat
  txAirtimeMs : Nat
  rxAirtimeMs : Nat
  utilWindowStart : Nat
  lastUtilReport : Nat

namespace LoraLoop

def HEARTBEAT_INTERVAL : Nat := 30000
def SILENT_CHANNEL_REPORT_INTERVAL : Nat := 600000

def UTIL_WINDOW : Nat := 3600000

def init (now : Nat) : LoraLoop := ⟨now, 0, 0, now, now⟩

def wait (loop : LoraLoop) (ms : Nat) : LoraLoop := { loop with now := loop.now + ms }

/-- The loop when it is ready to receive again, or has received. -/
def heard (loop : LoraLoop) : LoraEvent → LoraLoop
  | .silence late => loop.wait (SILENT_CHANNEL_REPORT_INTERVAL + late)
  | .frame wait txEnabled listening result resuming =>
      if txEnabled then
        let loop := loop.wait (wait + listening)
        let loop :=
          match result with
          | .prepareFailed => loop
          | .failed took => loop.wait took
          | .complete airtime =>
              { loop.wait airtime with txAirtimeMs := loop.txAirtimeMs + airtime }
        loop.wait resuming
      else loop.wait wait
  | .received wait data _ =>
      { loop.wait wait with rxAirtimeMs := loop.rxAirtimeMs + data.length }
  | .rxError wait recovering => loop.wait (wait + recovering)

/-- Whether a report may go along with a frame. -/
def isReportDue (loop : LoraLoop) : Bool :=
  decide (HEARTBEAT_INTERVAL ≤ loop.now - loop.lastUtilReport)

/-- Whether the loop reports on this event, once it is `heard`. -/
def reports (heard : LoraLoop) : LoraEvent → Bool
  | .silence _ => true
  | .frame _ txEnabled _ _ _ => txEnabled && heard.isReportDue
  | .received _ _ _ => heard.isReportDue
  | .rxError _ _ => false

def reportChannelUtil (loop : LoraLoop) : MeshEvent :=
  let elapsedMs := max 1 (loop.now - loop.utilWindowStart)
  let totalAirtimeMs := loop.txAirtimeMs + loop.rxAirtimeMs
  .channelUtilUpdate ((totalAirtimeMs : ℚ) / elapsedMs * 100)
    ((loop.txAirtimeMs : ℚ) / elapsedMs * 100)

def isWindowOver (loop : LoraLoop) : Bool :=
  decide (UTIL_WINDOW ≤ loop.now - loop.utilWindowStart)

def reported (loop : LoraLoop) : LoraLoop :=
  let loop := { loop with lastUtilReport := loop.now }
  if loop.isWindowOver then
    { loop with txAirtimeMs := 0, rxAirtimeMs := 0, utilWindowStart := loop.now }
  else loop

def step (loop : LoraLoop) (event : LoraEvent) : LoraLoop :=
  let heard := loop.heard event
  if heard.reports event then heard.reported else heard

/-- What an event makes the loop put into `mesh_in`, as far as that has room. -/
def posted (loop : LoraLoop) (event : LoraEvent) : List MeshEvent :=
  let frames :=
    match event with
    | .received _ data metadata =>
        ((RadioFrame.fromRaw data).map fun frame => .loraRx frame metadata).toList
    | _ => []
  let heard := loop.heard event
  frames ++ if heard.reports event then [heard.reportChannelUtil] else []

theorem le_now_heard (loop : LoraLoop) (event : LoraEvent) :
    loop.now ≤ (loop.heard event).now := by
  cases event with
  | silence late => exact Nat.le_add_right _ _
  | frame wait txEnabled listening result resuming =>
      cases txEnabled with
      | false => exact Nat.le_add_right _ _
      | true =>
          have hlistening : loop.now ≤ loop.now + (wait + listening) := Nat.le_add_right _ _
          cases result with
          | prepareFailed => exact Nat.le_trans hlistening (Nat.le_add_right _ _)
          | failed took =>
              exact Nat.le_trans hlistening
                (Nat.le_trans (Nat.le_add_right _ took) (Nat.le_add_right _ _))
          | complete airtime =>
              exact Nat.le_trans hlistening
                (Nat.le_trans (Nat.le_add_right _ airtime) (Nat.le_add_right _ _))
  | received wait data metadata => exact Nat.le_add_right _ _
  | rxError wait recovering => exact Nat.le_add_right _ _

theorem utilWindowStart_heard (loop : LoraLoop) (event : LoraEvent) :
    (loop.heard event).utilWindowStart = loop.utilWindowStart := by
  cases event with
  | frame wait txEnabled listening result resuming =>
      cases txEnabled with
      | false => rfl
      | true => cases result <;> rfl
  | _ => rfl

theorem eq_reportChannelUtil_of_mem_posted {loop : LoraLoop} {event : LoraEvent}
    {channelUtil airUtilTx : ℚ} (h : .channelUtilUpdate channelUtil airUtilTx ∈ loop.posted event) :
    (loop.heard event).reports event = true ∧
      .channelUtilUpdate channelUtil airUtilTx = (loop.heard event).reportChannelUtil := by
  unfold posted at h
  rcases List.mem_append.mp h with hframe | hreport
  · split at hframe
    · rename_i data metadata
      rw [Option.mem_toList] at hframe
      obtain ⟨frame, -, hsame⟩ := Option.map_eq_some_iff.mp hframe
      cases hsame
    · cases hframe
  · split at hreport
    · rename_i hreports
      exact ⟨hreports, List.mem_singleton.mp hreport⟩
    · cases hreport

theorem reportChannelUtil_of_silent {loop : LoraLoop} (htx : loop.txAirtimeMs = 0)
    (hrx : loop.rxAirtimeMs = 0) : loop.reportChannelUtil = .channelUtilUpdate 0 0 := by
  unfold reportChannelUtil
  rw [htx, hrx]
  simp

theorem reportChannelUtil_mem_posted {loop : LoraLoop} {event : LoraEvent}
    (h : (loop.heard event).reports event = true) :
    (loop.heard event).reportChannelUtil ∈ loop.posted event := by
  unfold posted
  dsimp only
  rw [if_pos h]
  exact List.mem_append_right _ (List.mem_singleton_self _)

end LoraLoop

/-! ## The record of a run -/

structure LoraRun where
  loop : LoraLoop
  meter : Meter

namespace LoraRun

open LoraLoop

def init (now : Nat) : LoraRun := ⟨LoraLoop.init now, Meter.new now⟩

def transmission (now : Nat) : LoraEvent → List Arrival
  | .frame wait true listening (.complete airtime) _ =>
      [⟨now + (wait + listening) + airtime, airtime⟩]
  | _ => []

def heard (run : LoraRun) (event : LoraEvent) : LoraRun where
  loop := run.loop.heard event
  meter := run.meter.count (transmission run.loop.now event)

def step (run : LoraRun) (event : LoraEvent) : LoraRun where
  loop := run.loop.step event
  meter :=
    let heard := run.heard event
    if heard.loop.reports event && heard.loop.isWindowOver then heard.meter.reset heard.loop.now
    else heard.meter

structure Metered (run : LoraRun) : Prop where
  start_eq : run.loop.utilWindowStart = run.meter.start
  airtime_eq : run.loop.txAirtimeMs = Arrival.total run.meter.counted
  inOrder : run.meter.InOrder run.loop.now

theorem metered_init (now : Nat) : (init now).Metered := ⟨rfl, rfl, Meter.inOrder_new now⟩

theorem transmission_le (loop : LoraLoop) (event : LoraEvent) :
    ∀ a ∈ transmission loop.now event, loop.now ≤ a.time ∧ a.time ≤ (loop.heard event).now := by
  intro a ha
  unfold transmission at ha
  split at ha
  · rename_i wait listening airtime resuming
    rw [List.mem_singleton] at ha
    subst ha
    have hnow : (loop.heard (.frame wait true listening (.complete airtime) resuming)).now =
        loop.now + (wait + listening) + airtime + resuming := rfl
    rw [hnow]
    dsimp only
    omega
  · cases ha

theorem txAirtimeMs_heard (loop : LoraLoop) (event : LoraEvent) :
    (loop.heard event).txAirtimeMs =
      loop.txAirtimeMs + Arrival.total (transmission loop.now event) := by
  cases event with
  | frame wait txEnabled listening result resuming =>
      cases txEnabled with
      | false => rfl
      | true => cases result <;> rfl
  | _ => rfl

theorem Metered.heard {run : LoraRun} (h : run.Metered) (event : LoraEvent) :
    (run.heard event).Metered where
  start_eq := (utilWindowStart_heard run.loop event).trans h.start_eq
  airtime_eq := by
    have hcounted : Arrival.total (run.heard event).meter.counted =
        Arrival.total run.meter.counted + Arrival.total (transmission run.loop.now event) :=
      Arrival.total_append _ _
    rw [hcounted, ← h.airtime_eq]
    exact txAirtimeMs_heard run.loop event
  inOrder := h.inOrder.count (transmission_le run.loop event) (le_now_heard run.loop event)

theorem Metered.step {run : LoraRun} (h : run.Metered) (event : LoraEvent) :
    (run.step event).Metered := by
  have hheard := h.heard event
  unfold LoraRun.step LoraLoop.step
  dsimp only
  change Metered
    ⟨if (run.heard event).loop.reports event then (run.heard event).loop.reported
      else (run.heard event).loop, _⟩
  generalize run.heard event = heard at hheard
  cases hreports : heard.loop.reports event with
  | false => exact hheard
  | true =>
      unfold reported
      cases hover : heard.loop.isWindowOver with
      | false =>
          have hkept :
              ({ heard.loop with lastUtilReport := heard.loop.now } : LoraLoop).isWindowOver =
              false := hover
          simp only [hkept]
          exact ⟨hheard.start_eq, hheard.airtime_eq, hheard.inOrder⟩
      | true =>
          have hkept :
              ({ heard.loop with lastUtilReport := heard.loop.now } : LoraLoop).isWindowOver =
              true := hover
          simp only [hkept]
          exact ⟨rfl, rfl, hheard.inOrder.reset⟩

end LoraRun

end Meshtastenstein
