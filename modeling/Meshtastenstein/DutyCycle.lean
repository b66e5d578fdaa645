import Mathlib.Tactic.NormNum
import Meshtastenstein.LoraLoop
/-!
# The duty cycle

What a report of the LoRa loop says about the last hour of transmission.  The loop's window
is a meter that is reset after an hour or more, so a report is high enough exactly when that
meter keeps up with the trailing hour.
-/

namespace Meshtastenstein

open Lib Handlers

variable {S : Type} [MeshStorage S]

namespace LoraRun

open LoraLoop

/-- The share of the last hour that was spent on transmissions, in percent. -/
def lastHourPct (run : LoraRun) : ℚ :=
  100 * (run.meter.trailing run.loop.now UTIL_WINDOW : ℚ) / UTIL_WINDOW

/-- Every report is at least the share of the last hour. -/
def CoversLastHour (run : LoraRun) (event : LoraEvent) : Prop :=
  ∀ channelUtil airUtilTx, .channelUtilUpdate channelUtil airUtilTx ∈ run.loop.posted event →
    (run.heard event).lastHourPct ≤ airUtilTx

/-- Once it has the report, `lora_send` sends only when the share of the last hour was below
the ceiling of the region. -/
def KeepsCeiling (S : Type) [MeshStorage S] (env : Env) (run : LoraRun) (event : LoraEvent) :
    Prop :=
  ∀ report ∈ run.loop.posted event, ∀ channelUtil airUtilTx,
    report = .channelUtilUpdate channelUtil airUtilTx →
      ∀ (ctx : MeshCtx S) portnum payload dest wantResponse,
        (loraSend env (dispatch env ctx report) portnum payload dest wantResponse).2 = true →
          (run.heard event).lastHourPct < (region env ctx).dutyCyclePct

/-- When the loop reports, its window keeps up with the last hour. -/
def KeepsUp (run : LoraRun) (event : LoraEvent) : Prop :=
  (run.heard event).loop.reports event = true →
    (run.heard event).meter.KeepsUp (run.heard event).loop.now UTIL_WINDOW

theorem Metered.reportChannelUtil_eq {run : LoraRun} (h : run.Metered) :
    run.loop.reportChannelUtil = .channelUtilUpdate
      (((run.loop.txAirtimeMs + run.loop.rxAirtimeMs : ℕ) : ℚ) / run.meter.age run.loop.now * 100)
      ((Arrival.total run.meter.counted : ℚ) / run.meter.age run.loop.now * 100) := by
  unfold reportChannelUtil Meter.age
  rw [← h.start_eq, ← h.airtime_eq]

theorem coversLastHour_iff {run : LoraRun} (h : run.Metered) (event : LoraEvent) :
    run.CoversLastHour event ↔ run.KeepsUp event := by
  have hheard := h.heard event
  have hrate := Meter.trailing_div_le_iff hheard.inOrder (by decide : 0 < UTIL_WINDOW)
  have hpct : (run.heard event).lastHourPct =
      ((run.heard event).meter.trailing (run.heard event).loop.now UTIL_WINDOW : ℚ) /
        UTIL_WINDOW * 100 := by
    unfold lastHourPct
    rw [mul_div_assoc, mul_comm]
  have hreport := hheard.reportChannelUtil_eq
  constructor
  · intro hcovers hreports
    have hposted := reportChannelUtil_mem_posted hreports
    change (run.heard event).loop.reportChannelUtil ∈ _ at hposted
    rw [hreport] at hposted
    have hle := hcovers _ _ hposted
    rw [hpct] at hle
    exact hrate.mp (le_of_mul_le_mul_right hle (by norm_num))
  · intro hkeeps channelUtil airUtilTx hmem
    obtain ⟨hreports, hsame⟩ := eq_reportChannelUtil_of_mem_posted hmem
    change _ = (run.heard event).loop.reportChannelUtil at hsame
    rw [hreport] at hsame
    cases hsame
    rw [hpct]
    exact mul_le_mul_of_nonneg_right (hrate.mpr (hkeeps hreports)) (by norm_num)

/-- What was sent was below the ceiling that the report shows. -/
theorem lt_dutyCyclePct_of_loraSend {env : Env} {ctx : MeshCtx S} {channelUtil airUtilTx : ℚ}
    {portnum : Proto.PortNum} {payload : Bytes} {dest : UInt32} {wantResponse : Bool}
    (h : (loraSend env (dispatch env ctx (.channelUtilUpdate channelUtil airUtilTx)) portnum
      payload dest wantResponse).2 = true) :
    airUtilTx < (region env ctx).dutyCyclePct := by
  unfold loraSend at h
  split at h
  · rename_i hallowed
    unfold txAllowedImpolite ChannelMetrics.txAllowedImpolite at hallowed
    obtain ⟨-, hair⟩ := Bool.and_eq_true_iff.mp hallowed
    exact of_decide_eq_true hair
  · cases h

theorem CoversLastHour.keepsCeiling {run : LoraRun} {event : LoraEvent}
    (h : run.CoversLastHour event) (env : Env) : run.KeepsCeiling S env event := by
  intro report hreport channelUtil airUtilTx hsame ctx portnum payload dest wantResponse hsent
  subst hsame
  exact lt_of_le_of_lt (h channelUtil airUtilTx hreport) (lt_dutyCyclePct_of_loraSend hsent)

/-- In every run of the loop, the reports cover the last hour exactly when the window keeps up
at every one of them; the node then keeps to the ceiling of its region. -/
theorem coversLastHour_always_iff (env : Env) (now : Nat) (events : List LoraEvent) :
    (Transition.Always step CoversLastHour (init now) events ↔
      Transition.Always step KeepsUp (init now) events) ∧
    (Transition.Always step KeepsUp (init now) events →
      Transition.Always step (KeepsCeiling S env) (init now) events) := by
  have hiff : Transition.Always step CoversLastHour (init now) events ↔
      Transition.Always step KeepsUp (init now) events :=
    Transition.always_congr (fun _ event h => coversLastHour_iff h event)
      (fun _ event h _ => h.step event) (metered_init now)
  refine ⟨hiff, fun hkeeps t ht => ?_⟩
  have hcovers := hiff.mpr hkeeps t ht
  exact hcovers.keepsCeiling env

/-! ### A burst before a reset -/

def longFrame : LoraEvent := .frame 28000 true 0 (.complete 2000) 0

/-- Fifty minutes of silence, then twenty frames until the hour is over. -/
def burst : List LoraEvent := List.replicate 5 (.silence 0) ++ List.replicate 20 longFrame

def afterBurst : LoraRun := Transition.run step (init 0) burst

theorem lastHourPct_afterBurst : (afterBurst.heard (.silence 0)).lastHourPct = 10 / 9 := by
  have htrailing : (afterBurst.heard (.silence 0)).meter.trailing
      (afterBurst.heard (.silence 0)).loop.now UTIL_WINDOW = 40000 := by decide +kernel
  unfold lastHourPct
  rw [htrailing]
  norm_num [UTIL_WINDOW]

theorem reported_afterBurst :
    .channelUtilUpdate 0 0 ∈ afterBurst.loop.posted (.silence 0) := by
  have hloop : (afterBurst.loop.heard (.silence 0)).txAirtimeMs = 0 ∧
      (afterBurst.loop.heard (.silence 0)).rxAirtimeMs = 0 := by decide +kernel
  rw [← reportChannelUtil_of_silent hloop.1 hloop.2]
  exact reportChannelUtil_mem_posted rfl

/-- The report ten minutes later says zero, though more than one percent of the last hour was
spent on transmissions. -/
theorem burst_not_covered :
    .channelUtilUpdate 0 0 ∈ afterBurst.loop.posted (.silence 0) ∧
    Region.eu868.dutyCyclePct < (afterBurst.heard (.silence 0)).lastHourPct ∧
    ¬ Transition.Always step CoversLastHour (init 0) (burst ++ [.silence 0]) := by
  refine ⟨reported_afterBurst, ?_, fun hcovers => ?_⟩
  · rw [lastHourPct_afterBurst]
    norm_num [Region.dutyCyclePct]
  · have hlast := @Transition.forall_trace_concat _ _ step
      (fun t => t.before.CoversLastHour t.event) _ _ _ hcovers
    have hle := hlast 0 0 reported_afterBurst
    change (afterBurst.heard (.silence 0)).lastHourPct ≤ 0 at hle
    rw [lastHourPct_afterBurst] at hle
    norm_num at hle

end LoraRun

end Meshtastenstein
