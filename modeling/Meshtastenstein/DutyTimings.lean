import Meshtastenstein.LoraSettings
/-!
# Listening and sleeping

How long the radio listens and how long it sleeps between two looks for a preamble, in ticks of
its timer.  The computation in machine words is that of the natural numbers as long as the
longer of the two fits, in microseconds, a word with three more digits.
-/

namespace Meshtastenstein

open Lib Proto Handlers

structure DutyCycleParams where
  rxTime : UInt32
  sleepTime : UInt32
deriving DecidableEq

def MESHTASTIC_PREAMBLE_LENGTH : UInt16 := 64
def RX_DUTY_CYCLE_MIN_SYMBOLS : UInt32 := 8
def SX1262_TIMER_TICK_US : UInt32 := 15625
def SX1262_TIMER_TICK_US_DIV : UInt32 := 1000
def MIN_WORTHWHILE_SLEEP_US : UInt32 := 1016

def saturatingSub (a b : UInt32) : UInt32 := if b ≤ a then a - b else 0

def usToSx1262Ticks (mode : Overflow) (us : UInt32) : Option UInt32 := do
  Overflow.div (← mode.mul us SX1262_TIMER_TICK_US_DIV) SX1262_TIMER_TICK_US

/-- The timings, `none` inside when the radio is to listen all the time. -/
def rxDutyCycleParams (mode : Overflow) (senderPreambleSymbols : UInt16)
    (spreadingFactor : UInt8) (bandwidthHz : UInt32) : Option (Option DutyCycleParams) := do
  let preamble := senderPreambleSymbols.toUInt32
  let minSymbols := RX_DUTY_CYCLE_MIN_SYMBOLS
  let twice ← mode.mul 2 minSymbols
  if preamble < twice then some none
  else
    let sleepSymbols ← mode.sub preamble twice
    let bandwidthKhz ← Overflow.div bandwidthHz 1000
    if bandwidthKhz = 0 then some none
    else
      let symbolLengthUs ← Overflow.div (10000 <<< (min spreadingFactor 31).toUInt32)
        (← mode.mul 10 bandwidthKhz)
      let sleepPeriodUs ← mode.mul symbolLengthUs sleepSymbols
      if sleepPeriodUs < MIN_WORTHWHILE_SLEEP_US then some none
      else
        let a ← Overflow.div (saturatingSub (← mode.mul symbolLengthUs (← mode.add preamble 1))
          (saturatingSub sleepPeriodUs 1000)) 2
        let b ← mode.mul symbolLengthUs (← mode.add minSymbols 1)
        let wakePeriodUs := max a b
        let rxTime ← usToSx1262Ticks mode wakePeriodUs
        let sleepTime ← usToSx1262Ticks mode sleepPeriodUs
        some (some { rxTime := rxTime, sleepTime := sleepTime })

/-! ## The formula -/

namespace DutyFormula

/-- The length of a symbol in microseconds. -/
def symbolUs (spreadingFactor bandwidthHz : Nat) : Nat :=
  10000 * 2 ^ spreadingFactor / (10 * (bandwidthHz / 1000))

def sleepUs (symbol preamble : Nat) : Nat := symbol * (preamble - 16)

def wakeUs (symbol preamble : Nat) : Nat :=
  max ((symbol * (preamble + 1) - (sleepUs symbol preamble - 1000)) / 2) (symbol * 9)

def ticks (us : Nat) : Nat := us * 1000 / 15625

/-- From a preamble on that leaves time to sleep, the listening period is that of nine symbols
or half of what is left, and never more than the longer of nine symbols and the sleep. -/
theorem wakeUs_le {symbol preamble : Nat} (h : 1016 ≤ sleepUs symbol preamble) :
    wakeUs symbol preamble ≤ max (symbol * 9) 9000 := by
  have hpreamble : 16 < preamble := by
    by_contra hle
    have hzero : preamble - 16 = 0 := by omega
    unfold sleepUs at h
    rw [hzero, Nat.mul_zero] at h
    omega
  have hsplit : symbol * (preamble + 1) = sleepUs symbol preamble + symbol * 17 := by
    unfold sleepUs
    rw [← Nat.mul_add]
    congr 1
    omega
  unfold wakeUs
  rw [hsplit]
  omega

theorem symbolUs_le {spreadingFactor bandwidthHz : Nat} (hsf : spreadingFactor ≤ 12)
    (hbandwidth : 1000 ≤ bandwidthHz) : symbolUs spreadingFactor bandwidthHz ≤ 4096000 := by
  have hpow : 2 ^ spreadingFactor ≤ 2 ^ 12 := Nat.pow_le_pow_right (by decide) hsf
  have hkhz : 1 ≤ bandwidthHz / 1000 := (Nat.one_le_div_iff (by decide)).mpr hbandwidth
  unfold symbolUs
  calc
    10000 * 2 ^ spreadingFactor / (10 * (bandwidthHz / 1000)) ≤ 10000 * 2 ^ 12 / 10 :=
      Nat.div_le_div (Nat.mul_le_mul_left _ hpow) (by omega) (by decide)
    _ = 4096000 := by decide

end DutyFormula

/-! ## The computation -/

theorem toNat_saturatingSub (a b : UInt32) : (saturatingSub a b).toNat = a.toNat - b.toNat := by
  unfold saturatingSub
  split
  · rename_i h
    exact UInt32.toNat_sub_of_le a b h
  · rename_i h
    rw [UInt32.le_iff_toNat_le] at h
    have hzero : (0 : UInt32).toNat = 0 := rfl
    omega

theorem toNat_max (a b : UInt32) : (max a b).toNat = max a.toNat b.toNat := by
  unfold max instMaxUInt32 maxOfLe
  dsimp only
  split
  · rename_i h
    rw [UInt32.le_iff_toNat_le] at h
    exact (Nat.max_eq_right h).symm
  · rename_i h
    rw [UInt32.le_iff_toNat_le] at h
    exact (Nat.max_eq_left (by omega)).symm

theorem toNat_shiftedTenThousand {sf : UInt8} (h : sf ≤ 12) :
    ((10000 : UInt32) <<< (min sf 31).toUInt32).toNat = 10000 * 2 ^ sf.toNat := by
  have hsf : sf.toNat ≤ 12 := h
  have hmin : min sf 31 = sf := if_pos (UInt8.le_trans h (by decide))
  have hpow : 2 ^ sf.toNat ≤ 2 ^ 12 := Nat.pow_le_pow_right (by decide) hsf
  have hten : (10000 : UInt32).toNat = 10000 := rfl
  have hshift : sf.toNat % 32 = sf.toNat := Nat.mod_eq_of_lt (by omega)
  rw [hmin, UInt32.toNat_shiftLeft, UInt8.toNat_toUInt32, hshift, hten, Nat.shiftLeft_eq]
  exact Nat.mod_eq_of_lt (by omega)

variable {mode : Overflow} {preamble : UInt16} {sf : UInt8} {bandwidthHz : UInt32}

/-- What a device can be set to and what a sender is expected to send. -/
structure DutyRanges (preamble : UInt16) (sf : UInt8) (bandwidthHz : UInt32) : Prop where
  preamble_le : preamble ≤ 64
  sf_le : sf ≤ 12
  le_bandwidth : 1000 ≤ bandwidthHz.toNat

theorem DutyRanges.computes_symbol (h : DutyRanges preamble sf bandwidthHz) (mode : Overflow) :
    ∃ khz : UInt32, khz ≠ 0 ∧ Overflow.div bandwidthHz 1000 = some khz ∧
      ∃ ten, mode.mul 10 khz = some ten ∧
        Overflow.Computes (Overflow.div (10000 <<< (min sf 31).toUInt32) ten)
          (DutyFormula.symbolUs sf.toNat bandwidthHz.toNat) := by
  have hlt := bandwidthHz.toNat_lt
  have hbandwidth := h.le_bandwidth
  have hthousand : (1000 : UInt32).toNat = 1000 := rfl
  have hten : (10 : UInt32).toNat = 10 := rfl
  obtain ⟨khz, hkhz, hkhzValue⟩ :=
    Overflow.computes_div (a := bandwidthHz) (by decide : (1000 : UInt32) ≠ 0)
  rw [hthousand] at hkhzValue
  have hkhzPos : khz ≠ 0 := by
    rintro rfl
    have hzero : (0 : UInt32).toNat = 0 := rfl
    omega
  have hfits : (10 : UInt32).toNat * khz.toNat < UInt32.size := by
    rw [hten]
    change _ < 4294967296
    omega
  obtain ⟨ten, hmul, htenValue⟩ := Overflow.computes_mul mode hfits
  have htenPos : ten ≠ 0 := by
    rintro rfl
    have hzero : (0 : UInt32).toNat = 0 := rfl
    rw [hten] at htenValue
    omega
  refine ⟨khz, hkhzPos, hkhz, ten, hmul, ?_⟩
  unfold DutyFormula.symbolUs
  rw [← hkhzValue, ← toNat_shiftedTenThousand h.sf_le, ← hten, ← htenValue]
  exact Overflow.computes_div htenPos

theorem DutyRanges.symbolUs_le (h : DutyRanges preamble sf bandwidthHz) :
    DutyFormula.symbolUs sf.toNat bandwidthHz.toNat ≤ 4096000 :=
  DutyFormula.symbolUs_le h.sf_le h.le_bandwidth

theorem DutyRanges.computes_sleep (h : DutyRanges preamble sf bandwidthHz) (mode : Overflow)
    {symbol : UInt32}
    (hvalue : symbol.toNat = DutyFormula.symbolUs sf.toNat bandwidthHz.toNat)
    (hlong : (16 : UInt32) ≤ preamble.toUInt32) :
    ∃ symbols, mode.sub preamble.toUInt32 16 = some symbols ∧
      Overflow.Computes (mode.mul symbol symbols)
        (DutyFormula.sleepUs (DutyFormula.symbolUs sf.toNat bandwidthHz.toNat)
          preamble.toNat) := by
  have hpreamble : preamble.toNat ≤ 64 := h.preamble_le
  have hsymbol := h.symbolUs_le
  have hwide : preamble.toUInt32.toNat = preamble.toNat := UInt16.toNat_toUInt32 preamble
  have hsixteen : (16 : UInt32).toNat = 16 := rfl
  obtain ⟨symbols, hsymbols, hcount⟩ := Overflow.computes_sub mode hlong
  have hproduct : symbol.toNat * symbols.toNat < UInt32.size := by
    have hle : symbol.toNat * symbols.toNat ≤ 4096000 * 64 := Nat.mul_le_mul (by omega) (by omega)
    exact Nat.lt_of_le_of_lt hle (by decide)
  have hsleep := Overflow.computes_mul mode hproduct
  rw [hcount, hvalue, hwide] at hsleep
  exact ⟨symbols, hsymbols, hsleep⟩

theorem DutyRanges.computes_wake (h : DutyRanges preamble sf bandwidthHz) (mode : Overflow)
    {symbol sleep : UInt32}
    (hvalue : symbol.toNat = DutyFormula.symbolUs sf.toNat bandwidthHz.toNat)
    (hsleep : sleep.toNat = DutyFormula.sleepUs
      (DutyFormula.symbolUs sf.toNat bandwidthHz.toNat) preamble.toNat) :
    ∃ next whole a b, mode.add preamble.toUInt32 1 = some next ∧
      mode.mul symbol next = some whole ∧
      Overflow.div (saturatingSub whole (saturatingSub sleep 1000)) 2 = some a ∧
      mode.mul symbol 9 = some b ∧
      (max a b).toNat = DutyFormula.wakeUs (DutyFormula.symbolUs sf.toNat bandwidthHz.toNat)
        preamble.toNat := by
  have hpreamble : preamble.toNat ≤ 64 := h.preamble_le
  have hsymbol := h.symbolUs_le
  have hwide : preamble.toUInt32.toNat = preamble.toNat := UInt16.toNat_toUInt32 preamble
  have hone : (1 : UInt32).toNat = 1 := rfl
  have hproduct : ∀ {x y : Nat}, x ≤ 4096000 → y ≤ 65 → x * y < UInt32.size := fun hx hy =>
    Nat.lt_of_le_of_lt (Nat.mul_le_mul hx hy) (by decide)
  obtain ⟨next, hnext, hnextValue⟩ := Overflow.computes_add mode
    (a := preamble.toUInt32) (b := 1) (by
      change _ < 4294967296
      omega)
  obtain ⟨whole, hwhole, hwholeValue⟩ := Overflow.computes_mul mode
    (hproduct (by omega : symbol.toNat ≤ 4096000) (by omega : next.toNat ≤ 65))
  obtain ⟨a, ha, haValue⟩ := Overflow.computes_div
    (a := saturatingSub whole (saturatingSub sleep 1000)) (by decide : (2 : UInt32) ≠ 0)
  obtain ⟨b, hb, hbValue⟩ := Overflow.computes_mul mode
    (hproduct (by omega : symbol.toNat ≤ 4096000) (by decide : (9 : UInt32).toNat ≤ 65))
  refine ⟨next, whole, a, b, hnext, hwhole, ha, hb, ?_⟩
  rw [toNat_max, haValue, hbValue, toNat_saturatingSub, toNat_saturatingSub, hwholeValue,
    hsleep, hnextValue, hvalue, hwide]
  rfl

/-- A sleep worth it takes a preamble of more symbols than the radio looks at. -/
theorem le_preamble_of_sleep {length : Nat}
    (hsleep : 1016 ≤ DutyFormula.sleepUs length preamble.toNat) :
    (16 : UInt32) ≤ preamble.toUInt32 := by
  have hwide : preamble.toUInt32.toNat = preamble.toNat := UInt16.toNat_toUInt32 preamble
  have hsixteen : (16 : UInt32).toNat = 16 := rfl
  rw [UInt32.le_iff_toNat_le, hwide, hsixteen]
  by_contra hshort
  have hzero : preamble.toNat - 16 = 0 := by omega
  unfold DutyFormula.sleepUs at hsleep
  rw [hzero, Nat.mul_zero] at hsleep
  omega

/-- Without a sleep worth it the radio listens all the time. -/
theorem rxDutyCycleParams_of_lt (h : DutyRanges preamble sf bandwidthHz)
    (hsleep : DutyFormula.sleepUs (DutyFormula.symbolUs sf.toNat bandwidthHz.toNat)
      preamble.toNat < 1016) :
    rxDutyCycleParams mode preamble sf bandwidthHz = some none := by
  obtain ⟨khz, hkhz, hdiv, ten, hmul, symbol, hsymbolDiv, hvalue⟩ := h.computes_symbol mode
  have htwice : mode.mul 2 RX_DUTY_CYCLE_MIN_SYMBOLS = some 16 :=
    Overflow.keep_of_lt (by decide)
  unfold rxDutyCycleParams
  dsimp only
  rw [htwice]
  simp only [Option.bind_eq_bind, Option.bind_some]
  by_cases hshort : preamble.toUInt32 < 16
  · rw [if_pos hshort]
  · obtain ⟨symbols, hsymbols, sleep, hsleepMul, hsleepValue⟩ :=
      h.computes_sleep mode hvalue (UInt32.not_lt.mp hshort)
    have hshortSleep : sleep < MIN_WORTHWHILE_SLEEP_US := by
      rw [UInt32.lt_iff_toNat_lt, hsleepValue]
      exact hsleep
    simp only [if_neg hshort, hsymbols, hdiv, if_neg hkhz, hmul, hsymbolDiv, hsleepMul,
      if_pos hshortSleep, Option.bind_some]

theorem rxDutyCycleParams_of_le (mode : Overflow) (h : DutyRanges preamble sf bandwidthHz)
    (hsleep : 1016 ≤ DutyFormula.sleepUs (DutyFormula.symbolUs sf.toNat bandwidthHz.toNat)
      preamble.toNat) :
    ∃ wake sleep : UInt32,
      wake.toNat = DutyFormula.wakeUs (DutyFormula.symbolUs sf.toNat bandwidthHz.toNat)
        preamble.toNat ∧
      sleep.toNat = DutyFormula.sleepUs (DutyFormula.symbolUs sf.toNat bandwidthHz.toNat)
        preamble.toNat ∧
      rxDutyCycleParams mode preamble sf bandwidthHz =
        (usToSx1262Ticks mode wake).bind fun rxTime =>
          (usToSx1262Ticks mode sleep).bind fun sleepTime =>
            some (some { rxTime := rxTime, sleepTime := sleepTime }) := by
  have hlong := le_preamble_of_sleep hsleep
  obtain ⟨khz, hkhz, hdiv, ten, hmul, symbol, hsymbolDiv, hvalue⟩ := h.computes_symbol mode
  obtain ⟨symbols, hsymbols, sleep, hsleepMul, hsleepValue⟩ :=
    h.computes_sleep mode hvalue hlong
  obtain ⟨next, whole, a, b, hnext, hwhole, ha, hb, hwake⟩ :=
    h.computes_wake mode hvalue hsleepValue
  have htwice : mode.mul 2 RX_DUTY_CYCLE_MIN_SYMBOLS = some 16 :=
    Overflow.keep_of_lt (by decide)
  have hnine : mode.add RX_DUTY_CYCLE_MIN_SYMBOLS 1 = some 9 :=
    Overflow.keep_of_lt (by decide)
  have hworth : ¬ sleep < MIN_WORTHWHILE_SLEEP_US := by
    rw [UInt32.lt_iff_toNat_lt, hsleepValue]
    exact Nat.not_lt.mpr hsleep
  refine ⟨max a b, sleep, hwake, hsleepValue, ?_⟩
  unfold rxDutyCycleParams
  dsimp only
  simp only [htwice, if_neg (UInt32.not_lt.mpr hlong), hsymbols, hdiv, if_neg hkhz, hmul,
    hsymbolDiv, hsleepMul, if_neg hworth, hnext, hwhole, ha, hnine, hb, Option.bind_eq_bind,
    Option.bind_some]

theorem DutyRanges.wraps_isSome (h : DutyRanges preamble sf bandwidthHz) :
    ∃ timings, rxDutyCycleParams .wraps preamble sf bandwidthHz = some timings := by
  by_cases hsleep : 1016 ≤
      DutyFormula.sleepUs (DutyFormula.symbolUs sf.toNat bandwidthHz.toNat) preamble.toNat
  · obtain ⟨wake, sleep, -, -, hrest⟩ := rxDutyCycleParams_of_le .wraps h hsleep
    exact ⟨_, hrest⟩
  · exact ⟨none, rxDutyCycleParams_of_lt h (Nat.lt_of_not_le hsleep)⟩

/-! ## Ticks -/

theorem computes_usToSx1262Ticks (mode : Overflow) {us : UInt32} (h : us.toNat ≤ 4294967) :
    Overflow.Computes (usToSx1262Ticks mode us) (DutyFormula.ticks us.toNat) := by
  have hfits : us.toNat * SX1262_TIMER_TICK_US_DIV.toNat < UInt32.size :=
    Nat.lt_of_le_of_lt (Nat.mul_le_mul_right _ h) (by decide)
  obtain ⟨scaled, hmul, hvalue⟩ := Overflow.computes_mul mode hfits
  have hticks := Overflow.computes_div (a := scaled) (by decide : SX1262_TIMER_TICK_US ≠ 0)
  rw [hvalue] at hticks
  unfold usToSx1262Ticks
  rw [hmul]
  exact hticks

theorem usToSx1262Ticks_stops {us : UInt32} (h : 4294967 < us.toNat) :
    usToSx1262Ticks .stops us = none := by
  have hwide : UInt32.size ≤ us.toNat * SX1262_TIMER_TICK_US_DIV.toNat := by
    have hdigits : SX1262_TIMER_TICK_US_DIV.toNat = 1000 := rfl
    rw [hdigits]
    change 4294967296 ≤ _
    omega
  unfold usToSx1262Ticks
  rw [Overflow.mul_stops_eq_none hwide]
  rfl

namespace DutyFormula

/-- The longer of nine symbols and the sleep has microseconds that fit with three more
digits. -/
def Fits (preamble spreadingFactor bandwidthHz : Nat) : Prop :=
  preamble ≤ 16 ∨
    1000 * 2 ^ spreadingFactor <
      (4294967 / max (preamble - 16) 9 + 1) * (bandwidthHz / 1000)

theorem symbolUs_mul_le_iff {spreadingFactor bandwidthHz n : Nat} (hn : 0 < n)
    (hbandwidth : 1000 ≤ bandwidthHz) :
    symbolUs spreadingFactor bandwidthHz * n ≤ 4294967 ↔
      1000 * 2 ^ spreadingFactor < (4294967 / n + 1) * (bandwidthHz / 1000) := by
  have hkhz : 0 < bandwidthHz / 1000 := (Nat.one_le_div_iff (by decide)).mpr hbandwidth
  have hsymbol : symbolUs spreadingFactor bandwidthHz =
      1000 * 2 ^ spreadingFactor / (bandwidthHz / 1000) := by
    unfold symbolUs
    rw [show 10000 * 2 ^ spreadingFactor = 10 * (1000 * 2 ^ spreadingFactor) by omega]
    exact Nat.mul_div_mul_left _ _ (by decide)
  rw [hsymbol, ← Nat.le_div_iff_mul_le hn, ← Nat.lt_succ_iff, Nat.succ_eq_add_one,
    Nat.div_lt_iff_lt_mul hkhz]

theorem fits_iff {preamble spreadingFactor bandwidthHz : Nat} (hbandwidth : 1000 ≤ bandwidthHz) :
    Fits preamble spreadingFactor bandwidthHz ↔
      (1016 ≤ sleepUs (symbolUs spreadingFactor bandwidthHz) preamble →
        wakeUs (symbolUs spreadingFactor bandwidthHz) preamble ≤ 4294967 ∧
          sleepUs (symbolUs spreadingFactor bandwidthHz) preamble ≤ 4294967) := by
  unfold Fits
  by_cases hshort : preamble ≤ 16
  · have hzero : sleepUs (symbolUs spreadingFactor bandwidthHz) preamble = 0 := by
      unfold sleepUs
      rw [Nat.sub_eq_zero_of_le hshort, Nat.mul_zero]
    rw [hzero]
    exact iff_of_true (Or.inl hshort) (fun h => absurd h (by decide))
  · rw [← symbolUs_mul_le_iff (by omega) hbandwidth]
    generalize symbolUs spreadingFactor bandwidthHz = symbol
    have hmax : symbol * max (preamble - 16) 9 = max (sleepUs symbol preamble) (symbol * 9) :=
      Nat.mul_max_mul_left symbol _ _ |>.symm
    have hsymbol : symbol ≤ sleepUs symbol preamble := Nat.le_mul_of_pos_right _ (by omega)
    rw [hmax]
    constructor
    · rintro (h | h) hsleep
      · exact absurd h hshort
      · have hwake := wakeUs_le hsleep
        omega
    · intro h
      refine Or.inr ?_
      by_cases hsleep : 1016 ≤ sleepUs symbol preamble
      · obtain ⟨hwake, hle⟩ := h hsleep
        unfold wakeUs at hwake
        omega
      · omega

end DutyFormula

/-! ## When the timings are right -/

/-- The computation overflows nowhere, and the timings it returns are those of the formula, fit
the 24 bits of the radio and cover nine symbols up to a tick. -/
def TimingsCorrect (preamble : UInt16) (sf : UInt8) (bandwidthHz : UInt32) : Prop :=
  let symbol := DutyFormula.symbolUs sf.toNat bandwidthHz.toNat
  ∃ timings, (∀ mode, rxDutyCycleParams mode preamble sf bandwidthHz = some timings) ∧
    ∀ params, timings = some params →
      params.rxTime.toNat = DutyFormula.ticks (DutyFormula.wakeUs symbol preamble.toNat) ∧
      params.sleepTime.toNat = DutyFormula.ticks (DutyFormula.sleepUs symbol preamble.toNat) ∧
      params.rxTime.toNat < 2 ^ 24 ∧ params.sleepTime.toNat < 2 ^ 24 ∧
      9 * symbol * 1000 ≤ (params.rxTime.toNat + 1) * 15625

theorem DutyFormula.ticks_lt {us : Nat} (h : us ≤ 4294967) : ticks us < 2 ^ 24 := by
  unfold ticks
  omega

theorem DutyFormula.toNat_ticks {us : Nat} (h : us ≤ 4294967) :
    (UInt32.ofNat (ticks us)).toNat = ticks us :=
  UInt32.toNat_ofNat_of_lt' (Nat.lt_trans (ticks_lt h) (by decide))

theorem DutyRanges.rxDutyCycleParams_eq (h : DutyRanges preamble sf bandwidthHz)
    (hsleep : 1016 ≤ DutyFormula.sleepUs (DutyFormula.symbolUs sf.toNat bandwidthHz.toNat)
      preamble.toNat)
    (hwakeFits : DutyFormula.wakeUs (DutyFormula.symbolUs sf.toNat bandwidthHz.toNat)
      preamble.toNat ≤ 4294967)
    (hsleepFits : DutyFormula.sleepUs (DutyFormula.symbolUs sf.toNat bandwidthHz.toNat)
      preamble.toNat ≤ 4294967) (mode : Overflow) :
    rxDutyCycleParams mode preamble sf bandwidthHz =
      some (some
        { rxTime := UInt32.ofNat (DutyFormula.ticks (DutyFormula.wakeUs
            (DutyFormula.symbolUs sf.toNat bandwidthHz.toNat) preamble.toNat))
          sleepTime := UInt32.ofNat (DutyFormula.ticks (DutyFormula.sleepUs
            (DutyFormula.symbolUs sf.toNat bandwidthHz.toNat) preamble.toNat)) }) := by
  obtain ⟨wake, sleep, hwake, hsleepUs, hrest⟩ := rxDutyCycleParams_of_le mode h hsleep
  have hwakeTicks := computes_usToSx1262Ticks mode (by omega : wake.toNat ≤ 4294967)
  have hsleepTicks := computes_usToSx1262Ticks mode (by omega : sleep.toNat ≤ 4294967)
  rw [hrest, hwakeTicks.eq_some, hsleepTicks.eq_some, hwake, hsleepUs]
  rfl

theorem DutyRanges.fit_of_computed (h : DutyRanges preamble sf bandwidthHz)
    (hsleep : 1016 ≤ DutyFormula.sleepUs (DutyFormula.symbolUs sf.toNat bandwidthHz.toNat)
      preamble.toNat)
    {timings : Option DutyCycleParams}
    (hcomputed : rxDutyCycleParams .stops preamble sf bandwidthHz = some timings) :
    DutyFormula.wakeUs (DutyFormula.symbolUs sf.toNat bandwidthHz.toNat) preamble.toNat ≤
        4294967 ∧
      DutyFormula.sleepUs (DutyFormula.symbolUs sf.toNat bandwidthHz.toNat) preamble.toNat ≤
        4294967 := by
  obtain ⟨wake, sleep, hwake, hsleepUs, hrest⟩ := rxDutyCycleParams_of_le .stops h hsleep
  rw [hcomputed] at hrest
  constructor
  · by_contra hlong
    rw [usToSx1262Ticks_stops (by omega)] at hrest
    cases hrest
  · by_contra hlong
    have hsleepStops : usToSx1262Ticks .stops sleep = none :=
      usToSx1262Ticks_stops (by omega)
    simp only [hsleepStops, Option.bind_none, Option.bind_fun_none] at hrest
    cases hrest

theorem DutyRanges.correct_iff_fits (h : DutyRanges preamble sf bandwidthHz) :
    TimingsCorrect preamble sf bandwidthHz ↔
      DutyFormula.Fits preamble.toNat sf.toNat bandwidthHz.toNat := by
  rw [DutyFormula.fits_iff h.le_bandwidth]
  unfold TimingsCorrect
  dsimp only
  by_cases hsleep : 1016 ≤
      DutyFormula.sleepUs (DutyFormula.symbolUs sf.toNat bandwidthHz.toNat) preamble.toNat
  · constructor
    · rintro ⟨timings, hcomputed, -⟩ -
      exact h.fit_of_computed hsleep (hcomputed .stops)
    · intro hfits
      obtain ⟨hwakeFits, hsleepFits⟩ := hfits hsleep
      refine ⟨_, h.rxDutyCycleParams_eq hsleep hwakeFits hsleepFits, fun params hparams => ?_⟩
      cases hparams
      dsimp only
      rw [DutyFormula.toNat_ticks hwakeFits, DutyFormula.toNat_ticks hsleepFits]
      refine ⟨rfl, rfl, DutyFormula.ticks_lt hwakeFits, DutyFormula.ticks_lt hsleepFits, ?_⟩
      have hnine : DutyFormula.symbolUs sf.toNat bandwidthHz.toNat * 9 ≤
          DutyFormula.wakeUs (DutyFormula.symbolUs sf.toNat bandwidthHz.toNat) preamble.toNat :=
        Nat.le_max_right _ _
      unfold DutyFormula.ticks
      omega
  · refine iff_of_true ⟨none, fun mode => ?_, fun _ hnone => nomatch hnone⟩
      (fun h => absurd h hsleep)
    exact rxDutyCycleParams_of_lt h (Nat.lt_of_not_le hsleep)

/-- A bandwidth a message or a preset can set. -/
def SettableBandwidth (bandwidthHz : UInt32) : Prop :=
  (∃ code, bandwidthHz = Admin.clampCustomBwHz code) ∨
    ∃ preset : ModemPreset, bandwidthHz = preset.bandwidthHz

theorem SettableBandwidth.le (h : SettableBandwidth bandwidthHz) : 1000 ≤ bandwidthHz.toNat := by
  rcases h with ⟨code, rfl⟩ | ⟨preset, rfl⟩
  · obtain ⟨code', hcode⟩ := Admin.exists_code_clampCustomBwHz code
    have hne := Admin.clampCustomBwHz_ne_zero code
    rw [hcode] at hne ⊢
    unfold bwCodeToHz at hne ⊢
    split_ifs at hne ⊢
    any_goals decide
    rw [toNat_mul_thousand]
    have hpos : 0 < code'.toNat := by
      rcases Nat.eq_zero_or_pos code'.toNat with hzero | hpos
      · have hcodeZero : code' = 0 := UInt16.toNat_inj.mp hzero
        rw [hcodeZero] at hne
        exact absurd rfl hne
      · exact hpos
    omega
  · cases preset <;> decide

/-- For all settings and preambles up to the firmware's own, the timings are right exactly
when their microseconds fit. -/
theorem timingsCorrect_iff (hsf : 5 ≤ sf ∧ sf ≤ 12) (hbandwidth : SettableBandwidth bandwidthHz)
    (hpreamble : preamble ≤ 64) :
    TimingsCorrect preamble sf bandwidthHz ↔
      DutyFormula.Fits preamble.toNat sf.toNat bandwidthHz.toNat :=
  DutyRanges.correct_iff_fits ⟨hpreamble, hsf.2, hbandwidth.le⟩

theorem timingsCorrect_longFast : TimingsCorrect 64 11 250000 :=
  (timingsCorrect_iff (by decide) (Or.inr ⟨.longFast, rfl⟩) (by decide)).mpr
    (Or.inr (by decide))

/-- At spreading factor 12 and 31.25 kHz the sleep does not fit: the build that stops stops,
the one that wraps sleeps a third of the time meant. -/
theorem not_timingsCorrect_slow :
    Admin.clampCustomBwHz 31 = 31250 ∧ ¬ TimingsCorrect 64 12 31250 ∧
    rxDutyCycleParams .stops 64 12 31250 = none ∧
    ∃ params, rxDutyCycleParams .wraps 64 12 31250 = some (some params) ∧
      params.sleepTime.toNat ≠
        DutyFormula.ticks (DutyFormula.sleepUs (DutyFormula.symbolUs 12 31250) 64) := by
  have hstops : rxDutyCycleParams .stops 64 12 31250 = none := by decide +kernel
  refine ⟨by decide, ?_, hstops, ⟨76106, 131022⟩, by decide +kernel, by decide⟩
  rintro ⟨timings, hcomputed, -⟩
  rw [hcomputed .stops] at hstops
  cases hstops

theorem timingsCorrect_preset (preset : ModemPreset) :
    TimingsCorrect MESHTASTIC_PREAMBLE_LENGTH preset.spreadingFactor preset.bandwidthHz := by
  have hranges : DutyRanges MESHTASTIC_PREAMBLE_LENGTH preset.spreadingFactor
      preset.bandwidthHz :=
    ⟨by decide, by cases preset <;> decide, SettableBandwidth.le (Or.inr ⟨preset, rfl⟩)⟩
  refine hranges.correct_iff_fits.mpr (Or.inr ?_)
  cases preset <;> decide

end Meshtastenstein
