import Meshtastenstein.DutyTimings
import Meshtastenstein.Frequency
/-!
# What the radio is set to

The spreading factor, bandwidth and coding rate the radio task programs, beside those of the
device: frequency, timings and delays are computed from the latter.
-/

namespace Meshtastenstein

open Lib Proto Handlers

variable {S : Type} [MeshStorage S] {env : Env}

/-! ## The radio's own values -/

inductive Bandwidth
  | khz7
  | khz10
  | khz15
  | khz20
  | khz31
  | khz41
  | khz62
  | khz125
  | khz250
  | khz500
deriving DecidableEq

inductive SpreadingFactor
  | sf5
  | sf6
  | sf7
  | sf8
  | sf9
  | sf10
  | sf11
  | sf12
deriving DecidableEq

inductive CodingRate
  | cr45
  | cr46
  | cr47
  | cr48
deriving DecidableEq

/-- `ModulationParams`: what the radio is programmed with. -/
structure ModulationParams where
  spreadingFactor : SpreadingFactor
  bandwidth : Bandwidth
  codingRate : CodingRate
deriving DecidableEq

def mapBandwidth (bandwidthHz : UInt32) : Bandwidth :=
  if bandwidthHz = 7800 then .khz7
  else if bandwidthHz = 10400 then .khz10
  else if bandwidthHz = 15600 then .khz15
  else if bandwidthHz = 20800 then .khz20
  else if bandwidthHz = 31250 then .khz31
  else if bandwidthHz = 41700 then .khz41
  else if bandwidthHz = 62500 then .khz62
  else if bandwidthHz = 125000 then .khz125
  else if bandwidthHz = 250000 then .khz250
  else if bandwidthHz = 500000 then .khz500
  else .khz250

def mapSpreadingFactor (spreadingFactor : UInt8) : SpreadingFactor :=
  if spreadingFactor = 5 then .sf5
  else if spreadingFactor = 6 then .sf6
  else if spreadingFactor = 7 then .sf7
  else if spreadingFactor = 8 then .sf8
  else if spreadingFactor = 9 then .sf9
  else if spreadingFactor = 10 then .sf10
  else if spreadingFactor = 11 then .sf11
  else if spreadingFactor = 12 then .sf12
  else .sf11

def mapCodingRate (codingRate : UInt8) : CodingRate :=
  if codingRate = 5 then .cr45
  else if codingRate = 6 then .cr46
  else if codingRate = 7 then .cr47
  else if codingRate = 8 then .cr48
  else .cr45

def mapModemConfig (modemCfg : ModemConfig) : ModulationParams where
  spreadingFactor := mapSpreadingFactor modemCfg.spreadingFactor
  bandwidth := mapBandwidth modemCfg.bandwidthHz
  codingRate := mapCodingRate modemCfg.codingRate

def longFastParams : ModulationParams := ⟨.sf11, .khz250, .cr45⟩

/-- The parameters programmed, those of LongFast when the driver does not accept others, where
`accepts` says what it does. -/
def modulationParamsWithFallback (accepts : ModulationParams → UInt32 → Bool)
    (modemCfg : ModemConfig) (frequencyHz : UInt32) : Option ModulationParams :=
  if accepts (mapModemConfig modemCfg) frequencyHz then some (mapModemConfig modemCfg)
  else if accepts longFastParams frequencyHz then some longFastParams
  else none

/-- How a device's radio is set up, unless the task stops. -/
structure RadioSetup where
  modulation : ModulationParams
  frequencyHz : UInt32
  /-- Listening all the time when there is none. -/
  dutyCycle : Option DutyCycleParams
deriving DecidableEq

def radioSetup (accepts : ModulationParams → UInt32 → Bool) (mode : Overflow) (env : Env)
    (device : DeviceState) : Option RadioSetup := do
  let (modemCfg, frequencyHz) ← device.loraParams mode env
  let modulation ← modulationParamsWithFallback accepts modemCfg frequencyHz
  let dutyCycle ← rxDutyCycleParams mode MESHTASTIC_PREAMBLE_LENGTH modemCfg.spreadingFactor
    modemCfg.bandwidthHz
  some { modulation := modulation, frequencyHz := frequencyHz, dutyCycle := dutyCycle }

/-! ## The values a device names them by -/

def Bandwidth.hz : Bandwidth → UInt32
  | khz7 => 7800
  | khz10 => 10400
  | khz15 => 15600
  | khz20 => 20800
  | khz31 => 31250
  | khz41 => 41700
  | khz62 => 62500
  | khz125 => 125000
  | khz250 => 250000
  | khz500 => 500000

def SpreadingFactor.factor : SpreadingFactor → UInt8
  | sf5 => 5
  | sf6 => 6
  | sf7 => 7
  | sf8 => 8
  | sf9 => 9
  | sf10 => 10
  | sf11 => 11
  | sf12 => 12

def CodingRate.denominator : CodingRate → UInt8
  | cr45 => 5
  | cr46 => 6
  | cr47 => 7
  | cr48 => 8

/-- The configuration a radio's parameters are those of. -/
def ModulationParams.config (params : ModulationParams) : ModemConfig where
  spreadingFactor := params.spreadingFactor.factor
  bandwidthHz := params.bandwidth.hz
  codingRate := params.codingRate.denominator

def hardwareBandwidths : List UInt32 :=
  [7800, 10400, 15600, 20800, 31250, 41700, 62500, 125000, 250000, 500000]

theorem hz_mem (bandwidth : Bandwidth) : bandwidth.hz ∈ hardwareBandwidths := by
  cases bandwidth <;> decide

theorem hz_mapBandwidth_iff (bandwidthHz : UInt32) :
    (mapBandwidth bandwidthHz).hz = bandwidthHz ↔ bandwidthHz ∈ hardwareBandwidths := by
  constructor
  · intro h
    rw [← h]
    exact hz_mem _
  · intro h
    simp only [hardwareBandwidths, List.mem_cons, List.not_mem_nil, or_false] at h
    rcases h with rfl | rfl | rfl | rfl | rfl | rfl | rfl | rfl | rfl | rfl <;> rfl

theorem factor_mapSpreadingFactor {sf : UInt8} (h : 5 ≤ sf ∧ sf ≤ 12) :
    (mapSpreadingFactor sf).factor = sf := by
  obtain ⟨hlow, hhigh⟩ := h
  have hcases : sf = 5 ∨ sf = 6 ∨ sf = 7 ∨ sf = 8 ∨ sf = 9 ∨ sf = 10 ∨ sf = 11 ∨ sf = 12 := by
    simp only [← UInt8.toNat_inj]
    have hlow' : 5 ≤ sf.toNat := hlow
    have hhigh' : sf.toNat ≤ 12 := hhigh
    change sf.toNat = 5 ∨ sf.toNat = 6 ∨ sf.toNat = 7 ∨ sf.toNat = 8 ∨ sf.toNat = 9 ∨
      sf.toNat = 10 ∨ sf.toNat = 11 ∨ sf.toNat = 12
    omega
  rcases hcases with rfl | rfl | rfl | rfl | rfl | rfl | rfl | rfl <;> rfl

theorem denominator_mapCodingRate_iff {cr : UInt8} (h : 4 ≤ cr ∧ cr ≤ 8) :
    (mapCodingRate cr).denominator = cr ↔ cr ≠ 4 := by
  obtain ⟨hlow, hhigh⟩ := h
  have hcases : cr = 4 ∨ cr = 5 ∨ cr = 6 ∨ cr = 7 ∨ cr = 8 := by
    simp only [← UInt8.toNat_inj]
    have hlow' : 4 ≤ cr.toNat := hlow
    have hhigh' : cr.toNat ≤ 8 := hhigh
    change cr.toNat = 4 ∨ cr.toNat = 5 ∨ cr.toNat = 6 ∨ cr.toNat = 7 ∨ cr.toNat = 8
    omega
  rcases hcases with rfl | rfl | rfl | rfl | rfl <;> decide

/-! ## Agreement -/

theorem config_mapModemConfig_preset (preset : ModemPreset) :
    (mapModemConfig preset.config).config = preset.config := by
  cases preset <;> decide

/-- The radio has the parameters of a device exactly when it has the bandwidth and the coding
rate is not 4, or a preset is in use. -/
theorem config_mapModemConfig_iff {device : DeviceState} (h : device.LoraRanges) :
    (mapModemConfig device.modemConfig).config = device.modemConfig ↔
      device.usePreset = true ∨
        device.customBwHz ∈ hardwareBandwidths ∧ device.customCr ≠ 4 := by
  unfold DeviceState.modemConfig
  split
  · rename_i huse
    exact iff_of_true (config_mapModemConfig_preset _) (Or.inl huse)
  · rename_i huse
    rw [← hz_mapBandwidth_iff, ← denominator_mapCodingRate_iff h.customCr]
    unfold mapModemConfig ModulationParams.config
    simp only [ModemConfig.mk.injEq, factor_mapSpreadingFactor h.customSf, true_and, huse,
      Bool.false_eq_true, false_or]

/-- The fallback never stands for a configuration that the driver rejected. -/
theorem modulationParams_config_iff (accepts : ModulationParams → UInt32 → Bool)
    (modemCfg : ModemConfig) (frequencyHz : UInt32) :
    (modulationParamsWithFallback accepts modemCfg frequencyHz).map ModulationParams.config =
        some modemCfg ↔
      (mapModemConfig modemCfg).config = modemCfg ∧
        accepts (mapModemConfig modemCfg) frequencyHz = true := by
  unfold modulationParamsWithFallback
  by_cases haccepts : accepts (mapModemConfig modemCfg) frequencyHz = true
  · rw [if_pos haccepts, Option.map_some, Option.some_inj]
    exact (and_iff_left haccepts).symm
  · rw [if_neg haccepts]
    refine iff_of_false ?_ fun h => haccepts h.2
    split
    · rename_i hfallback
      intro hsame
      rw [Option.map_some, Option.some_inj] at hsame
      rw [← hsame] at haccepts
      exact haccepts hfallback
    · nofun

theorem DeviceState.settableBandwidth {device : DeviceState} (h : device.LoraRanges) :
    SettableBandwidth device.modemConfig.bandwidthHz := by
  obtain ⟨code, hcode⟩ := h.bandwidthCode
  have hne := h.customBwHz
  unfold modemConfig
  split
  · exact Or.inr ⟨device.modemPreset, rfl⟩
  · refine Or.inl ⟨code.toUInt32, ?_⟩
    rw [hcode] at hne ⊢
    unfold Admin.clampCustomBwHz
    dsimp only
    rw [UInt16.toUInt16_toUInt32, if_neg hne]

theorem DeviceState.dutyRanges {device : DeviceState} (h : device.LoraRanges) :
    DutyRanges MESHTASTIC_PREAMBLE_LENGTH device.modemConfig.spreadingFactor
      device.modemConfig.bandwidthHz := by
  refine ⟨by decide, ?_, (settableBandwidth h).le⟩
  unfold modemConfig
  split
  · cases device.modemPreset <;> decide
  · exact h.customSf.2

namespace SettingsEvent

/-- The radio of a reachable device is programmed with the parameters that its frequency, its
timings and its delays are computed from exactly when a preset is in use, or a custom bandwidth
that the radio has and a coding rate other than 4, and the driver accepts them. -/
theorem radioSetup_config_iff (accepts : ModulationParams → UInt32 → Bool) (env : Env)
    (ctx : MeshCtx S) (mac : Bytes) (events : List SettingsEvent) :
    let device := (Transition.run (step env) (fresh ctx mac) events).device
    ∃ freq, device.loraParams .wraps env = some (device.modemConfig, freq) ∧
      ((∃ setup, radioSetup accepts .wraps env device = some setup ∧
          setup.modulation.config = device.modemConfig) ↔
        (device.usePreset = true ∨
            device.customBwHz ∈ hardwareBandwidths ∧ device.customCr ≠ 4) ∧
          accepts (mapModemConfig device.modemConfig) freq = true) := by
  intro device
  have hranges : device.LoraRanges := loraRanges_run env ctx mac events
  obtain ⟨freq, hparams, -⟩ := device.loraParams_eq .wraps env
  refine ⟨freq, hparams, ?_⟩
  obtain ⟨timings, htimings⟩ := (DeviceState.dutyRanges hranges).wraps_isSome
  rw [← config_mapModemConfig_iff hranges, ← modulationParams_config_iff]
  unfold radioSetup
  rw [hparams]
  simp only [Option.bind_eq_bind, Option.bind_some, htimings]
  cases modulationParamsWithFallback accepts device.modemConfig freq with
  | none => exact iff_of_false (by rintro ⟨_, hnone, -⟩; cases hnone) nofun
  | some modulation =>
      rw [Option.map_some, Option.some_inj]
      constructor
      · rintro ⟨setup, hsetup, hconfig⟩
        cases hsetup
        exact hconfig
      · exact fun hconfig => ⟨_, rfl, hconfig⟩

/-- LongFast in the United States, as every build sets it up. -/
theorem presetDevice_radio :
    ∃ setup, radioSetup (fun _ _ => true) .wraps KnownAnswers.defaultKey.env presetDevice =
        some setup ∧
      setup.modulation.config = presetDevice.modemConfig := by
  obtain ⟨freq, -, hiff⟩ := radioSetup_config_iff (fun _ _ => true) KnownAnswers.defaultKey.env
    bootedCtx KnownAnswers.mac presetRun
  exact hiff.mpr ⟨Or.inl (by decide +kernel), rfl⟩

/-- A custom modem of 812.5 kHz with coding rate 4. -/
def broadRun : List SettingsEvent :=
  [.setConfig { payloadVariant := some (.lora
    { usePreset := false, region := 1, bandwidth := 800, spreadFactor := 9, codingRate := 4 }) }]

def broadDevice : DeviceState :=
  (Transition.run (step KnownAnswers.defaultKey.env) (fresh bootedCtx KnownAnswers.mac)
    broadRun).device

/-- Its slots are of 812.5 kHz, its radio listens on 250 kHz and sends at 4/5. -/
theorem broadDevice_radio :
    broadDevice.modemConfig = ⟨9, 812500, 4⟩ ∧
    ∃ setup, radioSetup (fun _ _ => true) .wraps KnownAnswers.defaultKey.env broadDevice =
        some setup ∧
      setup.modulation = ⟨.sf9, .khz250, .cr45⟩ ∧
      setup.modulation.config ≠ broadDevice.modemConfig := by
  refine ⟨by decide +kernel,
    ⟨⟨.sf9, .khz250, .cr45⟩, 917843750, some ⟨374, 1935⟩⟩, by decide +kernel, rfl, ?_⟩
  decide +kernel

end SettingsEvent

end Meshtastenstein
