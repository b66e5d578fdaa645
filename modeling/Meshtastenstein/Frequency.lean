import Meshtastenstein.LoraSettings
import Meshtastenstein.Lib.Slots
/-!
# The frequency a device is on

The centre of its slot in the band of its region, for all settings that messages and restarts
lead to: when the emission stays in the band, and when the default slot is the documented one.
-/

namespace Meshtastenstein

open Lib Proto Handlers

variable {S : Type} [MeshStorage S] {env : Env} {mode : Overflow}

def DeviceState.loraParams (mode : Overflow) (env : Env) (device : DeviceState) :
    Option (ModemConfig × UInt32) := do
  let region := Region.fromProto env device.region
  let modemCfg := device.modemConfig
  let channelIdx ←
    (if device.channelNum ≠ 0 then some (device.channelNum - 1)
    else region.defaultChannelIndex mode device.modemPreset : Option UInt32)
  let freq ← region.frequencyHz mode modemCfg.bandwidthHz channelIdx
  some (modemCfg, freq)

/-! ## Bands -/

namespace Region

def band (region : Region) : Nat := region.freqEndHz.toNat - region.freqStartHz.toNat

theorem start_add_band (region : Region) :
    region.freqStartHz.toNat + region.band = region.freqEndHz.toNat := by
  cases region <;> decide

theorem band_pos (region : Region) : 0 < region.band := by cases region <;> decide

def defaultSlot (region : Region) (preset : ModemPreset) : Nat :=
  if region.band / preset.bandwidthHz.toNat = 0 then 0
  else (djb2 preset.displayName).toNat % (region.band / preset.bandwidthHz.toNat)

theorem computes_bandHz (mode : Overflow) (region : Region) :
    Overflow.Computes (region.bandHz mode) region.band := by
  have hle : region.freqStartHz ≤ region.freqEndHz := by
    have hband := region.start_add_band
    rw [UInt32.le_iff_toNat_le]
    omega
  exact Overflow.computes_sub mode hle

theorem computes_numChannels (mode : Overflow) (region : Region) (bandwidthHz : UInt32) :
    Overflow.Computes (region.numChannels mode bandwidthHz)
      (region.band / bandwidthHz.toNat) := by
  unfold numChannels
  by_cases hzero : bandwidthHz = 0
  · rw [if_pos hzero, hzero]
    exact ⟨0, rfl, (Nat.div_zero _).symm⟩
  · obtain ⟨bandHz, hband, hvalue⟩ := computes_bandHz mode region
    rw [if_neg hzero, hband, ← hvalue]
    exact Overflow.computes_div hzero

theorem computes_defaultChannelIndex (region : Region) (preset : ModemPreset) :
    Overflow.Computes (region.defaultChannelIndex mode preset) (region.defaultSlot preset) := by
  have hbandwidth : preset.config.bandwidthHz ≠ 0 := by cases preset <;> decide
  obtain ⟨bandHz, hband, hvalue⟩ := computes_bandHz mode region
  obtain ⟨numCh, hcount, hnum⟩ := Overflow.computes_div (a := bandHz) hbandwidth
  have hslot : numCh.toNat = region.band / preset.bandwidthHz.toNat := by rw [hnum, hvalue]; rfl
  unfold defaultChannelIndex defaultSlot
  dsimp only
  rw [if_neg hbandwidth, hband, ← hslot]
  simp only [Option.bind_eq_bind, Option.bind_some, hcount]
  by_cases hzero : numCh = 0
  · rw [if_pos hzero, hzero]
    exact ⟨0, rfl, rfl⟩
  · have hpos : ¬ numCh.toNat = 0 := fun h => hzero (UInt32.toNat_inj.mp h)
    rw [if_neg hzero, if_neg hpos]
    exact Overflow.computes_rem hzero

theorem computes_frequencyHz (mode : Overflow) (region : Region)
    (bandwidthHz channelIndex : UInt32) :
    Overflow.Computes (region.frequencyHz mode bandwidthHz channelIndex)
      (region.freqStartHz.toNat +
        Slots.centre region.band bandwidthHz.toNat channelIndex.toNat) := by
  have hend := region.start_add_band
  have hlimit : region.freqEndHz.toNat < UInt32.size := region.freqEndHz.toNat_lt
  obtain ⟨numCh, hnum, hcount⟩ := computes_numChannels mode region bandwidthHz
  unfold frequencyHz
  rw [hnum]
  simp only [Option.bind_eq_bind, Option.bind_some]
  by_cases hzero : numCh = 0
  · rw [if_pos hzero]
    refine ⟨region.freqStartHz, rfl, ?_⟩
    unfold Slots.centre
    rw [← hcount, hzero]
    rfl
  · rw [if_neg hzero]
    have hcount' : ¬ region.band / bandwidthHz.toNat = 0 := by
      rw [← hcount]
      exact fun h => hzero (UInt32.toNat_inj.mp h)
    have hcentre : Slots.centre region.band bandwidthHz.toNat channelIndex.toNat =
        bandwidthHz.toNat / 2 +
          channelIndex.toNat % numCh.toNat * bandwidthHz.toNat := by
      unfold Slots.centre
      rw [if_neg hcount', hcount]
    have hle := Slots.centre_le region.band bandwidthHz.toNat channelIndex.toNat
    obtain ⟨ch, hch, hchValue⟩ := Overflow.computes_rem (a := channelIndex) hzero
    obtain ⟨half, hhalf, hhalfValue⟩ :=
      Overflow.computes_div (a := bandwidthHz) (by decide : (2 : UInt32) ≠ 0)
    rw [← hchValue] at hcentre
    have htwo : (2 : UInt32).toNat = 2 := rfl
    rw [htwo] at hhalfValue
    obtain ⟨base, hbase, hbaseValue⟩ :=
      Overflow.computes_add mode (a := region.freqStartHz) (b := half) (by omega)
    obtain ⟨offset, hoffset, hoffsetValue⟩ :=
      Overflow.computes_mul mode (a := ch) (b := bandwidthHz) (by omega)
    have hsum := Overflow.computes_add mode (a := base) (b := offset) (by omega)
    simp only [hch, hhalf, hbase, hoffset, Option.bind_some]
    rw [hcentre, ← Nat.add_assoc, ← hhalfValue, ← hbaseValue, ← hoffsetValue]
    exact hsum

end Region

namespace DeviceState

def slot (env : Env) (device : DeviceState) : Nat :=
  if device.channelNum ≠ 0 then device.channelNum.toNat - 1
  else (Region.fromProto env device.region).defaultSlot device.modemPreset

theorem loraParams_eq (mode : Overflow) (env : Env) (device : DeviceState) :
    ∃ freq, device.loraParams mode env = some (device.modemConfig, freq) ∧
      freq.toNat = (Region.fromProto env device.region).freqStartHz.toNat +
        Slots.centre (Region.fromProto env device.region).band
          device.modemConfig.bandwidthHz.toNat (device.slot env) := by
  have hslot : Overflow.Computes
      (if device.channelNum ≠ 0 then some (device.channelNum - 1)
        else (Region.fromProto env device.region).defaultChannelIndex mode device.modemPreset)
      (device.slot env) := by
    unfold slot
    by_cases hset : device.channelNum ≠ 0
    · rw [if_pos hset, if_pos hset]
      refine ⟨_, rfl, UInt32.toNat_sub_of_le _ _ ?_⟩
      rw [UInt32.le_iff_toNat_le]
      exact Nat.pos_of_ne_zero fun h => hset (UInt32.toNat_inj.mp h)
    · rw [if_neg hset, if_neg hset]
      exact Region.computes_defaultChannelIndex _ _
  obtain ⟨index, hindex, hvalue⟩ := hslot
  obtain ⟨freq, hfreq, hcentre⟩ := Region.computes_frequencyHz mode
    (Region.fromProto env device.region) device.modemConfig.bandwidthHz index
  refine ⟨freq, ?_, ?_⟩
  · unfold loraParams
    dsimp only
    rw [hindex]
    simp only [Option.bind_eq_bind, Option.bind_some, hfreq]
  · rw [hcentre, hvalue]

theorem bandwidth_pos {device : DeviceState} (h : device.LoraRanges) :
    0 < device.modemConfig.bandwidthHz.toNat := by
  unfold modemConfig
  split
  · cases device.modemPreset <;> decide
  · exact Nat.pos_of_ne_zero fun hzero => h.customBwHz (UInt32.toNat_inj.mp hzero)

end DeviceState

/-! ## In band -/

/-- An emission of a width around a frequency lies in a band, halves rounded down. -/
def InBand (region : Region) (freq bandwidthHz : UInt32) : Prop :=
  region.freqStartHz.toNat + bandwidthHz.toNat / 2 ≤ freq.toNat ∧
    freq.toNat + bandwidthHz.toNat / 2 ≤ region.freqEndHz.toNat

/-- An emission of a width around a frequency lies in a band, to the half hertz. -/
def InBandExactly (region : Region) (freq bandwidthHz : UInt32) : Prop :=
  (region.freqStartHz.toNat : ℚ) ≤ freq.toNat - (bandwidthHz.toNat : ℚ) / 2 ∧
    (freq.toNat : ℚ) + (bandwidthHz.toNat : ℚ) / 2 ≤ region.freqEndHz.toNat

namespace SettingsEvent

/-- Every build computes a frequency for every reachable device, and the emission around it
stays in the band exactly when the bandwidth is not wider than the band; to the half hertz,
also when an odd bandwidth is in the first slot. -/
theorem inBand_iff (mode : Overflow) (env : Env) (ctx : MeshCtx S) (mac : Bytes)
    (events : List SettingsEvent) :
    let device := (Transition.run (step env) (fresh ctx mac) events).device
    let region := Region.fromProto env device.region
    let bandwidthHz := device.modemConfig.bandwidthHz
    ∃ freq, device.loraParams mode env = some (device.modemConfig, freq) ∧
      (InBand region freq bandwidthHz ↔ bandwidthHz.toNat ≤ region.band) ∧
      (InBandExactly region freq bandwidthHz ↔ bandwidthHz.toNat ≤ region.band ∧
        (2 ∣ bandwidthHz.toNat ∨
          device.slot env % (region.band / bandwidthHz.toNat) ≠ 0)) := by
  intro device region bandwidthHz
  have hwidth : 0 < bandwidthHz.toNat :=
    DeviceState.bandwidth_pos (loraRanges_run env ctx mac events)
  have hend := region.start_add_band
  obtain ⟨freq, hparams, hfreq⟩ := device.loraParams_eq mode env
  change freq.toNat = region.freqStartHz.toNat +
    Slots.centre region.band bandwidthHz.toNat (device.slot env) at hfreq
  refine ⟨freq, hparams, ?_, ?_⟩
  · rw [← Slots.within_iff (device.slot env) region.band_pos hwidth]
    unfold InBand
    omega
  · rw [← Slots.within_exact_iff (device.slot env) hwidth]
    unfold InBandExactly
    rw [hfreq, ← hend]
    push_cast
    constructor
    · rintro ⟨hlow, hhigh⟩
      exact ⟨by linarith, by linarith⟩
    · rintro ⟨hlow, hhigh⟩
      exact ⟨by linarith, by linarith⟩

/-- A preset of 500 kHz in a band of 250 kHz. -/
def wideRun : List SettingsEvent :=
  [.setConfig { payloadVariant := some (.lora
    { usePreset := true, modemPreset := 8, region := 3, hopLimit := 3 }) }]

def wideDevice : DeviceState :=
  (Transition.run (step KnownAnswers.defaultKey.env) (fresh bootedCtx KnownAnswers.mac)
    wideRun).device

theorem wideDevice_not_inBand :
    Region.fromProto KnownAnswers.defaultKey.env wideDevice.region = .eu868 ∧
    ¬ ∃ cfg freq,
      wideDevice.loraParams .stops KnownAnswers.defaultKey.env = some (cfg, freq) ∧
        InBand .eu868 freq cfg.bandwidthHz := by
  have hparams : wideDevice.loraParams .stops KnownAnswers.defaultKey.env =
      some (ModemPreset.shortTurbo.config, 869400000) := by decide +kernel
  refine ⟨by decide +kernel, ?_⟩
  rintro ⟨cfg, freq, hsome, hlow, -⟩
  rw [hparams] at hsome
  cases hsome
  exact absurd hlow (by decide)

/-! ## The default slot -/

/-- The documented frequency of a device without a slot of its own: the hash of the preset's
display name picks one of the slots of the bandwidth in use. -/
def defaultFrequency (region : Region) (preset : ModemPreset) (bandwidthHz : UInt32) : Nat :=
  region.freqStartHz.toNat + bandwidthHz.toNat / 2 +
    (djb2 preset.displayName).toNat % (region.band / bandwidthHz.toNat) * bandwidthHz.toNat

/-- What the first reduction takes off the hash, by the number of slots of the preset's own
bandwidth: all of it when there are none. -/
def reducedAway (region : Region) (preset : ModemPreset) : Nat :=
  let count := region.band / preset.bandwidthHz.toNat
  let hash := (djb2 preset.displayName).toNat
  if count = 0 then hash else count * (hash / count)

theorem defaultSlot_mod_eq_iff (region : Region) (preset : ModemPreset) (count : Nat) :
    region.defaultSlot preset % count = (djb2 preset.displayName).toNat % count ↔
      count ∣ reducedAway region preset := by
  unfold Region.defaultSlot reducedAway
  dsimp only
  split
  · rw [Nat.zero_mod, Nat.dvd_iff_mod_eq_zero]
    exact eq_comm
  · exact Slots.mod_mod_eq_iff _ _ _

/-- The default slot is on the documented frequency exactly when the number of slots in use
divides what the first reduction took off. -/
theorem centre_defaultSlot_iff (region : Region) (preset : ModemPreset) {bandwidthHz : UInt32}
    (hwidth : 0 < bandwidthHz.toNat) (hfits : bandwidthHz.toNat ≤ region.band) :
    region.freqStartHz.toNat +
        Slots.centre region.band bandwidthHz.toNat (region.defaultSlot preset) =
      defaultFrequency region preset bandwidthHz ↔
    region.band / bandwidthHz.toNat ∣ reducedAway region preset := by
  unfold defaultFrequency
  rw [Slots.centre_of_le hwidth hfits, ← Nat.add_assoc, Nat.add_left_cancel_iff,
    Nat.mul_left_inj hwidth.ne']
  exact defaultSlot_mod_eq_iff _ _ _

theorem dvd_reducedAway {region : Region} {device : DeviceState}
    (huse : device.usePreset = true)
    (hfits : device.modemConfig.bandwidthHz.toNat ≤ region.band) :
    region.band / device.modemConfig.bandwidthHz.toNat ∣
      reducedAway region device.modemPreset := by
  have hbandwidth : device.modemConfig.bandwidthHz = device.modemPreset.bandwidthHz := by
    unfold DeviceState.modemConfig
    rw [if_pos huse]
    rfl
  have hpos : 0 < device.modemPreset.bandwidthHz.toNat := by
    cases device.modemPreset <;> decide
  rw [hbandwidth] at hfits ⊢
  unfold reducedAway
  dsimp only
  rw [if_neg fun hzero => (Slots.count_eq_zero_iff hpos).mp hzero hfits]
  exact Nat.dvd_mul_right _ _

/-- Without a slot of its own a reachable device is on the documented frequency exactly when
it uses its preset, or the number of slots of its bandwidth divides what the preset's own
number of slots takes off the hash. -/
theorem defaultFrequency_iff (mode : Overflow) (env : Env) (ctx : MeshCtx S) (mac : Bytes)
    (events : List SettingsEvent)
    (hchannel : (Transition.run (step env) (fresh ctx mac) events).device.channelNum = 0)
    (hfits :
      (Transition.run (step env) (fresh ctx mac) events).device.modemConfig.bandwidthHz.toNat ≤
      (Region.fromProto env
        (Transition.run (step env) (fresh ctx mac) events).device.region).band) :
    let device := (Transition.run (step env) (fresh ctx mac) events).device
    let region := Region.fromProto env device.region
    let bandwidthHz := device.modemConfig.bandwidthHz
    (∃ freq, device.loraParams mode env = some (device.modemConfig, freq) ∧
        freq.toNat = defaultFrequency region device.modemPreset bandwidthHz) ↔
      device.usePreset = true ∨
        region.band / bandwidthHz.toNat ∣ reducedAway region device.modemPreset := by
  intro device region bandwidthHz
  have hwidth : 0 < bandwidthHz.toNat :=
    DeviceState.bandwidth_pos (loraRanges_run env ctx mac events)
  have hslot : device.slot env = region.defaultSlot device.modemPreset :=
    if_neg fun hset => hset hchannel
  obtain ⟨freq, hparams, hfreq⟩ := device.loraParams_eq mode env
  change freq.toNat = region.freqStartHz.toNat +
    Slots.centre region.band bandwidthHz.toNat (device.slot env) at hfreq
  rw [hslot] at hfreq
  have hdvd := centre_defaultSlot_iff region device.modemPreset hwidth hfits
  rw [← hfreq] at hdvd
  constructor
  · rintro ⟨other, hother, hdocumented⟩
    rw [hparams] at hother
    cases hother
    exact Or.inr (hdvd.mp hdocumented)
  · intro hcond
    refine ⟨freq, hparams, hdvd.mpr ?_⟩
    rcases hcond with huse | hdvd'
    · exact dvd_reducedAway huse hfits
    · exact hdvd'

/-- LongFast in the United States: the preset's own slot. -/
def presetRun : List SettingsEvent :=
  [.setConfig { payloadVariant := some (.lora { usePreset := true, region := 1 }) }]

def presetDevice : DeviceState :=
  (Transition.run (step KnownAnswers.defaultKey.env) (fresh bootedCtx KnownAnswers.mac)
    presetRun).device

/-- A custom bandwidth of 500 kHz, which halves the number of slots. -/
def halfSlotsRun : List SettingsEvent :=
  [.setConfig { payloadVariant := some (.lora
    { usePreset := false, region := 1, bandwidth := 500, spreadFactor := 11, codingRate := 5 }) }]

def halfSlotsDevice : DeviceState :=
  (Transition.run (step KnownAnswers.defaultKey.env) (fresh bootedCtx KnownAnswers.mac)
    halfSlotsRun).device

theorem presetDevice_on_defaultFrequency :
    (∃ freq, presetDevice.loraParams .stops KnownAnswers.defaultKey.env =
        some (presetDevice.modemConfig, freq) ∧
      freq.toNat = defaultFrequency .us .longFast 250000) ∧
    ∃ freq, halfSlotsDevice.loraParams .stops KnownAnswers.defaultKey.env =
        some (halfSlotsDevice.modemConfig, freq) ∧
      freq.toNat = defaultFrequency .us .longFast 500000 := by
  constructor
  · exact (defaultFrequency_iff .stops KnownAnswers.defaultKey.env bootedCtx KnownAnswers.mac
      presetRun (by decide +kernel) (by decide +kernel)).mpr (Or.inl (by decide +kernel))
  · exact (defaultFrequency_iff .stops KnownAnswers.defaultKey.env bootedCtx KnownAnswers.mac
      halfSlotsRun (by decide +kernel) (by decide +kernel)).mpr (Or.inr (by decide +kernel))

/-- One of 62.5 kHz. -/
def narrowRun : List SettingsEvent :=
  [.setConfig { payloadVariant := some (.lora
    { usePreset := false, region := 1, bandwidth := 62, spreadFactor := 11, codingRate := 5 }) }]

def narrowDevice : DeviceState :=
  (Transition.run (step KnownAnswers.defaultKey.env) (fresh bootedCtx KnownAnswers.mac)
    narrowRun).device

/-- It is on slot 19, as if the slots were still those of 250 kHz. -/
theorem narrowDevice_not_on_defaultFrequency :
    narrowDevice.channelNum = 0 ∧ narrowDevice.modemPreset = .longFast ∧
    Region.fromProto KnownAnswers.defaultKey.env narrowDevice.region = .us ∧
    narrowDevice.modemConfig.bandwidthHz = 62500 ∧ 62500 ≤ Region.us.band ∧
    narrowDevice.loraParams .stops KnownAnswers.defaultKey.env =
      some (narrowDevice.modemConfig, 903218750) ∧
    defaultFrequency .us .longFast 62500 = 916218750 := by
  decide +kernel

end SettingsEvent

end Meshtastenstein
