import Meshtastenstein.SavedScalars
/-!
# The LoRa settings that messages and restarts lead to

Every value is one its field allows, and a phone that writes back the settings it read
changes nothing.
-/

namespace Meshtastenstein

open Lib Proto Handlers

variable {S : Type} [MeshStorage S] {env : Env}

/-! ## Ranges -/

namespace Handlers.Admin

theorem clampCustomSf_mem (spreadFactor : UInt32) :
    5 ≤ clampCustomSf spreadFactor ∧ clampCustomSf spreadFactor ≤ 12 := by
  unfold clampCustomSf
  split
  · rename_i h
    simp only [UInt32.le_iff_toNat_le, UInt8.le_iff_toNat_le, UInt32.toNat_toUInt8] at h ⊢
    have hlow : (5 : UInt32).toNat = 5 := rfl
    have hhigh : (12 : UInt32).toNat = 12 := rfl
    have hlow' : (5 : UInt8).toNat = 5 := rfl
    have hhigh' : (12 : UInt8).toNat = 12 := rfl
    omega
  · decide

theorem clampCustomCr_mem (codingRate : UInt32) :
    4 ≤ clampCustomCr codingRate ∧ clampCustomCr codingRate ≤ 8 := by
  unfold clampCustomCr
  split
  · rename_i h
    simp only [UInt32.le_iff_toNat_le, UInt8.le_iff_toNat_le, UInt32.toNat_toUInt8] at h ⊢
    have hlow : (4 : UInt32).toNat = 4 := rfl
    have hhigh : (8 : UInt32).toNat = 8 := rfl
    have hlow' : (4 : UInt8).toNat = 4 := rfl
    have hhigh' : (8 : UInt8).toNat = 8 := rfl
    omega
  · decide

theorem clampCustomBwHz_ne_zero (bandwidthCode : UInt32) : clampCustomBwHz bandwidthCode ≠ 0 := by
  unfold clampCustomBwHz
  dsimp only
  split
  · decide
  · assumption

theorem exists_code_clampCustomBwHz (bandwidthCode : UInt32) :
    ∃ code, clampCustomBwHz bandwidthCode = bwCodeToHz code := by
  unfold clampCustomBwHz
  dsimp only
  split
  · exact ⟨250, rfl⟩
  · exact ⟨_, rfl⟩

theorem min_maxHopLimit_le (hopLimit : UInt8) : min hopLimit MAX_HOP_LIMIT ≤ MAX_HOP_LIMIT := by
  unfold min instMinUInt8 minOfLe
  dsimp only
  split
  · assumption
  · exact UInt8.le_refl _

end Handlers.Admin

namespace DeviceState

/-- The modem settings are ones that a message can set. -/
structure LoraRanges (device : DeviceState) : Prop where
  customSf : 5 ≤ device.customSf ∧ device.customSf ≤ 12
  customCr : 4 ≤ device.customCr ∧ device.customCr ≤ 8
  customBwHz : device.customBwHz ≠ 0
  bandwidthCode : ∃ code, device.customBwHz = bwCodeToHz code
  hopLimit : device.hopLimit ≤ MAX_HOP_LIMIT

theorem loraRanges_new (mac : Bytes) : (new mac).LoraRanges where
  customSf := (by decide : (5 : UInt8) ≤ 11 ∧ (11 : UInt8) ≤ 12)
  customCr := (by decide : (4 : UInt8) ≤ 5 ∧ (5 : UInt8) ≤ 8)
  customBwHz := (by decide : (250000 : UInt32) ≠ 0)
  bandwidthCode := ⟨250, rfl⟩
  hopLimit := (by decide : DEFAULT_HOP_LIMIT ≤ MAX_HOP_LIMIT)

theorem loraRanges_setLoraConfig (device : DeviceState) (lora : Config.LoRaConfig) :
    (Admin.setLoraConfig env device lora).LoraRanges where
  customSf := Admin.clampCustomSf_mem _
  customCr := Admin.clampCustomCr_mem _
  customBwHz := Admin.clampCustomBwHz_ne_zero _
  bandwidthCode := Admin.exists_code_clampCustomBwHz _
  hopLimit := Admin.min_maxHopLimit_le _

/-- A restart keeps the ranges: the bandwidth comes back from its code. -/
theorem LoraRanges.reload {device : DeviceState} (h : device.LoraRanges) (env : Env) :
    (device.reload env).LoraRanges := by
  obtain ⟨code, hcode⟩ := h.bandwidthCode
  have hbandwidth : (device.reload env).customBwHz = device.customBwHz := by
    rw [reload_eq]
    calc
      bwCodeToHz (bwHzToCode device.customBwHz) = bwCodeToHz code := by
        rw [hcode, bwCodeToHz_bwHzToCode]
      _ = device.customBwHz := hcode.symm
  refine ⟨?_, ?_, ?_, ?_, ?_⟩
  · rw [reload_eq]
    exact h.customSf
  · rw [reload_eq]
    exact h.customCr
  · rw [hbandwidth]
    exact h.customBwHz
  · rw [hbandwidth]
    exact h.bandwidthCode
  · rw [reload_eq]
    change (if device.hopLimit = 0xff then DEFAULT_HOP_LIMIT else device.hopLimit) ≤ MAX_HOP_LIMIT
    split
    · decide
    · exact h.hopLimit

/-! ## Codes -/

def HasRegion (env : Env) (device : DeviceState) : Prop :=
  ∃ region, env.prost.region.tryFrom device.region.toUInt32.toInt32 = some region

end DeviceState

/-- The codes of the regions, where 2 is the region a device starts with. -/
structure Region.Coded (env : Env) : Prop where
  lawful : env.prost.region.Lawful .unset
  tryFrom_two : env.prost.region.tryFrom 2 = some .eu433

theorem byte_ofInt32 (v : UInt8) : v.toUInt32.toInt32.toUInt32.toUInt8 = v := by simp

theorem Region.tryFrom_stored (hregions : Region.Coded env) (v : UInt8) :
    env.prost.region.tryFrom
        (env.prost.region.toI32 (Region.fromProto env v)).toUInt32.toUInt8.toUInt32.toInt32 =
      some (Region.fromProto env v) := by
  unfold Region.fromProto
  cases hfound : env.prost.region.tryFrom v.toUInt32.toInt32 with
  | some region =>
      dsimp only [Option.getD_some]
      rw [hregions.lawful.toI32_of_tryFrom hfound, byte_ofInt32]
      exact hfound
  | none =>
      dsimp only [Option.getD_none]
      rw [hregions.lawful.toI32_of_tryFrom hregions.tryFrom_two]
      exact hregions.tryFrom_two

theorem Region.stored_fromProto (hregions : Region.Coded env) {v : UInt8} {region : Region}
    (h : env.prost.region.tryFrom v.toUInt32.toInt32 = some region) :
    (env.prost.region.toI32 (Region.fromProto env v)).toUInt32.toUInt8 = v := by
  unfold Region.fromProto
  rw [h, Option.getD_some, hregions.lawful.toI32_of_tryFrom h, byte_ofInt32]

theorem ModemPreset.fromProto_reported (hcodes : env.prost.modemPreset.Lawful .longFast)
    {preset : ModemPreset} (h : preset.HasCode env) :
    fromProto env (env.prost.modemPreset.toI32 preset).toUInt32.toUInt8 = preset := by
  obtain ⟨v, hv⟩ := h
  unfold fromProto
  rw [hcodes.toI32_of_tryFrom hv, byte_ofInt32, hv]
  rfl

/-! ## Writing back -/

namespace Handlers.Admin

theorem clampCustomSf_of_mem {sf : UInt8} (h : 5 ≤ sf ∧ sf ≤ 12) :
    clampCustomSf sf.toUInt32 = sf := by
  unfold clampCustomSf
  rw [if_pos]
  · exact UInt8.toUInt8_toUInt32 sf
  · simpa [UInt32.le_iff_toNat_le, UInt8.le_iff_toNat_le] using h

theorem clampCustomCr_of_mem {cr : UInt8} (h : 4 ≤ cr ∧ cr ≤ 8) :
    clampCustomCr cr.toUInt32 = cr := by
  unfold clampCustomCr
  rw [if_pos]
  · exact UInt8.toUInt8_toUInt32 cr
  · simpa [UInt32.le_iff_toNat_le, UInt8.le_iff_toNat_le] using h

theorem clampCustomBwHz_reported {code : UInt16} (h : bwCodeToHz code ≠ 0) :
    clampCustomBwHz (bwHzToCode (bwCodeToHz code)).toUInt32 = bwCodeToHz code := by
  unfold clampCustomBwHz
  dsimp only
  rw [UInt16.toUInt16_toUInt32, bwCodeToHz_bwHzToCode, if_neg h]

/-- Writing back the settings that were read changes nothing. -/
theorem setLoraConfig_buildLoraConfig (hcodes : env.prost.modemPreset.Lawful .longFast)
    (hregions : Region.Coded env) {device : DeviceState} (h : device.LoraRanges)
    (hpreset : device.modemPreset.HasCode env) (hregion : device.HasRegion env) :
    setLoraConfig env device (buildLoraConfig env device) = device := by
  obtain ⟨region, hregion⟩ := hregion
  obtain ⟨code, hcode⟩ := h.bandwidthCode
  have hbandwidth : clampCustomBwHz (bwHzToCode device.customBwHz).toUInt32 =
      device.customBwHz := by
    have hne := h.customBwHz
    rw [hcode] at hne ⊢
    exact clampCustomBwHz_reported hne
  have hhops : min device.hopLimit.toUInt32.toUInt8 MAX_HOP_LIMIT = device.hopLimit := by
    rw [UInt8.toUInt8_toUInt32]
    exact if_pos h.hopLimit
  unfold setLoraConfig buildLoraConfig
  dsimp only
  rw [byte_ofInt32, Region.stored_fromProto hregions hregion,
    ModemPreset.fromProto_reported hcodes hpreset, clampCustomSf_of_mem h.customSf, hbandwidth,
    clampCustomCr_of_mem h.customCr, hhops]

end Handlers.Admin

/-! ## Runs -/

namespace SettingsEvent

/-- What an event does to the LoRa settings: nothing, what one message says, or a restart. -/
theorem device_step_cases (env : Env) (ctx : MeshCtx S) (event : SettingsEvent) :
    (∃ longName shortName hwModel role channels, (step env ctx event).device =
      { ctx.device with
        longName := longName, shortName := shortName, hwModel := hwModel, role := role
        channels := channels }) ∨
    (∃ lora, (step env ctx event).device = Admin.setLoraConfig env ctx.device lora) ∨
    (step env ctx event).device = ctx.device.reload env := by
  cases event with
  | setOwner user htext => exact Or.inl ⟨_, _, _, _, _, rfl⟩
  | setConfig config =>
      unfold step Admin.setConfig
      dsimp only
      split
      · exact Or.inl ⟨_, _, _, _, _, rfl⟩
      · exact Or.inr (Or.inl ⟨_, rfl⟩)
      · exact Or.inl ⟨_, _, _, _, _, rfl⟩
      · exact Or.inl ⟨_, _, _, _, _, rfl⟩
  | setChannel channel htext =>
      refine Or.inl ⟨ctx.device.longName, ctx.device.shortName, ctx.device.hwModel,
        ctx.device.role, (step env ctx (.setChannel channel htext)).device.channels, ?_⟩
      unfold step Admin.setChannel
      dsimp only
      split
      · split <;> rfl
      · rfl
  | reboot =>
      right; right
      unfold step
      dsimp only

theorem loraRanges_step {ctx : MeshCtx S} (h : ctx.device.LoraRanges) (event : SettingsEvent) :
    (step env ctx event).device.LoraRanges := by
  rcases device_step_cases env ctx event with ⟨_, _, _, _, _, hsame⟩ | ⟨lora, hlora⟩ | hreload
  · rw [hsame]
    exact ⟨h.customSf, h.customCr, h.customBwHz, h.bandwidthCode, h.hopLimit⟩
  · rw [hlora]
    exact DeviceState.loraRanges_setLoraConfig _ lora
  · rw [hreload]
    exact h.reload env

/-- A device reached by messages and restarts has settings that a message can set. -/
theorem loraRanges_run (env : Env) (ctx : MeshCtx S) (mac : Bytes)
    (events : List SettingsEvent) :
    (Transition.run (step env) (fresh ctx mac) events).device.LoraRanges :=
  @Transition.invariant_run (MeshCtx S) SettingsEvent (step env)
    (fun ctx => ctx.device.LoraRanges) (fun _ _ => True)
    (fun _ event h _ => loraRanges_step h event)
    (fresh ctx mac) events (DeviceState.loraRanges_new mac)
    (Transition.always_of_forall (fun _ _ => trivial) _)

theorem hasRegion_step (hregions : Region.Coded env) {ctx : MeshCtx S}
    (h : ctx.device.HasRegion env) (event : SettingsEvent) :
    (step env ctx event).device.HasRegion env := by
  rcases device_step_cases env ctx event with ⟨_, _, _, _, _, hsame⟩ | ⟨lora, hlora⟩ | hreload
  · rw [hsame]
    exact h
  · rw [hlora]
    exact ⟨_, Region.tryFrom_stored hregions lora.region.toUInt32.toUInt8⟩
  · rw [hreload, DeviceState.reload_eq]
    exact h

theorem hasRegion_run (hregions : Region.Coded env) (ctx : MeshCtx S) (mac : Bytes)
    (events : List SettingsEvent) :
    (Transition.run (step env) (fresh ctx mac) events).device.HasRegion env :=
  @Transition.invariant_run (MeshCtx S) SettingsEvent (step env)
    (fun ctx => ctx.device.HasRegion env) (fun _ _ => True)
    (fun _ event h _ => hasRegion_step hregions h event) (fresh ctx mac) events
    ⟨_, hregions.tryFrom_two⟩ (Transition.always_of_forall (fun _ _ => trivial) _)

/-- The settings a phone reads from a device, written back, change nothing, and are in their
ranges. -/
theorem writeBack_eq (hcodes : env.prost.modemPreset.Lawful .longFast)
    (hregions : Region.Coded env) (ctx : MeshCtx S) (mac : Bytes) (events : List SettingsEvent) :
    let reached := Transition.run (step env) (fresh ctx mac) events
    let device := reached.device
    (5 ≤ device.customSf ∧ device.customSf ≤ 12) ∧ (4 ≤ device.customCr ∧ device.customCr ≤ 8) ∧
      0 < device.customBwHz ∧ device.hopLimit ≤ 7 ∧
      (Admin.setConfig env reached
        { payloadVariant := some (.lora (Admin.buildLoraConfig env device)) }).device = device := by
  intro reached device
  have hranges : device.LoraRanges := loraRanges_run env ctx mac events
  refine ⟨hranges.customSf, hranges.customCr, ?_, hranges.hopLimit, ?_⟩
  · exact UInt32.pos_iff_ne_zero.mpr hranges.customBwHz
  · exact Admin.setLoraConfig_buildLoraConfig hcodes hregions hranges
      (codable_run hcodes ctx mac events).modemPreset (hasRegion_run hregions ctx mac events)

/-- A custom modem, in its range and out of it, and a restart. -/
def strayRun : List SettingsEvent :=
  customRun ++
    [.reboot,
      .setConfig { payloadVariant := some (.lora
        { usePreset := false, modemPreset := 99, bandwidth := 1625, spreadFactor := 300,
          codingRate := 4, region := 258, hopLimit := 263, channelNum := 4294967295 }) },
      .reboot]

def strayCtx : MeshCtx FakeStorage :=
  Transition.run (step KnownAnswers.defaultKey.env) (fresh bootedCtx KnownAnswers.mac) strayRun

theorem strayCtx_writeBack :
    strayCtx.device.customBwHz = 1625000 ∧
    (Admin.setConfig KnownAnswers.defaultKey.env strayCtx
      { payloadVariant := some (.lora
        (Admin.buildLoraConfig KnownAnswers.defaultKey.env strayCtx.device)) }).device =
      strayCtx.device := by
  have hlawful : KnownAnswers.defaultKey.env.prost.modemPreset.Lawful .longFast :=
    Wire.lawful_enumCodeOfList (by decide)
  have hregions : Region.Coded KnownAnswers.defaultKey.env :=
    ⟨Wire.lawful_enumCodeOfList (by decide), by decide⟩
  exact ⟨by decide +kernel,
    (writeBack_eq hlawful hregions bootedCtx KnownAnswers.mac strayRun).2.2.2.2⟩

end SettingsEvent

end Meshtastenstein
