import Meshtastenstein.SettingsRuns
/-!
# The scalar settings across a restart

What the messages that set up a device can leave in it, and which of its scalars a restart
brings back: all of them, unless the hardware model was set, the channel number does not fit
its two bytes, or a name was cleared.
-/

namespace Meshtastenstein

open Lib Proto Handlers

variable {S : Type} [MeshStorage S] {env : Env}

/-! ## Codes -/

/-- The codes of a generated enumeration: a number that stands for a value is its code, and
zero stands for the default. -/
structure EnumCode.Lawful {α : Type} (code : EnumCode α) (default : α) : Prop where
  toI32_of_tryFrom : ∀ {n value}, code.tryFrom n = some value → code.toI32 value = n
  tryFrom_zero : code.tryFrom 0 = some default

theorem toUInt8_ofByte (v : UInt8) : v.toUInt32.toInt32.toInt8.toUInt8 = v := by
  apply UInt8.toBitVec_inj.mp
  calc
    BitVec.signExtend 8 (BitVec.setWidth 32 v.toBitVec) =
        BitVec.setWidth 8 (BitVec.setWidth 32 v.toBitVec) :=
      BitVec.signExtend_eq_setWidth_of_le _ (by decide)
    _ = v.toBitVec := by rw [BitVec.setWidth_setWidth_of_le _ (by decide), BitVec.setWidth_eq]

namespace ModemPreset

def HasCode (env : Env) (preset : ModemPreset) : Prop :=
  ∃ v : UInt8, env.prost.modemPreset.tryFrom v.toUInt32.toInt32 = some preset

theorem hasCode_longFast (hcodes : env.prost.modemPreset.Lawful .longFast) :
    longFast.HasCode env := ⟨0, hcodes.tryFrom_zero⟩

theorem hasCode_fromProto (hcodes : env.prost.modemPreset.Lawful .longFast) (v : UInt8) :
    (fromProto env v).HasCode env := by
  unfold fromProto
  cases hdecoded : env.prost.modemPreset.tryFrom v.toUInt32.toInt32 with
  | none => exact hasCode_longFast hcodes
  | some preset => exact ⟨v, hdecoded⟩

theorem fromProto_toI32 (hcodes : env.prost.modemPreset.Lawful .longFast) {preset : ModemPreset}
    (h : preset.HasCode env) :
    fromProto env (env.prost.modemPreset.toI32 preset).toInt8.toUInt8 = preset := by
  obtain ⟨v, hv⟩ := h
  unfold fromProto
  rw [hcodes.toI32_of_tryFrom hv, toUInt8_ofByte, hv]
  rfl

end ModemPreset

theorem DeviceRole.tryFrom_toI32 (role : DeviceRole) :
    DeviceRole.tryFrom role.toI32.toInt8.toUInt8.toUInt32.toInt32 = some role := by
  cases role <;> decide

theorem toNat_mul_thousand (code : UInt16) :
    (code.toUInt32 * 1000).toNat = code.toNat * 1000 := by
  have hcode : code.toNat < 65536 := code.toNat_lt
  simp
  omega

theorem bwCodeToHz_bwHzToCode (code : UInt16) :
    bwCodeToHz (bwHzToCode (bwCodeToHz code)) = bwCodeToHz code := by
  by_cases hspecial : code ∈ [31, 62, 200, 400, 800, 1600]
  · simp only [List.mem_cons, List.not_mem_nil, or_false] at hspecial
    rcases hspecial with rfl | rfl | rfl | rfl | rfl | rfl <;> rfl
  · have hkhz : bwCodeToHz code = code.toUInt32 * 1000 := by
      simp only [List.mem_cons, List.not_mem_nil, or_false, not_or] at hspecial
      unfold bwCodeToHz
      simp [hspecial]
    have hvalue := toNat_mul_thousand code
    rw [hkhz]
    by_cases hwide : code = 1625
    · -- 1625 kHz reads back under the code 1600
      subst hwide
      rfl
    · have hcode : bwHzToCode (code.toUInt32 * 1000) = code := by
        have hne : ∀ hz : UInt32, hz.toNat % 1000 ≠ 0 → code.toUInt32 * 1000 ≠ hz := by
          rintro _ hodd rfl
          rw [hvalue] at hodd
          omega
        have hwide' : code.toUInt32 * 1000 ≠ 1625000 := by
          intro hsame
          have hnat := congrArg UInt32.toNat hsame
          rw [hvalue] at hnat
          refine hwide (UInt16.toNat_inj.mp ?_)
          have hlit : (1625000 : UInt32).toNat = 1625000 := rfl
          have hlit' : (1625 : UInt16).toNat = 1625 := rfl
          omega
        unfold bwHzToCode
        rw [if_neg (hne _ (by decide)), if_neg (hne _ (by decide)), if_neg (hne _ (by decide)),
          if_neg (hne _ (by decide)), if_neg (hne _ (by decide)), if_neg hwide']
        apply UInt16.toNat_inj.mp
        rw [UInt32.toNat_toUInt16, UInt32.toNat_div, hvalue]
        calc
          code.toNat * 1000 / 1000 % 2 ^ 16 = code.toNat % 2 ^ 16 := by
            rw [Nat.mul_div_cancel _ (by decide)]
          _ = code.toNat := Nat.mod_eq_of_lt code.toNat_lt
      rw [hcode, hkhz]

/-! ## Devices -/

namespace DeviceState

/-- The settings that are no channels agree. -/
structure SameScalars (device other : DeviceState) : Prop where
  longName : other.longName = device.longName
  shortName : other.shortName = device.shortName
  hwModel : other.hwModel = device.hwModel
  role : other.role = device.role
  region : other.region = device.region
  modemPreset : other.modemPreset = device.modemPreset
  usePreset : other.usePreset = device.usePreset
  customSf : other.customSf = device.customSf
  customBwHz : other.customBwHz = device.customBwHz
  customCr : other.customCr = device.customCr
  channelNum : other.channelNum = device.channelNum
  hopLimit : other.hopLimit = device.hopLimit
  txEnabled : other.txEnabled = device.txEnabled
  configOkToMqtt : other.configOkToMqtt = device.configOkToMqtt

/-- What the messages leave in every device: names that are text unless they are the first
ones, a preset and a bandwidth that have codes, and a hop limit that does not read as unset. -/
structure Codable (env : Env) (device : DeviceState) : Prop where
  longName : isUtf8 device.longName.toList = true ∨
    device.longName = (new device.mac).longName
  shortName : isUtf8 device.shortName.toList = true ∨
    device.shortName = (new device.mac).shortName
  modemPreset : device.modemPreset.HasCode env
  customBwHz : ∃ code, device.customBwHz = bwCodeToHz code
  hopLimit : device.hopLimit ≠ 0xff

structure Restorable (device : DeviceState) : Prop where
  longName : device.longName.toList ≠ []
  shortName : device.shortName.toList ≠ []
  hwModel : device.hwModel = (new device.mac).hwModel
  channelNum : device.channelNum < 0xffff

theorem longName_new_ne_nil (mac : Bytes) : (new mac).longName.toList ≠ [] := by
  intro hnil
  have hlength : (new mac).longName.toList.length = 15 := rfl
  rw [hnil] at hlength
  cases hlength

theorem shortName_new_ne_nil (mac : Bytes) : (new mac).shortName.toList ≠ [] := by
  intro hnil
  have hlength : (new mac).shortName.toList.length = 4 := rfl
  rw [hnil] at hlength
  cases hlength

theorem restored_name_eq_iff {cap : Nat} {name first : Bounded UInt8 cap}
    (htext : isUtf8 name.toList = true ∨ name = first) (hfirst : first.toList ≠ []) :
    (if name.toList ≠ [] ∧ isUtf8 name.toList then name else first) = name ↔
      name.toList ≠ [] := by
  constructor
  · intro hrestored hnil
    rw [if_neg (fun h => h.1 hnil)] at hrestored
    exact hfirst (hrestored ▸ hnil)
  · intro hne
    rcases htext with htext | rfl
    · rw [if_pos ⟨hne, htext⟩]
    · split <;> rfl

/-- A channel number is restored when it fits two bytes and is not the value for "unset". -/
theorem restored_channelNum_eq_iff (n : UInt32) :
    (if n.toUInt16 = 0xffff then 0 else n.toUInt16).toUInt32 = n ↔ n < 0xffff := by
  have hlow : n.toUInt16.toNat = n.toNat % 65536 := UInt32.toNat_toUInt16 n
  have hunset : n.toUInt16 = 0xffff ↔ n.toNat % 65536 = 65535 := by
    rw [← UInt16.toNat_inj, hlow]
    rfl
  rw [← UInt32.toNat_inj, UInt32.lt_iff_toNat_lt, UInt16.toNat_toUInt32]
  have hlit : (0xffff : UInt32).toNat = 65535 := rfl
  split
  · rename_i h
    have hread := hunset.mp h
    have hzero : (0 : UInt16).toNat = 0 := rfl
    omega
  · rename_i h
    have hread : n.toNat % 65536 ≠ 65535 := fun hmod => h (hunset.mpr hmod)
    omega

theorem toUInt8_bne_zero (b : Bool) : (b.toUInt8 != 0) = b := by cases b <;> rfl

/-- The scalars survive a restart exactly when the record has room for them. -/
theorem sameScalars_reload_iff (hcodes : env.prost.modemPreset.Lawful .longFast)
    {device : DeviceState} (h : device.Codable env) :
    device.SameScalars (device.reload env) ↔ device.Restorable := by
  have hlong := restored_name_eq_iff h.longName (longName_new_ne_nil device.mac)
  have hshort := restored_name_eq_iff h.shortName (shortName_new_ne_nil device.mac)
  have hchannel := restored_channelNum_eq_iff device.channelNum
  rw [reload_eq]
  constructor
  · intro hsame
    exact
      { longName := hlong.mp hsame.longName
        shortName := hshort.mp hsame.shortName
        hwModel := hsame.hwModel.symm
        channelNum := hchannel.mp hsame.channelNum }
  · intro hroom
    refine
      { longName := hlong.mpr hroom.longName
        shortName := hshort.mpr hroom.shortName
        hwModel := hroom.hwModel.symm
        role := ?_
        region := rfl
        modemPreset := ModemPreset.fromProto_toI32 hcodes h.modemPreset
        usePreset := toUInt8_bne_zero _
        customSf := rfl
        customBwHz := ?_
        customCr := rfl
        channelNum := hchannel.mpr hroom.channelNum
        hopLimit := if_neg h.hopLimit
        txEnabled := ?_
        configOkToMqtt := ?_ }
    · exact congrArg (·.getD .client) (DeviceRole.tryFrom_toI32 device.role)
    · obtain ⟨code, hcode⟩ := h.customBwHz
      calc
        bwCodeToHz (bwHzToCode device.customBwHz) = bwCodeToHz code := by
          rw [hcode, bwCodeToHz_bwHzToCode]
        _ = device.customBwHz := hcode.symm
    · change ((if device.txEnabled.toUInt8 = 0xff then 1 else device.txEnabled.toUInt8) != 0) =
        device.txEnabled
      cases device.txEnabled <;> rfl
    · change ((if device.configOkToMqtt.toUInt8 = 1 then (1 : UInt8) else 0) != 0) =
        device.configOkToMqtt
      cases device.configOkToMqtt <;> rfl

theorem codable_new (hcodes : env.prost.modemPreset.Lawful .longFast) (mac : Bytes) :
    (new mac).Codable env where
  longName := Or.inr rfl
  shortName := Or.inr rfl
  modemPreset := ModemPreset.hasCode_longFast hcodes
  customBwHz := ⟨250, rfl⟩
  hopLimit := (by decide : DEFAULT_HOP_LIMIT ≠ 0xff)

theorem Codable.reload (hcodes : env.prost.modemPreset.Lawful .longFast)
    {device : DeviceState} (h : device.Codable env) : (device.reload env).Codable env := by
  have hname : ∀ {cap : Nat} {name first : Bounded UInt8 cap},
      isUtf8 (if name.toList ≠ [] ∧ isUtf8 name.toList then name else first).toList = true ∨
        (if name.toList ≠ [] ∧ isUtf8 name.toList then name else first) = first := by
    intro cap name first
    split
    · rename_i hkept
      exact Or.inl hkept.2
    · exact Or.inr rfl
  rw [reload_eq]
  exact
    { longName := hname
      shortName := hname
      modemPreset := ModemPreset.hasCode_fromProto hcodes _
      customBwHz := ⟨_, rfl⟩
      hopLimit := fun hunset => h.hopLimit ((if_neg h.hopLimit).symm.trans hunset) }

end DeviceState

/-! ## Runs -/

namespace SettingsEvent

theorem text_replaceName {cap : Nat} {old first : Bounded UInt8 cap} {name : Text}
    (h : isUtf8 old.toList = true ∨ old = first) (htext : isUtf8 name = true) :
    isUtf8 (Admin.replaceName old name).toList = true ∨ Admin.replaceName old name = first := by
  unfold Admin.replaceName
  split
  · exact h
  · exact Or.inl (isUtf8_ofListOrEmpty htext)

theorem codable_setLoraConfig (hcodes : env.prost.modemPreset.Lawful .longFast)
    {device : DeviceState} (h : device.Codable env) (lora : Config.LoRaConfig) :
    (Admin.setLoraConfig env device lora).Codable env where
  longName := h.longName
  shortName := h.shortName
  modemPreset := ModemPreset.hasCode_fromProto hcodes _
  customBwHz := by
    change ∃ code, Admin.clampCustomBwHz lora.bandwidth = bwCodeToHz code
    unfold Admin.clampCustomBwHz
    dsimp only
    split
    · exact ⟨250, rfl⟩
    · exact ⟨_, rfl⟩
  hopLimit := by
    change min lora.hopLimit.toUInt8 MAX_HOP_LIMIT ≠ 0xff
    intro hunset
    have hle : min lora.hopLimit.toUInt8 MAX_HOP_LIMIT ≤ MAX_HOP_LIMIT := by
      unfold min instMinUInt8 minOfLe
      dsimp only
      split
      · assumption
      · exact UInt8.le_refl _
    rw [hunset] at hle
    exact absurd hle (by decide)

theorem codable_step (hcodes : env.prost.modemPreset.Lawful .longFast) {ctx : MeshCtx S}
    (h : ctx.device.Codable env) (event : SettingsEvent) :
    (step env ctx event).device.Codable env := by
  cases event with
  | setOwner user htext =>
      exact
        { longName := text_replaceName h.longName htext.longName
          shortName := text_replaceName h.shortName htext.shortName
          modemPreset := h.modemPreset
          customBwHz := h.customBwHz
          hopLimit := h.hopLimit }
  | setConfig config =>
      unfold step Admin.setConfig
      dsimp only
      split
      · exact ⟨h.longName, h.shortName, h.modemPreset, h.customBwHz, h.hopLimit⟩
      · exact codable_setLoraConfig hcodes h _
      · exact h
      · exact h
  | setChannel channel htext =>
      unfold step Admin.setChannel
      dsimp only
      split
      · split
        · exact ⟨h.longName, h.shortName, h.modemPreset, h.customBwHz, h.hopLimit⟩
        · exact h
      · exact h
  | reboot =>
      unfold step
      dsimp only
      exact h.reload hcodes

theorem codable_run (hcodes : env.prost.modemPreset.Lawful .longFast) (ctx : MeshCtx S)
    (mac : Bytes) (events : List SettingsEvent) :
    (Transition.run (step env) (fresh ctx mac) events).device.Codable env := by
  have hstep : ∀ (ctx : MeshCtx S) event, ctx.device.Codable env → True →
      (step env ctx event).device.Codable env :=
    fun _ event h _ => codable_step hcodes h event
  have hfresh : (fresh ctx mac).device.Codable env := DeviceState.codable_new hcodes mac
  exact @Transition.invariant_run (MeshCtx S) SettingsEvent (step env)
    (fun ctx => ctx.device.Codable env) (fun _ _ => True) hstep _ events hfresh
    fun _ _ => trivial

/-- In every state the messages and restarts lead to, the scalars survive a restart exactly
when the record has room for them. -/
theorem scalars_survive_iff (hcodes : env.prost.modemPreset.Lawful .longFast)
    (ctx : MeshCtx S) (mac : Bytes) (events : List SettingsEvent) :
    let device := (Transition.run (step env) (fresh ctx mac) events).device
    device.SameScalars (device.reload env) ↔ device.Restorable :=
  DeviceState.sameScalars_reload_iff hcodes (codable_run hcodes ctx mac events)

/-! ### Recorded runs -/

end SettingsEvent

theorem Wire.lawful_enumCodeOfList {α : Type} [DecidableEq α] {default : α} {values : List α}
    (hdistinct : (default :: values).Nodup) :
    (Wire.enumCodeOfList (default :: values)).Lawful default where
  toI32_of_tryFrom := by
    intro n value hfound
    unfold Wire.enumCodeOfList at hfound
    dsimp only at hfound
    split at hfound
    · cases hfound
    · rename_i hnonneg
      obtain ⟨hlt, rfl⟩ := List.getElem?_eq_some_iff.mp hfound
      have hindex := hdistinct.idxOf_getElem _ hlt
      unfold List.idxOf at hindex
      unfold Wire.enumCodeOfList
      dsimp only
      rw [hindex]
      exact Int32.ofNat_toNatClampNeg n (Int32.not_lt.mp hnonneg)
  tryFrom_zero := rfl

namespace SettingsEvent

def customRun : List SettingsEvent :=
  [.setOwner { longName := utf8 "Base camp", shortName := utf8 "BASE" }
      ⟨by decide +kernel, by decide +kernel⟩,
    .setConfig { payloadVariant := some (.lora
      { usePreset := false, modemPreset := 4, bandwidth := 800, spreadFactor := 9,
        codingRate := 7, region := 3, hopLimit := 5, channelNum := 12 }) }]

def customDevice : DeviceState :=
  (Transition.run (step KnownAnswers.defaultKey.env) (fresh bootedCtx KnownAnswers.mac)
    customRun).device

theorem customDevice_survives :
    customDevice.customBwHz = 812500 ∧
    customDevice.SameScalars (customDevice.reload KnownAnswers.defaultKey.env) := by
  refine ⟨by decide +kernel, ?_⟩
  refine (scalars_survive_iff (Wire.lawful_enumCodeOfList (by decide)) bootedCtx
    KnownAnswers.mac customRun).mpr ?_
  exact ⟨by decide +kernel, by decide +kernel, by decide +kernel, by decide +kernel⟩

def otherModelDevice : DeviceState :=
  (Transition.run (step KnownAnswers.defaultKey.env) (fresh bootedCtx KnownAnswers.mac)
    [.setOwner { hwModel := 9 } ⟨by decide +kernel, by decide +kernel⟩]).device

/-- The hardware model is not saved. -/
theorem otherModelDevice_not_survives :
    ¬ otherModelDevice.SameScalars (otherModelDevice.reload KnownAnswers.defaultKey.env) := by
  intro hsame
  have hmodel := hsame.hwModel
  revert hmodel
  decide +kernel

end SettingsEvent

end Meshtastenstein
