import Meshtastenstein.ChannelRuns
import Meshtastenstein.NodeRecord
/-!
# Settings over messages and restarts

Runs of the messages that set up a device, with restarts in between that load what was
saved.  A run keeps exactly one primary channel as long as no message moves the role, and
the scalars that come back are those that fit their places in the record.
-/

namespace Meshtastenstein

open Lib Proto Handlers

variable {S : Type} [MeshStorage S] {env : Env}

/-! ## Runs -/

/-- A message that sets up the device, or a restart. -/
inductive SettingsEvent
  | setOwner (user : User) (htext : user.IsText)
  | setConfig (config : Config)
  | setChannel (channel : Channel) (htext : channel.IsText)
  | reboot

namespace SettingsEvent

def step (env : Env) (ctx : MeshCtx S) : SettingsEvent → MeshCtx S
  | .setOwner user _ => Admin.setOwner env ctx user
  | .setConfig config => Admin.setConfig env ctx config
  | .setChannel channel _ => Admin.setChannel env ctx channel
  | .reboot => { ctx with device := ctx.device.reload env }

/-- The context before the device was ever set up. -/
def fresh (ctx : MeshCtx S) (mac : Bytes) : MeshCtx S :=
  { ctx with device := DeviceState.new mac }

end SettingsEvent

/-! ## The primary channel -/

namespace ChannelSet

variable {table : ChannelSet} {slot : UInt8}

def IsPrimaryAt (table : ChannelSet) (slot : UInt8) : Prop :=
  ∃ channel, table.get slot = some channel ∧ channel.role = .primary

/-- There is exactly one primary channel, and every channel stands in its own slot. -/
structure Sound (table : ChannelSet) : Prop where
  onePrimary : ∃! slot, table.IsPrimaryAt slot
  index_eq : ∀ slot channel, table.get slot = some channel → channel.index = slot

theorem isPrimaryAt_set {channel : ChannelConfig} (hlt : channel.index.toNat < MAX_CHANNELS) :
    (table.set channel.index channel).IsPrimaryAt slot ↔
      if channel.index = slot then channel.role = .primary else table.IsPrimaryAt slot := by
  unfold IsPrimaryAt
  rw [get_set]
  by_cases hsame : channel.index = slot
  · rw [if_pos ⟨hsame, hlt⟩, if_pos hsame]
    simp
  · rw [if_neg (fun h => hsame h.1), if_neg hsame]

theorem isPrimaryAt_new : new.IsPrimaryAt slot ↔ slot = 0 := by
  unfold IsPrimaryAt
  rw [get_new]
  by_cases hzero : slot = 0
  · rw [if_pos hzero]
    exact iff_of_true ⟨_, rfl, rfl⟩ hzero
  · rw [if_neg hzero]
    exact iff_of_false (fun ⟨_, hnone, _⟩ => nomatch hnone) hzero

structure PrimaryFirst (table : ChannelSet) : Prop where
  wellFormed : table.WellFormed
  primary_iff : ∀ slot, table.IsPrimaryAt slot ↔ slot = 0

theorem primaryFirst_new : new.PrimaryFirst := ⟨wellFormed_new, fun _ => isPrimaryAt_new⟩

theorem PrimaryFirst.sound (h : table.PrimaryFirst) : table.Sound where
  onePrimary := ⟨0, (h.primary_iff 0).mpr rfl, fun slot hslot => (h.primary_iff slot).mp hslot⟩
  index_eq := fun _ _ hget => h.wellFormed.index_eq hget

/-- A restart keeps the primary channel in slot 0. -/
theorem PrimaryFirst.reloaded (h : table.PrimaryFirst) : table.reloaded.PrimaryFirst := by
  obtain ⟨primary, hprimary, hrole⟩ := (h.primary_iff 0).mpr rfl
  have henabled : ∀ channel : ChannelConfig, channel.role = .primary →
      channel.isEnabled = true := by
    intro channel hchannel
    unfold ChannelConfig.isEnabled
    rw [hchannel]
    rfl
  refine ⟨h.wellFormed.reloaded, fun slot => ⟨?_, ?_⟩⟩
  · rintro ⟨channel, hget, hchannel⟩
    rw [get_reloaded h.wellFormed, Option.or_eq_some_iff] at hget
    rcases hget with hkept | ⟨-, hnew⟩
    · exact (h.primary_iff slot).mp ⟨channel, (Option.filter_eq_some_iff.mp hkept).1, hchannel⟩
    · exact isPrimaryAt_new.mp ⟨channel, hnew, hchannel⟩
  · rintro rfl
    refine ⟨primary, ?_, hrole⟩
    rw [get_reloaded h.wellFormed, hprimary, Option.filter_some, if_pos (henabled primary hrole)]
    rfl

theorem PrimaryFirst.isPrimaryAt_set (h : table.PrimaryFirst) {channel : ChannelConfig}
    (hlt : channel.index.toNat < MAX_CHANNELS) :
    (table.set channel.index channel).IsPrimaryAt slot ↔
      if channel.index = slot then channel.role = .primary else slot = 0 := by
  rw [ChannelSet.isPrimaryAt_set hlt, h.primary_iff slot]

theorem PrimaryFirst.set (h : table.PrimaryFirst) {channel : ChannelConfig}
    (hlt : channel.index.toNat < MAX_CHANNELS) (htext : isUtf8 channel.name.toList = true)
    (hrole : channel.role = .primary ↔ channel.index = 0) :
    (table.set channel.index channel).PrimaryFirst := by
  refine ⟨h.wellFormed.set rfl htext, fun slot => ?_⟩
  rw [h.isPrimaryAt_set hlt]
  by_cases hsame : channel.index = slot
  · rw [if_pos hsame, hrole, hsame]
  · rw [if_neg hsame]

/-- An assignment leaves exactly one primary channel when it gives the role to slot 0 alone. -/
theorem PrimaryFirst.sound_set_iff (h : table.PrimaryFirst) {channel : ChannelConfig}
    (hlt : channel.index.toNat < MAX_CHANNELS) (htext : isUtf8 channel.name.toList = true) :
    (table.set channel.index channel).Sound ↔
      (channel.role = .primary ↔ channel.index = 0) := by
  refine ⟨?_, fun hrole => (h.set hlt htext hrole).sound⟩
  rintro ⟨⟨slot, hslot, hunique⟩, -⟩
  have hall : ∀ other, (if channel.index = other then channel.role = .primary else other = 0) →
      other = slot := fun other hother => hunique other ((h.isPrimaryAt_set hlt).mpr hother)
  have hholds := (h.isPrimaryAt_set hlt).mp hslot
  constructor
  · intro hrole
    -- otherwise slot 0 and the assigned one are both primary
    by_contra hne
    have hindex := hall channel.index (by rwa [if_pos rfl])
    have hzero := hall 0 (by rw [if_neg hne])
    exact hne (hindex.trans hzero.symm)
  · intro hzero
    rw [hzero] at hholds
    by_cases hsame : 0 = slot
    · rwa [if_pos hsame] at hholds
    · rw [if_neg hsame] at hholds
      exact absurd hholds.symm hsame

end ChannelSet

namespace Handlers.Admin

/-- The channel that a message assigns, when it is accepted. -/
def assigned (channel : Channel) : Option ChannelConfig :=
  channel.settings.bind fun settings =>
    if isValidPskLen settings.psk.length then some (channelOfSettings channel settings) else none

theorem channels_setChannel (ctx : MeshCtx S) (channel : Channel) :
    (setChannel env ctx channel).device.channels =
      match assigned channel with
      | some config => ctx.device.channels.set config.index config
      | none => ctx.device.channels := by
  unfold setChannel assigned
  cases channel.settings with
  | none => rfl
  | some settings =>
      rw [Option.bind_some]
      dsimp only
      split <;> rfl

theorem isUtf8_of_assigned {channel : Channel} {config : ChannelConfig}
    (h : assigned channel = some config) (htext : channel.IsText) :
    isUtf8 config.name.toList = true := by
  obtain ⟨settings, hsettings, hconfig⟩ := Option.bind_eq_some_iff.mp h
  split at hconfig
  · cases hconfig
    exact isUtf8_ofListOrEmpty (htext settings hsettings)
  · cases hconfig

end Handlers.Admin

namespace SettingsEvent

/-- A channel assignment gives the role of the primary exactly to the slot that has it. -/
def KeepsPrimary (ctx : MeshCtx S) : SettingsEvent → Prop
  | .setChannel channel _ =>
      ∀ config, Admin.assigned channel = some config → config.index.toNat < MAX_CHANNELS →
        (config.role = .primary ↔ ctx.device.channels.IsPrimaryAt config.index)
  | _ => True

theorem channels_setConfig (ctx : MeshCtx S) (config : Config) :
    (Admin.setConfig env ctx config).device.channels = ctx.device.channels := by
  unfold Admin.setConfig
  split <;> rfl

theorem sound_step_iff {ctx : MeshCtx S} (h : ctx.device.channels.PrimaryFirst)
    (event : SettingsEvent) :
    (step env ctx event).device.channels.Sound ↔ KeepsPrimary ctx event := by
  cases event with
  | setOwner user htext => exact iff_of_true h.sound trivial
  | setConfig config =>
      refine iff_of_true ?_ trivial
      unfold step
      dsimp only
      rw [channels_setConfig]
      exact h.sound
  | reboot =>
      refine iff_of_true ?_ trivial
      unfold step
      dsimp only
      rw [DeviceState.channels_reload env h.wellFormed]
      exact h.reloaded.sound
  | setChannel channel htext =>
      unfold step KeepsPrimary
      dsimp only
      rw [Admin.channels_setChannel]
      cases hassigned : Admin.assigned channel with
      | none => exact iff_of_true h.sound fun _ hnone => nomatch hnone
      | some config =>
          dsimp only
          by_cases hlt : config.index.toNat < MAX_CHANNELS
          · rw [h.sound_set_iff hlt (Admin.isUtf8_of_assigned hassigned htext)]
            simp [hlt, h.primary_iff]
          · rw [ChannelSet.set_of_le _ (Nat.le_of_not_lt hlt)]
            refine iff_of_true h.sound fun other hother hlt' => ?_
            cases hother
            exact absurd hlt' hlt

theorem primaryFirst_step {ctx : MeshCtx S} {event : SettingsEvent}
    (h : ctx.device.channels.PrimaryFirst) (hkeeps : KeepsPrimary ctx event) :
    (step env ctx event).device.channels.PrimaryFirst := by
  cases event with
  | setOwner user htext => exact h
  | setConfig config =>
      unfold step
      dsimp only
      rw [channels_setConfig]
      exact h
  | reboot =>
      unfold step
      dsimp only
      rw [DeviceState.channels_reload env h.wellFormed]
      exact h.reloaded
  | setChannel channel htext =>
      unfold step
      dsimp only
      rw [Admin.channels_setChannel]
      cases hassigned : Admin.assigned channel with
      | none => exact h
      | some config =>
          dsimp only
          by_cases hlt : config.index.toNat < MAX_CHANNELS
          · have hrole := hkeeps config hassigned hlt
            rw [h.primary_iff] at hrole
            exact h.set hlt (Admin.isUtf8_of_assigned hassigned htext) hrole
          · rw [ChannelSet.set_of_le _ (Nat.le_of_not_lt hlt)]
            exact h

/-- From a fresh device on, every state reached has exactly one primary channel, and every
channel in its own slot, exactly when every assignment leaves the role where it is. -/
theorem onePrimary_iff (env : Env) (ctx : MeshCtx S) (mac : Bytes) (events : List SettingsEvent) :
    Transition.Always (step env)
        (fun ctx event => (step env ctx event).device.channels.Sound) (fresh ctx mac) events ↔
      Transition.Always (step env) KeepsPrimary (fresh ctx mac) events :=
  @Transition.always_congr (MeshCtx S) SettingsEvent (step env)
    (fun ctx => ctx.device.channels.PrimaryFirst) _ _ (fun _ event h => sound_step_iff h event)
    (fun _ _ h hkeeps => primaryFirst_step h hkeeps) _ _ ChannelSet.primaryFirst_new

/-- Slot 1 is made a primary channel too. -/
def secondPrimary : SettingsEvent :=
  .setChannel { index := 1, settings := some {}, role := 1 } (by
    intro settings hsettings
    cases hsettings
    exact ChannelSet.isUtf8_nil)

def bootedCtx : MeshCtx FakeStorage :=
  (MeshState.boot KnownAnswers.defaultKey.env KnownAnswers.mac {} KnownAnswers.noKeypair
    KnownAnswers.noEntropy).ctx

theorem secondPrimary_not_sound :
    ¬ (step KnownAnswers.defaultKey.env (fresh bootedCtx KnownAnswers.mac)
      secondPrimary).device.channels.Sound := by
  rintro ⟨⟨slot, -, hunique⟩, -⟩
  have hfirst := hunique 0 ⟨ChannelConfig.defaultPrimary, rfl, rfl⟩
  have hsecond := hunique 1
    ⟨{ ChannelConfig.defaultPrimary with index := 1, psk := Bounded.empty }, rfl, rfl⟩
  exact absurd (hfirst.trans hsecond.symm) (by decide)

end SettingsEvent

end Meshtastenstein
