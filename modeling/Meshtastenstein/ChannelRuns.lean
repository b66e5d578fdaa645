import Meshtastenstein.Acknowledgements
import Meshtastenstein.AdminSession
import Meshtastenstein.ChannelTable
import Meshtastenstein.PhoneWire
/-!
# The channel table over whole runs

In every reachable state the channels stand in their own slots, so what a restart makes of
the table depends on slot 0 alone.  Messages that assign channels keep exactly one primary
channel as long as they leave the role where it is.
-/

namespace Meshtastenstein

open Lib Proto Handlers

variable {S : Type} [MeshStorage S] {env : Env}

/-! ## Well-formed tables -/

def Proto.Channel.IsText (channel : Channel) : Prop :=
  ∀ settings, channel.settings = some settings → isUtf8 settings.name = true

theorem isUtf8_ofListOrEmpty {cap : Nat} {text : Text} (h : isUtf8 text = true) :
    isUtf8 (Bounded.ofListOrEmpty text : Bounded UInt8 cap).toList = true := by
  rw [Bounded.toList_ofListOrEmpty]
  split
  · exact h
  · exact ChannelSet.isUtf8_nil

theorem ChannelSet.WellFormed.applySavedChannel {table : ChannelSet} (h : table.WellFormed)
    (saved : SavedChannel) : (applySavedChannel table saved).WellFormed := by
  have hrestore : ∀ role, (table.set saved.index
      { index := saved.index
        name := if isUtf8 saved.name.toList then saved.name else Bounded.empty
        psk := saved.psk
        role := role }).WellFormed := by
    intro role
    refine h.set rfl ?_
    dsimp only
    split
    · assumption
    · exact ChannelSet.isUtf8_nil
  unfold Meshtastenstein.applySavedChannel
  dsimp only
  split
  · exact hrestore .primary
  · split
    · exact hrestore .secondary
    · exact h

theorem wellFormed_loadState (storage : S) {device : DeviceState}
    (h : device.channels.WellFormed) : (loadState env storage device).channels.WellFormed := by
  have hfold : ∀ (saved : List SavedChannel) (table : ChannelSet), table.WellFormed →
      (saved.foldl applySavedChannel table).WellFormed := by
    intro saved
    induction saved with
    | nil => exact fun _ htable => htable
    | cons channel saved ih => exact fun _ htable => ih _ (htable.applySavedChannel channel)
  unfold loadState
  split
  · exact hfold _ _ h
  · exact h

namespace Handlers.Admin

theorem wellFormed_setChannel {ctx : MeshCtx S} (h : ctx.device.channels.WellFormed)
    {channel : Channel} (htext : channel.IsText) :
    (setChannel env ctx channel).device.channels.WellFormed := by
  unfold setChannel
  split
  · rename_i settings hsettings
    split
    · exact h.set rfl (isUtf8_ofListOrEmpty (htext settings hsettings))
    · exact h
  · exact h

theorem channels_handleVariant (ctx : MeshCtx S) (requester reqPktId : UInt32) (viaLora : Bool)
    (variant : AdminMessage.Variant) :
    (handleVariant env ctx requester reqPktId viaLora variant).device.channels =
      match variant with
      | .setChannel channel => (setChannel env ctx channel).device.channels
      | _ => ctx.device.channels := by
  have hanswered : ∀ answer,
      (sendAdminResponse env ctx requester reqPktId answer viaLora).device.channels =
        ctx.device.channels := by
    intro answer
    have hsettings := @settings_sendAdminResponse S env ctx requester reqPktId answer viaLora
    have hchannels := congrArg DeviceState.channels hsettings
    exact hchannels
  cases variant with
  | getOwnerRequest _ => exact hanswered _
  | getConfigRequest configType =>
      unfold handleVariant
      dsimp only
      split
      · exact hanswered _
      · rfl
  | getChannelRequest _ => exact hanswered _
  | getModuleConfigRequest configType =>
      unfold handleVariant getModuleConfig
      dsimp only
      split
      · exact hanswered _
      · rfl
  | setConfig config =>
      unfold handleVariant setConfig
      dsimp only
      split <;> rfl
  | addContact contact =>
      unfold handleVariant addContact
      dsimp only
      split <;> rfl
  | beginEditSettings _ => exact hanswered _
  | commitEditSettings _ => exact hanswered _
  | _ => rfl

end Handlers.Admin

/-! ## Reachable devices -/

/-- The names in the channel assignments that are decoded are text. -/
def DecodesText (env : Env) : Prop :=
  ∀ bytes message channel, env.prost.adminMessage.decode bytes = some message →
    message.payloadVariant = some (.setChannel channel) → channel.IsText

namespace MeshState

theorem wellFormed_handled (htext : DecodesText env) {state : MeshState S}
    (h : state.ctx.device.channels.WellFormed) (event : Event) :
    (handled env state event).device.channels.WellFormed := by
  cases hcalled : SessionRun.called env state event with
  | none =>
      have hsame := SessionRun.standing_handled_of_uncalled hcalled
      have hchannels : (handled env state event).device.channels = state.ctx.device.channels :=
        congrArg (fun standing => standing.2.channels) hsame
      rw [hchannels]
      exact h
  | some call =>
      obtain ⟨noted, request⟩ := call
      obtain ⟨hnoted, -, hrun⟩ := SessionRun.standing_handled_of_called hcalled
      have hbefore : noted.device.channels = state.ctx.device.channels :=
        congrArg (fun standing => standing.2.channels) hnoted
      have hafter : (handled env state event).device.channels =
          (Admin.run env noted request).device.channels :=
        congrArg (fun standing => standing.2.channels) hrun
      rw [← hbefore] at h
      rw [hafter]
      unfold Admin.run
      rw [Admin.dispatch_eq]
      cases hcommand : Admin.command env noted request.bytes request.viaLora with
      | none => exact h
      | some variant =>
          dsimp only
          rw [Admin.channels_handleVariant]
          cases variant with
          | setChannel channel =>
              unfold Admin.command at hcommand
              obtain ⟨message, hdecode, hvariant⟩ := Option.bind_eq_some_iff.mp hcommand
              split at hvariant
              · exact Admin.wellFormed_setChannel h (htext _ _ _ hdecode hvariant)
              · cases hvariant
          | _ => exact h

theorem wellFormed_step (htext : DecodesText env) {state : MeshState S}
    (h : state.ctx.device.channels.WellFormed) (event : Event) :
    (step env state event).ctx.device.channels.WellFormed := by
  cases hrestarts : restarts env state event with
  | true =>
      obtain ⟨housed, -, hstep⟩ := step_of_restarts hrestarts
      rw [hstep]
      exact wellFormed_loadState _ ChannelSet.wellFormed_new
  | false =>
      obtain ⟨_, _, _, hkept⟩ := step_of_not_restarts hrestarts
      rw [hkept]
      exact wellFormed_handled htext h event

theorem wellFormed_channels (htext : DecodesText env) (mac : Bytes) (storage : S)
    (pkcKeypair : Key × Key) (entropy : Nat → UInt32) (events : List Event) :
    (after env mac storage pkcKeypair entropy events).ctx.device.channels.WellFormed := by
  have hboot : (boot env mac storage pkcKeypair entropy).ctx.device.channels.WellFormed :=
    wellFormed_loadState storage ChannelSet.wellFormed_new
  have hstep : ∀ (state : MeshState S) event, state.ctx.device.channels.WellFormed → True →
      (step env state event).ctx.device.channels.WellFormed :=
    fun _ event h _ => wellFormed_step htext h event
  exact Transition.invariant_run hstep hboot fun _ _ => trivial

/-- In every reachable state, whatever is stored at the start, the enabled channels and the
primary survive a restart exactly when slot 0 is enabled. -/
theorem channels_survive_iff (htext : DecodesText env) (mac : Bytes) (storage : S)
    (pkcKeypair : Key × Key) (entropy : Nat → UInt32) (events : List Event) :
    let device := (after env mac storage pkcKeypair entropy events).ctx.device
    device.channels.Agrees (device.reload env).channels ↔ device.channels.IsEnabledAt 0 := by
  intro device
  have hwellFormed : device.channels.WellFormed :=
    wellFormed_channels htext mac storage pkcKeypair entropy events
  rw [DeviceState.channels_reload env hwellFormed]
  exact ChannelSet.agrees_reloaded_iff hwellFormed

end MeshState

/-! ### Recorded runs -/

theorem isText_of_decodeChannel {bytes : Bytes} {channel : Channel}
    (h : Wire.decodeChannel bytes = some channel) : channel.IsText := by
  obtain ⟨fields, -, hfields⟩ := Option.bind_eq_some_iff.mp h
  have hempty : Channel.IsText {} := by
    intro settings hnone
    cases hnone
  refine Wire.holds_of_foldlM (P := Channel.IsText) ?_ hempty hfields
  intro acc field acc' hacc hmerge
  unfold Wire.mergeChannel at hmerge
  split at hmerge
  · cases hmerge
    exact hacc
  · obtain ⟨settings, hsettings, rfl⟩ := Option.map_eq_some_iff.mp hmerge
    intro settings' hsame
    cases hsame
    exact Wire.isUtf8_of_decodeChannelSettings hsettings
  · cases hmerge
    exact hacc
  · split at hmerge
    · cases hmerge
    · cases hmerge
      exact hacc

theorem decodesText_phoneEnv (answers : KnownAnswers) : DecodesText answers.phoneEnv := by
  intro bytes message channel hdecode
  obtain ⟨fields, -, hfields⟩ := Option.bind_eq_some_iff.mp hdecode
  refine Wire.holds_of_foldlM (P := fun message : AdminMessage => ∀ channel,
    message.payloadVariant = some (.setChannel channel) → channel.IsText) ?_ ?_ hfields channel
  · intro acc field acc' hacc hmerge
    unfold Wire.mergePhoneAdmin at hmerge
    split at hmerge
    · obtain ⟨channel, hchannel, rfl⟩ := Option.map_eq_some_iff.mp hmerge
      intro channel' hsame
      cases hsame
      exact isText_of_decodeChannel hchannel
    · obtain ⟨contact, -, rfl⟩ := Option.map_eq_some_iff.mp hmerge
      exact fun _ hsame => nomatch hsame
    · unfold Wire.mergeAdmin at hmerge
      split at hmerge
      all_goals
        first
        | (obtain ⟨user, -, rfl⟩ := Option.map_eq_some_iff.mp hmerge
           exact fun _ hsame => nomatch hsame)
        | (cases hmerge
           first
           | exact hacc
           | exact fun _ hsame => nomatch hsame)
  · intro channel hnone
    cases hnone

namespace MeshState

open Protobuf in
/-- `SetChannel` for a slot under an empty name and without a key. -/
def channelRequest (slot role : Nat) : Bytes :=
  let channel := encodeFields [⟨1, .varint slot⟩, ⟨2, .bytes []⟩, ⟨3, .varint role⟩]
  let data := encodeFields [⟨1, .varint 6⟩, ⟨2, .bytes (encodeFields [⟨33, .bytes channel⟩])⟩]
  encodeFields [⟨1, .bytes (encodeFields [⟨4, .bytes data⟩])⟩]

/-- The phone assigns a channel. -/
def channelRun (slot role : Nat) : List Event :=
  [.announce, .mesh .bleConnected, .mesh (.bleRx (channelRequest slot role))]

def channelDevice (slot role : Nat) : DeviceState :=
  (after KnownAnswers.defaultKey.phoneEnv KnownAnswers.mac ({} : FakeStorage)
    KnownAnswers.noKeypair KnownAnswers.noEntropy (channelRun slot role)).ctx.device

/-- A secondary channel in slot 1 survives. -/
theorem secondary_survives :
    (channelDevice 1 2).channels.enabled.length = 2 ∧
    (channelDevice 1 2).channels.Agrees
      ((channelDevice 1 2).reload KnownAnswers.defaultKey.phoneEnv).channels := by
  refine ⟨by decide +kernel, ?_⟩
  refine (channels_survive_iff (decodesText_phoneEnv _) KnownAnswers.mac ({} : FakeStorage)
    KnownAnswers.noKeypair KnownAnswers.noEntropy (channelRun 1 2)).mpr ?_
  exact ⟨ChannelConfig.defaultPrimary, by decide +kernel, rfl⟩

/-- The primary channel is disabled, and a restart brings the public one back. -/
theorem disabled_not_survives :
    (channelDevice 0 0).channels.enabled = [] ∧
    ((channelDevice 0 0).reload KnownAnswers.defaultKey.phoneEnv).channels.enabled =
      [ChannelConfig.defaultPrimary] ∧
    ¬ (channelDevice 0 0).channels.Agrees
      ((channelDevice 0 0).reload KnownAnswers.defaultKey.phoneEnv).channels := by
  have hbefore : (channelDevice 0 0).channels.enabled = [] := by decide +kernel
  have hafter : ((channelDevice 0 0).reload KnownAnswers.defaultKey.phoneEnv).channels.enabled =
      [ChannelConfig.defaultPrimary] := by decide +kernel
  refine ⟨hbefore, hafter, fun hagrees => ?_⟩
  have hsame := hagrees.enabled_eq
  rw [hbefore, hafter] at hsame
  cases hsame

end MeshState

end Meshtastenstein
