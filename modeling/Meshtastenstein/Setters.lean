import Meshtastenstein.LoraSettings
/-!
# Setters over bounded buffers

The messages that set a name, a channel or our position overwrite a buffer of fixed
capacity.  A value that does not fit leaves the buffer empty, and the index of a channel is
cut to a byte, so what was stored survives exactly when the value fits and the index names
a slot.
-/

namespace Meshtastenstein

open Lib Proto Handlers

variable {S : Type} {env : Env}

/-! ## Stored fields -/

structure StoredFields where
  longName : Bounded UInt8 40
  shortName : Bounded UInt8 5
  channels : ChannelSet
  positionBytes : Bounded UInt8 64

def StoredFields.channelName (stored : StoredFields) (slot : UInt8) : Option Text :=
  (stored.channels.get slot).map (·.name.toList)

def MeshCtx.stored (ctx : MeshCtx S) : StoredFields where
  longName := ctx.device.longName
  shortName := ctx.device.shortName
  channels := ctx.device.channels
  positionBytes := ctx.myPositionBytes

/-! ## Sending leaves the stored fields alone -/

namespace Handlers.FromApp

theorem stored_sendToMesh (ctx : MeshCtx S) (pkt : MeshPacket) (data : Data) :
    (sendToMesh env ctx pkt data).stored = ctx.stored := by
  refine PhoneWork.view_eq (fun hwork => ?_) (@works_sendToMesh S env ctx pkt data)
  cases hwork with
  | report dest requestId error =>
      rw [sendBleRoutingResult_eq]
      rfl
  | _ => rfl

/-- A position from the phone is remembered and changes nothing else that is stored. -/
theorem stored_transmit_position [MeshStorage S] (ctx : MeshCtx S) {pkt : MeshPacket}
    {data : Data} (hdecoded : pkt.payloadVariant = some (.decoded data))
    (hport : data.portnum = PortNum.positionApp.toI32) :
    (transmitFromBlePacket env ctx pkt).stored =
      { ctx.stored with positionBytes := Bounded.ofListOrEmpty data.payload } := by
  have hlocal : isLocalAdmin ctx.device pkt data = false := by
    unfold isLocalAdmin
    rw [hport]
    rfl
  unfold transmitFromBlePacket transmitDecoded
  rw [hdecoded]
  dsimp only
  rw [if_neg (by simp [hlocal]), stored_sendToMesh]
  unfold notePosition
  rw [if_pos hport]
  rfl

end Handlers.FromApp

/-! ## The messages -/

/-- The messages that overwrite a bounded buffer: three of the administrator and the
position packet of the phone. -/
inductive BoundedSetter
  | setOwner (user : User)
  | setChannel (channel : Channel)
  | setFixedPosition (position : Position)
  | phonePosition (pkt : MeshPacket) (data : Data)
      (hdecoded : pkt.payloadVariant = some (.decoded data))
      (hport : data.portnum = PortNum.positionApp.toI32)

namespace BoundedSetter

def handle [MeshStorage S] (env : Env) (ctx : MeshCtx S) : BoundedSetter → MeshCtx S
  | .setOwner user => Admin.setOwner env ctx user
  | .setChannel channel => Admin.setChannel env ctx channel
  | .setFixedPosition position => Admin.setFixedPosition env ctx position
  | .phonePosition pkt _ _ _ => FromApp.transmitFromBlePacket env ctx pkt

def sentLongName : BoundedSetter → Option Text
  | .setOwner user => some user.longName
  | _ => none

def sentShortName : BoundedSetter → Option Text
  | .setOwner user => some user.shortName
  | _ => none

def sentChannelName (slot : UInt8) : BoundedSetter → Option Text
  | .setChannel channel =>
      if channel.index = slot.toUInt32.toInt32 then channel.settings.map (·.name) else none
  | _ => none

def sentPosition (env : Env) : BoundedSetter → Option Bytes
  | .setFixedPosition position => some (env.prost.position.encode position)
  | .phonePosition _ data _ _ => some data.payload
  | _ => none

def IsOutOfRange : BoundedSetter → Prop
  | .setChannel channel => ¬ (0 ≤ channel.index ∧ channel.index < 8)
  | _ => False

/-- A field holds the value that was sent for it or the one it held. -/
def SentOrKept {α : Type} (old : α) (sent : Option α) (new : α) : Prop :=
  sent = some new ∨ new = old

/-- Every stored field is replaced by what was sent or kept, and an index that is no slot
changes none. -/
structure KeepsOrReplaces (env : Env) (message : BoundedSetter)
    (before after : StoredFields) : Prop where
  longName : SentOrKept before.longName.toList message.sentLongName after.longName.toList
  shortName : SentOrKept before.shortName.toList message.sentShortName after.shortName.toList
  channelName : ∀ slot, SentOrKept (before.channelName slot)
    ((message.sentChannelName slot).map some) (after.channelName slot)
  positionBytes :
    SentOrKept before.positionBytes.toList (message.sentPosition env) after.positionBytes.toList
  slots : message.IsOutOfRange → ∀ slot, after.channels.get slot = before.channels.get slot

/-! ## When the setters keep or replace -/

/-- The channel with these settings may be stored: the index names a slot and the name fits
or takes no name away, or the index, cut to a byte, names none or the very same channel. -/
def ChannelFits (before : StoredFields) (channel : Channel) (settings : ChannelSettings) : Prop :=
  let slot := channel.index.toUInt32.toUInt8
  if 0 ≤ channel.index ∧ channel.index < 8 then
    settings.name.length ≤ 12 ∨ before.channelName slot = some []
  else
    MAX_CHANNELS ≤ slot.toNat ∨
      before.channels.get slot = some (Admin.channelOfSettings channel settings)

/-- The value fits its buffer, or the buffer has nothing to lose. -/
def Fits (env : Env) (before : StoredFields) : BoundedSetter → Prop
  | .setOwner user =>
      (user.longName.length ≤ 40 ∨ before.longName = Bounded.empty) ∧
        (user.shortName.length ≤ 5 ∨ before.shortName = Bounded.empty)
  | .setChannel channel =>
      ∀ settings, channel.settings = some settings →
        Admin.isValidPskLen settings.psk.length = true → ChannelFits before channel settings
  | .setFixedPosition position =>
      (env.prost.position.encode position).length ≤ 64 ∨ before.positionBytes = Bounded.empty
  | .phonePosition _ data _ _ => data.payload.length ≤ 64 ∨ before.positionBytes = Bounded.empty

section Fields

variable {cap : Nat} {old : Bounded UInt8 cap}

theorem sentOrKept_ofListOrEmpty_iff {value : Bytes} :
    SentOrKept old.toList (some value) (Bounded.ofListOrEmpty value : Bounded UInt8 cap).toList ↔
      value.length ≤ cap ∨ old = Bounded.empty := by
  rw [← Bounded.ofListOrEmpty_eq_or_iff]
  unfold SentOrKept
  rw [Option.some_inj, @eq_comm _ value]
  exact or_congr_right ⟨Bounded.ext, congrArg Bounded.toList⟩

theorem sentOrKept_replaceName_iff {name : Text} :
    SentOrKept old.toList (some name) (Admin.replaceName old name).toList ↔
      name.length ≤ cap ∨ old = Bounded.empty := by
  unfold Admin.replaceName
  split
  · rename_i hempty
    rw [List.isEmpty_iff] at hempty
    subst hempty
    exact iff_of_true (.inr rfl) (.inl (Nat.zero_le cap))
  · exact sentOrKept_ofListOrEmpty_iff

theorem sentOrKept_name_iff {old : Option Text} {name : Text} :
    SentOrKept old ((some name).map some)
        (some (Bounded.ofListOrEmpty name : Bounded UInt8 cap).toList) ↔
      name.length ≤ cap ∨ old = some [] := by
  by_cases hfits : name.length ≤ cap
  · refine iff_of_true (.inl ?_) (.inl hfits)
    rw [Bounded.toList_ofListOrEmpty_of_le hfits]
    rfl
  · have hne : some name ≠ some [] := by
      rintro ⟨⟩
      exact hfits (Nat.zero_le cap)
    rw [Bounded.toList_ofListOrEmpty, if_neg hfits, or_iff_right hfits]
    unfold SentOrKept
    rw [Option.map_some, Option.some_inj, or_iff_right hne, eq_comm]

end Fields

theorem slot_of_inRange {index : Int32} (h : 0 ≤ index ∧ index < 8) :
    index.toUInt32.toUInt8.toNat < MAX_CHANNELS ∧
      index.toUInt32.toUInt8.toUInt32.toInt32 = index := by
  have hsmall : ∀ n < 8, (Int32.ofNat n).toUInt32.toUInt8.toNat < MAX_CHANNELS ∧
      (Int32.ofNat n).toUInt32.toUInt8.toUInt32.toInt32 = Int32.ofNat n := by decide
  have hlow : 0 ≤ index.toInt := Int32.le_iff_toInt_le.mp h.1
  have hhigh : index.toInt < 8 := Int32.lt_iff_toInt_lt.mp h.2
  obtain ⟨n, hn⟩ := Int.eq_ofNat_of_zero_le hlow
  have hindex : index = Int32.ofNat n := by
    rw [← Int32.ofInt_toInt index, hn]
    exact Int32.ofInt_eq_ofNat
  rw [hindex]
  exact hsmall n (by omega)

section Channel

variable {before : StoredFields} {channel : Channel} {settings : ChannelSettings}
  {table : ChannelSet}

/-- A table in place of the old one: its names when the index is a slot, else all of it. -/
theorem keepsOrReplaces_table_iff :
    KeepsOrReplaces env (setChannel channel) before { before with channels := table } ↔
      if 0 ≤ channel.index ∧ channel.index < 8 then
        ∀ slot, SentOrKept (before.channelName slot)
          (((setChannel channel).sentChannelName slot).map some)
          ((table.get slot).map (·.name.toList))
      else ∀ slot, table.get slot = before.channels.get slot := by
  by_cases hrange : 0 ≤ channel.index ∧ channel.index < 8
  · rw [if_pos hrange]
    refine ⟨fun h => h.channelName, fun h => ?_⟩
    exact ⟨.inr rfl, .inr rfl, h, .inr rfl, fun hout => absurd hrange hout⟩
  · rw [if_neg hrange]
    refine ⟨fun h => h.slots hrange, fun h => ?_⟩
    refine ⟨.inr rfl, .inr rfl, fun slot => .inr ?_, .inr rfl, fun _ => h⟩
    exact congrArg (Option.map (·.name.toList)) (h slot)

/-- Assigning a slot the message names: its name is sent or kept when it fits or the slot had
an empty name. -/
theorem sentOrKept_set_iff (hrange : 0 ≤ channel.index ∧ channel.index < 8)
    (hsettings : channel.settings = some settings) :
    (∀ slot, SentOrKept (before.channelName slot)
      (((setChannel channel).sentChannelName slot).map some)
      (((before.channels.set channel.index.toUInt32.toUInt8
        (Admin.channelOfSettings channel settings)).get slot).map (·.name.toList))) ↔
      settings.name.length ≤ 12 ∨
        before.channelName channel.index.toUInt32.toUInt8 = some [] := by
  obtain ⟨hlt, hindex⟩ := slot_of_inRange hrange
  have hsent : (setChannel channel).sentChannelName channel.index.toUInt32.toUInt8 =
      some settings.name := by
    unfold sentChannelName
    dsimp only
    rw [if_pos hindex.symm, hsettings]
    rfl
  have hat : ((before.channels.set channel.index.toUInt32.toUInt8
      (Admin.channelOfSettings channel settings)).get channel.index.toUInt32.toUInt8).map
        (·.name.toList) =
      some (Bounded.ofListOrEmpty settings.name : Bounded UInt8 12).toList := by
    rw [ChannelSet.get_set, if_pos ⟨rfl, hlt⟩]
    rfl
  constructor
  · intro h
    have hslot := h channel.index.toUInt32.toUInt8
    rw [hsent, hat] at hslot
    exact sentOrKept_name_iff.mp hslot
  · intro h slot
    by_cases hsame : channel.index.toUInt32.toUInt8 = slot
    · subst hsame
      rw [hsent, hat]
      exact sentOrKept_name_iff.mpr h
    · rw [ChannelSet.get_set, if_neg (fun hslot => hsame hslot.1)]
      exact .inr rfl

theorem get_set_eq_iff {slot : UInt8} {config : ChannelConfig} :
    (∀ other, (table.set slot config).get other = table.get other) ↔
      MAX_CHANNELS ≤ slot.toNat ∨ table.get slot = some config := by
  constructor
  · intro h
    by_cases hlt : slot.toNat < MAX_CHANNELS
    · have hslot := h slot
      rw [ChannelSet.get_set, if_pos ⟨rfl, hlt⟩] at hslot
      exact .inr hslot.symm
    · exact .inl (Nat.le_of_not_lt hlt)
  · rintro (hle | hkept) other
    · rw [ChannelSet.set_of_le table hle]
    · rw [ChannelSet.get_set]
      split
      · rename_i hsame
        rw [← hsame.1, hkept]
      · rfl

theorem keepsOrReplaces_set_iff (hsettings : channel.settings = some settings) :
    KeepsOrReplaces env (setChannel channel) before
      { before with
        channels := before.channels.set channel.index.toUInt32.toUInt8
          (Admin.channelOfSettings channel settings) } ↔
      ChannelFits before channel settings := by
  rw [keepsOrReplaces_table_iff]
  unfold ChannelFits
  dsimp only
  split
  · rename_i hrange
    exact sentOrKept_set_iff hrange hsettings
  · exact get_set_eq_iff

end Channel

variable [MeshStorage S]

theorem keepsOrReplaces_setChannel_iff (env : Env) (ctx : MeshCtx S) (channel : Channel) :
    KeepsOrReplaces env (setChannel channel) ctx.stored
        (Admin.setChannel env ctx channel).stored ↔
      Fits env ctx.stored (setChannel channel) := by
  have hkept : KeepsOrReplaces env (setChannel channel) ctx.stored ctx.stored :=
    ⟨.inr rfl, .inr rfl, fun _ => .inr rfl, .inr rfl, fun _ _ => rfl⟩
  unfold Admin.setChannel Fits
  dsimp only
  cases hsettings : channel.settings with
  | none => exact iff_of_true hkept fun _ hnone => nomatch hnone
  | some settings =>
      dsimp only
      split
      · rename_i hpsk
        have hfits := @keepsOrReplaces_set_iff env ctx.stored channel settings hsettings
        refine hfits.trans ⟨fun h other hother _ => ?_, fun h => h settings rfl hpsk⟩
        cases hother
        exact h
      · rename_i hpsk
        refine iff_of_true hkept fun other hother hvalid => ?_
        cases hother
        exact absurd hvalid hpsk

/-- A setter keeps or replaces every stored field exactly when its value fits the buffer, or
the buffer was empty, and a channel index that is accepted names a slot. -/
theorem keepsOrReplaces_iff (env : Env) (ctx : MeshCtx S) (message : BoundedSetter) :
    KeepsOrReplaces env message ctx.stored (message.handle env ctx).stored ↔
      Fits env ctx.stored message := by
  cases message with
  | setOwner user =>
      have hlong := @sentOrKept_replaceName_iff 40 ctx.device.longName user.longName
      have hshort := @sentOrKept_replaceName_iff 5 ctx.device.shortName user.shortName
      refine ⟨fun h => ⟨hlong.mp h.longName, hshort.mp h.shortName⟩, fun h => ?_⟩
      exact ⟨hlong.mpr h.1, hshort.mpr h.2, fun _ => .inr rfl, .inr rfl, fun _ _ => rfl⟩
  | setFixedPosition position =>
      have hposition := @sentOrKept_ofListOrEmpty_iff 64 ctx.myPositionBytes
        (env.prost.position.encode position)
      refine ⟨fun h => hposition.mp h.positionBytes, fun h => ?_⟩
      exact ⟨.inr rfl, .inr rfl, fun _ => .inr rfl, hposition.mpr h, fun _ _ => rfl⟩
  | phonePosition pkt data hdecoded hport =>
      have hposition := @sentOrKept_ofListOrEmpty_iff 64 ctx.myPositionBytes data.payload
      unfold handle
      dsimp only
      rw [FromApp.stored_transmit_position ctx hdecoded hport]
      refine ⟨fun h => hposition.mp h.positionBytes, fun h => ?_⟩
      exact ⟨.inr rfl, .inr rfl, fun _ => .inr rfl, hposition.mpr h, fun _ _ => rfl⟩
  | setChannel channel => exact keepsOrReplaces_setChannel_iff env ctx channel

/-- An owner with a long name of one byte too many. -/
def longOwner : BoundedSetter := .setOwner { longName := List.replicate 41 0x61 }

/-- A channel for an index that is cut to slot 0. -/
def strayChannel : BoundedSetter := .setChannel { index := 256, settings := some {} }

/-- The long name is lost, and the primary channel is overwritten. -/
theorem longOwner_strayChannel_lose :
    ¬ KeepsOrReplaces KnownAnswers.defaultKey.env longOwner SettingsEvent.bootedCtx.stored
        (longOwner.handle KnownAnswers.defaultKey.env SettingsEvent.bootedCtx).stored ∧
      ¬ KeepsOrReplaces KnownAnswers.defaultKey.env strayChannel SettingsEvent.bootedCtx.stored
        (strayChannel.handle KnownAnswers.defaultKey.env SettingsEvent.bootedCtx).stored := by
  constructor
  · intro h
    rcases h.longName with hsent | hkept
    · exact absurd hsent (by decide +kernel)
    · exact absurd hkept (by decide +kernel)
  · intro h
    have hout : strayChannel.IsOutOfRange := by
      rintro ⟨-, hhigh⟩
      exact absurd hhigh (by decide)
    exact absurd (h.slots hout 0) (by decide +kernel)

end BoundedSetter

end Meshtastenstein
