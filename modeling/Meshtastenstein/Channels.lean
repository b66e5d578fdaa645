import Meshtastenstein.Constants
import Meshtastenstein.Lib.Bounded
/-!
# Channels

The eight channel slots, the hash a frame names its channel by and the key a
channel encrypts with.
-/

namespace Meshtastenstein

open Lib Proto

structure ChannelConfig where
  index : UInt8
  /-- Empty for the default name. -/
  name : Bounded UInt8 12
  psk : Bounded UInt8 32
  role : ChannelRole
deriving DecidableEq

namespace ChannelConfig

def defaultPrimary : ChannelConfig where
  index := 0
  name := Bounded.empty
  psk := Bounded.empty.pushOrDrop 0x01
  role := .primary

def effectivePsk (channel : ChannelConfig) : Bytes :=
  if channel.psk.toList = [0x01] then DEFAULT_PSK else channel.psk.toList

def effectiveName (channel : ChannelConfig) (presetName : Text) : Text :=
  if channel.name.toList.isEmpty then presetName else channel.name.toList

def hash (channel : ChannelConfig) (presetName : Text) : UInt8 :=
  (channel.effectiveName presetName ++ channel.effectivePsk).foldl (· ^^^ ·) 0

def isEncrypted (channel : ChannelConfig) : Bool := !channel.psk.toList.isEmpty

def isEnabled (channel : ChannelConfig) : Bool := channel.role != .disabled

/-- The effective key is empty exactly when the stored one is. -/
theorem effectivePsk_eq_nil_iff (channel : ChannelConfig) :
    channel.effectivePsk = [] ↔ channel.isEncrypted = false := by
  unfold effectivePsk isEncrypted
  split
  · rename_i h
    rw [h]
    simp [DEFAULT_PSK]
  · simp

theorem length_effectivePsk_le (channel : ChannelConfig) :
    channel.effectivePsk.length ≤ 32 := by
  unfold effectivePsk
  split
  · decide
  · exact channel.psk.length_le

end ChannelConfig

/-- The eight slots, each empty or configured. -/
structure ChannelSet where
  channels : List (Option ChannelConfig)
  length_eq : channels.length = MAX_CHANNELS

namespace ChannelSet

@[ext] theorem ext {s t : ChannelSet} (h : s.channels = t.channels) : s = t := by
  cases s
  cases t
  simp_all

def new : ChannelSet where
  channels := some ChannelConfig.defaultPrimary :: List.replicate 7 none
  length_eq := rfl

def get (set : ChannelSet) (index : UInt8) : Option ChannelConfig :=
  set.channels.getD index.toNat none

/-- Fill a slot; an index outside the table changes nothing. -/
def set (set : ChannelSet) (index : UInt8) (config : ChannelConfig) : ChannelSet where
  channels := set.channels.set index.toNat (some config)
  length_eq := by simpa using set.length_eq

def configured (set : ChannelSet) : List ChannelConfig :=
  set.channels.filterMap id

def findByHash (set : ChannelSet) (hash : UInt8) (presetName : Text) :
    Option ChannelConfig :=
  set.configured.find? fun c => c.isEnabled && c.hash presetName == hash

def primary (set : ChannelSet) : Option ChannelConfig :=
  set.configured.find? fun c => c.role == .primary

theorem get_eq_none_of_le (set : ChannelSet) {index : UInt8}
    (h : MAX_CHANNELS ≤ index.toNat) : set.get index = none := by
  unfold get
  rw [List.getD_eq_getElem?_getD, List.getElem?_eq_none (by rw [set.length_eq]; exact h)]
  rfl

theorem mem_configured_of_get {set : ChannelSet} {index : UInt8}
    {channel : ChannelConfig} (h : set.get index = some channel) :
    channel ∈ set.configured := by
  unfold get at h
  rw [List.getD_eq_getElem?_getD] at h
  cases hslot : set.channels[index.toNat]? with
  | none =>
      rw [hslot] at h
      cases h
  | some slot =>
      rw [hslot] at h
      cases h
      exact List.mem_filterMap.mpr ⟨_, List.mem_of_getElem? hslot, rfl⟩

theorem findByHash_spec {set : ChannelSet} {hash : UInt8} {presetName : Text}
    {channel : ChannelConfig} (h : set.findByHash hash presetName = some channel) :
    channel ∈ set.configured ∧ channel.isEnabled = true ∧
      channel.hash presetName = hash := by
  have hfound := List.find?_some h
  simp only [Bool.and_eq_true, beq_iff_eq] at hfound
  exact ⟨List.mem_of_find?_eq_some h, hfound⟩

end ChannelSet

example : ChannelConfig.defaultPrimary.hash (utf8 "LongFast") = 8 := by decide

end Meshtastenstein
