import Meshtastenstein.ConfigRecord
/-!
# The channel table across a restart

The enabled channels are saved in slot order and loaded over a table that already holds the
default primary channel.  The table survives exactly when slot 0 is enabled.
-/

namespace Meshtastenstein

open Lib Proto

/-! ## Slots -/

namespace ChannelSet

variable {table : ChannelSet} {index : UInt8} {channel : ChannelConfig}

theorem lt_of_get_eq_some (h : table.get index = some channel) : index.toNat < MAX_CHANNELS := by
  by_contra hge
  rw [get_eq_none_of_le table (Nat.le_of_not_lt hge)] at h
  cases h

theorem get_set (table : ChannelSet) (index slot : UInt8) (channel : ChannelConfig) :
    (table.set index channel).get slot =
      if index = slot ∧ index.toNat < MAX_CHANNELS then some channel else table.get slot := by
  have hlength := table.length_eq
  unfold get ChannelSet.set
  dsimp only
  rw [List.getD_eq_getElem?_getD, List.getD_eq_getElem?_getD, List.getElem?_set]
  by_cases hsame : index = slot
  · subst hsame
    by_cases hlt : index.toNat < MAX_CHANNELS
    · rw [if_pos rfl, if_pos (hlength ▸ hlt), if_pos ⟨rfl, hlt⟩]
      rfl
    · rw [if_pos rfl, if_neg (hlength ▸ hlt), if_neg (fun h => hlt h.2),
        List.getElem?_eq_none (by omega)]
  · rw [if_neg (fun h => hsame (UInt8.toNat_inj.mp h)), if_neg (fun h => hsame h.1)]

theorem ext_get {s t : ChannelSet} (h : ∀ slot : UInt8, slot.toNat < MAX_CHANNELS →
    s.get slot = t.get slot) : s = t := by
  apply ChannelSet.ext
  apply List.ext_getElem
  · rw [s.length_eq, t.length_eq]
  · intro i hs ht
    have hlt : i < MAX_CHANNELS := s.length_eq ▸ hs
    have hindex : (UInt8.ofNat i).toNat = i :=
      UInt8.toNat_ofNat_of_lt' (Nat.lt_trans hlt (by decide))
    have hslot := h (UInt8.ofNat i) (by rw [hindex]; exact hlt)
    unfold get at hslot
    rwa [hindex, List.getD_eq_getElem?_getD, List.getD_eq_getElem?_getD,
      List.getElem?_eq_getElem hs, List.getElem?_eq_getElem ht] at hslot

theorem set_of_le (table : ChannelSet) {index : UInt8} (h : MAX_CHANNELS ≤ index.toNat)
    {channel : ChannelConfig} : table.set index channel = table := by
  apply ext_get
  intro slot hslot
  rw [get_set, if_neg (fun hsame => Nat.not_lt.mpr h hsame.2)]

theorem exists_get_of_mem_configured (h : channel ∈ table.configured) :
    ∃ slot, table.get slot = some channel := by
  obtain ⟨slot, hslot, hchannel⟩ := List.mem_filterMap.mp h
  obtain ⟨i, hi, hget⟩ := List.getElem_of_mem hslot
  have hlt : i < MAX_CHANNELS := table.length_eq ▸ hi
  refine ⟨UInt8.ofNat i, ?_⟩
  unfold get
  rw [UInt8.toNat_ofNat_of_lt' (Nat.lt_trans hlt (by decide)), List.getD_eq_getElem?_getD,
    List.getElem?_eq_getElem hi, hget]
  exact hchannel

structure WellFormed (table : ChannelSet) : Prop where
  index_eq : ∀ {index channel}, table.get index = some channel → channel.index = index
  isText : ∀ {index channel}, table.get index = some channel → isUtf8 channel.name.toList = true

theorem isUtf8_nil : isUtf8 [] = true := by decide +kernel

theorem get_new (slot : UInt8) :
    new.get slot = if slot = 0 then some ChannelConfig.defaultPrimary else none := by
  unfold get new
  by_cases hzero : slot = 0
  · subst hzero
    rfl
  · have hne : slot.toNat ≠ 0 := fun h => hzero (UInt8.toNat_inj.mp h)
    obtain ⟨i, hi⟩ := Nat.exists_eq_succ_of_ne_zero hne
    rw [if_neg hzero, hi, List.getD_cons_succ, List.getD_eq_getElem?_getD,
      List.getElem?_replicate]
    split <;> rfl

theorem wellFormed_new : new.WellFormed where
  index_eq := by
    intro index channel h
    rw [get_new] at h
    split at h
    · rename_i hzero
      cases h
      exact hzero.symm
    · cases h
  isText := by
    intro index channel h
    rw [get_new] at h
    split at h
    · cases h
      exact isUtf8_nil
    · cases h

theorem WellFormed.set (h : table.WellFormed) (hindex : channel.index = index)
    (htext : isUtf8 channel.name.toList = true) : (table.set index channel).WellFormed where
  index_eq := by
    intro slot found hget
    rw [get_set] at hget
    split at hget
    · rename_i hslot
      cases hget
      exact hindex.trans hslot.1
    · exact h.index_eq hget
  isText := by
    intro slot found hget
    rw [get_set] at hget
    split at hget
    · cases hget
      exact htext
    · exact h.isText hget

/-- The enabled channels in slot order. -/
def enabled (table : ChannelSet) : List ChannelConfig :=
  table.configured.filter (·.isEnabled)

theorem mem_enabled_iff (h : table.WellFormed) :
    channel ∈ table.enabled ↔
      table.get channel.index = some channel ∧ channel.isEnabled = true := by
  unfold enabled
  rw [List.mem_filter]
  refine and_congr_left fun _ => ⟨fun hmem => ?_, mem_configured_of_get⟩
  obtain ⟨slot, hslot⟩ := exists_get_of_mem_configured hmem
  rw [h.index_eq hslot]
  exact hslot

theorem primary_eq_find?_enabled (table : ChannelSet) :
    table.primary = table.enabled.find? fun c => c.role == .primary := by
  unfold primary enabled
  rw [List.find?_filter]
  congr 1
  funext c
  cases hrole : c.role with
  | primary => simp [ChannelConfig.isEnabled, hrole]
  | _ => simp

end ChannelSet

/-! ## Saving and loading -/

def ChannelConfig.saved (channel : ChannelConfig) : SavedChannel where
  index := channel.index
  role := channel.role.toI32.toInt8.toUInt8
  psk := channel.psk
  name := channel.name

theorem applySavedChannel_saved (table : ChannelSet) {channel : ChannelConfig}
    (henabled : channel.isEnabled = true) (htext : isUtf8 channel.name.toList = true) :
    applySavedChannel table channel.saved = table.set channel.index channel := by
  unfold applySavedChannel ChannelConfig.saved
  dsimp only
  rw [if_pos htext]
  cases hrole : channel.role with
  | disabled =>
      rw [ChannelConfig.isEnabled, hrole] at henabled
      cases henabled
  | primary =>
      rw [if_pos (by decide), ← hrole]
  | secondary =>
      rw [if_neg (by decide), if_pos (by decide), ← hrole]

namespace ChannelSet

variable {table : ChannelSet} {index : UInt8} {channel : ChannelConfig}

def setAll (table : ChannelSet) (channels : List ChannelConfig) : ChannelSet :=
  channels.foldl (fun table c => table.set c.index c) table

theorem get_setAll_of_forall_ne {channels : List ChannelConfig} {slot : UInt8}
    (h : ∀ c ∈ channels, c.index ≠ slot) (table : ChannelSet) :
    (table.setAll channels).get slot = table.get slot := by
  induction channels generalizing table with
  | nil => rfl
  | cons c channels ih =>
      have hrest := ih (fun c' hc' => h c' (List.mem_cons_of_mem c hc')) (table.set c.index c)
      have hne := h c List.mem_cons_self
      calc
        (table.setAll (c :: channels)).get slot = (table.set c.index c).get slot := hrest
        _ = table.get slot := by rw [get_set, if_neg (fun hsame => hne hsame.1)]

theorem get_setAll_of_mem {channels : List ChannelConfig} (hmem : channel ∈ channels)
    (hunique : ∀ c ∈ channels, c.index = channel.index → c = channel)
    (hlt : channel.index.toNat < MAX_CHANNELS) (table : ChannelSet) :
    (table.setAll channels).get channel.index = some channel := by
  induction channels generalizing table with
  | nil => cases hmem
  | cons c channels ih =>
      have hrest : ∀ c' ∈ channels, c'.index = channel.index → c' = channel :=
        fun c' hc' => hunique c' (List.mem_cons_of_mem c hc')
      by_cases hlater : channel ∈ channels
      · exact ih hlater hrest (table.set c.index c)
      · obtain rfl : channel = c := (List.mem_cons.mp hmem).resolve_right hlater
        have hne : ∀ c' ∈ channels, c'.index ≠ channel.index :=
          fun c' hc' hsame => hlater (hrest c' hc' hsame ▸ hc')
        calc
          (table.setAll (channel :: channels)).get channel.index =
              (table.set channel.index channel).get channel.index :=
            get_setAll_of_forall_ne hne _
          _ = some channel := by rw [get_set, if_pos ⟨rfl, hlt⟩]

def reloaded (table : ChannelSet) : ChannelSet := new.setAll table.enabled

/-- After a restart a slot holds its channel, if that is enabled, and else what a fresh table
has there. -/
theorem get_reloaded (h : table.WellFormed) (slot : UInt8) :
    table.reloaded.get slot =
      ((table.get slot).filter (·.isEnabled)).or (new.get slot) := by
  unfold reloaded
  have hnone : (table.get slot).filter (·.isEnabled) = none →
      (new.setAll table.enabled).get slot = new.get slot := by
    intro hfilter
    refine get_setAll_of_forall_ne ?_ new
    rintro c hc rfl
    obtain ⟨hget, henabled⟩ := (mem_enabled_iff h).mp hc
    rw [hget, Option.filter_some, if_pos henabled] at hfilter
    cases hfilter
  cases hfound : (table.get slot).filter (·.isEnabled) with
  | none => rw [hnone hfound, Option.none_or]
  | some channel =>
      obtain ⟨hget, henabled⟩ := Option.filter_eq_some_iff.mp hfound
      have hindex := h.index_eq hget
      subst hindex
      have hunique : ∀ c ∈ table.enabled, c.index = channel.index → c = channel := by
        intro c hc hsame
        have hc' := ((mem_enabled_iff h).mp hc).1
        rw [hsame, hget] at hc'
        exact (Option.some.inj hc').symm
      rw [Option.some_or]
      exact get_setAll_of_mem ((mem_enabled_iff h).mpr ⟨hget, henabled⟩) hunique
        (lt_of_get_eq_some hget) new

theorem WellFormed.reloaded (h : table.WellFormed) : table.reloaded.WellFormed := by
  have hfound : ∀ {index channel}, table.reloaded.get index = some channel →
      table.get index = some channel ∨ new.get index = some channel := by
    intro index channel hget
    rw [get_reloaded h, Option.or_eq_some_iff] at hget
    rcases hget with hkept | ⟨-, hnew⟩
    · exact Or.inl (Option.filter_eq_some_iff.mp hkept).1
    · exact Or.inr hnew
  constructor
  · intro index channel hget
    exact (hfound hget).elim h.index_eq wellFormed_new.index_eq
  · intro index channel hget
    exact (hfound hget).elim h.isText wellFormed_new.isText

theorem enabled_congr {s t : ChannelSet} (h : ∀ slot,
    (s.get slot).filter (·.isEnabled) = (t.get slot).filter (·.isEnabled)) :
    s.enabled = t.enabled := by
  have hslots : ∀ table : ChannelSet, table.enabled =
      (table.channels.map (·.filter (·.isEnabled))).filterMap id := by
    intro table
    unfold enabled configured
    rw [List.filterMap_map, List.filter_filterMap]
    rfl
  have hget : ∀ (table : ChannelSet) (i : Nat) (hi : i < table.channels.length),
      table.channels[i] = table.get (UInt8.ofNat i) := by
    intro table i hi
    have hlt : i < MAX_CHANNELS := table.length_eq ▸ hi
    unfold get
    rw [UInt8.toNat_ofNat_of_lt' (Nat.lt_trans hlt (by decide)), List.getD_eq_getElem?_getD,
      List.getElem?_eq_getElem hi, Option.getD_some]
  rw [hslots, hslots]
  congr 1
  apply List.ext_getElem
  · rw [List.length_map, List.length_map, s.length_eq, t.length_eq]
  · intro i hs ht
    rw [List.getElem_map, List.getElem_map, hget, hget]
    exact h _

structure Agrees (table other : ChannelSet) : Prop where
  enabled_eq : other.enabled = table.enabled
  primary_eq : other.primary = table.primary

def IsEnabledAt (table : ChannelSet) (slot : UInt8) : Prop :=
  ∃ channel, table.get slot = some channel ∧ channel.isEnabled = true

theorem agrees_reloaded_iff (h : table.WellFormed) :
    table.Agrees table.reloaded ↔ table.IsEnabledAt 0 := by
  constructor
  · intro hagrees
    -- a fresh table has the default primary there
    by_contra hdisabled
    have hfilter : (table.get 0).filter (·.isEnabled) = none := by
      rw [Option.filter_eq_none_iff]
      exact fun channel hslot henabled => hdisabled ⟨channel, hslot, henabled⟩
    have hdefault : table.reloaded.get 0 = some ChannelConfig.defaultPrimary := by
      rw [get_reloaded h, hfilter, Option.none_or, get_new, if_pos rfl]
    have hmem : ChannelConfig.defaultPrimary ∈ table.reloaded.enabled :=
      (mem_enabled_iff h.reloaded).mpr ⟨hdefault, rfl⟩
    rw [hagrees.enabled_eq] at hmem
    obtain ⟨hget, henabled⟩ := (mem_enabled_iff h).mp hmem
    exact hdisabled ⟨_, hget, henabled⟩
  · rintro ⟨channel, hchannel, henabled⟩
    have hslots : ∀ slot, (table.reloaded.get slot).filter (·.isEnabled) =
        (table.get slot).filter (·.isEnabled) := by
      intro slot
      rw [get_reloaded h, get_new]
      by_cases hzero : slot = 0
      · subst hzero
        rw [hchannel, Option.filter_some, if_pos henabled, Option.some_or, Option.filter_some,
          if_pos henabled]
      · rw [if_neg hzero, Option.or_none, Option.filter_filter]
        simp
    have hsame := enabled_congr hslots
    exact ⟨hsame, by rw [primary_eq_find?_enabled, primary_eq_find?_enabled, hsame]⟩

end ChannelSet

/-! ## The device -/

namespace DeviceState

/-- The device after its settings were saved and a restart loaded them. -/
def reload (env : Env) (device : DeviceState) : DeviceState :=
  match decodeConfig (encodeConfig (savedConfigFromDevice env device)) with
  | some saved => applySavedConfig env saved (DeviceState.new device.mac)
  | none => DeviceState.new device.mac

theorem reload_eq (env : Env) (device : DeviceState) :
    device.reload env =
      applySavedConfig env (savedConfigFromDevice env device).reread
        (DeviceState.new device.mac) := by
  unfold reload
  rw [decodeConfig_encodeConfig]

theorem channels_reload (env : Env) {device : DeviceState} (h : device.channels.WellFormed) :
    (device.reload env).channels = device.channels.reloaded := by
  have hload : ∀ (channels : List ChannelConfig) (table : ChannelSet),
      (∀ c ∈ channels, c.isEnabled = true ∧ isUtf8 c.name.toList = true) →
        (channels.map ChannelConfig.saved).foldl applySavedChannel table =
          table.setAll channels := by
    intro channels
    induction channels with
    | nil => exact fun _ _ => rfl
    | cons c channels ih =>
        intro table hchannels
        obtain ⟨henabled, htext⟩ := hchannels c List.mem_cons_self
        have hrest := ih (table.set c.index c) fun c' hc' =>
          hchannels c' (List.mem_cons_of_mem c hc')
        rw [List.map_cons, List.foldl_cons, applySavedChannel_saved table henabled htext]
        exact hrest
  rw [reload_eq]
  refine hload device.channels.enabled ChannelSet.new ?_
  intro c hc
  obtain ⟨hget, henabled⟩ := (ChannelSet.mem_enabled_iff h).mp hc
  exact ⟨henabled, h.isText hget⟩

end DeviceState

end Meshtastenstein
