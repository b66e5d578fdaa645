import Meshtastenstein.NodeDbEntries
import Meshtastenstein.NodeRecord
/-!
# Snapshots there and back

Where all entries fit in a snapshot, the database that it is restored into has what the records
give back of them, whatever order they were written in.
-/

namespace Meshtastenstein

open Lib Lib.Bytes Proto Handlers

namespace NodeDb

/-! ## Entries by number -/

theorem find?_number_eq_some_iff {entries : List NodeEntry} {entry : NodeEntry} {num : UInt32}
    (h : (entries.map (·.nodeNum)).Nodup) :
    entries.find? (fun n => n.nodeNum == num) = some entry ↔
      entry ∈ entries ∧ entry.nodeNum = num := by
  constructor
  · intro hfind
    exact ⟨List.mem_of_find?_eq_some hfind, by simpa using List.find?_some hfind⟩
  · rintro ⟨hmem, rfl⟩
    cases hfind : entries.find? (fun n => n.nodeNum == entry.nodeNum) with
    | none =>
        have hne := List.find?_eq_none.mp hfind entry hmem
        exact absurd (beq_self_eq_true _) hne
    | some found =>
        have hsame : found.nodeNum = entry.nodeNum := by simpa using List.find?_some hfind
        exact congrArg some
          (List.inj_on_of_nodup_map h (List.mem_of_find?_eq_some hfind) hmem hsame)

theorem find?_number_of_perm {entries entries' : List NodeEntry} (hperm : entries.Perm entries')
    (h : (entries.map (·.nodeNum)).Nodup) (num : UInt32) :
    entries.find? (fun n => n.nodeNum == num) = entries'.find? (fun n => n.nodeNum == num) := by
  have h' : (entries'.map (·.nodeNum)).Nodup := (hperm.map _).nodup_iff.mp h
  apply Option.ext
  intro entry
  rw [find?_number_eq_some_iff h, find?_number_eq_some_iff h', hperm.mem_iff]

/-! ## Restoring what was written -/

/-- Restored into an empty database of the same node, every other node has what its record
gives back. -/
theorem get_restored {db : NodeDb} (h : db.WellFormed db.ourNodeNum)
    (hlen : db.len ≤ MAX_PERSISTED_NODES) {num : UInt32} (hnum : num ≠ db.ourNodeNum) :
    ((new db.ourNodeNum).restoreSnapshot db.toSnapshot).1.get num =
      (db.get num).map NodeEntry.reread := by
  have hperm := perm_persisted hlen
  have hnodup : (db.persisted.map (·.nodeNum)).Nodup :=
    (hperm.map _).nodup_iff.mpr h.nodup
  have hentries : ∀ entry ∈ db.persisted,
      ¬ (entry.nodeNum = 0 ∨ entry.nodeNum = BROADCAST_ADDR) :=
    fun entry hentry => h.unreserved _ (List.mem_map_of_mem (hperm.mem_iff.mp hentry))
  have hread := filterMap_decodeRecord hentries
  have hnumbers : ((db.persisted.map NodeEntry.reread).map (·.nodeNum)).Nodup := by
    rw [List.map_map]
    exact hnodup
  have hroom : (Bounded.empty : Bounded NodeEntry MAX_NODES).length +
      (db.persisted.map encodeRecord).length ≤ MAX_NODES := by
    have hle := db.length_persisted_le
    unfold MAX_PERSISTED_NODES at hle
    rw [List.length_map]
    change 0 + db.persisted.length ≤ 96
    omega
  have hrestored := @toList_restoreRecords db.ourNodeNum _ Bounded.empty
    (by rw [hread]; exact hnumbers) hroom
  rw [hread, List.filter_map] at hrestored
  have hfilter : ∀ n : NodeEntry, (n.nodeNum == num) = true →
      (n.nodeNum != db.ourNodeNum) = true := by
    intro n hn
    rw [beq_iff_eq.mp hn]
    simpa using hnum
  unfold get
  rw [restoreSnapshot_toSnapshot]
  calc
    _ = ((db.persisted.filter fun n => n.nodeNum != db.ourNodeNum).map NodeEntry.reread).find?
          fun n => n.nodeNum == num := congrArg (List.find? _) hrestored
    _ = ((db.persisted.filter fun n => n.nodeNum != db.ourNodeNum).find?
          fun n : NodeEntry => n.nodeNum == num).map NodeEntry.reread := List.find?_map
    _ = (db.persisted.find? fun n => n.nodeNum == num).map NodeEntry.reread := by
      rw [find?_filter_of_imp hfilter]
    _ = (db.nodes.toList.find? fun n => n.nodeNum == num).map NodeEntry.reread := by
      rw [find?_number_of_perm hperm hnodup]

/-- Every other node of the database is kept by a snapshot, and no node is added. -/
def SurvivesSnapshot (db : NodeDb) : Prop :=
  ∀ num, num ≠ db.ourNodeNum → Option.Rel NodeEntry.Keeps (db.get num)
    (((new db.ourNodeNum).restoreSnapshot db.toSnapshot).1.get num)

def FitsRecords (db : NodeDb) : Prop :=
  ∀ entry ∈ db.nodes.toList, entry.nodeNum ≠ db.ourNodeNum →
    ∀ user, entry.user = some user → user.FitsRecord

instance (db : NodeDb) : Decidable db.FitsRecords :=
  inferInstanceAs (Decidable (∀ entry ∈ db.nodes.toList, entry.nodeNum ≠ db.ourNodeNum →
    ∀ user ∈ entry.user, user.FitsRecord))

theorem survivesSnapshot_iff {db : NodeDb} (h : db.WellFormed db.ourNodeNum)
    (hsound : ∀ entry ∈ db.nodes.toList, entry.Sound) (hlen : db.len ≤ MAX_PERSISTED_NODES) :
    db.SurvivesSnapshot ↔ db.FitsRecords := by
  constructor
  · intro hsurvives entry hentry hother
    have hget : db.get entry.nodeNum = some entry :=
      (find?_number_eq_some_iff h.nodup).mpr ⟨hentry, rfl⟩
    have hkept := hsurvives entry.nodeNum hother
    rw [get_restored h hlen hother, hget] at hkept
    cases hkept with
    | some hkept => exact (NodeEntry.keeps_reread_iff (hsound entry hentry)).mp hkept
  · intro hfits num hother
    rw [get_restored h hlen hother]
    cases hget : db.get num with
    | none => exact Option.Rel.none
    | some entry =>
        obtain ⟨hentry, rfl⟩ := (find?_number_eq_some_iff h.nodup).mp hget
        refine Option.Rel.some ((NodeEntry.keeps_reread_iff (hsound entry hentry)).mpr ?_)
        exact hfits entry hentry hother

end NodeDb

/-! ## What the handlers store -/

theorem sound_decodeRecord {record : Bytes} {entry : NodeEntry}
    (h : decodeRecord record = some entry) : entry.Sound := by
  have hname : ∀ name : Text, isUtf8 (if isUtf8 name then name else []) = true := by
    intro name
    split
    · assumption
    · exact isUtf8_iff_exists.mpr ⟨[], rfl⟩
  unfold decodeRecord at h
  dsimp only at h
  split at h
  · cases h
  · cases h
    refine ⟨fun key hkey => ?_, fun user huser => ?_⟩
    · exact (Option.filter_eq_some_iff.mp hkey).2
    · dsimp only at huser
      split at huser
      · cases huser
        exact ⟨hname _, hname _⟩
      · cases huser

def NodeDbEdit.StoresText : NodeDbEdit → Prop
  | .user _ usr => usr.IsText
  | .contact _ usr => usr.IsText
  | _ => True

namespace NodeDb

theorem sound_new (nodeNum : UInt32) : NodeEntry.Sound { nodeNum := nodeNum } :=
  ⟨fun _ hkey => (nomatch hkey), fun _ huser => (nomatch huser)⟩

theorem sound_withKey {entry : NodeEntry} (h : entry.Sound) {key : Key} (hkey : key.isSet = true) :
    NodeEntry.Sound { entry with pubKey := some key } := by
  refine ⟨fun stored hstored => ?_, h.named⟩
  cases hstored
  exact hkey

theorem sound_withUser {entry : NodeEntry} (h : entry.Sound) {user : User} (htext : user.IsText) :
    NodeEntry.Sound { entry with user := some user } := by
  refine ⟨h.keyed, fun stored hstored => ?_⟩
  cases hstored
  exact htext

theorem sound_ignored {entry : NodeEntry} (h : entry.Sound) (ignored : Bool) :
    NodeEntry.Sound
      { entry with
        isIgnored := ignored
        position := if ignored then none else entry.position
        pubKey := if ignored then none else entry.pubKey } := by
  refine ⟨fun key hkey => ?_, h.named⟩
  dsimp only at hkey
  split at hkey
  · cases hkey
  · exact h.keyed key hkey

theorem sound_edit {db : NodeDb} (h : db.Forall NodeEntry.Sound) {edit : NodeDbEdit}
    (htext : edit.StoresText) : (edit.apply db).Forall NodeEntry.Sound := by
  have hsame : ∀ f : NodeEntry → NodeEntry,
      (∀ entry, (f entry).user = entry.user ∧ (f entry).pubKey = entry.pubKey) →
      ∀ entry : NodeEntry, entry.Sound → (f entry).Sound := by
    intro f hf entry hentry
    refine ⟨fun key hkey => ?_, fun user huser => ?_⟩
    · rw [(hf entry).2] at hkey
      exact hentry.keyed key hkey
    · rw [(hf entry).1] at huser
      exact hentry.named user huser
  cases edit with
  | touch nodeNum time snr nowMs =>
      exact h.touch time snr nowMs (fun _ => sound_new nodeNum)
        fun entry hentry => ⟨hentry.keyed, hentry.named⟩
  | hopsAway nodeNum hops => exact h.modify nodeNum (hsame _ fun _ => ⟨rfl, rfl⟩)
  | position nodeNum pos =>
      exact h.upsert (fun _ => sound_new nodeNum) (hsame _ fun _ => ⟨rfl, rfl⟩)
  | user nodeNum usr =>
      exact h.storeUser (fun _ => sound_new nodeNum)
        (fun _ hkey _ hentry => sound_withKey hentry hkey)
        fun _ hentry => sound_withUser hentry htext
  | deviceMetrics nodeNum metrics =>
      exact h.upsert (fun _ => sound_new nodeNum) (hsame _ fun _ => ⟨rfl, rfl⟩)
  | learnRoute sender relayNode =>
      change Forall NodeEntry.Sound (if learnedHop sender relayNode = NO_NEXT_HOP then db
        else db.upsert sender fun entry => { entry with nextHop := learnedHop sender relayNode })
      split
      · exact h
      · exact h.upsert (fun _ => sound_new sender) (hsame _ fun _ => ⟨rfl, rfl⟩)
  | clearRoute dest => exact h.modify dest (hsame _ fun _ => ⟨rfl, rfl⟩)
  | favorite nodeNum fav => exact h.setFavorite nodeNum (hsame _ fun _ => ⟨rfl, rfl⟩)
  | ignored nodeNum ign => exact h.setIgnored nodeNum fun _ hentry => sound_ignored hentry ign
  | toggleMuted nodeNum => exact h.toggleMuted nodeNum (hsame _ fun _ => ⟨rfl, rfl⟩)
  | contact shared usr =>
      exact h.addContactToDb (fun _ => sound_new shared.nodeNum)
        (fun _ hentry => sound_withUser hentry htext)
        (fun _ hkey _ hentry => sound_withKey hentry hkey)
        (fun _ _ hentry => ⟨hentry.keyed, hentry.named⟩)
        fun _ hentry => sound_ignored hentry true
  | remove nodeNum => exact h.remove nodeNum
  | reset ourNodeNum => exact forall_new ourNodeNum

end NodeDb

/-! ## Whole runs -/

structure DecodesNames (env : Env) : Prop where
  user : ∀ bytes user, env.prost.user.decode bytes = some user → user.IsText
  contact : ∀ bytes message contact user, env.prost.adminMessage.decode bytes = some message →
    message.payloadVariant = some (.addContact contact) → contact.user = some user → user.IsText

namespace Handlers

variable {S : Type} {env : Env}

theorem storesText_admin (hnames : DecodesNames env) {ctx : MeshCtx S} {bytes : Bytes}
    {viaLora : Bool} {edit : NodeDbEdit} (h : edit ∈ Admin.edits env ctx bytes viaLora) :
    edit.StoresText := by
  unfold Admin.edits at h
  cases hcommand : Admin.command env ctx bytes viaLora with
  | none =>
      rw [hcommand] at h
      cases h
  | some variant =>
      rw [hcommand] at h
      change edit ∈ Admin.variantEdits ctx.device.myNodeNum variant at h
      unfold Admin.command at hcommand
      obtain ⟨message, hdecode, hvariant⟩ := Option.bind_eq_some_iff.mp hcommand
      split at hvariant
      · cases variant with
        | addContact contact =>
            unfold Admin.variantEdits at h
            obtain ⟨user, huser, rfl⟩ := Option.map_eq_some_iff.mp (Option.mem_toList.mp h)
            exact hnames.contact bytes message contact user hdecode hvariant huser
        | setFavoriteNode _ =>
            rw [List.mem_singleton.mp h]
            trivial
        | removeFavoriteNode _ =>
            rw [List.mem_singleton.mp h]
            trivial
        | setIgnoredNode _ =>
            rw [List.mem_singleton.mp h]
            trivial
        | removeIgnoredNode _ =>
            rw [List.mem_singleton.mp h]
            trivial
        | toggleMutedNode _ =>
            rw [List.mem_singleton.mp h]
            trivial
        | nodedbReset _ =>
            rw [List.mem_singleton.mp h]
            trivial
        | removeByNodenum _ =>
            rw [List.mem_singleton.mp h]
            trivial
        | _ => cases h
      · cases hvariant

theorem storesText_portnum (hnames : DecodesNames env) {ctx : MeshCtx S} {portnum : Int32}
    {pkt : FromRadio.InboundPacket} {edit : NodeDbEdit}
    (h : edit ∈ FromRadio.portnumEdits env ctx portnum pkt) : edit.StoresText := by
  unfold FromRadio.portnumEdits at h
  split at h
  · obtain ⟨pos, -, rfl⟩ := Option.map_eq_some_iff.mp (Option.mem_toList.mp h)
    trivial
  · obtain ⟨user, huser, rfl⟩ := Option.map_eq_some_iff.mp (Option.mem_toList.mp h)
    exact hnames.user _ user huser
  · split at h
    · split at h
      · rw [List.mem_singleton.mp h]
        trivial
      · cases h
    · cases h
  · split at h
    · rw [List.mem_singleton.mp h]
      trivial
    · cases h
  · split at h
    · obtain ⟨nb, -, rfl⟩ := List.mem_map.mp h
      trivial
    · cases h
  · split at h
    · exact storesText_admin hnames h
    · cases h
  · cases h

end Handlers

namespace MeshState

variable {S : Type} {env : Env}

theorem storesText_edits (hnames : DecodesNames env) (state : MeshState S) (event : Event) :
    ∀ edit ∈ edits env state event, edit.StoresText := by
  intro edit hedit
  rcases edits_cases hedit with
    ⟨frame, metadata, header, decoded, -, -, ctx, hpacket⟩ | ⟨ctx, bytes, viaLora, hadmin⟩ |
      ⟨dest, rfl⟩
  · rcases List.mem_append.mp hpacket with hnote | hport
    · rcases List.mem_cons.mp hnote with rfl | hnote
      · trivial
      · rw [List.mem_singleton.mp hnote]
        trivial
    · exact storesText_portnum hnames hport
  · exact storesText_admin hnames hadmin
  · trivial

variable [MeshStorage S]

theorem forall_sound (hloads : LoadsSnapshots S) (hnames : DecodesNames env) (mac : Bytes)
    (storage : S) (pkcKeypair : Key × Key) (entropy : Nat → UInt32) (events : List Event) :
    (after env mac storage pkcKeypair entropy events).ctx.nodeDb.Forall NodeEntry.Sound :=
  forall_nodeDb hloads (fun _ _ hread => sound_decodeRecord hread)
    (fun state event edit hedit _ hdb =>
      NodeDb.sound_edit hdb (storesText_edits hnames state event edit hedit))
    mac storage pkcKeypair entropy events

/-- In every reachable state a database that fits in a snapshot survives it exactly when the
users of the other nodes fit their records. -/
theorem nodeDb_survives_iff (hloads : LoadsSnapshots S) (hnames : DecodesNames env) (mac : Bytes)
    (storage : S) (pkcKeypair : Key × Key) (entropy : Nat → UInt32) (events : List Event) :
    let db := (after env mac storage pkcKeypair entropy events).ctx.nodeDb
    db.len ≤ 42 → (db.SurvivesSnapshot ↔ db.FitsRecords) := by
  intro db hlen
  have hwellFormed : db.WellFormed db.ourNodeNum :=
    wellFormed_nodeDb hloads mac storage pkcKeypair entropy events
  have hsound : db.Forall NodeEntry.Sound :=
    forall_sound hloads hnames mac storage pkcKeypair entropy events
  exact NodeDb.survivesSnapshot_iff hwellFormed hsound hlen

def textUserCodec : Codec User where
  encode := Wire.userCodec.encode
  decode bytes := (Wire.userCodec.decode bytes).filter fun user =>
    isUtf8 user.id && isUtf8 user.longName && isUtf8 user.shortName

def textEnv : Env :=
  { KnownAnswers.defaultKey.env with
    prost := { KnownAnswers.prost with user := textUserCodec } }

theorem decodesNames_textEnv : DecodesNames textEnv where
  user bytes user hdecode := by
    have htext := (Option.filter_eq_some_iff.mp hdecode).2
    rw [Bool.and_eq_true, Bool.and_eq_true] at htext
    exact ⟨htext.1.2, htext.2⟩
  contact _ _ _ _ hdecode := nomatch hdecode

/-- Node `0x11223344` tells its short name, `ab`. -/
def namedFrame : RadioFrame where
  bytes :=
    [0x56, 0x34, 0x12, 0x28, 0x44, 0x33, 0x22, 0x11, 0x09, 0x00, 0x00, 0x00, 0x63, 0x08, 0x00,
     0x44, 0x66, 0x02, 0x3c, 0x1a, 0xc2, 0x01, 0x67, 0x76]
  length_le := by simp [MAX_LORA_PAYLOAD_LEN]

/-- The same with `ab🐸`, six bytes of which the last four are one character. -/
def frogFrame : RadioFrame where
  bytes :=
    [0x56, 0x34, 0x12, 0x28, 0x44, 0x33, 0x22, 0x11, 0x09, 0x00, 0x00, 0x00, 0x63, 0x08, 0x00,
     0x44, 0x66, 0x02, 0x3c, 0x16, 0xc2, 0x05, 0x67, 0x76, 0x03, 0x64, 0x0b, 0xaa]
  length_le := by simp [MAX_LORA_PAYLOAD_LEN]

/-- The database after one frame. -/
def heardDb (frame : RadioFrame) : NodeDb :=
  (after textEnv KnownAnswers.mac ({} : FakeStorage) KnownAnswers.noKeypair KnownAnswers.noEntropy
    [.announce, .mesh (.loraRx frame ⟨0, 0⟩)]).ctx.nodeDb

/-- A name that fits survives. -/
theorem namedFrame_survives :
    (heardDb namedFrame).len = 1 ∧ (heardDb namedFrame).SurvivesSnapshot :=
  ⟨by decide +kernel, (nodeDb_survives_iff loadsSnapshots_fake decodesNames_textEnv
    KnownAnswers.mac {} KnownAnswers.noKeypair KnownAnswers.noEntropy
    [.announce, .mesh (.loraRx namedFrame ⟨0, 0⟩)] (by decide +kernel)).mpr (by decide +kernel)⟩

/-- The frog is cut in two, and the whole name is lost. -/
theorem frogFrame_lost :
    let db := heardDb frogFrame
    let restored := ((NodeDb.new db.ourNodeNum).restoreSnapshot db.toSnapshot).1
    (db.get 0x11223344).map (·.user.map (·.shortName)) =
        some (some [0x61, 0x62, 0xf0, 0x9f, 0x90, 0xb8]) ∧
      (restored.get 0x11223344).map (·.user.map (·.shortName)) = some (some []) ∧
      db.len ≤ 42 ∧ ¬ db.SurvivesSnapshot := by
  intro db restored
  refine ⟨by decide +kernel, by decide +kernel, by decide +kernel, fun hsurvives => ?_⟩
  have hwellFormed : db.WellFormed db.ourNodeNum := wellFormed_nodeDb loadsSnapshots_fake _ _ _ _ _
  have hsound : db.Forall NodeEntry.Sound :=
    forall_sound loadsSnapshots_fake decodesNames_textEnv _ _ _ _ _
  have hfits : db.FitsRecords :=
    (NodeDb.survivesSnapshot_iff hwellFormed hsound (by decide +kernel)).mp hsurvives
  exact absurd hfits (by decide +kernel)

end MeshState

end Meshtastenstein
