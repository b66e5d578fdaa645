import Meshtastenstein.HeardNotes
import Meshtastenstein.OnlineCount
import Meshtastenstein.PhoneWire
/-!
# What the node database keeps

A full database makes room by dropping the nodes that went stale.  But nobody tells it the time, so
that nothing is ever stale: a node that is known is forgotten on command only, and so are its
public key and its favorite mark.
-/

namespace Meshtastenstein

open Lib Proto Handlers

/-! ## Entries that stay -/

/-- The entry has a public key, if it is one that should, and the favorite mark likewise. -/
structure NodeEntry.Retained (key favorite : Bool) (entry : NodeEntry) : Prop where
  pubKey : key = true → entry.pubKey.isSome = true
  isFavorite : favorite = true → entry.isFavorite = true

/-- The edit takes the entry of the node away, or its public key or favorite mark if it should
have one. -/
def NodeDbEdit.Takes (nodeNum : UInt32) (key favorite : Bool) : NodeDbEdit → Prop
  | .remove removed => removed = nodeNum
  | .reset _ => True
  | .favorite marked mark => marked = nodeNum ∧ mark = false ∧ favorite = true
  | .ignored marked mark => marked = nodeNum ∧ mark = true ∧ key = true
  | .contact shared _ => shared.nodeNum = nodeNum ∧ shared.shouldIgnore = true ∧
      (key = true ∨ favorite = true)
  | _ => False

instance (nodeNum : UInt32) (key favorite : Bool) :
    (edit : NodeDbEdit) → Decidable (edit.Takes nodeNum key favorite)
  | .remove _ => inferInstanceAs (Decidable (_ = _))
  | .reset _ => .isTrue trivial
  | .favorite _ _ | .ignored _ _ | .contact _ _ => inferInstanceAs (Decidable (_ ∧ _ ∧ _))
  | .touch _ _ _ _ | .hopsAway _ _ | .position _ _ | .user _ _ | .deviceMetrics _ _
  | .learnRoute _ _ | .clearRoute _ | .toggleMuted _ => .isFalse id

namespace NodeDb

def Has (nodeNum : UInt32) (P : NodeEntry → Prop) (db : NodeDb) : Prop :=
  ∃ entry ∈ db.nodes.toList, entry.nodeNum = nodeNum ∧ P entry

namespace Has

variable {nodeNum : UInt32} {P : NodeEntry → Prop} {db db' : NodeDb}

theorem of_subset (h : db.Has nodeNum P) (hsub : db.nodes.toList ⊆ db'.nodes.toList) :
    db'.Has nodeNum P := by
  obtain ⟨entry, hentry, hnum, hP⟩ := h
  exact ⟨entry, hsub hentry, hnum, hP⟩

theorem modifyAt (h : db.Has nodeNum P) (idx : Nat) {f : NodeEntry → NodeEntry}
    (hnum : ∀ entry, (f entry).nodeNum = entry.nodeNum)
    (hf : ∀ entry, entry.nodeNum = nodeNum → db.nodes.toList[idx]? = some entry → P entry →
      P (f entry)) : (db.modifyAt idx f).Has nodeNum P := by
  obtain ⟨entry, hentry, hsame, hP⟩ := h
  obtain ⟨i, hi⟩ := List.mem_iff_getElem?.mp hentry
  have hmodified : (db.modifyAt idx f).nodes.toList[i]? =
      some (if idx = i then f entry else entry) := by
    change (db.nodes.toList.modify idx f)[i]? = _
    rw [List.getElem?_modify, hi]
    rfl
  refine ⟨_, List.mem_of_getElem? hmodified, ?_⟩
  split
  · rename_i hidx
    rw [← hidx] at hi
    exact ⟨(hnum entry).trans hsame, hf entry hsame hi hP⟩
  · exact ⟨hsame, hP⟩

theorem modify (h : db.Has nodeNum P) (other : UInt32) {f : NodeEntry → NodeEntry}
    (hnum : ∀ entry, (f entry).nodeNum = entry.nodeNum)
    (hf : other = nodeNum → ∀ entry, P entry → P (f entry)) :
    (db.modify other f).Has nodeNum P := by
  unfold NodeDb.modify
  cases hposition : db.position other with
  | none => exact h
  | some idx =>
      obtain ⟨hidx, hother, -⟩ := List.findIdx?_eq_some_iff_getElem.mp hposition
      refine h.modifyAt idx hnum fun entry hentry hfound hP => hf ?_ entry hP
      rw [List.getElem?_eq_getElem hidx] at hfound
      rw [← hentry, ← Option.some.inj hfound]
      exact (beq_iff_eq.mp hother).symm

theorem getOrCreate (h : db.Has nodeNum P) {other : UInt32} {idx : Nat}
    (hcreate : db.getOrCreate other = some (db', idx)) : db'.Has nodeNum P := by
  refine h.of_subset fun entry hentry => ?_
  unfold NodeDb.getOrCreate at hcreate
  split at hcreate
  · cases hcreate
  · split at hcreate
    · cases hcreate
      exact hentry
    · by_cases hroom : db.nodes.length < MAX_NODES
      · rw [Bounded.push_of_lt _ _ hroom] at hcreate
        cases hcreate
        exact List.mem_append_left _ hentry
      · rw [Bounded.push_of_full _ _ hroom] at hcreate
        cases hcreate

theorem upsert (h : db.Has nodeNum P) (other : UInt32) {f : NodeEntry → NodeEntry}
    (hnum : ∀ entry, (f entry).nodeNum = entry.nodeNum) (hf : ∀ entry, P entry → P (f entry)) :
    (db.upsert other f).Has nodeNum P := by
  unfold NodeDb.upsert
  cases hcreate : db.getOrCreate other with
  | none => exact h
  | some created =>
      exact (h.getOrCreate hcreate).modifyAt created.2 hnum fun entry _ _ => hf entry

theorem of_nodes_eq (hnodes : db'.nodes = db.nodes) (h : db.Has nodeNum P) :
    db'.Has nodeNum P :=
  h.of_subset fun _ hentry => hnodes ▸ hentry

theorem remove (h : db.Has nodeNum P) {removed : UInt32} (hother : removed ≠ nodeNum) :
    (db.remove removed).Has nodeNum P := by
  unfold NodeDb.remove
  split
  · rename_i idx hposition
    obtain ⟨hidx, hremoved, -⟩ := List.findIdx?_eq_some_iff_getElem.mp hposition
    obtain ⟨entry, hentry, hnum, hP⟩ := h
    refine ⟨entry, ?_, hnum, hP⟩
    have hperm := Bounded.perm_swapRemove db.nodes idx hidx
    rcases List.mem_cons.mp (hperm.mem_iff.mp hentry) with hfirst | hkept
    · rw [← hfirst] at hremoved
      exact absurd ((beq_iff_eq.mp hremoved).symm.trans hnum) hother
    · exact hkept
  · exact h

variable {key favorite : Bool}

theorem updatePubKey (h : db.Has nodeNum (NodeEntry.Retained key favorite)) (other : UInt32)
    (pubKey : Key) :
    (db.updatePubKey other pubKey).Has nodeNum (NodeEntry.Retained key favorite) := by
  refine of_nodes_eq (updatePubKey_nodes db other pubKey) (h.upsert other (fun _ => rfl)
    fun entry hentry => ?_)
  exact ⟨fun _ => rfl, hentry.isFavorite⟩

theorem updateUser (h : db.Has nodeNum (NodeEntry.Retained key favorite)) (other : UInt32)
    (user : User) : (db.updateUser other user).Has nodeNum (NodeEntry.Retained key favorite) := by
  refine of_nodes_eq (updateUser_nodes db other user) (h.upsert other (fun _ => rfl)
    fun entry hentry => ?_)
  exact ⟨hentry.pubKey, hentry.isFavorite⟩

theorem setFavorite_nodes (db : NodeDb) (other : UInt32) (mark : Bool) :
    (db.setFavorite other mark).nodes =
      (db.modify other fun n => { n with isFavorite := mark }).nodes := by
  unfold NodeDb.setFavorite NodeDb.modify
  cases db.position other <;> rfl

theorem setIgnored_nodes (db : NodeDb) (other : UInt32) (mark : Bool) :
    (db.setIgnored other mark).nodes =
      (db.modify other fun n =>
        { n with
          isIgnored := mark
          position := if mark then none else n.position
          pubKey := if mark then none else n.pubKey }).nodes := by
  unfold NodeDb.setIgnored NodeDb.modify
  cases db.position other <;> rfl

theorem toggleMuted_nodes (db : NodeDb) (other : UInt32) :
    (db.toggleMuted other).nodes =
      (db.modify other fun n => { n with isMuted := !n.isMuted }).nodes := by
  unfold NodeDb.toggleMuted NodeDb.modify
  cases db.position other <;> rfl

theorem setFavorite (h : db.Has nodeNum (NodeEntry.Retained key favorite)) (other : UInt32)
    {mark : Bool} (hmark : ¬ (other = nodeNum ∧ mark = false ∧ favorite = true)) :
    (db.setFavorite other mark).Has nodeNum (NodeEntry.Retained key favorite) := by
  refine of_nodes_eq (setFavorite_nodes db other mark) (h.modify other (fun _ => rfl)
    fun hother entry hentry => ?_)
  refine ⟨hentry.pubKey, fun hfavorite => ?_⟩
  cases hvalue : mark with
  | true => rfl
  | false => exact absurd ⟨hother, hvalue, hfavorite⟩ hmark

theorem setIgnored (h : db.Has nodeNum (NodeEntry.Retained key favorite)) (other : UInt32)
    {mark : Bool} (hmark : ¬ (other = nodeNum ∧ mark = true ∧ key = true)) :
    (db.setIgnored other mark).Has nodeNum (NodeEntry.Retained key favorite) := by
  refine of_nodes_eq (setIgnored_nodes db other mark) (h.modify other (fun _ => rfl)
    fun hother entry hentry => ?_)
  refine ⟨fun hkey => ?_, hentry.isFavorite⟩
  cases hvalue : mark with
  | true => exact absurd ⟨hother, hvalue, hkey⟩ hmark
  | false => exact hentry.pubKey hkey

theorem addContactToDb (h : db.Has nodeNum (NodeEntry.Retained key favorite))
    {contact : SharedContact} {user : User}
    (hcontact : ¬ (NodeDbEdit.contact contact user).Takes nodeNum key favorite) :
    (Admin.addContactToDb db contact user).Has nodeNum (NodeEntry.Retained key favorite) := by
  unfold Admin.addContactToDb
  cases hcreate : db.getOrCreate contact.nodeNum with
  | none => exact h
  | some created =>
      obtain ⟨created, idx⟩ := created
      have hnamed : (created.modifyAt idx fun n => { n with user := some user }).Has nodeNum
          (NodeEntry.Retained key favorite) :=
        (h.getOrCreate hcreate).modifyAt idx (fun _ => rfl) fun entry _ _ hentry =>
          ⟨hentry.pubKey, hentry.isFavorite⟩
      dsimp only
      have hmarked : ∀ db : NodeDb, db.Has nodeNum (NodeEntry.Retained key favorite) →
          (if contact.shouldIgnore then
            (db.markDirty.setIgnored contact.nodeNum true).setFavorite contact.nodeNum false
          else db.markDirty.setFavorite contact.nodeNum true).Has nodeNum
            (NodeEntry.Retained key favorite) := by
        intro db hdb
        have hdirty : db.markDirty.Has nodeNum (NodeEntry.Retained key favorite) := hdb
        split
        · rename_i hignore
          refine (hdirty.setIgnored contact.nodeNum ?_).setFavorite contact.nodeNum ?_
          · rintro ⟨hnum, -, hkey⟩
            exact hcontact ⟨hnum, hignore, Or.inl hkey⟩
          · rintro ⟨hnum, -, hfavorite⟩
            exact hcontact ⟨hnum, hignore, Or.inr hfavorite⟩
        · exact hdirty.setFavorite contact.nodeNum (by rintro ⟨-, htrue, -⟩; cases htrue)
      refine hmarked _ ?_
      split
      · exact hnamed.updatePubKey contact.nodeNum _
      · exact hnamed

end Has

variable {nodeNum : UInt32} {key favorite : Bool} {db : NodeDb}

/-- No edit but those on command takes anything, as long as no time of day is given. -/
theorem Has.edit (h : db.Has nodeNum (NodeEntry.Retained key favorite)) {edit : NodeDbEdit}
    (hnotes : edit.Notes fun _ => True) (hkeeps : ¬ edit.Takes nodeNum key favorite) :
    (edit.apply db).Has nodeNum (NodeEntry.Retained key favorite) := by
  have hsame : ∀ {f : NodeEntry → NodeEntry}, (∀ entry, (f entry).pubKey = entry.pubKey ∧
      (f entry).isFavorite = entry.isFavorite) → ∀ entry, NodeEntry.Retained key favorite entry →
        NodeEntry.Retained key favorite (f entry) := by
    intro f hf entry hentry
    obtain ⟨hpubKey, hfavorite⟩ := hf entry
    exact ⟨fun hkey => hpubKey ▸ hentry.pubKey hkey,
      fun hmark => hfavorite ▸ hentry.isFavorite hmark⟩
  cases edit with
  | touch other time snr nowMs =>
      obtain rfl : time = 0 := hnotes
      change (db.touch other 0 snr nowMs).Has nodeNum _
      rw [touch_zero]
      exact h.upsert other (fun _ => rfl) (hsame fun _ => ⟨rfl, rfl⟩)
  | hopsAway other hops =>
      exact h.modify other (fun _ => rfl) fun _ => hsame fun _ => ⟨rfl, rfl⟩
  | position other pos => exact h.upsert other (fun _ => rfl) (hsame fun _ => ⟨rfl, rfl⟩)
  | user other usr =>
      change (FromRadio.storeUser db other usr).Has nodeNum _
      unfold FromRadio.storeUser
      dsimp only
      split
      · exact (h.updatePubKey other _).updateUser other usr
      · exact h.updateUser other usr
  | deviceMetrics other metrics =>
      exact h.upsert other (fun _ => rfl) (hsame fun _ => ⟨rfl, rfl⟩)
  | learnRoute sender relayNode =>
      unfold NodeDbEdit.apply
      dsimp only
      generalize (if relayNode ≠ 0 then relayNode else lastByte sender) = nextHop
      split
      · exact h
      · exact h.upsert sender (fun _ => rfl) (hsame fun _ => ⟨rfl, rfl⟩)
  | clearRoute dest =>
      exact h.modify dest (fun _ => rfl) fun _ => hsame fun _ => ⟨rfl, rfl⟩
  | favorite other mark => exact h.setFavorite other hkeeps
  | ignored other mark => exact h.setIgnored other hkeeps
  | toggleMuted other =>
      exact Has.of_nodes_eq (Has.toggleMuted_nodes db other)
        (h.modify other (fun _ => rfl) fun _ => hsame fun _ => ⟨rfl, rfl⟩)
  | contact shared usr => exact h.addContactToDb hkeeps
  | remove removed => exact h.remove hkeeps
  | reset ourNodeNum => exact absurd trivial hkeeps

theorem Has.edited (h : db.Has nodeNum (NodeEntry.Retained key favorite))
    {edits : List NodeDbEdit} (hnotes : ∀ edit ∈ edits, edit.Notes fun _ => True)
    (hkeeps : ∀ edit ∈ edits, ¬ edit.Takes nodeNum key favorite) :
    (db.edited edits).Has nodeNum (NodeEntry.Retained key favorite) := by
  induction edits generalizing db with
  | nil => exact h
  | cons edit edits ih =>
      apply ih (h.edit (hnotes edit List.mem_cons_self) (hkeeps edit List.mem_cons_self))
      · exact fun other hother => hnotes other (List.mem_cons_of_mem _ hother)
      · exact fun other hother => hkeeps other (List.mem_cons_of_mem _ hother)

theorem Has.of_get {P : NodeEntry → Prop} {entry : NodeEntry} (hget : db.get nodeNum = some entry)
    (hP : P entry) : db.Has nodeNum P :=
  ⟨entry, List.mem_of_find?_eq_some hget, nodeNum_of_get hget, hP⟩

theorem Has.exists_get {P : NodeEntry → Prop} {ourNodeNum : UInt32} (h : db.Has nodeNum P)
    (hwf : db.WellFormed ourNodeNum) : ∃ entry, db.get nodeNum = some entry ∧ P entry := by
  obtain ⟨entry, hentry, hnum, hP⟩ := h
  cases hget : db.get nodeNum with
  | none => exact absurd (beq_iff_eq.mpr hnum) (List.find?_eq_none.mp hget entry hentry)
  | some found =>
      have hsame : found = entry :=
        List.inj_on_of_nodup_map hwf.nodup (List.mem_of_find?_eq_some hget) hentry
          ((nodeNum_of_get hget).trans hnum.symm)
      exact ⟨found, rfl, hsame ▸ hP⟩

end NodeDb

/-! ## Over a run -/

namespace MeshState

variable {S : Type} [MeshStorage S] {env : Env}

/-- The step does not restart the node, and no command in it takes anything from the entry. -/
def Spares (env : Env) (nodeNum : UInt32) (key favorite : Bool) (state : MeshState S)
    (event : Event) : Prop :=
  restarts env state event = false ∧
    ∀ edit ∈ edits env state event, ¬ edit.Takes nodeNum key favorite

theorem has_step {nodeNum : UInt32} {key favorite : Bool} {state : MeshState S} {event : Event}
    (h : state.ctx.nodeDb.Has nodeNum (NodeEntry.Retained key favorite))
    (hspares : Spares env nodeNum key favorite state event) :
    (step env state event).ctx.nodeDb.Has nodeNum (NodeEntry.Retained key favorite) := by
  have hedited := h.edited (notes_edits state fun _ _ _ _ _ => trivial) hspares.2
  obtain ⟨hnodes, -⟩ := sameEntries_step hspares.1
  exact NodeDb.Has.of_nodes_eq hnodes hedited

/-- In every run a node that is known stays known, with its public key and its favorite mark,
however full the database gets: until the node restarts, or a command takes them away. -/
theorem retained_after (hloads : LoadsSnapshots S) (mac : Bytes) (storage : S)
    (pkcKeypair : Key × Key) (entropy : Nat → UInt32) (earlier later : List Event)
    (nodeNum : UInt32) (key favorite : Bool)
    (hspares : Transition.Always (step env) (Spares env nodeNum key favorite)
      (after env mac storage pkcKeypair entropy earlier) later) {entry : NodeEntry}
    (hentry : (after env mac storage pkcKeypair entropy earlier).ctx.nodeDb.get nodeNum =
      some entry)
    (hretained : entry.Retained key favorite) :
    ∃ entry', (after env mac storage pkcKeypair entropy (earlier ++ later)).ctx.nodeDb.get nodeNum =
        some entry' ∧ entry'.Retained key favorite := by
  refine NodeDb.Has.exists_get ?_ (wellFormed_nodeDb hloads mac storage pkcKeypair entropy _)
  unfold after
  rw [Transition.run_append]
  exact @Transition.invariant_run _ _ (step env)
    (fun state => state.ctx.nodeDb.Has nodeNum (NodeEntry.Retained key favorite))
    (Spares env nodeNum key favorite) (fun _ _ hhas hok => has_step hhas hok) _ _
    (NodeDb.Has.of_get hentry hretained) hspares

instance (nodeNum : UInt32) (key favorite : Bool) (state : MeshState S) (event : Event) :
    Decidable (Spares env nodeNum key favorite state event) :=
  inferInstanceAs (Decidable (_ ∧ _))

open Protobuf in
def keyedContact (nodeNum : Nat) : Bytes :=
  let user := encodeFields [⟨8, .bytes (List.replicate 32 7)⟩]
  let contact := encodeFields [⟨1, .varint nodeNum⟩, ⟨2, .bytes user⟩]
  let data := encodeFields [⟨1, .varint 6⟩, ⟨2, .bytes (encodeFields [⟨66, .bytes contact⟩])⟩]
  encodeFields [⟨1, .bytes (encodeFields [⟨4, .bytes data⟩])⟩]

/-- The phone shares a contact. -/
def shared : List Event := [.announce, .mesh .bleConnected, .mesh (.bleRx (keyedContact 0x11))]

/-- It shares twelve others, and a day passes before node `0x11223344` is heard. -/
def company : List Event :=
  (List.range 12).map (fun i => .mesh (.bleRx (keyedContact (0x12 + i)))) ++
    [.elapse 86400000, .mesh (.loraRx FromRadio.strangerAck ⟨0, 0⟩), .mesh .tick]

theorem company_retained :
    ∃ entry', (after KnownAnswers.defaultKey.phoneEnv KnownAnswers.mac ({} : FakeStorage)
        KnownAnswers.noKeypair KnownAnswers.noEntropy (shared ++ company)).ctx.nodeDb.get 0x11 =
          some entry' ∧ entry'.Retained true true := by
  have hknown : ((after KnownAnswers.defaultKey.phoneEnv KnownAnswers.mac ({} : FakeStorage)
      KnownAnswers.noKeypair KnownAnswers.noEntropy shared).ctx.nodeDb.get 0x11).any
        (fun entry => entry.pubKey.isSome && entry.isFavorite) = true := by
    decide +kernel
  obtain ⟨entry, hentry, hmarks⟩ := (Option.any_eq_true _ _).mp hknown
  obtain ⟨hkey, hfavorite⟩ := Bool.and_eq_true_iff.mp hmarks
  exact @retained_after FakeStorage _ KnownAnswers.defaultKey.phoneEnv loadsSnapshots_fake
    KnownAnswers.mac {} KnownAnswers.noKeypair KnownAnswers.noEntropy shared company 0x11 true true
    (by decide +kernel) entry hentry ⟨fun _ => hkey, fun _ => hfavorite⟩

end MeshState

end Meshtastenstein
