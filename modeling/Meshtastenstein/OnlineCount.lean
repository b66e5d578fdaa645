import Mathlib.Logic.Function.Basic
import Meshtastenstein.MessageRing
import Meshtastenstein.NodeDbEntries
/-!
# The online count

A record of the time at which each node was last heard in this boot runs beside the node
database.  The times in the database are those of the record, unless a node that was heard is
mentioned by another, created anew or restored.
-/

namespace Meshtastenstein

open Lib Lib.Bytes Proto Handlers

namespace NodeDb

/-! ## Creating entries -/

/-- No entry can be created for the node: its number is reserved, it has one, or there is no
room. -/
def Settled (db : NodeDb) (nodeNum : UInt32) : Prop :=
  (nodeNum = 0 ∨ nodeNum = BROADCAST_ADDR) ∨ nodeNum ∈ db.numbers ∨ MAX_NODES ≤ db.len

theorem Settled.of_numbers_eq {db db' : NodeDb} {nodeNum : UInt32} (h : db.Settled nodeNum)
    (hnumbers : db'.numbers = db.numbers) : db'.Settled nodeNum := by
  have hlen : db'.len = db.len := by
    have hlength := congrArg List.length hnumbers
    unfold numbers at hlength
    rw [List.length_map, List.length_map] at hlength
    exact hlength
  unfold Settled
  rw [hnumbers, hlen]
  exact h

theorem position_eq_none_iff {db : NodeDb} {nodeNum : UInt32} :
    db.position nodeNum = none ↔ nodeNum ∉ db.numbers := by
  refine ⟨not_mem_numbers_of_position, fun hnew => ?_⟩
  rw [position, List.findIdx?_eq_none_iff]
  intro n hn
  exact beq_eq_false_iff_ne.mpr fun hnum => hnew (hnum ▸ List.mem_map_of_mem hn)

theorem getOrCreate_of_full {db : NodeDb} {nodeNum : UInt32} (hnew : nodeNum ∉ db.numbers)
    (hfull : MAX_NODES ≤ db.len) : db.getOrCreate nodeNum = none := by
  unfold getOrCreate
  rw [position_eq_none_iff.mpr hnew, Bounded.push_of_full _ _ (Nat.not_lt.mpr hfull)]
  split <;> rfl

theorem eq_of_settled {db db' : NodeDb} {nodeNum : UInt32} {idx : Nat} (h : db.Settled nodeNum)
    (hcreate : db.getOrCreate nodeNum = some (db', idx)) : db' = db := by
  obtain ⟨hnum, -, ⟨-, hsame⟩ | ⟨hnew, -⟩⟩ := getOrCreate_cases hcreate
  · exact hsame
  · rcases h with hreserved | hknown | hfull
    · exact absurd hreserved hnum
    · exact absurd hknown hnew
    · rw [getOrCreate_of_full hnew hfull] at hcreate
      cases hcreate

theorem settled_upsert (db : NodeDb) (nodeNum : UInt32) {f : NodeEntry → NodeEntry}
    (hf : ∀ entry, (f entry).nodeNum = entry.nodeNum) :
    (db.upsert nodeNum f).Settled nodeNum := by
  unfold upsert
  cases hcreate : db.getOrCreate nodeNum with
  | some created =>
      obtain ⟨created, idx⟩ := created
      dsimp only
      refine Or.inr (Or.inl ?_)
      rw [numbers_modifyAt created idx hf]
      obtain ⟨-, -, ⟨hposition, rfl⟩ | ⟨-, hnumbers⟩⟩ := getOrCreate_cases hcreate
      · by_contra hnew
        rw [position_eq_none_iff.mpr hnew] at hposition
        cases hposition
      · rw [hnumbers]
        exact List.mem_append_right _ (List.mem_singleton_self nodeNum)
  | none =>
      by_cases hreserved : nodeNum = 0 ∨ nodeNum = BROADCAST_ADDR
      · exact Or.inl hreserved
      · refine Or.inr (Or.inr (Nat.not_lt.mp fun hroom => ?_))
        unfold getOrCreate at hcreate
        rw [if_neg hreserved, Bounded.push_of_lt _ _ hroom] at hcreate
        cases hposition : db.position nodeNum <;> rw [hposition] at hcreate <;> cases hcreate

/-- Room is only lost, and nobody is forgotten, when entries are created. -/
theorem Settled.upsert {db : NodeDb} {nodeNum : UInt32} (h : db.Settled nodeNum)
    (other : UInt32) {f : NodeEntry → NodeEntry}
    (hf : ∀ entry, (f entry).nodeNum = entry.nodeNum) :
    (db.upsert other f).Settled nodeNum := by
  unfold NodeDb.upsert
  cases hcreate : db.getOrCreate other with
  | none => exact h
  | some created =>
      obtain ⟨created, idx⟩ := created
      dsimp only
      refine Settled.of_numbers_eq ?_ (numbers_modifyAt created idx hf)
      obtain ⟨-, -, ⟨-, rfl⟩ | ⟨hnew, hnumbers⟩⟩ := getOrCreate_cases hcreate
      · exact h
      · rcases h with hreserved | hknown | hfull
        · exact Or.inl hreserved
        · refine Or.inr (Or.inl ?_)
          rw [hnumbers]
          exact List.mem_append_left _ hknown
        · rw [getOrCreate_of_full hnew hfull] at hcreate
          cases hcreate

/-- For a time of zero nothing is stale, and touching is no more than an update. -/
theorem touch_zero (db : NodeDb) (nodeNum : UInt32) (snr : Option Int8) (nowMs : Nat) :
    db.touch nodeNum 0 snr nowMs = db.upsert nodeNum fun n =>
      { n with lastHeard := 0, snr := snr.or n.snr, lastSeenMs := nowMs } := by
  have hkept : ∀ n : NodeEntry, (n.nodeNum == db.ourNodeNum || n.lastHeard == 0 ||
      decide ((0 : UInt32).toNat - n.lastHeard.toNat ≤ (7200 : UInt32).toNat)) = true := by
    intro n
    rw [Bool.or_eq_true]
    refine Or.inr (decide_eq_true ?_)
    rw [UInt32.toNat_zero, Nat.zero_sub]
    exact Nat.zero_le _
  have hpruned : ¬ (db.pruneStale 0 7200).len < db.len := by
    unfold len pruneStale Bounded.length Bounded.retain
    dsimp only
    rw [List.filter_eq_self.mpr fun n _ => hkept n]
    exact Nat.lt_irrefl _
  unfold touch
  dsimp only
  rw [if_neg hpruned]
  split
  · rename_i hfull
    obtain ⟨hlength, hnew⟩ := Bool.and_eq_true_iff.mp hfull
    have hunknown : nodeNum ∉ db.numbers := by
      intro hknown
      obtain ⟨n, hn, hnum⟩ := List.mem_map.mp hknown
      have hne := List.all_eq_true.mp hnew n hn
      rw [hnum, bne_self_eq_false] at hne
      cases hne
    unfold upsert
    rw [getOrCreate_of_full hunknown (Nat.le_of_eq (beq_iff_eq.mp hlength).symm)]
  · rfl

theorem settled_touch (db : NodeDb) (nodeNum : UInt32) (snr : Option Int8) (nowMs : Nat) :
    (db.touch nodeNum 0 snr nowMs).Settled nodeNum := by
  rw [touch_zero]
  exact settled_upsert db nodeNum fun _ => rfl

theorem Settled.touch {db : NodeDb} {nodeNum : UInt32} (h : db.Settled nodeNum) (other : UInt32)
    (snr : Option Int8) (nowMs : Nat) : (db.touch other 0 snr nowMs).Settled nodeNum := by
  rw [touch_zero]
  exact h.upsert other fun _ => rfl

/-! ## Entries of one node -/

theorem numbers_modify (db : NodeDb) (nodeNum : UInt32) {f : NodeEntry → NodeEntry}
    (hf : ∀ entry, (f entry).nodeNum = entry.nodeNum) :
    (db.modify nodeNum f).numbers = db.numbers := by
  unfold modify
  cases db.position nodeNum with
  | some idx => exact numbers_modifyAt db idx hf
  | none => rfl

theorem getElem?_numbers_getOrCreate {db created : NodeDb} {nodeNum : UInt32} {idx : Nat}
    (h : db.getOrCreate nodeNum = some (created, idx)) :
    created.numbers[idx]? = some nodeNum := by
  unfold getOrCreate at h
  split at h
  · cases h
  · cases hposition : db.position nodeNum with
    | some found =>
        rw [hposition] at h
        cases h
        obtain ⟨hidx, hnum, -⟩ := List.findIdx?_eq_some_iff_getElem.mp hposition
        rw [numbers, List.getElem?_map, List.getElem?_eq_getElem hidx]
        exact congrArg some (beq_iff_eq.mp hnum)
    | none =>
        rw [hposition] at h
        dsimp only at h
        by_cases hroom : db.nodes.length < MAX_NODES
        · rw [Bounded.push_of_lt _ _ hroom] at h
          cases h
          unfold numbers Bounded.length
          rw [List.map_append, List.map_singleton, List.length_append, List.length_singleton,
            Nat.add_sub_cancel, ← List.length_map (·.nodeNum), List.getElem?_concat_length]
        · rw [Bounded.push_of_full _ _ hroom] at h
          cases h

/-- One node's entry is made to have the property, the others keep theirs. -/
theorem Forall.upsertOf {P Q : NodeEntry → Prop} {db : NodeDb} (h : Forall P db)
    {ourNodeNum : UInt32} (hwf : db.WellFormed ourNodeNum) {nodeNum : UInt32}
    {f : NodeEntry → NodeEntry} (hf : ∀ entry, entry.nodeNum = nodeNum → Q (f entry))
    (hother : ∀ entry, entry.nodeNum ≠ nodeNum → P entry → Q entry) :
    Forall Q (db.upsert nodeNum f) := by
  unfold NodeDb.upsert
  cases hcreate : db.getOrCreate nodeNum with
  | some created =>
      obtain ⟨created, idx⟩ := created
      have hold : Forall (fun entry => entry.nodeNum = nodeNum ∨ P entry) created :=
        @Forall.getOrCreate (fun entry => entry.nodeNum = nodeNum ∨ P entry) db
          (fun entry hentry => Or.inr (h entry hentry)) nodeNum (fun _ => Or.inl rfl) created idx
          hcreate
      have hnum := getElem?_numbers_getOrCreate hcreate
      have hnodup := (hwf.getOrCreate hcreate).nodup
      intro entry hentry
      obtain ⟨i, hi⟩ := List.mem_iff_getElem?.mp hentry
      change (created.nodes.toList.modify idx f)[i]? = some entry at hi
      rw [List.getElem?_modify] at hi
      obtain ⟨old, hfound, hnew⟩ := Option.map_eq_some_iff.mp hi
      have hnumber : created.numbers[i]? = some old.nodeNum := by
        rw [numbers, List.getElem?_map, hfound]
        rfl
      by_cases hidx : idx = i
      · rw [if_pos hidx] at hnew
        rw [hidx, hnumber] at hnum
        rw [← hnew]
        exact hf old (Option.some.inj hnum)
      · rw [if_neg hidx] at hnew
        change old = entry at hnew
        subst hnew
        have hne : old.nodeNum ≠ nodeNum := by
          intro hsame
          have hlt : idx < created.numbers.length := (List.getElem?_eq_some_iff.mp hnum).1
          rw [← hsame, ← hnumber] at hnum
          exact hidx ((List.getElem?_inj hlt hnodup).mp hnum)
        exact hother old hne ((hold old (List.mem_of_getElem? hfound)).resolve_left hne)
  | none =>
      intro entry hentry
      refine hother entry (fun hnum => ?_) (h entry hentry)
      have hmem : nodeNum ∈ db.numbers := hnum ▸ List.mem_map_of_mem hentry
      have hreserved := hwf.unreserved nodeNum hmem
      unfold NodeDb.getOrCreate at hcreate
      rw [if_neg hreserved] at hcreate
      cases hposition : db.position nodeNum with
      | some found =>
          rw [hposition] at hcreate
          cases hcreate
      | none => exact not_mem_numbers_of_position hposition hmem

end NodeDb

/-! ## Edits -/

def NodeEntry.SeenAs (heardAt : UInt32 → Option Nat) (entry : NodeEntry) : Prop :=
  entry.lastSeenMs = (heardAt entry.nodeNum).getD 0

/-- An edit that leaves the times right: it mentions no node that was heard, and creates no entry
for one. -/
def NodeDbEdit.FirstHand (heardAt : UInt32 → Option Nat) (db : NodeDb) : NodeDbEdit → Prop
  | .touch nodeNum time _ nowMs => time = 0 ∧ nowMs = 0 ∧ heardAt nodeNum = none
  | .position nodeNum _ | .user nodeNum _ | .deviceMetrics nodeNum _ | .learnRoute nodeNum _ =>
      heardAt nodeNum = none ∨ db.Settled nodeNum
  | .contact shared _ => heardAt shared.nodeNum = none ∨ db.Settled shared.nodeNum
  | _ => True

namespace NodeDb

variable {heardAt : UInt32 → Option Nat} {db : NodeDb}

theorem seenAs_getOrCreate (h : db.Forall (NodeEntry.SeenAs heardAt)) {nodeNum : UInt32}
    (hnew : heardAt nodeNum = none ∨ db.Settled nodeNum) {created : NodeDb} {idx : Nat}
    (hcreate : db.getOrCreate nodeNum = some (created, idx)) :
    created.Forall (NodeEntry.SeenAs heardAt) := by
  rcases hnew with hunheard | hsettled
  · refine h.getOrCreate (fun _ => ?_) hcreate
    change 0 = (heardAt nodeNum).getD 0
    rw [hunheard]
    rfl
  · rw [eq_of_settled hsettled hcreate]
    exact h

theorem seenAs_upsert (h : db.Forall (NodeEntry.SeenAs heardAt)) {nodeNum : UInt32}
    (hnew : heardAt nodeNum = none ∨ db.Settled nodeNum) {f : NodeEntry → NodeEntry}
    (hf : ∀ entry : NodeEntry, entry.SeenAs heardAt → (f entry).SeenAs heardAt) :
    (db.upsert nodeNum f).Forall (NodeEntry.SeenAs heardAt) := by
  unfold upsert
  cases hcreate : db.getOrCreate nodeNum with
  | some created => exact (seenAs_getOrCreate h hnew hcreate).modifyAt created.2 hf
  | none => exact h

theorem updateUser_nodes (db : NodeDb) (nodeNum : UInt32) (user : User) :
    (db.updateUser nodeNum user).nodes =
      (db.upsert nodeNum fun n => { n with user := some user }).nodes := by
  unfold updateUser upsert
  cases db.getOrCreate nodeNum <;> rfl

theorem updatePubKey_nodes (db : NodeDb) (nodeNum : UInt32) (key : Key) :
    (db.updatePubKey nodeNum key).nodes =
      (db.upsert nodeNum fun n => { n with pubKey := some key }).nodes := by
  unfold updatePubKey upsert
  cases db.getOrCreate nodeNum <;> rfl

theorem seenAs_updateUser (h : db.Forall (NodeEntry.SeenAs heardAt)) {nodeNum : UInt32}
    (hnew : heardAt nodeNum = none ∨ db.Settled nodeNum) (user : User) :
    (db.updateUser nodeNum user).Forall (NodeEntry.SeenAs heardAt) := by
  unfold Forall
  rw [updateUser_nodes]
  exact seenAs_upsert h hnew fun entry hentry => hentry

theorem seenAs_updatePubKey (h : db.Forall (NodeEntry.SeenAs heardAt)) {nodeNum : UInt32}
    (hnew : heardAt nodeNum = none ∨ db.Settled nodeNum) (key : Key) :
    (db.updatePubKey nodeNum key).Forall (NodeEntry.SeenAs heardAt) := by
  unfold Forall
  rw [updatePubKey_nodes]
  exact seenAs_upsert h hnew fun entry hentry => hentry

theorem settled_updatePubKey (db : NodeDb) (nodeNum : UInt32) (key : Key) :
    (db.updatePubKey nodeNum key).Settled nodeNum := by
  have hupsert : (db.upsert nodeNum fun n => { n with pubKey := some key }).Settled nodeNum :=
    settled_upsert db nodeNum fun _ => rfl
  refine hupsert.of_numbers_eq ?_
  unfold numbers
  rw [updatePubKey_nodes]

theorem seenAs_storeUser (h : db.Forall (NodeEntry.SeenAs heardAt)) {nodeNum : UInt32}
    (hnew : heardAt nodeNum = none ∨ db.Settled nodeNum) (user : User) :
    (FromRadio.storeUser db nodeNum user).Forall (NodeEntry.SeenAs heardAt) := by
  unfold FromRadio.storeUser
  dsimp only
  split
  · rename_i key _
    exact seenAs_updateUser (seenAs_updatePubKey h hnew key)
      (Or.inr (settled_updatePubKey db nodeNum key)) user
  · exact seenAs_updateUser h hnew user

theorem seenAs_addContactToDb (h : db.Forall (NodeEntry.SeenAs heardAt))
    {contact : SharedContact}
    (hnew : heardAt contact.nodeNum = none ∨ db.Settled contact.nodeNum) (user : User) :
    (Admin.addContactToDb db contact user).Forall (NodeEntry.SeenAs heardAt) := by
  unfold Admin.addContactToDb
  cases hcreate : db.getOrCreate contact.nodeNum with
  | none => exact h
  | some created =>
      obtain ⟨created, idx⟩ := created
      have hstored := (seenAs_getOrCreate h hnew hcreate).modifyAt idx
        (f := fun n => { n with user := some user }) fun entry hentry => hentry
      have hsettled : (created.modifyAt idx fun n => { n with user := some user }).Settled
          contact.nodeNum := by
        have hupsert : (db.upsert contact.nodeNum fun n => { n with user := some user }).Settled
            contact.nodeNum := settled_upsert db contact.nodeNum fun _ => rfl
        unfold upsert at hupsert
        rw [hcreate] at hupsert
        exact hupsert
      refine Forall.markContact ?_ contact (fun _ _ hentry => hentry) fun _ hentry => hentry
      split
      · exact seenAs_updatePubKey hstored (Or.inr hsettled) _
      · exact hstored

theorem seenAs_edit {ourNodeNum : UInt32} (hwf : db.WellFormed ourNodeNum)
    (h : db.Forall (NodeEntry.SeenAs heardAt)) {edit : NodeDbEdit}
    (hedit : edit.FirstHand heardAt db) :
    (edit.apply db).Forall (NodeEntry.SeenAs heardAt) := by
  cases edit with
  | touch nodeNum time snr nowMs =>
      obtain ⟨rfl, rfl, hunheard⟩ := hedit
      change Forall (NodeEntry.SeenAs heardAt) (db.touch nodeNum 0 snr 0)
      rw [touch_zero]
      refine h.upsertOf hwf (fun entry hentry => ?_) fun _ _ hentry => hentry
      change 0 = (heardAt entry.nodeNum).getD 0
      rw [hentry, hunheard]
      rfl
  | hopsAway nodeNum hops => exact h.modify nodeNum fun _ hentry => hentry
  | position nodeNum pos => exact seenAs_upsert h hedit fun _ hentry => hentry
  | user nodeNum usr => exact seenAs_storeUser h hedit usr
  | deviceMetrics nodeNum metrics => exact seenAs_upsert h hedit fun _ hentry => hentry
  | learnRoute sender relayNode =>
      change Forall (NodeEntry.SeenAs heardAt) (if learnedHop sender relayNode = NO_NEXT_HOP then db
        else db.upsert sender fun entry => { entry with nextHop := learnedHop sender relayNode })
      split
      · exact h
      · exact seenAs_upsert h hedit fun _ hentry => hentry
  | clearRoute dest => exact h.modify dest fun _ hentry => hentry
  | favorite nodeNum fav => exact h.setFavorite nodeNum fun _ hentry => hentry
  | ignored nodeNum ign => exact h.setIgnored nodeNum fun _ hentry => hentry
  | toggleMuted nodeNum => exact h.toggleMuted nodeNum fun _ hentry => hentry
  | contact shared usr => exact seenAs_addContactToDb h hedit usr
  | remove nodeNum => exact h.remove nodeNum
  | reset ourNodeNum => exact forall_new ourNodeNum

/-- Edits that leave the times right: each by itself, or only one of them. -/
def FirstHand (heardAt : UInt32 → Option Nat) (db : NodeDb) (edits : List NodeDbEdit) : Prop :=
  (∀ edit ∈ edits, ∀ db : NodeDb, edit.FirstHand heardAt db) ∨
    ∃ edit, edits = [edit] ∧ edit.FirstHand heardAt db

theorem firstHand_nil : FirstHand heardAt db [] :=
  Or.inl fun _ hedit => absurd hedit List.not_mem_nil

theorem firstHand_singleton {edit : NodeDbEdit} (h : edit.FirstHand heardAt db) :
    FirstHand heardAt db [edit] := Or.inr ⟨edit, rfl, h⟩

theorem seenAs_edited {edits : List NodeDbEdit} (hwf : db.WellFormed db.ourNodeNum)
    (h : db.Forall (NodeEntry.SeenAs heardAt)) (hedits : FirstHand heardAt db edits) :
    (db.edited edits).Forall (NodeEntry.SeenAs heardAt) := by
  rcases hedits with hall | ⟨edit, rfl, hedit⟩
  · induction edits generalizing db with
    | nil => exact h
    | cons edit edits ih =>
        have hfirst := seenAs_edit hwf h (hall edit List.mem_cons_self db)
        exact ih (hwf.edit edit) hfirst fun e he => hall e (List.mem_cons_of_mem _ he)
  · exact seenAs_edit hwf h hedit

theorem seenAs_touch {ourNodeNum : UInt32} (hwf : db.WellFormed ourNodeNum)
    (h : db.Forall (NodeEntry.SeenAs heardAt)) (nodeNum : UInt32) (snr : Option Int8)
    (nowMs : Nat) :
    (db.touch nodeNum 0 snr nowMs).Forall
      (NodeEntry.SeenAs (Function.update heardAt nodeNum (some nowMs))) := by
  rw [touch_zero]
  refine h.upsertOf hwf (fun entry hentry => ?_) fun entry hne hentry => ?_
  · change nowMs = (Function.update heardAt nodeNum (some nowMs) entry.nodeNum).getD 0
    rw [hentry, Function.update_self]
    rfl
  · unfold NodeEntry.SeenAs
    rw [Function.update_of_ne hne]
    exact hentry

theorem onlineCount_of_seenAs (h : db.Forall (NodeEntry.SeenAs heardAt)) {now : Nat}
    (hheard : ∀ nodeNum t, heardAt nodeNum = some t → 0 < t) (window : Nat) :
    db.onlineCount now window = db.nodes.toList.countP fun n =>
      (heardAt n.nodeNum).any fun t => decide (now - t ≤ window) := by
  unfold onlineCount
  apply List.countP_congr
  intro entry hentry
  have hseen : entry.lastSeenMs = (heardAt entry.nodeNum).getD 0 := h entry hentry
  rw [hseen]
  cases hrecord : heardAt entry.nodeNum with
  | none => simp
  | some t =>
      have hpos := hheard entry.nodeNum t hrecord
      simp [hpos]

end NodeDb

variable {S : Type} {env : Env} {heardAt : UInt32 → Option Nat} {db : NodeDb}

namespace Handlers

theorem firstHand_admin {ctx : MeshCtx S} {bytes : Bytes} {viaLora : Bool}
    (h : ∀ contact user, .contact contact user ∈ Admin.edits env ctx bytes viaLora →
      heardAt contact.nodeNum = none ∨ db.Settled contact.nodeNum) :
    NodeDb.FirstHand heardAt db (Admin.edits env ctx bytes viaLora) := by
  unfold Admin.edits at h ⊢
  cases hcommand : Admin.command env ctx bytes viaLora with
  | none => exact NodeDb.firstHand_nil
  | some variant =>
      rw [hcommand] at h
      change ∀ contact user, .contact contact user ∈
        Admin.variantEdits ctx.device.myNodeNum variant →
          heardAt contact.nodeNum = none ∨ db.Settled contact.nodeNum at h
      change NodeDb.FirstHand heardAt db (Admin.variantEdits ctx.device.myNodeNum variant)
      cases variant with
      | addContact contact =>
          change ∀ shared usr, .contact shared usr ∈
            (contact.user.map (NodeDbEdit.contact contact)).toList →
              heardAt shared.nodeNum = none ∨ db.Settled shared.nodeNum at h
          change NodeDb.FirstHand heardAt db (contact.user.map (NodeDbEdit.contact contact)).toList
          cases huser : contact.user with
          | none => exact NodeDb.firstHand_nil
          | some user =>
              rw [huser] at h
              exact NodeDb.firstHand_singleton (h contact user (List.mem_singleton_self _))
      | setFavoriteNode _ => exact NodeDb.firstHand_singleton trivial
      | removeFavoriteNode _ => exact NodeDb.firstHand_singleton trivial
      | setIgnoredNode _ => exact NodeDb.firstHand_singleton trivial
      | removeIgnoredNode _ => exact NodeDb.firstHand_singleton trivial
      | toggleMutedNode _ => exact NodeDb.firstHand_singleton trivial
      | nodedbReset _ => exact NodeDb.firstHand_singleton trivial
      | removeByNodenum _ => exact NodeDb.firstHand_singleton trivial
      | _ => exact NodeDb.firstHand_nil

theorem firstHand_portnum {ctx : MeshCtx S} {portnum : Int32} {pkt : FromRadio.InboundPacket}
    (hsender : db.Settled pkt.sender)
    (hmentions : ∀ nodeNum,
      .touch nodeNum 0 none 0 ∈ FromRadio.portnumEdits env ctx portnum pkt →
        heardAt nodeNum = none)
    (hcontacts : ∀ contact user,
      .contact contact user ∈ FromRadio.portnumEdits env ctx portnum pkt →
        heardAt contact.nodeNum = none ∨ db.Settled contact.nodeNum) :
    NodeDb.FirstHand heardAt db (FromRadio.portnumEdits env ctx portnum pkt) := by
  unfold FromRadio.portnumEdits at hmentions hcontacts ⊢
  split
  · cases env.prost.position.decode pkt.payload with
    | none => exact NodeDb.firstHand_nil
    | some pos => exact NodeDb.firstHand_singleton (Or.inr hsender)
  · cases env.prost.user.decode pkt.payload with
    | none => exact NodeDb.firstHand_nil
    | some user => exact NodeDb.firstHand_singleton (Or.inr hsender)
  · split
    · split
      · exact NodeDb.firstHand_singleton (Or.inr hsender)
      · exact NodeDb.firstHand_nil
    · exact NodeDb.firstHand_nil
  · split
    · exact NodeDb.firstHand_singleton (Or.inr hsender)
    · exact NodeDb.firstHand_nil
  · rename_i hport
    rw [hport] at hmentions
    cases hinfo : env.prost.neighborInfo.decode pkt.payload with
    | none => exact NodeDb.firstHand_nil
    | some info =>
        rw [hinfo] at hmentions
        refine Or.inl fun edit hedit _ => ?_
        obtain ⟨nb, hnb, rfl⟩ := List.mem_map.mp hedit
        exact ⟨rfl, rfl, hmentions nb.nodeId (List.mem_map_of_mem hnb)⟩
  · rename_i hport
    rw [hport] at hcontacts
    split
    · rename_i hus
      dsimp only at hcontacts
      rw [if_pos hus] at hcontacts
      exact firstHand_admin hcontacts
    · exact NodeDb.firstHand_nil
  · exact NodeDb.firstHand_nil

end Handlers

/-! ## The record of a run -/

namespace Handlers.FromRadio

def authenticated (env : Env) (ctx : MeshCtx S) (frame : RadioFrame) : Option PacketHeader :=
  match frame.header with
  | none => none
  | some header =>
      if header.sender = ctx.device.myNodeNum then none
      else
        match tryDecryptAndDecode env frame header ctx.device ctx.nodeDb ctx.pkcPrivBytes with
        | .decoded _ => some header
        | _ => none

theorem authenticated_of_newPacket {ctx : MeshCtx S} {frame : RadioFrame} {header : PacketHeader}
    {decoded : DecodedPayload} (h : newPacket env ctx frame = some (header, decoded)) :
    authenticated env ctx frame = some header := by
  unfold newPacket at h
  unfold authenticated
  cases hheader : frame.header with
  | none =>
      rw [hheader] at h
      cases h
  | some found =>
      rw [hheader] at h
      dsimp only at h ⊢
      split at h
      · cases h
      · rename_i hother
        rw [if_neg hother]
        cases houtcome : tryDecryptAndDecode env frame found ctx.device ctx.nodeDb
            ctx.pkcPrivBytes with
        | decoded payload =>
            rw [houtcome] at h
            dsimp only at h ⊢
            split at h
            · cases h
              rfl
            · cases h
        | _ =>
            rw [houtcome] at h
            cases h

end Handlers.FromRadio

def MeshState.heardSender (env : Env) (state : MeshState S) : MeshState.Event → Option UInt32
  | .mesh (.loraRx frame metadata) =>
      if state.started then
        (FromRadio.authenticated env (noteActivity state.ctx (.loraRx frame metadata)) frame).map
          (·.sender)
      else none
  | _ => none

variable [MeshStorage S]

/-- A node, and beside it the times at which it heard the others in this boot. -/
structure Hearing (S : Type) where
  state : MeshState S
  heardAt : UInt32 → Option Nat

namespace Hearing

def heardAfter (env : Env) (run : Hearing S) (event : MeshState.Event) : UInt32 → Option Nat :=
  match run.state.heardSender env event with
  | some sender => Function.update run.heardAt sender (some run.state.ctx.now)
  | none => run.heardAt

/-- A restart begins a new record. -/
def step (env : Env) (run : Hearing S) (event : MeshState.Event) : Hearing S where
  state := MeshState.step env run.state event
  heardAt :=
    if MeshState.restarts env run.state event then fun _ => none else heardAfter env run event

def boot (env : Env) (mac : Bytes) (storage : S) (pkcKeypair : Key × Key)
    (entropy : Nat → UInt32) : Hearing S where
  state := MeshState.boot env mac storage pkcKeypair entropy
  heardAt _ := none

/-- The nodes that were heard within so many milliseconds. -/
def heardWithin (run : Hearing S) (window : Nat) (nodeNum : UInt32) : Bool :=
  (run.heardAt nodeNum).any fun t => decide (run.state.ctx.now - t ≤ window)

/-- The online count is the number of known nodes that were heard. -/
def CountsHeard (run : Hearing S) : Prop :=
  ∀ window, run.state.ctx.nodeDb.onlineCount run.state.ctx.now window =
    run.state.ctx.nodeDb.nodes.toList.countP fun n => run.heardWithin window n.nodeNum

/-- The snapshot in storage has no times. -/
def Untimed (storage : S) : Prop :=
  ∀ ourNodeNum, (MeshStorage.loadNodeDb storage (NodeDb.new ourNodeNum)).Forall (·.lastSeenMs = 0)

/-- The step hears packets in time for them to count, and nothing else sets a time. -/
structure StaysFirstHand (env : Env) (run : Hearing S) (event : MeshState.Event) : Prop where
  /-- Nothing is heard in the millisecond of the boot. -/
  timed : (run.state.heardSender env event).isSome = true → 0 < run.state.ctx.now
  /-- What is heard is new, unless it changes nothing. -/
  fresh : ∀ frame metadata, event = .mesh (.loraRx frame metadata) →
    ∀ sender, run.state.heardSender env event = some sender →
      (FromRadio.newPacket env (MeshState.noteActivity run.state.ctx (.loraRx frame metadata))
        frame).isSome = true ∨
      run.heardAt sender = some run.state.ctx.now ∨ sender ∉ run.state.ctx.nodeDb.numbers
  /-- No node that was heard is mentioned by a neighbor. -/
  unmentioned : ∀ nodeNum, .touch nodeNum 0 none 0 ∈ MeshState.edits env run.state event →
    heardAfter env run event nodeNum = none
  /-- No contact is added for a node that was heard and is not known. -/
  unadded : ∀ contact user, .contact contact user ∈ MeshState.edits env run.state event →
    run.heardAt contact.nodeNum = none ∨ run.state.ctx.nodeDb.Settled contact.nodeNum
  /-- No time is restored. -/
  unrestored : MeshState.restarts env run.state event = true →
    Untimed (MeshState.reopened env run.state event)

/-- The times in the database are those of the record, none of which is zero. -/
structure Agrees (run : Hearing S) : Prop where
  wellFormed : run.state.ctx.nodeDb.WellFormed run.state.ctx.nodeDb.ourNodeNum
  seen : run.state.ctx.nodeDb.Forall (NodeEntry.SeenAs run.heardAt)
  positive : ∀ nodeNum t, run.heardAt nodeNum = some t → 0 < t

omit [MeshStorage S] in
theorem Agrees.counts {run : Hearing S} (h : run.Agrees) : run.CountsHeard :=
  fun window => NodeDb.onlineCount_of_seenAs h.seen h.positive window

omit [MeshStorage S] in
theorem seenAs_frame {ctx : MeshCtx S} {frame : RadioFrame} {metadata : RadioMetadata}
    {header : PacketHeader} {decoded : FromRadio.DecodedPayload} {heardAt : UInt32 → Option Nat}
    (hwf : ctx.nodeDb.WellFormed ctx.nodeDb.ourNodeNum)
    (hseen : ctx.nodeDb.Forall (NodeEntry.SeenAs heardAt))
    (hnew : FromRadio.newPacket env ctx frame = some (header, decoded))
    (hmentions : ∀ nodeNum, .touch nodeNum 0 none 0 ∈ FromRadio.edits env ctx frame metadata →
      Function.update heardAt header.sender (some ctx.now) nodeNum = none)
    (hcontacts : ∀ contact user,
      .contact contact user ∈ FromRadio.edits env ctx frame metadata →
        heardAt contact.nodeNum = none ∨ ctx.nodeDb.Settled contact.nodeNum) :
    (ctx.nodeDb.edited (FromRadio.edits env ctx frame metadata)).Forall
      (NodeEntry.SeenAs (Function.update heardAt header.sender (some ctx.now))) := by
  let noted := ctx.nodeDb.edited (FromRadio.noteEdits header metadata ctx.now)
  have hnoted : noted.Forall
      (NodeEntry.SeenAs (Function.update heardAt header.sender (some ctx.now))) :=
    (NodeDb.seenAs_touch hwf hseen header.sender (some metadata.snr) ctx.now).modify header.sender
      fun _ hentry => hentry
  have hwfNoted : noted.WellFormed noted.ourNodeNum := hwf.edited _
  have hnumbers : noted.numbers =
      (ctx.nodeDb.touch header.sender 0 (some metadata.snr) ctx.now).numbers :=
    NodeDb.numbers_modify _ _ fun _ => rfl
  have hsender : noted.Settled header.sender :=
    (NodeDb.settled_touch ctx.nodeDb header.sender (some metadata.snr) ctx.now).of_numbers_eq
      hnumbers
  have hkept : ∀ nodeNum, ctx.nodeDb.Settled nodeNum → noted.Settled nodeNum :=
    fun _ hsettled => (hsettled.touch header.sender (some metadata.snr) ctx.now).of_numbers_eq
      hnumbers
  unfold FromRadio.edits at hmentions hcontacts ⊢
  rw [hnew] at hmentions hcontacts ⊢
  dsimp only at hmentions hcontacts ⊢
  rw [NodeDb.edited_append]
  refine NodeDb.seenAs_edited hwfNoted hnoted (firstHand_portnum hsender ?_ ?_)
  · exact fun nodeNum hmention => hmentions nodeNum (List.mem_append_right _ hmention)
  · intro contact user hcontact
    by_cases hsame : contact.nodeNum = header.sender
    · rw [hsame]
      exact Or.inr hsender
    · rw [Function.update_of_ne hsame]
      exact (hcontacts contact user (List.mem_append_right _ hcontact)).imp_right (hkept _)

omit [MeshStorage S] in
theorem heardAfter_of_unheard {run : Hearing S} {event : MeshState.Event}
    (h : run.state.heardSender env event = none) : run.heardAfter env event = run.heardAt := by
  unfold heardAfter
  rw [h]

omit [MeshStorage S] in
theorem heardAfter_of_heard {run : Hearing S} {event : MeshState.Event} {sender : UInt32}
    (h : run.state.heardSender env event = some sender) :
    run.heardAfter env event =
      Function.update run.heardAt sender (some run.state.ctx.now) := by
  unfold heardAfter
  rw [h]

theorem seenAs_received {run : Hearing S} (hagrees : run.Agrees) {frame : RadioFrame}
    {metadata : RadioMetadata} (hstarted : run.state.started = true)
    (h : StaysFirstHand env run (.mesh (.loraRx frame metadata))) :
    (run.state.ctx.nodeDb.edited
        (MeshState.edits env run.state (.mesh (.loraRx frame metadata)))).Forall
      (NodeEntry.SeenAs (run.heardAfter env (.mesh (.loraRx frame metadata)))) := by
  let ctx := MeshState.noteActivity run.state.ctx (.loraRx frame metadata)
  have hedits : MeshState.edits env run.state (.mesh (.loraRx frame metadata)) =
      FromRadio.edits env ctx frame metadata := if_pos hstarted
  have hheard : run.state.heardSender env (.mesh (.loraRx frame metadata)) =
      (FromRadio.authenticated env ctx frame).map (·.sender) := if_pos hstarted
  have hmentions := h.unmentioned
  have hcontacts := h.unadded
  rw [hedits] at hmentions hcontacts ⊢
  cases hnew : FromRadio.newPacket env ctx frame with
  | some packet =>
      obtain ⟨header, decoded⟩ := packet
      rw [FromRadio.authenticated_of_newPacket hnew] at hheard
      rw [heardAfter_of_heard hheard] at hmentions ⊢
      exact @seenAs_frame S env ctx frame metadata header decoded run.heardAt hagrees.wellFormed
        hagrees.seen hnew hmentions hcontacts
  | none =>
      have hnone : FromRadio.edits env ctx frame metadata = [] := by
        unfold FromRadio.edits
        rw [hnew]
      rw [hnone]
      cases hsender : run.state.heardSender env (.mesh (.loraRx frame metadata)) with
      | none =>
          rw [heardAfter_of_unheard hsender]
          exact hagrees.seen
      | some sender =>
          rw [heardAfter_of_heard hsender]
          rcases h.fresh frame metadata rfl sender hsender with hsome | hnow | hunknown
          · change (FromRadio.newPacket env ctx frame).isSome = true at hsome
            rw [hnew] at hsome
            cases hsome
          · rw [← hnow, Function.update_eq_self]
            exact hagrees.seen
          · intro entry hentry
            have hne : entry.nodeNum ≠ sender :=
              fun hsame => hunknown (hsame ▸ List.mem_map_of_mem hentry)
            unfold NodeEntry.SeenAs
            rw [Function.update_of_ne hne]
            exact hagrees.seen entry hentry

theorem seenAs_edits {run : Hearing S} (hagrees : run.Agrees) {event : MeshState.Event}
    (h : StaysFirstHand env run event) :
    (run.state.ctx.nodeDb.edited (MeshState.edits env run.state event)).Forall
      (NodeEntry.SeenAs (run.heardAfter env event)) := by
  cases event with
  | mesh event =>
      cases hstarted : run.state.started with
      | true =>
          cases event with
          | loraRx frame metadata => exact seenAs_received hagrees hstarted h
          | bleRx bytes =>
              rw [heardAfter_of_unheard rfl]
              refine NodeDb.seenAs_edited hagrees.wellFormed hagrees.seen ?_
              have hedits : MeshState.edits env run.state (.mesh (.bleRx bytes)) =
                  FromApp.edits env run.state.ctx bytes := if_pos hstarted
              have hcontacts := h.unadded
              rw [hedits] at hcontacts ⊢
              unfold FromApp.edits at hcontacts ⊢
              split
              · rename_i data hadmin
                rw [hadmin] at hcontacts
                exact firstHand_admin hcontacts
              · exact NodeDb.firstHand_nil
          | _ =>
              rw [heardAfter_of_unheard rfl]
              have hedits : ∀ edits : List NodeDbEdit, edits = [] →
                  (run.state.ctx.nodeDb.edited edits).Forall (NodeEntry.SeenAs run.heardAt) := by
                rintro _ rfl
                exact hagrees.seen
              exact hedits _ (if_pos hstarted)
      | false =>
          have hunheard : run.state.heardSender env (.mesh event) = none := by
            unfold MeshState.heardSender
            cases event <;> simp [hstarted]
          unfold MeshState.edits
          rw [heardAfter_of_unheard hunheard, hstarted]
          exact hagrees.seen
  | retransmissionDue =>
      rw [heardAfter_of_unheard rfl]
      refine NodeDb.seenAs_edited hagrees.wellFormed hagrees.seen (Or.inl ?_)
      intro edit hedit _
      change edit ∈ (if run.state.started then
        MeshRouter.tickEdits run.state.ctx.now run.state.ctx.pendingPackets else []) at hedit
      split at hedit
      · obtain ⟨dest, rfl⟩ := MeshRouter.mem_tickEditsFrom hedit
        trivial
      · cases hedit
  | _ =>
      rw [heardAfter_of_unheard rfl]
      exact hagrees.seen

theorem Agrees.step (hloads : LoadsSnapshots S) {run : Hearing S} (hagrees : run.Agrees)
    {event : MeshState.Event} (h : StaysFirstHand env run event) :
    (run.step env event).Agrees := by
  have hwellFormed :=
    @MeshState.wellFormed_nodeDb_step S _ env hloads run.state hagrees.wellFormed event
  cases hrestarts : MeshState.restarts env run.state event with
  | true =>
      have hrecord : (run.step env event).heardAt = fun _ => none := if_pos hrestarts
      refine ⟨hwellFormed, ?_, fun nodeNum t ht => ?_⟩
      · have hloaded := MeshState.nodeDb_of_restarts hrestarts
        rw [hrecord]
        change (MeshState.step env run.state event).ctx.nodeDb.Forall _
        rw [hloaded]
        exact h.unrestored hrestarts _
      · rw [hrecord] at ht
        cases ht
  | false =>
      have hrecord : (run.step env event).heardAt = run.heardAfter env event := by
        unfold Hearing.step
        rw [hrestarts]
        rfl
      refine ⟨hwellFormed, ?_, fun nodeNum t ht => ?_⟩
      · rw [hrecord]
        intro entry hentry
        change entry ∈ (MeshState.step env run.state event).ctx.nodeDb.nodes.toList at hentry
        rw [(MeshState.sameEntries_step hrestarts).1] at hentry
        exact seenAs_edits hagrees h entry hentry
      · rw [hrecord] at ht
        cases hheard : run.state.heardSender env event with
        | none =>
            rw [heardAfter_of_unheard hheard] at ht
            exact hagrees.positive nodeNum t ht
        | some sender =>
            rw [heardAfter_of_heard hheard] at ht
            by_cases hsame : nodeNum = sender
            · rw [hsame, Function.update_self] at ht
              rw [← Option.some.inj ht]
              exact h.timed (hheard ▸ rfl)
            · rw [Function.update_of_ne hsame] at ht
              exact hagrees.positive nodeNum t ht

theorem agrees_boot (hloads : LoadsSnapshots S) (mac : Bytes) (storage : S)
    (pkcKeypair : Key × Key) (entropy : Nat → UInt32) (huntimed : Untimed storage) :
    (boot env mac storage pkcKeypair entropy).Agrees where
  wellFormed := MeshState.wellFormed_boot hloads mac storage pkcKeypair entropy
  seen := huntimed _
  positive _ _ h := nomatch h

def after (env : Env) (mac : Bytes) (storage : S) (pkcKeypair : Key × Key)
    (entropy : Nat → UInt32) (events : List MeshState.Event) : Hearing S :=
  Transition.run (step env) (boot env mac storage pkcKeypair entropy) events

theorem state_after (mac : Bytes) (storage : S) (pkcKeypair : Key × Key)
    (entropy : Nat → UInt32) (events : List MeshState.Event) :
    (after env mac storage pkcKeypair entropy events).state =
      MeshState.after env mac storage pkcKeypair entropy events :=
  Transition.run_project (fun _ _ => rfl) (boot env mac storage pkcKeypair entropy) events

/-- As long as the times in the database are first hand, the online count is the number of known
nodes that were heard. -/
theorem onlineCount_after (hloads : LoadsSnapshots S) (mac : Bytes) (storage : S)
    (pkcKeypair : Key × Key) (entropy : Nat → UInt32) (events : List MeshState.Event)
    (huntimed : Untimed storage)
    (hok : Transition.Always (step env) (StaysFirstHand env)
      (boot env mac storage pkcKeypair entropy) events) :
    let run := after env mac storage pkcKeypair entropy events
    run.state = MeshState.after env mac storage pkcKeypair entropy events ∧ run.CountsHeard :=
  ⟨state_after mac storage pkcKeypair entropy events,
    (Transition.invariant_run (fun _ _ hagrees h => hagrees.step hloads h)
      (agrees_boot hloads mac storage pkcKeypair entropy huntimed) hok).counts⟩

/-! ## Sample runs -/

def plain (heardAt : UInt32 → Option Nat) : NodeDbEdit → Bool
  | .touch nodeNum _ none _ => (heardAt nodeNum).isNone
  | .contact _ _ => false
  | _ => true

def storesNoTime {F : Type} [NorFlash F] {baseOffset : Nat} (s : NvsStorage F baseOffset) : Bool :=
  match s.loadSector NODEDB_SECTOR SNAPSHOT_BYTES with
  | some buf =>
      (NodeDb.snapshotRecords buf (buf.getD 5 0).toNat).all fun record =>
        (decodeRecord record).all (·.lastSeenMs == 0)
  | none => true

theorem untimed_of_storesNoTime {F : Type} [NorFlash F] {baseOffset : Nat}
    {s : NvsStorage F baseOffset} (h : storesNoTime s = true) : Untimed s := by
  intro ourNodeNum
  change (s.loadNodeDb (NodeDb.new ourNodeNum)).Forall _
  unfold storesNoTime at h
  unfold NvsStorage.loadNodeDb
  split
  · rename_i buf hbuf
    rw [hbuf] at h
    refine (NodeDb.forall_new ourNodeNum).restoreSnapshot fun record hrecord entry hread => ?_
    have htime := List.all_eq_true.mp h record hrecord
    rw [hread] at htime
    exact beq_iff_eq.mp htime
  · exact NodeDb.forall_new ourNodeNum

/-- What can be checked of a step on a board, for it to stay first hand. -/
def staysPlain {F : Type} [NorFlash F] {baseOffset : Nat} (env : Env)
    (run : Hearing (NvsStorage F baseOffset)) (event : MeshState.Event) : Bool :=
  (MeshState.edits env run.state event).all (plain (run.heardAfter env event)) &&
    ((!MeshState.restarts env run.state event ||
        storesNoTime (MeshState.reopened env run.state event)) &&
      (((run.state.heardSender env event).isNone || decide (0 < run.state.ctx.now)) &&
        match event with
        | .mesh (.loraRx frame metadata) =>
            (FromRadio.newPacket env (MeshState.noteActivity run.state.ctx (.loraRx frame metadata))
              frame).isSome
        | _ => true))

theorem staysFirstHand_of_staysPlain {F : Type} [NorFlash F] {baseOffset : Nat}
    {run : Hearing (NvsStorage F baseOffset)} {event : MeshState.Event}
    (h : staysPlain env run event = true) : StaysFirstHand env run event := by
  unfold staysPlain at h
  rw [Bool.and_eq_true, Bool.and_eq_true, Bool.and_eq_true, Bool.or_eq_true, Bool.or_eq_true,
    decide_eq_true_eq] at h
  obtain ⟨hplain, hrestored, htimed, hfresh⟩ := h
  constructor
  case timed =>
    intro hheard
    rcases htimed with hnone | hlater
    · rw [Option.isNone_iff_eq_none.mp hnone] at hheard
      cases hheard
    · exact hlater
  case fresh =>
    rintro frame metadata rfl - -
    exact Or.inl hfresh
  case unmentioned =>
    intro nodeNum hmention
    exact Option.isNone_iff_eq_none.mp (List.all_eq_true.mp hplain _ hmention)
  case unadded =>
    intro contact user hcontact
    exact nomatch List.all_eq_true.mp hplain _ hcontact
  case unrestored =>
    intro hrestarts
    rcases hrestored with hnever | hnone
    · rw [hrestarts] at hnever
      cases hnever
    · exact untimed_of_storesNoTime hnone

def mergeNeighbor (nb : Neighbor) (field : Lib.Protobuf.Field) : Option Neighbor :=
  match field.number, field.value with
  | 1, .varint n => some { nb with nodeId := UInt32.ofNat n }
  | 2, .fixed32 _ => some nb
  | 3, .fixed32 word => some { nb with lastRxTime := word }
  | 4, .varint n => some { nb with nodeBroadcastIntervalSecs := UInt32.ofNat n }
  | number, _ => if number ≤ 4 then none else some nb

def mergeNeighborInfo (info : NeighborInfo) (field : Lib.Protobuf.Field) : Option NeighborInfo :=
  match field.number, field.value with
  | 1, .varint n => some { info with nodeId := UInt32.ofNat n }
  | 2, .varint n => some { info with lastSentById := UInt32.ofNat n }
  | 3, .varint n => some { info with nodeBroadcastIntervalSecs := UInt32.ofNat n }
  | 4, .bytes content =>
      ((Lib.Protobuf.decodeFields content).bind fun fields =>
        fields.foldlM mergeNeighbor ⟨0, 0, 0, 0⟩).map fun nb =>
          { info with neighbors := info.neighbors ++ [nb] }
  | number, _ => if number ≤ 4 then none else some info

def neighborInfoCodec : Codec NeighborInfo :=
  { KnownAnswers.noCodec with
    decode := fun bytes => (Lib.Protobuf.decodeFields bytes).bind fun fields =>
      fields.foldlM mergeNeighborInfo ⟨0, 0, 0, []⟩ }

/-- The keystream of a frame from node `0x11223345` besides. -/
def neighborAnswers : KnownAnswers :=
  { KnownAnswers.defaultKey with
    aesCtr := (DEFAULT_PSK, buildNonce 10 0x11223345,
      [0xe3, 0x63, 0x07, 0x2d, 0xe8, 0xd0, 0x8a, 0xa3, 0x7d, 0xa0, 0x51, 0xa0, 0xde, 0x3c, 0x4f,
       0xa1]) :: KnownAnswers.defaultKey.aesCtr }

def neighborEnv : Env :=
  { neighborAnswers.env with
    prost := { KnownAnswers.prost with neighborInfo := neighborInfoCodec } }

/-- Node `0x11223344` broadcasts a position. -/
def heardFrame : RadioFrame where
  bytes :=
    [0xff, 0xff, 0xff, 0xff, 0x44, 0x33, 0x22, 0x11, 0x09, 0x00, 0x00, 0x00, 0x63, 0x08, 0x00,
     0x44, 0x66, 0x05]
  length_le := by simp [MAX_LORA_PAYLOAD_LEN]

/-- Node `0x11223345` broadcasts that it has `0x11223344` as a neighbor. -/
def mentioningFrame : RadioFrame where
  bytes :=
    [0xff, 0xff, 0xff, 0xff, 0x45, 0x33, 0x22, 0x11, 0x0a, 0x00, 0x00, 0x00, 0x63, 0x08, 0x00,
     0x45, 0xeb, 0x24, 0x15, 0x25, 0xca, 0xd6, 0x82, 0x67, 0x9b, 0x28, 0xd8, 0xa1]
  length_le := by simp [MAX_LORA_PAYLOAD_LEN]

/-- A second after the boot the node hears one neighbor. -/
def hearing : List MeshState.Event :=
  [.announce, .elapse 1000, .mesh (.loraRx heardFrame ⟨0, 0⟩)]

/-- Another second later it hears the other, which mentions the first. -/
def mentioning : List MeshState.Event :=
  hearing ++ [.elapse 1000, .mesh (.loraRx mentioningFrame ⟨0, 0⟩)]

def sample (events : List MeshState.Event) : Hearing FakeStorage :=
  after neighborEnv KnownAnswers.mac {} KnownAnswers.noKeypair KnownAnswers.noEntropy events

/-- Node `0x11223345` broadcasts that it has `0x11223366` as a neighbor. -/
def introducingFrame : RadioFrame where
  bytes :=
    [0xff, 0xff, 0xff, 0xff, 0x45, 0x33, 0x22, 0x11, 0x0a, 0x00, 0x00, 0x00, 0x63, 0x08, 0x00,
     0x45, 0xeb, 0x24, 0x15, 0x25, 0xca, 0xd6, 0x82, 0x45, 0x9b, 0x28, 0xd8, 0xa1]
  length_le := by simp [MAX_LORA_PAYLOAD_LEN]

def informedBoard : (@wholeFlash Medium.nor).Storage :=
  ((NvsStorage.opened wholeFlash NvsStorage.blankImage).saveNodeDb
    ((NodeDb.new 0x28123456).touch 0x11223377 0 none 0)).1

/-- The node hears a neighbor, loses its power, and hears it again and then another one, which
mentions a third. -/
def rehearing : List MeshState.Event :=
  hearing ++ .powerCycle :: hearing ++ [.elapse 1000, .mesh (.loraRx introducingFrame ⟨0, 0⟩)]

def rehearingNode : Hearing (@wholeFlash Medium.nor).Storage :=
  boot neighborEnv KnownAnswers.mac informedBoard KnownAnswers.noKeypair KnownAnswers.noEntropy

/-- Of the four nodes that are known after the restart two were heard. -/
theorem hearing_counts :
    let run := after neighborEnv KnownAnswers.mac informedBoard KnownAnswers.noKeypair
      KnownAnswers.noEntropy rehearing
    run.state.ctx.nodeDb.numbers = [0x11223377, 0x11223344, 0x11223345, 0x11223366] ∧
      run.state.ctx.nodeDb.onlineCount 2000 60000 = 2 ∧ run.CountsHeard := by
  have hplain : Transition.Always (step neighborEnv)
      (fun run event => staysPlain neighborEnv run event = true) rehearingNode rehearing := by
    decide +kernel
  refine ⟨by decide +kernel, by decide +kernel, (onlineCount_after loadsSnapshots_nvs
    KnownAnswers.mac informedBoard KnownAnswers.noKeypair KnownAnswers.noEntropy rehearing
    (untimed_of_storesNoTime (by decide +kernel)) fun t ht => ?_).2⟩
  exact staysFirstHand_of_staysPlain (hplain t ht)

/-- Two nodes were heard in the last minute and one is counted.  After a restart one is counted
before anything is heard. -/
theorem mentioning_miscounts :
    (sample mentioning).state.ctx.nodeDb.onlineCount (sample mentioning).state.ctx.now 60000 = 1 ∧
    ((sample mentioning).state.ctx.nodeDb.nodes.toList.countP fun n =>
      (sample mentioning).heardWithin 60000 n.nodeNum) = 2 ∧
    ¬ (sample mentioning).CountsHeard ∧
    ((NodeDb.new 0x28123456).restoreSnapshot
      (sample hearing).state.ctx.nodeDb.toSnapshot).1.onlineCount 0 60000 = 1 :=
  ⟨by decide +kernel, by decide +kernel, fun h => absurd (h 60000) (by decide +kernel),
    by decide +kernel⟩

end Hearing

end Meshtastenstein
