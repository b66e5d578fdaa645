import Meshtastenstein.DirtyFlag
import Meshtastenstein.OnlineCount
import Meshtastenstein.SnapshotRoundTrip
import Meshtastenstein.Upkeep
/-!
# Notes of the distance and the way

The node database notes of another node how many hops it is away and which neighbour leads to
it.  Both are taken from headers of frames that were heard from that node, whatever else is
edited, saved, restored or pruned in the meantime.
-/

namespace Meshtastenstein

open Lib Lib.NorFlash Lib.WorkingFlash Proto Handlers

/-! ## Notes and edits -/

structure NodeEntry.Noted (heard : PacketHeader → Prop) (entry : NodeEntry) : Prop where
  hops : ∀ hops, entry.hopsAway = some hops → ∃ header, heard header ∧
    header.sender = entry.nodeNum ∧ FromRadio.hopsAway header = some hops
  route : entry.nextHop ≠ NO_NEXT_HOP → ∃ header, heard header ∧
    header.sender = entry.nodeNum ∧ entry.nextHop = learnedHop header.sender header.relayNode

def NodeDbEdit.Notes (heard : PacketHeader → Prop) : NodeDbEdit → Prop
  | .touch _ time _ _ => time = 0
  | .hopsAway nodeNum hops => ∃ header, heard header ∧ header.sender = nodeNum ∧
      FromRadio.hopsAway header = hops
  | .learnRoute sender relayNode => ∃ header, heard header ∧ header.sender = sender ∧
      header.relayNode = relayNode
  | _ => True

namespace NodeDb

variable {heard : PacketHeader → Prop} {db : NodeDb}

theorem noted_new (nodeNum : UInt32) : NodeEntry.Noted heard { nodeNum := nodeNum } :=
  ⟨fun _ h => (nomatch h), fun h => absurd rfl h⟩

theorem Forall.modifyAtOf {P : NodeEntry → Prop} (h : Forall P db) {idx : Nat} {nodeNum : UInt32}
    (hnum : db.numbers[idx]? = some nodeNum) {f : NodeEntry → NodeEntry}
    (hf : ∀ entry, entry.nodeNum = nodeNum → P entry → P (f entry)) :
    Forall P (db.modifyAt idx f) := by
  intro entry hentry
  obtain ⟨i, hi⟩ := List.mem_iff_getElem?.mp hentry
  change (db.nodes.toList.modify idx f)[i]? = some entry at hi
  rw [List.getElem?_modify] at hi
  obtain ⟨old, hold, hnew⟩ := Option.map_eq_some_iff.mp hi
  have hknown := h old (List.mem_of_getElem? hold)
  by_cases hidx : idx = i
  · rw [if_pos hidx] at hnew
    rw [numbers, List.getElem?_map, hidx, hold] at hnum
    rw [← hnew]
    exact hf old (Option.some.inj hnum) hknown
  · rw [if_neg hidx] at hnew
    rw [← hnew]
    exact hknown

theorem Forall.modifyOf {P : NodeEntry → Prop} (h : Forall P db) {nodeNum : UInt32}
    {f : NodeEntry → NodeEntry} (hf : ∀ entry, entry.nodeNum = nodeNum → P entry → P (f entry)) :
    Forall P (db.modify nodeNum f) := by
  unfold NodeDb.modify
  cases hposition : db.position nodeNum with
  | some idx =>
      obtain ⟨hidx, hnum, -⟩ := List.findIdx?_eq_some_iff_getElem.mp hposition
      refine h.modifyAtOf ?_ hf
      rw [numbers, List.getElem?_map, List.getElem?_eq_getElem hidx]
      exact congrArg some (beq_iff_eq.mp hnum)
  | none => exact h

theorem noted_edit (h : db.Forall (NodeEntry.Noted heard)) {edit : NodeDbEdit}
    (hnotes : edit.Notes heard) : (edit.apply db).Forall (NodeEntry.Noted heard) := by
  have hsame : ∀ f : NodeEntry → NodeEntry, (∀ entry, (f entry).nodeNum = entry.nodeNum ∧
      (f entry).hopsAway = entry.hopsAway ∧ (f entry).nextHop = entry.nextHop) →
      ∀ entry : NodeEntry, entry.Noted heard → (f entry).Noted heard := by
    intro f hf entry hentry
    obtain ⟨hnum, hhops, hroute⟩ := hf entry
    constructor
    · rw [hnum, hhops]
      exact hentry.hops
    · rw [hnum, hroute]
      exact hentry.route
  cases edit with
  | touch nodeNum time snr nowMs =>
      exact h.touch time snr nowMs (fun _ => noted_new nodeNum) (hsame _ fun _ => ⟨rfl, rfl, rfl⟩)
  | hopsAway nodeNum hops =>
      obtain ⟨header, hheard, hsender, hhops⟩ := hnotes
      refine h.modifyOf fun entry hnum hentry => ⟨fun noted hnoted => ?_, hentry.route⟩
      exact ⟨header, hheard, hsender.trans hnum.symm, hhops.trans hnoted⟩
  | position nodeNum pos =>
      exact h.upsert (fun _ => noted_new nodeNum) (hsame _ fun _ => ⟨rfl, rfl, rfl⟩)
  | user nodeNum usr =>
      exact h.storeUser (fun _ => noted_new nodeNum)
        (fun _ _ => hsame _ fun _ => ⟨rfl, rfl, rfl⟩) (hsame _ fun _ => ⟨rfl, rfl, rfl⟩)
  | deviceMetrics nodeNum metrics =>
      exact h.upsert (fun _ => noted_new nodeNum) (hsame _ fun _ => ⟨rfl, rfl, rfl⟩)
  | learnRoute sender relayNode =>
      obtain ⟨header, hheard, hsender, hrelay⟩ := hnotes
      change Forall _ (if learnedHop sender relayNode = NO_NEXT_HOP then db
        else db.upsert sender fun entry => { entry with nextHop := learnedHop sender relayNode })
      split
      · exact h
      · unfold NodeDb.upsert
        cases hcreate : db.getOrCreate sender with
        | none => exact h
        | some created =>
            refine (h.getOrCreate (fun _ => noted_new sender) hcreate).modifyAtOf
              (getElem?_numbers_getOrCreate hcreate) fun entry hnum hentry =>
                ⟨hentry.hops, fun _ => ⟨header, hheard, hsender.trans hnum.symm, ?_⟩⟩
            rw [hsender, hrelay]
  | clearRoute dest => exact h.modify dest fun _ hentry => ⟨hentry.hops, fun hne => absurd rfl hne⟩
  | favorite nodeNum fav => exact h.setFavorite nodeNum (hsame _ fun _ => ⟨rfl, rfl, rfl⟩)
  | ignored nodeNum ign => exact h.setIgnored nodeNum (hsame _ fun _ => ⟨rfl, rfl, rfl⟩)
  | toggleMuted nodeNum => exact h.toggleMuted nodeNum (hsame _ fun _ => ⟨rfl, rfl, rfl⟩)
  | contact shared usr =>
      exact h.addContactToDb (fun _ => noted_new shared.nodeNum) (hsame _ fun _ => ⟨rfl, rfl, rfl⟩)
        (fun _ _ => hsame _ fun _ => ⟨rfl, rfl, rfl⟩) (fun _ => hsame _ fun _ => ⟨rfl, rfl, rfl⟩)
        (hsame _ fun _ => ⟨rfl, rfl, rfl⟩)
  | remove nodeNum => exact h.remove nodeNum
  | reset ourNodeNum => exact forall_new ourNodeNum

theorem noted_edited {edits : List NodeDbEdit} (h : db.Forall (NodeEntry.Noted heard))
    (hnotes : ∀ edit ∈ edits, edit.Notes heard) :
    (db.edited edits).Forall (NodeEntry.Noted heard) := by
  induction edits generalizing db with
  | nil => exact h
  | cons edit edits ih =>
      apply ih (noted_edit h (hnotes edit List.mem_cons_self))
      exact fun e he => hnotes e (List.mem_cons_of_mem _ he)

/-! ## On flash -/

theorem Forall.restored {P : NodeEntry → Prop} (hreread : ∀ entry, P entry → P entry.reread)
    {saved : NodeDb} (h : saved.Forall P) (hdb : db.Forall P) :
    (db.restoreSnapshot saved.toSnapshot).1.Forall P := by
  rw [restoreSnapshot_toSnapshot]
  refine Forall.restoreRecords (fun entry hentry => hdb entry (List.mem_of_mem_filter hentry)) ?_
  intro record hrecord entry hread
  obtain ⟨known, hknown, rfl⟩ := List.mem_map.mp hrecord
  have hmem : known ∈ saved.nodes.toList :=
    (List.mem_insertionSort _).mp (List.mem_of_mem_take hknown)
  rw [decodeRecord_encodeRecord_eq] at hread
  split at hread
  · cases hread
  · rw [← Option.some.inj hread]
    exact hreread known (h known hmem)

end NodeDb

def SavedRecords.restored (records : SavedRecords) (db : NodeDb) : NodeDb :=
  match records.snapshot with
  | some buf => (db.restoreSnapshot buf).1
  | none => db

def SavedRecords.Stores (P : NodeEntry → Prop) (records : SavedRecords) : Prop :=
  ∀ db : NodeDb, db.Forall P → (records.restored db).Forall P

theorem SavedRecords.Stores.step {P : NodeEntry → Prop} {records : SavedRecords}
    (h : records.Stores P) (hreread : ∀ entry, P entry → P entry.reread)
    {nodes : Bounded NodeEntry MAX_NODES} (hnodes : ∀ entry ∈ nodes.toList, P entry)
    {op : StorageOp} (hop : op.IsUpkeep nodes) : (records.step op).Stores P := by
  intro db hdb
  cases op with
  | saveNodeDb saved =>
      have hsaved : saved.Forall P := by
        intro entry hentry
        rw [show saved.nodes = nodes from hop] at hentry
        exact hnodes entry hentry
      exact NodeDb.Forall.restored hreread hsaved hdb
  | eraseConfig =>
      change (db.restoreSnapshot (List.replicate SNAPSHOT_BYTES 0xff)).1.Forall P
      rw [restoreSnapshot_erased]
      exact hdb
  | _ => exact h db hdb

section Flash

variable {medium : Medium} {F : Type} [WorkingFlash medium F] {partition : Partition F}

theorem NvsStorage.loadNodeDb_eq (s : partition.Storage) (db : NodeDb) :
    s.loadNodeDb db = s.records.restored db := rfl

theorem Tended.stores {P : NodeEntry → Prop} (hreread : ∀ entry, P entry → P entry.reread)
    {nodes : Bounded NodeEntry MAX_NODES} (hnodes : ∀ entry ∈ nodes.toList, P entry)
    {storage storage' : partition.Storage} (h : Tended nodes storage storage')
    (hstored : storage.records.Stores P) : storage'.records.Stores P := by
  obtain ⟨ops, hops, rfl⟩ := h
  rw [NvsStorage.records_run]
  refine @Transition.invariant_run _ _ SavedRecords.step (SavedRecords.Stores P)
    (fun _ op => op.IsUpkeep nodes) ?_ _ ops hstored (Transition.always_of_forall hops _)
  exact fun records op hrecords hop => hrecords.step hreread hnodes hop

namespace MeshState

structure Keeps (P : NodeEntry → Prop) (state : MeshState partition.Storage) : Prop where
  known : state.ctx.nodeDb.Forall P
  stored : state.ctx.storage.records.Stores P

variable {P : NodeEntry → Prop} {env : Env}

theorem keeps_boot {storage : partition.Storage} (h : storage.records.Stores P) (mac : Bytes)
    (pkcKeypair : Key × Key) (entropy : Nat → UInt32) :
    Keeps P (boot env mac storage pkcKeypair entropy) :=
  ⟨h _ (NodeDb.forall_new _), h⟩

theorem Keeps.step {state : MeshState partition.Storage} (h : Keeps P state)
    (hreread : ∀ entry, P entry → P entry.reread) {event : Event}
    (hsized : ∀ mesh, event = .mesh mesh → mesh.Sized)
    (hedited : (state.ctx.nodeDb.edited (edits env state event)).Forall P) :
    Keeps P (MeshState.step env state event) := by
  have hnodes := hedited
  rw [← nodeDb_handled] at hnodes
  have hstored := (tended_step state hsized).stores hreread hnodes h.stored
  refine ⟨?_, hstored⟩
  cases hrestarts : restarts env state event with
  | false =>
      obtain ⟨hsame, -⟩ := sameEntries_step hrestarts
      intro entry hentry
      rw [hsame] at hentry
      exact hedited entry hentry
  | true =>
      obtain ⟨housed, -, hreboot⟩ := step_of_restarts hrestarts
      rw [hreboot] at hstored ⊢
      exact hstored _ (NodeDb.forall_new _)

end MeshState

end Flash

/-! ## What a step notes -/

namespace Handlers

variable {S : Type} {env : Env} {heard : PacketHeader → Prop}

theorem notes_admin {ctx : MeshCtx S} {bytes : Bytes} {viaLora : Bool} :
    ∀ edit ∈ Admin.edits env ctx bytes viaLora, edit.Notes heard := by
  intro edit hedit
  unfold Admin.edits at hedit
  cases hcommand : Admin.command env ctx bytes viaLora with
  | none =>
      rw [hcommand] at hedit
      cases hedit
  | some variant =>
      rw [hcommand] at hedit
      change edit ∈ Admin.variantEdits ctx.device.myNodeNum variant at hedit
      cases variant with
      | addContact contact =>
          obtain ⟨user, -, rfl⟩ := Option.map_eq_some_iff.mp (Option.mem_toList.mp hedit)
          trivial
      | setFavoriteNode _ | removeFavoriteNode _ | setIgnoredNode _ | removeIgnoredNode _
      | toggleMutedNode _ | nodedbReset _ | removeByNodenum _ =>
          rw [List.mem_singleton.mp hedit]
          trivial
      | _ => cases hedit

theorem notes_packet {ctx : MeshCtx S} {header : PacketHeader} (hheard : heard header)
    (metadata : RadioMetadata) (decoded : FromRadio.DecodedPayload) :
    ∀ edit ∈ FromRadio.noteEdits header metadata ctx.now ++
        FromRadio.portnumEdits env ctx decoded.portnum
          (FromRadio.inboundPacket ctx.device header metadata decoded), edit.Notes heard := by
  intro edit hedit
  rcases List.mem_append.mp hedit with hnote | hport
  · rcases List.mem_cons.mp hnote with rfl | hnote
    · rfl
    · rw [List.mem_singleton.mp hnote]
      exact ⟨header, hheard, rfl, rfl⟩
  · unfold FromRadio.portnumEdits at hport
    split at hport
    · obtain ⟨pos, -, rfl⟩ := Option.map_eq_some_iff.mp (Option.mem_toList.mp hport)
      trivial
    · obtain ⟨user, -, rfl⟩ := Option.map_eq_some_iff.mp (Option.mem_toList.mp hport)
      trivial
    · split at hport
      · split at hport
        · rw [List.mem_singleton.mp hport]
          exact ⟨header, hheard, rfl, rfl⟩
        · cases hport
      · cases hport
    · split at hport
      · rw [List.mem_singleton.mp hport]
        trivial
      · cases hport
    · split at hport
      · obtain ⟨neighbor, -, rfl⟩ := List.mem_map.mp hport
        rfl
      · cases hport
    · split at hport
      · exact notes_admin edit hport
      · cases hport
    · cases hport

end Handlers

namespace MeshState

variable {S : Type} {env : Env} {heard : PacketHeader → Prop}

def Event.HeardAs (heard : PacketHeader → Prop) (event : Event) : Prop :=
  ∀ frame metadata header, event = .mesh (.loraRx frame metadata) → frame.header = some header →
    heard header

theorem notes_edits (state : MeshState S) {event : Event} (h : event.HeardAs heard) :
    ∀ edit ∈ edits env state event, edit.Notes heard := by
  intro edit hedit
  rcases edits_cases hedit with
    ⟨frame, metadata, header, decoded, hevent, hheader, ctx, hpacket⟩ |
      ⟨ctx, bytes, viaLora, hadmin⟩ | ⟨dest, rfl⟩
  · exact notes_packet (h frame metadata header hevent hheader) metadata decoded edit hpacket
  · exact notes_admin edit hadmin
  · trivial

variable {medium : Medium} {F : Type} [WorkingFlash medium F] {partition : Partition F}

theorem Keeps.noted_step {state : MeshState partition.Storage}
    (h : Keeps (NodeEntry.Noted heard) state) {event : Event}
    (hsized : ∀ mesh, event = .mesh mesh → mesh.Sized) (hheard : event.HeardAs heard) :
    Keeps (NodeEntry.Noted heard) (MeshState.step env state event) :=
  h.step (fun _ hentry => ⟨hentry.hops, hentry.route⟩) hsized
    (NodeDb.noted_edited h.known (notes_edits state hheard))

end MeshState

end Meshtastenstein
