import Meshtastenstein.MessageRoom
import Meshtastenstein.NodeDbEntries
/-!
# Positions that were heard

Where another node is, is known from its frames only: no snapshot and no request of the phone
puts a position into the database.  So every position in it has the size of a decoded one.
-/

namespace Meshtastenstein

open Lib Proto Handlers

variable {S : Type} {env : Env}

/-! ## Edits -/

def NodeDbEdit.StoresHeard (env : Env) : NodeDbEdit → Prop
  | .position _ pos => ∃ bytes, env.prost.position.decode bytes = some pos
  | _ => True

namespace NodeDb

theorem placed_edit (hcompact : env.prost.Compact) {db : NodeDb} (h : db.Forall NodeEntry.Placed)
    {edit : NodeDbEdit} (hheard : edit.StoresHeard env) :
    (edit.apply db).Forall NodeEntry.Placed := by
  have hnew : ∀ nodeNum : UInt32, NodeEntry.Placed { nodeNum := nodeNum } :=
    fun _ _ hat => nomatch hat
  cases edit with
  | touch nodeNum time snr nowMs =>
      exact h.touch time snr nowMs (fun _ => hnew nodeNum) fun _ hentry => hentry
  | hopsAway nodeNum hops => exact h.modify nodeNum fun _ hentry => hentry
  | position nodeNum pos =>
      obtain ⟨bytes, hdecode⟩ := hheard
      refine h.upsert (fun _ => hnew nodeNum) fun _ _ stored hat => ?_
      cases hat
      exact hcompact.positionOf bytes pos hdecode
  | user nodeNum usr =>
      exact h.storeUser (fun _ => hnew nodeNum) (fun _ _ _ hentry => hentry) fun _ hentry => hentry
  | deviceMetrics nodeNum metrics =>
      exact h.upsert (fun _ => hnew nodeNum) fun _ hentry => hentry
  | learnRoute sender relayNode =>
      unfold NodeDbEdit.apply
      dsimp only
      generalize (if relayNode ≠ 0 then relayNode else lastByte sender) = nextHop
      split
      · exact h
      · exact h.upsert (fun _ => hnew sender) fun _ hentry => hentry
  | clearRoute dest => exact h.modify dest fun _ hentry => hentry
  | favorite nodeNum fav => exact h.setFavorite nodeNum fun _ hentry => hentry
  | ignored nodeNum ign =>
      refine h.setIgnored nodeNum fun entry hentry stored hat => ?_
      dsimp only at hat
      split at hat
      · cases hat
      · exact hentry stored hat
  | toggleMuted nodeNum => exact h.toggleMuted nodeNum fun _ hentry => hentry
  | contact shared usr =>
      exact h.addContactToDb (fun _ => hnew shared.nodeNum) (fun _ hentry => hentry)
        (fun _ _ _ hentry => hentry) (fun _ _ hentry => hentry) fun _ _ _ hat => nomatch hat
  | remove nodeNum => exact h.remove nodeNum
  | reset ourNodeNum => exact forall_new ourNodeNum

end NodeDb

namespace Handlers

theorem storesHeard_admin {ctx : MeshCtx S} {bytes : Bytes} {viaLora : Bool} {edit : NodeDbEdit}
    (h : edit ∈ Admin.edits env ctx bytes viaLora) : edit.StoresHeard env := by
  unfold Admin.edits at h
  cases hcommand : Admin.command env ctx bytes viaLora with
  | none =>
      rw [hcommand] at h
      cases h
  | some variant =>
      rw [hcommand] at h
      change edit ∈ Admin.variantEdits ctx.device.myNodeNum variant at h
      cases variant with
      | addContact contact =>
          obtain ⟨user, -, rfl⟩ := Option.map_eq_some_iff.mp (Option.mem_toList.mp h)
          trivial
      | setFavoriteNode _ | removeFavoriteNode _ | setIgnoredNode _ | removeIgnoredNode _
      | toggleMutedNode _ | nodedbReset _ | removeByNodenum _ =>
          rw [List.mem_singleton.mp h]
          trivial
      | _ => cases h

theorem storesHeard_portnum {ctx : MeshCtx S} {portnum : Int32} {pkt : FromRadio.InboundPacket}
    {edit : NodeDbEdit} (h : edit ∈ FromRadio.portnumEdits env ctx portnum pkt) :
    edit.StoresHeard env := by
  unfold FromRadio.portnumEdits at h
  split at h
  · obtain ⟨position, hdecode, rfl⟩ := Option.map_eq_some_iff.mp (Option.mem_toList.mp h)
    exact ⟨_, hdecode⟩
  · obtain ⟨user, -, rfl⟩ := Option.map_eq_some_iff.mp (Option.mem_toList.mp h)
    trivial
  · split at h
    · split at h
      · rw [List.mem_singleton.mp h]
        trivial
      · cases h
    · cases h
  · split at h
    · rw [List.mem_singleton.mp h]
      trivial
    · cases h
  · split at h
    · obtain ⟨neighbor, -, rfl⟩ := List.mem_map.mp h
      trivial
    · cases h
  · split at h
    · exact storesHeard_admin h
    · cases h
  · cases h

end Handlers

/-! ## Steps -/

namespace MeshState

theorem storesHeard_edits {state : MeshState S} {event : Event} :
    ∀ edit ∈ edits env state event, edit.StoresHeard env := by
  intro edit hedit
  rcases edits_cases hedit with
    ⟨frame, metadata, header, decoded, -, -, ctx, hpacket⟩ | ⟨ctx, bytes, viaLora, hadmin⟩ |
      ⟨dest, rfl⟩
  · rcases List.mem_append.mp hpacket with hnote | hport
    · rcases List.mem_cons.mp hnote with rfl | hnote
      · trivial
      · rw [List.mem_singleton.mp hnote]
        trivial
    · exact storesHeard_portnum hport
  · exact storesHeard_admin hadmin
  · trivial

theorem placed_decodeRecord {record : Bytes} {entry : NodeEntry}
    (h : decodeRecord record = some entry) : entry.Placed := by
  unfold decodeRecord at h
  dsimp only at h
  split at h
  · cases h
  · cases h
    exact fun _ hat => nomatch hat

variable [MeshStorage S]

theorem placed_boot (hloads : LoadsSnapshots S) (mac : Bytes) (storage : S)
    (pkcKeypair : Key × Key) (entropy : Nat → UInt32) :
    (boot env mac storage pkcKeypair entropy).ctx.nodeDb.Forall NodeEntry.Placed :=
  forall_boot hloads (fun _ _ hread => placed_decodeRecord hread) mac storage pkcKeypair entropy

theorem placed_step (hcompact : env.prost.Compact) (hloads : LoadsSnapshots S)
    {state : MeshState S} {event : Event} (h : state.ctx.nodeDb.Forall NodeEntry.Placed) :
    (step env state event).ctx.nodeDb.Forall NodeEntry.Placed :=
  forall_nodeDb_step hloads (fun _ _ hread => placed_decodeRecord hread)
    (fun edit hedit _ hdb => NodeDb.placed_edit hcompact hdb (storesHeard_edits edit hedit)) h

end MeshState

end Meshtastenstein
