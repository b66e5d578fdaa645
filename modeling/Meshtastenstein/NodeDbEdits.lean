import Meshtastenstein.MeshTask
/-!
# Edits of the node database

Everything the handlers, the router and the administrator do to the node database, one
edit at a time, and the edits that handling an event makes.
-/

namespace Meshtastenstein

open Lib Proto Handlers

/-! ## Edits -/

inductive NodeDbEdit
  | touch (nodeNum time : UInt32) (snr : Option Int8) (nowMs : Nat)
  | hopsAway (nodeNum : UInt32) (hops : Option UInt8)
  | position (nodeNum : UInt32) (position : Position)
  | user (nodeNum : UInt32) (user : User)
  | deviceMetrics (nodeNum : UInt32) (metrics : DeviceMetrics)
  | learnRoute (sender : UInt32) (relayNode : UInt8)
  /-- The last retry towards a node falls back to flooding. -/
  | clearRoute (dest : UInt32)
  | favorite (nodeNum : UInt32) (favorite : Bool)
  | ignored (nodeNum : UInt32) (ignored : Bool)
  | toggleMuted (nodeNum : UInt32)
  | contact (contact : SharedContact) (user : User)
  | remove (nodeNum : UInt32)
  /-- The database of a node without others. -/
  | reset (ourNodeNum : UInt32)

namespace NodeDbEdit

def apply (db : NodeDb) : NodeDbEdit → NodeDb
  | .touch nodeNum time snr nowMs => db.touch nodeNum time snr nowMs
  | .hopsAway nodeNum hops => db.modify nodeNum fun entry => { entry with hopsAway := hops }
  | .position nodeNum pos => db.updatePosition nodeNum pos
  | .user nodeNum usr => FromRadio.storeUser db nodeNum usr
  | .deviceMetrics nodeNum metrics => db.updateDeviceMetrics nodeNum metrics
  | .learnRoute sender relayNode =>
      let nextHop := if relayNode ≠ 0 then relayNode else lastByte sender
      if nextHop = NO_NEXT_HOP then db
      else db.upsert sender fun entry => { entry with nextHop := nextHop }
  | .clearRoute dest => db.modify dest fun n => { n with nextHop := NO_NEXT_HOP }
  | .favorite nodeNum fav => db.setFavorite nodeNum fav
  | .ignored nodeNum ign => db.setIgnored nodeNum ign
  | .toggleMuted nodeNum => db.toggleMuted nodeNum
  | .contact shared usr => Admin.addContactToDb db shared usr
  | .remove nodeNum => db.remove nodeNum
  | .reset ourNodeNum => NodeDb.new ourNodeNum

end NodeDbEdit

def NodeDb.edited (db : NodeDb) (edits : List NodeDbEdit) : NodeDb :=
  edits.foldl NodeDbEdit.apply db

theorem NodeDb.edited_append (db : NodeDb) (edits edits' : List NodeDbEdit) :
    db.edited (edits ++ edits') = (db.edited edits).edited edits' :=
  List.foldl_append

/-! ## Edits of the handlers -/

variable {S : Type} (env : Env)

namespace Handlers.Admin

def variantEdits (ourNodeNum : UInt32) : AdminMessage.Variant → List NodeDbEdit
  | .setFavoriteNode nodeNum => [.favorite nodeNum true]
  | .removeFavoriteNode nodeNum => [.favorite nodeNum false]
  | .setIgnoredNode nodeNum => [.ignored nodeNum true]
  | .removeIgnoredNode nodeNum => [.ignored nodeNum false]
  | .toggleMutedNode nodeNum => [.toggleMuted nodeNum]
  | .addContact contact => (contact.user.map fun user => .contact contact user).toList
  | .nodedbReset _ => [.reset ourNodeNum]
  | .removeByNodenum nodeNum => [.remove nodeNum]
  | _ => []

def command (ctx : MeshCtx S) (adminBytes : Bytes) (viaLora : Bool) :
    Option AdminMessage.Variant :=
  (env.prost.adminMessage.decode adminBytes).bind fun msg =>
    if isAuthorized ctx msg viaLora then msg.payloadVariant else none

def edits (ctx : MeshCtx S) (adminBytes : Bytes) (viaLora : Bool) : List NodeDbEdit :=
  ((command env ctx adminBytes viaLora).map (variantEdits ctx.device.myNodeNum)).getD []

end Handlers.Admin

namespace Handlers.FromRadio

def noteEdits (header : PacketHeader) (metadata : RadioMetadata) (now : Nat) :
    List NodeDbEdit :=
  [.touch header.sender 0 (some metadata.snr) now, .hopsAway header.sender (hopsAway header)]

def portnumEdits (ctx : MeshCtx S) (portnum : Int32) (pkt : InboundPacket) : List NodeDbEdit :=
  match PortNum.tryFrom portnum with
  | some .positionApp =>
      ((env.prost.position.decode pkt.payload).map (.position pkt.sender)).toList
  | some .nodeinfoApp => ((env.prost.user.decode pkt.payload).map (.user pkt.sender)).toList
  | some .routingApp =>
      match env.prost.routing.decode pkt.payload with
      | some _ => if pkt.requestId ≠ 0 then [.learnRoute pkt.sender pkt.relayNode] else []
      | none => []
  | some .telemetryApp =>
      match env.prost.telemetry.decode pkt.payload with
      | some { variant := some (.deviceMetrics metrics), .. } =>
          [.deviceMetrics pkt.sender metrics]
      | _ => []
  | some .neighborinfoApp =>
      match env.prost.neighborInfo.decode pkt.payload with
      | some info => info.neighbors.map fun nb => .touch nb.nodeId 0 none 0
      | none => []
  | some .adminApp => if pkt.addressedToUs then Admin.edits env ctx pkt.payload true else []
  | _ => []

/-- The first copy of a packet, as far as this node knows, with its header and content. -/
def newPacket (ctx : MeshCtx S) (frame : RadioFrame) : Option (PacketHeader × DecodedPayload) :=
  match frame.header with
  | none => none
  | some header =>
      if header.sender = ctx.device.myNodeNum then none
      else
        match tryDecryptAndDecode env frame header ctx.device ctx.nodeDb ctx.pkcPrivBytes with
        | .decoded decoded =>
            match (ctx.router.shouldFilterReceived header.sender header.packetId header.hopLimit
                header.relayNode (pendingHopLimit ctx header) ctx.device.role).1 with
            | .new => some (header, decoded)
            | _ => none
        | _ => none

variable {env} in
theorem of_newPacket {ctx : MeshCtx S} {frame : RadioFrame} {header : PacketHeader}
    {decoded : DecodedPayload} (h : newPacket env ctx frame = some (header, decoded)) :
    frame.header = some header ∧
      tryDecryptAndDecode env frame header ctx.device ctx.nodeDb ctx.pkcPrivBytes =
        .decoded decoded := by
  unfold newPacket at h
  split at h
  · cases h
  · rename_i header' hheader
    split at h
    · cases h
    · split at h
      · rename_i decoded' hdecoded
        split at h
        · cases h
          exact ⟨hheader, hdecoded⟩
        · cases h
      · cases h

def edits (ctx : MeshCtx S) (frame : RadioFrame) (metadata : RadioMetadata) :
    List NodeDbEdit :=
  match newPacket env ctx frame with
  | some (header, decoded) =>
      noteEdits header metadata ctx.now ++
        portnumEdits env ctx decoded.portnum (inboundPacket ctx.device header metadata decoded)
  | none => []

end Handlers.FromRadio

namespace Handlers.FromApp

/-- The administration of this device that a message of the phone asks for. -/
def localAdmin (ctx : MeshCtx S) (bytes : Bytes) : Option (MeshPacket × Data) :=
  if bytes.isEmpty then none
  else
    match env.prost.toRadio.decode bytes with
    | some { payloadVariant := some (.packet pkt) } =>
        match pkt.payloadVariant with
        | some (.decoded data) =>
            if isLocalAdmin ctx.device pkt data then some (pkt, data) else none
        | _ => none
    | _ => none

def edits (ctx : MeshCtx S) (bytes : Bytes) : List NodeDbEdit :=
  match localAdmin env ctx bytes with
  | some (_, data) => Admin.edits env ctx data.payload false
  | none => []

end Handlers.FromApp

def Handlers.edits (ctx : MeshCtx S) : MeshEvent → List NodeDbEdit
  | .loraRx frame metadata => FromRadio.edits env ctx frame metadata
  | .bleRx bytes => FromApp.edits env ctx bytes
  | _ => []

def MeshRouter.retransmitEdits (entry : PendingPacket) : List NodeDbEdit :=
  if entry.retriesLeft - 1 = 0 then [.clearRoute entry.dest] else []

theorem MeshRouter.retransmitNodeDb_eq (entry : PendingPacket) (db : NodeDb) :
    MeshRouter.retransmitNodeDb entry db = db.edited (retransmitEdits entry) := by
  unfold retransmitNodeDb retransmitEdits
  split <;> rfl

namespace MeshRouter

def tickEditsFrom (now : Nat) : Nat → Nat → PendingPackets → List NodeDbEdit
  | 0, _, _ => []
  | steps + 1, i, pending =>
      match pending.toList[i]? with
      | none => []
      | some entry =>
          if now < entry.deadline then tickEditsFrom now steps (i + 1) pending
          else if 0 < entry.retriesLeft then
            retransmitEdits entry ++
              tickEditsFrom now steps (i + 1) (pending.set i (retransmit now entry))
          else tickEditsFrom now steps i (pending.swapRemove i)

def tickEdits (now : Nat) (pending : PendingPackets) : List NodeDbEdit :=
  tickEditsFrom now pending.length 0 pending

theorem mem_tickEditsFrom {now steps i : Nat} {pending : PendingPackets} {edit : NodeDbEdit}
    (h : edit ∈ tickEditsFrom now steps i pending) : ∃ dest, edit = .clearRoute dest := by
  induction steps generalizing i pending with
  | zero => exact absurd h List.not_mem_nil
  | succ steps ih =>
      unfold tickEditsFrom at h
      split at h
      · cases h
      · split at h
        · exact ih h
        · split at h
          · rcases List.mem_append.mp h with hcleared | hrest
            · unfold retransmitEdits at hcleared
              split at hcleared
              · exact ⟨_, List.mem_singleton.mp hcleared⟩
              · cases hcleared
            · exact ih hrest
          · exact ih h

theorem nodeDb_tickFrom (now steps i : Nat) (st : RetransmissionState) :
    (tickFrom now steps i st).nodeDb = st.nodeDb.edited (tickEditsFrom now steps i st.pending) := by
  induction steps generalizing i st with
  | zero => rfl
  | succ steps ih =>
      unfold tickFrom tickEditsFrom
      cases st.pending.toList[i]? with
      | none => rfl
      | some entry =>
          dsimp only
          split
          · exact ih (i + 1) st
          · split
            · rw [ih, NodeDb.edited_append, retransmitNodeDb_eq]
            · rw [ih]

theorem nodeDb_tickRetransmissions (now : Nat) (pending : PendingPackets) (db : NodeDb) :
    (tickRetransmissions now pending db).nodeDb = db.edited (tickEdits now pending) :=
  nodeDb_tickFrom now pending.length 0 _

end MeshRouter

end Meshtastenstein
