import Meshtastenstein.Keys
import Meshtastenstein.Originations
/-!
# The pieces of a step

Whatever the node does on its own account is a series of small pieces: work that sends
nothing, a frame that goes out, a change of what waits for an acknowledgement.  A frame that
goes out was built under the settings of that moment, or repeats one that still waits.  What
holds of every piece holds of every handler, so a fact about what the node sends is proved
once, for the three pieces.
-/

namespace Meshtastenstein

open Lib Proto Handlers

variable {S : Type} {env : Env}

/-! ## Frames that may go out -/

structure RadioFrame.Repeats (frame original : RadioFrame) : Prop where
  payload_eq : frame.payload = original.payload
  header_eq : frame.header.map (fun header => { header with nextHop := NO_NEXT_HOP }) =
    original.header.map (fun header => { header with nextHop := NO_NEXT_HOP })

namespace RadioFrame.Repeats

theorem refl (frame : RadioFrame) : frame.Repeats frame := ⟨rfl, rfl⟩

theorem trans {frame frame' original : RadioFrame} (h : frame.Repeats frame')
    (h' : frame'.Repeats original) : frame.Repeats original :=
  ⟨h.payload_eq.trans h'.payload_eq, h.header_eq.trans h'.header_eq⟩

theorem withoutNextHop (frame : RadioFrame) : frame.withoutNextHop.Repeats frame := by
  refine ⟨RadioFrame.payload_withoutNextHop frame, ?_⟩
  cases hheader : frame.header with
  | none =>
      have hsame : frame.withoutNextHop = frame := by
        unfold RadioFrame.withoutNextHop
        rw [hheader]
        split <;> rfl
      rw [hsame, hheader]
  | some header =>
      rw [RadioFrame.header_withoutNextHop hheader]
      rfl

end RadioFrame.Repeats

def PendingPackets.frames (pending : PendingPackets) : List RadioFrame :=
  pending.toList.map (·.frame)

/-- The frame can be built under the settings and tables of the moment. -/
def MeshCtx.Builds (env : Env) (ctx : MeshCtx S) (frame : RadioFrame) : Prop :=
  ∃ (tx : TxBuilder) (packetId : UInt32) (pkcKeys : Option (Key × UInt32)),
    tx.build env ctx.device ctx.router ctx.nodeDb packetId pkcKeys = some frame

def MeshCtx.Offers (env : Env) (ctx : MeshCtx S) (frame : RadioFrame) : Prop :=
  ctx.Builds env frame ∨ ∃ waiting ∈ ctx.pendingPackets.frames, frame.Repeats waiting

theorem MeshCtx.offers_of_mem {ctx : MeshCtx S} {frame : RadioFrame}
    (h : frame ∈ ctx.pendingPackets.frames) : ctx.Offers env frame :=
  Or.inr ⟨frame, h, .refl frame⟩

/-! ## Pieces -/

/-- The part of a context that the pieces are about: who the node is, and what it sends. -/
def MeshCtx.outgoing (ctx : MeshCtx S) :=
  (ctx.pendingPackets.frames, ctx.device.mac, ctx.device.myNodeNum, ctx.badge, ctx.txToLora)

inductive Piece (env : Env) : MeshCtx S → MeshCtx S → Prop
  /-- Work that sends nothing and lets the same frames wait. -/
  | work {ctx ctx' : MeshCtx S} (h : ctx'.outgoing = ctx.outgoing) : Piece env ctx ctx'
  | hold {ctx : MeshCtx S} {pending : PendingPackets}
      (h : ∀ frame ∈ pending.frames, ctx.Offers env frame) :
      Piece env ctx { ctx with pendingPackets := pending }
  | send {ctx : MeshCtx S} {frame : RadioFrame} (h : ctx.Offers env frame) :
      Piece env ctx (ctx.sendLora frame)

def Pieces (env : Env) (before after : MeshCtx S) : Prop :=
  Relation.ReflTransGen (Piece env) before after

namespace Pieces

variable {ctx ctx' ctx'' : MeshCtx S}

theorem refl (ctx : MeshCtx S) : Pieces env ctx ctx := Relation.ReflTransGen.refl

theorem trans (h : Pieces env ctx ctx') (h' : Pieces env ctx' ctx'') : Pieces env ctx ctx'' :=
  Relation.ReflTransGen.trans h h'

theorem single (h : Piece env ctx ctx') : Pieces env ctx ctx' := Relation.ReflTransGen.single h

theorem work (h : ctx'.outgoing = ctx.outgoing) : Pieces env ctx ctx' := single (.work h)

theorem hold {pending : PendingPackets} (h : ∀ frame ∈ pending.frames, ctx.Offers env frame) :
    Pieces env ctx { ctx with pendingPackets := pending } := single (.hold h)

theorem send {frame : RadioFrame} (h : ctx.Offers env frame) :
    Pieces env ctx (ctx.sendLora frame) := single (.send h)

/-- Quiet work that draws no packet id. -/
theorem of_quiet (h : Quiet 0 ctx ctx') (hbadge : ctx'.badge = ctx.badge) :
    Pieces env ctx ctx' := by
  obtain ⟨k, hk, frames, ids, -, hlora, hids, hframes⟩ := h.originates
  obtain rfl : k = 0 := Nat.le_zero.mp hk
  obtain rfl : ids = [] := List.sublist_nil.mp hids
  obtain rfl : frames = [] := List.forall₂_nil_right_iff.mp hframes
  rw [List.append_nil] at hlora
  refine work ?_
  simp only [MeshCtx.outgoing, h.pendingPackets_eq, h.mac_eq, h.myNodeNum_eq, hbadge, hlora]

theorem foldl {β : Type} {f : MeshCtx S → β → MeshCtx S} (items : List β)
    (h : ∀ ctx, ∀ item ∈ items, Pieces env ctx (f ctx item)) (ctx : MeshCtx S) :
    Pieces env ctx (items.foldl f ctx) := by
  induction items generalizing ctx with
  | nil => exact .refl _
  | cons item items ih =>
      exact (h ctx item List.mem_cons_self).trans
        (ih (fun ctx item hitem => h ctx item (List.mem_cons_of_mem _ hitem)) _)

end Pieces

def BuiltBetween (env : Env) (before after : MeshCtx S) (built : RadioFrame) : Prop :=
  ∃ ctx : MeshCtx S, Pieces env before ctx ∧ Pieces env ctx after ∧ ctx.Builds env built

theorem BuiltBetween.mono {before ctx after : MeshCtx S} {built : RadioFrame}
    (h : BuiltBetween env before ctx built) (hrest : Pieces env ctx after) :
    BuiltBetween env before after built := by
  obtain ⟨moment, hbefore, hafter, hbuilds⟩ := h
  exact ⟨moment, hbefore, hafter.trans hrest, hbuilds⟩

/-- What a series of pieces sends and keeps waiting: frames built on the way, and frames that
repeat what waited at first. -/
structure Sends (env : Env) (before after : MeshCtx S) (sent : List RadioFrame) : Prop where
  mac_eq : after.device.mac = before.device.mac
  myNodeNum_eq : after.device.myNodeNum = before.device.myNodeNum
  badge_eq : after.badge = before.badge
  lora : after.txToLora = before.txToLora ++ sent
  frames : ∀ frame, frame ∈ sent ∨ frame ∈ after.pendingPackets.frames →
    (∃ built, BuiltBetween env before after built ∧ frame.Repeats built) ∨
      ∃ waiting ∈ before.pendingPackets.frames, frame.Repeats waiting

theorem Pieces.sends {before after : MeshCtx S} (h : Pieces env before after) :
    ∃ sent, Sends env before after sent := by
  induction h with
  | refl =>
      refine ⟨[], rfl, rfl, rfl, (List.append_nil _).symm, fun frame hframe => ?_⟩
      rcases hframe with hframe | hframe
      · cases hframe
      · exact Or.inr ⟨frame, hframe, .refl frame⟩
  | tail hfirst hlast ih =>
      rename_i ctx ctx'
      obtain ⟨sent, hsends⟩ := ih
      have hpiece : Pieces env ctx ctx' := .single hlast
      have hearlier : ∀ frame, frame ∈ sent ∨ frame ∈ ctx.pendingPackets.frames →
          (∃ built, BuiltBetween env before ctx' built ∧ frame.Repeats built) ∨
            ∃ waiting ∈ before.pendingPackets.frames, frame.Repeats waiting := by
        intro frame hframe
        rcases hsends.frames frame hframe with ⟨built, hbuilt, hrepeats⟩ | hwaiting
        · exact Or.inl ⟨built, hbuilt.mono hpiece, hrepeats⟩
        · exact Or.inr hwaiting
      -- what is offered now goes back to the start of the series
      have hoffers : ∀ frame, ctx.Offers env frame →
          (∃ built, BuiltBetween env before ctx' built ∧ frame.Repeats built) ∨
            ∃ waiting ∈ before.pendingPackets.frames, frame.Repeats waiting := by
        rintro frame (hbuilds | ⟨waiting, hwaiting, hrepeats⟩)
        · exact Or.inl ⟨frame, ⟨ctx, hfirst, hpiece, hbuilds⟩, .refl frame⟩
        · rcases hearlier waiting (Or.inr hwaiting) with
            ⟨built, hbuilt, hsame⟩ | ⟨first, hmem, hsame⟩
          · exact Or.inl ⟨built, hbuilt, hrepeats.trans hsame⟩
          · exact Or.inr ⟨first, hmem, hrepeats.trans hsame⟩
      cases hlast with
      | work h =>
          simp only [MeshCtx.outgoing, Prod.mk.injEq] at h
          obtain ⟨hframes, hmac, hnum, hbadge, hlora⟩ := h
          refine ⟨sent, hmac.trans hsends.mac_eq, hnum.trans hsends.myNodeNum_eq,
            hbadge.trans hsends.badge_eq, hlora.trans hsends.lora, ?_⟩
          rw [hframes]
          exact hearlier
      | hold h =>
          refine ⟨sent, hsends.mac_eq, hsends.myNodeNum_eq, hsends.badge_eq, hsends.lora,
            fun frame hframe => ?_⟩
          rcases hframe with hframe | hframe
          · exact hearlier frame (Or.inl hframe)
          · exact hoffers frame (h frame hframe)
      | send h =>
          rename_i frame
          refine ⟨sent ++ [frame], hsends.mac_eq, hsends.myNodeNum_eq, hsends.badge_eq, ?_,
            fun other hother => ?_⟩
          · rw [← List.append_assoc, ← hsends.lora]
            rfl
          · rcases hother with hother | hother
            · rcases List.mem_append.mp hother with hother | hother
              · exact hearlier other (Or.inl hother)
              · rw [List.mem_singleton.mp hother]
                exact hoffers frame h
            · exact hearlier other (Or.inr hother)

/-! ## Shared operations -/

namespace Handlers

theorem pieces_originate (ctx : MeshCtx S) (tx : TxBuilder) :
    Pieces env ctx (originate env ctx tx) := by
  have hid : Pieces env ctx ctx.takePacketId := .work rfl
  unfold originate
  dsimp only
  split
  · rename_i frame hbuild
    exact hid.trans (.send (Or.inl ⟨tx, _, _, hbuild⟩))
  · exact hid

theorem pieces_loraSend (ctx : MeshCtx S) (portnum : PortNum) (payload : Bytes)
    (dest : UInt32) (wantResponse : Bool) :
    Pieces env ctx (loraSend env ctx portnum payload dest wantResponse).1 := by
  have hid : Pieces env ctx ctx.takePacketId := .work rfl
  unfold loraSend
  split
  · dsimp only
    split
    · rename_i frame hbuild
      exact hid.trans (.send (Or.inl ⟨_, _, _, hbuild⟩))
    · exact hid
  · exact .refl _

theorem pieces_sendNodeinfo (ctx : MeshCtx S) (dest : UInt32) (wantResponse : Bool) :
    Pieces env ctx (sendNodeinfo env ctx dest wantResponse) :=
  pieces_loraSend ctx .nodeinfoApp _ dest wantResponse

theorem pieces_sendBleRoutingResult (ctx : MeshCtx S) (dest requestId : UInt32)
    (error : RoutingError) :
    Pieces env ctx (sendBleRoutingResult env ctx dest requestId error) := by
  rw [sendBleRoutingResult_eq]
  exact .work rfl

namespace Admin

theorem pieces_sendAdminResponse (ctx : MeshCtx S) (requester reqPktId : UInt32)
    (variant : AdminMessage.Variant) (viaLora : Bool) :
    Pieces env ctx (sendAdminResponse env ctx requester reqPktId variant viaLora) := by
  have hpasskey : Pieces env ctx (ensureSessionPasskey ctx) :=
    .of_quiet (quiet_ensureSessionPasskey ctx) (badge_ensureSessionPasskey ctx)
  unfold sendAdminResponse
  dsimp only
  split
  · exact hpasskey.trans (pieces_originate _ _)
  · exact hpasskey.trans (.work rfl)

theorem pieces_dispatch [MeshStorage S] (ctx : MeshCtx S) (requester reqPktId : UInt32)
    (adminBytes : Bytes) (viaLora : Bool) :
    Pieces env ctx (dispatch env ctx requester reqPktId adminBytes viaLora) := by
  rcases @dispatch_cases S env _ ctx requester reqPktId adminBytes viaLora with
    ⟨answer, hanswer⟩ | hadministered
  · rw [hanswer]
    exact pieces_sendAdminResponse ctx requester reqPktId answer viaLora
  · exact .of_quiet (Quiet.of_traffic_eq hadministered.traffic_eq)
      (badge_dispatch ctx requester reqPktId adminBytes viaLora)

end Admin

/-! ## Frames from the radio -/

namespace FromRadio

theorem pieces_answerNodeinfo (ctx : MeshCtx S) (dest : UInt32) (wantResponse : Bool) :
    Pieces env ctx (answerNodeinfo env ctx dest wantResponse) :=
  (pieces_sendNodeinfo ctx dest wantResponse).trans (.work rfl)

theorem pieces_handleNodeInfo (ctx : MeshCtx S) (pkt : InboundPacket) :
    Pieces env ctx (handleNodeInfo env ctx pkt) := by
  unfold handleNodeInfo
  split
  · exact .refl _
  · rename_i user _
    have hstored : Pieces env ctx (ctx.modifyNodeDb fun db => storeUser db pkt.sender user) :=
      .work rfl
    have hnoted := hstored.trans (.of_quiet (quiet_notifyBleNodeUpdate _ pkt.sender)
      (badge_notifyBleNodeUpdate _ pkt.sender))
    dsimp only
    split
    · exact hnoted.trans (pieces_answerNodeinfo _ pkt.sender false)
    · exact hnoted

theorem frames_swapRemove_subset (pending : PendingPackets) (i : Nat) :
    PendingPackets.frames (pending.swapRemove i) ⊆ pending.frames :=
  List.map_subset _ (Bounded.swapRemoveList_subset pending.toList i)

theorem pieces_settle (ctx : MeshCtx S) (i : Nat) :
    Pieces env ctx { ctx with pendingPackets := ctx.pendingPackets.swapRemove i } :=
  .hold fun _ hframe => MeshCtx.offers_of_mem (frames_swapRemove_subset ctx.pendingPackets i hframe)

theorem pieces_acknowledge (ctx : MeshCtx S) (requestId : UInt32) :
    Pieces env ctx (acknowledge env ctx requestId) := by
  unfold acknowledge
  split
  · exact .refl _
  · dsimp only
    split
    · exact (pieces_settle ctx _).trans (pieces_sendBleRoutingResult _ _ _ _)
    · exact pieces_settle ctx _

theorem pieces_handleRouting (ctx : MeshCtx S) (pkt : InboundPacket) :
    Pieces env ctx (handleRouting env ctx pkt) := by
  unfold handleRouting
  split
  · exact .refl _
  · split
    · exact (pieces_acknowledge ctx pkt.requestId).trans (.work rfl)
    · exact .refl _

theorem pieces_handleTraceroute (ctx : MeshCtx S) (pkt : InboundPacket) :
    Pieces env ctx (handleTraceroute env ctx pkt) := by
  unfold handleTraceroute
  split
  · exact pieces_originate ctx _
  · exact .refl _

theorem pieces_maybeRequestNodeinfo (ctx : MeshCtx S) (sender : UInt32)
    (hopStart hopLimit : UInt8) :
    Pieces env ctx (maybeRequestNodeinfo env ctx sender hopStart hopLimit) := by
  unfold maybeRequestNodeinfo
  split
  · exact .refl _
  split
  · exact .refl _
  split
  · exact .refl _
  split
  · exact .refl _
  split
  · exact .refl _
  · exact pieces_answerNodeinfo ctx sender true

theorem pieces_noteSender (ctx : MeshCtx S) (header : PacketHeader) (metadata : RadioMetadata) :
    Pieces env ctx (noteSender env ctx header metadata) := by
  have hrequest : ∀ ctx' : MeshCtx S, Pieces env ctx ctx' → Pieces env ctx
      (if ((ctx'.nodeDb.get header.sender).bind (·.user)).isNone = true then
        maybeRequestNodeinfo env ctx' header.sender header.hopStart header.hopLimit
      else ctx') := by
    intro ctx' hpieces
    split
    · exact hpieces.trans (pieces_maybeRequestNodeinfo ctx' _ _ _)
    · exact hpieces
  unfold noteSender
  dsimp only
  apply hrequest
  generalize hdb : (ctx.blink .singleBlink).modifyNodeDb _ = noted
  have hnoted : Pieces env ctx noted := .work (by rw [← hdb]; rfl)
  split
  · exact hnoted.trans (.of_quiet (quiet_notifyBleNodeUpdate _ header.sender)
      (badge_notifyBleNodeUpdate _ header.sender))
  · exact hnoted

theorem pieces_ackInbound (ctx : MeshCtx S) (header : PacketHeader) (decoded : DecodedPayload) :
    Pieces env ctx (ackInbound env ctx header decoded) := by
  unfold ackInbound
  split
  · exact pieces_originate ctx _
  · exact .refl _

theorem pieces_answerUnknownPubkey (ctx : MeshCtx S) (header : PacketHeader) :
    Pieces env ctx (answerUnknownPubkey env ctx header) := by
  unfold answerUnknownPubkey
  dsimp only
  split
  · exact (pieces_originate ctx _).trans (pieces_sendNodeinfo _ header.sender false)
  · exact pieces_sendNodeinfo ctx header.sender false

theorem pieces_hearOwnPacket (ctx : MeshCtx S) (header : PacketHeader) :
    Pieces env ctx (hearOwnPacket ctx header) := by
  unfold hearOwnPacket
  split
  · exact pieces_settle ctx _
  · exact .refl _

theorem pieces_handleUndecodable (ctx : MeshCtx S) (frame : RadioFrame) (header : PacketHeader)
    (metadata : RadioMetadata) :
    Pieces env ctx (handleUndecodable env ctx frame header metadata) := by
  unfold handleUndecodable maybeRelayOpaque
  split
  · split
    · exact .refl _
    split
    · exact .refl _
    · dsimp only
      split
      · exact .work rfl
      · exact .work rfl
  · exact .refl _

variable [MeshStorage S]

theorem pieces_handlePortnum (ctx : MeshCtx S) (portnum : Int32) (pkt : InboundPacket) :
    Pieces env ctx (handlePortnum env ctx portnum pkt) := by
  unfold handlePortnum
  split
  · exact .refl _
  · exact .refl _
  · exact .refl _
  · exact .of_quiet (quiet_handlePosition ctx pkt) (badge_handlePosition ctx pkt)
  · exact pieces_handleNodeInfo ctx pkt
  · exact pieces_handleRouting ctx pkt
  · unfold handleAdmin
    split
    · exact Admin.pieces_dispatch ctx pkt.sender pkt.packetId pkt.payload true
    · exact .refl _
  · exact .refl _
  · exact .of_quiet (quiet_handleTelemetry ctx pkt) (badge_handleTelemetry ctx pkt)
  · exact pieces_handleTraceroute ctx pkt
  · exact .of_quiet (quiet_handleNeighborInfo ctx pkt) (badge_handleNeighborInfo ctx pkt)
  · exact .refl _
  · exact .refl _

theorem pieces_handleNew (ctx : MeshCtx S) (frame : RadioFrame) (header : PacketHeader)
    (metadata : RadioMetadata) (decoded : DecodedPayload) :
    Pieces env ctx (handleNew env ctx frame header metadata decoded) := by
  unfold handleNew
  dsimp only
  exact (((((pieces_noteSender ctx header metadata).trans
    (.of_quiet (quiet_bufferText _ frame decoded.portnum) (badge_bufferText _ frame _))).trans
    (pieces_handlePortnum _ decoded.portnum _)).trans
    (.of_quiet (quiet_forwardInbound _ header metadata decoded _)
      (badge_forwardInbound _ header metadata decoded _))).trans
    (pieces_ackInbound _ header decoded)).trans
    (.of_quiet (quiet_relayInbound _ frame header metadata)
      (badge_relayInbound _ frame header metadata))

theorem pieces_handleDecoded (ctx : MeshCtx S) (frame : RadioFrame) (header : PacketHeader)
    (metadata : RadioMetadata) (decoded : DecodedPayload) :
    Pieces env ctx (handleDecoded env ctx frame header metadata decoded) := by
  have hrouter : ∀ router : MeshRouter, Pieces env ctx { ctx with router := router } :=
    fun router => .work rfl
  unfold handleDecoded
  dsimp only
  split
  · exact (hrouter _).trans (pieces_handleNew _ frame header metadata decoded)
  · exact (hrouter _).trans (.of_quiet (quiet_upgradeRebroadcast _ frame header _)
      (badge_upgradeRebroadcast _ frame header _))
  · exact (hrouter _).trans (.of_quiet (quiet_cancelRebroadcast _ header) rfl)
  · exact hrouter _

theorem pieces_dispatch (ctx : MeshCtx S) (frame : RadioFrame) (metadata : RadioMetadata) :
    Pieces env ctx (dispatch env ctx frame metadata) := by
  unfold dispatch
  split
  · exact .refl _
  · split
    · exact pieces_hearOwnPacket ctx _
    · split
      · exact pieces_handleDecoded ctx frame _ metadata _
      · exact pieces_answerUnknownPubkey ctx _
      · exact pieces_handleUndecodable ctx frame _ metadata

end FromRadio

/-! ## Messages from the phone -/

namespace FromApp

theorem frames_push {pending pending' : PendingPackets} {entry : PendingPacket}
    (h : pending.push entry = some pending') :
    PendingPackets.frames pending' = pending.frames ++ [entry.frame] := by
  by_cases hroom : pending.length < 8
  · rw [Bounded.push_of_lt pending entry hroom] at h
    rw [← Option.some.inj h]
    exact List.map_append
  · rw [Bounded.push_of_full pending entry hroom] at h
    cases h

theorem pieces_buildAndQueue (ctx : MeshCtx S) (pkt : MeshPacket) (data : Data)
    (packetId : UInt32) (pkcKeys : Option (Key × UInt32)) :
    Pieces env ctx (buildAndQueue env ctx pkt data packetId pkcKeys) := by
  unfold buildAndQueue
  split
  · rename_i frame hbuild
    have hbuilds : ctx.Builds env frame := ⟨_, _, _, hbuild⟩
    have hsent : Pieces env ctx (ctx.sendLora frame) := .send (Or.inl hbuilds)
    unfold queuePhoneFrame
    split
    · split
      · rename_i pending hpush
        have hframes := frames_push hpush
        have hheld : Pieces env ctx { ctx with pendingPackets := pending } := by
          refine .hold fun other hother => ?_
          rw [hframes] at hother
          rcases List.mem_append.mp hother with hother | hother
          · exact MeshCtx.offers_of_mem hother
          · rw [List.mem_singleton.mp hother]
            exact Or.inl hbuilds
        refine hheld.trans (.send (MeshCtx.offers_of_mem ?_))
        rw [hframes]
        exact List.mem_append_right _ (List.mem_singleton_self _)
      · -- the report takes an id, which the frame does not depend on
        have hreported : Pieces env ctx
            (sendBleRoutingAck env ctx (ackDest ctx.device pkt) pkt.id) :=
          pieces_sendBleRoutingResult ctx _ _ _
        refine hreported.trans (.send (Or.inl ⟨phoneTx pkt data, packetId, pkcKeys, ?_⟩))
        unfold sendBleRoutingAck
        rw [sendBleRoutingResult_eq]
        exact hbuild
    · exact hsent.trans (pieces_sendBleRoutingResult _ _ _ _)
  · exact .refl _

theorem pieces_sendPkc (ctx : MeshCtx S) (pkt : MeshPacket) (data : Data) (packetId : UInt32) :
    Pieces env ctx (sendPkc env ctx pkt data packetId) := by
  have hrandom : Pieces env ctx ctx.takeRandom := .work rfl
  unfold sendPkc
  split
  · exact .refl _
  split
  · exact .refl _
  split
  · exact pieces_sendBleRoutingResult ctx _ _ _
  split
  · exact pieces_sendBleRoutingResult ctx _ _ _
  · exact hrandom.trans (pieces_buildAndQueue ctx.takeRandom pkt data packetId _)

theorem pieces_sendToMesh (ctx : MeshCtx S) (pkt : MeshPacket) (data : Data) :
    Pieces env ctx (sendToMesh env ctx pkt data) := by
  have hid : Pieces env ctx (if pkt.id ≠ 0 then ctx else ctx.takePacketId) := by
    split
    · exact .refl _
    · exact .work rfl
  unfold sendToMesh
  dsimp only
  split
  · exact hid
  split
  · exact hid.trans (pieces_sendPkc _ pkt data _)
  · exact hid.trans (pieces_buildAndQueue _ pkt data _ none)

variable [MeshStorage S]

theorem pieces_transmitDecoded (ctx : MeshCtx S) (pkt : MeshPacket) (data : Data) :
    Pieces env ctx (transmitDecoded env ctx pkt data) := by
  unfold transmitDecoded
  split
  · have hadmin : Pieces env ctx
        (Admin.dispatch env ctx pkt.fromNode pkt.id data.payload false) :=
      Admin.pieces_dispatch ctx _ _ _ _
    unfold handleLocalAdmin
    dsimp only
    split
    · exact hadmin.trans (pieces_sendBleRoutingResult _ _ _ _)
    · exact hadmin
  · have hnoted : Pieces env ctx (notePosition ctx data) := by
      unfold notePosition
      split
      · exact .work rfl
      · exact .refl _
    exact hnoted.trans (pieces_sendToMesh _ pkt data)

theorem pieces_dispatch (ctx : MeshCtx S) (bytes : Bytes) :
    Pieces env ctx (dispatch env ctx bytes) := by
  unfold dispatch
  split
  · exact .refl _
  cases env.prost.toRadio.decode bytes with
  | none => exact .refl _
  | some toRadio =>
      have hhandled : Pieces env ctx (handleToRadio env ctx toRadio.payloadVariant) := by
        unfold handleToRadio
        split
        · unfold transmitFromBlePacket
          split
          · exact pieces_transmitDecoded ctx _ _
          · exact .refl _
        · dsimp only
          split
          · exact (Pieces.of_quiet (quiet_sendNodeinfoExchange ctx _)
              (badge_sendNodeinfoExchange ctx _)).trans
              (.of_quiet (quiet_replayFrames _ _) (badge_replayFrames _ _))
          · exact (Pieces.of_quiet (quiet_sendConfigExchange ctx _)
              (badge_sendConfigExchange ctx _)).trans
              (.of_quiet (quiet_replayFrames _ _) (badge_replayFrames _ _))
        · split
          · exact pieces_sendNodeinfo ctx BROADCAST_ADDR false
          · exact .of_quiet (quiet_pushFromRadio ctx fun _ _ _ => rfl) (badge_pushFromRadio ctx _)
        · exact .work rfl
        · exact .refl _
      exact hhandled.trans (.work rfl)

end FromApp

/-! ## Periodic broadcasts -/

namespace Periodic

theorem pieces_broadcastNodeinfo (ctx : MeshCtx S) :
    Pieces env ctx (broadcastNodeinfo env ctx) := by
  unfold broadcastNodeinfo
  dsimp only
  split
  · exact (pieces_loraSend ctx _ _ _ _).trans (.work rfl)
  · exact pieces_loraSend ctx _ _ _ _

theorem pieces_broadcastPosition (ctx : MeshCtx S) :
    Pieces env ctx (broadcastPosition env ctx) := by
  unfold broadcastPosition
  split
  · exact .refl _
  · dsimp only
    split
    · exact (pieces_loraSend ctx _ _ _ _).trans (.work rfl)
    · exact pieces_loraSend ctx _ _ _ _

theorem pieces_broadcastNeighborinfo (ctx : MeshCtx S) :
    Pieces env ctx (broadcastNeighborinfo env ctx) := by
  unfold broadcastNeighborinfo
  split
  · exact .work rfl
  · exact (pieces_loraSend ctx _ _ _ _).trans (.work rfl)

theorem pieces_sendDeviceTelemetry (ctx : MeshCtx S) (batteryLevel : UInt8)
    (voltageMv : UInt16) :
    Pieces env ctx (sendDeviceTelemetry env ctx batteryLevel voltageMv) := by
  have hbroadcast : ∀ payload, Pieces env ctx (broadcastTelemetry env ctx payload) := by
    intro payload
    unfold broadcastTelemetry
    dsimp only
    split
    · split
      · exact (pieces_loraSend ctx _ _ _ _).trans (.work rfl)
      · exact pieces_loraSend ctx _ _ _ _
    · exact .refl _
  have hforward : ∀ (ctx : MeshCtx S) (payload : Bytes),
      Pieces env ctx (forwardTelemetry ctx payload) := by
    intro ctx payload
    have hid : Pieces env ctx ctx.takePacketId := .work rfl
    unfold forwardTelemetry
    split
    · exact hid.trans (.of_quiet (quiet_pushFromRadio _
        (FromRadio.Variant.isQuiet_of_requestId rfl rfl)) (badge_pushFromRadio _ _))
    · exact .refl _
  unfold sendDeviceTelemetry
  exact (hbroadcast _).trans (hforward _ _)

theorem pieces_dispatch (ctx : MeshCtx S) : Pieces env ctx (dispatch env ctx) := by
  have hnodeinfo : ∀ ctx : MeshCtx S, Pieces env ctx (tickNodeinfo env ctx) := by
    intro ctx
    unfold tickNodeinfo
    dsimp only
    split
    · exact pieces_broadcastNodeinfo ctx
    · exact .refl _
  have hneighbors : ∀ ctx : MeshCtx S, Pieces env ctx (tickNeighborinfo env ctx) := by
    intro ctx
    unfold tickNeighborinfo
    dsimp only
    split
    · exact pieces_broadcastNeighborinfo ctx
    · exact .refl _
  have hposition : ∀ ctx : MeshCtx S, Pieces env ctx (tickPosition env ctx) := by
    intro ctx
    unfold tickPosition
    dsimp only
    split
    · exact pieces_broadcastPosition ctx
    · exact .refl _
  unfold dispatch
  split
  · exact ((hnodeinfo ctx).trans (hneighbors _)).trans (hposition _)
  · exact .refl _

end Periodic

end Handlers

/-! ## Steps -/

namespace MeshState

theorem pieces_noteActivity (ctx : MeshCtx S) (event : MeshEvent) :
    Pieces env ctx (noteActivity ctx event) := by
  refine .work ?_
  cases event with
  | loraRx frame metadata =>
      unfold noteActivity MeshCtx.outgoing PendingPackets.frames
        MeshRouter.extendPendingDeadlines
      dsimp only
      rw [Bounded.toList_map, List.map_map]
      rfl
  | _ => rfl

theorem repeats_retransmit (now : Nat) (entry : PendingPacket) :
    (MeshRouter.retransmit now entry).frame.Repeats entry.frame := by
  unfold MeshRouter.retransmit
  dsimp only
  split
  · exact .withoutNextHop entry.frame
  · exact .refl entry.frame

theorem frames_tickRetransmissions (now : Nat) (pending : PendingPackets) (db : NodeDb) :
    (∀ frame ∈ (MeshRouter.tickRetransmissions now pending db).pending.frames,
      ∃ waiting ∈ pending.frames, frame.Repeats waiting) ∧
    (MeshRouter.tickRetransmissions now pending db).toSend ⊆
      (MeshRouter.tickRetransmissions now pending db).pending.frames := by
  have hpasses := MeshRouter.passes_tickRetransmissions now pending db
  constructor
  · intro frame hframe
    obtain ⟨next, hnext, rfl⟩ := List.mem_map.mp hframe
    obtain ⟨entry, hentry, hfate⟩ := List.mem_filterMap.mp (hpasses.kept.mem_iff.mp hnext)
    refine ⟨entry.frame, List.mem_map_of_mem hentry, ?_⟩
    rcases MeshRouter.fate_cases now entry with ⟨hkept, -⟩ | ⟨-, hretried, -⟩ | ⟨hgone, -⟩
    · rw [hkept] at hfate
      cases hfate
      exact .refl _
    · rw [hretried] at hfate
      cases hfate
      exact repeats_retransmit now entry
    · rw [hgone] at hfate
      cases hfate
  · intro frame hframe
    obtain ⟨entry, hentry, hcopy⟩ := List.mem_filterMap.mp (hpasses.sent.mem_iff.mp hframe)
    rcases MeshRouter.fate_cases now entry with ⟨-, hnone, -⟩ | ⟨-, hkept, hsome, -⟩ | ⟨-, hnone, -⟩
    · rw [hnone] at hcopy
      cases hcopy
    · rw [hsome] at hcopy
      cases hcopy
      have hmem := hpasses.kept.mem_iff.mpr (List.mem_filterMap.mpr ⟨entry, hentry, hkept⟩)
      exact List.mem_map_of_mem hmem
    · rw [hnone] at hcopy
      cases hcopy

theorem pieces_foldl_sendLora (frames : List RadioFrame) (ctx : MeshCtx S)
    (h : frames ⊆ ctx.pendingPackets.frames) :
    Pieces env ctx (frames.foldl MeshCtx.sendLora ctx) := by
  induction frames generalizing ctx with
  | nil => exact .refl _
  | cons frame frames ih =>
      obtain ⟨hframe, hframes⟩ := List.cons_subset.mp h
      have hsent : Pieces env ctx (ctx.sendLora frame) := .send (MeshCtx.offers_of_mem hframe)
      exact hsent.trans (ih (ctx.sendLora frame) hframes)

theorem pieces_fireRetransmissions (ctx : MeshCtx S) :
    Pieces env ctx (fireRetransmissions env ctx) := by
  obtain ⟨hkept, hsent⟩ := frames_tickRetransmissions ctx.now ctx.pendingPackets ctx.nodeDb
  unfold fireRetransmissions
  generalize MeshRouter.tickRetransmissions ctx.now ctx.pendingPackets ctx.nodeDb = result
    at hkept hsent ⊢
  have hheld : Pieces env ctx { ctx with pendingPackets := result.pending } :=
    .hold fun frame hframe => Or.inr (hkept frame hframe)
  have hpassed : Pieces env ctx
      { ctx with pendingPackets := result.pending, nodeDb := result.nodeDb } :=
    hheld.trans (.work rfl)
  dsimp only
  refine (hpassed.trans (pieces_foldl_sendLora result.toSend _ hsent)).trans
    (Pieces.foldl result.gaveUp ?_ _)
  exact fun ctx report _ => pieces_sendBleRoutingResult ctx _ _ _

variable [MeshStorage S]

/-- Every event but the rebroadcast timer and the radio taking a frame is a series of pieces. -/
theorem pieces_handled (state : MeshState S) {event : Event} (hrelay : event ≠ .rebroadcastDue)
    (htaken : event ≠ .loraTaken) : Pieces env state.ctx (handled env state event) := by
  unfold handled
  cases event with
  | announce =>
      dsimp only
      split
      · exact .refl _
      · exact Periodic.pieces_broadcastNodeinfo state.ctx
  | mesh event =>
      dsimp only
      split
      · refine (pieces_noteActivity state.ctx event).trans ?_
        cases event with
        | loraRx frame metadata => exact FromRadio.pieces_dispatch _ frame metadata
        | bleRx bytes => exact FromApp.pieces_dispatch _ bytes
        | batteryUpdate level voltageMv => exact Periodic.pieces_sendDeviceTelemetry _ _ _
        | tick => exact Periodic.pieces_dispatch _
        | _ => exact .work rfl
      · exact .refl _
  | rebroadcastDue => exact absurd rfl hrelay
  | retransmissionDue =>
      dsimp only
      split
      · exact pieces_fireRetransmissions state.ctx
      · exact .refl _
  | bleTaken => exact .work rfl
  | loraTaken => exact absurd rfl htaken
  | elapse ms => exact .work rfl
  | powerCycle => exact .refl _

end MeshState

end Meshtastenstein
