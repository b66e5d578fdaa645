import Meshtastenstein.PhoneSend
import Meshtastenstein.Reception
import Meshtastenstein.Reports
import Meshtastenstein.Runs
/-!
# Frames of our own

Every frame the node queues on its own account goes out under a packet id drawn for it,
or repeats a frame that still waits for its acknowledgement.
-/

namespace Meshtastenstein

open Lib Proto Handlers

variable {S : Type} {env : Env}

/-! ## Transmissions -/

structure Transmission where
  sender : UInt32
  packetId : UInt32
  destination : UInt32
  payload : Bytes
deriving DecidableEq

def RadioFrame.transmission (frame : RadioFrame) : Option Transmission :=
  frame.header.map fun header =>
    { sender := header.sender
      packetId := header.packetId
      destination := header.destination
      payload := frame.payload }

theorem RadioFrame.transmission_withoutNextHop (frame : RadioFrame) :
    frame.withoutNextHop.transmission = frame.transmission := by
  unfold RadioFrame.transmission
  rw [RadioFrame.payload_withoutNextHop]
  cases hheader : frame.header with
  | none =>
      have hsame : frame.withoutNextHop = frame := by
        unfold RadioFrame.withoutNextHop
        rw [hheader]
        split <;> rfl
      rw [hsame, hheader]
  | some header =>
      rw [RadioFrame.header_withoutNextHop hheader]
      rfl

def PendingPackets.transmissions (pending : PendingPackets) : List (Option Transmission) :=
  pending.toList.map (·.frame.transmission)

/-! ## Issued frames -/

/-- `after` follows from `before` by drawing at most `n` packet ids; each of the frames
`sent`, and of those still pending, carries a transmission under one of these ids or one
that was pending before. -/
structure Issues (n : Nat) (sent : List RadioFrame) (before after : MeshCtx S) : Prop where
  mac_eq : after.device.mac = before.device.mac
  myNodeNum_eq : after.device.myNodeNum = before.device.myNodeNum
  issued : ∃ k ≤ n, ∃ fresh ids,
    after.device.packetIdCounter = before.device.packetIdCounter + UInt32.ofNat k ∧
    List.Sublist ids (drawnIds before.device.packetIdCounter k) ∧
    List.Forall₂ (RadioFrame.IsFrom before.device.myNodeNum) fresh ids ∧
    sent.map RadioFrame.transmission ⊆
      fresh.map RadioFrame.transmission ++ before.pendingPackets.transmissions ∧
    after.pendingPackets.transmissions ⊆
      fresh.map RadioFrame.transmission ++ before.pendingPackets.transmissions

namespace Issues

variable {m n : Nat} {sent sent' : List RadioFrame} {ctx ctx' ctx'' : MeshCtx S}

/-- Work that draws no id and sends only what is pending. -/
theorem of_pending (hdevice : ctx'.device = ctx.device)
    (hsent : sent.map RadioFrame.transmission ⊆ ctx.pendingPackets.transmissions)
    (hpending : ctx'.pendingPackets.transmissions ⊆ ctx.pendingPackets.transmissions) :
    Issues 0 sent ctx ctx' := by
  refine ⟨by rw [hdevice], by rw [hdevice], 0, Nat.le_refl 0, [], [], ?_, List.Sublist.refl _,
    List.Forall₂.nil, hsent, hpending⟩
  rw [hdevice]
  simp

theorem refl (ctx : MeshCtx S) : Issues 0 [] ctx ctx :=
  of_pending rfl (List.nil_subset _) (List.Subset.refl _)

theorem trans (h : Issues m sent ctx ctx') (h' : Issues n sent' ctx' ctx'') :
    Issues (m + n) (sent ++ sent') ctx ctx'' := by
  obtain ⟨k, hk, fresh, ids, hcounter, hids, hfresh, hsent, hpending⟩ := h.issued
  obtain ⟨k', hk', fresh', ids', hcounter', hids', hfresh', hsent', hpending'⟩ := h'.issued
  -- what the second part repeats was fresh in the first or pending before it
  have hcover : fresh'.map RadioFrame.transmission ++ ctx'.pendingPackets.transmissions ⊆
      (fresh ++ fresh').map RadioFrame.transmission ++ ctx.pendingPackets.transmissions := by
    intro t ht
    rw [List.map_append, List.append_assoc]
    rcases List.mem_append.mp ht with ht | ht
    · exact List.mem_append_right _ (List.mem_append_left _ ht)
    · rcases List.mem_append.mp (hpending ht) with ht | ht
      · exact List.mem_append_left _ ht
      · exact List.mem_append_right _ (List.mem_append_right _ ht)
  refine ⟨h'.mac_eq.trans h.mac_eq, h'.myNodeNum_eq.trans h.myNodeNum_eq, k + k',
    Nat.add_le_add hk hk', fresh ++ fresh', ids ++ ids', ?_, ?_, ?_, ?_, ?_⟩
  · rw [hcounter', hcounter, UInt32.add_assoc, UInt32.ofNat_add]
  · rw [drawnIds_add, ← hcounter]
    exact hids.append hids'
  · rw [h.myNodeNum_eq] at hfresh'
    exact List.rel_append hfresh hfresh'
  · rw [List.map_append]
    refine List.append_subset.mpr ⟨fun t ht => ?_, fun t ht => hcover (hsent' ht)⟩
    rw [List.map_append, List.append_assoc]
    rcases List.mem_append.mp (hsent ht) with ht | ht
    · exact List.mem_append_left _ ht
    · exact List.mem_append_right _ (List.mem_append_right _ ht)
  · exact fun t ht => hcover (hpending' ht)

theorem mono (h : Issues m sent ctx ctx') (hle : m ≤ n) : Issues n sent ctx ctx' := by
  obtain ⟨k, hk, hrest⟩ := h.issued
  exact ⟨h.mac_eq, h.myNodeNum_eq, k, Nat.le_trans hk hle, hrest⟩

end Issues

def Emits (n : Nat) (before after : MeshCtx S) : Prop :=
  ∃ sent, after.txToLora = before.txToLora ++ sent ∧ Issues n sent before after

namespace Emits

variable {m n : Nat} {ctx ctx' ctx'' : MeshCtx S}

theorem refl (ctx : MeshCtx S) : Emits 0 ctx ctx :=
  ⟨[], (List.append_nil _).symm, Issues.refl ctx⟩

theorem trans (h : Emits m ctx ctx') (h' : Emits n ctx' ctx'') : Emits (m + n) ctx ctx'' := by
  obtain ⟨sent, hlora, hissues⟩ := h
  obtain ⟨sent', hlora', hissues'⟩ := h'
  refine ⟨sent ++ sent', ?_, hissues.trans hissues'⟩
  rw [hlora', hlora, List.append_assoc]

theorem mono (h : Emits m ctx ctx') (hle : m ≤ n) : Emits n ctx ctx' := by
  obtain ⟨sent, hlora, hissues⟩ := h
  exact ⟨sent, hlora, hissues.mono hle⟩

/-- Work that draws no id and sends nothing. -/
theorem of_pending (hdevice : ctx'.device = ctx.device) (hlora : ctx'.txToLora = ctx.txToLora)
    (hpending : ctx'.pendingPackets.transmissions ⊆ ctx.pendingPackets.transmissions) :
    Emits 0 ctx ctx' :=
  ⟨[], by rw [hlora, List.append_nil],
    Issues.of_pending hdevice (List.nil_subset _) hpending⟩

theorem of_quiet (h : Quiet n ctx ctx') : Emits n ctx ctx' := by
  obtain ⟨k, hk, frames, ids, hcounter, hlora, hids, hframes⟩ := h.originates
  refine ⟨frames, hlora, h.mac_eq, h.myNodeNum_eq, k, hk, frames, ids, hcounter, hids, hframes,
    List.subset_append_left _ _, ?_⟩
  rw [h.pendingPackets_eq]
  exact List.subset_append_right _ _

/-- A fold of steps each of which draws one id. -/
theorem foldl {β : Type} {f : MeshCtx S → β → MeshCtx S} (h : ∀ ctx item, Emits 1 ctx (f ctx item))
    (items : List β) (ctx : MeshCtx S) : Emits items.length ctx (items.foldl f ctx) := by
  induction items generalizing ctx with
  | nil => exact refl ctx
  | cons item items ih =>
      rw [List.foldl_cons, List.length_cons, Nat.add_comm]
      exact (h ctx item).trans (ih (f ctx item))

end Emits

/-! ## Handlers -/

theorem emits_sendBleRoutingResult (ctx : MeshCtx S) (dest requestId : UInt32)
    (error : RoutingError) : Emits 1 ctx (sendBleRoutingResult env ctx dest requestId error) := by
  rw [sendBleRoutingResult_eq]
  refine ⟨[], (List.append_nil _).symm, rfl, rfl, 1, Nat.le_refl 1, [], [], rfl,
    List.nil_sublist _, List.Forall₂.nil, List.nil_subset _, List.Subset.refl _⟩

theorem transmissions_swapRemove_subset (pending : PendingPackets) (i : Nat) :
    PendingPackets.transmissions (pending.swapRemove i) ⊆ pending.transmissions :=
  List.map_subset _ (Bounded.swapRemoveList_subset pending.toList i)

theorem emits_deliver (ctx : MeshCtx S) (i : Nat) (entry : PendingPacket) :
    Emits 1 ctx (FromRadio.deliver env ctx i entry) := by
  have hremoved : Emits 0 ctx
      { ctx with pendingPackets := ctx.pendingPackets.swapRemove i } :=
    Emits.of_pending rfl rfl (transmissions_swapRemove_subset ctx.pendingPackets i)
  unfold FromRadio.deliver
  dsimp only
  split
  · exact hremoved.trans (emits_sendBleRoutingResult _ _ _ _)
  · exact hremoved.mono (Nat.zero_le 1)

theorem emits_receive [MeshStorage S] (ctx : MeshCtx S) (frame : RadioFrame)
    (metadata : RadioMetadata) : Emits 3 ctx (FromRadio.dispatch env ctx frame metadata) := by
  have hrouter : ∀ router : MeshRouter, Emits 0 ctx { ctx with router := router } :=
    fun router => Emits.of_pending rfl rfl (List.Subset.refl _)
  have hreceived := @FromRadio.received_dispatch S env _ ctx frame metadata
  generalize FromRadio.dispatch env ctx frame metadata = after at hreceived
  cases hreceived with
  | quiet router hquiet => exact (hrouter router).trans (Emits.of_quiet hquiet)
  | ownPacket hheader hsender hi =>
      rename_i i
      have hremoved : Emits 0 ctx
          { ctx with pendingPackets := ctx.pendingPackets.swapRemove i } :=
        Emits.of_pending rfl rfl (transmissions_swapRemove_subset ctx.pendingPackets i)
      exact hremoved.mono (Nat.zero_le 3)
  | delivered router hacknowledges hi hentry hbefore hlength hafter =>
      exact (((hrouter router).trans (Emits.of_quiet hbefore)).trans
        (emits_deliver _ _ _)).trans (Emits.of_quiet hafter)

theorem transmission_retransmit (now : Nat) (entry : PendingPacket) :
    (MeshRouter.retransmit now entry).frame.transmission = entry.frame.transmission := by
  unfold MeshRouter.retransmit
  dsimp only
  split
  · exact RadioFrame.transmission_withoutNextHop entry.frame
  · rfl

theorem transmissions_tickRetransmissions (now : Nat) (pending : PendingPackets) (db : NodeDb) :
    (MeshRouter.tickRetransmissions now pending db).toSend.map RadioFrame.transmission ⊆
      pending.transmissions ∧
    (MeshRouter.tickRetransmissions now pending db).pending.transmissions ⊆
      pending.transmissions := by
  have hpasses := MeshRouter.passes_tickRetransmissions now pending db
  constructor
  · intro t ht
    obtain ⟨frame, hframe, rfl⟩ := List.mem_map.mp ht
    obtain ⟨entry, hentry, hcopy⟩ := List.mem_filterMap.mp (hpasses.sent.mem_iff.mp hframe)
    refine List.mem_map.mpr ⟨entry, hentry, ?_⟩
    rcases MeshRouter.fate_cases now entry with ⟨-, hnone, -⟩ | ⟨-, -, hsome, -⟩ | ⟨-, hnone, -⟩
    · rw [hnone] at hcopy
      cases hcopy
    · rw [hsome] at hcopy
      cases hcopy
      exact (transmission_retransmit now entry).symm
    · rw [hnone] at hcopy
      cases hcopy
  · intro t ht
    obtain ⟨next, hnext, rfl⟩ := List.mem_map.mp ht
    obtain ⟨entry, hentry, hfate⟩ := List.mem_filterMap.mp (hpasses.kept.mem_iff.mp hnext)
    refine List.mem_map.mpr ⟨entry, hentry, ?_⟩
    rcases MeshRouter.fate_cases now entry with ⟨hkept, -⟩ | ⟨-, hretried, -⟩ | ⟨hgone, -⟩
    · rw [hkept] at hfate
      cases hfate
      rfl
    · rw [hretried] at hfate
      cases hfate
      exact (transmission_retransmit now entry).symm
    · rw [hgone] at hfate
      cases hfate

theorem emits_fireRetransmissions (ctx : MeshCtx S) :
    Emits 8 ctx (MeshState.fireRetransmissions env ctx) := by
  obtain ⟨lost, result, hresult, hperm, hfire⟩ := @fireRetransmissions_eq S env ctx
  obtain ⟨hrepeated, hpending⟩ :=
    transmissions_tickRetransmissions ctx.now ctx.pendingPackets ctx.nodeDb
  rw [← hresult] at hrepeated hpending
  rw [hfire]
  have hresent : Emits 0 ctx
      { ctx with
        pendingPackets := result.pending
        nodeDb := result.nodeDb
        txToLora := ctx.txToLora ++ result.toSend } :=
    ⟨result.toSend, rfl, Issues.of_pending rfl hrepeated hpending⟩
  have hreports := Emits.foldl (fun (ctx : MeshCtx S) (report : UInt32 × UInt32) =>
      @emits_sendBleRoutingResult S env ctx report.1 report.2 .maxRetransmit) (notices lost)
    { ctx with
      pendingPackets := result.pending
      nodeDb := result.nodeDb
      txToLora := ctx.txToLora ++ result.toSend }
  have hlength := length_notices_le hperm
  exact (hresent.trans hreports).mono (by omega)

/-! ## Packets from the phone -/

namespace Handlers.FromApp

def DrawsOnce (ctx ctx' : MeshCtx S) : Prop :=
  ctx'.device = ctx.device ∨ ctx'.device = ctx.device.takePacketId

theorem drawsOnce_sendBleRoutingResult (ctx : MeshCtx S) (dest requestId : UInt32)
    (error : RoutingError) :
    DrawsOnce ctx (sendBleRoutingResult env ctx dest requestId error) := by
  rw [sendBleRoutingResult_eq]
  exact Or.inr rfl

theorem drawsOnce_buildAndQueue (ctx : MeshCtx S) (pkt : MeshPacket) (data : Data)
    (packetId : UInt32) (pkcKeys : Option (Key × UInt32)) :
    DrawsOnce ctx (buildAndQueue env ctx pkt data packetId pkcKeys) := by
  unfold buildAndQueue
  split
  · rename_i frame _
    unfold queuePhoneFrame
    split
    · split
      · exact Or.inl rfl
      · exact drawsOnce_sendBleRoutingResult ctx _ _ _
    · exact drawsOnce_sendBleRoutingResult (ctx.sendLora frame) _ _ _
  · exact Or.inl rfl

theorem drawsOnce_sendPkc (ctx : MeshCtx S) (pkt : MeshPacket) (data : Data)
    (packetId : UInt32) : DrawsOnce ctx (sendPkc env ctx pkt data packetId) := by
  unfold sendPkc
  split
  · exact Or.inl rfl
  split
  · exact Or.inl rfl
  split
  · exact drawsOnce_sendBleRoutingResult ctx _ _ _
  split
  · exact drawsOnce_sendBleRoutingResult ctx _ _ _
  · exact drawsOnce_buildAndQueue ctx.takeRandom pkt data packetId _

/-- A phone packet without an id takes one for its frame and perhaps one for the answer. -/
theorem drawsOnce_sendToMesh {ctx : MeshCtx S} {pkt : MeshPacket} (data : Data)
    (hid : pkt.id = 0) : DrawsOnce ctx.takePacketId (sendToMesh env ctx pkt data) := by
  have hdrawn : (if pkt.id ≠ 0 then ctx else ctx.takePacketId) = ctx.takePacketId :=
    if_neg (by simpa using hid)
  unfold sendToMesh
  dsimp only
  rw [hdrawn]
  split
  · exact Or.inl rfl
  split
  · exact drawsOnce_sendPkc ctx.takePacketId pkt data _
  · exact drawsOnce_buildAndQueue ctx.takePacketId pkt data _ none

theorem isFrom_of_mem_frames {ctx : MeshCtx S} {pkt : MeshPacket} {data : Data}
    (hid : pkt.id = 0) {frame : RadioFrame} (h : frame ∈ (sendOutcome env ctx pkt data).frames) :
    frame.IsFrom ctx.device.myNodeNum ctx.device.nextPacketId := by
  obtain ⟨-, -, hheader, -⟩ := TxBuilder.build_eq_some (build_of_mem_frames h)
  refine ⟨_, hheader, rfl, ?_⟩
  unfold packetIdFor TxBuilder.header
  rw [if_neg (by simpa using hid)]

variable [MeshStorage S]

theorem emits_handleLocalAdmin (ctx : MeshCtx S) (pkt : MeshPacket) (data : Data) :
    Emits 2 ctx (handleLocalAdmin env ctx pkt data) := by
  have hadmin : Emits 1 ctx (Admin.dispatch env ctx pkt.fromNode pkt.id data.payload false) :=
    Emits.of_quiet (Admin.quiet_dispatch ctx pkt.fromNode pkt.id data.payload false)
  unfold handleLocalAdmin
  dsimp only
  split
  · exact hadmin.trans (emits_sendBleRoutingResult _ _ _ _)
  · exact hadmin.mono (by omega)

theorem emits_sendWithoutId {ctx : MeshCtx S} {pkt : MeshPacket} {data : Data}
    (hdecoded : pkt.payloadVariant = some (.decoded data))
    (hlocal : isLocalAdmin ctx.device pkt data = false) (hid : pkt.id = 0) :
    Emits 2 ctx (transmitFromBlePacket env ctx pkt) := by
  have hperforms := @performs_transmitFromBlePacket S env _ ctx pkt data hdecoded hlocal
  have hframes := fun frame => @isFrom_of_mem_frames S env ctx pkt data hid frame
  have hdraws : DrawsOnce ctx.takePacketId (transmitFromBlePacket env ctx pkt) := by
    unfold transmitFromBlePacket transmitDecoded
    rw [hdecoded]
    dsimp only
    rw [if_neg (by simp [hlocal])]
    unfold notePosition
    split
    · exact @drawsOnce_sendToMesh S env
        { ctx with myPositionBytes := Bounded.ofListOrEmpty data.payload } pkt data hid
    · exact drawsOnce_sendToMesh data hid
  generalize sendOutcome env ctx pkt data = outcome at hperforms hframes
  generalize transmitFromBlePacket env ctx pkt = after at hperforms hdraws
  -- the frame, if any, is fresh and the only new one pending
  obtain ⟨ids, hids, hfresh⟩ : ∃ ids, List.Sublist ids [ctx.device.nextPacketId] ∧
      List.Forall₂ (RadioFrame.IsFrom ctx.device.myNodeNum) outcome.frames ids := by
    cases outcome with
    | silent => exact ⟨[], List.nil_sublist _, List.Forall₂.nil⟩
    | failed error => exact ⟨[], List.nil_sublist _, List.Forall₂.nil⟩
    | tracked frame =>
        exact ⟨_, List.Sublist.refl _, List.Forall₂.cons
          (hframes frame (List.mem_singleton_self frame)) List.Forall₂.nil⟩
    | confirmed frame =>
        exact ⟨_, List.Sublist.refl _, List.Forall₂.cons
          (hframes frame (List.mem_singleton_self frame)) List.Forall₂.nil⟩
  have hpending : after.pendingPackets.transmissions ⊆
      outcome.frames.map RadioFrame.transmission ++ ctx.pendingPackets.transmissions := by
    unfold PendingPackets.transmissions
    rw [hperforms.pending, List.map_append]
    refine List.append_subset.mpr ⟨List.subset_append_right _ _, ?_⟩
    cases outcome with
    | tracked frame => exact List.subset_append_left _ _
    | silent => exact List.nil_subset _
    | failed error => exact List.nil_subset _
    | confirmed frame => exact List.nil_subset _
  have hfirst : List.Sublist [ctx.device.nextPacketId] (drawnIds ctx.device.packetIdCounter 2) :=
    List.Sublist.cons_cons _ (List.nil_sublist _)
  refine ⟨outcome.frames, hperforms.lora, ?_⟩
  rcases hdraws with hdevice | hdevice
  · exact ⟨by rw [hdevice]; rfl, by rw [hdevice]; rfl, 1, by omega, outcome.frames, ids,
      by rw [hdevice]; rfl, hids, hfresh, List.subset_append_left _ _, hpending⟩
  · refine ⟨by rw [hdevice]; rfl, by rw [hdevice]; rfl, 2, Nat.le_refl 2, outcome.frames, ids,
      ?_, hids.trans hfirst, hfresh, List.subset_append_left _ _, hpending⟩
    rw [hdevice]
    exact UInt32.add_assoc _ 1 1

end Handlers.FromApp

end Meshtastenstein
