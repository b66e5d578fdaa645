import Meshtastenstein.Effects
/-!
# What a received frame does

A frame from the radio either leaves the pending packets alone, or is taken for our own
packet heard back, or acknowledges one of them.
-/

namespace Meshtastenstein.Handlers.FromRadio

open Lib Proto

variable {S : Type} {env : Env}

/-! ## Pending packets -/

theorem position_eq_some {pending : PendingPackets} {packetId : UInt32} {i : Nat}
    (h : pending.position packetId = some i) :
    ∃ entry, pending.toList[i]? = some entry ∧ entry.packetId = packetId := by
  obtain ⟨hlt, hentry, -⟩ := List.findIdx?_eq_some_iff_getElem.mp h
  exact ⟨pending.toList[i], List.getElem?_eq_getElem hlt, by simpa using hentry⟩

theorem perm_swapRemove_of_getElem? {pending : PendingPackets} {i : Nat}
    {entry : PendingPacket} (h : pending.toList[i]? = some entry) :
    pending.toList.Perm (entry :: (pending.swapRemove i).toList) := by
  obtain ⟨hlt, rfl⟩ := List.getElem?_eq_some_iff.mp h
  exact pending.perm_swapRemove i hlt

def Removes (before after : PendingPackets) (entry : PendingPacket) : Prop :=
  ∃ lost, before.toList.Perm (lost ++ after.toList) ∧ entry ∈ lost

theorem not_removes_self (pending : PendingPackets) (entry : PendingPacket) :
    ¬ Removes pending pending entry := by
  rintro ⟨lost, hperm, hmem⟩
  have hlength := hperm.length_eq
  rw [List.length_append] at hlength
  rw [List.length_eq_zero_iff.mp (show lost.length = 0 by omega)] at hmem
  cases hmem

theorem removes_swapRemove_iff {pending : PendingPackets} {i : Nat}
    {removed entry : PendingPacket} (h : pending.toList[i]? = some removed) :
    Removes pending (pending.swapRemove i) entry ↔ entry = removed := by
  have hswap := perm_swapRemove_of_getElem? h
  constructor
  · rintro ⟨lost, hperm, hmem⟩
    have hlost : lost.Perm [removed] :=
      (List.perm_append_right_iff (pending.swapRemove i).toList).mp (hperm.symm.trans hswap)
    rw [List.perm_singleton.mp hlost] at hmem
    exact List.mem_singleton.mp hmem
  · rintro rfl
    exact ⟨[entry], hswap, List.mem_singleton_self entry⟩

/-- The state after the entry at `i` was acknowledged: it is gone, and whoever waits for
it is told. -/
def deliver (env : Env) (ctx : MeshCtx S) (i : Nat) (entry : PendingPacket) : MeshCtx S :=
  let removed := { ctx with pendingPackets := ctx.pendingPackets.swapRemove i }
  match entry.bleNotify with
  | some dest => sendBleRoutingResult env removed dest entry.packetId .none
  | none => removed

theorem pendingPackets_deliver (ctx : MeshCtx S) (i : Nat) (entry : PendingPacket) :
    (deliver env ctx i entry).pendingPackets = ctx.pendingPackets.swapRemove i := by
  unfold deliver
  dsimp only
  split
  · rw [sendBleRoutingResult_eq]
    rfl
  · rfl

theorem txToLora_deliver (ctx : MeshCtx S) (i : Nat) (entry : PendingPacket) :
    (deliver env ctx i entry).txToLora = ctx.txToLora := by
  unfold deliver
  dsimp only
  split
  · rw [sendBleRoutingResult_eq]
    rfl
  · rfl

theorem acknowledge_eq {ctx : MeshCtx S} {requestId : UInt32} {i : Nat}
    {entry : PendingPacket} (hi : ctx.pendingPackets.position requestId = some i)
    (hentry : ctx.pendingPackets.toList[i]? = some entry) :
    acknowledge env ctx requestId = deliver env ctx i entry := by
  unfold acknowledge deliver
  rw [hi]
  dsimp only
  rw [hentry, Option.bind_some]
  cases entry.bleNotify <;> rfl

/-! ## Outcomes of a reception -/

def AcknowledgesId (env : Env) (ctx : MeshCtx S) (frame : RadioFrame)
    (header : PacketHeader) (requestId : UInt32) : Prop :=
  frame.header = some header ∧
  ∃ decoded routing,
    tryDecryptAndDecode env frame header ctx.device ctx.nodeDb ctx.pkcPrivBytes =
      .decoded decoded ∧
    decoded.portnum = PortNum.routingApp.toI32 ∧
    env.prost.routing.decode decoded.payload = some routing ∧
    decoded.requestId = requestId

/-- The frame, seen for the first time and not our own, decodes as a routing message that
names the pending packet `entry`. -/
def Acknowledges (env : Env) (ctx : MeshCtx S) (frame : RadioFrame) (header : PacketHeader)
    (entry : PendingPacket) : Prop :=
  frame.header = some header ∧ header.sender ≠ ctx.device.myNodeNum ∧
  ctx.router.findRecord header.sender header.packetId = none ∧
  ∃ decoded i,
    tryDecryptAndDecode env frame header ctx.device ctx.nodeDb ctx.pkcPrivBytes =
      .decoded decoded ∧
    decoded.portnum = PortNum.routingApp.toI32 ∧
    (env.prost.routing.decode decoded.payload).isSome = true ∧ decoded.requestId ≠ 0 ∧
    ctx.pendingPackets.position decoded.requestId = some i ∧
    ctx.pendingPackets.toList[i]? = some entry

theorem Acknowledges.acknowledgesId {ctx : MeshCtx S} {frame : RadioFrame}
    {header : PacketHeader} {entry : PendingPacket}
    (h : Acknowledges env ctx frame header entry) :
    AcknowledgesId env ctx frame header entry.packetId := by
  obtain ⟨hheader, -, -, decoded, i, hdecoded, hportnum, hrouting, -, hi, hentry⟩ := h
  obtain ⟨routing, hrouting⟩ := Option.isSome_iff_exists.mp hrouting
  obtain ⟨entry', hentry', hid⟩ := position_eq_some hi
  obtain rfl := Option.some.inj (hentry.symm.trans hentry')
  exact ⟨hheader, decoded, routing, hdecoded, hportnum, hrouting, hid.symm⟩

/-- What a reception can turn the context into. -/
inductive Received (env : Env) (ctx : MeshCtx S) (frame : RadioFrame) : MeshCtx S → Prop
  /-- The router may have learned of the packet, the rest is quiet. -/
  | quiet (router : MeshRouter) {after : MeshCtx S}
      (h : Quiet 3 { ctx with router := router } after) : Received env ctx frame after
  /-- Our own packet was heard back and is no longer pending. -/
  | ownPacket {header : PacketHeader} {i : Nat} (hheader : frame.header = some header)
      (hsender : header.sender = ctx.device.myNodeNum)
      (hi : ctx.pendingPackets.position header.packetId = some i) :
      Received env ctx frame
        { ctx with pendingPackets := ctx.pendingPackets.swapRemove i }
  /-- A routing message named a pending packet, which was delivered between quiet
  stretches; before it, at most one message was queued for the phone. -/
  | delivered {header : PacketHeader} {i : Nat} {entry : PendingPacket}
      (router : MeshRouter) {before after : MeshCtx S}
      (hacknowledges : Acknowledges env ctx frame header entry)
      (hi : ctx.pendingPackets.position entry.packetId = some i)
      (hentry : ctx.pendingPackets.toList[i]? = some entry)
      (hbefore : Quiet 1 { ctx with router := router } before)
      (hroom : before.txToBle.length ≤ ctx.txToBle.length + 1)
      (hafter : Quiet 1 (deliver env before i entry) after) :
      Received env ctx frame after

theorem length_txToBle_trySendBle_le (ctx : MeshCtx S) (msg : FromRadioMessage) :
    (ctx.trySendBle msg).txToBle.length ≤ ctx.txToBle.length + 1 := by
  rw [MeshCtx.trySendBle_eq]
  dsimp only
  split
  · rw [List.length_append, List.length_singleton]
  · omega

theorem txToBle_sendNodeinfo (ctx : MeshCtx S) (dest : UInt32) (wantResponse : Bool) :
    (sendNodeinfo env ctx dest wantResponse).txToBle = ctx.txToBle := by
  unfold sendNodeinfo loraSend
  split
  · dsimp only
    split <;> rfl
  · rfl

theorem txToBle_maybeRequestNodeinfo (ctx : MeshCtx S) (sender : UInt32)
    (hopStart hopLimit : UInt8) :
    (maybeRequestNodeinfo env ctx sender hopStart hopLimit).txToBle = ctx.txToBle := by
  unfold maybeRequestNodeinfo
  split
  · rfl
  split
  · rfl
  split
  · rfl
  split
  · rfl
  split
  · rfl
  · exact txToBle_sendNodeinfo ctx sender true

theorem length_txToBle_noteSender_le (ctx : MeshCtx S) (header : PacketHeader)
    (metadata : RadioMetadata) :
    (noteSender env ctx header metadata).txToBle.length ≤ ctx.txToBle.length + 1 := by
  have hnotify : ∀ ctx₁ : MeshCtx S,
      (notifyBleNodeUpdate ctx₁ header.sender).txToBle.length ≤ ctx₁.txToBle.length + 1 := by
    intro ctx₁
    unfold notifyBleNodeUpdate
    split
    · exact length_txToBle_trySendBle_le ctx₁.takeFromRadioId _
    · exact Nat.le_succ _
  have hrequest : ∀ ctx₂ : MeshCtx S,
      (if ((ctx₂.nodeDb.get header.sender).bind (·.user)).isNone = true then
        maybeRequestNodeinfo env ctx₂ header.sender header.hopStart header.hopLimit
      else ctx₂).txToBle = ctx₂.txToBle := by
    intro ctx₂
    split
    · exact txToBle_maybeRequestNodeinfo ctx₂ _ _ _
    · rfl
  unfold noteSender
  dsimp only
  rw [hrequest]
  split
  · exact hnotify _
  · exact Nat.le_succ _

theorem quiet_handleRouting_of_position {ctx : MeshCtx S} {pkt : InboundPacket}
    {routing : Routing} {i : Nat} {entry : PendingPacket}
    (hrouting : env.prost.routing.decode pkt.payload = some routing)
    (hrequest : pkt.requestId ≠ 0) (hi : ctx.pendingPackets.position pkt.requestId = some i)
    (hentry : ctx.pendingPackets.toList[i]? = some entry) :
    Quiet 0 (deliver env ctx i entry) (handleRouting env ctx pkt) := by
  unfold handleRouting
  rw [hrouting]
  dsimp only
  rw [if_pos hrequest, acknowledge_eq hi hentry]
  exact Quiet.of_traffic_eq rfl

theorem handleRouting_cases (ctx : MeshCtx S) (pkt : InboundPacket) :
    Quiet 0 ctx (handleRouting env ctx pkt) ∨
    ∃ routing i entry, env.prost.routing.decode pkt.payload = some routing ∧
      pkt.requestId ≠ 0 ∧ ctx.pendingPackets.position pkt.requestId = some i ∧
      ctx.pendingPackets.toList[i]? = some entry ∧ entry.packetId = pkt.requestId ∧
      Quiet 0 (deliver env ctx i entry) (handleRouting env ctx pkt) := by
  cases hrouting : env.prost.routing.decode pkt.payload with
  | none =>
      left
      unfold handleRouting
      rw [hrouting]
      exact Quiet.refl ctx
  | some routing =>
      by_cases hrequest : pkt.requestId = 0
      · left
        unfold handleRouting
        rw [hrouting]
        dsimp only
        rw [if_neg (by simpa using hrequest)]
        exact Quiet.refl ctx
      cases hi : ctx.pendingPackets.position pkt.requestId with
      | none =>
          left
          unfold handleRouting acknowledge
          rw [hrouting]
          dsimp only
          rw [if_pos hrequest, hi]
          exact Quiet.of_traffic_eq rfl
      | some i =>
          right
          obtain ⟨entry, hentry, hid⟩ := position_eq_some hi
          exact ⟨routing, i, entry, rfl, hrequest, rfl, hentry, hid,
            quiet_handleRouting_of_position hrouting hrequest hi hentry⟩

theorem quiet_afterPortnum (ctx : MeshCtx S) (frame : RadioFrame) (header : PacketHeader)
    (metadata : RadioMetadata) (decoded : DecodedPayload) (pkt : InboundPacket) :
    Quiet 1 ctx (relayInbound env
      (ackInbound env (forwardInbound ctx header metadata decoded pkt) header decoded)
      frame header metadata) :=
  ((quiet_forwardInbound ctx header metadata decoded pkt).trans
    (quiet_ackInbound _ header decoded)).trans (quiet_relayInbound _ frame header metadata)

variable [MeshStorage S]

theorem handlePortnum_routing {ctx : MeshCtx S} {portnum : Int32}
    (h : portnum = PortNum.routingApp.toI32) (pkt : InboundPacket) :
    handlePortnum env ctx portnum pkt = handleRouting env ctx pkt := by
  unfold handlePortnum
  rw [h, PortNum.tryFrom_toI32]

theorem received_handleNew {ctx : MeshCtx S} {frame : RadioFrame} {header : PacketHeader}
    {decoded : DecodedPayload} (router : MeshRouter) (metadata : RadioMetadata)
    (hheader : frame.header = some header)
    (hsender : header.sender ≠ ctx.device.myNodeNum)
    (hfind : ctx.router.findRecord header.sender header.packetId = none)
    (hdecoded : tryDecryptAndDecode env frame header ctx.device ctx.nodeDb
      ctx.pkcPrivBytes = .decoded decoded) :
    Received env ctx frame
      (handleNew env { ctx with router := router } frame header metadata decoded) := by
  unfold handleNew
  dsimp only
  -- up to the port number handler, the sender is noted and a text buffered
  generalize hnote : noteSender env { ctx with router := router } header metadata = ctx₁
  have hquiet₁ : Quiet 1 { ctx with router := router } ctx₁ := by
    rw [← hnote]
    exact quiet_noteSender _ header metadata
  have hroom₁ : ctx₁.txToBle.length ≤ ctx.txToBle.length + 1 := by
    rw [← hnote]
    exact length_txToBle_noteSender_le _ header metadata
  generalize hpkt : inboundPacket ctx₁.device header metadata decoded = pkt
  generalize hbuffer : bufferText ctx₁ frame decoded.portnum = ctx₂
  have hquiet₂ : Quiet 1 { ctx with router := router } ctx₂ := by
    rw [← hbuffer]
    exact hquiet₁.trans (quiet_bufferText ctx₁ frame decoded.portnum)
  have hroom₂ : ctx₂.txToBle.length ≤ ctx.txToBle.length + 1 := by
    have hsame : ctx₂.txToBle = ctx₁.txToBle := by
      rw [← hbuffer]
      unfold bufferText
      split <;> rfl
    rw [hsame]
    exact hroom₁
  have hafter := fun ctx₃ : MeshCtx S =>
    @quiet_afterPortnum S env ctx₃ frame header metadata decoded pkt
  by_cases hportnum : decoded.portnum = PortNum.routingApp.toI32
  · rw [handlePortnum_routing hportnum]
    rcases @handleRouting_cases S env ctx₂ pkt with hquiet | hdeliver
    · exact Received.quiet router (((hquiet₂.trans hquiet).trans (hafter _)).mono (by omega))
    · obtain ⟨routing, i, entry, hrouting, hrequest, hi, hentry, hid, hdelivered⟩ := hdeliver
      have hpending : ctx₂.pendingPackets = ctx.pendingPackets := hquiet₂.pendingPackets_eq
      have hpayload : pkt.payload = decoded.payload := by
        rw [← hpkt]
        rfl
      have hrequestId : pkt.requestId = decoded.requestId := by
        rw [← hpkt]
        rfl
      rw [hpending] at hi hentry
      rw [hpayload] at hrouting
      rw [hrequestId] at hi hrequest hid
      exact Received.delivered router
        ⟨hheader, hsender, hfind, decoded, i, hdecoded, hportnum,
          Option.isSome_iff_exists.mpr ⟨routing, hrouting⟩, hrequest, hi, hentry⟩
        (hid ▸ hi) hentry hquiet₂ hroom₂ (hdelivered.trans (hafter _))
  · have hportnumQuiet : Quiet 1 ctx₂ (handlePortnum env ctx₂ decoded.portnum pkt) :=
      quiet_handlePortnum ctx₂ pkt hportnum
    exact Received.quiet router (((hquiet₂.trans hportnumQuiet).trans (hafter _)).mono (by omega))

theorem received_handleDecoded {ctx : MeshCtx S} {frame : RadioFrame}
    {header : PacketHeader} {decoded : DecodedPayload} (metadata : RadioMetadata)
    (hheader : frame.header = some header)
    (hsender : header.sender ≠ ctx.device.myNodeNum)
    (hdecoded : tryDecryptAndDecode env frame header ctx.device ctx.nodeDb
      ctx.pkcPrivBytes = .decoded decoded) :
    Received env ctx frame (handleDecoded env ctx frame header metadata decoded) := by
  unfold handleDecoded
  dsimp only
  generalize hfiltered : ctx.router.shouldFilterReceived _ _ _ _ _ _ = filtered
  obtain ⟨verdict, router⟩ := filtered
  dsimp only
  split
  · exact received_handleNew router metadata hheader hsender
      (MeshRouter.findRecord_eq_none_of_new hfiltered) hdecoded
  · exact Received.quiet router ((quiet_upgradeRebroadcast _ frame header _).mono (by omega))
  · exact Received.quiet router ((quiet_cancelRebroadcast _ header).mono (by omega))
  · exact Received.quiet router ((Quiet.refl _).mono (by omega))

omit [MeshStorage S] in
theorem received_handleUndecodable (ctx : MeshCtx S) (frame : RadioFrame)
    (header : PacketHeader) (metadata : RadioMetadata) :
    Received env ctx frame (handleUndecodable env ctx frame header metadata) := by
  have hsame : Received env ctx frame ctx :=
    Received.quiet ctx.router ((Quiet.refl ctx).mono (by omega))
  unfold handleUndecodable maybeRelayOpaque
  split
  · split
    · exact hsame
    split
    · exact hsame
    · dsimp only
      split
      · exact Received.quiet _ ((quiet_scheduleRebroadcast _ frame metadata _).mono (by omega))
      · exact Received.quiet _ ((Quiet.refl _).mono (by omega))
  · exact hsame

theorem received_dispatch (ctx : MeshCtx S) (frame : RadioFrame)
    (metadata : RadioMetadata) :
    Received env ctx frame (dispatch env ctx frame metadata) := by
  unfold dispatch
  split
  · exact Received.quiet ctx.router ((Quiet.refl ctx).mono (by omega))
  · rename_i header hheader
    split
    · rename_i hsender
      unfold hearOwnPacket
      split
      · rename_i i hi
        exact Received.ownPacket hheader hsender hi
      · exact Received.quiet ctx.router ((Quiet.refl ctx).mono (by omega))
    · rename_i hsender
      split
      · rename_i decoded hdecoded
        exact received_handleDecoded metadata hheader hsender hdecoded
      · exact Received.quiet ctx.router ((quiet_answerUnknownPubkey ctx header).mono (by omega))
      · exact received_handleUndecodable ctx frame header metadata

/-! ## Removed entries -/

/-- The frame carries our own node number and the id of a pending packet, whose first
entry is `entry`. -/
def NamesOwnPacket (ctx : MeshCtx S) (frame : RadioFrame) (entry : PendingPacket) : Prop :=
  ∃ header i, frame.header = some header ∧ header.sender = ctx.device.myNodeNum ∧
    ctx.pendingPackets.position header.packetId = some i ∧
    ctx.pendingPackets.toList[i]? = some entry

/-- A received frame removes the packet of ours it repeats, or the one it acknowledges,
and no other. -/
theorem removes_dispatch {ctx : MeshCtx S} {frame : RadioFrame} {metadata : RadioMetadata}
    {entry : PendingPacket}
    (h : Removes ctx.pendingPackets (dispatch env ctx frame metadata).pendingPackets entry) :
    NamesOwnPacket ctx frame entry ∨
    ∃ header, Acknowledges env ctx frame header entry := by
  have hreceived := @received_dispatch S env _ ctx frame metadata
  generalize dispatch env ctx frame metadata = after at h hreceived
  cases hreceived with
  | quiet router hquiet =>
      rw [hquiet.pendingPackets_eq] at h
      exact absurd h (not_removes_self ctx.pendingPackets entry)
  | ownPacket hheader hsender hi =>
      obtain ⟨removed, hremoved, -⟩ := position_eq_some hi
      obtain rfl := (removes_swapRemove_iff hremoved).mp h
      exact Or.inl ⟨_, _, hheader, hsender, hi, hremoved⟩
  | delivered router hacknowledges hi hentry hbefore hroom hafter =>
      rw [hafter.pendingPackets_eq, pendingPackets_deliver, hbefore.pendingPackets_eq] at h
      obtain rfl := (removes_swapRemove_iff hentry).mp h
      exact Or.inr ⟨_, hacknowledges⟩

theorem NamesOwnPacket.removes {ctx : MeshCtx S} {frame : RadioFrame} {entry : PendingPacket}
    (h : NamesOwnPacket ctx frame entry) (metadata : RadioMetadata) :
    Removes ctx.pendingPackets (dispatch env ctx frame metadata).pendingPackets entry := by
  obtain ⟨header, i, hheader, hsender, hi, hentry⟩ := h
  unfold dispatch hearOwnPacket
  rw [hheader]
  dsimp only
  rw [if_pos hsender, hi]
  exact (removes_swapRemove_iff hentry).mpr rfl

theorem Acknowledges.removes {ctx : MeshCtx S} {frame : RadioFrame} {header : PacketHeader}
    {entry : PendingPacket} (h : Acknowledges env ctx frame header entry)
    (metadata : RadioMetadata) :
    Removes ctx.pendingPackets (dispatch env ctx frame metadata).pendingPackets entry := by
  obtain ⟨hheader, hsender, hfind, decoded, i, hdecoded, hportnum, hrouting, hrequest, hi,
    hentry⟩ := h
  obtain ⟨routing, hrouting⟩ := Option.isSome_iff_exists.mp hrouting
  -- the packet is new, so the verdict only adds it to the history
  obtain ⟨router, hverdict⟩ : ∃ router, ctx.router.shouldFilterReceived header.sender
      header.packetId header.hopLimit header.relayNode (pendingHopLimit ctx header)
      ctx.device.role = (.new, router) := by
    unfold MeshRouter.shouldFilterReceived
    rw [hfind]
    exact ⟨_, rfl⟩
  unfold dispatch
  rw [hheader]
  dsimp only
  rw [if_neg hsender, hdecoded]
  dsimp only
  unfold handleDecoded
  rw [hverdict]
  dsimp only
  unfold handleNew
  dsimp only
  generalize hnote : noteSender env { ctx with router := router } header metadata = ctx₁
  generalize hbuffer : bufferText ctx₁ frame decoded.portnum = ctx₂
  have hpending : ctx₂.pendingPackets = ctx.pendingPackets := by
    rw [← hbuffer, (quiet_bufferText ctx₁ frame decoded.portnum).pendingPackets_eq, ← hnote]
    exact (quiet_noteSender _ header metadata).pendingPackets_eq
  rw [← hpending] at hi hentry
  rw [(quiet_afterPortnum _ frame header metadata decoded _).pendingPackets_eq,
    handlePortnum_routing hportnum,
    (quiet_handleRouting_of_position hrouting hrequest hi hentry).pendingPackets_eq,
    pendingPackets_deliver, hpending]
  rw [hpending] at hentry
  exact (removes_swapRemove_iff hentry).mpr rfl

end Meshtastenstein.Handlers.FromRadio
