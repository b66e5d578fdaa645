import Mathlib.Data.List.Forall2
import Meshtastenstein.Lib.Words
import Meshtastenstein.MeshTask
/-!
# What a handler can touch

Most handlers only originate a few frames and tell the phone something that is no
delivery report.  `Quiet` says so once for every one of them: the router and the
pending packets are left alone, every frame goes out under a packet id of its own,
and no message to the phone answers a request.
-/

namespace Meshtastenstein

open Lib Proto

/-! ## Delivery reports -/

/-- Whether a message tells `dest` how its packet `requestId` ended. -/
def Proto.FromRadio.Variant.reports (variant : FromRadio.Variant)
    (dest requestId : UInt32) : Bool :=
  match variant with
  | .packet pkt =>
      pkt.toNode == dest &&
        match pkt.payloadVariant with
        | some (.decoded data) =>
            data.portnum == PortNum.routingApp.toI32 && data.requestId == requestId
        | _ => false
  | _ => false

def Proto.FromRadio.Variant.IsQuiet (variant : FromRadio.Variant) : Prop :=
  ∀ dest requestId, requestId ≠ 0 → variant.reports dest requestId = false

theorem Proto.FromRadio.Variant.isQuiet_of_portnum {packet : MeshPacket} {data : Data}
    (hdata : packet.payloadVariant = some (.decoded data))
    (hportnum : data.portnum ≠ PortNum.routingApp.toI32) :
    (FromRadio.Variant.packet packet).IsQuiet := by
  intro dest requestId _
  have hne : (data.portnum == PortNum.routingApp.toI32) = false := by simpa using hportnum
  simp only [FromRadio.Variant.reports, hdata, hne, Bool.false_and, Bool.and_false]

theorem Proto.FromRadio.Variant.isQuiet_of_requestId {packet : MeshPacket} {data : Data}
    (hdata : packet.payloadVariant = some (.decoded data)) (hrequest : data.requestId = 0) :
    (FromRadio.Variant.packet packet).IsQuiet := by
  intro dest requestId hne
  have hzero : (data.requestId == requestId) = false := by
    rw [hrequest, beq_eq_false_iff_ne]
    exact hne.symm
  simp only [FromRadio.Variant.reports, hdata, hzero, Bool.and_false]

/-! ## Originated frames -/

def RadioFrame.IsFrom (sender : UInt32) (frame : RadioFrame) (id : UInt32) : Prop :=
  ∃ header, frame.header = some header ∧ header.sender = sender ∧ header.packetId = id

variable {S : Type}

/-- `ctx'` follows from `ctx` by drawing at most `n` packet ids and queueing frames of
our own, each under one of them and no two under the same. -/
def Originates (n : Nat) (ctx ctx' : MeshCtx S) : Prop :=
  ∃ k ≤ n, ∃ frames ids,
    ctx'.device.packetIdCounter = ctx.device.packetIdCounter + UInt32.ofNat k ∧
    ctx'.txToLora = ctx.txToLora ++ frames ∧
    ids.Sublist (drawnIds ctx.device.packetIdCounter k) ∧
    List.Forall₂ (RadioFrame.IsFrom ctx.device.myNodeNum) frames ids

theorem Originates.of_eq {ctx ctx' : MeshCtx S}
    (hcounter : ctx'.device.packetIdCounter = ctx.device.packetIdCounter)
    (hlora : ctx'.txToLora = ctx.txToLora) : Originates 0 ctx ctx' := by
  refine ⟨0, Nat.le_refl 0, [], [], ?_, ?_, List.Sublist.refl _, List.Forall₂.nil⟩
  · rw [hcounter]
    simp
  · rw [hlora, List.append_nil]

theorem Originates.trans {m n : Nat} {ctx ctx' ctx'' : MeshCtx S}
    (hnum : ctx'.device.myNodeNum = ctx.device.myNodeNum)
    (h : Originates m ctx ctx') (h' : Originates n ctx' ctx'') :
    Originates (m + n) ctx ctx'' := by
  obtain ⟨k, hk, frames, ids, hcounter, hlora, hids, hframes⟩ := h
  obtain ⟨k', hk', frames', ids', hcounter', hlora', hids', hframes'⟩ := h'
  refine ⟨k + k', Nat.add_le_add hk hk', frames ++ frames', ids ++ ids', ?_, ?_, ?_, ?_⟩
  · rw [hcounter', hcounter, UInt32.add_assoc, UInt32.ofNat_add]
  · rw [hlora', hlora, List.append_assoc]
  · rw [drawnIds_add, ← hcounter]
    exact hids.append hids'
  · rw [hnum] at hframes'
    exact List.rel_append hframes hframes'

theorem Originates.mono {m n : Nat} {ctx ctx' : MeshCtx S} (h : Originates m ctx ctx')
    (hle : m ≤ n) : Originates n ctx ctx' := by
  obtain ⟨k, hk, hrest⟩ := h
  exact ⟨k, Nat.le_trans hk hle, hrest⟩

/-! ## Messages to the phone -/

/-- `after` follows from `before` by queueing for the phone messages with the property. -/
def Tells (P : FromRadio.Variant → Prop) (before after : MeshCtx S) : Prop :=
  ∃ msgs, after.txToBle = before.txToBle ++ msgs ∧ ∀ msg ∈ msgs, P msg.variant

namespace Tells

variable {P : FromRadio.Variant → Prop} {ctx ctx' ctx'' : MeshCtx S}

theorem of_eq (h : ctx'.txToBle = ctx.txToBle) : Tells P ctx ctx' :=
  ⟨[], by rw [h, List.append_nil], by simp⟩

theorem refl (ctx : MeshCtx S) : Tells P ctx ctx := of_eq rfl

theorem trans (h : Tells P ctx ctx') (h' : Tells P ctx' ctx'') : Tells P ctx ctx'' := by
  obtain ⟨msgs, hble, hmsgs⟩ := h
  obtain ⟨msgs', hble', hmsgs'⟩ := h'
  refine ⟨msgs ++ msgs', by rw [hble', hble, List.append_assoc], ?_⟩
  intro msg hmsg
  rcases List.mem_append.mp hmsg with hmsg | hmsg
  · exact hmsgs msg hmsg
  · exact hmsgs' msg hmsg

theorem mono {Q : FromRadio.Variant → Prop} (h : Tells P ctx ctx')
    (himp : ∀ variant, P variant → Q variant) : Tells Q ctx ctx' := by
  obtain ⟨msgs, hble, hmsgs⟩ := h
  exact ⟨msgs, hble, fun msg hmsg => himp msg.variant (hmsgs msg hmsg)⟩

theorem mem (h : Tells P ctx ctx') {msg : FromRadioMessage}
    (hmsg : msg ∈ ctx'.txToBle.drop ctx.txToBle.length) : P msg.variant := by
  obtain ⟨msgs, hble, hmsgs⟩ := h
  rw [hble, List.drop_left] at hmsg
  exact hmsgs msg hmsg

theorem push (ctx : MeshCtx S) {variant : FromRadio.Variant} (h : P variant) :
    Tells P ctx (Handlers.pushFromRadio ctx variant) := by
  unfold Handlers.pushFromRadio
  rw [MeshCtx.trySendBle_eq]
  split
  · refine ⟨_, rfl, fun msg hmsg => ?_⟩
    rw [List.mem_singleton.mp hmsg]
    exact h
  · exact of_eq rfl

theorem foldl {β : Type} {f : MeshCtx S → β → MeshCtx S} {items : List β}
    (h : ∀ ctx, ∀ item ∈ items, Tells P ctx (f ctx item)) (ctx : MeshCtx S) :
    Tells P ctx (items.foldl f ctx) := by
  induction items generalizing ctx with
  | nil => exact refl ctx
  | cons item items ih =>
      have hfirst := h ctx item List.mem_cons_self
      exact hfirst.trans (ih (fun ctx i hi => h ctx i (List.mem_cons_of_mem _ hi)) _)

theorem foldl_push {variants : List FromRadio.Variant} (h : ∀ variant ∈ variants, P variant)
    (ctx : MeshCtx S) : Tells P ctx (variants.foldl Handlers.pushFromRadio ctx) :=
  foldl (fun ctx variant hvariant => push ctx (h variant hvariant)) ctx

end Tells

/-- The work never waits for a slot in the queue to the phone. -/
def Unblocked (before after : MeshCtx S) : Prop :=
  after.txToBle.length ≤ max BLE_TX_QUEUE_SIZE before.txToBle.length

namespace Unblocked

variable {ctx ctx' ctx'' : MeshCtx S}

theorem of_eq (h : ctx'.txToBle = ctx.txToBle) : Unblocked ctx ctx' := by
  unfold Unblocked
  rw [h]
  exact Nat.le_max_right _ _

theorem refl (ctx : MeshCtx S) : Unblocked ctx ctx := of_eq rfl

theorem trans (h : Unblocked ctx ctx') (h' : Unblocked ctx' ctx'') : Unblocked ctx ctx'' := by
  unfold Unblocked at *
  omega

theorem push (ctx : MeshCtx S) (variant : FromRadio.Variant) :
    Unblocked ctx (Handlers.pushFromRadio ctx variant) := by
  unfold Unblocked Handlers.pushFromRadio
  rw [MeshCtx.trySendBle_eq]
  dsimp only
  split
  · rename_i hroom
    rw [List.length_append]
    exact Nat.le_trans hroom (Nat.le_max_left _ _)
  · exact Nat.le_max_right _ _

theorem foldl {β : Type} {f : MeshCtx S → β → MeshCtx S}
    (h : ∀ ctx item, Unblocked ctx (f ctx item)) (items : List β) (ctx : MeshCtx S) :
    Unblocked ctx (items.foldl f ctx) := by
  induction items generalizing ctx with
  | nil => exact refl ctx
  | cons item items ih => exact (h ctx item).trans (ih _)

end Unblocked

/-- The session of the administrator and the clock that it is held against. -/
def MeshCtx.session (ctx : MeshCtx S) : Option SessionPasskey × Nat :=
  (ctx.sessionPasskey, ctx.now)

/-! ## Quiet work -/

/-- The part of the context that `Quiet` speaks about. -/
def MeshCtx.traffic (ctx : MeshCtx S) :=
  (ctx.router, ctx.pendingPackets, ctx.device.mac, ctx.device.myNodeNum,
    ctx.device.packetIdCounter, ctx.txToLora, ctx.txToBle)

/-- Work that leaves the router, the pending packets and the identity of the node
alone, draws at most `n` packet ids for frames of its own and reports on no packet. -/
structure Quiet (n : Nat) (ctx ctx' : MeshCtx S) : Prop where
  router_eq : ctx'.router = ctx.router
  pendingPackets_eq : ctx'.pendingPackets = ctx.pendingPackets
  mac_eq : ctx'.device.mac = ctx.device.mac
  myNodeNum_eq : ctx'.device.myNodeNum = ctx.device.myNodeNum
  originates : Originates n ctx ctx'
  tells : ∃ msgs, ctx'.txToBle = ctx.txToBle ++ msgs ∧ ∀ msg ∈ msgs, msg.variant.IsQuiet

namespace Quiet

variable {m n : Nat} {ctx ctx' ctx'' : MeshCtx S}

theorem of_traffic_eq (h : ctx'.traffic = ctx.traffic) : Quiet 0 ctx ctx' := by
  simp only [MeshCtx.traffic, Prod.mk.injEq] at h
  obtain ⟨hrouter, hpending, hmac, hnum, hcounter, hlora, hble⟩ := h
  exact ⟨hrouter, hpending, hmac, hnum, Originates.of_eq hcounter hlora, [],
    by rw [hble, List.append_nil], by simp⟩

theorem refl (ctx : MeshCtx S) : Quiet 0 ctx ctx := of_traffic_eq rfl

theorem trans (h : Quiet m ctx ctx') (h' : Quiet n ctx' ctx'') :
    Quiet (m + n) ctx ctx'' := by
  obtain ⟨msgs, hble, hmsgs⟩ := h.tells
  obtain ⟨msgs', hble', hmsgs'⟩ := h'.tells
  refine ⟨h'.router_eq.trans h.router_eq, h'.pendingPackets_eq.trans h.pendingPackets_eq,
    h'.mac_eq.trans h.mac_eq, h'.myNodeNum_eq.trans h.myNodeNum_eq,
    h.originates.trans h.myNodeNum_eq h'.originates, msgs ++ msgs', ?_, ?_⟩
  · rw [hble', hble, List.append_assoc]
  · intro msg hmsg
    rcases List.mem_append.mp hmsg with hmsg | hmsg
    · exact hmsgs msg hmsg
    · exact hmsgs' msg hmsg

theorem mono (h : Quiet m ctx ctx') (hle : m ≤ n) : Quiet n ctx ctx' :=
  ⟨h.router_eq, h.pendingPackets_eq, h.mac_eq, h.myNodeNum_eq, h.originates.mono hle,
    h.tells⟩

/-- Work after which some unrelated fields are overwritten. -/
theorem andThen (h : Quiet n ctx ctx') (heq : ctx''.traffic = ctx'.traffic) :
    Quiet n ctx ctx'' :=
  h.trans (of_traffic_eq heq)

/-- A fold of quiet steps that draw no id. -/
theorem foldl {β : Type} {f : MeshCtx S → β → MeshCtx S} {items : List β}
    (h : ∀ ctx, ∀ item ∈ items, Quiet 0 ctx (f ctx item)) (ctx : MeshCtx S) :
    Quiet 0 ctx (items.foldl f ctx) := by
  induction items generalizing ctx with
  | nil => exact refl ctx
  | cons item items ih =>
      have hfirst := h ctx item List.mem_cons_self
      exact hfirst.trans (ih (fun ctx i hi => h ctx i (List.mem_cons_of_mem _ hi)) _)

theorem takePacketId (ctx : MeshCtx S) : Quiet 1 ctx ctx.takePacketId :=
  ⟨rfl, rfl, rfl, rfl, ⟨1, Nat.le_refl 1, [], [], rfl, (List.append_nil _).symm,
    List.nil_sublist _, List.Forall₂.nil⟩, [], (List.append_nil _).symm, by simp⟩

theorem sendBle (ctx : MeshCtx S) {msg : FromRadioMessage} (h : msg.variant.IsQuiet) :
    Quiet 0 ctx (ctx.sendBle msg) :=
  ⟨rfl, rfl, rfl, rfl, Originates.of_eq rfl rfl, [msg], rfl, by simpa using h⟩

theorem trySendBle (ctx : MeshCtx S) {msg : FromRadioMessage} (h : msg.variant.IsQuiet) :
    Quiet 0 ctx (ctx.trySendBle msg) := by
  unfold MeshCtx.trySendBle
  split
  · exact sendBle ctx h
  · exact refl ctx

end Quiet

/-! ## Shared operations -/

namespace Handlers

variable {env : Env}

theorem originates_sendLora {ctx : MeshCtx S} {tx : TxBuilder} {frame : RadioFrame}
    {pkcKeys : Option (Key × UInt32)} {device : DeviceState}
    (hbuild : tx.build env device ctx.router ctx.nodeDb ctx.device.nextPacketId pkcKeys =
      some frame) (hnum : device.myNodeNum = ctx.device.myNodeNum) :
    Originates 1 ctx (ctx.takePacketId.sendLora frame) := by
  obtain ⟨-, -, hheader, -⟩ := TxBuilder.build_eq_some hbuild
  refine ⟨1, Nat.le_refl 1, [frame], [ctx.device.nextPacketId], rfl, rfl,
    List.Sublist.refl _, List.Forall₂.cons ?_ List.Forall₂.nil⟩
  exact ⟨_, hheader, hnum, rfl⟩

theorem quiet_originate (ctx : MeshCtx S) (tx : TxBuilder) :
    Quiet 1 ctx (originate env ctx tx) := by
  unfold originate
  dsimp only
  split
  · rename_i frame hbuild
    exact ⟨rfl, rfl, rfl, rfl, originates_sendLora hbuild rfl, [],
      (List.append_nil _).symm, by simp⟩
  · exact Quiet.takePacketId ctx

theorem quiet_loraSend (ctx : MeshCtx S) (portnum : PortNum) (payload : Bytes)
    (dest : UInt32) (wantResponse : Bool) :
    Quiet 1 ctx (loraSend env ctx portnum payload dest wantResponse).1 := by
  unfold loraSend
  split
  · dsimp only
    split
    · rename_i frame hbuild
      exact ⟨rfl, rfl, rfl, rfl, originates_sendLora hbuild rfl, [],
        (List.append_nil _).symm, by simp⟩
    · exact Quiet.takePacketId ctx
  · exact (Quiet.refl ctx).mono (Nat.zero_le 1)

theorem quiet_sendNodeinfo (ctx : MeshCtx S) (dest : UInt32) (wantResponse : Bool) :
    Quiet 1 ctx (sendNodeinfo env ctx dest wantResponse) :=
  quiet_loraSend ctx .nodeinfoApp _ dest wantResponse

theorem quiet_pushFromRadio (ctx : MeshCtx S) {variant : FromRadio.Variant}
    (h : variant.IsQuiet) : Quiet 0 ctx (pushFromRadio ctx variant) := by
  have hid : Quiet 0 ctx ctx.takeFromRadioId := Quiet.of_traffic_eq rfl
  unfold pushFromRadio
  refine hid.trans (Quiet.trySendBle ctx.takeFromRadioId ?_)
  exact h

theorem isQuiet_makeFromRadioPacket (args : PacketForwardArgs) :
    (makeFromRadioPacket args).IsQuiet :=
  FromRadio.Variant.isQuiet_of_requestId rfl rfl

theorem isQuiet_makeNodeInfoFromRadio (entry : NodeEntry) :
    (makeNodeInfoFromRadio entry).IsQuiet :=
  fun _ _ _ => rfl

theorem isQuiet_makeReplayPacket (entry : NodeEntry) (portnum : PortNum) (payload : Bytes)
    (hopLimit : UInt8) : (makeReplayPacket entry portnum payload hopLimit).IsQuiet :=
  FromRadio.Variant.isQuiet_of_requestId rfl rfl

theorem quiet_notifyBleNodeUpdate (ctx : MeshCtx S) (sender : UInt32) :
    Quiet 0 ctx (notifyBleNodeUpdate ctx sender) := by
  unfold notifyBleNodeUpdate
  split
  · exact quiet_pushFromRadio ctx (isQuiet_makeNodeInfoFromRadio _)
  · exact Quiet.of_traffic_eq rfl

/-- A session passkey is drawn from the random source, or the old one kept. -/
theorem ensureSessionPasskey_eq (ctx : MeshCtx S) :
    ∃ session entropy, ensureSessionPasskey ctx =
      { ctx with sessionPasskey := session, entropy := entropy } := by
  unfold ensureSessionPasskey
  dsimp only
  split
  · split
    · exact ⟨_, _, rfl⟩
    · exact ⟨ctx.sessionPasskey, ctx.entropy, rfl⟩
  · exact ⟨_, _, rfl⟩

theorem quiet_ensureSessionPasskey (ctx : MeshCtx S) :
    Quiet 0 ctx (ensureSessionPasskey ctx) := by
  obtain ⟨session, entropy, hpasskey⟩ := ensureSessionPasskey_eq ctx
  rw [hpasskey]
  exact Quiet.of_traffic_eq rfl

theorem quiet_replaySatelliteDb (ctx : MeshCtx S) :
    Quiet 0 ctx (replaySatelliteDb env ctx) := by
  unfold replaySatelliteDb
  apply Quiet.foldl
  intro ctx variant hvariant
  apply quiet_pushFromRadio
  rcases List.mem_append.mp hvariant with hvariant | hvariant
  · obtain ⟨entry, -, hentry⟩ := List.mem_filterMap.mp hvariant
    obtain ⟨position, -, rfl⟩ := Option.map_eq_some_iff.mp hentry
    exact isQuiet_makeReplayPacket entry _ _ _
  · obtain ⟨entry, -, hentry⟩ := List.mem_filterMap.mp hvariant
    obtain ⟨metrics, -, rfl⟩ := Option.map_eq_some_iff.mp hentry
    exact isQuiet_makeReplayPacket entry _ _ _

end Handlers

/-! ## Administration -/

namespace Handlers.Admin

variable {env : Env}

theorem quiet_sendAdminResponse (ctx : MeshCtx S) (requester reqPktId : UInt32)
    (variant : AdminMessage.Variant) (viaLora : Bool) :
    Quiet 1 ctx (sendAdminResponse env ctx requester reqPktId variant viaLora) := by
  unfold sendAdminResponse
  have hpasskey := quiet_ensureSessionPasskey ctx
  generalize ensureSessionPasskey ctx = ctx' at hpasskey ⊢
  split
  · exact hpasskey.trans (quiet_originate ctx' _)
  · have hid : Quiet 1 ctx' ctx'.takePacketId.takeFromRadioId :=
      (Quiet.takePacketId ctx').andThen rfl
    refine hpasskey.trans (hid.trans (Quiet.sendBle _ ?_))
    exact FromRadio.Variant.isQuiet_of_portnum rfl
      (show PortNum.adminApp.toI32 ≠ PortNum.routingApp.toI32 by decide)

variable [MeshStorage S]

/-- What an admin command does by itself: it sends nothing, and leaves the router, the
pending packets, the queued relays, the session and the identity of the node alone. -/
structure Administered (ctx ctx' : MeshCtx S) : Prop where
  traffic_eq : ctx'.traffic = ctx.traffic
  pendingRebroadcast_eq : ctx'.pendingRebroadcast = ctx.pendingRebroadcast
  session_eq : ctx'.session = ctx.session

theorem administered_saveDevice (ctx : MeshCtx S) {device : DeviceState}
    (hmac : device.mac = ctx.device.mac) (hnum : device.myNodeNum = ctx.device.myNodeNum)
    (hcounter : device.packetIdCounter = ctx.device.packetIdCounter) :
    Administered ctx (saveDevice env ctx device) := by
  refine ⟨?_, rfl, rfl⟩
  simp only [MeshCtx.traffic, saveDevice, hmac, hnum, hcounter]

theorem administered_setChannel (ctx : MeshCtx S) (channel : Channel) :
    Administered ctx (setChannel env ctx channel) := by
  unfold setChannel
  split
  · split
    · exact administered_saveDevice ctx rfl rfl rfl
    · exact ⟨rfl, rfl, rfl⟩
  · exact ⟨rfl, rfl, rfl⟩

theorem administered_setConfig (ctx : MeshCtx S) (config : Config) :
    Administered ctx (setConfig env ctx config) := by
  unfold setConfig
  split
  · exact administered_saveDevice ctx rfl rfl rfl
  · exact ⟨rfl, rfl, rfl⟩
  · exact administered_saveDevice ctx rfl rfl rfl
  · exact ⟨rfl, rfl, rfl⟩

omit [MeshStorage S] in
theorem administered_addContact (ctx : MeshCtx S) (contact : SharedContact) :
    Administered ctx (addContact ctx contact) := by
  unfold addContact
  split <;> exact ⟨rfl, rfl, rfl⟩

def isAnswered (env : Env) : AdminMessage.Variant → Bool
  | .getOwnerRequest _ | .getChannelRequest _ => true
  | .getConfigRequest configType => (env.prost.configType.tryFrom configType).isSome
  | .getModuleConfigRequest configType =>
      ((env.prost.moduleConfigType.tryFrom configType).bind moduleConfigVariant).isSome
  | .beginEditSettings _ | .commitEditSettings _ => true
  | _ => false

theorem handleVariant_cases (ctx : MeshCtx S) (requester reqPktId : UInt32)
    (viaLora : Bool) (variant : AdminMessage.Variant) :
    (isAnswered env variant = true ∧
      ∃ answer, handleVariant env ctx requester reqPktId viaLora variant =
        sendAdminResponse env ctx requester reqPktId answer viaLora) ∨
    (isAnswered env variant = false ∧
      Administered ctx (handleVariant env ctx requester reqPktId viaLora variant)) := by
  cases variant with
  | getOwnerRequest _ => exact Or.inl ⟨rfl, _, rfl⟩
  | getConfigRequest configType =>
      unfold handleVariant isAnswered
      dsimp only
      cases env.prost.configType.tryFrom configType with
      | some configType => exact Or.inl ⟨rfl, _, rfl⟩
      | none => exact Or.inr ⟨rfl, rfl, rfl, rfl⟩
  | getChannelRequest _ => exact Or.inl ⟨rfl, _, rfl⟩
  | getModuleConfigRequest configType =>
      unfold handleVariant getModuleConfig isAnswered
      dsimp only
      cases (env.prost.moduleConfigType.tryFrom configType).bind moduleConfigVariant with
      | some variant => exact Or.inl ⟨rfl, _, rfl⟩
      | none => exact Or.inr ⟨rfl, rfl, rfl, rfl⟩
  | setOwner user => exact Or.inr ⟨rfl, administered_saveDevice ctx rfl rfl rfl⟩
  | setConfig config => exact Or.inr ⟨rfl, administered_setConfig ctx config⟩
  | setChannel channel => exact Or.inr ⟨rfl, administered_setChannel ctx channel⟩
  | addContact contact => exact Or.inr ⟨rfl, administered_addContact ctx contact⟩
  | beginEditSettings _ => exact Or.inl ⟨rfl, _, rfl⟩
  | commitEditSettings _ => exact Or.inl ⟨rfl, _, rfl⟩
  | _ => exact Or.inr ⟨rfl, rfl, rfl, rfl⟩

/-- A message is not authorized or asks for nothing, or its command runs. -/
theorem dispatch_cases (ctx : MeshCtx S) (requester reqPktId : UInt32) (adminBytes : Bytes)
    (viaLora : Bool) :
    (∃ answer, dispatch env ctx requester reqPktId adminBytes viaLora =
      sendAdminResponse env ctx requester reqPktId answer viaLora) ∨
    Administered ctx (dispatch env ctx requester reqPktId adminBytes viaLora) := by
  unfold dispatch
  split
  · exact Or.inr ⟨rfl, rfl, rfl⟩
  · split
    · split
      · exact (handleVariant_cases ctx requester reqPktId viaLora _).imp And.right And.right
      · exact Or.inr ⟨rfl, rfl, rfl⟩
    · exact Or.inr ⟨rfl, rfl, rfl⟩

theorem quiet_dispatch (ctx : MeshCtx S) (requester reqPktId : UInt32)
    (adminBytes : Bytes) (viaLora : Bool) :
    Quiet 1 ctx (dispatch env ctx requester reqPktId adminBytes viaLora) := by
  rcases dispatch_cases ctx requester reqPktId adminBytes viaLora with
    ⟨answer, hanswer⟩ | hadministered
  · rw [hanswer]
    exact quiet_sendAdminResponse ctx requester reqPktId answer viaLora
  · exact (Quiet.of_traffic_eq hadministered.traffic_eq).mono (Nat.zero_le 1)

/-! ### Administration by the phone

The phone gets its answers over BLE, so nothing goes out on the air. -/

omit [MeshStorage S] in
theorem txToLora_sendAdminResponse (ctx : MeshCtx S) (requester reqPktId : UInt32)
    (variant : AdminMessage.Variant) :
    (sendAdminResponse env ctx requester reqPktId variant false).txToLora =
      ctx.txToLora := by
  obtain ⟨session, entropy, hpasskey⟩ := ensureSessionPasskey_eq ctx
  unfold sendAdminResponse
  rw [if_neg (by simp), hpasskey]
  rfl

theorem txToLora_dispatch (ctx : MeshCtx S) (requester reqPktId : UInt32)
    (adminBytes : Bytes) :
    (dispatch env ctx requester reqPktId adminBytes false).txToLora = ctx.txToLora := by
  rcases dispatch_cases ctx requester reqPktId adminBytes false with
    ⟨answer, hanswer⟩ | hadministered
  · rw [hanswer]
    exact txToLora_sendAdminResponse ctx requester reqPktId answer
  · exact congrArg (fun traffic => traffic.2.2.2.2.2.1) hadministered.traffic_eq

end Handlers.Admin

/-! ## Frames from the radio -/

namespace Handlers.FromRadio

variable {env : Env}

theorem quiet_answerNodeinfo (ctx : MeshCtx S) (dest : UInt32) (wantResponse : Bool) :
    Quiet 1 ctx (answerNodeinfo env ctx dest wantResponse) := by
  have hsend : Quiet 1 ctx (sendNodeinfo env ctx dest wantResponse) :=
    quiet_sendNodeinfo ctx dest wantResponse
  exact hsend.andThen rfl

theorem quiet_handlePosition (ctx : MeshCtx S) (pkt : InboundPacket) :
    Quiet 0 ctx (handlePosition env ctx pkt) := by
  unfold handlePosition
  split
  · exact Quiet.refl ctx
  · rename_i position _
    have hdb : Quiet 0 ctx (ctx.modifyNodeDb (·.updatePosition pkt.sender position)) :=
      Quiet.of_traffic_eq rfl
    exact hdb.trans (quiet_notifyBleNodeUpdate _ pkt.sender)

theorem quiet_handleNodeInfo (ctx : MeshCtx S) (pkt : InboundPacket) :
    Quiet 1 ctx (handleNodeInfo env ctx pkt) := by
  unfold handleNodeInfo
  split
  · exact (Quiet.refl ctx).mono (Nat.zero_le 1)
  · rename_i user _
    have hdb : Quiet 0 ctx (ctx.modifyNodeDb fun db => storeUser db pkt.sender user) :=
      Quiet.of_traffic_eq rfl
    have hnotify := hdb.trans (quiet_notifyBleNodeUpdate _ pkt.sender)
    dsimp only
    split
    · exact hnotify.trans (quiet_answerNodeinfo _ pkt.sender false)
    · exact hnotify.mono (Nat.zero_le 1)

theorem quiet_handleTelemetry (ctx : MeshCtx S) (pkt : InboundPacket) :
    Quiet 0 ctx (handleTelemetry env ctx pkt) := by
  unfold handleTelemetry
  split
  · exact Quiet.of_traffic_eq rfl
  · exact Quiet.refl ctx

theorem quiet_handleTraceroute (ctx : MeshCtx S) (pkt : InboundPacket) :
    Quiet 1 ctx (handleTraceroute env ctx pkt) := by
  unfold handleTraceroute
  split
  · exact quiet_originate ctx _
  · exact (Quiet.refl ctx).mono (Nat.zero_le 1)

theorem quiet_handleNeighborInfo (ctx : MeshCtx S) (pkt : InboundPacket) :
    Quiet 0 ctx (handleNeighborInfo env ctx pkt) := by
  unfold handleNeighborInfo
  split
  · exact Quiet.refl ctx
  · exact Quiet.of_traffic_eq rfl

theorem quiet_scheduleRebroadcast (ctx : MeshCtx S) (frame : RadioFrame)
    (metadata : RadioMetadata) (newHop : UInt8) :
    Quiet 0 ctx (scheduleRebroadcast env ctx frame metadata newHop) :=
  Quiet.of_traffic_eq rfl

theorem quiet_maybeRequestNodeinfo (ctx : MeshCtx S) (sender : UInt32)
    (hopStart hopLimit : UInt8) :
    Quiet 1 ctx (maybeRequestNodeinfo env ctx sender hopStart hopLimit) := by
  have hsame : Quiet 1 ctx ctx := (Quiet.refl ctx).mono (Nat.zero_le 1)
  unfold maybeRequestNodeinfo
  split
  · exact hsame
  split
  · exact hsame
  split
  · exact hsame
  split
  · exact hsame
  split
  · exact hsame
  · exact quiet_answerNodeinfo ctx sender true

theorem quiet_noteSender (ctx : MeshCtx S) (header : PacketHeader)
    (metadata : RadioMetadata) : Quiet 1 ctx (noteSender env ctx header metadata) := by
  unfold noteSender
  dsimp only
  generalize hdb : (ctx.blink .singleBlink).modifyNodeDb _ = ctx₁
  have htouch : Quiet 0 ctx ctx₁ := by
    rw [← hdb]
    exact Quiet.of_traffic_eq rfl
  have hnotify : ∀ isNew : Bool, Quiet 0 ctx
      (if isNew = true then notifyBleNodeUpdate ctx₁ header.sender else ctx₁) := by
    intro isNew
    split
    · exact htouch.trans (quiet_notifyBleNodeUpdate ctx₁ header.sender)
    · exact htouch
  have hrequest : ∀ ctx₂, Quiet 0 ctx ctx₂ → Quiet 1 ctx
      (if ((ctx₂.nodeDb.get header.sender).bind (·.user)).isNone = true then
        maybeRequestNodeinfo env ctx₂ header.sender header.hopStart header.hopLimit
      else ctx₂) := by
    intro ctx₂ hquiet
    split
    · exact hquiet.trans (quiet_maybeRequestNodeinfo ctx₂ _ _ _)
    · exact hquiet.mono (Nat.zero_le 1)
  exact hrequest _ (hnotify _)

theorem quiet_forwardInbound (ctx : MeshCtx S) (header : PacketHeader)
    (metadata : RadioMetadata) (decoded : DecodedPayload) (pkt : InboundPacket) :
    Quiet 0 ctx (forwardInbound ctx header metadata decoded pkt) := by
  unfold forwardInbound
  split
  · exact quiet_pushFromRadio ctx (isQuiet_makeFromRadioPacket _)
  · exact Quiet.refl ctx

theorem quiet_ackInbound (ctx : MeshCtx S) (header : PacketHeader)
    (decoded : DecodedPayload) : Quiet 1 ctx (ackInbound env ctx header decoded) := by
  unfold ackInbound
  split
  · exact quiet_originate ctx _
  · exact (Quiet.refl ctx).mono (Nat.zero_le 1)

theorem quiet_relayInbound (ctx : MeshCtx S) (frame : RadioFrame) (header : PacketHeader)
    (metadata : RadioMetadata) :
    Quiet 0 ctx (relayInbound env ctx frame header metadata) := by
  unfold relayInbound
  split
  · split
    · split
      · exact Quiet.refl ctx
      · exact quiet_scheduleRebroadcast ctx frame metadata _
    · exact Quiet.refl ctx
  · exact Quiet.refl ctx

theorem quiet_upgradeRebroadcast (ctx : MeshCtx S) (frame : RadioFrame)
    (header : PacketHeader) (newHop : UInt8) :
    Quiet 0 ctx (upgradeRebroadcast ctx frame header newHop) := by
  unfold upgradeRebroadcast
  split
  · exact Quiet.of_traffic_eq rfl
  · exact Quiet.refl ctx

theorem quiet_cancelRebroadcast (ctx : MeshCtx S) (header : PacketHeader) :
    Quiet 0 ctx (cancelRebroadcast ctx header) :=
  Quiet.of_traffic_eq rfl

theorem quiet_answerUnknownPubkey (ctx : MeshCtx S) (header : PacketHeader) :
    Quiet 2 ctx (answerUnknownPubkey env ctx header) := by
  unfold answerUnknownPubkey
  dsimp only
  split
  · have herror : Quiet 1 ctx
        (sendRoutingError env ctx header.sender header.packetId .pkiUnknownPubkey) :=
      quiet_originate ctx _
    exact herror.trans (quiet_sendNodeinfo _ header.sender false)
  · exact (quiet_sendNodeinfo ctx header.sender false).mono (by omega)

variable [MeshStorage S]

theorem quiet_bufferText (ctx : MeshCtx S) (frame : RadioFrame) (portnum : Int32) :
    Quiet 0 ctx (bufferText ctx frame portnum) := by
  unfold bufferText
  split
  · exact Quiet.of_traffic_eq rfl
  · exact Quiet.refl ctx

theorem quiet_handleAdmin (ctx : MeshCtx S) (pkt : InboundPacket) :
    Quiet 1 ctx (handleAdmin env ctx pkt) := by
  unfold handleAdmin
  split
  · exact Admin.quiet_dispatch ctx pkt.sender pkt.packetId pkt.payload true
  · exact (Quiet.refl ctx).mono (Nat.zero_le 1)

theorem quiet_handlePortnum (ctx : MeshCtx S) {portnum : Int32} (pkt : InboundPacket)
    (hportnum : portnum ≠ PortNum.routingApp.toI32) :
    Quiet 1 ctx (handlePortnum env ctx portnum pkt) := by
  have hsame : Quiet 1 ctx ctx := (Quiet.refl ctx).mono (Nat.zero_le 1)
  unfold handlePortnum
  split
  · exact hsame
  · exact hsame
  · exact hsame
  · exact (quiet_handlePosition ctx pkt).mono (Nat.zero_le 1)
  · exact quiet_handleNodeInfo ctx pkt
  · rename_i hrouting
    exact absurd (PortNum.toI32_of_tryFrom hrouting).symm hportnum
  · exact quiet_handleAdmin ctx pkt
  · exact hsame
  · exact (quiet_handleTelemetry ctx pkt).mono (Nat.zero_le 1)
  · exact quiet_handleTraceroute ctx pkt
  · exact (quiet_handleNeighborInfo ctx pkt).mono (Nat.zero_le 1)
  · exact hsame
  · exact hsame

end Handlers.FromRadio

/-! ## Messages from the phone -/

namespace Handlers.FromApp

variable {env : Env}

theorem quiet_foldl_pushFromRadio (ctx : MeshCtx S) {variants : List FromRadio.Variant}
    (h : ∀ variant ∈ variants, variant.IsQuiet) :
    Quiet 0 ctx (variants.foldl pushFromRadio ctx) :=
  Quiet.foldl (fun ctx variant hvariant => quiet_pushFromRadio ctx (h variant hvariant)) ctx

theorem quiet_sendConfigExchange (ctx : MeshCtx S) (configId : UInt32) :
    Quiet 0 ctx (sendConfigExchange env ctx configId) := by
  apply quiet_foldl_pushFromRadio
  intro variant hvariant
  -- none of the exchanged messages is a packet
  simp only [configExchange, List.mem_append, List.mem_cons, List.mem_map,
    List.not_mem_nil, or_false] at hvariant
  rcases hvariant with ((((rfl | rfl | rfl | rfl | rfl) | ⟨_, _, rfl⟩) | ⟨_, _, rfl⟩) |
    ⟨_, _, rfl⟩) | rfl <;>
  exact fun _ _ _ => rfl

theorem quiet_sendNodeinfoExchange (ctx : MeshCtx S) (configId : UInt32) :
    Quiet 0 ctx (sendNodeinfoExchange env ctx configId) := by
  unfold sendNodeinfoExchange
  dsimp only
  refine (quiet_foldl_pushFromRadio ctx ?_).trans (quiet_replaySatelliteDb _)
  intro variant hvariant
  simp only [nodeDbExchange, List.mem_cons, List.mem_append, List.mem_filterMap,
    List.not_mem_nil, or_false] at hvariant
  rcases hvariant with (rfl | ⟨num, -, hentry⟩) | rfl
  · exact fun _ _ _ => rfl
  · obtain ⟨entry, -, rfl⟩ := Option.map_eq_some_iff.mp hentry
    exact isQuiet_makeNodeInfoFromRadio entry
  · exact fun _ _ _ => rfl

theorem quiet_replayFrame (ctx : MeshCtx S) (frame : RadioFrame) :
    Quiet 0 ctx (replayFrame env ctx frame) := by
  unfold replayFrame
  split
  · exact quiet_pushFromRadio ctx (isQuiet_makeFromRadioPacket _)
  · exact Quiet.refl ctx

variable [MeshStorage S]

theorem quiet_replayFrames (remaining : Nat) (ctx : MeshCtx S) :
    Quiet 0 ctx (replayFrames env remaining ctx) := by
  induction remaining generalizing ctx with
  | zero => exact Quiet.refl ctx
  | succ remaining ih =>
      unfold replayFrames
      split
      · rename_i frame _
        have hpop : Quiet 0 ctx { ctx with storage := MeshStorage.pop ctx.storage } :=
          Quiet.of_traffic_eq rfl
        exact (hpop.trans (quiet_replayFrame _ frame)).trans (ih _)
      · exact Quiet.refl ctx

theorem quiet_handleToRadio (ctx : MeshCtx S) {variant : Option ToRadio.Variant}
    (hvariant : ∀ pkt, variant ≠ some (.packet pkt)) :
    Quiet 1 ctx (handleToRadio env ctx variant) := by
  have hsilent : ∀ {ctx' : MeshCtx S}, Quiet 0 ctx ctx' → Quiet 1 ctx ctx' :=
    fun h => h.mono (Nat.zero_le 1)
  unfold handleToRadio
  split
  · exact absurd rfl (hvariant _)
  · rename_i configId
    have hexchange : Quiet 0 ctx
        (if configId = SPECIAL_NONCE_ONLY_NODES then sendNodeinfoExchange env ctx configId
        else sendConfigExchange env ctx configId) := by
      split
      · exact quiet_sendNodeinfoExchange ctx configId
      · exact quiet_sendConfigExchange ctx configId
    exact hsilent (hexchange.trans (quiet_replayFrames _ _))
  · split
    · exact quiet_sendNodeinfo ctx BROADCAST_ADDR false
    · exact hsilent (quiet_pushFromRadio ctx fun _ _ _ => rfl)
  · exact hsilent (Quiet.of_traffic_eq rfl)
  · exact hsilent (Quiet.refl ctx)

/-- A message of the phone is handled quietly, unless it is a packet with its content. -/
theorem dispatch_cases (ctx : MeshCtx S) (bytes : Bytes) :
    Quiet 1 ctx (dispatch env ctx bytes) ∨
    ∃ toRadio pkt data, env.prost.toRadio.decode bytes = some toRadio ∧
      toRadio.payloadVariant = some (.packet pkt) ∧
      pkt.payloadVariant = some (.decoded data) ∧
      dispatch env ctx bytes = (transmitDecoded env ctx pkt data).blink .doubleBlink := by
  have hsame : Quiet 1 ctx ctx := (Quiet.refl ctx).mono (Nat.zero_le 1)
  unfold dispatch
  split
  · exact Or.inl hsame
  cases hdecode : env.prost.toRadio.decode bytes with
  | none => exact Or.inl hsame
  | some toRadio =>
      dsimp only
      by_cases hpacket : ∃ pkt, toRadio.payloadVariant = some (.packet pkt)
      · obtain ⟨pkt, hpacket⟩ := hpacket
        rw [hpacket]
        unfold handleToRadio transmitFromBlePacket
        dsimp only
        split
        · rename_i data hdata
          exact Or.inr ⟨toRadio, pkt, data, rfl, hpacket, hdata, rfl⟩
        · exact Or.inl (hsame.andThen rfl)
      · left
        have hhandled := @quiet_handleToRadio S env _ ctx toRadio.payloadVariant
          fun pkt h => hpacket ⟨pkt, h⟩
        exact hhandled.andThen rfl

end Handlers.FromApp

/-! ## Periodic broadcasts -/

namespace Handlers.Periodic

variable {env : Env}

theorem quiet_broadcastNodeinfo (ctx : MeshCtx S) :
    Quiet 1 ctx (broadcastNodeinfo env ctx) := by
  unfold broadcastNodeinfo
  have hsend := @quiet_loraSend S env ctx .nodeinfoApp
    (nodeInfoPayload env ctx.device ctx.nodeIdStr ctx.pkcPubBytes) BROADCAST_ADDR false
  dsimp only
  split
  · exact hsend.andThen rfl
  · exact hsend

theorem quiet_broadcastPosition (ctx : MeshCtx S) :
    Quiet 1 ctx (broadcastPosition env ctx) := by
  unfold broadcastPosition
  have hsend := @quiet_loraSend S env ctx .positionApp ctx.myPositionBytes.toList
    BROADCAST_ADDR false
  split
  · exact (Quiet.refl ctx).mono (Nat.zero_le 1)
  · dsimp only
    split
    · exact hsend.andThen rfl
    · exact hsend

theorem quiet_broadcastNeighborinfo (ctx : MeshCtx S) :
    Quiet 1 ctx (broadcastNeighborinfo env ctx) := by
  unfold broadcastNeighborinfo
  split
  · have hmark : Quiet 0 ctx { ctx with lastNeighborinfoTx := some ctx.now } :=
      Quiet.of_traffic_eq rfl
    exact hmark.mono (Nat.zero_le 1)
  · dsimp only
    exact (quiet_loraSend ctx .neighborinfoApp _ BROADCAST_ADDR false).andThen rfl

theorem quiet_broadcastTelemetry (ctx : MeshCtx S) (payload : Bytes) :
    Quiet 1 ctx (broadcastTelemetry env ctx payload) := by
  unfold broadcastTelemetry
  have hsend := @quiet_loraSend S env ctx .telemetryApp payload BROADCAST_ADDR false
  dsimp only
  split
  · split
    · exact hsend.andThen rfl
    · exact hsend
  · exact (Quiet.refl ctx).mono (Nat.zero_le 1)

theorem quiet_forwardTelemetry (ctx : MeshCtx S) (payload : Bytes) :
    Quiet 1 ctx (forwardTelemetry ctx payload) := by
  unfold forwardTelemetry
  split
  · refine (Quiet.takePacketId ctx).trans (quiet_pushFromRadio _ ?_)
    exact FromRadio.Variant.isQuiet_of_requestId rfl rfl
  · exact (Quiet.refl ctx).mono (Nat.zero_le 1)

theorem quiet_sendDeviceTelemetry (ctx : MeshCtx S) (batteryLevel : UInt8)
    (voltageMv : UInt16) :
    Quiet 2 ctx (sendDeviceTelemetry env ctx batteryLevel voltageMv) := by
  unfold sendDeviceTelemetry
  exact (quiet_broadcastTelemetry ctx _).trans (quiet_forwardTelemetry _ _)

theorem quiet_tickNodeinfo (ctx : MeshCtx S) : Quiet 1 ctx (tickNodeinfo env ctx) := by
  unfold tickNodeinfo
  dsimp only
  split
  · exact quiet_broadcastNodeinfo ctx
  · exact (Quiet.refl ctx).mono (Nat.zero_le 1)

theorem quiet_tickNeighborinfo (ctx : MeshCtx S) :
    Quiet 1 ctx (tickNeighborinfo env ctx) := by
  unfold tickNeighborinfo
  dsimp only
  split
  · exact quiet_broadcastNeighborinfo ctx
  · exact (Quiet.refl ctx).mono (Nat.zero_le 1)

theorem quiet_tickPosition (ctx : MeshCtx S) : Quiet 1 ctx (tickPosition env ctx) := by
  unfold tickPosition
  dsimp only
  split
  · exact quiet_broadcastPosition ctx
  · exact (Quiet.refl ctx).mono (Nat.zero_le 1)

theorem quiet_dispatch (ctx : MeshCtx S) : Quiet 3 ctx (dispatch env ctx) := by
  unfold dispatch
  split
  · exact ((quiet_tickNodeinfo ctx).trans (quiet_tickNeighborinfo _)).trans
      (quiet_tickPosition _)
  · exact (Quiet.refl ctx).mono (Nat.zero_le 3)

end Handlers.Periodic

/-! ## Events of the other tasks -/

/-- Every event but a received frame and a message from the phone is handled quietly. -/
theorem Handlers.quiet_dispatch [MeshStorage S] {env : Env} (ctx : MeshCtx S)
    {event : MeshEvent} (hradio : ∀ frame metadata, event ≠ .loraRx frame metadata)
    (hphone : ∀ data, event ≠ .bleRx data) :
    Quiet 3 ctx (Handlers.dispatch env ctx event) := by
  have hsilent : ∀ {ctx' : MeshCtx S}, Quiet 0 ctx ctx' → Quiet 3 ctx ctx' :=
    fun h => h.mono (Nat.zero_le 3)
  cases event with
  | loraRx frame metadata => exact absurd rfl (hradio frame metadata)
  | bleRx data => exact absurd rfl (hphone data)
  | bleConnected => exact hsilent (Quiet.of_traffic_eq rfl)
  | bleDisconnected => exact hsilent (Quiet.of_traffic_eq rfl)
  | bondSave bytes => exact hsilent (Quiet.of_traffic_eq rfl)
  | bondClear => exact hsilent (Quiet.of_traffic_eq rfl)
  | batteryUpdate level voltageMv =>
      exact (Periodic.quiet_sendDeviceTelemetry ctx level voltageMv).mono (by omega)
  | channelUtilUpdate channelUtil airUtilTx => exact hsilent (Quiet.of_traffic_eq rfl)
  | tick => exact Periodic.quiet_dispatch ctx

end Meshtastenstein
