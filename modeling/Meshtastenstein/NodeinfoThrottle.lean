import Meshtastenstein.AdminSession
import Meshtastenstein.Lib.Pacing
import Meshtastenstein.ReplyChannel
/-!
# The node information throttle

Whatever we tell of ourselves is timed, and what a received frame asks for waits until five
minutes have passed.  The answer to a sender whose key is not known is the one that neither
looks at the time nor sets it.
-/

namespace Meshtastenstein

open Lib Proto Handlers

variable {S : Type} {env : Env}

/-! ## The time of the last one

Only the node information itself is timed. -/

namespace MeshCtx

@[simp] theorem lastNodeinfoTx_trySendBle (ctx : MeshCtx S) (msg : FromRadioMessage) :
    (ctx.trySendBle msg).lastNodeinfoTx = ctx.lastNodeinfoTx := by
  rw [trySendBle_eq]

theorem lastNodeinfoTx_foldl {β : Type} {f : MeshCtx S → β → MeshCtx S}
    (h : ∀ ctx item, (f ctx item).lastNodeinfoTx = ctx.lastNodeinfoTx) (items : List β)
    (ctx : MeshCtx S) : (items.foldl f ctx).lastNodeinfoTx = ctx.lastNodeinfoTx := by
  induction items generalizing ctx with
  | nil => rfl
  | cons item items ih => rw [List.foldl_cons, ih, h]

end MeshCtx

namespace Handlers

@[simp] theorem lastNodeinfoTx_originate (ctx : MeshCtx S) (tx : TxBuilder) :
    (originate env ctx tx).lastNodeinfoTx = ctx.lastNodeinfoTx := by
  unfold originate
  dsimp only
  split <;> rfl

@[simp] theorem lastNodeinfoTx_loraSend (ctx : MeshCtx S) (portnum : PortNum) (payload : Bytes)
    (dest : UInt32) (wantResponse : Bool) :
    (loraSend env ctx portnum payload dest wantResponse).1.lastNodeinfoTx =
      ctx.lastNodeinfoTx := by
  unfold loraSend
  split
  · dsimp only
    split <;> rfl
  · rfl

@[simp] theorem lastNodeinfoTx_sendNodeinfo (ctx : MeshCtx S) (dest : UInt32)
    (wantResponse : Bool) :
    (sendNodeinfo env ctx dest wantResponse).lastNodeinfoTx = ctx.lastNodeinfoTx :=
  lastNodeinfoTx_loraSend ctx .nodeinfoApp _ dest wantResponse

@[simp] theorem lastNodeinfoTx_pushFromRadio (ctx : MeshCtx S) (variant : FromRadio.Variant) :
    (pushFromRadio ctx variant).lastNodeinfoTx = ctx.lastNodeinfoTx :=
  MeshCtx.lastNodeinfoTx_trySendBle _ _

@[simp] theorem lastNodeinfoTx_sendBleRoutingResult (ctx : MeshCtx S) (dest requestId : UInt32)
    (error : RoutingError) :
    (sendBleRoutingResult env ctx dest requestId error).lastNodeinfoTx = ctx.lastNodeinfoTx :=
  lastNodeinfoTx_pushFromRadio _ _

@[simp] theorem lastNodeinfoTx_notifyBleNodeUpdate (ctx : MeshCtx S) (sender : UInt32) :
    (notifyBleNodeUpdate ctx sender).lastNodeinfoTx = ctx.lastNodeinfoTx := by
  unfold notifyBleNodeUpdate
  split
  · exact lastNodeinfoTx_pushFromRadio ctx _
  · rfl

theorem lastNodeinfoTx_ensureSessionPasskey (ctx : MeshCtx S) :
    (ensureSessionPasskey ctx).lastNodeinfoTx = ctx.lastNodeinfoTx := by
  obtain ⟨session, entropy, hpasskey⟩ := ensureSessionPasskey_eq ctx
  rw [hpasskey]

end Handlers

namespace Handlers.Admin

theorem lastNodeinfoTx_sendAdminResponse (ctx : MeshCtx S) (requester reqPktId : UInt32)
    (variant : AdminMessage.Variant) (viaLora : Bool) :
    (sendAdminResponse env ctx requester reqPktId variant viaLora).lastNodeinfoTx =
      ctx.lastNodeinfoTx := by
  unfold sendAdminResponse
  dsimp only
  split
  · rw [lastNodeinfoTx_originate, lastNodeinfoTx_ensureSessionPasskey]
  · exact lastNodeinfoTx_ensureSessionPasskey ctx

variable [MeshStorage S]

theorem lastNodeinfoTx_handleVariant (ctx : MeshCtx S) (requester reqPktId : UInt32)
    (viaLora : Bool) (variant : AdminMessage.Variant) :
    (handleVariant env ctx requester reqPktId viaLora variant).lastNodeinfoTx =
      ctx.lastNodeinfoTx := by
  have hanswer := fun answer =>
    @lastNodeinfoTx_sendAdminResponse S env ctx requester reqPktId answer viaLora
  cases variant with
  | getOwnerRequest _ => exact hanswer _
  | getConfigRequest configType =>
      unfold handleVariant
      dsimp only
      split
      · exact hanswer _
      · rfl
  | getChannelRequest _ => exact hanswer _
  | getModuleConfigRequest configType =>
      unfold handleVariant getModuleConfig
      dsimp only
      split
      · exact hanswer _
      · rfl
  | setConfig config =>
      unfold handleVariant setConfig
      dsimp only
      split <;> rfl
  | setChannel channel =>
      unfold handleVariant setChannel
      dsimp only
      split
      · split <;> rfl
      · rfl
  | addContact contact =>
      unfold handleVariant addContact
      dsimp only
      split <;> rfl
  | beginEditSettings _ => exact hanswer _
  | commitEditSettings _ => exact hanswer _
  | _ => rfl

@[simp] theorem lastNodeinfoTx_dispatch (ctx : MeshCtx S) (requester reqPktId : UInt32)
    (adminBytes : Bytes) (viaLora : Bool) :
    (dispatch env ctx requester reqPktId adminBytes viaLora).lastNodeinfoTx =
      ctx.lastNodeinfoTx := by
  unfold dispatch
  split
  · rfl
  · split
    · split
      · exact lastNodeinfoTx_handleVariant ctx requester reqPktId viaLora _
      · rfl
    · rfl

end Handlers.Admin

namespace Handlers.FromRadio

theorem lastNodeinfoTx_acknowledge (ctx : MeshCtx S) (requestId : UInt32) :
    (acknowledge env ctx requestId).lastNodeinfoTx = ctx.lastNodeinfoTx := by
  unfold acknowledge
  split
  · rfl
  · dsimp only
    split
    · exact lastNodeinfoTx_sendBleRoutingResult _ _ _ _
    · rfl

theorem lastNodeinfoTx_forwardInbound (ctx : MeshCtx S) (header : PacketHeader)
    (metadata : RadioMetadata) (decoded : DecodedPayload) (pkt : InboundPacket) :
    (forwardInbound ctx header metadata decoded pkt).lastNodeinfoTx = ctx.lastNodeinfoTx := by
  unfold forwardInbound
  split
  · exact lastNodeinfoTx_pushFromRadio ctx _
  · rfl

theorem lastNodeinfoTx_ackInbound (ctx : MeshCtx S) (header : PacketHeader)
    (decoded : DecodedPayload) :
    (ackInbound env ctx header decoded).lastNodeinfoTx = ctx.lastNodeinfoTx := by
  unfold ackInbound
  split
  · exact lastNodeinfoTx_originate ctx _
  · rfl

theorem lastNodeinfoTx_relayInbound (ctx : MeshCtx S) (frame : RadioFrame)
    (header : PacketHeader) (metadata : RadioMetadata) :
    (relayInbound env ctx frame header metadata).lastNodeinfoTx = ctx.lastNodeinfoTx := by
  unfold relayInbound
  split
  · split
    · split <;> rfl
    · rfl
  · rfl

theorem lastNodeinfoTx_answerUnknownPubkey (ctx : MeshCtx S) (header : PacketHeader) :
    (answerUnknownPubkey env ctx header).lastNodeinfoTx = ctx.lastNodeinfoTx := by
  unfold answerUnknownPubkey
  dsimp only
  rw [lastNodeinfoTx_sendNodeinfo]
  split
  · exact lastNodeinfoTx_originate ctx _
  · rfl

variable [MeshStorage S]

theorem lastNodeinfoTx_bufferText (ctx : MeshCtx S) (frame : RadioFrame) (portnum : Int32) :
    (bufferText ctx frame portnum).lastNodeinfoTx = ctx.lastNodeinfoTx := by
  rw [bufferText_eq]

/-- All ports but the one of the node information leave the time alone. -/
theorem lastNodeinfoTx_handlePortnum (ctx : MeshCtx S) {portnum : Int32} (pkt : InboundPacket)
    (h : portnum ≠ PortNum.nodeinfoApp.toI32) :
    (handlePortnum env ctx portnum pkt).lastNodeinfoTx = ctx.lastNodeinfoTx := by
  unfold handlePortnum
  split
  · rfl
  · rfl
  · rfl
  · unfold handlePosition
    split
    · rfl
    · exact lastNodeinfoTx_notifyBleNodeUpdate _ pkt.sender
  · rename_i hportnum
    exact absurd (PortNum.toI32_of_tryFrom hportnum).symm h
  · unfold handleRouting
    split
    · rfl
    · split
      · exact lastNodeinfoTx_acknowledge ctx pkt.requestId
      · rfl
  · unfold handleAdmin
    split
    · exact Admin.lastNodeinfoTx_dispatch ctx _ _ _ _
    · rfl
  · rfl
  · unfold handleTelemetry
    split <;> rfl
  · unfold handleTraceroute
    split
    · exact lastNodeinfoTx_originate ctx _
    · rfl
  · unfold handleNeighborInfo
    split <;> rfl
  · rfl
  · rfl

end Handlers.FromRadio

namespace Handlers.FromApp

theorem lastNodeinfoTx_sendToMesh (ctx : MeshCtx S) (pkt : MeshPacket) (data : Data) :
    (sendToMesh env ctx pkt data).lastNodeinfoTx = ctx.lastNodeinfoTx := by
  refine PhoneWork.view_eq (fun hwork => ?_) (@works_sendToMesh S env ctx pkt data)
  cases hwork with
  | report dest requestId error => exact lastNodeinfoTx_sendBleRoutingResult _ dest requestId error
  | _ => rfl

theorem lastNodeinfoTx_replayFrame (ctx : MeshCtx S) (frame : RadioFrame) :
    (replayFrame env ctx frame).lastNodeinfoTx = ctx.lastNodeinfoTx := by
  unfold replayFrame
  split
  · exact lastNodeinfoTx_pushFromRadio ctx _
  · rfl

theorem lastNodeinfoTx_exchange (ctx : MeshCtx S) (configId : UInt32) :
    (if configId = SPECIAL_NONCE_ONLY_NODES then sendNodeinfoExchange env ctx configId
      else sendConfigExchange env ctx configId).lastNodeinfoTx = ctx.lastNodeinfoTx := by
  have hpush : ∀ (variants : List FromRadio.Variant) (ctx : MeshCtx S),
      (variants.foldl pushFromRadio ctx).lastNodeinfoTx = ctx.lastNodeinfoTx :=
    MeshCtx.lastNodeinfoTx_foldl lastNodeinfoTx_pushFromRadio
  split
  · unfold sendNodeinfoExchange replaySatelliteDb
    dsimp only
    rw [hpush, hpush]
  · exact hpush _ ctx

variable [MeshStorage S]

theorem lastNodeinfoTx_replayFrames (remaining : Nat) (ctx : MeshCtx S) :
    (replayFrames env remaining ctx).lastNodeinfoTx = ctx.lastNodeinfoTx := by
  induction remaining generalizing ctx with
  | zero => rfl
  | succ remaining ih =>
      unfold replayFrames
      split
      · rw [ih, lastNodeinfoTx_replayFrame]
      · rfl

theorem lastNodeinfoTx_transmitFromBlePacket (ctx : MeshCtx S) (pkt : MeshPacket) :
    (transmitFromBlePacket env ctx pkt).lastNodeinfoTx = ctx.lastNodeinfoTx := by
  unfold transmitFromBlePacket
  split
  · rename_i data _
    unfold transmitDecoded
    split
    · unfold handleLocalAdmin sendBleRoutingAck
      dsimp only
      split
      · rw [lastNodeinfoTx_sendBleRoutingResult, Admin.lastNodeinfoTx_dispatch]
      · exact Admin.lastNodeinfoTx_dispatch ctx _ _ _ _
    · rw [lastNodeinfoTx_sendToMesh]
      unfold notePosition
      split <;> rfl
  · rfl

/-- The phone makes us tell of ourselves without timing it. -/
theorem lastNodeinfoTx_fromApp (ctx : MeshCtx S) (bytes : Bytes) :
    (dispatch env ctx bytes).lastNodeinfoTx = ctx.lastNodeinfoTx := by
  unfold dispatch
  split
  · rfl
  · split
    · rfl
    · rename_i toRadio _
      change (handleToRadio env ctx toRadio.payloadVariant).lastNodeinfoTx = ctx.lastNodeinfoTx
      unfold handleToRadio
      split
      · exact lastNodeinfoTx_transmitFromBlePacket ctx _
      · unfold replayStoredFrames
        rw [lastNodeinfoTx_replayFrames, lastNodeinfoTx_exchange]
      · split
        · exact lastNodeinfoTx_sendNodeinfo ctx _ _
        · exact lastNodeinfoTx_pushFromRadio ctx _
      · rfl
      · rfl

end Handlers.FromApp

def MeshCtx.Timed (before after : MeshCtx S) : Prop :=
  after.lastNodeinfoTx = before.lastNodeinfoTx ∨ after.lastNodeinfoTx = some before.now

namespace Handlers.Periodic

theorem timed_broadcastNodeinfo (ctx : MeshCtx S) :
    MeshCtx.Timed ctx (broadcastNodeinfo env ctx) := by
  unfold broadcastNodeinfo
  dsimp only
  split
  · exact Or.inr rfl
  · exact Or.inl (lastNodeinfoTx_loraSend ctx _ _ _ _)

theorem lastNodeinfoTx_tickPosition (ctx : MeshCtx S) :
    (tickPosition env ctx).lastNodeinfoTx = ctx.lastNodeinfoTx := by
  unfold tickPosition broadcastPosition
  dsimp only
  split_ifs
  · rfl
  · exact lastNodeinfoTx_loraSend ctx _ _ _ _
  · exact lastNodeinfoTx_loraSend ctx _ _ _ _
  · rfl

theorem lastNodeinfoTx_tickNeighborinfo (ctx : MeshCtx S) :
    (tickNeighborinfo env ctx).lastNodeinfoTx = ctx.lastNodeinfoTx := by
  unfold tickNeighborinfo broadcastNeighborinfo
  dsimp only
  split_ifs
  · rfl
  · exact lastNodeinfoTx_loraSend ctx _ _ _ _
  · rfl

theorem lastNodeinfoTx_sendDeviceTelemetry (ctx : MeshCtx S) (batteryLevel : UInt8)
    (voltageMv : UInt16) :
    (sendDeviceTelemetry env ctx batteryLevel voltageMv).lastNodeinfoTx = ctx.lastNodeinfoTx := by
  have hbroadcast : ∀ payload,
      (broadcastTelemetry env ctx payload).lastNodeinfoTx = ctx.lastNodeinfoTx := by
    intro payload
    unfold broadcastTelemetry
    dsimp only
    split_ifs
    · exact lastNodeinfoTx_loraSend ctx _ _ _ _
    · exact lastNodeinfoTx_loraSend ctx _ _ _ _
    · rfl
  unfold sendDeviceTelemetry forwardTelemetry
  dsimp only
  split
  · rw [lastNodeinfoTx_pushFromRadio]
    exact hbroadcast _
  · exact hbroadcast _

theorem timed_dispatch (ctx : MeshCtx S) : MeshCtx.Timed ctx (dispatch env ctx) := by
  unfold dispatch
  split
  · unfold MeshCtx.Timed
    rw [lastNodeinfoTx_tickPosition, lastNodeinfoTx_tickNeighborinfo]
    unfold tickNodeinfo
    dsimp only
    split
    · exact timed_broadcastNodeinfo ctx
    · exact Or.inl rfl
  · exact Or.inl rfl

end Handlers.Periodic

namespace MeshState

theorem lastNodeinfoTx_fireRetransmissions (ctx : MeshCtx S) :
    (fireRetransmissions env ctx).lastNodeinfoTx = ctx.lastNodeinfoTx := by
  have hreported : ∀ (ctx : MeshCtx S) (report : UInt32 × UInt32),
      (sendBleRoutingResult env ctx report.1 report.2 .maxRetransmit).lastNodeinfoTx =
        ctx.lastNodeinfoTx :=
    fun ctx report => lastNodeinfoTx_sendBleRoutingResult ctx report.1 report.2 .maxRetransmit
  have hsent : ∀ (ctx : MeshCtx S) (frame : RadioFrame),
      (ctx.sendLora frame).lastNodeinfoTx = ctx.lastNodeinfoTx := fun _ _ => rfl
  unfold fireRetransmissions
  dsimp only
  rw [MeshCtx.lastNodeinfoTx_foldl hreported, MeshCtx.lastNodeinfoTx_foldl hsent]

theorem lastNodeinfoTx_fireRebroadcast (ctx : MeshCtx S) :
    (fireRebroadcast ctx).lastNodeinfoTx = ctx.lastNodeinfoTx := by
  rcases fireRebroadcast_cases ctx with hsent | ⟨i, pending, -, hsent⟩
  · rw [hsent]
  · rw [hsent]

variable [MeshStorage S]

/-- Whatever is no received frame keeps the time, or makes it now. -/
theorem timed_handled (state : MeshState S) {event : Event}
    (h : ∀ frame metadata, event ≠ .mesh (.loraRx frame metadata)) :
    MeshCtx.Timed state.ctx (handled env state event) := by
  unfold handled
  cases event with
  | announce =>
      dsimp only
      split
      · exact Or.inl rfl
      · exact Periodic.timed_broadcastNodeinfo state.ctx
  | mesh event =>
      dsimp only
      split
      · cases event with
        | loraRx frame metadata => exact absurd rfl (h frame metadata)
        | bleRx bytes => exact Or.inl (FromApp.lastNodeinfoTx_fromApp state.ctx bytes)
        | batteryUpdate level voltageMv =>
            exact Or.inl (Periodic.lastNodeinfoTx_sendDeviceTelemetry state.ctx level voltageMv)
        | tick => exact Periodic.timed_dispatch (state.ctx.blink .heartbeat)
        | _ => exact Or.inl rfl
      · exact Or.inl rfl
  | rebroadcastDue =>
      dsimp only
      split
      · exact Or.inl (lastNodeinfoTx_fireRebroadcast state.ctx)
      · exact Or.inl rfl
  | retransmissionDue =>
      dsimp only
      split
      · exact Or.inl (lastNodeinfoTx_fireRetransmissions state.ctx)
      · exact Or.inl rfl
  | _ => exact Or.inl rfl

end MeshState

/-! ## What a frame makes us tell -/

def TxBuilder.IsNodeinfo (tx : TxBuilder) : Prop := tx.portnum = PortNum.nodeinfoApp.toI32

instance (tx : TxBuilder) : Decidable tx.IsNodeinfo := inferInstanceAs (Decidable (_ = _))

/-- Of all that is queued these are the node information, in this order. -/
def Informs (env : Env) (infos : List (Outgoing S)) (before after : MeshCtx S) : Prop :=
  ∃ sent, (sent.filter fun out => out.tx.IsNodeinfo) = infos ∧ Queues env sent before after

namespace Informs

variable {infos infos' : List (Outgoing S)} {ctx ctx' ctx'' : MeshCtx S}

theorem of_queues {sent : List (Outgoing S)} (hother : ∀ out ∈ sent, ¬ out.tx.IsNodeinfo)
    (h : Queues env sent ctx ctx') : Informs env [] ctx ctx' := by
  refine ⟨sent, List.filter_eq_nil_iff.mpr fun out hout => ?_, h⟩
  rw [decide_eq_true_iff]
  exact hother out hout

theorem of_eq (h : ctx'.txToLora = ctx.txToLora) : Informs env [] ctx ctx' :=
  ⟨[], rfl, Queues.of_eq h⟩

theorem of_quiet (h : Quiet 0 ctx ctx') : Informs env [] ctx ctx' :=
  ⟨[], rfl, Queues.of_quiet h⟩

theorem trans (h : Informs env infos ctx ctx') (h' : Informs env infos' ctx' ctx'') :
    Informs env (infos ++ infos') ctx ctx'' := by
  obtain ⟨sent, rfl, hqueues⟩ := h
  obtain ⟨sent', rfl, hqueues'⟩ := h'
  exact ⟨sent ++ sent', List.filter_append _ _, hqueues.trans hqueues'⟩

theorem originate (ctx : MeshCtx S) {tx : TxBuilder} (h : ¬ tx.IsNodeinfo) :
    Informs env [] ctx (Handlers.originate env ctx tx) := by
  refine of_queues (fun out hout => ?_) (Queues.originate ctx tx)
  rw [List.mem_singleton.mp hout]
  exact h

end Informs

/-- Five minutes are waited for: nothing is told, or the time has come, one is told at most and
the time is set. -/
def Paced (infos : List (Outgoing S)) (before after : MeshCtx S) : Prop :=
  (infos = [] ∧ after.lastNodeinfoTx = before.lastNodeinfoTx) ∨
    (infos.length ≤ 1 ∧ FromRadio.nodeinfoThrottled before = false ∧
      after.lastNodeinfoTx = some before.now)

theorem nodeinfoThrottled_of_some {ctx : MeshCtx S} {t : Nat} (h : ctx.lastNodeinfoTx = some t) :
    FromRadio.nodeinfoThrottled ctx = decide (ctx.now - t < NODEINFO_MIN_INTERVAL_MS) := by
  unfold FromRadio.nodeinfoThrottled
  rw [h]

theorem nodeinfoThrottled_congr {ctx ctx' : MeshCtx S} (hnow : ctx'.now = ctx.now)
    (hlast : ctx'.lastNodeinfoTx = ctx.lastNodeinfoTx) :
    FromRadio.nodeinfoThrottled ctx' = FromRadio.nodeinfoThrottled ctx := by
  unfold FromRadio.nodeinfoThrottled
  rw [hnow, hlast]

namespace Paced

variable {infos infos' : List (Outgoing S)} {ctx ctx' ctx'' : MeshCtx S}

theorem of_eq (h : ctx'.lastNodeinfoTx = ctx.lastNodeinfoTx) : Paced [] ctx ctx' :=
  Or.inl ⟨rfl, h⟩

/-- Once something is told, the same moment has no more to tell. -/
theorem trans (h : Paced infos ctx ctx') (hnow : ctx'.now = ctx.now)
    (h' : Paced infos' ctx' ctx'') : Paced (infos ++ infos') ctx ctx'' := by
  unfold Paced at h h' ⊢
  rw [hnow] at h'
  rcases h with ⟨rfl, hlast⟩ | ⟨hone, hfree, hlast⟩
  · rw [List.nil_append]
    rw [hlast, nodeinfoThrottled_congr hnow hlast] at h'
    exact h'
  · rcases h' with ⟨rfl, hlast'⟩ | ⟨-, hfree', -⟩
    · rw [List.append_nil]
      exact Or.inr ⟨hone, hfree, hlast'.trans hlast⟩
    · rw [nodeinfoThrottled_of_some hlast, hnow, Nat.sub_self] at hfree'
      cases hfree'

end Paced

namespace Handlers.FromRadio

/-- Our own node information, unless the airtime ceiling is reached. -/
def ownInfo (env : Env) (ctx : MeshCtx S) (dest : UInt32) (wantResponse : Bool) :
    List (Outgoing S) :=
  if txAllowedImpolite env ctx then
    [⟨ctx, loraTx .nodeinfoApp (nodeInfoPayload env ctx.device ctx.nodeIdStr ctx.pkcPubBytes) dest
      wantResponse⟩]
  else []

theorem length_ownInfo_le (ctx : MeshCtx S) (dest : UInt32) (wantResponse : Bool) :
    (ownInfo env ctx dest wantResponse).length ≤ 1 := by
  unfold ownInfo
  split
  · exact Nat.le_refl 1
  · exact Nat.zero_le 1

theorem informs_sendNodeinfo (ctx : MeshCtx S) (dest : UInt32) (wantResponse : Bool) :
    Informs env (ownInfo env ctx dest wantResponse) ctx
      (sendNodeinfo env ctx dest wantResponse) := by
  refine ⟨_, ?_, Queues.loraSend ctx .nodeinfoApp _ dest wantResponse⟩
  unfold ownInfo
  split
  · exact List.filter_cons_of_pos (decide_eq_true rfl)
  · rfl

theorem informs_answerNodeinfo (ctx : MeshCtx S) (dest : UInt32) (wantResponse : Bool) :
    Informs env (ownInfo env ctx dest wantResponse) ctx
      (answerNodeinfo env ctx dest wantResponse) :=
  informs_sendNodeinfo ctx dest wantResponse

theorem paced_answerNodeinfo {ctx : MeshCtx S} (h : nodeinfoThrottled ctx = false)
    (dest : UInt32) (wantResponse : Bool) :
    Paced (ownInfo env ctx dest wantResponse) ctx (answerNodeinfo env ctx dest wantResponse) :=
  Or.inr ⟨length_ownInfo_le ctx dest wantResponse, h, rfl⟩

/-! ### Introductions -/

def Introduces (env : Env) (ctx : MeshCtx S) (header : PacketHeader) : Prop :=
  ¬ (ctx.device.role = .router ∨ ctx.device.role = .routerLate) ∧ ctx.nodeDb.len < MAX_NODES ∧
    nodeinfoThrottled ctx = false ∧ ctx.channelMetrics.txAllowedPolite (region env ctx) = true ∧
    header.hopStart.toNat - header.hopLimit.toNat ≤ ctx.device.hopLimit.toNat + 2

instance (ctx : MeshCtx S) (header : PacketHeader) : Decidable (Introduces env ctx header) :=
  inferInstanceAs (Decidable (_ ∧ _))

theorem maybeRequestNodeinfo_eq (ctx : MeshCtx S) (header : PacketHeader) :
    maybeRequestNodeinfo env ctx header.sender header.hopStart header.hopLimit =
      if Introduces env ctx header then answerNodeinfo env ctx header.sender true else ctx := by
  unfold maybeRequestNodeinfo
  by_cases hintroduces : Introduces env ctx header
  · obtain ⟨hrole, hroom, hfree, hpolite, hnear⟩ := id hintroduces
    rw [if_pos hintroduces, if_neg hrole, if_neg (Nat.not_le.mpr hroom), hfree, hpolite,
      if_neg (by simp), if_neg (by simp), if_neg (Nat.not_lt.mpr hnear)]
  · rw [if_neg hintroduces]
    split_ifs with hrole hroom hthrottled hpolite hfar
    · rfl
    · rfl
    · rfl
    · rfl
    · rfl
    · exact absurd ⟨hrole, Nat.lt_of_not_le hroom, eq_false_of_ne_true hthrottled,
        eq_true_of_ne_false hpolite, Nat.le_of_not_lt hfar⟩ hintroduces

/-- The sender is noted in the database, and the phone told of a new one. -/
def touchSender (ctx : MeshCtx S) (header : PacketHeader) (metadata : RadioMetadata) :
    MeshCtx S :=
  let blinked := ctx.blink .singleBlink
  let touched := blinked.modifyNodeDb fun db =>
    (db.touch header.sender 0 (some metadata.snr) blinked.now).modify header.sender fun entry =>
      { entry with hopsAway := hopsAway header }
  if (blinked.nodeDb.get header.sender).isNone then notifyBleNodeUpdate touched header.sender
  else touched

def introduction (env : Env) (ctx : MeshCtx S) (header : PacketHeader)
    (metadata : RadioMetadata) : List (Outgoing S) :=
  let touched := touchSender ctx header metadata
  if ((touched.nodeDb.get header.sender).bind (·.user)).isNone = true ∧
      Introduces env touched header then ownInfo env touched header.sender true
  else []

theorem noteSender_eq (ctx : MeshCtx S) (header : PacketHeader) (metadata : RadioMetadata) :
    noteSender env ctx header metadata =
      let touched := touchSender ctx header metadata
      if ((touched.nodeDb.get header.sender).bind (·.user)).isNone = true ∧
          Introduces env touched header then answerNodeinfo env touched header.sender true
      else touched := by
  have hrequest : ∀ touched : MeshCtx S,
      (if ((touched.nodeDb.get header.sender).bind (·.user)).isNone = true then
        maybeRequestNodeinfo env touched header.sender header.hopStart header.hopLimit
      else touched) =
      if ((touched.nodeDb.get header.sender).bind (·.user)).isNone = true ∧
          Introduces env touched header then answerNodeinfo env touched header.sender true
      else touched := by
    intro touched
    rw [maybeRequestNodeinfo_eq, ite_and]
  exact hrequest (touchSender ctx header metadata)

theorem quiet_touchSender (ctx : MeshCtx S) (header : PacketHeader) (metadata : RadioMetadata) :
    Quiet 0 ctx (touchSender ctx header metadata) := by
  unfold touchSender
  dsimp only
  generalize htouched : (ctx.blink .singleBlink).modifyNodeDb _ = touched
  have hquiet : Quiet 0 ctx touched := by
    rw [← htouched]
    exact Quiet.of_traffic_eq rfl
  split
  · exact hquiet.trans (quiet_notifyBleNodeUpdate touched header.sender)
  · exact hquiet

theorem timer_touchSender (ctx : MeshCtx S) (header : PacketHeader) (metadata : RadioMetadata) :
    (touchSender ctx header metadata).now = ctx.now ∧
      (touchSender ctx header metadata).lastNodeinfoTx = ctx.lastNodeinfoTx := by
  unfold touchSender
  dsimp only
  split
  · refine ⟨?_, lastNodeinfoTx_notifyBleNodeUpdate _ header.sender⟩
    exact congrArg (fun resident => resident.core.now)
      (resident_notifyBleNodeUpdate (_ : MeshCtx S) header.sender)
  · exact ⟨rfl, rfl⟩

theorem informs_noteSender (ctx : MeshCtx S) (header : PacketHeader) (metadata : RadioMetadata) :
    Informs env (introduction env ctx header metadata) ctx
      (noteSender env ctx header metadata) := by
  have htouched : Informs env [] ctx (touchSender ctx header metadata) :=
    Informs.of_quiet (quiet_touchSender ctx header metadata)
  rw [noteSender_eq]
  unfold introduction
  dsimp only
  split
  · exact htouched.trans (informs_answerNodeinfo _ header.sender true)
  · exact htouched

theorem paced_noteSender (ctx : MeshCtx S) (header : PacketHeader) (metadata : RadioMetadata) :
    Paced (introduction env ctx header metadata) ctx (noteSender env ctx header metadata) := by
  obtain ⟨hnow, hlast⟩ := timer_touchSender ctx header metadata
  rw [noteSender_eq]
  unfold introduction
  dsimp only
  split
  · rename_i hintroduces
    exact (Paced.of_eq hlast).trans hnow
      (paced_answerNodeinfo hintroduces.2.2.2.1 header.sender true)
  · exact Paced.of_eq hlast

/-! ### Answers -/

def noteUser (ctx : MeshCtx S) (sender : UInt32) (user : User) : MeshCtx S :=
  notifyBleNodeUpdate (ctx.modifyNodeDb fun db => storeUser db sender user) sender

def nodeinfoAnswer (env : Env) (ctx : MeshCtx S) (pkt : InboundPacket) : List (Outgoing S) :=
  match env.prost.user.decode pkt.payload with
  | none => []
  | some user =>
      let noted := noteUser ctx pkt.sender user
      if (pkt.wantResponse && !nodeinfoThrottled noted) = true then
        ownInfo env noted pkt.sender false
      else []

theorem handleNodeInfo_eq (ctx : MeshCtx S) (pkt : InboundPacket) :
    handleNodeInfo env ctx pkt =
      match env.prost.user.decode pkt.payload with
      | none => ctx
      | some user =>
          let noted := noteUser ctx pkt.sender user
          if (pkt.wantResponse && !nodeinfoThrottled noted) = true then
            answerNodeinfo env noted pkt.sender false
          else noted := rfl

theorem informs_handleNodeInfo (ctx : MeshCtx S) (pkt : InboundPacket) :
    Informs env (nodeinfoAnswer env ctx pkt) ctx (handleNodeInfo env ctx pkt) := by
  rw [handleNodeInfo_eq]
  unfold nodeinfoAnswer
  cases env.prost.user.decode pkt.payload with
  | none => exact Informs.of_eq rfl
  | some user =>
      have hdb : Informs env [] ctx
          (ctx.modifyNodeDb fun db => storeUser db pkt.sender user) := Informs.of_eq rfl
      have hnoted : Informs env [] ctx (noteUser ctx pkt.sender user) :=
        hdb.trans (Informs.of_quiet (quiet_notifyBleNodeUpdate _ pkt.sender))
      dsimp only
      split
      · exact hnoted.trans (informs_answerNodeinfo _ pkt.sender false)
      · exact hnoted

theorem paced_handleNodeInfo (ctx : MeshCtx S) (pkt : InboundPacket) :
    Paced (nodeinfoAnswer env ctx pkt) ctx (handleNodeInfo env ctx pkt) := by
  rw [handleNodeInfo_eq]
  unfold nodeinfoAnswer
  cases env.prost.user.decode pkt.payload with
  | none => exact Paced.of_eq rfl
  | some user =>
      have hlast : (noteUser ctx pkt.sender user).lastNodeinfoTx = ctx.lastNodeinfoTx :=
        lastNodeinfoTx_notifyBleNodeUpdate _ pkt.sender
      have hnow : (noteUser ctx pkt.sender user).now = ctx.now :=
        congrArg (fun resident => resident.core.now)
          (resident_notifyBleNodeUpdate (_ : MeshCtx S) pkt.sender)
      dsimp only
      split
      · rename_i hanswers
        have hfree : nodeinfoThrottled (noteUser ctx pkt.sender user) = false := by
          simpa using (Bool.and_eq_true_iff.mp hanswers).2
        exact (Paced.of_eq hlast).trans hnow (paced_answerNodeinfo hfree pkt.sender false)
      · exact Paced.of_eq hlast

def portnumInfos (env : Env) (ctx : MeshCtx S) (portnum : Int32) (pkt : InboundPacket) :
    List (Outgoing S) :=
  if portnum = PortNum.nodeinfoApp.toI32 then nodeinfoAnswer env ctx pkt else []

def nudge (env : Env) (ctx : MeshCtx S) (header : PacketHeader) : List (Outgoing S) :=
  let refused :=
    if header.wantAck then
      sendRoutingError env ctx header.sender header.packetId .pkiUnknownPubkey
    else ctx
  ownInfo env refused header.sender false

theorem informs_answerUnknownPubkey (ctx : MeshCtx S) (header : PacketHeader) :
    Informs env (nudge env ctx header) ctx (answerUnknownPubkey env ctx header) := by
  have hrefused : Informs env [] ctx (if header.wantAck = true then
      sendRoutingError env ctx header.sender header.packetId .pkiUnknownPubkey else ctx) := by
    split
    · exact Informs.originate ctx (by
        change ¬ PortNum.routingApp.toI32 = PortNum.nodeinfoApp.toI32
        decide)
    · exact Informs.of_eq rfl
  exact hrefused.trans (informs_sendNodeinfo _ header.sender false)

theorem informs_ackInbound (ctx : MeshCtx S) (header : PacketHeader) (decoded : DecodedPayload) :
    Informs env [] ctx (ackInbound env ctx header decoded) := by
  unfold ackInbound
  split
  · exact Informs.originate ctx (by
      change ¬ PortNum.routingApp.toI32 = PortNum.nodeinfoApp.toI32
      decide)
  · exact Informs.of_eq rfl

variable [MeshStorage S]

theorem informs_handlePortnum (ctx : MeshCtx S) (portnum : Int32) (pkt : InboundPacket) :
    Informs env (portnumInfos env ctx portnum pkt) ctx (handlePortnum env ctx portnum pkt) := by
  by_cases hnodeinfo : portnum = PortNum.nodeinfoApp.toI32
  · subst hnodeinfo
    have hhandler : handlePortnum env ctx PortNum.nodeinfoApp.toI32 pkt =
        handleNodeInfo env ctx pkt := by
      unfold handlePortnum
      rw [PortNum.tryFrom_toI32]
    rw [hhandler]
    unfold portnumInfos
    rw [if_pos rfl]
    exact informs_handleNodeInfo ctx pkt
  · have hsame : Informs env [] ctx ctx := Informs.of_eq rfl
    unfold portnumInfos handlePortnum
    rw [if_neg hnodeinfo]
    split
    · exact hsame
    · exact hsame
    · exact hsame
    · exact Informs.of_quiet (quiet_handlePosition ctx pkt)
    · rename_i hportnum
      exact absurd (PortNum.toI32_of_tryFrom hportnum).symm hnodeinfo
    · rcases @handleRouting_cases S env ctx pkt with hquiet | ⟨_, i, entry, _, _, _, _, _, hquiet⟩
      · exact Informs.of_quiet hquiet
      · exact (Informs.of_eq (txToLora_deliver ctx i entry)).trans (Informs.of_quiet hquiet)
    · unfold handleAdmin
      split
      · obtain ⟨sent, hadmin, hqueues⟩ :=
          @Queues.adminDispatch S env _ ctx pkt.sender pkt.packetId pkt.payload
        refine Informs.of_queues (fun out hout => ?_) hqueues
        unfold TxBuilder.IsNodeinfo
        rw [hadmin out hout]
        decide
      · exact hsame
    · exact hsame
    · exact Informs.of_quiet (quiet_handleTelemetry ctx pkt)
    · unfold handleTraceroute
      split
      · exact Informs.originate ctx (by
          change ¬ PortNum.tracerouteApp.toI32 = PortNum.nodeinfoApp.toI32
          decide)
      · exact hsame
    · exact Informs.of_quiet (quiet_handleNeighborInfo ctx pkt)
    · exact hsame
    · exact hsame

theorem paced_handlePortnum (ctx : MeshCtx S) (portnum : Int32) (pkt : InboundPacket) :
    Paced (portnumInfos env ctx portnum pkt) ctx (handlePortnum env ctx portnum pkt) := by
  unfold portnumInfos
  split
  · rename_i hnodeinfo
    subst hnodeinfo
    have hhandler : handlePortnum env ctx PortNum.nodeinfoApp.toI32 pkt =
        handleNodeInfo env ctx pkt := by
      unfold handlePortnum
      rw [PortNum.tryFrom_toI32]
    rw [hhandler]
    exact paced_handleNodeInfo ctx pkt
  · rename_i hother
    exact Paced.of_eq (lastNodeinfoTx_handlePortnum ctx pkt hother)

/-! ### Received frames -/

/-- What the first copy of a packet makes us tell: an introduction to its sender, then the
answer. -/
def newInfos (env : Env) (ctx : MeshCtx S) (frame : RadioFrame) (header : PacketHeader)
    (metadata : RadioMetadata) (decoded : DecodedPayload) : List (Outgoing S) :=
  let noted := noteSender env ctx header metadata
  introduction env ctx header metadata ++
    portnumInfos env (bufferText noted frame decoded.portnum) decoded.portnum
      (inboundPacket noted.device header metadata decoded)

theorem informs_handleNew (ctx : MeshCtx S) (frame : RadioFrame) (header : PacketHeader)
    (metadata : RadioMetadata) (decoded : DecodedPayload) :
    Informs env (newInfos env ctx frame header metadata decoded) ctx
      (handleNew env ctx frame header metadata decoded) := by
  unfold handleNew newInfos
  dsimp only
  have hnoted := @informs_noteSender S env ctx header metadata
  generalize noteSender env ctx header metadata = noted at hnoted ⊢
  generalize inboundPacket noted.device header metadata decoded = pkt
  have hbuffered := hnoted.trans
    (Informs.of_quiet (quiet_bufferText noted frame decoded.portnum))
  rw [List.append_nil] at hbuffered
  have hhandled := hbuffered.trans
    (informs_handlePortnum (bufferText noted frame decoded.portnum) decoded.portnum pkt)
  have hforwarded := hhandled.trans
    (Informs.of_quiet (quiet_forwardInbound _ header metadata decoded pkt))
  have hanswered := hforwarded.trans (informs_ackInbound _ header decoded)
  rw [List.append_nil, List.append_nil] at hanswered
  have hrelayed := hanswered.trans (Informs.of_quiet
    (@quiet_relayInbound S env (ackInbound env _ header decoded) frame header metadata))
  rw [List.append_nil] at hrelayed
  exact hrelayed

theorem paced_handleNew (ctx : MeshCtx S) (frame : RadioFrame) (header : PacketHeader)
    (metadata : RadioMetadata) (decoded : DecodedPayload) :
    Paced (newInfos env ctx frame header metadata decoded) ctx
      (handleNew env ctx frame header metadata decoded) := by
  have hnow : (bufferText (noteSender env ctx header metadata) frame decoded.portnum).now =
      ctx.now :=
    congrArg Core.now ((core_bufferText _ frame decoded.portnum).trans
      (core_noteSender ctx header metadata))
  have hnoted := @paced_noteSender S env ctx header metadata
  unfold newInfos handleNew
  dsimp only
  generalize inboundPacket (noteSender env ctx header metadata).device header metadata decoded = pkt
  have hhandled := @paced_handlePortnum S env _
    (bufferText (noteSender env ctx header metadata) frame decoded.portnum) decoded.portnum pkt
  unfold Paced at hnoted hhandled ⊢
  rw [lastNodeinfoTx_relayInbound, lastNodeinfoTx_ackInbound, lastNodeinfoTx_forwardInbound]
  refine Paced.trans ?_ hnow hhandled
  unfold Paced
  rw [lastNodeinfoTx_bufferText]
  exact hnoted

/-- What a received frame makes us tell. -/
def nodeinfos (env : Env) (ctx : MeshCtx S) (frame : RadioFrame) (metadata : RadioMetadata) :
    List (Outgoing S) :=
  match newPacket env ctx frame with
  | some (header, decoded) => newInfos env (admitted ctx header) frame header metadata decoded
  | none =>
      match frame.header with
      | some header =>
          if header.sender ≠ ctx.device.myNodeNum ∧
              tryDecryptAndDecode env frame header ctx.device ctx.nodeDb ctx.pkcPrivBytes =
                .pkiUnknownPubkey then
            nudge env ctx header
          else []
      | none => []

/-- A frame for us alone under no channel's hash, which no known key of its sender is tried on
and which does not decode as it is, while the airtime allows an answer. -/
def Nudges (env : Env) (ctx : MeshCtx S) (frame : RadioFrame) : Prop :=
  ∃ header, frame.header = some header ∧ header.sender ≠ ctx.device.myNodeNum ∧
    header.channelIndex = 0 ∧ header.destination = ctx.device.myNodeNum ∧
    senderPubKey frame header ctx.device ctx.nodeDb ctx.pkcPrivBytes = none ∧
    (pskPlaintext env frame header ctx.device).bind env.prost.data.decode = none ∧
    txAllowedImpolite env ctx = true

instance (ctx : MeshCtx S) (frame : RadioFrame) : Decidable (Nudges env ctx frame) :=
  match hheader : frame.header with
  | none => isFalse fun ⟨_, h, _⟩ => nomatch hheader.symm.trans h
  | some header =>
      decidable_of_iff (header.sender ≠ ctx.device.myNodeNum ∧ header.channelIndex = 0 ∧
          header.destination = ctx.device.myNodeNum ∧
          senderPubKey frame header ctx.device ctx.nodeDb ctx.pkcPrivBytes = none ∧
          (pskPlaintext env frame header ctx.device).bind env.prost.data.decode = none ∧
          txAllowedImpolite env ctx = true)
        ⟨fun h => ⟨header, hheader, h⟩, fun ⟨_, h, hnudges⟩ =>
          Option.some.inj (hheader.symm.trans h) ▸ hnudges⟩

omit [MeshStorage S] in
theorem txAllowedImpolite_originate (ctx : MeshCtx S) (tx : TxBuilder) :
    txAllowedImpolite env (originate env ctx tx) = txAllowedImpolite env ctx := by
  unfold originate
  dsimp only
  split <;> rfl

omit [MeshStorage S] in
theorem nudge_eq_nil {ctx : MeshCtx S} (header : PacketHeader)
    (h : txAllowedImpolite env ctx = false) : nudge env ctx header = [] := by
  have hrefused : txAllowedImpolite env (if header.wantAck = true then
      sendRoutingError env ctx header.sender header.packetId .pkiUnknownPubkey else ctx) =
      false := by
    split
    · exact (txAllowedImpolite_originate ctx _).trans h
    · exact h
  unfold nudge ownInfo
  dsimp only
  rw [hrefused]
  rfl

omit [MeshStorage S] in
/-- Of the frames that are reported to have an unknown key, all nudge that the airtime
allows. -/
theorem nudges_of_unknown {ctx : MeshCtx S} {frame : RadioFrame} {header : PacketHeader}
    (hheader : frame.header = some header) (hsender : header.sender ≠ ctx.device.myNodeNum)
    (hunknown : tryDecryptAndDecode env frame header ctx.device ctx.nodeDb ctx.pkcPrivBytes =
      .pkiUnknownPubkey) (hallowed : txAllowedImpolite env ctx = true) : Nudges env ctx frame := by
  have hopened := unopened_of_unknown hunknown
  rw [tryDecryptAndDecode_of_unopened hopened, finalUndecodedOutcome_eq_unknown_iff] at hunknown
  obtain ⟨hhash, htoUs, hkey⟩ := hunknown
  unfold openedData at hopened
  rw [pkcPlaintext_of_senderPubKey hkey] at hopened
  exact ⟨header, hheader, hsender, hhash, htoUs, hkey, hopened, hallowed⟩

omit [MeshStorage S] in
theorem quietly_handleUndecodable (ctx : MeshCtx S) (frame : RadioFrame) (header : PacketHeader)
    (metadata : RadioMetadata) :
    (handleUndecodable env ctx frame header metadata).txToLora = ctx.txToLora ∧
      (handleUndecodable env ctx frame header metadata).lastNodeinfoTx = ctx.lastNodeinfoTx := by
  unfold handleUndecodable maybeRelayOpaque
  dsimp only
  split_ifs <;> exact ⟨rfl, rfl⟩

/-- What is no new packet is answered for its unknown key, or makes us tell nothing. -/
theorem dispatch_cases_of_none {ctx : MeshCtx S} {frame : RadioFrame}
    (h : newPacket env ctx frame = none) (metadata : RadioMetadata) :
    (∃ header, frame.header = some header ∧ header.sender ≠ ctx.device.myNodeNum ∧
      tryDecryptAndDecode env frame header ctx.device ctx.nodeDb ctx.pkcPrivBytes =
        .pkiUnknownPubkey ∧
      nodeinfos env ctx frame metadata = nudge env ctx header ∧
      dispatch env ctx frame metadata = answerUnknownPubkey env ctx header) ∨
    (nodeinfos env ctx frame metadata = [] ∧
      (dispatch env ctx frame metadata).txToLora = ctx.txToLora ∧
      (dispatch env ctx frame metadata).lastNodeinfoTx = ctx.lastNodeinfoTx) := by
  unfold nodeinfos
  rw [h]
  unfold newPacket at h
  unfold dispatch
  cases hheader : frame.header with
  | none => exact Or.inr ⟨rfl, rfl, rfl⟩
  | some header =>
      rw [hheader] at h
      dsimp only at h ⊢
      by_cases hsender : header.sender = ctx.device.myNodeNum
      · rw [if_pos hsender, if_neg (fun h => h.1 hsender)]
        refine Or.inr ⟨rfl, ?_⟩
        unfold hearOwnPacket
        split <;> exact ⟨rfl, rfl⟩
      · rw [if_neg hsender] at h ⊢
        cases houtcome : tryDecryptAndDecode env frame header ctx.device ctx.nodeDb
            ctx.pkcPrivBytes with
        | decoded decoded =>
            rw [houtcome] at h
            rw [if_neg (fun h => nomatch h.2)]
            refine Or.inr ⟨rfl, ?_⟩
            unfold handleDecoded
            dsimp only at h ⊢
            split
            · rename_i hnew
              rw [hnew] at h
              cases h
            · unfold upgradeRebroadcast
              split <;> exact ⟨rfl, rfl⟩
            · exact ⟨rfl, rfl⟩
            · exact ⟨rfl, rfl⟩
        | pkiUnknownPubkey =>
            rw [if_pos ⟨hsender, rfl⟩]
            exact Or.inl ⟨header, rfl, hsender, houtcome, rfl, rfl⟩
        | drop =>
            rw [if_neg (fun h => nomatch h.2)]
            exact Or.inr ⟨rfl, quietly_handleUndecodable ctx frame header metadata⟩

theorem informs_dispatch (ctx : MeshCtx S) (frame : RadioFrame) (metadata : RadioMetadata) :
    Informs env (nodeinfos env ctx frame metadata) ctx (dispatch env ctx frame metadata) := by
  cases hnew : newPacket env ctx frame with
  | some packet =>
      obtain ⟨header, decoded⟩ := packet
      have hadmitted : Informs env [] ctx (admitted ctx header) := Informs.of_eq rfl
      unfold nodeinfos
      rw [dispatch_of_newPacket hnew metadata, hnew]
      exact hadmitted.trans (informs_handleNew _ frame header metadata decoded)
  | none =>
      rcases dispatch_cases_of_none hnew metadata with
        ⟨header, -, -, -, hnudge, hanswer⟩ | ⟨hnone, hlora, -⟩
      · rw [hnudge, hanswer]
        exact informs_answerUnknownPubkey ctx header
      · rw [hnone]
        exact Informs.of_eq hlora

/-- But for a nudge, what a frame makes us tell waits for five minutes to pass. -/
theorem paced_dispatch {ctx : MeshCtx S} {frame : RadioFrame} (h : ¬ Nudges env ctx frame)
    (metadata : RadioMetadata) :
    Paced (nodeinfos env ctx frame metadata) ctx (dispatch env ctx frame metadata) := by
  cases hnew : newPacket env ctx frame with
  | some packet =>
      obtain ⟨header, decoded⟩ := packet
      unfold nodeinfos
      rw [dispatch_of_newPacket hnew metadata, hnew]
      exact paced_handleNew (admitted ctx header) frame header metadata decoded
  | none =>
      rcases dispatch_cases_of_none hnew metadata with
        ⟨header, hheader, hsender, hunknown, hnudge, hanswer⟩ | ⟨hnone, -, hlast⟩
      · have hceiling : txAllowedImpolite env ctx = false := by
          rw [← Bool.not_eq_true]
          exact fun hallowed => h (nudges_of_unknown hheader hsender hunknown hallowed)
        rw [hnudge, hanswer, nudge_eq_nil header hceiling]
        exact Paced.of_eq (lastNodeinfoTx_answerUnknownPubkey ctx header)
      · rw [hnone]
        exact Paced.of_eq hlast

end Handlers.FromRadio

/-! ## Whole runs -/

namespace MeshState

variable [MeshStorage S]

/-- The node information that a received frame puts on the air. -/
def triggeredInfos (env : Env) (state : MeshState S) : Event → List RadioFrame
  | .mesh (.loraRx frame metadata) =>
      if state.started then
        (FromRadio.nodeinfos env (noteActivity state.ctx (.loraRx frame metadata)) frame
          metadata).filterMap (Outgoing.frame env)
      else []
  | _ => []

theorem triggeredInfos_of_started {state : MeshState S} (h : state.started = true)
    (frame : RadioFrame) (metadata : RadioMetadata) :
    triggeredInfos env state (.mesh (.loraRx frame metadata)) =
      (FromRadio.nodeinfos env (noteActivity state.ctx (.loraRx frame metadata)) frame
        metadata).filterMap (Outgoing.frame env) := if_pos h

def nodeinfoWait (ctx : MeshCtx S) : Nat :=
  match ctx.lastNodeinfoTx with
  | some t => NODEINFO_MIN_INTERVAL_MS - (ctx.now - t)
  | none => 0

def Event.received : Event → Option RadioFrame
  | .mesh (.loraRx frame _) => some frame
  | _ => none

/-- No frame nudges, and no restart comes while the throttle holds. -/
def MindsThrottle (env : Env) (state : MeshState S) (event : Event) : Prop :=
  (state.started = true → ∀ frame ∈ event.received, ¬ FromRadio.Nudges env state.ctx frame) ∧
    (restarts env state event = true →
      FromRadio.nodeinfoThrottled (handled env state event) = false)

instance (state : MeshState S) (event : Event) : Decidable (MindsThrottle env state event) :=
  inferInstanceAs (Decidable (_ ∧ _))

omit [MeshStorage S] in
theorem nodeinfoWait_eq_zero_iff {ctx : MeshCtx S} :
    nodeinfoWait ctx = 0 ↔ FromRadio.nodeinfoThrottled ctx = false := by
  unfold nodeinfoWait FromRadio.nodeinfoThrottled
  cases ctx.lastNodeinfoTx with
  | none => exact iff_of_true rfl rfl
  | some t =>
      dsimp only
      rw [decide_eq_false_iff_not]
      omega

omit [MeshStorage S] in
theorem nodeinfoWait_le (ctx : MeshCtx S) : nodeinfoWait ctx ≤ NODEINFO_MIN_INTERVAL_MS := by
  unfold nodeinfoWait
  split
  · exact Nat.sub_le _ _
  · exact Nat.zero_le _

omit [MeshStorage S] in
theorem nodeinfoWait_of_some {ctx : MeshCtx S} {t : Nat} (h : ctx.lastNodeinfoTx = some t) :
    nodeinfoWait ctx = NODEINFO_MIN_INTERVAL_MS - (ctx.now - t) := by
  unfold nodeinfoWait
  rw [h]

omit [MeshStorage S] in
theorem nodeinfoWait_of_timed {ctx ctx' : MeshCtx S} {ms : Nat} (hnow : ctx'.now = ctx.now + ms)
    (h : MeshCtx.Timed ctx ctx') : nodeinfoWait ctx ≤ nodeinfoWait ctx' + ms := by
  rcases h with hlast | hlast
  · unfold nodeinfoWait
    rw [hlast, hnow]
    split <;> omega
  · have hle := nodeinfoWait_le ctx
    rw [nodeinfoWait_of_some hlast, hnow]
    omega

/-- The housekeeping leaves the wait alone, and no restart cuts it short. -/
theorem nodeinfoWait_handled_le {state : MeshState S} {event : Event}
    (h : MindsThrottle env state event) :
    nodeinfoWait (handled env state event) ≤ nodeinfoWait (step env state event).ctx := by
  cases hrestarts : restarts env state event with
  | true =>
      rw [nodeinfoWait_eq_zero_iff.mpr (h.2 hrestarts)]
      exact Nat.zero_le _
  | false =>
      obtain ⟨_, _, _, hstep⟩ := step_of_not_restarts hrestarts
      rw [hstep]
      exact Nat.le_refl _

theorem now_handled (state : MeshState S) (event : Event) :
    (handled env state event).now = state.ctx.now + event.duration :=
  (SessionRun.handled_cases state event).1

theorem paced_handled {state : MeshState S} {frame : RadioFrame} {metadata : RadioMetadata}
    (hstarted : state.started = true)
    (h : MindsThrottle env state (.mesh (.loraRx frame metadata))) :
    Paced (FromRadio.nodeinfos env (noteActivity state.ctx (.loraRx frame metadata)) frame
      metadata) state.ctx (handled env state (.mesh (.loraRx frame metadata))) := by
  have hnudge : ¬ FromRadio.Nudges env (noteActivity state.ctx (.loraRx frame metadata)) frame :=
    h.1 hstarted frame rfl
  unfold handled
  dsimp only
  rw [if_pos hstarted]
  exact FromRadio.paced_dispatch hnudge metadata

theorem paces_step {state : MeshState S} {event : Event} (h : MindsThrottle env state event) :
    Clocked.Paces (step env) Event.duration (triggeredInfos env) NODEINFO_MIN_INTERVAL_MS
      (fun state => nodeinfoWait state.ctx) state event := by
  have hkept := nodeinfoWait_handled_le h
  have hnow := @now_handled S env _ state event
  have huntriggered : MeshCtx.Timed state.ctx (handled env state event) →
      nodeinfoWait state.ctx ≤ nodeinfoWait (step env state event).ctx + event.duration := by
    intro htimed
    have hwait := nodeinfoWait_of_timed hnow htimed
    omega
  by_cases hframe : ∃ frame metadata,
      state.started = true ∧ event = .mesh (.loraRx frame metadata)
  · obtain ⟨frame, metadata, hstarted, rfl⟩ := hframe
    have hduration : Event.duration (.mesh (.loraRx frame metadata)) = 0 := rfl
    rcases paced_handled hstarted h with ⟨hnone, hlast⟩ | ⟨hone, hfree, hlast⟩
    · refine ⟨fun _ => huntriggered (Or.inl hlast), fun hseen => absurd ?_ hseen⟩
      rw [triggeredInfos_of_started hstarted, hnone, List.filterMap_nil]
    · have hready := nodeinfoWait_eq_zero_iff.mpr hfree
      refine ⟨fun _ => huntriggered (Or.inr hlast), fun _ => ⟨hready, ?_, ?_⟩⟩
      · rw [triggeredInfos_of_started hstarted]
        exact Nat.le_trans (List.length_filterMap_le _ _) hone
      · rw [nodeinfoWait_of_some hlast, hnow, hduration] at hkept
        omega
  · have hnone : triggeredInfos env state event = [] := by
      unfold triggeredInfos
      split
      · rename_i frame metadata
        exact if_neg fun hstarted => hframe ⟨frame, metadata, hstarted, rfl⟩
      · rfl
    refine ⟨fun _ => huntriggered ?_, fun hseen => absurd hnone hseen⟩
    by_cases hreceived : ∃ frame metadata, event = .mesh (.loraRx frame metadata)
    · obtain ⟨frame, metadata, rfl⟩ := hreceived
      unfold handled
      dsimp only
      rw [if_neg (fun hstarted => hframe ⟨frame, metadata, hstarted, rfl⟩)]
      exact Or.inl rfl
    · exact timed_handled state fun frame metadata hevent =>
        hreceived ⟨frame, metadata, hevent⟩

/-- The times at which received frames put node information on the air, on a clock that no
restart resets. -/
def nodeinfoLog (env : Env) (mac : Bytes) (storage : S) (pkcKeypair : Key × Key)
    (entropy : Nat → UInt32) (events : List Event) : List (Nat × RadioFrame) :=
  Clocked.log (step env) Event.duration (triggeredInfos env)
    (boot env mac storage pkcKeypair entropy) events

/-- In every run the frames in question are all of the node information that received frames make
us queue, and where no frame nudges and no restart forgets the throttle, any two are five minutes
apart. -/
theorem nodeinfoLog_spaced (mac : Bytes) (storage : S) (pkcKeypair : Key × Key)
    (entropy : Nat → UInt32) (events : List Event) :
    EveryReception env mac storage pkcKeypair entropy events (fun ctx frame metadata =>
      Informs env (FromRadio.nodeinfos env ctx frame metadata) ctx
        (FromRadio.dispatch env ctx frame metadata)) ∧
    (Transition.Always (step env) (MindsThrottle env)
        (boot env mac storage pkcKeypair entropy) events →
      Clocked.Spaced NODEINFO_MIN_INTERVAL_MS
        (nodeinfoLog env mac storage pkcKeypair entropy events)) :=
  ⟨fun t _ frame metadata _ _ =>
      FromRadio.informs_dispatch (noteActivity t.before.ctx (.loraRx frame metadata)) frame
        metadata,
    fun hminds => Clocked.spaced_log fun t ht => paces_step (hminds t ht)⟩

/-- A broadcast of node `0x11223344` in the clear, under no channel's hash. -/
def clearFrame : RadioFrame where
  bytes :=
    [0xff, 0xff, 0xff, 0xff, 0x44, 0x33, 0x22, 0x11, 0x09, 0x00, 0x00, 0x00, 0x63, 0x55, 0x00,
     0x44, 0x08, 0x03]
  length_le := by simp [MAX_LORA_PAYLOAD_LEN]

/-- Another of node `0x11223345`. -/
def clearFrame' : RadioFrame where
  bytes :=
    [0xff, 0xff, 0xff, 0xff, 0x45, 0x33, 0x22, 0x11, 0x0a, 0x00, 0x00, 0x00, 0x63, 0x55, 0x00,
     0x45, 0x08, 0x03]
  length_le := by simp [MAX_LORA_PAYLOAD_LEN]

/-- One byte of noise for us alone, forged in the name of node `0x11223344`. -/
def nudgingFrame : RadioFrame where
  bytes :=
    [0x56, 0x34, 0x12, 0x28, 0x44, 0x33, 0x22, 0x11, 0x0b, 0x00, 0x00, 0x00, 0x63, 0x00, 0x00,
     0x44, 0xff]
  length_le := by simp [MAX_LORA_PAYLOAD_LEN]

/-- The times at which a run in the clear puts node information on the air. -/
def nodeinfoTimes (events : List Event) : List Nat :=
  (nodeinfoLog KnownAnswers.defaultKey.env KnownAnswers.mac ({} : FakeStorage)
    KnownAnswers.noKeypair KnownAnswers.noEntropy events).map Prod.fst

/-- Two unknown nodes are heard, five minutes apart, and we introduce ourselves to either. -/
def introducing : List Event :=
  [.announce, .elapse 300000, .mesh (.loraRx clearFrame ⟨0, 0⟩), .elapse 300000,
    .mesh (.loraRx clearFrame' ⟨0, 0⟩)]

theorem introducing_spaced :
    nodeinfoTimes introducing = [300000, 600000] ∧
    Clocked.Spaced NODEINFO_MIN_INTERVAL_MS
      (nodeinfoLog KnownAnswers.defaultKey.env KnownAnswers.mac ({} : FakeStorage)
        KnownAnswers.noKeypair KnownAnswers.noEntropy introducing) :=
  ⟨by decide +kernel, (@nodeinfoLog_spaced FakeStorage KnownAnswers.defaultKey.env _
    KnownAnswers.mac {} KnownAnswers.noKeypair KnownAnswers.noEntropy introducing).2
    (by decide +kernel)⟩

/-- The noise is received twice, one second apart. -/
def nudging : List Event :=
  [.announce, .mesh (.loraRx nudgingFrame ⟨0, 0⟩), .elapse 1000,
    .mesh (.loraRx nudgingFrame ⟨0, 0⟩)]

/-- It is answered with a node information each time. -/
theorem nudging_unspaced :
    nodeinfoTimes nudging = [0, 1000] ∧
    ¬ Clocked.Spaced NODEINFO_MIN_INTERVAL_MS
      (nodeinfoLog KnownAnswers.defaultKey.env KnownAnswers.mac ({} : FakeStorage)
        KnownAnswers.noKeypair KnownAnswers.noEntropy nudging) := by
  have htimes : nodeinfoTimes nudging = [0, 1000] := by decide +kernel
  refine ⟨htimes, fun hspaced => ?_⟩
  have hpairs : (nodeinfoTimes nudging).Pairwise
      fun earlier later => earlier + NODEINFO_MIN_INTERVAL_MS ≤ later := hspaced.times
  rw [htimes] at hpairs
  revert hpairs
  decide

end MeshState

end Meshtastenstein
