import Meshtastenstein.Effects
/-!
# Who a node is

No handler touches the key pair and the id a node was started with.  Here for the work that
sends nothing of the node's own on the air.
-/

namespace Meshtastenstein

open Lib Proto Handlers

variable {S : Type} {env : Env}

namespace MeshCtx

def keys (ctx : MeshCtx S) : Key × Key := (ctx.pkcPrivBytes, ctx.pkcPubBytes)

def badge (ctx : MeshCtx S) : (Key × Key) × Text := (ctx.keys, ctx.nodeIdStr)

@[simp] theorem badge_takePacketId (ctx : MeshCtx S) : ctx.takePacketId.badge = ctx.badge := rfl

@[simp] theorem badge_takeFromRadioId (ctx : MeshCtx S) :
    ctx.takeFromRadioId.badge = ctx.badge := rfl

@[simp] theorem badge_sendLora (ctx : MeshCtx S) (frame : RadioFrame) :
    (ctx.sendLora frame).badge = ctx.badge := rfl

@[simp] theorem badge_trySendBle (ctx : MeshCtx S) (msg : FromRadioMessage) :
    (ctx.trySendBle msg).badge = ctx.badge := by
  rw [trySendBle_eq]
  rfl

@[simp] theorem badge_modifyNodeDb (ctx : MeshCtx S) (f : NodeDb → NodeDb) :
    (ctx.modifyNodeDb f).badge = ctx.badge := rfl

theorem badge_foldl {β : Type} {f : MeshCtx S → β → MeshCtx S}
    (h : ∀ ctx item, (f ctx item).badge = ctx.badge) (items : List β) (ctx : MeshCtx S) :
    (items.foldl f ctx).badge = ctx.badge := by
  induction items generalizing ctx with
  | nil => rfl
  | cons item items ih => rw [List.foldl_cons, ih, h]

end MeshCtx

namespace Handlers

@[simp] theorem badge_originate (ctx : MeshCtx S) (tx : TxBuilder) :
    (originate env ctx tx).badge = ctx.badge := by
  unfold originate
  dsimp only
  split <;> simp

@[simp] theorem badge_pushFromRadio (ctx : MeshCtx S) (variant : FromRadio.Variant) :
    (pushFromRadio ctx variant).badge = ctx.badge := by
  unfold pushFromRadio
  simp

@[simp] theorem badge_notifyBleNodeUpdate (ctx : MeshCtx S) (sender : UInt32) :
    (notifyBleNodeUpdate ctx sender).badge = ctx.badge := by
  unfold notifyBleNodeUpdate
  split <;> simp

@[simp] theorem badge_ensureSessionPasskey (ctx : MeshCtx S) :
    (ensureSessionPasskey ctx).badge = ctx.badge := by
  obtain ⟨session, entropy, hpasskey⟩ := ensureSessionPasskey_eq ctx
  rw [hpasskey]
  rfl

namespace Admin

variable [MeshStorage S]

omit [MeshStorage S] in
@[simp] theorem badge_sendAdminResponse (ctx : MeshCtx S) (requester reqPktId : UInt32)
    (variant : AdminMessage.Variant) (viaLora : Bool) :
    (sendAdminResponse env ctx requester reqPktId variant viaLora).badge = ctx.badge := by
  unfold sendAdminResponse
  dsimp only
  split
  · rw [badge_originate, badge_ensureSessionPasskey]
  · exact badge_ensureSessionPasskey ctx

theorem badge_handleVariant (ctx : MeshCtx S) (requester reqPktId : UInt32) (viaLora : Bool)
    (variant : AdminMessage.Variant) :
    (handleVariant env ctx requester reqPktId viaLora variant).badge = ctx.badge := by
  cases variant with
  | getConfigRequest configType =>
      unfold handleVariant
      dsimp only
      split
      · exact badge_sendAdminResponse ctx _ _ _ _
      · rfl
  | getModuleConfigRequest configType =>
      unfold handleVariant getModuleConfig
      dsimp only
      split
      · exact badge_sendAdminResponse ctx _ _ _ _
      · rfl
  | setConfig config =>
      unfold handleVariant setConfig
      dsimp only
      split <;> rfl
  | setChannel channel =>
      unfold handleVariant setChannel
      dsimp only
      split
      · split <;> rfl
      · rfl
  | addContact contact =>
      unfold handleVariant addContact
      dsimp only
      split <;> rfl
  | getOwnerRequest _ => exact badge_sendAdminResponse ctx _ _ _ _
  | getChannelRequest _ => exact badge_sendAdminResponse ctx _ _ _ _
  | beginEditSettings _ => exact badge_sendAdminResponse ctx _ _ _ _
  | commitEditSettings _ => exact badge_sendAdminResponse ctx _ _ _ _
  | _ => rfl

theorem badge_dispatch (ctx : MeshCtx S) (requester reqPktId : UInt32) (adminBytes : Bytes)
    (viaLora : Bool) :
    (dispatch env ctx requester reqPktId adminBytes viaLora).badge = ctx.badge := by
  unfold dispatch
  split
  · rfl
  · split
    · split
      · exact badge_handleVariant ctx requester reqPktId viaLora _
      · rfl
    · rfl

end Admin

namespace FromRadio

theorem badge_handlePosition (ctx : MeshCtx S) (pkt : InboundPacket) :
    (handlePosition env ctx pkt).badge = ctx.badge := by
  unfold handlePosition
  split <;> simp

theorem badge_handleTelemetry (ctx : MeshCtx S) (pkt : InboundPacket) :
    (handleTelemetry env ctx pkt).badge = ctx.badge := by
  unfold handleTelemetry
  split <;> simp

theorem badge_handleNeighborInfo (ctx : MeshCtx S) (pkt : InboundPacket) :
    (handleNeighborInfo env ctx pkt).badge = ctx.badge := by
  unfold handleNeighborInfo
  split <;> simp

theorem badge_forwardInbound (ctx : MeshCtx S) (header : PacketHeader) (metadata : RadioMetadata)
    (decoded : DecodedPayload) (pkt : InboundPacket) :
    (forwardInbound ctx header metadata decoded pkt).badge = ctx.badge := by
  unfold forwardInbound forwardToBle
  split <;> simp

theorem badge_relayInbound (ctx : MeshCtx S) (frame : RadioFrame) (header : PacketHeader)
    (metadata : RadioMetadata) :
    (relayInbound env ctx frame header metadata).badge = ctx.badge := by
  unfold relayInbound
  repeat' split
  all_goals rfl

theorem badge_upgradeRebroadcast (ctx : MeshCtx S) (frame : RadioFrame) (header : PacketHeader)
    (newHop : UInt8) : (upgradeRebroadcast ctx frame header newHop).badge = ctx.badge := by
  unfold upgradeRebroadcast
  split <;> rfl

theorem badge_bufferText [MeshStorage S] (ctx : MeshCtx S) (frame : RadioFrame)
    (portnum : Int32) : (bufferText ctx frame portnum).badge = ctx.badge := by
  unfold bufferText
  split <;> rfl

end FromRadio

namespace FromApp

theorem badge_sendConfigExchange (ctx : MeshCtx S) (configId : UInt32) :
    (sendConfigExchange env ctx configId).badge = ctx.badge :=
  MeshCtx.badge_foldl badge_pushFromRadio _ ctx

theorem badge_sendNodeinfoExchange (ctx : MeshCtx S) (configId : UInt32) :
    (sendNodeinfoExchange env ctx configId).badge = ctx.badge := by
  unfold sendNodeinfoExchange replaySatelliteDb
  dsimp only
  rw [MeshCtx.badge_foldl badge_pushFromRadio, MeshCtx.badge_foldl badge_pushFromRadio]

theorem badge_replayFrame (ctx : MeshCtx S) (frame : RadioFrame) :
    (replayFrame env ctx frame).badge = ctx.badge := by
  unfold replayFrame
  split <;> simp

theorem badge_replayFrames [MeshStorage S] (remaining : Nat) (ctx : MeshCtx S) :
    (replayFrames env remaining ctx).badge = ctx.badge := by
  induction remaining generalizing ctx with
  | zero => rfl
  | succ remaining ih =>
      unfold replayFrames
      split
      · rw [ih, badge_replayFrame]
        rfl
      · rfl

end FromApp

end Handlers

end Meshtastenstein
