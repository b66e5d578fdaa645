import Mathlib.Logic.Relation
import Meshtastenstein.Effects
import Meshtastenstein.NodeDbEdits
/-!
# What ordinary work leaves alone

Sending, answering and talking to the phone leave most of the context alone: the settings
of the device, the router, the queued relays, the session of the administrator, and what
the node has on record.  Noting senders writes the node database, buffering writes the
storage; only administration, the duplicate history and the relaying of frames touch the
rest.
-/

namespace Meshtastenstein

open Lib Proto Handlers

def DeviceState.settings (device : DeviceState) : DeviceState :=
  { device with packetIdCounter := 0 }

theorem DeviceState.eq_of_settings_eq {d d' : DeviceState} (h : d.settings = d'.settings) :
    d' = { d with packetIdCounter := d'.packetIdCounter } := by
  cases d
  cases d'
  simp_all [DeviceState.settings]

/-- The part of a context that ordinary work leaves alone. -/
@[ext] structure Core where
  settings : DeviceState
  router : MeshRouter
  pendingRebroadcast : Bounded PendingRebroadcast 8
  sessionPasskey : Option SessionPasskey
  now : Nat

/-- What a node has on record: the other nodes, what it saved, whether a phone is there
and what it was asked to do next. -/
@[ext] structure Holdings (S : Type) where
  nodeDb : NodeDb
  storage : S
  bleConnected : Bool
  rebootAfterSecs : Option UInt32
  shutdownAfterSecs : Option UInt32

/-- The part of a context that sending leaves alone. -/
@[ext] structure Resident (S : Type) where
  core : Core
  holdings : Holdings S

namespace MeshCtx

variable {S : Type}

def core (ctx : MeshCtx S) : Core where
  settings := ctx.device.settings
  router := ctx.router
  pendingRebroadcast := ctx.pendingRebroadcast
  sessionPasskey := ctx.sessionPasskey
  now := ctx.now

def holdings (ctx : MeshCtx S) : Holdings S where
  nodeDb := ctx.nodeDb
  storage := ctx.storage
  bleConnected := ctx.bleConnected
  rebootAfterSecs := ctx.rebootAfterSecs
  shutdownAfterSecs := ctx.shutdownAfterSecs

def resident (ctx : MeshCtx S) : Resident S where
  core := ctx.core
  holdings := ctx.holdings

end MeshCtx

def Resident.edit {S : Type} (resident : Resident S) (f : NodeDb → NodeDb) : Resident S :=
  { resident with
    holdings := { resident.holdings with nodeDb := f resident.holdings.nodeDb } }

/-- The storage is replaced, nothing else changes. -/
def Resident.store {S : Type} (resident : Resident S) (storage : S) : Resident S :=
  { resident with holdings := { resident.holdings with storage := storage } }

@[simp] theorem Resident.core_edit {S : Type} (resident : Resident S) (f : NodeDb → NodeDb) :
    (resident.edit f).core = resident.core := rfl

namespace MeshCtx

variable {S : Type}

theorem core_of_resident {ctx ctx' : MeshCtx S} (h : ctx'.resident = ctx.resident) :
    ctx'.core = ctx.core := congrArg Resident.core h

theorem holdings_of_resident {ctx ctx' : MeshCtx S} (h : ctx'.resident = ctx.resident) :
    ctx'.holdings = ctx.holdings := congrArg Resident.holdings h

@[simp] theorem resident_takePacketId (ctx : MeshCtx S) :
    ctx.takePacketId.resident = ctx.resident := rfl

@[simp] theorem resident_takeRandom (ctx : MeshCtx S) :
    ctx.takeRandom.resident = ctx.resident := rfl

@[simp] theorem resident_takeFromRadioId (ctx : MeshCtx S) :
    ctx.takeFromRadioId.resident = ctx.resident := rfl

@[simp] theorem resident_sendLora (ctx : MeshCtx S) (frame : RadioFrame) :
    (ctx.sendLora frame).resident = ctx.resident := rfl

@[simp] theorem resident_sendBle (ctx : MeshCtx S) (msg : FromRadioMessage) :
    (ctx.sendBle msg).resident = ctx.resident := rfl

@[simp] theorem resident_trySendBle (ctx : MeshCtx S) (msg : FromRadioMessage) :
    (ctx.trySendBle msg).resident = ctx.resident := by
  rw [trySendBle_eq]
  rfl

@[simp] theorem resident_blink (ctx : MeshCtx S) (command : LedCommand) :
    (ctx.blink command).resident = ctx.resident := rfl

@[simp] theorem resident_modifyNodeDb (ctx : MeshCtx S) (f : NodeDb → NodeDb) :
    (ctx.modifyNodeDb f).resident = ctx.resident.edit f := rfl

theorem resident_foldl {β : Type} {f : MeshCtx S → β → MeshCtx S}
    (h : ∀ ctx item, (f ctx item).resident = ctx.resident) (items : List β)
    (ctx : MeshCtx S) : (items.foldl f ctx).resident = ctx.resident := by
  induction items generalizing ctx with
  | nil => rfl
  | cons item items ih =>
      rw [List.foldl_cons, ih, h]

end MeshCtx

namespace Handlers

variable {S : Type} {env : Env}

@[simp] theorem resident_originate (ctx : MeshCtx S) (tx : TxBuilder) :
    (originate env ctx tx).resident = ctx.resident := by
  unfold originate
  dsimp only
  split <;> simp

@[simp] theorem resident_loraSend (ctx : MeshCtx S) (portnum : PortNum) (payload : Bytes)
    (dest : UInt32) (wantResponse : Bool) :
    (loraSend env ctx portnum payload dest wantResponse).1.resident = ctx.resident := by
  unfold loraSend
  split
  · dsimp only
    split <;> simp
  · rfl

@[simp] theorem resident_sendNodeinfo (ctx : MeshCtx S) (dest : UInt32)
    (wantResponse : Bool) :
    (sendNodeinfo env ctx dest wantResponse).resident = ctx.resident :=
  resident_loraSend ctx .nodeinfoApp _ dest wantResponse

@[simp] theorem resident_pushFromRadio (ctx : MeshCtx S) (variant : FromRadio.Variant) :
    (pushFromRadio ctx variant).resident = ctx.resident := by
  unfold pushFromRadio
  simp

@[simp] theorem resident_sendBleRoutingResult (ctx : MeshCtx S) (dest requestId : UInt32)
    (error : RoutingError) :
    (sendBleRoutingResult env ctx dest requestId error).resident = ctx.resident := by
  unfold sendBleRoutingResult
  simp

@[simp] theorem resident_notifyBleNodeUpdate (ctx : MeshCtx S) (sender : UInt32) :
    (notifyBleNodeUpdate ctx sender).resident = ctx.resident := by
  unfold notifyBleNodeUpdate
  split <;> simp

@[simp] theorem resident_replaySatelliteDb (ctx : MeshCtx S) :
    (replaySatelliteDb env ctx).resident = ctx.resident :=
  MeshCtx.resident_foldl resident_pushFromRadio _ ctx

end Handlers

namespace Handlers.FromRadio

variable {S : Type} {env : Env}

@[simp] theorem resident_answerNodeinfo (ctx : MeshCtx S) (dest : UInt32)
    (wantResponse : Bool) :
    (answerNodeinfo env ctx dest wantResponse).resident = ctx.resident :=
  resident_sendNodeinfo ctx dest wantResponse

@[simp] theorem resident_acknowledge (ctx : MeshCtx S) (requestId : UInt32) :
    (acknowledge env ctx requestId).resident = ctx.resident := by
  unfold acknowledge
  split
  · rfl
  · dsimp only
    split
    · rw [resident_sendBleRoutingResult]
      rfl
    · rfl

@[simp] theorem resident_maybeRequestNodeinfo (ctx : MeshCtx S) (sender : UInt32)
    (hopStart hopLimit : UInt8) :
    (maybeRequestNodeinfo env ctx sender hopStart hopLimit).resident = ctx.resident := by
  unfold maybeRequestNodeinfo
  repeat' split
  all_goals simp

/-- Noting a sender touches its entry, whatever is sent on the way. -/
theorem resident_noteSender (ctx : MeshCtx S) (header : PacketHeader)
    (metadata : RadioMetadata) :
    (noteSender env ctx header metadata).resident =
      ctx.resident.edit (·.edited (noteEdits header metadata ctx.now)) := by
  have hnoted : ((ctx.blink .singleBlink).modifyNodeDb fun db =>
      (db.touch header.sender 0 (some metadata.snr) (ctx.blink .singleBlink).now).modify
        header.sender fun entry => { entry with hopsAway := hopsAway header }).resident =
      ctx.resident.edit (·.edited (noteEdits header metadata ctx.now)) := rfl
  unfold noteSender
  dsimp only
  split
  · split
    · rw [resident_maybeRequestNodeinfo, resident_notifyBleNodeUpdate, hnoted]
    · rw [resident_notifyBleNodeUpdate, hnoted]
  · split
    · rw [resident_maybeRequestNodeinfo, hnoted]
    · exact hnoted

@[simp] theorem core_noteSender (ctx : MeshCtx S) (header : PacketHeader)
    (metadata : RadioMetadata) :
    (noteSender env ctx header metadata).core = ctx.core :=
  congrArg Resident.core (resident_noteSender ctx header metadata)

@[simp] theorem resident_forwardInbound (ctx : MeshCtx S) (header : PacketHeader)
    (metadata : RadioMetadata) (decoded : DecodedPayload) (pkt : InboundPacket) :
    (forwardInbound ctx header metadata decoded pkt).resident = ctx.resident := by
  unfold forwardInbound forwardToBle
  split <;> simp

@[simp] theorem resident_ackInbound (ctx : MeshCtx S) (header : PacketHeader)
    (decoded : DecodedPayload) :
    (ackInbound env ctx header decoded).resident = ctx.resident := by
  unfold ackInbound sendRoutingAck
  split <;> simp

@[simp] theorem resident_answerUnknownPubkey (ctx : MeshCtx S) (header : PacketHeader) :
    (answerUnknownPubkey env ctx header).resident = ctx.resident := by
  unfold answerUnknownPubkey sendRoutingError
  dsimp only
  split <;> simp

@[simp] theorem resident_hearOwnPacket (ctx : MeshCtx S) (header : PacketHeader) :
    (hearOwnPacket ctx header).resident = ctx.resident := by
  unfold hearOwnPacket
  split <;> rfl

variable [MeshStorage S]

@[simp] theorem core_bufferText (ctx : MeshCtx S) (frame : RadioFrame)
    (portnum : Int32) : (bufferText ctx frame portnum).core = ctx.core := by
  unfold bufferText
  split <;> rfl

/-- All but administration leaves everything but the node database alone. -/
theorem resident_handlePortnum (ctx : MeshCtx S) {portnum : Int32} (pkt : InboundPacket)
    (h : portnum ≠ PortNum.adminApp.toI32) :
    (handlePortnum env ctx portnum pkt).resident =
      ctx.resident.edit (·.edited (portnumEdits env ctx portnum pkt)) := by
  unfold handlePortnum portnumEdits
  cases hport : PortNum.tryFrom portnum with
  | none => rfl
  | some port =>
      cases port with
      | positionApp =>
          dsimp only
          unfold handlePosition
          cases env.prost.position.decode pkt.payload with
          | none => rfl
          | some position => rw [resident_notifyBleNodeUpdate]; rfl
      | nodeinfoApp =>
          dsimp only
          unfold handleNodeInfo
          cases env.prost.user.decode pkt.payload with
          | none => rfl
          | some user =>
              dsimp only
              split
              · rw [resident_answerNodeinfo, resident_notifyBleNodeUpdate]
                rfl
              · rw [resident_notifyBleNodeUpdate]
                rfl
      | routingApp =>
          dsimp only
          unfold handleRouting
          cases env.prost.routing.decode pkt.payload with
          | none => rfl
          | some routing =>
              dsimp only
              split
              · rw [MeshCtx.resident_modifyNodeDb, resident_acknowledge]
                rfl
              · rfl
      | adminApp => exact absurd (PortNum.toI32_of_tryFrom hport).symm h
      | telemetryApp =>
          dsimp only
          unfold handleTelemetry
          cases env.prost.telemetry.decode pkt.payload with
          | none => rfl
          | some telemetry =>
              obtain ⟨time, variant⟩ := telemetry
              cases variant with
              | none => rfl
              | some variant => cases variant <;> rfl
      | tracerouteApp =>
          dsimp only
          unfold handleTraceroute
          dsimp only
          split
          · exact resident_originate ctx _
          · rfl
      | neighborinfoApp =>
          dsimp only
          unfold handleNeighborInfo
          cases env.prost.neighborInfo.decode pkt.payload with
          | none => rfl
          | some info =>
              dsimp only
              rw [MeshCtx.resident_modifyNodeDb]
              unfold NodeDb.edited
              simp only [List.foldl_map]
              rfl
      | _ => rfl

theorem core_handlePortnum (ctx : MeshCtx S) {portnum : Int32} (pkt : InboundPacket)
    (h : portnum ≠ PortNum.adminApp.toI32) :
    (handlePortnum env ctx portnum pkt).core = ctx.core :=
  congrArg Resident.core (resident_handlePortnum ctx pkt h)

end Handlers.FromRadio

namespace Handlers.FromApp

variable {S : Type} {env : Env}

/-! ### What a send for the phone is made of -/

inductive PhoneWork (env : Env) : MeshCtx S → MeshCtx S → Prop
  | drawId (ctx : MeshCtx S) : PhoneWork env ctx ctx.takePacketId
  | drawRandom (ctx : MeshCtx S) : PhoneWork env ctx ctx.takeRandom
  | track (ctx : MeshCtx S) (pending : PendingPackets) :
      PhoneWork env ctx { ctx with pendingPackets := pending }
  | queue (ctx : MeshCtx S) (frame : RadioFrame) : PhoneWork env ctx (ctx.sendLora frame)
  | report (ctx : MeshCtx S) (dest requestId : UInt32) (error : RoutingError) :
      PhoneWork env ctx (sendBleRoutingResult env ctx dest requestId error)

/-- What every piece relates, a whole series of them does. -/
theorem PhoneWork.closed {R : MeshCtx S → MeshCtx S → Prop} (hrefl : ∀ ctx, R ctx ctx)
    (htrans : ∀ {ctx ctx' ctx''}, R ctx ctx' → R ctx' ctx'' → R ctx ctx'')
    (hwork : ∀ {ctx ctx'}, PhoneWork env ctx ctx' → R ctx ctx') {before after : MeshCtx S}
    (h : Relation.ReflTransGen (PhoneWork env) before after) : R before after := by
  induction h with
  | refl => exact hrefl before
  | tail _ hlast ih => exact htrans ih (hwork hlast)

/-- A part of the context that no piece changes is the same in the end. -/
theorem PhoneWork.view_eq {α : Type} {view : MeshCtx S → α}
    (hwork : ∀ {ctx ctx'}, PhoneWork env ctx ctx' → view ctx' = view ctx)
    {before after : MeshCtx S} (h : Relation.ReflTransGen (PhoneWork env) before after) :
    view after = view before :=
  @PhoneWork.closed S env (fun ctx ctx' => view ctx' = view ctx) (fun _ => rfl)
    (fun h h' => h'.trans h) hwork before after h

theorem works_buildAndQueue (ctx : MeshCtx S) (pkt : MeshPacket) (data : Data)
    (packetId : UInt32) (pkcKeys : Option (Key × UInt32)) :
    Relation.ReflTransGen (PhoneWork env) ctx
      (buildAndQueue env ctx pkt data packetId pkcKeys) := by
  unfold buildAndQueue
  split
  · rename_i frame _
    have hqueued := Relation.ReflTransGen.single (@PhoneWork.queue S env ctx frame)
    unfold queuePhoneFrame
    split
    · split
      · rename_i pending _
        exact (Relation.ReflTransGen.single (.track ctx pending)).tail (.queue _ frame)
      · exact (Relation.ReflTransGen.single (.report ctx _ _ _)).tail (.queue _ frame)
    · exact hqueued.tail (.report _ _ _ _)
  · exact .refl

theorem works_sendPkc (ctx : MeshCtx S) (pkt : MeshPacket) (data : Data) (packetId : UInt32) :
    Relation.ReflTransGen (PhoneWork env) ctx (sendPkc env ctx pkt data packetId) := by
  unfold sendPkc
  split
  · exact .refl
  split
  · exact .refl
  split
  · exact .single (.report ctx _ _ _)
  split
  · exact .single (.report ctx _ _ _)
  · exact (Relation.ReflTransGen.single (.drawRandom ctx)).trans
      (works_buildAndQueue ctx.takeRandom pkt data packetId _)

theorem works_sendToMesh (ctx : MeshCtx S) (pkt : MeshPacket) (data : Data) :
    Relation.ReflTransGen (PhoneWork env) ctx (sendToMesh env ctx pkt data) := by
  have hid : Relation.ReflTransGen (PhoneWork env) ctx
      (if pkt.id ≠ 0 then ctx else ctx.takePacketId) := by
    split
    · exact .refl
    · exact .single (.drawId ctx)
  unfold sendToMesh
  dsimp only
  split
  · exact hid
  split
  · exact hid.trans (works_sendPkc _ pkt data _)
  · exact hid.trans (works_buildAndQueue _ pkt data _ none)

@[simp] theorem resident_sendToMesh (ctx : MeshCtx S) (pkt : MeshPacket) (data : Data) :
    (sendToMesh env ctx pkt data).resident = ctx.resident := by
  refine PhoneWork.view_eq (fun hwork => ?_) (@works_sendToMesh S env ctx pkt data)
  cases hwork with
  | report dest requestId error => exact resident_sendBleRoutingResult _ dest requestId error
  | _ => rfl

theorem resident_replayFrame (ctx : MeshCtx S) (frame : RadioFrame) :
    (replayFrame env ctx frame).resident = ctx.resident := by
  unfold replayFrame
  split <;> simp

variable [MeshStorage S]

/-- The storage after popping at most so many frames for a replay. -/
def drained : Nat → S → S
  | 0, storage => storage
  | remaining + 1, storage =>
      match MeshStorage.peek storage with
      | some (some _) => drained remaining (MeshStorage.pop storage)
      | _ => storage

theorem resident_replayFrames (remaining : Nat) (ctx : MeshCtx S) :
    (replayFrames env remaining ctx).resident =
      ctx.resident.store (drained remaining ctx.storage) := by
  induction remaining generalizing ctx with
  | zero => rfl
  | succ remaining ih =>
      unfold replayFrames drained
      rcases MeshStorage.peek ctx.storage with _ | _ | frame
      · rfl
      · rfl
      · dsimp only
        have hreplayed :=
          @resident_replayFrame S env { ctx with storage := MeshStorage.pop ctx.storage } frame
        rw [ih, hreplayed, show (replayFrame env _ frame).storage = MeshStorage.pop ctx.storage from
          congrArg (fun resident => resident.holdings.storage) hreplayed]
        rfl

theorem core_replayStoredFrames (ctx : MeshCtx S) :
    (replayStoredFrames env ctx).core = ctx.core :=
  congrArg Resident.core (resident_replayFrames _ ctx)

omit [MeshStorage S] in
theorem resident_sendConfigExchange (ctx : MeshCtx S) (configId : UInt32) :
    (sendConfigExchange env ctx configId).resident = ctx.resident :=
  MeshCtx.resident_foldl resident_pushFromRadio _ ctx

omit [MeshStorage S] in
theorem resident_sendNodeinfoExchange (ctx : MeshCtx S) (configId : UInt32) :
    (sendNodeinfoExchange env ctx configId).resident = ctx.resident := by
  unfold sendNodeinfoExchange
  rw [resident_replaySatelliteDb]
  exact MeshCtx.resident_foldl resident_pushFromRadio _ ctx

end Handlers.FromApp

namespace Handlers.Periodic

variable {S : Type} {env : Env}

@[simp] theorem resident_broadcastNodeinfo (ctx : MeshCtx S) :
    (broadcastNodeinfo env ctx).resident = ctx.resident := by
  unfold broadcastNodeinfo
  dsimp only
  split
  · exact resident_loraSend ctx _ _ _ _
  · exact resident_loraSend ctx _ _ _ _

@[simp] theorem resident_broadcastPosition (ctx : MeshCtx S) :
    (broadcastPosition env ctx).resident = ctx.resident := by
  unfold broadcastPosition
  split
  · rfl
  · dsimp only
    split
    · exact resident_loraSend ctx _ _ _ _
    · exact resident_loraSend ctx _ _ _ _

@[simp] theorem resident_broadcastNeighborinfo (ctx : MeshCtx S) :
    (broadcastNeighborinfo env ctx).resident = ctx.resident := by
  unfold broadcastNeighborinfo
  split
  · rfl
  · exact resident_loraSend ctx _ _ _ _

theorem resident_sendDeviceTelemetry (ctx : MeshCtx S) (batteryLevel : UInt8)
    (voltageMv : UInt16) :
    (sendDeviceTelemetry env ctx batteryLevel voltageMv).resident = ctx.resident := by
  have hbroadcast : ∀ payload,
      (broadcastTelemetry env ctx payload).resident = ctx.resident := by
    intro payload
    unfold broadcastTelemetry
    dsimp only
    split
    · split
      · exact resident_loraSend ctx _ _ _ _
      · exact resident_loraSend ctx _ _ _ _
    · rfl
  unfold sendDeviceTelemetry forwardTelemetry
  dsimp only
  split
  · rw [resident_pushFromRadio, MeshCtx.resident_takePacketId, hbroadcast]
  · exact hbroadcast _

theorem resident_dispatch (ctx : MeshCtx S) :
    (dispatch env ctx).resident = ctx.resident := by
  have hnodeinfo : ∀ ctx : MeshCtx S, (tickNodeinfo env ctx).resident = ctx.resident := by
    intro ctx
    unfold tickNodeinfo
    dsimp only
    split <;> simp
  have hneighbors : ∀ ctx : MeshCtx S,
      (tickNeighborinfo env ctx).resident = ctx.resident := by
    intro ctx
    unfold tickNeighborinfo
    dsimp only
    split <;> simp
  have hposition : ∀ ctx : MeshCtx S, (tickPosition env ctx).resident = ctx.resident := by
    intro ctx
    unfold tickPosition
    dsimp only
    split <;> simp
  unfold dispatch
  split
  · rw [hposition, hneighbors, hnodeinfo]
  · rfl

end Handlers.Periodic

theorem MeshState.resident_fireRetransmissions (ctx : MeshCtx S) :
    (MeshState.fireRetransmissions env ctx).resident = ctx.resident.edit
      (fun db => db.edited (MeshRouter.tickEdits ctx.now ctx.pendingPackets)) := by
  have hreported : ∀ (ctx : MeshCtx S) (report : UInt32 × UInt32),
      (sendBleRoutingResult env ctx report.1 report.2 .maxRetransmit).resident = ctx.resident :=
    fun ctx report => resident_sendBleRoutingResult ctx report.1 report.2 .maxRetransmit
  unfold MeshState.fireRetransmissions
  dsimp only
  rw [MeshCtx.resident_foldl hreported _ _,
    MeshCtx.resident_foldl MeshCtx.resident_sendLora _ _,
    MeshRouter.nodeDb_tickRetransmissions]
  rfl

end Meshtastenstein
