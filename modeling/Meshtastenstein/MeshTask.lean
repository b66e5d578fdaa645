import Meshtastenstein.Handlers.FromApp
import Meshtastenstein.Handlers.FromRadio
import Meshtastenstein.Handlers.Periodic
import Meshtastenstein.Lib.Transition
/-!
# Mesh orchestrator

The event loop of the mesh task as a step function: events of the other tasks, the
retransmission and rebroadcast timers, the heartbeat, the passing of time and
reboots.
-/

namespace Meshtastenstein

open Lib Proto Handlers

variable {S : Type} [MeshStorage S] (env : Env)

/-! ## Events -/

/-- What the other tasks put into `mesh_in`. -/
inductive MeshEvent
  | loraRx (frame : RadioFrame) (metadata : RadioMetadata)
  | bleRx (data : Bytes)
  | bleConnected
  | bleDisconnected
  | bondSave (bytes : Bytes)
  | bondClear
  | batteryUpdate (level : UInt8) (voltageMv : UInt16)
  | channelUtilUpdate (channelUtil airUtilTx : ℚ)
  | tick

def Handlers.dispatch (ctx : MeshCtx S) : MeshEvent → MeshCtx S
  | .loraRx frame metadata => FromRadio.dispatch env ctx frame metadata
  | .bleRx data => FromApp.dispatch env ctx data
  | .bleConnected => { ctx with bleConnected := true }
  | .bleDisconnected => { ctx with bleConnected := false }
  | .bondSave bytes => { ctx with storage := MeshStorage.saveBond ctx.storage bytes }
  | .bondClear => { ctx with storage := MeshStorage.clearBond ctx.storage }
  | .batteryUpdate level voltageMv => Periodic.sendDeviceTelemetry env ctx level voltageMv
  | .channelUtilUpdate channelUtil airUtilTx =>
      { ctx with channelMetrics := { channelUtil := channelUtil, airUtilTx := airUtilTx } }
  | .tick => Periodic.dispatch env ctx

/-! ## State -/

structure MeshState (S : Type) where
  ctx : MeshCtx S
  lastNodeDbFlush : Nat
  /-- The boot delay has passed and the loop takes events. -/
  started : Bool
  /-- The last shutdown request handed to the watchdog. -/
  shutdownCmd : Option UInt32

namespace MeshState

def NODE_DB_FLUSH_INTERVAL_MS : Nat := 300000

def bootCtx (mac : Bytes) (storage : S) (pkcKeypair : Key × Key) (entropy : Nat → UInt32) :
    MeshCtx S :=
  let device := loadState env storage (DeviceState.new mac)
  { device := device
    nodeDb := MeshStorage.loadNodeDb storage (NodeDb.new device.myNodeNum)
    storage := storage
    router := MeshRouter.new device.myNodeNum
    pendingPackets := Bounded.empty
    pendingRebroadcast := Bounded.empty
    myPositionBytes := Bounded.empty
    sessionPasskey := none
    fromRadioId := 1
    bleConnected := false
    lastNodeinfoTx := none
    lastPositionTx := 0
    lastLoraTelemetry := none
    lastNeighborinfoTx := none
    channelMetrics := { channelUtil := 0, airUtilTx := 0 }
    rebootAfterSecs := none
    shutdownAfterSecs := none
    nodeIdStr := buildNodeIdString device.myNodeNum
    bootTime := 0
    pkcPubBytes := pkcKeypair.2
    pkcPrivBytes := pkcKeypair.1
    txToBle := []
    txToLora := []
    ledCommands := Bounded.empty
    disconnCmd := Bounded.empty
    entropy := entropy
    txEnabled := device.txEnabled
    now := 0 }

def boot (mac : Bytes) (storage : S) (pkcKeypair : Key × Key) (entropy : Nat → UInt32) :
    MeshState S where
  ctx := bootCtx env mac storage pkcKeypair entropy
  lastNodeDbFlush := 0
  started := false
  shutdownCmd := none

/-- The state after a reset: what storage holds survives, the rest starts over. -/
def reboot (state : MeshState S) : MeshState S :=
  boot env state.ctx.device.mac (MeshStorage.reopen state.ctx.storage)
    (state.ctx.pkcPrivBytes, state.ctx.pkcPubBytes) state.ctx.entropy

def withCtx (state : MeshState S) (ctx : MeshCtx S) : MeshState S :=
  { state with ctx := ctx }

/-! ## After a dispatch -/

/-- Save the node database; a failed write leaves it dirty. -/
def saveNodeDb (ctx : MeshCtx S) : MeshCtx S :=
  let (storage, ok) := MeshStorage.saveNodeDb ctx.storage ctx.nodeDb
  { ctx with
    storage := storage
    nodeDb := if ok then ctx.nodeDb.markClean else ctx.nodeDb }

def flushNodeDb (state : MeshState S) : MeshState S :=
  if state.ctx.nodeDb.dirty ∧
      NODE_DB_FLUSH_INTERVAL_MS ≤ state.ctx.now - state.lastNodeDbFlush then
    { state with ctx := saveNodeDb state.ctx, lastNodeDbFlush := state.ctx.now }
  else state

/-- Hand a requested shutdown to the watchdog after a last flush. -/
def handleShutdown (state : MeshState S) : MeshState S :=
  match state.ctx.shutdownAfterSecs with
  | some secs =>
      let ctx := { state.ctx with shutdownAfterSecs := none }
      { state with
        ctx := if ctx.nodeDb.dirty then saveNodeDb ctx else ctx
        shutdownCmd := some secs }
  | none => state

def handleReboot (state : MeshState S) : MeshState S :=
  match state.ctx.rebootAfterSecs with
  | some _ => reboot env state
  | none => state

/-! ## Steps -/

inductive Event
  /-- The boot delay passes. -/
  | announce
  /-- The loop takes an event from `mesh_in`, or the heartbeat fires. -/
  | mesh (event : MeshEvent)
  | rebroadcastDue
  | retransmissionDue
  /-- Another task takes a message from its queue. -/
  | bleTaken
  | loraTaken
  | elapse (ms : Nat)
  | powerCycle

def announce (state : MeshState S) : MeshState S :=
  { state with ctx := Periodic.broadcastNodeinfo env state.ctx, started := true }

/-- A received frame keeps the pending packets waiting a little longer. -/
def noteActivity (ctx : MeshCtx S) : MeshEvent → MeshCtx S
  | .loraRx _ _ =>
      { ctx with pendingPackets :=
          MeshRouter.extendPendingDeadlines ctx.pendingPackets RETX_AIRTIME_EXTENSION_MS }
  | .tick => ctx.blink .heartbeat
  | _ => ctx

def handleEvent (state : MeshState S) (event : MeshEvent) : MeshState S :=
  let ctx := Handlers.dispatch env (noteActivity state.ctx event) event
  handleReboot env (handleShutdown (flushNodeDb (state.withCtx ctx)))

def fireRebroadcast (ctx : MeshCtx S) : MeshCtx S :=
  match FromRadio.earliestDue ctx.pendingRebroadcast.toList with
  | none => ctx
  | some idx =>
      match ctx.pendingRebroadcast.toList[idx]? with
      | some pending =>
          if pending.deadline ≤ ctx.now then
            { ctx with pendingRebroadcast := ctx.pendingRebroadcast.swapRemove idx }.sendLora
              pending.frame
          else ctx
      | none => ctx

def fireRetransmissions (ctx : MeshCtx S) : MeshCtx S :=
  let result := MeshRouter.tickRetransmissions ctx.now ctx.pendingPackets ctx.nodeDb
  let ctx := { ctx with pendingPackets := result.pending, nodeDb := result.nodeDb }
  let ctx := result.toSend.foldl MeshCtx.sendLora ctx
  result.gaveUp.foldl
    (fun ctx report => sendBleRoutingResult env ctx report.1 report.2 .maxRetransmit) ctx

def step (state : MeshState S) : Event → MeshState S
  | .announce => if state.started then state else announce env state
  | .mesh event => if state.started then handleEvent env state event else state
  | .rebroadcastDue =>
      if state.started then state.withCtx (fireRebroadcast state.ctx) else state
  | .retransmissionDue =>
      if state.started then state.withCtx (fireRetransmissions env state.ctx) else state
  | .bleTaken => state.withCtx { state.ctx with txToBle := state.ctx.txToBle.tail }
  | .loraTaken => state.withCtx { state.ctx with txToLora := state.ctx.txToLora.tail }
  | .elapse ms => state.withCtx { state.ctx with now := state.ctx.now + ms }
  | .powerCycle => reboot env state

def after (mac : Bytes) (storage : S) (pkcKeypair : Key × Key) (entropy : Nat → UInt32)
    (events : List Event) : MeshState S :=
  Transition.run (step env) (boot env mac storage pkcKeypair entropy) events

end MeshState

end Meshtastenstein
