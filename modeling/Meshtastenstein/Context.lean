import Meshtastenstein.Storage
import Meshtastenstein.Tx
/-!
# Mesh context

Everything a handler reads and changes: the node's state, the queues to the other
tasks, the clock and the entropy still to be drawn.  A blocking send hands its
message over even when the queue is full, so a queue longer than its capacity stands
for a sender that waits; a `try_send` drops the message instead.
-/

namespace Meshtastenstein

open Lib Proto

/-! ## Messages between tasks -/

structure RadioMetadata where
  rssi : Int16
  snr : Int8

inductive LedCommand
  | singleBlink
  | doubleBlink
  | heartbeat

structure FromRadioMessage where
  variant : FromRadio.Variant
  id : UInt32

/-- The bytes of a queued message: its encoding, or nothing when that does not fit. -/
def encodeFromRadio (env : Env) (msg : FromRadioMessage) : Bounded UInt8 512 :=
  Bounded.ofListOrEmpty
    (env.prost.fromRadio.encode { id := msg.id, payloadVariant := some msg.variant })

/-! ## Airtime and sessions -/

structure ChannelMetrics where
  channelUtil : ℚ
  airUtilTx : ℚ

namespace ChannelMetrics

def isTxAllowedChannelUtil (metrics : ChannelMetrics) (polite : Bool) : Bool :=
  decide (metrics.channelUtil <
    if polite then POLITE_CHANNEL_UTIL_PCT else MAX_CHANNEL_UTIL_PCT)

def isTxAllowedAirUtil (metrics : ChannelMetrics) (region : Region) (polite : Bool) :
    Bool :=
  decide (metrics.airUtilTx <
    if polite then region.dutyCyclePct * POLITE_DUTY_CYCLE_FRACTION
    else region.dutyCyclePct)

def txAllowedPolite (metrics : ChannelMetrics) (region : Region) : Bool :=
  metrics.isTxAllowedChannelUtil true && metrics.isTxAllowedAirUtil region true

def txAllowedImpolite (metrics : ChannelMetrics) (region : Region) : Bool :=
  metrics.isTxAllowedChannelUtil false && metrics.isTxAllowedAirUtil region false

end ChannelMetrics

structure SessionPasskey where
  /-- Eight bytes. -/
  key : Bytes
  issuedAt : Nat
deriving DecidableEq

namespace SessionPasskey

def EXPIRY_MS : Nat := 300000

def REFRESH_MS : Nat := 150000

def isExpired (session : SessionPasskey) (now : Nat) : Bool :=
  decide (EXPIRY_MS ≤ now - session.issuedAt)

def needsRefresh (session : SessionPasskey) (now : Nat) : Bool :=
  decide (REFRESH_MS ≤ now - session.issuedAt)

end SessionPasskey

/-! ## Context -/

structure MeshCtx (S : Type) where
  device : DeviceState
  nodeDb : NodeDb
  storage : S
  router : MeshRouter
  pendingPackets : PendingPackets
  pendingRebroadcast : Bounded PendingRebroadcast 8
  myPositionBytes : Bounded UInt8 64
  sessionPasskey : Option SessionPasskey
  fromRadioId : UInt32
  bleConnected : Bool
  lastNodeinfoTx : Option Nat
  lastPositionTx : Nat
  lastLoraTelemetry : Option Nat
  lastNeighborinfoTx : Option Nat
  channelMetrics : ChannelMetrics
  rebootAfterSecs : Option UInt32
  shutdownAfterSecs : Option UInt32
  nodeIdStr : Text
  bootTime : Nat
  pkcPubBytes : Key
  pkcPrivBytes : Key
  txToBle : List FromRadioMessage
  txToLora : List RadioFrame
  ledCommands : Bounded LedCommand 5
  disconnCmd : Bounded Unit 1
  /-- The random numbers still to be drawn. -/
  entropy : Nat → UInt32
  txEnabled : Bool
  /-- `Instant::now()` in milliseconds. -/
  now : Nat

namespace MeshCtx

variable {S : Type}

def takePacketId (ctx : MeshCtx S) : MeshCtx S :=
  { ctx with device := ctx.device.takePacketId }

def randomU32 (ctx : MeshCtx S) : UInt32 := ctx.entropy 0

def takeRandom (ctx : MeshCtx S) : MeshCtx S :=
  { ctx with entropy := fun n => ctx.entropy (n + 1) }

/-- `tx_to_lora.send(frame).await`. -/
def sendLora (ctx : MeshCtx S) (frame : RadioFrame) : MeshCtx S :=
  { ctx with txToLora := ctx.txToLora ++ [frame] }

/-- `tx_to_ble.try_send(msg)`, the message dropped when the queue is full. -/
def trySendBle (ctx : MeshCtx S) (msg : FromRadioMessage) : MeshCtx S :=
  if ctx.txToBle.length < BLE_TX_QUEUE_SIZE then
    { ctx with txToBle := ctx.txToBle ++ [msg] }
  else ctx

/-- `tx_to_ble.send(msg).await`. -/
def sendBle (ctx : MeshCtx S) (msg : FromRadioMessage) : MeshCtx S :=
  { ctx with txToBle := ctx.txToBle ++ [msg] }

def blink (ctx : MeshCtx S) (command : LedCommand) : MeshCtx S :=
  { ctx with ledCommands := ctx.ledCommands.pushOrDrop command }

def takeFromRadioId (ctx : MeshCtx S) : MeshCtx S :=
  { ctx with fromRadioId := max (ctx.fromRadioId + 1) 1 }

def modifyNodeDb (ctx : MeshCtx S) (f : NodeDb → NodeDb) : MeshCtx S :=
  { ctx with nodeDb := f ctx.nodeDb }

/-- A `try_send` changes the queue to the phone and nothing else. -/
theorem trySendBle_eq (ctx : MeshCtx S) (msg : FromRadioMessage) :
    ctx.trySendBle msg =
      { ctx with
        txToBle := if ctx.txToBle.length < BLE_TX_QUEUE_SIZE then ctx.txToBle ++ [msg]
          else ctx.txToBle } := by
  unfold trySendBle
  split <;> rfl

end MeshCtx

end Meshtastenstein
