import Meshtastenstein.Handlers.Util
/-!
# Periodic broadcasts

Node information, position, neighbors and telemetry, each on its own interval and
only while the airtime budget allows.
-/

namespace Meshtastenstein.Handlers.Periodic

open Lib Proto

variable {S : Type} (env : Env)

/-! ## Intervals -/

/-- The nodes heard within the last two hours. -/
def onlineCount (ctx : MeshCtx S) : Nat := ctx.nodeDb.onlineCount ctx.now 7200000

/-- An interval for a role: suppressed, fixed, or stretched past forty online nodes. -/
def roleScaledIntervalMs (role : DeviceRole) (baseMs online : Nat) : Nat :=
  match role with
  | .repeater | .clientHidden => 0
  | .router | .routerClient => ROUTER_BROADCAST_INTERVAL_MS
  | _ => if online ≤ 40 then baseMs else env.congestedIntervalMs baseMs online

def nodeinfoIntervalMs (ctx : MeshCtx S) : Nat :=
  roleScaledIntervalMs env ctx.device.role NODEINFO_BROADCAST_INTERVAL_MS (onlineCount ctx)

def positionIntervalMs (ctx : MeshCtx S) : Nat :=
  roleScaledIntervalMs env ctx.device.role POSITION_BROADCAST_INTERVAL_MS (onlineCount ctx)

def telemetryIntervalMs (ctx : MeshCtx S) : Nat :=
  roleScaledIntervalMs env ctx.device.role TELEMETRY_LORA_INTERVAL_MS (onlineCount ctx)

/-! ## Broadcasts -/

def broadcastNodeinfo (ctx : MeshCtx S) : MeshCtx S :=
  let payload := nodeInfoPayload env ctx.device ctx.nodeIdStr ctx.pkcPubBytes
  let (sent, ok) := loraSend env ctx .nodeinfoApp payload BROADCAST_ADDR false
  if ok then { sent with lastNodeinfoTx := some ctx.now } else sent

def broadcastPosition (ctx : MeshCtx S) : MeshCtx S :=
  if ctx.myPositionBytes.toList.isEmpty then ctx
  else
    let (sent, ok) := loraSend env ctx .positionApp ctx.myPositionBytes.toList
      BROADCAST_ADDR false
    if ok then { sent with lastPositionTx := ctx.now } else sent

def neighbors (ctx : MeshCtx S) : List Neighbor :=
  (ctx.nodeDb.nodes.toList.filter (·.nodeNum != ctx.device.myNodeNum)).map fun entry =>
    { nodeId := entry.nodeNum
      snr := snrOrZero entry.snr
      lastRxTime := entry.lastHeard
      nodeBroadcastIntervalSecs := UInt32.ofNat (NODEINFO_BROADCAST_INTERVAL_MS / 1000) }

def broadcastNeighborinfo (ctx : MeshCtx S) : MeshCtx S :=
  if (neighbors ctx).isEmpty then { ctx with lastNeighborinfoTx := some ctx.now }
  else
    let payload := env.prost.neighborInfo.encode
      { nodeId := ctx.device.myNodeNum
        lastSentById := ctx.device.myNodeNum
        nodeBroadcastIntervalSecs :=
          UInt32.ofNat (NEIGHBORINFO_BROADCAST_INTERVAL_MS / 1000)
        neighbors := neighbors ctx }
    let sent := (loraSend env ctx .neighborinfoApp payload BROADCAST_ADDR false).1
    { sent with lastNeighborinfoTx := some ctx.now }

/-! ## Telemetry -/

def telemetryPayload (ctx : MeshCtx S) (batteryLevel : UInt8) (voltageMv : UInt16) : Bytes :=
  env.prost.telemetry.encode
    { time := 0
      variant := some (.deviceMetrics
        { batteryLevel := some batteryLevel.toUInt32
          voltage := some (env.volts voltageMv)
          channelUtilization := some ctx.channelMetrics.channelUtil
          airUtilTx := some ctx.channelMetrics.airUtilTx
          uptimeSeconds := some (UInt32.ofNat ((ctx.now - ctx.bootTime) / 1000)) }) }

/-- Whether `intervalMs` has passed since an event; an event that never happened is
due. -/
def isDue (ctx : MeshCtx S) (last : Option Nat) (intervalMs : Nat) : Bool :=
  match last with
  | some t => decide (intervalMs ≤ ctx.now - t)
  | none => true

def broadcastTelemetry (ctx : MeshCtx S) (payload : Bytes) : MeshCtx S :=
  let interval := telemetryIntervalMs env ctx
  if 0 < interval ∧ ctx.channelMetrics.channelUtil < CHANNEL_UTIL_THRESHOLD ∧
      isDue ctx ctx.lastLoraTelemetry interval then
    let (sent, ok) := loraSend env ctx .telemetryApp payload BROADCAST_ADDR false
    if ok then { sent with lastLoraTelemetry := some ctx.now } else sent
  else ctx

def forwardTelemetry (ctx : MeshCtx S) (payload : Bytes) : MeshCtx S :=
  if ctx.bleConnected then
    pushFromRadio ctx.takePacketId (.packet
      { fromNode := ctx.device.myNodeNum
        toNode := BROADCAST_ADDR
        id := ctx.device.nextPacketId
        payloadVariant := some (.decoded
          { portnum := PortNum.telemetryApp.toI32, payload := payload }) })
  else ctx

def sendDeviceTelemetry (ctx : MeshCtx S) (batteryLevel : UInt8) (voltageMv : UInt16) :
    MeshCtx S :=
  let payload := telemetryPayload env ctx batteryLevel voltageMv
  forwardTelemetry (broadcastTelemetry env ctx payload) payload

/-! ## Tick -/

def tickNodeinfo (ctx : MeshCtx S) : MeshCtx S :=
  let interval := nodeinfoIntervalMs env ctx
  if 0 < interval ∧ interval ≤ ctx.now - ctx.lastNodeinfoTx.getD 0 then
    broadcastNodeinfo env ctx
  else ctx

def tickNeighborinfo (ctx : MeshCtx S) : MeshCtx S :=
  let last := ctx.lastNeighborinfoTx.getD ctx.bootTime
  if NEIGHBORINFO_BROADCAST_INTERVAL_MS ≤ ctx.now - last then broadcastNeighborinfo env ctx
  else ctx

def tickPosition (ctx : MeshCtx S) : MeshCtx S :=
  let interval := positionIntervalMs env ctx
  if 0 < interval ∧ interval ≤ ctx.now - ctx.lastPositionTx then broadcastPosition env ctx
  else ctx

/-- The broadcasts that are due, unless the channel is too busy for them. -/
def dispatch (ctx : MeshCtx S) : MeshCtx S :=
  if ctx.channelMetrics.txAllowedPolite (region env ctx) then
    tickPosition env (tickNeighborinfo env (tickNodeinfo env ctx))
  else ctx

end Meshtastenstein.Handlers.Periodic
