import Meshtastenstein.Lib.Queues
import Meshtastenstein.Runs
/-!
# BLE task

The advertising loop and the GATT event loop of both boards, and the firmware they make up
together with the mesh task and the channels in between.
-/

namespace Meshtastenstein

open Lib

/-! ## Connections -/

/-- The boards differ in what their BLE tasks do between connections. -/
inductive Board
  | esp32
  | nrf52

structure GattConnection where
  /-- The phone has subscribed to `from_num`. -/
  shouldNotify : Bool
  /-- The message in `from_radio_buf`, while `from_radio_has_data`. -/
  fromRadio : Option FromRadioMessage

inductive BlePhase
  | advertising
  | accepting
  | connected (conn : GattConnection)

inductive GattConnectionEvent
  | disconnected
  | pairingComplete (bond : Option Bytes)
  | bondLost
  | pairingFailed (peerRejected : Bool)
  | encrypted
  | subscribed (shouldNotify : Bool)
  | toRadioWrite (data : Bytes)
  | fromRadioRead

/-- A record of the connection during which each thing was queued, `none` when there was
none.  It is kept for the specification only: no step depends on it. -/
structure History where
  connection : Option Nat
  accepted : Nat
  /-- For every message in `ble_tx`. -/
  messages : List (Option Nat)
  /-- For the message in `from_radio_buf`. -/
  fromRadio : Option Nat
  /-- For every command in `disconn_cmd`. -/
  commands : List (Option Nat)

/-- The tasks of a board and the channels between them. -/
structure Firmware (S : Type) where
  mesh : MeshState S
  meshIn : List MeshEvent
  phase : BlePhase
  fromNum : UInt32
  history : History

namespace Firmware

variable {S : Type}

/-- After a reset the BLE task and the channels start over. -/
def start (mesh : MeshState S) : Firmware S where
  mesh := mesh
  meshIn := []
  phase := .advertising
  fromNum := 0
  history :=
    { connection := none
      accepted := 0
      messages := []
      fromRadio := none
      commands := [] }

/-! ## Channels -/

def withCtx (fw : Firmware S) (ctx : MeshCtx S) : Firmware S :=
  { fw with mesh := fw.mesh.withCtx ctx }

/-- `mesh_in.try_send(event)`. -/
def tryPost (fw : Firmware S) (event : MeshEvent) : Firmware S :=
  { fw with meshIn := Mailbox.trySend MESH_IN_QUEUE_SIZE fw.meshIn event }

/-- `mesh_in.send(event).await`. -/
def post (fw : Firmware S) (event : MeshEvent) : Firmware S :=
  { fw with meshIn := fw.meshIn ++ [event] }

/-- Record the connection of whatever has come into the queues. -/
def stamped (fw : Firmware S) : Firmware S :=
  { fw with history := { fw.history with
      messages := Session.restamp fw.history.connection fw.mesh.ctx.txToBle.length
        fw.history.messages
      commands := Session.restamp fw.history.connection fw.mesh.ctx.disconnCmd.length
        fw.history.commands } }

/-- `ble_tx.receive()`. -/
def takeMessage (fw : Firmware S) : Firmware S :=
  { fw.withCtx { fw.mesh.ctx with txToBle := fw.mesh.ctx.txToBle.tail } with
    history := { fw.history with messages := fw.history.messages.tail } }

/-- `ble_tx.try_receive()` until nothing is left. -/
def drain (fw : Firmware S) : Firmware S :=
  { fw.withCtx { fw.mesh.ctx with txToBle := [] } with
    history := { fw.history with messages := [] } }

/-- `disconn_cmd.try_send(())`. -/
def commandDisconnect (fw : Firmware S) : Firmware S :=
  stamped (fw.withCtx
    { fw.mesh.ctx with disconnCmd := fw.mesh.ctx.disconnCmd.pushOrDrop () })

/-- `disconn_cmd.receive()`. -/
def takeCommand (fw : Firmware S) : Firmware S :=
  { fw.withCtx { fw.mesh.ctx with disconnCmd := Bounded.empty } with
    history := { fw.history with commands := [] } }

/-! ## GATT event loop -/

def disconnect (fw : Firmware S) : Firmware S :=
  { fw.tryPost .bleDisconnected with
    phase := .advertising
    history := { fw.history with connection := none } }

/-- Answer a read of `from_radio`, which may take the next message from the queue. -/
def replyFromRadio (fw : Firmware S) (conn : GattConnection) : Firmware S :=
  match conn.fromRadio with
  | some _ => { fw with phase := .connected { conn with fromRadio := none } }
  | none =>
      match fw.mesh.ctx.txToBle with
      | msg :: _ => { fw.takeMessage with fromNum := msg.id }
      | [] => fw

def handleGatt (fw : Firmware S) (conn : GattConnection) : GattConnectionEvent → Firmware S
  | .disconnected => fw.disconnect
  | .pairingComplete (some bond) => fw.tryPost (.bondSave bond)
  | .pairingComplete none => fw
  | .bondLost => fw.tryPost .bondClear
  | .pairingFailed peerRejected => if peerRejected then fw.tryPost .bondClear else fw
  | .encrypted => fw.tryPost .bleConnected
  | .subscribed shouldNotify =>
      { fw with phase := .connected { conn with shouldNotify := shouldNotify } }
  | .toRadioWrite data =>
      fw.post (.bleRx (Bounded.ofListOrEmpty data : Bounded UInt8 512).toList)
  | .fromRadioRead => fw.replyFromRadio conn

/-- Put the next message into `from_radio_buf`, once the one before has been read. -/
def notifyFromNum (fw : Firmware S) (conn : GattConnection) : Firmware S :=
  if conn.shouldNotify && conn.fromRadio.isNone then
    match fw.mesh.ctx.txToBle with
    | msg :: _ =>
        { fw.takeMessage with
          phase := .connected { conn with fromRadio := some msg }
          fromNum := msg.id
          history :=
            { fw.takeMessage.history with fromRadio := fw.history.messages.headD none } }
    | [] => fw
  else fw

/-! ## Advertising loop -/

def advertised (board : Board) (fw : Firmware S) : Firmware S :=
  match board with
  | .esp32 => { fw.drain with phase := .accepting }
  | .nrf52 => { fw with phase := .accepting }

def connect (fw : Firmware S) : Firmware S :=
  { fw with
    phase := .connected { shouldNotify := false, fromRadio := none }
    history :=
      { fw.history with
        connection := some fw.history.accepted
        accepted := fw.history.accepted + 1 } }

/-- The host runner has failed: one board builds the stack anew, the other goes on
without it. -/
def hostFailed (board : Board) (fw : Firmware S) : Firmware S :=
  match board with
  | .esp32 => { fw.disconnect with fromNum := 0 }
  | .nrf52 => fw

/-! ## Steps -/

inductive Event
  /-- The boot delay of the mesh task passes. -/
  | announce
  /-- The mesh task takes an event from `mesh_in`. -/
  | receive
  | heartbeat
  | rebroadcastDue
  | retransmissionDue
  /-- The LoRa task takes a frame. -/
  | loraTaken
  | elapse (ms : Nat)
  | powerCycle
  /-- Another task puts an event into `mesh_in`. -/
  | posted (event : MeshEvent)
  /-- The watchdog asks for a disconnect. -/
  | watchdogDisconnect
  | advertised (ok : Bool)
  | accepted (ok : Bool)
  | gatt (event : GattConnectionEvent)
  /-- A message for the phone is ready in the GATT event loop. -/
  | txReady
  /-- So is a command to disconnect. -/
  | disconnCmd
  | hostFailed

variable [MeshStorage S] (env : Env)

def runMesh (fw : Firmware S) (event : MeshState.Event) : Firmware S :=
  if MeshState.restarts env fw.mesh event then start (MeshState.step env fw.mesh event)
  else stamped { fw with mesh := MeshState.step env fw.mesh event }

def receive (fw : Firmware S) : Firmware S :=
  match fw.meshIn with
  | event :: rest =>
      if fw.mesh.started then runMesh env { fw with meshIn := rest } (.mesh event) else fw
  | [] => fw

def step (board : Board) (fw : Firmware S) : Event → Firmware S
  | .announce => runMesh env fw .announce
  | .receive => receive env fw
  | .heartbeat => runMesh env fw (.mesh .tick)
  | .rebroadcastDue => runMesh env fw .rebroadcastDue
  | .retransmissionDue => runMesh env fw .retransmissionDue
  | .loraTaken => runMesh env fw .loraTaken
  | .elapse ms => runMesh env fw (.elapse ms)
  | .powerCycle => runMesh env fw .powerCycle
  | .posted event => fw.tryPost event
  | .watchdogDisconnect => fw.commandDisconnect
  | .advertised ok =>
      match fw.phase with
      | .advertising => if ok then fw.advertised board else fw
      | _ => fw
  | .accepted ok =>
      match fw.phase with
      | .accepting => if ok then fw.connect else { fw with phase := .advertising }
      | _ => fw
  | .gatt event =>
      match fw.phase with
      | .connected conn => fw.handleGatt conn event
      | _ => fw
  | .txReady =>
      match fw.phase with
      | .connected conn => fw.notifyFromNum conn
      | _ => fw
  | .disconnCmd =>
      match fw.phase with
      | .connected _ =>
          if fw.mesh.ctx.disconnCmd.toList.isEmpty then fw else fw.takeCommand.disconnect
      | _ => fw
  | .hostFailed => fw.hostFailed board

def boot (mac : Bytes) (storage : S) (pkcKeypair : Key × Key) (entropy : Nat → UInt32) :
    Firmware S :=
  start (MeshState.boot env mac storage pkcKeypair entropy)

/-! ## Steps of the mesh task -/

def meshEvent (fw : Firmware S) : Event → Option MeshState.Event
  | .announce => some .announce
  | .receive => if fw.mesh.started then fw.meshIn.head?.map .mesh else none
  | .heartbeat => some (.mesh .tick)
  | .rebroadcastDue => some .rebroadcastDue
  | .retransmissionDue => some .retransmissionDue
  | .loraTaken => some .loraTaken
  | .elapse ms => some (.elapse ms)
  | .powerCycle => some .powerCycle
  | _ => none

/-- What is left in `mesh_in` when the mesh task has taken its event. -/
def meshInLeft (fw : Firmware S) : Event → List MeshEvent
  | .receive => fw.meshIn.tail
  | _ => fw.meshIn

variable {env} {board : Board}

theorem step_of_meshEvent {fw : Firmware S} {event : Event} {work : MeshState.Event}
    (h : fw.meshEvent event = some work) :
    step env board fw event = runMesh env { fw with meshIn := fw.meshInLeft event } work := by
  cases event with
  | receive =>
      unfold meshEvent at h
      dsimp only at h
      split at h
      · rename_i hstarted
        obtain ⟨taken, htaken, rfl⟩ := Option.map_eq_some_iff.mp h
        obtain ⟨rest, hmeshIn⟩ := List.head?_eq_some_iff.mp htaken
        unfold step receive meshInLeft
        dsimp only
        rw [hmeshIn]
        dsimp only
        rw [if_pos hstarted]
        rfl
      · cases h
  | _ =>
      cases h
      try rfl

theorem mesh_runMesh (fw : Firmware S) (work : MeshState.Event) :
    (runMesh env fw work).mesh = MeshState.step env fw.mesh work := by
  unfold runMesh
  split <;> rfl

theorem mesh_step_of_meshEvent {fw : Firmware S} {event : Event} {work : MeshState.Event}
    (h : fw.meshEvent event = some work) :
    (step env board fw event).mesh = MeshState.step env fw.mesh work := by
  rw [step_of_meshEvent h, mesh_runMesh]

theorem receive_of_none {fw : Firmware S} (h : fw.meshEvent .receive = none) :
    receive env fw = fw := by
  unfold meshEvent at h
  dsimp only at h
  unfold receive
  split
  · rename_i taken rest hmeshIn
    split
    · rename_i hstarted
      rw [if_pos hstarted, hmeshIn] at h
      cases h
    · rfl
  · rfl

theorem step_gatt {fw : Firmware S} {conn : GattConnection} (hphase : fw.phase = .connected conn)
    (event : GattConnectionEvent) : step env board fw (.gatt event) = fw.handleGatt conn event := by
  unfold step
  dsimp only
  rw [hphase]

omit [MeshStorage S] in
theorem mesh_handleGatt (fw : Firmware S) (conn : GattConnection) (event : GattConnectionEvent) :
    ∃ txToBle, (fw.handleGatt conn event).mesh =
      fw.mesh.withCtx { fw.mesh.ctx with txToBle := txToBle } := by
  have hsame : ∃ txToBle, fw.mesh = fw.mesh.withCtx { fw.mesh.ctx with txToBle := txToBle } :=
    ⟨_, rfl⟩
  unfold handleGatt
  cases event with
  | pairingComplete bond => cases bond <;> exact hsame
  | pairingFailed peerRejected => cases peerRejected <;> exact hsame
  | fromRadioRead =>
      dsimp only
      unfold replyFromRadio
      split
      · exact hsame
      · split
        · exact ⟨_, rfl⟩
        · exact hsame
  | _ => exact hsame

omit [MeshStorage S] in
theorem mesh_notifyFromNum (fw : Firmware S) (conn : GattConnection) :
    ∃ txToBle, (fw.notifyFromNum conn).mesh =
      fw.mesh.withCtx { fw.mesh.ctx with txToBle := txToBle } := by
  unfold notifyFromNum
  split
  · split <;> exact ⟨_, rfl⟩
  · exact ⟨_, rfl⟩

/-- Any other event leaves the mesh task alone, but for the queues towards the phone. -/
theorem mesh_step_of_none {fw : Firmware S} {event : Event} (h : fw.meshEvent event = none) :
    ∃ txToBle disconnCmd, (step env board fw event).mesh =
      fw.mesh.withCtx { fw.mesh.ctx with txToBle := txToBle, disconnCmd := disconnCmd } := by
  have hsame : ∃ txToBle disconnCmd, fw.mesh =
      fw.mesh.withCtx { fw.mesh.ctx with txToBle := txToBle, disconnCmd := disconnCmd } :=
    ⟨_, _, rfl⟩
  unfold step
  cases event with
  | receive =>
      dsimp only
      rw [receive_of_none h]
      exact hsame
  | posted event => exact hsame
  | watchdogDisconnect => exact ⟨_, _, rfl⟩
  | advertised ok =>
      dsimp only
      split
      · split
        · cases board with
          | esp32 => exact ⟨_, _, rfl⟩
          | nrf52 => exact hsame
        · exact hsame
      · exact hsame
  | accepted ok =>
      dsimp only
      split
      · split <;> exact hsame
      · exact hsame
  | gatt event =>
      dsimp only
      split
      · rename_i conn _
        obtain ⟨txToBle, hmesh⟩ := mesh_handleGatt fw conn event
        exact ⟨txToBle, _, hmesh⟩
      · exact hsame
  | txReady =>
      dsimp only
      split
      · rename_i conn _
        obtain ⟨txToBle, hmesh⟩ := mesh_notifyFromNum fw conn
        exact ⟨txToBle, _, hmesh⟩
      · exact hsame
  | disconnCmd =>
      dsimp only
      split
      · split
        · exact hsame
        · exact ⟨_, _, rfl⟩
      · exact hsame
  | hostFailed => cases board <;> exact hsame
  | _ => cases h

end Firmware

end Meshtastenstein
