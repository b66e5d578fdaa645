import Meshtastenstein.BleTask
import Meshtastenstein.ConfigExchange
import Meshtastenstein.Outcomes
/-!
# BLE sessions

A connection is served what was queued for it, and ended by commands that were issued
during it, as long as it finds both queues empty when it is accepted.
-/

namespace Meshtastenstein.Firmware

open Lib

variable {S : Type}

/-! ## Isolation -/

def served (fw : Firmware S) : Event → Option (Option Nat × FromRadioMessage)
  | .gatt .fromRadioRead =>
      match fw.phase with
      | .connected conn =>
          match conn.fromRadio with
          | some msg => some (fw.history.fromRadio, msg)
          | none => fw.mesh.ctx.txToBle.head?.map fun msg =>
              (fw.history.messages.headD none, msg)
      | _ => none
  | _ => none

def endedBy (fw : Firmware S) : Event → Option (Option Nat)
  | .disconnCmd =>
      match fw.phase with
      | .connected _ => fw.mesh.ctx.disconnCmd.toList.head?.map fun _ =>
          fw.history.commands.headD none
      | _ => none
  | _ => none

structure Isolated (fw : Firmware S) (event : Event) : Prop where
  served : ∀ stamp msg, served fw event = some (stamp, msg) →
    fw.history.connection ≠ none ∧ stamp = fw.history.connection
  endedBy : ∀ stamp, endedBy fw event = some stamp →
    fw.history.connection ≠ none ∧ stamp = fw.history.connection

/-- A connection is accepted only while nothing waits for one. -/
def AcceptsClean (fw : Firmware S) : Event → Prop
  | .accepted true =>
      match fw.phase with
      | .accepting => fw.mesh.ctx.txToBle = [] ∧ fw.mesh.ctx.disconnCmd.toList = []
      | _ => True
  | _ => True

/-! ## Invariants -/

structure Recorded (fw : Firmware S) : Prop where
  messages : fw.history.messages.length = fw.mesh.ctx.txToBle.length
  commands : fw.history.commands.length = fw.mesh.ctx.disconnCmd.toList.length
  connection : ∀ conn, fw.phase = .connected conn → fw.history.connection ≠ none

/-- What waits during a connection was queued during it. -/
structure Separate (fw : Firmware S) : Prop where
  messages : Session.Owned fw.history.connection fw.history.messages
  commands : Session.Owned fw.history.connection fw.history.commands
  fromRadio : ∀ conn, fw.phase = .connected conn → conn.fromRadio ≠ none →
    fw.history.fromRadio = fw.history.connection

theorem isolated_of_separate {fw : Firmware S} (hrecorded : Recorded fw)
    (hseparate : Separate fw) (event : Event) : Isolated fw event := by
  refine ⟨?_, ?_⟩
  · intro stamp msg hserved
    unfold Firmware.served at hserved
    split at hserved
    · split at hserved
      · rename_i conn hphase
        have hopen := hrecorded.connection conn hphase
        refine ⟨hopen, ?_⟩
        split at hserved
        · rename_i hheld
          cases hserved
          exact hseparate.fromRadio conn hphase (by rw [hheld]; exact Option.some_ne_none msg)
        · obtain ⟨next, hnext, hpair⟩ := Option.map_eq_some_iff.mp hserved
          cases hpair
          exact hseparate.messages.head hopen hrecorded.messages hnext
      · cases hserved
    · cases hserved
  · intro stamp hended
    unfold Firmware.endedBy at hended
    split at hended
    · split at hended
      · rename_i conn hphase
        have hopen := hrecorded.connection conn hphase
        refine ⟨hopen, ?_⟩
        obtain ⟨command, hcommand, hstamp⟩ := Option.map_eq_some_iff.mp hended
        rw [← hstamp]
        exact hseparate.commands.head hopen hrecorded.commands hcommand
      · cases hended
    · cases hended

/-! ## Channels -/

theorem recorded_start (mesh : MeshState S) (hmessages : mesh.ctx.txToBle = [])
    (hcommands : mesh.ctx.disconnCmd.toList = []) : Recorded (start mesh) where
  messages := by
    change ([] : List (Option Nat)).length = mesh.ctx.txToBle.length
    rw [hmessages]
    rfl
  commands := by
    change ([] : List (Option Nat)).length = mesh.ctx.disconnCmd.toList.length
    rw [hcommands]
    rfl
  connection := fun _ hphase => nomatch hphase

theorem separate_start (mesh : MeshState S) : Separate (start mesh) where
  messages := Session.Owned.nil _
  commands := Session.Owned.nil _
  fromRadio := fun _ hphase => nomatch hphase

theorem recorded_stamped {fw : Firmware S} (h : Recorded fw) (mesh : MeshState S) :
    Recorded (stamped { fw with mesh := mesh }) where
  messages := Session.length_restamp _ _ _
  commands := Session.length_restamp _ _ _
  connection := h.connection

theorem separate_stamped {fw : Firmware S} (h : Separate fw) (mesh : MeshState S) :
    Separate (stamped { fw with mesh := mesh }) where
  messages := h.messages.restamp _
  commands := h.commands.restamp _
  fromRadio := h.fromRadio

theorem recorded_disconnect {fw : Firmware S} (h : Recorded fw) : Recorded fw.disconnect where
  messages := h.messages
  commands := h.commands
  connection := fun _ hphase => nomatch hphase

theorem separate_disconnect (fw : Firmware S) : Separate fw.disconnect where
  messages := Session.Owned.closed _
  commands := Session.Owned.closed _
  fromRadio := fun _ hphase => nomatch hphase

theorem recorded_takeMessage {fw : Firmware S} (h : Recorded fw) : Recorded fw.takeMessage where
  messages := by
    change fw.history.messages.tail.length = fw.mesh.ctx.txToBle.tail.length
    rw [List.length_tail, List.length_tail, h.messages]
  commands := h.commands
  connection := h.connection

theorem separate_takeMessage {fw : Firmware S} (h : Separate fw) : Separate fw.takeMessage where
  messages := h.messages.tail
  commands := h.commands
  fromRadio := h.fromRadio

theorem recorded_takeCommand {fw : Firmware S} (h : Recorded fw) : Recorded fw.takeCommand where
  messages := h.messages
  commands := rfl
  connection := h.connection

/-! ## Steps -/

theorem recorded_handleGatt {fw : Firmware S} {conn : GattConnection} (h : Recorded fw)
    (hphase : fw.phase = .connected conn) (event : GattConnectionEvent) :
    Recorded (fw.handleGatt conn event) := by
  have hopen := h.connection conn hphase
  cases event with
  | disconnected => exact recorded_disconnect h
  | pairingComplete bond => cases bond <;> exact ⟨h.messages, h.commands, h.connection⟩
  | bondLost => exact ⟨h.messages, h.commands, h.connection⟩
  | pairingFailed peerRejected =>
      cases peerRejected <;> exact ⟨h.messages, h.commands, h.connection⟩
  | encrypted => exact ⟨h.messages, h.commands, h.connection⟩
  | subscribed shouldNotify => exact ⟨h.messages, h.commands, fun _ _ => hopen⟩
  | toRadioWrite data => exact ⟨h.messages, h.commands, h.connection⟩
  | fromRadioRead =>
      unfold handleGatt replyFromRadio
      dsimp only
      split
      · exact ⟨h.messages, h.commands, fun _ _ => hopen⟩
      · split
        · have htaken := recorded_takeMessage h
          exact ⟨htaken.messages, htaken.commands, htaken.connection⟩
        · exact h

theorem separate_handleGatt {fw : Firmware S} {conn : GattConnection} (h : Separate fw)
    (hphase : fw.phase = .connected conn) (event : GattConnectionEvent) :
    Separate (fw.handleGatt conn event) := by
  cases event with
  | disconnected => exact separate_disconnect fw
  | pairingComplete bond => cases bond <;> exact ⟨h.messages, h.commands, h.fromRadio⟩
  | bondLost => exact ⟨h.messages, h.commands, h.fromRadio⟩
  | pairingFailed peerRejected =>
      cases peerRejected <;> exact ⟨h.messages, h.commands, h.fromRadio⟩
  | encrypted => exact ⟨h.messages, h.commands, h.fromRadio⟩
  | subscribed shouldNotify =>
      refine ⟨h.messages, h.commands, ?_⟩
      rintro conn' hconn hheld
      cases hconn
      exact h.fromRadio conn hphase hheld
  | toRadioWrite data => exact ⟨h.messages, h.commands, h.fromRadio⟩
  | fromRadioRead =>
      unfold handleGatt replyFromRadio
      dsimp only
      split
      · refine ⟨h.messages, h.commands, ?_⟩
        rintro conn' hconn hheld
        cases hconn
        exact absurd rfl hheld
      · split
        · have htaken := separate_takeMessage h
          exact ⟨htaken.messages, htaken.commands, htaken.fromRadio⟩
        · exact h

theorem recorded_notifyFromNum {fw : Firmware S} {conn : GattConnection} (h : Recorded fw)
    (hphase : fw.phase = .connected conn) : Recorded (fw.notifyFromNum conn) := by
  have hopen := h.connection conn hphase
  have htaken := recorded_takeMessage h
  unfold notifyFromNum
  split
  · split
    · exact ⟨htaken.messages, htaken.commands, fun _ _ => hopen⟩
    · exact h
  · exact h

theorem separate_notifyFromNum {fw : Firmware S} {conn : GattConnection}
    (hrecorded : Recorded fw) (h : Separate fw) (hphase : fw.phase = .connected conn) :
    Separate (fw.notifyFromNum conn) := by
  have hopen := hrecorded.connection conn hphase
  have htaken := separate_takeMessage h
  unfold notifyFromNum
  split
  · split
    · rename_i msg rest hqueue
      refine ⟨htaken.messages, htaken.commands, ?_⟩
      intro _ _ _
      have hhead : fw.mesh.ctx.txToBle.head? = some msg := by
        rw [hqueue]
        rfl
      exact h.messages.head hopen hrecorded.messages hhead
    · exact h
  · exact h

theorem recorded_connect {fw : Firmware S} (h : Recorded fw) : Recorded fw.connect where
  messages := h.messages
  commands := h.commands
  connection := fun _ _ => Option.some_ne_none _

/-- A connection that finds the queues empty starts with nothing that is not its own. -/
theorem separate_connect {fw : Firmware S} (hrecorded : Recorded fw)
    (hmessages : fw.mesh.ctx.txToBle = []) (hcommands : fw.mesh.ctx.disconnCmd.toList = []) :
    Separate fw.connect := by
  have hnoMessages : fw.history.messages = [] := by
    apply List.eq_nil_of_length_eq_zero
    rw [hrecorded.messages, hmessages]
    rfl
  have hnoCommands : fw.history.commands = [] := by
    apply List.eq_nil_of_length_eq_zero
    rw [hrecorded.commands, hcommands]
    rfl
  refine ⟨?_, ?_, ?_⟩
  · change Session.Owned _ fw.history.messages
    rw [hnoMessages]
    exact Session.Owned.nil _
  · change Session.Owned _ fw.history.commands
    rw [hnoCommands]
    exact Session.Owned.nil _
  · rintro conn hconn hheld
    cases hconn
    exact absurd rfl hheld

variable [MeshStorage S] {env : Env} {board : Board}

theorem recorded_runMesh {fw : Firmware S} (h : Recorded fw) (event : MeshState.Event) :
    Recorded (runMesh env fw event) := by
  unfold runMesh
  split
  · rename_i hrestarts
    obtain ⟨housed, -, hreboot⟩ := MeshState.step_of_restarts hrestarts
    rw [hreboot]
    exact recorded_start _ rfl rfl
  · exact recorded_stamped h _

theorem separate_runMesh {fw : Firmware S} (h : Separate fw) (event : MeshState.Event) :
    Separate (runMesh env fw event) := by
  unfold runMesh
  split
  · exact separate_start _
  · exact separate_stamped h _

theorem recorded_step {fw : Firmware S} (h : Recorded fw) (event : Event) :
    Recorded (step env board fw event) := by
  have hposted : ∀ meshIn, Recorded { fw with meshIn := meshIn } :=
    fun _ => ⟨h.messages, h.commands, h.connection⟩
  unfold step
  cases event with
  | receive =>
      unfold receive
      dsimp only
      split
      · split
        · exact recorded_runMesh (hposted _) _
        · exact h
      · exact h
  | posted event => exact hposted _
  | watchdogDisconnect => exact recorded_stamped h _
  | advertised ok =>
      dsimp only
      split
      · split
        · cases board with
          | esp32 => exact ⟨rfl, h.commands, fun _ hphase => nomatch hphase⟩
          | nrf52 => exact ⟨h.messages, h.commands, fun _ hphase => nomatch hphase⟩
        · exact h
      · exact h
  | accepted ok =>
      dsimp only
      split
      · split
        · exact recorded_connect h
        · exact ⟨h.messages, h.commands, fun _ hphase => nomatch hphase⟩
      · exact h
  | gatt event =>
      dsimp only
      split
      · rename_i conn hphase
        exact recorded_handleGatt h hphase event
      · exact h
  | txReady =>
      dsimp only
      split
      · rename_i conn hphase
        exact recorded_notifyFromNum h hphase
      · exact h
  | disconnCmd =>
      dsimp only
      split
      · split
        · exact h
        · exact recorded_disconnect (recorded_takeCommand h)
      · exact h
  | hostFailed =>
      cases board with
      | esp32 =>
          have hended := recorded_disconnect h
          exact ⟨hended.messages, hended.commands, hended.connection⟩
      | nrf52 => exact h
  | _ => exact recorded_runMesh h _

/-- A step keeps what waits for a connection its own, if it accepts none in between. -/
theorem separate_step {fw : Firmware S} (hrecorded : Recorded fw) (h : Separate fw)
    {event : Event} (hclean : AcceptsClean fw event) : Separate (step env board fw event) := by
  have hposted : ∀ meshIn, Separate { fw with meshIn := meshIn } :=
    fun _ => ⟨h.messages, h.commands, h.fromRadio⟩
  have hidle : Separate { fw with phase := .advertising } ∧
      Separate { fw with phase := .accepting } :=
    ⟨⟨h.messages, h.commands, fun _ hphase => nomatch hphase⟩,
      ⟨h.messages, h.commands, fun _ hphase => nomatch hphase⟩⟩
  unfold step
  cases event with
  | receive =>
      unfold receive
      dsimp only
      split
      · split
        · exact separate_runMesh (hposted _) _
        · exact h
      · exact h
  | posted event => exact hposted _
  | watchdogDisconnect => exact separate_stamped h _
  | advertised ok =>
      dsimp only
      split
      · split
        · cases board with
          | esp32 =>
              exact ⟨Session.Owned.nil _, h.commands, fun _ hphase => nomatch hphase⟩
          | nrf52 => exact hidle.2
        · exact h
      · exact h
  | accepted ok =>
      dsimp only
      split
      · rename_i hphase
        cases ok with
        | true =>
            unfold AcceptsClean at hclean
            dsimp only at hclean
            rw [hphase] at hclean
            exact separate_connect hrecorded hclean.1 hclean.2
        | false => exact hidle.1
      · exact h
  | gatt event =>
      dsimp only
      split
      · rename_i conn hphase
        exact separate_handleGatt h hphase event
      · exact h
  | txReady =>
      dsimp only
      split
      · rename_i conn hphase
        exact separate_notifyFromNum hrecorded h hphase
      · exact h
  | disconnCmd =>
      dsimp only
      split
      · split
        · exact h
        · exact separate_disconnect _
      · exact h
  | hostFailed =>
      cases board with
      | esp32 =>
          have hended := separate_disconnect fw
          exact ⟨hended.messages, hended.commands, hended.fromRadio⟩
      | nrf52 => exact h
  | _ => exact separate_runMesh h _

/-! ## Runs -/

/-- Every step of the run keeps the connections apart. -/
def IsolatedRun (env : Env) (board : Board) (fw : Firmware S) (events : List Event) : Prop :=
  ∀ t ∈ Transition.trace (step env board) fw events, Isolated t.before t.event

/-- In every run on either board whose connections all find the queues empty when they are
accepted, what a connection is served and what ends it was queued during it. -/
theorem isolated_run (board : Board) (mac : Bytes) (storage : S) (pkcKeypair : Key × Key)
    (entropy : Nat → UInt32) (events : List Event)
    (hclean : Transition.Always (step env board) AcceptsClean
      (boot env mac storage pkcKeypair entropy) events) :
    IsolatedRun env board (boot env mac storage pkcKeypair entropy) events := by
  have hstep : ∀ (fw : Firmware S) event, Recorded fw ∧ Separate fw → AcceptsClean fw event →
      Recorded (step env board fw event) ∧ Separate (step env board fw event) :=
    fun _ event h hclean => ⟨recorded_step h.1 event, separate_step h.1 h.2 hclean⟩
  have hinit : Recorded (boot env mac storage pkcKeypair entropy) ∧
      Separate (boot env mac storage pkcKeypair entropy) :=
    ⟨recorded_start _ rfl rfl, separate_start _⟩
  exact Transition.forall_trace hstep
    (fun _ event h _ => isolated_of_separate h.1 h.2 event) hinit hclean

/-! ### Recorded runs -/

def bootedFirmware : Firmware FakeStorage :=
  boot KnownAnswers.defaultKey.env KnownAnswers.mac {} KnownAnswers.noKeypair
    KnownAnswers.noEntropy

def disconnectRequest : Bytes := [0x20, 0x01]

/-- A frame is heard before the phone is there; the phone asks for the configuration, reads
and asks for the disconnect. -/
def sessionRun : List Event :=
  [.announce, .posted (.loraRx Handlers.FromRadio.strangerAck ⟨0, 0⟩), .receive,
    .advertised true, .accepted true, .gatt (.toRadioWrite Handlers.FromApp.wantConfig),
    .receive, .gatt .fromRadioRead, .gatt (.toRadioWrite disconnectRequest), .receive,
    .disconnCmd]

omit [MeshStorage S] in
theorem acceptsClean_accepted {fw : Firmware S} (hmessages : fw.mesh.ctx.txToBle = [])
    (hcommands : fw.mesh.ctx.disconnCmd.toList = []) : AcceptsClean fw (.accepted true) := by
  unfold AcceptsClean
  dsimp only
  split
  · exact ⟨hmessages, hcommands⟩
  · trivial

theorem sessionRun_acceptsClean :
    Transition.Always (step KnownAnswers.defaultKey.env .esp32) AcceptsClean bootedFirmware
      sessionRun := by
  unfold sessionRun
  simp only [Transition.always_cons]
  refine ⟨trivial, trivial, trivial, trivial, acceptsClean_accepted (by decide) (by decide),
    trivial, trivial, trivial, trivial, trivial, trivial, ?_⟩
  intro t ht
  cases ht

theorem sessionRun_isolated :
    Transition.Always (step KnownAnswers.defaultKey.env .esp32) AcceptsClean bootedFirmware
      sessionRun ∧
    IsolatedRun KnownAnswers.defaultKey.env .esp32 bootedFirmware sessionRun :=
  ⟨sessionRun_acceptsClean,
    @isolated_run FakeStorage _ KnownAnswers.defaultKey.env .esp32 KnownAnswers.mac {}
      KnownAnswers.noKeypair KnownAnswers.noEntropy sessionRun sessionRun_acceptsClean⟩

/-- A frame is heard while the board waits for a phone; the phone reads what it tells. -/
def staleRun : List Event :=
  [.announce, .advertised true, .posted (.loraRx Handlers.FromRadio.strangerAck ⟨0, 0⟩),
    .receive, .accepted true]

/-- The phone asks for a disconnect, is gone before the mesh task has read it, and comes
back. -/
def leftoverRun : List Event :=
  [.announce, .advertised true, .accepted true, .gatt (.toRadioWrite disconnectRequest),
    .gatt .disconnected, .receive, .advertised true, .accepted true]

theorem staleRun_not_isolated (board : Board) :
    ¬ IsolatedRun KnownAnswers.defaultKey.env board bootedFirmware
      (staleRun ++ [.gatt .fromRadioRead]) := by
  intro hrun
  have hserved : (served (Transition.run (step KnownAnswers.defaultKey.env board)
      bootedFirmware staleRun) (.gatt .fromRadioRead)).map Prod.fst = some none := by
    cases board <;> decide
  obtain ⟨⟨stamp, msg⟩, hmsg, hstamp⟩ := Option.map_eq_some_iff.mp hserved
  obtain ⟨hopen, hsame⟩ := (Transition.forall_trace_concat hrun).served stamp msg hmsg
  exact hopen (hsame.symm.trans hstamp)

theorem leftoverRun_not_isolated (board : Board) :
    ¬ IsolatedRun KnownAnswers.defaultKey.env board bootedFirmware
      (leftoverRun ++ [.disconnCmd]) := by
  intro hrun
  have hended : endedBy (Transition.run (step KnownAnswers.defaultKey.env board)
      bootedFirmware leftoverRun) .disconnCmd = some none := by
    cases board <;> decide
  obtain ⟨hopen, hsame⟩ := (Transition.forall_trace_concat hrun).endedBy none hended
  exact hopen hsame.symm

/-- On both boards a phone is served what was queued before it was there, and disconnected
by a command that was issued before. -/
theorem boards_not_isolated :
    let env := KnownAnswers.defaultKey.env
    (¬ IsolatedRun env .esp32 bootedFirmware (staleRun ++ [.gatt .fromRadioRead]) ∧
      ¬ IsolatedRun env .esp32 bootedFirmware (leftoverRun ++ [.disconnCmd])) ∧
    ¬ IsolatedRun env .nrf52 bootedFirmware (staleRun ++ [.gatt .fromRadioRead]) ∧
      ¬ IsolatedRun env .nrf52 bootedFirmware (leftoverRun ++ [.disconnCmd]) :=
  ⟨⟨staleRun_not_isolated .esp32, leftoverRun_not_isolated .esp32⟩,
    staleRun_not_isolated .nrf52, leftoverRun_not_isolated .nrf52⟩

end Meshtastenstein.Firmware
