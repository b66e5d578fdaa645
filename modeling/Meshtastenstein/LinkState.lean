import Meshtastenstein.BleTask
import Meshtastenstein.Bridge
import Meshtastenstein.Holdings
import Meshtastenstein.Lib.Queues
/-!
# Link state

The mesh task learns from notices in `mesh_in` whether a phone is there.  It knows as long as
every notice finds room, and then no text message goes to a queue that nobody reads.
-/

namespace Meshtastenstein

open Lib Proto Handlers

variable {S : Type} [MeshStorage S] {env : Env} {board : Board}

/-! ## Text messages -/

namespace Handlers.FromRadio

def IsText (portnum : Int32) : Prop :=
  portnum = PortNum.textMessageApp.toI32 ∨ portnum = PortNum.textMessageCompressedApp.toI32

theorem handlePortnum_of_text {portnum : Int32} (h : IsText portnum) (ctx : MeshCtx S)
    (pkt : InboundPacket) : handlePortnum env ctx portnum pkt = ctx := by
  rcases h with rfl | rfl <;> rfl

/-- Without a phone a text message is buffered, and the phone is told nothing of it. -/
theorem stored_handleNew {ctx : MeshCtx S} {decoded : DecodedPayload}
    (htext : IsText decoded.portnum) (habsent : ctx.bleConnected = false) (frame : RadioFrame)
    (header : PacketHeader) (metadata : RadioMetadata) :
    (handleNew env ctx frame header metadata decoded).storage =
        MeshStorage.add ctx.storage frame ∧
      TellsOwn ctx (handleNew env ctx frame header metadata decoded) := by
  have hnoted := @resident_noteSender S env ctx header metadata
  have hble : (noteSender env ctx header metadata).bleConnected = false :=
    (congrArg (fun resident => resident.holdings.bleConnected) hnoted).trans habsent
  have hbuffered : bufferText (noteSender env ctx header metadata) frame decoded.portnum =
      { noteSender env ctx header metadata with
        storage := MeshStorage.add (noteSender env ctx header metadata).storage frame } :=
    if_pos ⟨htext, hble⟩
  constructor
  · have hlasting := @lasting_handleNew S _ env ctx frame header metadata decoded
    dsimp only at hlasting
    rw [handlePortnum_of_text htext, hbuffered] at hlasting
    have hstorage : (handleNew env ctx frame header metadata decoded).storage =
        MeshStorage.add (noteSender env ctx header metadata).storage frame :=
      congrArg (fun lasting => lasting.1.1.storage) hlasting
    rw [hstorage]
    exact congrArg (fun resident => MeshStorage.add resident.holdings.storage frame) hnoted
  · unfold handleNew
    dsimp only
    rw [handlePortnum_of_text htext, hbuffered]
    refine (@tellsOwn_noteSender S env ctx header metadata).trans ?_
    generalize noteSender env ctx header metadata = noted at hble ⊢
    have hsilent : ∀ pkt, forwardInbound
        { noted with storage := MeshStorage.add noted.storage frame } header metadata decoded pkt =
          { noted with storage := MeshStorage.add noted.storage frame } :=
      fun pkt => if_neg fun h => Bool.false_ne_true (hble.symm.trans h.2)
    rw [hsilent]
    have hstored : TellsOwn noted { noted with storage := MeshStorage.add noted.storage frame } :=
      TellsOwn.of_eq rfl rfl
    exact (hstored.trans (tellsOwn_ackInbound _ header decoded)).trans
      (tellsOwn_relayInbound _ frame header metadata)

end Handlers.FromRadio

/-! ## The flag -/

namespace MeshState

/-- What the flag becomes with the work of a step. -/
def notified (connected : Bool) : Event → Bool
  | .mesh event => event.notified connected
  | _ => connected

theorem bleConnected_handled {state : MeshState S} {event : Event}
    (h : ∀ taken, event = .mesh taken → state.started = true) :
    (handled env state event).bleConnected = notified state.ctx.bleConnected event := by
  unfold notified
  split
  · rename_i event
    unfold handled
    dsimp only
    rw [if_pos (h event rfl),
      (dispatch_records (noteActivity state.ctx event) event).bleConnected_eq]
    cases event <;> rfl
  · rename_i hevent
    exact congrArg Holdings.bleConnected (@holdings_handled_of_timer S _ env state event hevent)

theorem bleConnected_step {state : MeshState S} {event : Event}
    (hrestarts : restarts env state event = false)
    (h : ∀ taken, event = .mesh taken → state.started = true ∨
      taken.notified state.ctx.bleConnected = state.ctx.bleConnected) :
    (step env state event).ctx.bleConnected = notified state.ctx.bleConnected event := by
  by_cases hruns : ∀ taken, event = .mesh taken → state.started = true
  · obtain ⟨_, _, _, hstep⟩ := step_of_not_restarts hrestarts
    rw [hstep]
    exact bleConnected_handled hruns
  · simp only [not_forall] at hruns
    obtain ⟨taken, rfl, hstarted⟩ := hruns
    have hsame := (h taken rfl).resolve_left hstarted
    unfold step notified
    dsimp only
    rw [if_neg hstarted, hsame]

end MeshState

/-! ## Links -/

namespace Firmware

def isLinked (fw : Firmware S) : Bool :=
  match fw.phase with
  | .connected _ => true
  | _ => false

omit [MeshStorage S] in
theorem exists_connected {fw : Firmware S} (h : fw.isLinked = true) :
    ∃ conn, fw.phase = .connected conn := by
  unfold isLinked at h
  split at h
  · rename_i conn hphase
    exact ⟨conn, hphase⟩
  · cases h

/-- The flag once the mesh task has taken all that waits in `mesh_in`. -/
def settled (fw : Firmware S) : Bool :=
  Notices.settled MeshEvent.notified fw.mesh.ctx.bleConnected fw.meshIn

/-- The stamp of what comes now, `none` while no phone is attached. -/
def link (fw : Firmware S) : Option Unit := if fw.isLinked then some () else none

namespace Event

/-- Besides the BLE task only these put events into `mesh_in`: received frames, battery
levels and the use of the channel. -/
def Sourced : Event → Prop
  | .posted (.loraRx _ _) => True
  | .posted (.batteryUpdate _ _) => True
  | .posted (.channelUtilUpdate _ _) => True
  | .posted _ => False
  | _ => True

def isEncrypted : Event → Bool
  | .gatt .encrypted => true
  | _ => false

end Event

def ends (board : Board) (fw : Firmware S) : Event → Bool
  | .gatt .disconnected => fw.isLinked
  | .disconnCmd => fw.isLinked && !fw.mesh.ctx.disconnCmd.toList.isEmpty
  | .hostFailed =>
      match board with
      | .esp32 => fw.isLinked
      | .nrf52 => false
  | _ => false

/-- What an event of the other tasks may do to the link and to `mesh_in`. -/
inductive Change (board : Board) (fw : Firmware S) (event : Event) (fw' : Firmware S) : Prop
  | quiet (hmeshIn : fw'.meshIn = fw.meshIn ∨ ∃ item : MeshEvent, fw'.meshIn = fw.meshIn ++ [item] ∧
        ∀ connected, item.notified connected = connected)
      (hlinked : fw'.isLinked = fw.isLinked)
      (hevent : fw.isLinked = true → event.isEncrypted = false)
  | connects (hmeshIn : fw'.meshIn = fw.meshIn) (hbefore : fw.isLinked = false)
      (hevent : event.isEncrypted = false)
  | secured (hbefore : fw.isLinked = true) (hevent : event.isEncrypted = true)
      (hlinked : fw'.isLinked = true)
      (hmeshIn : fw'.meshIn = Mailbox.trySend MESH_IN_QUEUE_SIZE fw.meshIn .bleConnected)
  | ended (hends : fw.isLinked = true → fw.ends board event = true)
      (hlinked : fw'.isLinked = false)
      (hmeshIn : fw'.meshIn = Mailbox.trySend MESH_IN_QUEUE_SIZE fw.meshIn .bleDisconnected)

omit [MeshStorage S] in
theorem trySend_cases (fw : Firmware S) (item : MeshEvent) :
    (fw.tryPost item).meshIn = fw.meshIn ∨ (fw.tryPost item).meshIn = fw.meshIn ++ [item] := by
  unfold tryPost Mailbox.trySend
  dsimp only
  split
  · exact Or.inr rfl
  · exact Or.inl rfl

omit [MeshStorage S] in
theorem change_of_quiet_post {fw : Firmware S} {event : Event} {item : MeshEvent}
    (hquiet : ∀ connected, item.notified connected = connected)
    (hevent : event.isEncrypted = false) : Change board fw event (fw.tryPost item) :=
  .quiet ((trySend_cases fw item).imp id fun h => ⟨item, h, hquiet⟩) rfl fun _ => hevent

omit [MeshStorage S] in
theorem Change.same {fw : Firmware S} {event : Event}
    (hevent : fw.isLinked = true → event.isEncrypted = false) : Change board fw event fw :=
  .quiet (Or.inl rfl) rfl hevent

omit [MeshStorage S] in
theorem change_handleGatt {fw : Firmware S} {conn : GattConnection}
    (hphase : fw.phase = .connected conn) (event : GattConnectionEvent) :
    Change board fw (.gatt event) (fw.handleGatt conn event) := by
  have hlinked : fw.isLinked = true := by
    unfold isLinked
    rw [hphase]
  have hconnected : ∀ conn' : GattConnection,
      isLinked { fw with phase := .connected conn' } = fw.isLinked := fun _ => hlinked.symm
  unfold handleGatt
  cases event with
  | disconnected => exact .ended (fun _ => hlinked) rfl rfl
  | pairingComplete bond =>
      cases bond with
      | some bond => exact change_of_quiet_post (fun _ => rfl) rfl
      | none => exact Change.same fun _ => rfl
  | bondLost => exact change_of_quiet_post (fun _ => rfl) rfl
  | pairingFailed peerRejected =>
      cases peerRejected with
      | true => exact change_of_quiet_post (fun _ => rfl) rfl
      | false => exact Change.same fun _ => rfl
  | encrypted => exact .secured hlinked rfl hlinked rfl
  | subscribed shouldNotify => exact .quiet (Or.inl rfl) (hconnected _) fun _ => rfl
  | toRadioWrite data => exact .quiet (Or.inr ⟨_, rfl, fun _ => rfl⟩) rfl fun _ => rfl
  | fromRadioRead =>
      dsimp only
      unfold replyFromRadio
      split
      · exact .quiet (Or.inl rfl) (hconnected _) fun _ => rfl
      · split
        · exact .quiet (Or.inl rfl) rfl fun _ => rfl
        · exact Change.same fun _ => rfl

omit [MeshStorage S] in
theorem isLinked_of_ne_connected {fw : Firmware S} (h : ∀ conn, fw.phase ≠ .connected conn) :
    fw.isLinked = false := by
  unfold isLinked
  split
  · rename_i conn hphase
    exact absurd hphase (h conn)
  · rfl

theorem change_of_none {fw : Firmware S} {event : Event} (hsourced : event.Sourced)
    (hnone : fw.meshEvent event = none) : Change board fw event (fw.step env board event) := by
  unfold step
  cases event with
  | receive =>
      dsimp only
      rw [receive_of_none hnone]
      exact Change.same fun _ => rfl
  | posted item =>
      refine change_of_quiet_post (fun connected => ?_) rfl
      cases item with
      | bleConnected => exact hsourced.elim
      | bleDisconnected => exact hsourced.elim
      | _ => rfl
  | watchdogDisconnect => exact .quiet (Or.inl rfl) rfl fun _ => rfl
  | advertised ok =>
      dsimp only
      split
      · rename_i hphase
        have hidle := isLinked_of_ne_connected fun conn hconn => nomatch hphase.symm.trans hconn
        split
        · cases board with
          | esp32 => exact .quiet (Or.inl rfl) hidle.symm fun _ => rfl
          | nrf52 => exact .quiet (Or.inl rfl) hidle.symm fun _ => rfl
        · exact Change.same fun _ => rfl
      · exact Change.same fun _ => rfl
  | accepted ok =>
      dsimp only
      split
      · rename_i hphase
        have hidle := isLinked_of_ne_connected fun conn hconn => nomatch hphase.symm.trans hconn
        split
        · exact .connects rfl hidle rfl
        · exact .quiet (Or.inl rfl) hidle.symm fun _ => rfl
      · exact Change.same fun _ => rfl
  | gatt event =>
      dsimp only
      split
      · rename_i conn hphase
        exact change_handleGatt hphase event
      · rename_i hphase
        have hidle := isLinked_of_ne_connected hphase
        exact Change.same fun hlinked => nomatch hidle.symm.trans hlinked
  | txReady =>
      dsimp only
      split
      · rename_i conn hphase
        unfold notifyFromNum
        split
        · split
          · refine .quiet (Or.inl rfl) ?_ fun _ => rfl
            unfold isLinked
            rw [hphase]
          · exact Change.same fun _ => rfl
        · exact Change.same fun _ => rfl
      · exact Change.same fun _ => rfl
  | disconnCmd =>
      dsimp only
      split
      · split
        · exact Change.same fun _ => rfl
        · rename_i hcommand
          refine .ended (fun hlinked => ?_) rfl rfl
          unfold ends
          dsimp only
          rw [hlinked, Bool.true_and, Bool.not_eq_true']
          exact Bool.eq_false_iff.mpr hcommand
      · exact Change.same fun _ => rfl
  | hostFailed =>
      cases board with
      | esp32 => exact .ended (fun hlinked => hlinked) rfl rfl
      | nrf52 => exact Change.same fun _ => rfl
  | _ => cases hnone

theorem step_of_work {fw : Firmware S} {event : Event} {work : MeshState.Event}
    (hwork : fw.meshEvent event = some work)
    (hrestarts : MeshState.restarts env fw.mesh work = false) :
    (fw.step env board event).meshIn = fw.meshInLeft event ∧
      (fw.step env board event).isLinked = fw.isLinked ∧
      (fw.step env board event).mesh.ctx.bleConnected =
        MeshState.notified fw.mesh.ctx.bleConnected work := by
  have hgoes : fw.step env board event = stamped
      { fw with meshIn := fw.meshInLeft event, mesh := MeshState.step env fw.mesh work } := by
    rw [step_of_meshEvent hwork]
    refine if_neg ?_
    rw [hrestarts]
    exact Bool.false_ne_true
  refine ⟨congrArg meshIn hgoes, (congrArg isLinked hgoes).trans rfl, ?_⟩
  refine (congrArg (fun mesh => mesh.ctx.bleConnected) (mesh_step_of_meshEvent hwork)).trans
    (MeshState.bleConnected_step hrestarts ?_)
  rintro taken rfl
  cases event with
  | receive =>
      unfold meshEvent at hwork
      dsimp only at hwork
      split at hwork
      · rename_i hstarted
        exact Or.inl hstarted
      · cases hwork
  | heartbeat =>
      cases hwork
      exact Or.inr rfl
  | _ => cases hwork

theorem step_of_restarts {fw : Firmware S} {event : Event} {work : MeshState.Event}
    (hwork : fw.meshEvent event = some work)
    (hrestarts : MeshState.restarts env fw.mesh work = true) :
    (fw.step env board event).meshIn = [] ∧ (fw.step env board event).isLinked = false ∧
      (fw.step env board event).mesh.ctx.bleConnected = false := by
  have hstart : fw.step env board event = start (MeshState.step env fw.mesh work) := by
    rw [step_of_meshEvent hwork]
    exact if_pos hrestarts
  obtain ⟨housed, -, hreboot⟩ := MeshState.step_of_restarts hrestarts
  rw [hstart, hreboot]
  exact ⟨rfl, rfl, rfl⟩

end Firmware

/-- The firmware with a record of whether the link is encrypted, and whether a phone was
attached when each event came into `mesh_in`.  No step depends on the record. -/
structure LinkRun (S : Type) where
  fw : Firmware S
  encrypted : Bool
  arrivals : List (Option Unit)

namespace LinkRun

def arrivalsLeft (run : LinkRun S) : Firmware.Event → List (Option Unit)
  | .receive => if run.fw.mesh.started then run.arrivals.tail else run.arrivals
  | _ => run.arrivals

def step (env : Env) (board : Board) (run : LinkRun S) (event : Firmware.Event) : LinkRun S :=
  let fw := run.fw.step env board event
  { fw := fw
    encrypted := fw.isLinked && (run.encrypted || event.isEncrypted)
    arrivals := Session.restamp run.fw.link fw.meshIn.length (run.arrivalsLeft event) }

def boot (env : Env) (mac : Bytes) (storage : S) (pkcKeypair : Key × Key)
    (entropy : Nat → UInt32) : LinkRun S where
  fw := Firmware.boot env mac storage pkcKeypair entropy
  encrypted := false
  arrivals := []

/-- The flag is right once nothing waits, and a text message that came with no phone attached
is stored when it is taken, and not forwarded. -/
structure Agrees (env : Env) (run : LinkRun S) : Prop where
  idle : run.fw.meshIn = [] → run.fw.isLinked = false →
    run.fw.mesh.ctx.bleConnected = false
  encrypted : run.fw.meshIn = [] → run.encrypted = true → run.fw.mesh.ctx.bleConnected = true
  stored : ∀ frame metadata rest header decoded, run.fw.meshIn = .loraRx frame metadata :: rest →
    run.arrivals.head? = some none → run.fw.mesh.started = true →
    let heard := MeshState.noteActivity run.fw.mesh.ctx (.loraRx frame metadata)
    let handled := MeshState.handled env run.fw.mesh (.mesh (.loraRx frame metadata))
    FromRadio.newPacket env heard frame = some (header, decoded) →
    FromRadio.IsText decoded.portnum →
      handled.storage = MeshStorage.add heard.storage frame ∧
        ∀ packet, ¬ FromRadio.Forwards heard handled packet

/-- A notice finds room in `mesh_in`, unless the flag comes out right without it. -/
def NoticeFits (board : Board) (run : LinkRun S) (event : Firmware.Event) : Prop :=
  (run.fw.isLinked = true → event.isEncrypted = true →
    run.fw.meshIn.length < MESH_IN_QUEUE_SIZE ∨ run.fw.settled = true) ∧
  (run.fw.ends board event = true →
    run.fw.meshIn.length < MESH_IN_QUEUE_SIZE ∨ run.fw.settled = false)

structure Settled (run : LinkRun S) : Prop where
  length : run.arrivals.length = run.fw.meshIn.length
  idle : run.fw.isLinked = false → run.encrypted = false ∧ run.fw.settled = false
  encrypted : run.encrypted = true → run.fw.settled = true
  foretold : Notices.Foretold MeshEvent.notified (· = false) (· = none)
    run.fw.mesh.ctx.bleConnected (run.arrivals.zip run.fw.meshIn)

namespace Settled

variable {run run' : LinkRun S}

omit [MeshStorage S] in
theorem start (hflag : run.fw.mesh.ctx.bleConnected = false) (hmeshIn : run.fw.meshIn = [])
    (hencrypted : run.encrypted = false) (harrivals : run.arrivals = []) : Settled run where
  length := by rw [harrivals, hmeshIn]; rfl
  idle _ := by
    refine ⟨hencrypted, ?_⟩
    unfold Firmware.settled
    rw [hmeshIn]
    exact hflag
  encrypted h := absurd (hencrypted.symm.trans h) Bool.false_ne_true
  foretold := by
    rw [harrivals]
    trivial

omit [MeshStorage S] in
theorem take (h : Settled run) {taken : MeshEvent} {rest : List MeshEvent}
    (hmeshIn : run.fw.meshIn = taken :: rest) (hrest : run'.fw.meshIn = rest)
    (hflag : run'.fw.mesh.ctx.bleConnected = taken.notified run.fw.mesh.ctx.bleConnected)
    (hlinked : run'.fw.isLinked = run.fw.isLinked) (hencrypted : run'.encrypted = run.encrypted)
    (harrivals : run'.arrivals = run.arrivals.tail) : Settled run' := by
  obtain ⟨hlength, hidle, hsecured, hforetold⟩ := h
  have hsettled : run'.fw.settled = run.fw.settled := by
    unfold Firmware.settled
    rw [hrest, hflag, hmeshIn, Notices.settled_cons]
  rw [hmeshIn] at hlength hforetold
  cases hstamps : run.arrivals with
  | nil =>
      rw [hstamps] at hlength
      cases hlength
  | cons stamp stamps =>
      rw [hstamps] at hlength hforetold harrivals
      refine ⟨?_, ?_, ?_, ?_⟩
      · rw [harrivals, hrest]
        exact Nat.succ.inj hlength
      · rw [hlinked, hencrypted, hsettled]
        exact hidle
      · rw [hencrypted, hsettled]
        exact hsecured
      · rw [harrivals, hrest, hflag]
        exact hforetold.2

omit [MeshStorage S] in
theorem grow (h : Settled run)
    (hmeshIn : run'.fw.meshIn = run.fw.meshIn ∨
      ∃ item, run'.fw.meshIn = run.fw.meshIn ++ [item])
    (hflag : run'.fw.mesh.ctx.bleConnected = run.fw.mesh.ctx.bleConnected)
    (harrivals : run'.arrivals =
      Session.restamp run.fw.link run'.fw.meshIn.length run.arrivals)
    (hidle : run'.fw.isLinked = false → run'.encrypted = false ∧ run'.fw.settled = false)
    (hencrypted : run'.encrypted = true → run'.fw.settled = true) : Settled run' := by
  have hlength := h.length
  refine ⟨?_, hidle, hencrypted, ?_⟩
  · rw [harrivals, Session.length_restamp]
  · rw [hflag, harrivals]
    rcases hmeshIn with hsame | ⟨item, hitem⟩
    · have hadded := Session.restamp_add run.fw.link run.arrivals 0
      rw [hlength, Nat.add_zero, List.replicate_zero, List.append_nil] at hadded
      rw [hsame, hadded]
      exact h.foretold
    · have hadded := Session.restamp_add run.fw.link run.arrivals 1
      rw [hlength] at hadded
      rw [hitem, List.length_append, List.length_singleton, hadded, List.zip_append hlength]
      refine (Notices.foretold_concat _ _ _ _).mpr ⟨h.foretold, fun hnone => ?_⟩
      rw [List.map_snd_zip (Nat.le_of_eq hlength.symm)]
      refine (h.idle ?_).2
      unfold Firmware.link at hnone
      cases hlinked : run.fw.isLinked with
      | false => rfl
      | true =>
          rw [hlinked] at hnone
          cases hnone

end Settled

section

variable {run : LinkRun S} {event : Firmware.Event}

theorem bleConnected_of_none (hnone : run.fw.meshEvent event = none) :
    (run.step env board event).fw.mesh.ctx.bleConnected = run.fw.mesh.ctx.bleConnected := by
  obtain ⟨_, _, hmesh⟩ := @Firmware.mesh_step_of_none S _ env board _ _ hnone
  exact congrArg (fun mesh => mesh.ctx.bleConnected) hmesh

theorem arrivals_of_none (h : Settled run) (hnone : run.fw.meshEvent event = none) :
    (run.step env board event).arrivals =
      Session.restamp run.fw.link (run.step env board event).fw.meshIn.length run.arrivals := by
  refine congrArg (Session.restamp run.fw.link _) ?_
  unfold arrivalsLeft
  split
  · split
    · rename_i hstarted
      unfold Firmware.meshEvent at hnone
      dsimp only at hnone
      rw [if_pos hstarted, Option.map_eq_none_iff, List.head?_eq_none_iff] at hnone
      have hempty := h.length
      rw [hnone] at hempty
      rw [List.eq_nil_of_length_eq_zero hempty]
      rfl
    · rfl
  · rfl

theorem settled_of_meshIn (hnone : run.fw.meshEvent event = none) {queue : List MeshEvent}
    (hqueue : (run.step env board event).fw.meshIn = queue) :
    (run.step env board event).fw.settled =
      Notices.settled MeshEvent.notified run.fw.mesh.ctx.bleConnected queue := by
  unfold Firmware.settled
  rw [hqueue, bleConnected_of_none hnone]

/-- A notice settles the flag when it finds room, or when the flag is as it says. -/
theorem settled_of_notice (hnone : run.fw.meshEvent event = none) {item : MeshEvent}
    (hmeshIn : (run.step env board event).fw.meshIn =
      Mailbox.trySend MESH_IN_QUEUE_SIZE run.fw.meshIn item) {value : Bool}
    (hvalue : ∀ connected, item.notified connected = value)
    (hroom : run.fw.meshIn.length < MESH_IN_QUEUE_SIZE ∨ run.fw.settled = value) :
    (run.step env board event).fw.settled = value := by
  rcases Nat.lt_or_ge run.fw.meshIn.length MESH_IN_QUEUE_SIZE with hlt | hfull
  · rw [settled_of_meshIn hnone (hmeshIn.trans (Mailbox.trySend_of_lt hlt item)),
      Notices.settled_concat, hvalue]
  · rw [settled_of_meshIn hnone (hmeshIn.trans (Mailbox.trySend_of_full hfull item))]
    exact hroom.resolve_left (Nat.not_lt.mpr hfull)

end

theorem settled_of_change {run : LinkRun S} (h : Settled run) {event : Firmware.Event}
    (hfits : NoticeFits board run event) (hnone : run.fw.meshEvent event = none)
    (hchange : Firmware.Change board run.fw event (run.fw.step env board event)) :
    Settled (run.step env board event) := by
  have hflag := @bleConnected_of_none _ _ env board _ _ hnone
  have harrivals := @arrivals_of_none _ _ env board _ _ h hnone
  have hsent : ∀ item, (run.step env board event).fw.meshIn =
      Mailbox.trySend MESH_IN_QUEUE_SIZE run.fw.meshIn item →
      (run.step env board event).fw.meshIn = run.fw.meshIn ∨
        ∃ item, (run.step env board event).fw.meshIn = run.fw.meshIn ++ [item] := by
    intro item hmeshIn
    rw [hmeshIn]
    exact (Firmware.trySend_cases run.fw item).imp id fun h => ⟨item, h⟩
  cases hchange with
  | quiet hmeshIn hlinked hevent =>
      have hsame : (run.step env board event).fw.settled = run.fw.settled := by
        rcases hmeshIn with hmeshIn | ⟨item, hmeshIn, hquiet⟩
        · exact settled_of_meshIn hnone hmeshIn
        · rw [settled_of_meshIn hnone hmeshIn, Notices.settled_concat, hquiet]
          rfl
      have hkept : (run.step env board event).encrypted = true → run.encrypted = true := by
        intro hencrypted
        obtain ⟨hafter, hboth⟩ := Bool.and_eq_true_iff.mp hencrypted
        rw [hevent (hlinked.symm.trans hafter), Bool.or_false] at hboth
        exact hboth
      refine h.grow (hmeshIn.imp id fun ⟨item, hitem, _⟩ => ⟨item, hitem⟩) hflag harrivals ?_ ?_
      · intro hidle
        have hbefore := h.idle (hlinked.symm.trans hidle)
        rw [hsame]
        exact ⟨Bool.eq_false_iff.mpr fun hencrypted =>
          Bool.false_ne_true (hbefore.1.symm.trans (hkept hencrypted)), hbefore.2⟩
      · intro hencrypted
        rw [hsame]
        exact h.encrypted (hkept hencrypted)
  | connects hmeshIn hbefore hevent =>
      have hnot : (run.step env board event).encrypted = false := by
        unfold step
        dsimp only
        rw [(h.idle hbefore).1, hevent, Bool.or_false, Bool.and_false]
      refine h.grow (Or.inl hmeshIn) hflag harrivals (fun _ => ?_) fun hencrypted => ?_
      · rw [settled_of_meshIn hnone hmeshIn]
        exact ⟨hnot, (h.idle hbefore).2⟩
      · exact absurd (hnot.symm.trans hencrypted) Bool.false_ne_true
  | secured hbefore hevent hlinked hmeshIn =>
      refine h.grow (hsent _ hmeshIn) hflag harrivals (fun hidle => ?_) fun _ => ?_
      · exact absurd (hidle.symm.trans hlinked) Bool.false_ne_true
      · exact settled_of_notice hnone hmeshIn (fun _ => rfl) (hfits.1 hbefore hevent)
  | ended hends hlinked hmeshIn =>
      have hnot : (run.step env board event).encrypted = false := by
        unfold step
        dsimp only
        rw [hlinked, Bool.false_and]
      refine h.grow (hsent _ hmeshIn) hflag harrivals (fun _ => ⟨hnot, ?_⟩) fun hencrypted => ?_
      · refine settled_of_notice hnone hmeshIn (fun _ => rfl) ?_
        cases hbefore : run.fw.isLinked with
        | true => exact hfits.2 (hends hbefore)
        | false => exact Or.inr (h.idle hbefore).2
      · exact absurd (hnot.symm.trans hencrypted) Bool.false_ne_true

theorem settled_of_restart {run : LinkRun S} {event : Firmware.Event} {work : MeshState.Event}
    (hwork : run.fw.meshEvent event = some work)
    (hrestarts : MeshState.restarts env run.fw.mesh work = true) :
    Settled (run.step env board event) := by
  obtain ⟨hmeshIn, hlinked, hflag⟩ := @Firmware.step_of_restarts S _ env board _ _ _ hwork hrestarts
  refine Settled.start hflag hmeshIn ?_ ?_
  · unfold step
    dsimp only
    rw [hlinked, Bool.false_and]
  · unfold step
    dsimp only
    rw [hmeshIn]
    exact Session.restamp_zero _ _

theorem settled_of_receive {run : LinkRun S} (h : Settled run) {work : MeshState.Event}
    (hwork : run.fw.meshEvent .receive = some work)
    (hrestarts : MeshState.restarts env run.fw.mesh work = false)
    (hencrypted : (run.step env board .receive).encrypted = run.encrypted) :
    Settled (run.step env board .receive) := by
  obtain ⟨hmeshIn, hlinked, hflag⟩ := @Firmware.step_of_work S _ env board _ _ _ hwork hrestarts
  unfold Firmware.meshEvent at hwork
  dsimp only at hwork
  split at hwork
  · rename_i hstarted
    obtain ⟨taken, htaken, rfl⟩ := Option.map_eq_some_iff.mp hwork
    obtain ⟨rest, hqueue⟩ := List.head?_eq_some_iff.mp htaken
    have hrest : (run.step env board .receive).fw.meshIn = rest :=
      hmeshIn.trans (congrArg List.tail hqueue)
    refine h.take hqueue hrest hflag hlinked hencrypted ?_
    have hlength := h.length
    rw [hqueue] at hlength
    have htail : run.arrivals.tail.length = rest.length := by
      rw [List.length_tail, hlength]
      rfl
    have hkept := Session.restamp_add run.fw.link run.arrivals.tail 0
    rw [Nat.add_zero, htail, List.replicate_zero, List.append_nil] at hkept
    refine Eq.trans ?_ hkept
    unfold step arrivalsLeft
    dsimp only
    rw [if_pos hstarted]
    exact congrArg (fun queue => Session.restamp run.fw.link (List.length queue) _) hrest
  · cases hwork

theorem settled_of_work {run : LinkRun S} (h : Settled run) {event : Firmware.Event}
    {work : MeshState.Event} (hwork : run.fw.meshEvent event = some work) :
    Settled (run.step env board event) := by
  cases hrestarts : MeshState.restarts env run.fw.mesh work with
  | true => exact settled_of_restart hwork hrestarts
  | false =>
      obtain ⟨hmeshIn, hlinked, hflag⟩ :=
        @Firmware.step_of_work S _ env board _ _ _ hwork hrestarts
      have hencrypted : (run.step env board event).encrypted = run.encrypted := by
        have hevent : event.isEncrypted = false := by
          cases event with
          | gatt event => cases hwork
          | _ => rfl
        unfold step
        dsimp only
        rw [hlinked, hevent, Bool.or_false]
        cases hbefore : run.fw.isLinked with
        | true => rfl
        | false => exact (h.idle hbefore).1.symm
      by_cases hreceives : event = .receive
      · subst hreceives
        exact settled_of_receive h hwork hrestarts hencrypted
      · have hsame : (run.step env board event).fw.meshIn = run.fw.meshIn := by
          refine hmeshIn.trans ?_
          unfold Firmware.meshInLeft
          split
          · exact absurd rfl hreceives
          · rfl
        have hquiet : (run.step env board event).fw.mesh.ctx.bleConnected =
            run.fw.mesh.ctx.bleConnected := by
          refine hflag.trans ?_
          cases event with
          | receive => exact absurd rfl hreceives
          | heartbeat =>
              cases hwork
              rfl
          | _ =>
              cases hwork
              try rfl
        have hsettled : (run.step env board event).fw.settled = run.fw.settled := by
          unfold Firmware.settled
          rw [hsame, hquiet]
        refine h.grow (Or.inl hsame) hquiet ?_ ?_ ?_
        · refine congrArg (Session.restamp run.fw.link _) ?_
          unfold arrivalsLeft
          split
          · exact absurd rfl hreceives
          · rfl
        · rw [show (run.step env board event).fw.isLinked = run.fw.isLinked from hlinked,
            hencrypted, hsettled]
          exact h.idle
        · rw [hencrypted, hsettled]
          exact h.encrypted

theorem settled_step {run : LinkRun S} (h : Settled run) {event : Firmware.Event}
    (hsourced : event.Sourced) (hfits : NoticeFits board run event) :
    Settled (run.step env board event) := by
  cases hwork : run.fw.meshEvent event with
  | some work => exact settled_of_work h hwork
  | none => exact settled_of_change h hfits hwork (Firmware.change_of_none hsourced hwork)

theorem agrees_of_settled {run : LinkRun S} (h : Settled run) : Agrees env run where
  idle hmeshIn hlinked := by
    have hsettled := (h.idle hlinked).2
    unfold Firmware.settled at hsettled
    rw [hmeshIn] at hsettled
    exact hsettled
  encrypted hmeshIn hencrypted := by
    have hsettled := h.encrypted hencrypted
    unfold Firmware.settled at hsettled
    rw [hmeshIn] at hsettled
    exact hsettled
  stored frame metadata rest header decoded hmeshIn harrival hstarted := by
    intro heard handled hnew htext
    have habsent : heard.bleConnected = false := by
      obtain ⟨stamps, hstamps⟩ := List.head?_eq_some_iff.mp harrival
      have hforetold := h.foretold
      rw [hmeshIn, hstamps] at hforetold
      exact hforetold.1 rfl
    have hhandled : handled =
        FromRadio.handleNew env (FromRadio.admitted heard header) frame header metadata
          decoded := by
      refine Eq.trans ?_ (FromRadio.dispatch_of_newPacket hnew metadata)
      exact if_pos hstarted
    obtain ⟨hstorage, htells⟩ := @FromRadio.stored_handleNew S _ env
      (FromRadio.admitted heard header) decoded htext habsent frame header metadata
    rw [hhandled]
    refine ⟨hstorage, fun packet hforwards => ?_⟩
    obtain ⟨hforeign, msg, hmsg, hvariant⟩ := hforwards
    exact hforeign (htells.tells.mem hmsg packet hvariant)

/-- In every run whose notices fit, the flag agrees with the link, and no text message is
forwarded that came with no phone attached. -/
theorem agrees_run (env : Env) (board : Board) (mac : Bytes) (storage : S)
    (pkcKeypair : Key × Key) (entropy : Nat → UInt32) (events : List Firmware.Event)
    (hsourced : ∀ event ∈ events, event.Sourced)
    (hfits : Transition.Always (step env board) (NoticeFits board)
      (boot env mac storage pkcKeypair entropy) events) :
    Agrees env
      (Transition.run (step env board) (boot env mac storage pkcKeypair entropy) events) := by
  have hboot : Settled (boot env mac storage pkcKeypair entropy) := Settled.start rfl rfl rfl rfl
  have hstep : ∀ (run : LinkRun S) (event : Firmware.Event), Settled run →
      event.Sourced ∧ NoticeFits board run event → Settled (run.step env board event) :=
    fun _ _ h hboth => settled_step h hboth.1 hboth.2
  have hall : Transition.Always (step env board) (fun _ event => event.Sourced)
      (boot env mac storage pkcKeypair entropy) events :=
    Transition.always_of_forall hsourced _
  exact agrees_of_settled (Transition.invariant_run hstep hboot (hall.and hfits))

omit [MeshStorage S] in
instance (run : LinkRun S) (event : Firmware.Event) : Decidable (NoticeFits board run event) :=
  inferInstanceAs (Decidable ((_ → _ → _) ∧ (_ → _)))

def bootedLink : LinkRun FakeStorage :=
  boot KnownAnswers.defaultKey.env KnownAnswers.mac {} KnownAnswers.noKeypair
    KnownAnswers.noEntropy

/-- A phone has an encrypted link, and the mesh task knows. -/
def linking : List Firmware.Event :=
  [.announce, .advertised true, .accepted true, .gatt .encrypted, .receive]

def heardAck : Firmware.Event := .posted (.loraRx FromRadio.strangerAck ⟨0, 0⟩)

/-- The phone leaves, and a frame comes after it. -/
def leavingRun : List Firmware.Event :=
  linking ++ [.gatt .disconnected, heardAck, .receive, .receive]

theorem leavingRun_agrees :
    Agrees KnownAnswers.defaultKey.env
      (Transition.run (step KnownAnswers.defaultKey.env .nrf52) bootedLink leavingRun) := by
  refine @agrees_run FakeStorage _ KnownAnswers.defaultKey.env .nrf52 KnownAnswers.mac {}
    KnownAnswers.noKeypair KnownAnswers.noEntropy leavingRun ?_ ?_
  · unfold leavingRun linking heardAck
    simp [Firmware.Event.Sourced]
  · decide

/-- The phone leaves while a burst of frames fills `mesh_in`. -/
def burstRun : List Firmware.Event :=
  linking ++ List.replicate 16 heardAck ++ [.gatt .disconnected] ++ List.replicate 16 .receive

def burstLink (board : Board) : LinkRun FakeStorage :=
  Transition.run (step KnownAnswers.defaultKey.env board) bootedLink burstRun

/-- On both boards the mesh task goes on as if the phone were there. -/
theorem burstLink_not_agrees :
    ¬ Agrees KnownAnswers.defaultKey.env (burstLink .esp32) ∧
      ¬ Agrees KnownAnswers.defaultKey.env (burstLink .nrf52) := by
  have hmissed : ∀ board, (burstLink board).fw.meshIn.isEmpty = true ∧
      (burstLink board).fw.isLinked = false ∧
      (burstLink board).fw.mesh.ctx.bleConnected = true := by
    intro board
    cases board <;> decide +kernel
  have hnot : ∀ board, ¬ Agrees KnownAnswers.defaultKey.env (burstLink board) := by
    intro board hagrees
    obtain ⟨hempty, hidle, hflag⟩ := hmissed board
    exact Bool.false_ne_true ((hagrees.idle (List.isEmpty_iff.mp hempty) hidle).symm.trans hflag)
  exact ⟨hnot .esp32, hnot .nrf52⟩

end LinkRun

end Meshtastenstein
