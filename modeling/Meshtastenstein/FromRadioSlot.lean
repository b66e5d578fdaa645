import Meshtastenstein.BleSessions
import Meshtastenstein.LinkState
import Meshtastenstein.Lib.SingleSlot
import Meshtastenstein.PhoneWire
/-!
# Reading `from_radio`

A connection hands its messages out through a buffer of one, which the notification or the
read itself fills.  In a view of buffer and queue every turn of the event loop is an
operation on a queue behind a slot, so the replies are what was queued, in order.
-/

namespace Meshtastenstein.Firmware

open Lib

variable {S : Type}

/-! ## Turns -/

/-- A turn of the event loop, or a step of another task between two turns. -/
inductive Turn
  | step (event : Event)
  /-- `radio_stats` has been signalled. -/
  | radioStats
  /-- `bat_level` has been signalled, and the level is notified. -/
  | batLevel (level : UInt8)

def outbox (fw : Firmware S) : SingleSlot FromRadioMessage where
  slot :=
    match fw.phase with
    | .connected conn => conn.fromRadio
    | _ => none
  queue := fw.mesh.ctx.txToBle

/-- The reply to a read of `from_radio`. -/
def readReply (env : Env) (fw : Firmware S) : Turn → Option Bytes
  | .step (.gatt .fromRadioRead) =>
      match fw.phase with
      | .connected conn =>
          match conn.fromRadio with
          | some msg => some (encodeFromRadio env msg).toList
          | none =>
              match fw.mesh.ctx.txToBle with
              | msg :: _ => some (encodeFromRadio env msg).toList
              | [] => some []
      | _ => none
  | _ => none

variable [MeshStorage S] (env : Env)

def turn (board : Board) (fw : Firmware S) : Turn → Firmware S
  | .step event => step env board fw event
  | .radioStats => fw
  | .batLevel _ => fw

def queuedIn (fw : Firmware S) : Turn → List FromRadioMessage
  | .step event =>
      match fw.meshEvent event with
      | some work =>
          (MeshState.step env fw.mesh work).ctx.txToBle.drop fw.mesh.ctx.txToBle.length
      | none => []
  | _ => []

def slotOps (fw : Firmware S) : Turn → List (SingleSlot.Op FromRadioMessage)
  | .step (.gatt .fromRadioRead) => [.take]
  | .step .txReady =>
      match fw.phase with
      | .connected conn => if conn.shouldNotify then [.fetch] else []
      | _ => []
  | turn => [.put (queuedIn env fw turn)]

/-- The connection goes on. -/
def StaysConnected (board : Board) (fw : Firmware S) (t : Turn) : Prop :=
  fw.isLinked = true ∧ (turn env board fw t).isLinked = true

instance (board : Board) (fw : Firmware S) (t : Turn) :
    Decidable (StaysConnected env board fw t) :=
  inferInstanceAs (Decidable (_ ∧ _))

variable {env} {board : Board}

/-! ## A turn -/

omit [MeshStorage S] in
theorem outbox_of_connected {fw : Firmware S} {conn : GattConnection}
    (h : fw.phase = .connected conn) :
    fw.outbox = { slot := conn.fromRadio, queue := fw.mesh.ctx.txToBle } := by
  unfold outbox
  rw [h]

omit [MeshStorage S] in
theorem ne_bleTaken_of_meshEvent {fw : Firmware S} {event : Event} {work : MeshState.Event}
    (h : fw.meshEvent event = some work) : work ≠ .bleTaken := by
  rintro rfl
  cases event with
  | receive =>
      unfold meshEvent at h
      dsimp only at h
      split at h
      · obtain ⟨_, -, hnot⟩ := Option.map_eq_some_iff.mp h
        cases hnot
      · cases h
  | _ => cases h

/-- The mesh task only adds to the queue, unless it restarts the node. -/
theorem outbox_runMesh {fw : Firmware S} {event : Event} {work : MeshState.Event}
    (hwork : fw.meshEvent event = some work)
    (hlinked : (step env board fw event).isLinked = true) :
    (step env board fw event).outbox =
      fw.outbox.step (.put (queuedIn env fw (.step event))) := by
  rw [step_of_meshEvent hwork] at hlinked ⊢
  cases hrestarts : MeshState.restarts env fw.mesh work with
  | true =>
      unfold runMesh at hlinked
      rw [if_pos hrestarts] at hlinked
      cases hlinked
  | false =>
      obtain ⟨msgs, hqueue⟩ :=
        MeshState.txToBle_step (ne_bleTaken_of_meshEvent hwork) hrestarts
      have hqueued : queuedIn env fw (.step event) = msgs := by
        unfold queuedIn
        dsimp only
        rw [hwork]
        dsimp only
        rw [hqueue, List.drop_left]
      have hstays : ¬ MeshState.restarts env fw.mesh work = true := by
        rw [hrestarts]
        exact Bool.false_ne_true
      unfold runMesh
      rw [hqueued, if_neg hstays]
      unfold outbox SingleSlot.step stamped
      dsimp only
      rw [hqueue]

/-- A step in which the mesh task does nothing and the phone reads nothing leaves buffer and
queue alone. -/
theorem outbox_of_none {fw : Firmware S} {event : Event} (hwork : fw.meshEvent event = none)
    (hread : event ≠ .gatt .fromRadioRead) (hready : event ≠ .txReady)
    (hlinked : fw.isLinked = true) (hstays : (step env board fw event).isLinked = true) :
    (step env board fw event).outbox = fw.outbox := by
  obtain ⟨conn, hphase⟩ := exists_connected hlinked
  unfold step at hstays ⊢
  cases event with
  | receive =>
      exact congrArg outbox (receive_of_none hwork)
  | posted event => rfl
  | watchdogDisconnect => rfl
  | advertised ok =>
      rw [hphase]
  | accepted ok =>
      rw [hphase]
  | gatt event =>
      rw [hphase] at hstays ⊢
      dsimp only at hstays ⊢
      unfold handleGatt at hstays ⊢
      cases event with
      | disconnected => cases hstays
      | pairingComplete bond => cases bond <;> rfl
      | pairingFailed peerRejected => cases peerRejected <;> rfl
      | subscribed shouldNotify =>
          unfold outbox
          rw [hphase]
      | fromRadioRead => exact absurd rfl hread
      | _ => rfl
  | txReady => exact absurd rfl hready
  | disconnCmd =>
      rw [hphase] at hstays ⊢
      dsimp only at hstays ⊢
      split at hstays
      · rename_i hempty
        rw [if_pos hempty]
      · cases hstays
  | hostFailed =>
      cases board with
      | esp32 => cases hstays
      | nrf52 => rfl
  | _ => cases hwork

theorem outbox_fromRadioRead {fw : Firmware S} {conn : GattConnection}
    (hphase : fw.phase = .connected conn) :
    (step env board fw (.gatt .fromRadioRead)).outbox = fw.outbox.step .take := by
  have hstep : step env board fw (.gatt .fromRadioRead) = fw.replyFromRadio conn :=
    step_gatt hphase .fromRadioRead
  rw [hstep, outbox_of_connected hphase]
  unfold replyFromRadio
  cases hslot : conn.fromRadio with
  | some msg => rfl
  | none =>
      cases hqueue : fw.mesh.ctx.txToBle with
      | nil =>
          rw [outbox_of_connected hphase, hslot, hqueue]
          rfl
      | cons msg rest =>
          unfold outbox takeMessage withCtx
          dsimp only
          rw [hphase]
          dsimp only
          rw [hslot]
          unfold MeshState.withCtx
          rw [hqueue]
          rfl

theorem outbox_txReady {fw : Firmware S} {conn : GattConnection}
    (hphase : fw.phase = .connected conn) :
    (step env board fw .txReady).outbox =
      Transition.run SingleSlot.step fw.outbox (slotOps env fw (.step .txReady)) := by
  have hstep : step env board fw .txReady = fw.notifyFromNum conn := by
    unfold step
    rw [hphase]
  have hops : slotOps env fw (.step .txReady) = if conn.shouldNotify then [.fetch] else [] := by
    unfold slotOps
    rw [hphase]
  rw [hstep, hops]
  unfold notifyFromNum
  cases hnotify : conn.shouldNotify with
  | false => rfl
  | true =>
      rw [outbox_of_connected hphase]
      cases hslot : conn.fromRadio with
      | some msg =>
          rw [if_neg (by simp), outbox_of_connected hphase, hslot]
          rfl
      | none =>
          rw [if_pos (by simp)]
          cases hqueue : fw.mesh.ctx.txToBle with
          | nil =>
              rw [outbox_of_connected hphase, hslot, hqueue]
              rfl
          | cons msg rest =>
              unfold outbox takeMessage withCtx MeshState.withCtx
              dsimp only
              rw [hqueue]
              rfl

theorem outbox_turn {fw : Firmware S} {t : Turn} (h : StaysConnected env board fw t) :
    (turn env board fw t).outbox =
      Transition.run SingleSlot.step fw.outbox (slotOps env fw t) := by
  obtain ⟨hlinked, hstays⟩ := h
  obtain ⟨conn, hphase⟩ := exists_connected hlinked
  have hput : ∀ t, queuedIn env fw t = [] →
      fw.outbox.step (.put (queuedIn env fw t)) = fw.outbox := by
    intro t hnothing
    rw [hnothing, SingleSlot.step_put_nil]
  cases t with
  | radioStats => exact (hput .radioStats rfl).symm
  | batLevel level => exact (hput (.batLevel level) rfl).symm
  | step event =>
      by_cases hread : event = .gatt .fromRadioRead
      · subst hread
        exact @outbox_fromRadioRead S _ env board fw conn hphase
      · by_cases hready : event = .txReady
        · subst hready
          exact @outbox_txReady S _ env board fw conn hphase
        · have hops : slotOps env fw (.step event) =
              [.put (queuedIn env fw (.step event))] := by
            unfold slotOps
            split
            · rename_i heq
              cases heq
              exact absurd rfl hread
            · rename_i heq
              cases heq
              exact absurd rfl hready
            · rfl
          rw [hops]
          cases hwork : fw.meshEvent event with
          | some work => exact outbox_runMesh hwork hstays
          | none =>
              have hnothing : queuedIn env fw (.step event) = [] := by
                unfold queuedIn
                dsimp only
                rw [hwork]
              exact (outbox_of_none hwork hread hready hlinked hstays).trans
                (hput (.step event) hnothing).symm

theorem added_slotOps (fw : Firmware S) (t : Turn) :
    (slotOps env fw t).flatMap SingleSlot.Op.added = queuedIn env fw t := by
  unfold slotOps
  split
  · rfl
  · split
    · split <;> rfl
    · rfl
  · simp [SingleSlot.Op.added]

omit [MeshStorage S] in
theorem readReply_of_connected {fw : Firmware S} {conn : GattConnection}
    (hphase : fw.phase = .connected conn) :
    readReply env fw (.step (.gatt .fromRadioRead)) =
      some ((fw.outbox.waiting.head?.map fun msg => (encodeFromRadio env msg).toList).getD []) := by
  unfold readReply
  rw [hphase, outbox_of_connected hphase]
  dsimp only
  cases conn.fromRadio with
  | some msg => rfl
  | none => cases fw.mesh.ctx.txToBle <;> rfl

omit [MeshStorage S] in
theorem readReply_of_ne {fw : Firmware S} {t : Turn} (h : t ≠ .step (.gatt .fromRadioRead)) :
    readReply env fw t = none := by
  unfold readReply
  split
  · exact absurd rfl h
  · rfl

theorem taken_of_ne {fw : Firmware S} {t : Turn} (h : t ≠ .step (.gatt .fromRadioRead)) :
    Transition.observed SingleSlot.step SingleSlot.taken fw.outbox (slotOps env fw t) = [] := by
  unfold slotOps
  split
  · exact absurd rfl h
  · split
    · split <;> rfl
    · rfl
  · rfl

theorem readReply_eq {fw : Firmware S} {t : Turn} (h : StaysConnected env board fw t) :
    (readReply env fw t).toList.filter (fun reply => !reply.isEmpty) =
      ((Transition.observed SingleSlot.step SingleSlot.taken fw.outbox (slotOps env fw t)).map
        fun msg => (encodeFromRadio env msg).toList).filter fun reply => !reply.isEmpty := by
  obtain ⟨conn, hphase⟩ := exists_connected h.1
  by_cases hread : t = .step (.gatt .fromRadioRead)
  · subst hread
    have htaken : Transition.observed SingleSlot.step SingleSlot.taken fw.outbox
        (slotOps env fw (.step (.gatt .fromRadioRead))) = fw.outbox.waiting.head?.toList :=
      List.append_nil _
    rw [readReply_of_connected hphase, htaken]
    cases fw.outbox.waiting.head? <;> rfl
  · rw [readReply_of_ne hread, taken_of_ne hread]
    rfl

/-! ## A connection -/

variable (env board) in
/-- The replies to the reads of `from_radio`, in order. -/
def repliesOver (fw : Firmware S) (turns : List Turn) : List Bytes :=
  Transition.observed (turn env board) (fun fw t => (readReply env fw t).toList) fw turns

variable (env board) in
/-- The messages that wait for a connection and come into the queue during it. -/
def queuedOver (fw : Firmware S) (turns : List Turn) : List FromRadioMessage :=
  fw.outbox.waiting ++ Transition.observed (turn env board) (queuedIn env) fw turns

variable (env board) in
/-- The replies with content are what was queued, in order, up to what still waits, and
a reply without content says that nothing does. -/
structure HandsOut (fw : Firmware S) (turns : List Turn) : Prop where
  in_order : (repliesOver env board fw turns).filter (fun reply => !reply.isEmpty) <+:
    (queuedOver env board fw turns).map fun msg => (encodeFromRadio env msg).toList
  nothing_lost : (repliesOver env board fw turns).filter (fun reply => !reply.isEmpty) ++
      ((Transition.run (turn env board) fw turns).outbox.waiting.map fun msg =>
        (encodeFromRadio env msg).toList) =
    (queuedOver env board fw turns).map fun msg => (encodeFromRadio env msg).toList
  empty_at_end : ∀ earlier t later, turns = earlier ++ t :: later →
    let before := Transition.run (turn env board) fw earlier
    readReply env before t = some [] → before.outbox.slot = none ∧ before.outbox.queue = []

theorem taken_append_waiting {fw : Firmware S} {turns : List Turn}
    (hstays : Transition.Always (turn env board) (StaysConnected env board) fw turns) :
    Transition.observed SingleSlot.step SingleSlot.taken fw.outbox
        (Transition.observed (turn env board) (slotOps env) fw turns) ++
      (Transition.run (turn env board) fw turns).outbox.waiting =
    queuedOver env board fw turns := by
  have hview := Transition.run_view_of_always outbox (fun _ _ h => outbox_turn h) hstays
  have hadded : (Transition.observed (turn env board) (slotOps env) fw turns).flatMap
      SingleSlot.Op.added = Transition.observed (turn env board) (queuedIn env) fw turns := by
    rw [Transition.flatMap_observed]
    exact Transition.observed_congr (fun fw t _ => added_slotOps fw t) hstays
  rw [hview, SingleSlot.taken_append_waiting_run, hadded]
  rfl

theorem filter_repliesOver {fw : Firmware S} {turns : List Turn}
    (hstays : Transition.Always (turn env board) (StaysConnected env board) fw turns)
    (hcontent : ∀ msg ∈ queuedOver env board fw turns, (encodeFromRadio env msg).toList ≠ []) :
    (repliesOver env board fw turns).filter (fun reply => !reply.isEmpty) =
      (Transition.observed SingleSlot.step SingleSlot.taken fw.outbox
        (Transition.observed (turn env board) (slotOps env) fw turns)).map
          fun msg => (encodeFromRadio env msg).toList := by
  have hsees : (repliesOver env board fw turns).filter (fun reply => !reply.isEmpty) =
      ((Transition.observed SingleSlot.step SingleSlot.taken fw.outbox
        (Transition.observed (turn env board) (slotOps env) fw turns)).map
          fun msg => (encodeFromRadio env msg).toList).filter fun reply => !reply.isEmpty := by
    unfold repliesOver
    rw [Transition.filter_observed, Transition.map_observed, Transition.filter_observed]
    apply Transition.observed_view_of_always outbox (fun _ _ h => outbox_turn h) _ hstays
    intro fw t h
    rw [readReply_eq h, Transition.map_observed, Transition.filter_observed]
  rw [hsees, List.filter_eq_self]
  intro reply hreply
  obtain ⟨msg, hmsg, rfl⟩ := List.mem_map.mp hreply
  have hqueued : msg ∈ queuedOver env board fw turns := by
    rw [← taken_append_waiting hstays]
    exact List.mem_append_left _ hmsg
  simpa using hcontent msg hqueued

theorem mem_queuedOver_of_waiting {fw : Firmware S} {earlier later : List Turn}
    (hstays : Transition.Always (turn env board) (StaysConnected env board) fw (earlier ++ later))
    {msg : FromRadioMessage}
    (h : msg ∈ (Transition.run (turn env board) fw earlier).outbox.waiting) :
    msg ∈ queuedOver env board fw (earlier ++ later) := by
  have hqueued : msg ∈ queuedOver env board fw earlier := by
    rw [← taken_append_waiting hstays.of_append]
    exact List.mem_append_right _ h
  unfold queuedOver at hqueued ⊢
  rw [Transition.observed_append, ← List.append_assoc]
  exact List.mem_append_left _ hqueued

omit [MeshStorage S] in
theorem outbox_of_readReply_nil {fw : Firmware S} {t : Turn} (hlinked : fw.isLinked = true)
    (hcontent : ∀ msg ∈ fw.outbox.waiting, (encodeFromRadio env msg).toList ≠ [])
    (hempty : readReply env fw t = some []) : fw.outbox.slot = none ∧ fw.outbox.queue = [] := by
  obtain ⟨conn, hphase⟩ := exists_connected hlinked
  by_cases hread : t = .step (.gatt .fromRadioRead)
  · subst hread
    rw [readReply_of_connected hphase] at hempty
    cases hfirst : fw.outbox.waiting with
    | nil => simpa [SingleSlot.waiting] using hfirst
    | cons msg rest =>
        rw [hfirst] at hempty hcontent
        exact absurd (Option.some.inj hempty) (hcontent msg List.mem_cons_self)
  · rw [readReply_of_ne hread] at hempty
    cases hempty

/-- In every connection whose messages all have content, on either board, the reads hand out
what was queued, in order. -/
theorem handsOut {fw : Firmware S} {turns : List Turn}
    (hstays : Transition.Always (turn env board) (StaysConnected env board) fw turns)
    (hcontent : ∀ msg ∈ queuedOver env board fw turns, (encodeFromRadio env msg).toList ≠ []) :
    HandsOut env board fw turns := by
  have hlost : (repliesOver env board fw turns).filter (fun reply => !reply.isEmpty) ++
      ((Transition.run (turn env board) fw turns).outbox.waiting.map fun msg =>
        (encodeFromRadio env msg).toList) =
      (queuedOver env board fw turns).map fun msg => (encodeFromRadio env msg).toList := by
    rw [filter_repliesOver hstays hcontent, ← List.map_append, taken_append_waiting hstays]
  refine ⟨⟨_, hlost⟩, hlost, ?_⟩
  rintro earlier t later rfl before hempty
  have hlinked := (hstays ⟨before, t, turn env board before t⟩ (by
    rw [Transition.trace_append]
    exact List.mem_append_right _ List.mem_cons_self)).1
  exact outbox_of_readReply_nil hlinked
    (fun msg hmsg => hcontent msg (mem_queuedOver_of_waiting hstays hmsg)) hempty

def wantNodes : Bytes := [0x18, 0xad, 0x9e, 0x04]

def listening : Firmware FakeStorage :=
  Transition.run (step KnownAnswers.defaultKey.phoneEnv .esp32)
    (boot KnownAnswers.defaultKey.phoneEnv KnownAnswers.mac {} KnownAnswers.noKeypair
      KnownAnswers.noEntropy) [.announce, .advertised true, .accepted true]

/-- The phone asks for the node list, is notified of the first message and reads it, the
second, and that there is no third. -/
def listRun : List Turn :=
  [.step (.gatt (.toRadioWrite wantNodes)), .step .receive, .step (.gatt (.subscribed true)),
    .step .txReady, .radioStats, .step (.gatt .fromRadioRead), .batLevel 80,
    .step (.gatt .fromRadioRead), .step (.gatt .fromRadioRead)]

theorem listRun_handsOut :
    (repliesOver KnownAnswers.defaultKey.phoneEnv .esp32 listening listRun).map List.length =
      [84, 6, 0] ∧
    HandsOut KnownAnswers.defaultKey.phoneEnv .esp32 listening listRun :=
  ⟨by decide +kernel, handsOut (by decide +kernel) (by decide +kernel)⟩

end Meshtastenstein.Firmware
