import Meshtastenstein.BleTask
import Meshtastenstein.LoraTask
import Meshtastenstein.Pieces
/-!
# A board with its radio

The LoRa task beside the other tasks of the firmware.  It takes the frames that the mesh task
queued, and sends them while the others go on.
-/

namespace Meshtastenstein

open Lib

variable {S : Type}

structure RadioBoard (S : Type) where
  firmware : Firmware S
  lora : LoraTask

/-! ## Frames between the tasks -/

namespace MeshState

variable [MeshStorage S] {env : Env}

/-- Unless the LoRa task takes a frame, a step only adds to its queue, or empties it with a
restart. -/
theorem txToLora_step (state : MeshState S) {event : Event} (htaken : event ≠ .loraTaken) :
    (step env state event).ctx.txToLora = [] ∨
      ∃ sent, (step env state event).ctx.txToLora = state.ctx.txToLora ++ sent := by
  cases hrestart : restarts env state event with
  | true =>
      obtain ⟨housed, -, hreboot⟩ := step_of_restarts hrestart
      rw [hreboot]
      exact Or.inl rfl
  | false =>
      right
      obtain ⟨_, _, _, hstep⟩ := step_of_not_restarts hrestart
      rw [hstep]
      by_cases hrelay : event = .rebroadcastDue
      · subst hrelay
        unfold handled
        dsimp only
        split
        · rcases fireRebroadcast_cases state.ctx with hnone | ⟨i, pending, -, hsent⟩
          · rw [hnone]
            exact ⟨[], (List.append_nil _).symm⟩
          · rw [hsent]
            exact ⟨_, rfl⟩
        · exact ⟨[], (List.append_nil _).symm⟩
      · obtain ⟨sent, hsends⟩ := (@pieces_handled S env _ state event hrelay htaken).sends
        exact ⟨sent, hsends.lora⟩

end MeshState

namespace Firmware

variable [MeshStorage S] (env : Env) (board : Board)

def queued (fw : Firmware S) (event : Event) : List RadioFrame :=
  (fw.step env board event).mesh.ctx.txToLora.drop fw.mesh.ctx.txToLora.length

omit [MeshStorage S] in
/-- The frame that the LoRa task takes to send it. -/
def handed (fw : Firmware S) : Event → List RadioFrame
  | .loraTaken => if fw.mesh.ctx.txEnabled then fw.mesh.ctx.txToLora.head?.toList else []
  | _ => []

variable {env board}

theorem handed_step (fw : Firmware S) (event : Event) :
    (fw.handed event ++ (fw.step env board event).mesh.ctx.txToLora).Sublist
      (fw.mesh.ctx.txToLora ++ fw.queued env board event) := by
  by_cases htaken : event = .loraTaken
  · subst htaken
    refine List.Sublist.trans ?_ (List.sublist_append_left _ _)
    have hstep : (fw.step env board .loraTaken).mesh.ctx.txToLora =
        fw.mesh.ctx.txToLora.tail := by
      rw [mesh_step_of_meshEvent (rfl : fw.meshEvent .loraTaken = some .loraTaken)]
      rfl
    rw [hstep]
    unfold handed
    dsimp only
    split
    · cases fw.mesh.ctx.txToLora with
      | nil => exact .refl _
      | cons frame frames => exact .refl _
    · exact List.tail_sublist _
  have hnothing : fw.handed event = [] := by
    unfold handed
    split
    · exact absurd rfl htaken
    · rfl
  have hqueue : (fw.step env board event).mesh.ctx.txToLora = [] ∨
      ∃ sent, (fw.step env board event).mesh.ctx.txToLora = fw.mesh.ctx.txToLora ++ sent := by
    cases hwork : fw.meshEvent event with
    | none =>
        obtain ⟨_, _, hmesh⟩ := @mesh_step_of_none _ _ env board fw event hwork
        rw [hmesh]
        exact Or.inr ⟨[], (List.append_nil _).symm⟩
    | some work =>
        rw [mesh_step_of_meshEvent hwork]
        apply MeshState.txToLora_step
        rintro rfl
        cases event with
        | receive =>
            unfold meshEvent at hwork
            dsimp only at hwork
            split at hwork
            · obtain ⟨_, -, hmesh⟩ := Option.map_eq_some_iff.mp hwork
              cases hmesh
            · cases hwork
        | loraTaken => exact htaken rfl
        | _ => cases hwork
  unfold queued
  rw [hnothing, List.nil_append]
  rcases hqueue with hempty | ⟨sent, hsent⟩
  · rw [hempty]
    exact List.nil_sublist _
  · rw [hsent, List.drop_left]

end Firmware

namespace RadioBoard

/-! ## Steps -/

inductive Event
  /-- The other tasks go on, or the LoRa task takes a frame if it waits for one. -/
  | firmware (event : Firmware.Event)
  | radio (answer : LoraAnswer)

/-- The frame that the LoRa task takes when it looks into its queue. -/
def nextFrame (node : RadioBoard S) : Option RadioFrame :=
  match node.lora.phase with
  | .receiving _ => node.firmware.mesh.ctx.txToLora.head?
  | _ => none

def nodeNum (node : RadioBoard S) : UInt32 := node.firmware.mesh.ctx.device.myNodeNum

def duration : Firmware.Event → Nat
  | .elapse ms => ms
  | _ => 0

variable [MeshStorage S] (env : Env) (board : Board)

def restarts (node : RadioBoard S) (event : Firmware.Event) : Bool :=
  (node.firmware.meshEvent event).any (MeshState.restarts env node.firmware.mesh)

/-- The other tasks and the clock go on; after a restart the LoRa task starts over. -/
def runFirmware (node : RadioBoard S) (event : Firmware.Event) : RadioBoard S where
  firmware := node.firmware.step env board event
  lora :=
    if node.restarts env event then LoraTask.init 0
    else node.lora.step node.nodeNum (.elapse (duration event))

def takeFrame (node : RadioBoard S) : RadioBoard S :=
  match node.nextFrame with
  | some frame =>
      { firmware := node.firmware.step env board .loraTaken
        lora := node.lora.step node.nodeNum
          (.taken frame node.firmware.mesh.ctx.txEnabled) }
  | none => node

omit [MeshStorage S] in
/-- The LoRa task goes on, and what it posts is dropped where `mesh_in` has no room. -/
def answer (node : RadioBoard S) (answer : LoraAnswer) : RadioBoard S where
  firmware :=
    (node.lora.posted node.nodeNum (.answered answer)).foldl Firmware.tryPost node.firmware
  lora := node.lora.step node.nodeNum (.answered answer)

def step (node : RadioBoard S) : Event → RadioBoard S
  | .firmware .loraTaken => node.takeFrame env board
  | .firmware event => node.runFirmware env board event
  | .radio answer => node.answer answer

def boot (mac : Bytes) (storage : S) (pkcKeypair : Key × Key) (entropy : Nat → UInt32) :
    RadioBoard S where
  firmware := Firmware.boot env mac storage pkcKeypair entropy
  lora := LoraTask.init 0

/-! ## The firmware on the board -/

omit [MeshStorage S] in
/-- What the other tasks see of a step. -/
def inputs (node : RadioBoard S) : Event → List Firmware.Event
  | .firmware .loraTaken => if node.nextFrame.isSome then [.loraTaken] else []
  | .firmware event => [event]
  | .radio answer => (node.lora.posted node.nodeNum (.answered answer)).map .posted

omit [MeshStorage S] in
/-- The frames that a step sends. -/
def radiated (node : RadioBoard S) : Event → List RadioFrame
  | .radio answer =>
      ((node.lora.outcomes (.answered answer)).filter Prod.snd).map Prod.fst
  | _ => []

variable {env board}

theorem step_firmware (node : RadioBoard S) {event : Firmware.Event}
    (h : event ≠ .loraTaken) :
    node.step env board (.firmware event) = node.runFirmware env board event ∧
      node.inputs (.firmware event) = [event] := by
  cases event with
  | loraTaken => exact absurd rfl h
  | _ => exact ⟨rfl, rfl⟩

theorem firmware_step (node : RadioBoard S) (event : Event) :
    (node.step env board event).firmware =
      Transition.run (Firmware.step env board) node.firmware (node.inputs event) := by
  cases event with
  | firmware event =>
      by_cases htaken : event = .loraTaken
      · subst htaken
        unfold step inputs takeFrame
        dsimp only
        cases node.nextFrame with
        | none => rfl
        | some frame => rfl
      · obtain ⟨hstep, hinputs⟩ := @step_firmware S _ env board node event htaken
        rw [hstep, hinputs]
        rfl
  | radio answer =>
      unfold inputs Transition.run
      dsimp only
      rw [List.foldl_map]
      rfl

omit [MeshStorage S] in
theorem handed_posted [MeshStorage S] (fw : Firmware S) (events : List MeshEvent) :
    Transition.observed (Firmware.step env board) Firmware.handed fw (events.map .posted) = [] := by
  induction events generalizing fw with
  | nil => rfl
  | cons event events ih =>
      rw [List.map_cons, Transition.observed_cons, ih]
      rfl

omit [MeshStorage S] in
theorem handed_of_ne {fw : Firmware S} {event : Firmware.Event} (h : event ≠ .loraTaken) :
    fw.handed event = [] := by
  unfold Firmware.handed
  split
  · exact absurd rfl h
  · rfl

omit [MeshStorage S] in
theorem receiving_of_nextFrame {node : RadioBoard S} {frame : RadioFrame}
    (h : node.nextFrame = some frame) :
    (∃ since, node.lora.phase = .receiving since) ∧
      node.firmware.mesh.ctx.txToLora.head? = some frame := by
  unfold nextFrame at h
  split at h
  · rename_i since hphase
    exact ⟨⟨since, hphase⟩, h⟩
  · cases h

/-- A frame goes from the queue into the hand of the LoRa task, and from there into the air. -/
theorem radiated_step (node : RadioBoard S) (event : Event) :
    (node.radiated event ++ (node.step env board event).lora.inHand).Sublist
      (node.lora.inHand ++ Transition.observed (Firmware.step env board) Firmware.handed
        node.firmware (node.inputs event)) := by
  cases event with
  | firmware event =>
      by_cases htaken : event = .loraTaken
      · subst htaken
        unfold step inputs takeFrame
        dsimp only
        cases hnext : node.nextFrame with
        | none => exact List.sublist_append_left _ _
        | some frame =>
            obtain ⟨⟨since, hphase⟩, hhead⟩ := receiving_of_nextFrame hnext
            have htakes := @LoraTask.outcomes_step node.nodeNum node.lora
              (.taken frame node.firmware.mesh.ctx.txEnabled)
            have hhanded : node.lora.takes (.taken frame node.firmware.mesh.ctx.txEnabled) =
                node.firmware.handed .loraTaken := by
              unfold Firmware.handed
              dsimp only
              rw [hhead]
              cases node.firmware.mesh.ctx.txEnabled with
              | true => exact LoraTask.takes_of_receiving hphase frame
              | false => rfl
            rw [hhanded] at htakes
            have hinHand : (node.lora.step node.nodeNum
                (.taken frame node.firmware.mesh.ctx.txEnabled)).inHand =
                  node.lora.inHand ++ node.firmware.handed .loraTaken := htakes
            dsimp only [Option.isSome_some]
            rw [if_pos rfl, hinHand, Transition.observed_singleton]
            exact .refl _
      · obtain ⟨hstep, hinputs⟩ := @step_firmware S _ env board node event htaken
        rw [hstep, hinputs, Transition.observed_singleton, handed_of_ne htaken]
        unfold runFirmware
        dsimp only
        split
        · exact List.nil_sublist _
        · exact List.sublist_append_left _ _
  | radio answer =>
      have houtcomes := @LoraTask.outcomes_step node.nodeNum node.lora (.answered answer)
      have hposted : Transition.observed (Firmware.step env board) Firmware.handed node.firmware
          (node.inputs (.radio answer)) = [] := handed_posted _ _
      have hnothing : node.lora.takes (.answered answer) = [] := rfl
      rw [hnothing] at houtcomes
      rw [hposted, ← houtcomes]
      exact (List.filter_sublist.map Prod.fst).append_right _

/-- Over any run the firmware on the board goes on as it would alone, and the board sends, in the
order in which the mesh task queued them and each at most once, only frames that were taken from
the queue while sending was enabled. -/
theorem radiated_run (board : Board) (mac : Bytes) (storage : S) (pkcKeypair : Key × Key)
    (entropy : Nat → UInt32) (events : List Event) :
    ∃ inputs,
      (Transition.run (step env board) (boot env mac storage pkcKeypair entropy) events).firmware =
        Transition.run (Firmware.step env board)
          (Firmware.boot env mac storage pkcKeypair entropy) inputs ∧
      (Transition.observed (step env board) radiated (boot env mac storage pkcKeypair entropy)
        events).Sublist
        (Transition.observed (Firmware.step env board) Firmware.handed
          (Firmware.boot env mac storage pkcKeypair entropy) inputs) ∧
      (Transition.observed (Firmware.step env board) Firmware.handed
        (Firmware.boot env mac storage pkcKeypair entropy) inputs).Sublist
        (Transition.observed (Firmware.step env board) (Firmware.queued env board)
          (Firmware.boot env mac storage pkcKeypair entropy) inputs) := by
  refine ⟨Transition.observed (step env board) inputs (boot env mac storage pkcKeypair entropy)
    events, ?_, ?_, ?_⟩
  · exact Transition.run_view RadioBoard.firmware firmware_step _ events
  · have hradiated := Transition.observed_sublist (step env board)
      (fun node : RadioBoard S => node.lora.inHand) radiated_step
      (boot env mac storage pkcKeypair entropy) events
    have hhanded : Transition.observed (step env board)
        (fun node event => Transition.observed (Firmware.step env board) Firmware.handed
          node.firmware (inputs node event)) (boot env mac storage pkcKeypair entropy) events =
        Transition.observed (Firmware.step env board) Firmware.handed
          (Firmware.boot env mac storage pkcKeypair entropy)
          (Transition.observed (step env board) inputs (boot env mac storage pkcKeypair entropy)
            events) :=
      Transition.observed_view RadioBoard.firmware firmware_step (fun _ _ => rfl) _ events
    rw [hhanded] at hradiated
    exact (List.sublist_append_left _ _).trans hradiated
  · have hqueued := Transition.observed_sublist (Firmware.step env board)
      (fun fw : Firmware S => fw.mesh.ctx.txToLora) Firmware.handed_step
      (Firmware.boot env mac storage pkcKeypair entropy)
    exact (List.sublist_append_left _ _).trans (hqueued _)

end RadioBoard

end Meshtastenstein
