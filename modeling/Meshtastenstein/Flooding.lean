import Mathlib.Algebra.Order.BigOperators.Group.Finset
import Meshtastenstein.MeshNetwork
import Meshtastenstein.RelayOnce
/-!
# The cost of a flood

A node puts the packet of another on the air at most as often as it takes it for new, which
without restarts is once in every 201 packets that are new to it.  Summed over the nodes this
bounds what one packet costs the whole network.
-/

namespace Meshtastenstein

open Lib Proto Handlers
open scoped BigOperators

/-! ## Counting what is spaced -/

theorem Spaced.suffix {before keys : List PacketKey} (h : Spaced (before ++ keys)) :
    Spaced keys := by
  intro key first between after hkeys
  apply h key (before ++ first) between after
  rw [hkeys, List.append_assoc]

theorem Spaced.count_le {keys : List PacketKey} (h : Spaced keys) (key : PacketKey) :
    (DUPLICATE_RING_SIZE + 1) * keys.count key ≤ keys.length + DUPLICATE_RING_SIZE := by
  induction hlength : keys.length using Nat.strong_induction_on generalizing keys with
  | h n ih =>
      by_cases hmem : key ∈ keys
      · obtain ⟨before, rest, rfl, hbefore⟩ := List.eq_append_cons_of_mem hmem
        have hcount : (before ++ key :: rest).count key = rest.count key + 1 := by
          rw [List.count_append, List.count_eq_zero_of_not_mem hbefore, List.count_cons_self,
            Nat.zero_add]
        by_cases hagain : key ∈ rest
        · obtain ⟨between, after, rfl, hbetween⟩ := List.eq_append_cons_of_mem hagain
          -- two hundred others lie before the next occurrence
          obtain ⟨others, hsub, -, -, hothers⟩ := h key before between after rfl
          have hlong : DUPLICATE_RING_SIZE ≤ between.length := hothers ▸ hsub.length_le
          have hrest : Spaced (key :: after) := by
            apply @Spaced.suffix (before ++ key :: between)
            rwa [List.append_assoc, List.cons_append]
          have hle := ih (key :: after).length
            (by simp only [List.length_append, List.length_cons] at hlength ⊢; omega) hrest rfl
          rw [hcount, List.count_append, List.count_eq_zero_of_not_mem hbetween, Nat.zero_add,
            Nat.mul_add]
          simp only [List.length_append, List.length_cons] at hlength hle
          omega
        · rw [hcount, List.count_eq_zero_of_not_mem hagain]
          simp only [List.length_append, List.length_cons] at hlength
          omega
      · rw [List.count_eq_zero_of_not_mem hmem]
        omega

/-! ## What one node puts on the air -/

namespace MeshState

variable {S : Type} {env : Env}

/-- Everything that waits for an acknowledgement bears the number. -/
def SignsWaiting (num : UInt32) (state : MeshState S) : Prop :=
  ∀ waiting ∈ state.ctx.pendingPackets.frames,
    waiting.header.map PacketHeader.sender = some num

structure Signs (num : UInt32) (state : MeshState S) : Prop where
  numbered : state.IsNumbered num
  waiting : state.SignsWaiting num

theorem sender_of_builds {ctx : MeshCtx S} {frame : RadioFrame} (h : ctx.Builds env frame) :
    frame.header.map PacketHeader.sender = some ctx.device.myNodeNum := by
  obtain ⟨tx, packetId, pkcKeys, hbuild⟩ := h
  obtain ⟨-, -, hheader, -⟩ := TxBuilder.build_eq_some hbuild
  rw [hheader]
  rfl

end MeshState

theorem RadioFrame.Repeats.sender_eq {frame original : RadioFrame} (h : frame.Repeats original) :
    frame.header.map PacketHeader.sender = original.header.map PacketHeader.sender := by
  have hsender := congrArg (Option.map PacketHeader.sender) h.header_eq
  rw [Option.map_map, Option.map_map] at hsender
  exact hsender

namespace MeshState

variable {S : Type} {env : Env}

/-- A series of pieces of a node that signs sends and keeps signed frames. -/
theorem sender_of_sends {num : UInt32} {before after : MeshCtx S} {sent : List RadioFrame}
    (h : Sends env before after sent) (hnum : before.device.myNodeNum = num)
    (hwaiting : ∀ waiting ∈ before.pendingPackets.frames,
      waiting.header.map PacketHeader.sender = some num) {frame : RadioFrame}
    (hframe : frame ∈ sent ∨ frame ∈ after.pendingPackets.frames) :
    frame.header.map PacketHeader.sender = some num := by
  rcases h.frames frame hframe with ⟨built, ⟨ctx, hbefore, -, hbuilds⟩, hrepeats⟩ |
    ⟨waiting, hmem, hrepeats⟩
  · obtain ⟨earlier, hsends⟩ := hbefore.sends
    rw [hrepeats.sender_eq, sender_of_builds hbuilds, hsends.myNodeNum_eq, hnum]
  · rw [hrepeats.sender_eq, hwaiting waiting hmem]

variable [MeshStorage S]

theorem Signs.step {num : UInt32} {state : MeshState S} (h : Signs num state) (event : Event) :
    Signs num (MeshState.step env state event) := by
  refine ⟨h.numbered.step event, ?_⟩
  have hhandled : ∀ waiting ∈ (handled env state event).pendingPackets.frames,
      waiting.header.map PacketHeader.sender = some num := by
    by_cases hrelay : event = .rebroadcastDue
    · subst hrelay
      unfold handled
      dsimp only
      split
      · rcases fireRebroadcast_cases state.ctx with hnone | ⟨i, pending, -, hsent⟩
        · rw [hnone]
          exact h.waiting
        · rw [hsent]
          exact h.waiting
      · exact h.waiting
    by_cases htaken : event = .loraTaken
    · subst htaken
      exact h.waiting
    obtain ⟨sent, hsends⟩ := (@pieces_handled S env _ state event hrelay htaken).sends
    exact fun waiting hwaiting => sender_of_sends hsends h.numbered.myNodeNum_eq h.waiting
      (Or.inr hwaiting)
  cases hrestart : restarts env state event with
  | false =>
      obtain ⟨houtgoing, -⟩ := outgoing_of_housekept (step_of_not_restarts hrestart)
      unfold SignsWaiting
      rw [show (MeshState.step env state event).ctx.pendingPackets.frames = _ from
        congrArg Prod.fst houtgoing]
      exact hhandled
  | true =>
      obtain ⟨housed, -, hreboot⟩ := step_of_restarts hrestart
      rw [hreboot]
      intro waiting hwaiting
      cases hwaiting

theorem signs_boot (mac : Bytes) (storage : S) (pkcKeypair : Key × Key)
    (entropy : Nat → UInt32) :
    Signs (DeviceState.nodeNumOfMac mac) (boot env mac storage pkcKeypair entropy) where
  numbered := isNumbered_boot mac storage pkcKeypair entropy
  waiting _ hwaiting := nomatch hwaiting

theorem txToLora_relayed (state : MeshState S) :
    (handled env state .rebroadcastDue).txToLora =
      state.ctx.txToLora ++ relayedIn state .rebroadcastDue := by
  unfold handled relayedIn
  dsimp only
  split
  · rcases fireRebroadcast_cases state.ctx with hnone | ⟨i, pending, -, hsent⟩
    · rw [hnone, List.drop_length, List.append_nil]
    · rw [hsent, List.drop_left]
  · exact (List.append_nil _).symm

theorem countP_emits_step_le {num : UInt32} {state : MeshState S} (h : Signs num state)
    (event : Event) {key : PacketKey} (hkey : key.1 ≠ num) :
    ((node env).emits state event).countP (fun frame => frame.key == some key) +
      (step env state event).ctx.txToLora.countP (fun frame => frame.key == some key) ≤
    (relayedIn state event).countP (fun frame => frame.key == some key) +
      state.ctx.txToLora.countP (fun frame => frame.key == some key) := by
  cases hrestart : restarts env state event with
  | true =>
      obtain ⟨housed, -, hreboot⟩ := step_of_restarts hrestart
      have hsilent : (node env).emits state event = [] := by
        cases event with
        | loraTaken => cases hrestart
        | _ => rfl
      rw [hreboot, hsilent]
      exact Nat.zero_le _
  | false =>
      obtain ⟨houtgoing, -⟩ := outgoing_of_housekept (step_of_not_restarts hrestart)
      have hqueue : (step env state event).ctx.txToLora = (handled env state event).txToLora :=
        congrArg (fun outgoing => outgoing.2.2.2.2) houtgoing
      rw [hqueue]
      by_cases hrelay : event = .rebroadcastDue
      · subst hrelay
        rw [txToLora_relayed, List.countP_append]
        exact Nat.le_of_eq ((Nat.zero_add _).trans (Nat.add_comm _ _))
      by_cases htaken : event = .loraTaken
      · subst htaken
        have hnone : relayedIn state .loraTaken = [] := rfl
        have htail : (handled env state .loraTaken).txToLora = state.ctx.txToLora.tail := rfl
        have hhead : (node env).emits state .loraTaken = state.ctx.txToLora.head?.toList := rfl
        rw [hnone, htail, hhead, ← List.countP_append]
        cases state.ctx.txToLora with
        | nil => exact Nat.le_refl _
        | cons frame frames => exact Nat.le_add_left _ _
      · obtain ⟨sent, hsends⟩ := (@pieces_handled S env _ state event hrelay htaken).sends
        have hsilent : (node env).emits state event = [] := by
          cases event with
          | loraTaken => exact absurd rfl htaken
          | _ => rfl
        have hnone : sent.countP (fun frame => frame.key == some key) = 0 := by
          rw [List.countP_eq_zero]
          intro frame hframe hsame
          have hsigned := sender_of_sends hsends h.numbered.myNodeNum_eq h.waiting (Or.inl hframe)
          have hsender := congrArg (Option.map Prod.fst) (eq_of_beq hsame)
          unfold RadioFrame.key at hsender
          rw [Option.map_map] at hsender
          exact hkey (Option.some.inj (hsender.symm.trans hsigned))
        rw [hsilent, hsends.lora, List.countP_append, hnone, List.countP_nil, Nat.zero_add,
          Nat.add_zero]
        exact Nat.le_add_left _ _

/-- Over a run, a node puts the packet of another on the air at most once in 201 packets that
are new to it. -/
theorem countP_emits_le {num : UInt32} {state : MeshState S} {events : List Event}
    (hsigns : Signs num state) (hqueue : state.ctx.txToLora = [])
    (hempty : state.ctx.pendingRebroadcast = Bounded.empty)
    (hdecodes : Transition.Always (step env) (ReceptionDecodes env) state events)
    (hrestarts : Transition.Always (step env) (fun state event => restarts env state event = false)
      state events) {key : PacketKey} (hkey : key.1 ≠ num) :
    (DUPLICATE_RING_SIZE + 1) * (Transition.observed (step env) (node env).emits state
        events).countP (fun frame => frame.key == some key) ≤
      (newOver env state events).length + DUPLICATE_RING_SIZE := by
  have hsigning : Transition.Always (step env) (fun state _ => Signs num state) state events :=
    Transition.preserved_trace (fun _ event h => h.step event) hsigns events
  have hsent := Transition.countP_observed_le
    (fun state : MeshState S => state.ctx.txToLora.countP (fun frame => frame.key == some key))
    (fun _ event h => countP_emits_step_le h event hkey) hsigning
  rw [hqueue, List.countP_nil, Nat.add_zero] at hsent
  have hnew := relayedOver_le hdecodes hempty key
  have hspaced := (spaced_newOver hrestarts).count_le key
  unfold relayedOver at hnew
  calc (DUPLICATE_RING_SIZE + 1) * _ ≤ (DUPLICATE_RING_SIZE + 1) * (newOver env state
        events).count key :=
        Nat.mul_le_mul_left _ (Nat.le_trans (Nat.le_trans (Nat.le_add_right _ _) hsent) hnew)
    _ ≤ _ := hspaced

end MeshState

/-! ## What a packet costs the network -/

namespace MeshNetwork

variable {S : Type} [MeshStorage S] {env : Env} {ι : Type} [DecidableEq ι]

/-- How often a node puts a packet on the air over a run. -/
def timesSent (env : Env) (net : Network ι (MeshState S) RadioFrame)
    (events : List (Network.Event ι MeshState.Event RadioMetadata)) (i : ι) (key : PacketKey) :
    Nat :=
  (Transition.observed (MeshState.step env) (node env).emits (net.stations i)
    (Network.eventsOver (node env) i net events)).countP fun frame => frame.key == some key

def newTo (env : Env) (net : Network ι (MeshState S) RadioFrame)
    (events : List (Network.Event ι MeshState.Event RadioMetadata)) (i : ι) : Nat :=
  (MeshState.newOver env (net.stations i) (Network.eventsOver (node env) i net events)).length

/-- In a run without restarts in which the nodes can read what they hear, a packet is put on
the air by each node other than its sender at most once in 201 packets new to that node, and
all its copies on the air are these and what its sender sent. -/
theorem flood_bound [Fintype ι] (mac : ι → Bytes) (storage : ι → S)
    (pkcKeypair : ι → Key × Key) (entropy : ι → Nat → UInt32)
    (events : List (Network.Event ι MeshState.Event RadioMetadata))
    (hdecodes : ∀ i, Transition.Always (Network.step (node env))
      (Network.WhenMoving (node env) (MeshState.ReceptionDecodes env) i)
      (MeshNetwork.boot env mac storage pkcKeypair entropy) events)
    (hrestarts : ∀ i, Transition.Always (Network.step (node env))
      (Network.WhenMoving (node env) (fun state event =>
        MeshState.restarts env state event = false) i)
      (MeshNetwork.boot env mac storage pkcKeypair entropy) events) (key : PacketKey) :
    let net := MeshNetwork.boot env mac storage pkcKeypair entropy
    (∀ i, DeviceState.nodeNumOfMac (mac i) ≠ key.1 →
      timesSent env net events i key ≤ (newTo env net events i + 200) / 201) ∧
    (Transition.run (Network.step (node env)) net events).medium.countP
        (fun frame => frame.key == some key) ≤
      ∑ i, if DeviceState.nodeNumOfMac (mac i) = key.1 then timesSent env net events i key
        else (newTo env net events i + 200) / 201 := by
  intro net
  have hothers : ∀ i, DeviceState.nodeNumOfMac (mac i) ≠ key.1 →
      timesSent env net events i key ≤ (newTo env net events i + 200) / 201 := by
    intro i hi
    have hle := MeshState.countP_emits_le
      (MeshState.signs_boot (mac i) (storage i) (pkcKeypair i) (entropy i)) rfl rfl
      (Network.always_eventsOver (hdecodes i)) (Network.always_eventsOver (hrestarts i))
      (Ne.symm hi)
    rw [Nat.le_div_iff_mul_le (by decide), Nat.mul_comm]
    exact hle
  have htotal : (Transition.run (Network.step (node env)) net events).medium.countP
      (fun frame => frame.key == some key) = ∑ i, timesSent env net events i key := by
    rw [Network.countP_medium_run]
    exact Nat.zero_add _
  refine ⟨hothers, htotal ▸ Finset.sum_le_sum fun i _ => ?_⟩
  split
  · exact Nat.le_refl _
  · rename_i hi
    exact hothers i hi

/-! ### The introductions -/

/-- The first introduction is on the air once from its sender and once from the other node. -/
theorem introductions_flood :
    timesSent answers.env twoNodes introductions false (0x28123456, 0x28123457) ≤ 1 ∧
    (Transition.run (Network.step (node answers.env)) twoNodes introductions).medium.countP
        (fun frame => frame.key == some (0x28123456, 0x28123457)) ≤ 2 := by
  have hreads : ∀ i, Transition.Always (Network.step (node answers.env))
      (Network.WhenMoving (node answers.env) (fun state event =>
        MeshState.reads answers.env state event = true) i) twoNodes introductions := by
    decide +kernel
  have hrestarts : ∀ i, Transition.Always (Network.step (node answers.env))
      (Network.WhenMoving (node answers.env) (fun state event =>
        MeshState.restarts answers.env state event = false) i) twoNodes introductions := by
    decide +kernel
  obtain ⟨hothers, htotal⟩ := @flood_bound FakeStorage _ answers.env Bool _ _ macOf
    (fun _ => {}) (fun _ => KnownAnswers.noKeypair) (fun _ => KnownAnswers.noEntropy)
    introductions
    (fun i t ht own hmove => MeshState.receptionDecodes_of_reads (hreads i t ht own hmove)) hrestarts
    (0x28123456, 0x28123457)
  refine ⟨Nat.le_trans (hothers false (by decide)) (by decide +kernel),
    Nat.le_trans htotal (by decide +kernel)⟩

end MeshNetwork

end Meshtastenstein
