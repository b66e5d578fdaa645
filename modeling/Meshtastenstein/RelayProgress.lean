import Meshtastenstein.BondCopies
import Meshtastenstein.Flooding
import Meshtastenstein.Interference
import Meshtastenstein.Lib.Progress
import Meshtastenstein.NodeinfoThrottle
import Meshtastenstein.RebroadcastTimer
/-!
# A relay gets on the air

A relay that is scheduled may be pushed out by others, replaced or cancelled by another copy of
its packet, or lost in a restart.  Short of that, the timer sends it once its deadline has passed,
and the radio takes it after what was queued before it.
-/

namespace Meshtastenstein

open Lib Proto Handlers

/-! ## The place of a relay in the queue -/

/-- When an input has the relaying part send a relay. -/
def RelayInput.deadline : RelayInput → Option Nat
  | .heard _ _ _ deadline => deadline
  | .blind _ _ deadline => some deadline
  | .due _ => none
  | .reset _ => none

/-- The entry is in the queue still, and no more are due with or before it than were, unless what
came in is. -/
structure KeepsPlace (entry : PendingRebroadcast) (deadline : Option Nat)
    (before after : List PendingRebroadcast) : Prop where
  mem : entry ∈ after
  count_le : (∀ time ∈ deadline, entry.deadline < time) →
    after.countP (fun other => other.deadline ≤ entry.deadline) ≤
      before.countP (fun other => other.deadline ≤ entry.deadline)

namespace RelayState

variable {st : RelayState} {entry : PendingRebroadcast} {frame : RadioFrame}
  {header : PacketHeader}

theorem keepsPlace_schedule (hentry : entry ∈ st.queue.toList) (hroom : st.queue.length < 8)
    (deadline : Nat) :
    KeepsPlace entry (some deadline) st.queue.toList
      (st.schedule frame header deadline).queue.toList := by
  unfold schedule
  dsimp only
  rw [FromRadio.toList_queueRebroadcast_of_lt hroom]
  refine ⟨List.mem_append_left _ hentry, fun hlate => ?_⟩
  have hlater := hlate deadline rfl
  rw [List.countP_append, List.countP_cons_of_neg (by simpa using hlater), List.countP_nil]
  exact Nat.le_refl _

theorem keepsPlace_upgrade (hentry : entry ∈ st.queue.toList)
    (hkey : entry.frame.key ≠ some header.key) (deadline : Option Nat) :
    KeepsPlace entry deadline st.queue.toList (st.upgrade frame header).queue.toList := by
  rcases st.upgrade_cases frame header with hsame | ⟨old, kept, hold, hbefore, hafter⟩
  · rw [hsame]
    exact ⟨hentry, fun _ => Nat.le_refl _⟩
  · have hkept : entry ∈ kept := by
      rcases List.mem_cons.mp (hbefore.mem_iff.mp hentry) with rfl | hkept
      · exact absurd hold hkey
      · exact hkept
    refine ⟨hafter.mem_iff.mpr (List.mem_cons_of_mem _ hkept), fun _ => ?_⟩
    rw [hbefore.countP_eq, hafter.countP_eq, List.countP_cons, List.countP_cons]

theorem keepsPlace_cancel (hentry : entry ∈ st.queue.toList)
    (hkey : entry.frame.key ≠ some header.key) (deadline : Option Nat) :
    KeepsPlace entry deadline st.queue.toList (st.cancel header).queue.toList := by
  have hother : ¬ FromRadio.isRebroadcastOf header entry = true :=
    fun h => hkey (FromRadio.isRebroadcastOf_iff.mp h)
  refine ⟨List.mem_filter.mpr ⟨hentry, by simpa using hother⟩, fun _ => ?_⟩
  exact List.Sublist.countP_le List.filter_sublist

theorem keepsPlace_step {input : RelayInput} {nodeNum : UInt32} (hentry : entry ∈ st.queue.toList)
    (hroom : st.queue.length < 8) (hheard : input.frame = some frame)
    (hadmissible : input.Admissible nodeNum) (hkey : frame.key ≠ entry.frame.key) :
    KeepsPlace entry input.deadline st.queue.toList (st.step input).queue.toList := by
  have hother : ∀ header, frame.header = some header → entry.frame.key ≠ some header.key := by
    intro header hheader hsame
    apply hkey
    rw [hsame]
    unfold RadioFrame.key
    rw [hheader, Option.map_some]
  cases input with
  | heard heard header role deadline =>
      obtain rfl : heard = frame := Option.some.inj hheard
      have hne := hother header hadmissible.1
      change KeepsPlace entry deadline st.queue.toList
        (st.hear heard header role deadline).queue.toList
      cases hfilter : st.filter header role with
      | mk verdict router =>
          cases verdict with
          | new =>
              rw [hear_of_new hfilter]
              cases deadline with
              | none => exact ⟨hentry, fun _ => Nat.le_refl _⟩
              | some deadline =>
                  exact @keepsPlace_schedule { st with router := router } entry heard header hentry
                    hroom deadline
          | duplicateUpgrade hopLimit =>
              rw [hear_of_upgrade hfilter]
              exact @keepsPlace_upgrade { st with router := router } entry heard header hentry hne
                deadline
          | duplicateCancelRelay =>
              rw [hear_of_cancel hfilter]
              exact @keepsPlace_cancel { st with router := router } entry header hentry hne deadline
          | duplicateDrop =>
              rw [hear_of_drop hfilter]
              exact ⟨hentry, fun _ => Nat.le_refl _⟩
  | blind heard header deadline =>
      change KeepsPlace entry (some deadline) st.queue.toList
        (st.hearBlind heard header deadline).queue.toList
      unfold hearBlind
      dsimp only
      split
      · exact @keepsPlace_schedule { st with router := _ } entry heard header hentry hroom deadline
      · exact ⟨hentry, fun _ => Nat.le_refl _⟩
  | due now => cases hheard
  | reset nodeNum => cases hheard

end RelayState

/-! ## What is scheduled is due later -/

namespace Handlers

variable {S : Type} [MeshStorage S] {env : Env}

theorem Admin.now_dispatch (ctx : MeshCtx S) (requester reqPktId : UInt32) (adminBytes : Bytes)
    (viaLora : Bool) : (dispatch env ctx requester reqPktId adminBytes viaLora).now = ctx.now := by
  rcases dispatch_cases ctx requester reqPktId adminBytes viaLora with
    ⟨answer, hanswer⟩ | hadministered
  · obtain ⟨session, entropy, hpasskey⟩ := ensureSessionPasskey_eq ctx
    rw [hanswer]
    exact (congrArg Prod.snd (session_sendAdminResponse ctx requester reqPktId answer
      viaLora)).trans (by rw [hpasskey]; rfl)
  · exact congrArg Prod.snd hadministered.session_eq

namespace FromRadio

theorem now_handlePortnum (ctx : MeshCtx S) (portnum : Int32) (pkt : InboundPacket) :
    (handlePortnum env ctx portnum pkt).now = ctx.now := by
  by_cases hadmin : portnum = PortNum.adminApp.toI32
  · unfold handlePortnum handleAdmin
    rw [hadmin, PortNum.tryFrom_toI32]
    dsimp only
    split
    · exact Admin.now_dispatch ctx _ _ _ _
    · rfl
  · exact congrArg Core.now (core_handlePortnum ctx pkt hadmin)

theorem now_beforeRelay (ctx : MeshCtx S) (frame : RadioFrame) (header : PacketHeader)
    (metadata : RadioMetadata) (decoded : DecodedPayload) :
    (beforeRelay env ctx frame header metadata decoded).now = ctx.now := by
  have hresident : ∀ {ctx ctx' : MeshCtx S}, ctx'.resident = ctx.resident → ctx'.now = ctx.now :=
    fun h => congrArg (fun resident => resident.core.now) h
  have hcore : ∀ {ctx ctx' : MeshCtx S}, ctx'.core = ctx.core → ctx'.now = ctx.now :=
    fun h => congrArg Core.now h
  unfold beforeRelay
  dsimp only
  rw [hresident (resident_ackInbound _ header decoded),
    hresident (resident_forwardInbound _ header metadata decoded _), now_handlePortnum,
    hcore (core_bufferText _ frame decoded.portnum), hcore (core_noteSender ctx header metadata)]

theorem le_deadline_of_relayInput {ctx : MeshCtx S} {frame : RadioFrame}
    {metadata : RadioMetadata} {input : RelayInput}
    (h : relayInput env ctx frame metadata = some input) :
    ∀ time ∈ input.deadline, ctx.now ≤ time := by
  unfold relayInput at h
  split at h
  · cases h
  · split at h
    · cases h
    · split at h
      · cases h
        intro time htime
        have hdeadline : relayDeadline env _ _ metadata = some time := htime
        unfold relayDeadline rebroadcastDeadline at hdeadline
        split at hdeadline
        · unfold processed at hdeadline
          rw [now_beforeRelay] at hdeadline
          rw [← Option.some.inj hdeadline]
          exact Nat.le_add_right _ _
        · cases hdeadline
      · cases h
      · split at h
        · cases h
          intro time htime
          rw [← Option.some.inj htime]
          exact Nat.le_add_right _ _
        · cases h

end FromRadio

end Handlers

/-! ## A relay that waits -/

/-- A node as a station whose radio may fail: what the radio takes goes on the air if sending is
enabled and, as the event tells, succeeds. -/
def transmitter {S : Type} [MeshStorage S] (env : Env) :
    Station (MeshState S) (MeshState.Event × Bool) RadioFrame RadioMetadata where
  step state event := MeshState.step env state event.1
  emits state event :=
    match event with
    | (.loraTaken, true) => if state.ctx.txEnabled then state.ctx.txToLora.head?.toList else []
    | _ => []
  hears frame metadata := (.mesh (.loraRx frame metadata), false)
  heard event :=
    match event.1 with
    | .mesh (.loraRx frame _) => some frame
    | _ => none
  heard_hears _ _ := rfl

namespace MeshState

variable {S : Type} [MeshStorage S] {env : Env}

def isRebroadcastDue : Event → Bool
  | .rebroadcastDue => true
  | _ => false

def isLoraTaken : Event → Bool
  | .loraTaken => true
  | _ => false

def Sends (state : MeshState S) (event : Event × Bool) : Prop :=
  isLoraTaken event.1 = true → event.2 = true ∧ state.ctx.txEnabled = true

instance (state : MeshState S) (event : Event × Bool) : Decidable (Sends state event) :=
  inferInstanceAs (Decidable (_ → _))

/-- A step that does not restart the node, in which it hears no copy of the packet, and nothing at
all while eight relays wait. -/
def LeavesRelay (env : Env) (key : PacketKey) (state : MeshState S) (event : Event) : Prop :=
  restarts env state event = false ∧
    ∀ frame ∈ (node env : Station (MeshState S) Event RadioFrame RadioMetadata).heard event,
      frame.key ≠ some key ∧ state.ctx.pendingRebroadcast.length < 8

instance (key : PacketKey) (state : MeshState S) (event : Event) :
    Decidable (LeavesRelay env key state event) :=
  inferInstanceAs (Decidable (_ ∧ _))

theorem started_step {state : MeshState S} {event : Event} (hstarted : state.started = true)
    (hrestarts : restarts env state event = false) : (step env state event).started = true := by
  cases event with
  | mesh event =>
      rw [step_eq_housed hstarted hrestarts, started_housed]
      exact hstarted
  | powerCycle => cases hrestarts
  | announce =>
      unfold step
      dsimp only
      rw [if_pos hstarted]
      exact hstarted
  | rebroadcastDue =>
      unfold step
      dsimp only
      rw [if_pos hstarted]
      exact hstarted
  | retransmissionDue =>
      unfold step
      dsimp only
      rw [if_pos hstarted]
      exact hstarted
  | _ => exact hstarted

theorem now_step {state : MeshState S} {event : Event}
    (hrestarts : restarts env state event = false) :
    state.ctx.now ≤ (step env state event).ctx.now := by
  obtain ⟨_, _, _, hstep⟩ := step_of_not_restarts hrestarts
  rw [hstep]
  change state.ctx.now ≤ (handled env state event).now
  rw [now_handled]
  exact Nat.le_add_right _ _

theorem relayState_step_of_not_restarts {state : MeshState S} {event : Event}
    (hrestarts : restarts env state event = false) :
    (step env state event).ctx.relayState =
      Transition.run RelayState.step state.ctx.relayState (workInput env state event).toList := by
  rw [relayState_step]
  unfold relayInputs
  rw [if_neg (by simp [hrestarts]), List.append_nil]

def rankOf (entry : PendingRebroadcast) (state : MeshState S) : Nat :=
  state.ctx.pendingRebroadcast.toList.countP fun other => other.deadline ≤ entry.deadline

/-- A step sends a queued relay or leaves it in the queue; once its time has come, no other gets
before it, and the timer takes it or one that was. -/
theorem queued_step {state : MeshState S} {event : Event} {entry : PendingRebroadcast}
    {key : PacketKey} (hstarted : state.started = true)
    (hentry : entry ∈ state.ctx.pendingRebroadcast.toList) (hkey : entry.frame.key = some key)
    (hok : LeavesRelay env key state event) :
    entry.frame ∈ (step env state event).ctx.txToLora ∨
      entry ∈ (step env state event).ctx.pendingRebroadcast.toList ∧
      (entry.deadline < state.ctx.now →
        rankOf entry (step env state event) ≤ rankOf entry state ∧
          (event = .rebroadcastDue →
            rankOf entry (step env state event) < rankOf entry state)) := by
  obtain ⟨hrestarts, hheard⟩ := hok
  by_cases hevent : event = .rebroadcastDue
  · subst hevent
    rw [step_rebroadcastDue hstarted]
    rcases (state.ctx.relayState.fires state.ctx.now).of_mem hentry with
      htaken | ⟨hleft, hle, hlt⟩
    · left
      rw [htaken]
      exact List.mem_append_right _ (List.mem_singleton_self _)
    · exact Or.inr ⟨hleft, fun hdue => ⟨hle, fun _ => hlt (Nat.le_of_lt hdue)⟩⟩
  · right
    have hqueue : (step env state event).ctx.pendingRebroadcast =
        (Transition.run RelayState.step state.ctx.relayState
          (workInput env state event).toList).queue :=
      congrArg RelayState.queue (relayState_step_of_not_restarts hrestarts)
    have hplace : KeepsPlace entry ((workInput env state event).bind RelayInput.deadline)
        state.ctx.pendingRebroadcast.toList
        (step env state event).ctx.pendingRebroadcast.toList := by
      rw [hqueue]
      cases hinput : workInput env state event with
      | none => exact ⟨hentry, fun _ => Nat.le_refl _⟩
      | some input =>
          rcases workInput_eq_some hinput with ⟨frame, metadata, rfl, hframe, hadmissible⟩ |
            ⟨hdue, -⟩
          · obtain ⟨hother, hroom⟩ := hheard frame rfl
            rw [← hkey] at hother
            exact @RelayState.keepsPlace_step state.ctx.relayState entry frame input _ hentry hroom
              hframe hadmissible hother
          · exact absurd hdue hevent
    refine ⟨hplace.mem, fun hdue =>
      ⟨hplace.count_le fun time htime => ?_, fun h => absurd h hevent⟩⟩
    -- what is heard now is relayed later
    obtain ⟨input, hinput, hdeadline⟩ := Option.bind_eq_some_iff.mp htime
    rcases workInput_eq_some hinput with ⟨frame, metadata, rfl, -, -⟩ | ⟨h, -⟩
    · rw [workInput_loraRx hstarted] at hinput
      exact Nat.lt_of_lt_of_le hdue (FromRadio.le_deadline_of_relayInput hinput time hdeadline)
    · exact absurd h hevent

/-- The radio takes frames from the front of its queue, and everything else adds to the end. -/
theorem txToLora_step_cases {state : MeshState S} {event : Event}
    (hrestarts : restarts env state event = false) :
    event = .loraTaken ∧ (step env state event).ctx.txToLora = state.ctx.txToLora.tail ∨
      event ≠ .loraTaken ∧
        ∃ sent, (step env state event).ctx.txToLora = state.ctx.txToLora ++ sent := by
  obtain ⟨houtgoing, -⟩ := outgoing_of_housekept (step_of_not_restarts hrestarts)
  have hqueue : (step env state event).ctx.txToLora = (handled env state event).txToLora :=
    congrArg (fun outgoing => outgoing.2.2.2.2) houtgoing
  rw [hqueue]
  by_cases htaken : event = .loraTaken
  · subst htaken
    exact Or.inl ⟨rfl, rfl⟩
  by_cases hrelay : event = .rebroadcastDue
  · subst hrelay
    exact Or.inr ⟨htaken, _, txToLora_relayed state⟩
  · obtain ⟨sent, hsends⟩ := (@pieces_handled S env _ state event hrelay htaken).sends
    exact Or.inr ⟨htaken, sent, hsends.lora⟩

theorem sent_step {state : MeshState S} {event : Event × Bool} {frame : RadioFrame}
    (hframe : frame ∈ state.ctx.txToLora) (hrestarts : restarts env state event.1 = false)
    (hsends : Sends state event) :
    frame ∈ (transmitter env).emits state event ∨
      frame ∈ (step env state event.1).ctx.txToLora ∧
        (step env state event.1).ctx.txToLora.idxOf frame ≤ state.ctx.txToLora.idxOf frame ∧
        (event.1 = .loraTaken → (step env state event.1).ctx.txToLora.idxOf frame <
          state.ctx.txToLora.idxOf frame) := by
  obtain ⟨event, sent⟩ := event
  rcases txToLora_step_cases hrestarts with ⟨htaken, hqueue⟩ | ⟨hother, sent, hqueue⟩
  · obtain rfl : event = .loraTaken := htaken
    obtain ⟨hsent, henabled⟩ := hsends rfl
    obtain rfl : sent = true := hsent
    rw [hqueue]
    change frame ∈ (if state.ctx.txEnabled then state.ctx.txToLora.head?.toList else []) ∨ _
    rw [if_pos henabled]
    cases hsplit : state.ctx.txToLora with
    | nil =>
        rw [hsplit] at hframe
        cases hframe
    | cons first rest =>
        rw [hsplit] at hframe
        by_cases hfirst : first = frame
        · exact Or.inl (by simp [hfirst])
        · right
          have hrest : frame ∈ rest :=
            (List.mem_cons.mp hframe).resolve_left (Ne.symm hfirst)
          rw [List.idxOf_cons_ne _ hfirst]
          exact ⟨hrest, Nat.le_succ _, fun _ => Nat.lt_succ_self _⟩
  · rw [hqueue, List.idxOf_append_of_mem hframe]
    exact Or.inr ⟨List.mem_append_left _ hframe, Nat.le_refl _, fun h => absurd h hother⟩

/-! ## From the queue to the air -/

/-- The relay is scheduled, or handed to the radio. -/
def Bound (entry : PendingRebroadcast) (state : MeshState S) : Prop :=
  (state.started = true ∧ entry ∈ state.ctx.pendingRebroadcast.toList) ∨
    entry.frame ∈ state.ctx.txToLora

def Furthers (env : Env) (key : PacketKey) (state : MeshState S) (event : Event × Bool) : Prop :=
  LeavesRelay env key state event.1 ∧ Sends state event

instance (key : PacketKey) (state : MeshState S) (event : Event × Bool) :
    Decidable (Furthers env key state event) :=
  inferInstanceAs (Decidable (_ ∧ _))

theorem bound_step {entry : PendingRebroadcast} {key : PacketKey}
    (hkey : entry.frame.key = some key) (state : MeshState S) (event : Event × Bool)
    (h : Bound entry state) (hok : Furthers env key state event) :
    Bound entry (step env state event.1) ∨ entry.frame ∈ (transmitter env).emits state event := by
  obtain ⟨hleaves, hsends⟩ := hok
  rcases h with ⟨hstarted, hentry⟩ | hsent
  · left
    rcases queued_step hstarted hentry hkey hleaves with hsent | ⟨hleft, -⟩
    · exact Or.inr hsent
    · exact Or.inl ⟨started_step hstarted hleaves.1, hleft⟩
  · rcases sent_step hsent hleaves.1 hsends with hemitted | ⟨hleft, -⟩
    · exact Or.inr hemitted
    · exact Or.inl (Or.inr hleft)

theorem progress_timer {entry : PendingRebroadcast} {key : PacketKey}
    (hkey : entry.frame.key = some key) :
    (transmitter env : Station (MeshState S) _ RadioFrame RadioMetadata).Progress entry.frame
      (Furthers env key) (fun event => isRebroadcastDue event.1)
      (fun state => (state.started = true ∧ entry ∈ state.ctx.pendingRebroadcast.toList) ∧
        entry.deadline < state.ctx.now)
      (fun state => entry.frame ∈ state.ctx.txToLora) (rankOf entry) where
  goal_step state event hsent hok := by
    rcases sent_step hsent hok.1.1 hok.2 with hemitted | ⟨hleft, -⟩
    · exact Or.inr hemitted
    · exact Or.inl hleft
  rank_pos state h := List.countP_pos_iff.mpr ⟨entry, h.1.2, by simp⟩
  waits_step state event h hok := by
    obtain ⟨⟨hstarted, hentry⟩, hdue⟩ := h
    obtain ⟨event, sent⟩ := event
    rcases queued_step hstarted hentry hkey hok.1 with hsent | ⟨hleft, hrank⟩
    · exact Or.inl (Or.inl hsent)
    · obtain ⟨hle, hlt⟩ := hrank hdue
      refine Or.inr ⟨⟨⟨started_step hstarted hok.1.1, hleft⟩,
        Nat.lt_of_lt_of_le hdue (now_step hok.1.1)⟩, hle, fun hhelps => hlt ?_⟩
      cases event with
      | rebroadcastDue => rfl
      | _ => cases hhelps

theorem progress_radio (frame : RadioFrame) :
    (transmitter env : Station (MeshState S) _ RadioFrame RadioMetadata).Progress frame
      (fun state event => restarts env state event.1 = false ∧ Sends state event)
      (fun event => isLoraTaken event.1)
      (fun state => frame ∈ state.ctx.txToLora) (fun _ => False)
      (fun state => state.ctx.txToLora.idxOf frame + 1) where
  goal_step _ _ h := h.elim
  rank_pos _ _ := Nat.succ_pos _
  waits_step state event h hok := by
    obtain ⟨event, sent⟩ := event
    rcases sent_step h hok.1 hok.2 with hemitted | ⟨hleft, hle, hlt⟩
    · exact Or.inl (Or.inr hemitted)
    · refine Or.inr ⟨hleft, Nat.succ_le_succ hle, fun hhelps => Nat.succ_lt_succ (hlt ?_)⟩
      cases event with
      | loraTaken => rfl
      | _ => cases hhelps

end MeshState

end Meshtastenstein
