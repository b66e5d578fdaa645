import Meshtastenstein.Effects
/-!
# Runs of the mesh task

A step of the task is the work its event asks for, then the housekeeping of the loop,
and at times a restart.
-/

namespace Meshtastenstein.MeshState

open Lib Handlers

variable {S : Type} [MeshStorage S] (env : Env)

/-- The context after the work an event asks for, before the housekeeping of the loop and
a restart. -/
def handled (state : MeshState S) : Event → MeshCtx S
  | .announce =>
      if state.started then state.ctx else Periodic.broadcastNodeinfo env state.ctx
  | .mesh event =>
      if state.started then Handlers.dispatch env (noteActivity state.ctx event) event
      else state.ctx
  | .rebroadcastDue => if state.started then fireRebroadcast state.ctx else state.ctx
  | .retransmissionDue =>
      if state.started then fireRetransmissions env state.ctx else state.ctx
  | .bleTaken => { state.ctx with txToBle := state.ctx.txToBle.tail }
  | .loraTaken => { state.ctx with txToLora := state.ctx.txToLora.tail }
  | .elapse ms => { state.ctx with now := state.ctx.now + ms }
  | .powerCycle => state.ctx

/-- Whether the node restarts once the event is handled. -/
def restarts (state : MeshState S) (event : Event) : Bool :=
  match event with
  | .mesh _ => state.started && (handled env state event).rebootAfterSecs.isSome
  | .powerCycle => true
  | _ => false

/-- Every received frame that a run dispatches, in the context it is dispatched in, has the
property. -/
def EveryReception (mac : Bytes) (storage : S) (pkcKeypair : Key × Key)
    (entropy : Nat → UInt32) (events : List Event)
    (P : MeshCtx S → RadioFrame → RadioMetadata → Prop) : Prop :=
  ∀ t ∈ Transition.trace (step env) (boot env mac storage pkcKeypair entropy) events,
    ∀ frame metadata, t.before.started = true → t.event = .mesh (.loraRx frame metadata) →
      P (noteActivity t.before.ctx (.loraRx frame metadata)) frame metadata

variable {env}

omit [MeshStorage S] in
/-- The rebroadcast timer sends one scheduled frame at most. -/
theorem fireRebroadcast_cases (ctx : MeshCtx S) :
    fireRebroadcast ctx = ctx ∨
    ∃ i, ∃ pending ∈ ctx.pendingRebroadcast.toList,
      fireRebroadcast ctx =
        { ctx with
          pendingRebroadcast := ctx.pendingRebroadcast.swapRemove i
          txToLora := ctx.txToLora ++ [pending.frame] } := by
  unfold fireRebroadcast
  split
  · exact Or.inl rfl
  · rename_i i hdue
    split
    · rename_i pending hpending
      split
      · exact Or.inr ⟨i, pending, List.mem_of_getElem? hpending, rfl⟩
      · exact Or.inl rfl
    · exact Or.inl rfl

/-- The work of a step: a frame or a message of the phone is handled, a timer fires, another
task takes from its queue, or what is done is quiet. -/
inductive Work (env : Env) (state : MeshState S) : Event → MeshCtx S → Prop
  | received (hstarted : state.started = true) (frame : RadioFrame) (metadata : RadioMetadata) :
      Work env state (.mesh (.loraRx frame metadata))
        (FromRadio.dispatch env (noteActivity state.ctx (.loraRx frame metadata)) frame metadata)
  | asked (hstarted : state.started = true) (bytes : Bytes) :
      Work env state (.mesh (.bleRx bytes)) (FromApp.dispatch env state.ctx bytes)
  | relayed (i : Nat) (frame : RadioFrame) :
      Work env state .rebroadcastDue
        { state.ctx with
          pendingRebroadcast := state.ctx.pendingRebroadcast.swapRemove i
          txToLora := state.ctx.txToLora ++ [frame] }
  | retransmitted (hstarted : state.started = true) :
      Work env state .retransmissionDue (fireRetransmissions env state.ctx)
  | bleTaken : Work env state .bleTaken { state.ctx with txToBle := state.ctx.txToBle.tail }
  | loraTaken : Work env state .loraTaken { state.ctx with txToLora := state.ctx.txToLora.tail }
  | quiet {event : Event} {after : MeshCtx S} (h : Quiet 3 state.ctx after) :
      Work env state event after

theorem work_handled (state : MeshState S) (event : Event) :
    Work env state event (handled env state event) := by
  have hsame : Quiet 3 state.ctx state.ctx := (Quiet.refl state.ctx).mono (Nat.zero_le 3)
  unfold handled
  cases event with
  | announce =>
      dsimp only
      split
      · exact .quiet hsame
      · exact .quiet ((Periodic.quiet_broadcastNodeinfo state.ctx).mono (by omega))
  | mesh event =>
      dsimp only
      split
      · rename_i hstarted
        cases event with
        | loraRx frame metadata => exact .received hstarted frame metadata
        | bleRx bytes => exact .asked hstarted bytes
        | tick =>
            have hblink : Quiet 0 state.ctx (noteActivity state.ctx .tick) :=
              Quiet.of_traffic_eq rfl
            have htick : Quiet 3 _ (Handlers.dispatch env (noteActivity state.ctx .tick) .tick) :=
              Handlers.quiet_dispatch _ (by simp) (by simp)
            exact .quiet (hblink.trans htick)
        | _ => exact .quiet (Handlers.quiet_dispatch state.ctx (by simp) (by simp))
      · exact .quiet hsame
  | rebroadcastDue =>
      dsimp only
      split
      · rcases fireRebroadcast_cases state.ctx with hnone | ⟨i, pending, -, hsent⟩
        · rw [hnone]
          exact .quiet hsame
        · rw [hsent]
          exact .relayed i pending.frame
      · exact .quiet hsame
  | retransmissionDue =>
      dsimp only
      split
      · rename_i hstarted
        exact .retransmitted hstarted
      · exact .quiet hsame
  | bleTaken => exact .bleTaken
  | loraTaken => exact .loraTaken
  | elapse ms =>
      have helapsed : Quiet 0 state.ctx { state.ctx with now := state.ctx.now + ms } :=
        Quiet.of_traffic_eq rfl
      exact .quiet (helapsed.mono (Nat.zero_le 3))
  | powerCycle => exact .quiet hsame

/-! ## Housekeeping -/

/-- The housekeeping of the loop writes storage, the node database and the requested
shutdown. -/
def Housekept (ctx ctx' : MeshCtx S) : Prop :=
  ∃ storage nodeDb shutdownAfterSecs,
    ctx' = { ctx with
      storage := storage
      nodeDb := nodeDb
      shutdownAfterSecs := shutdownAfterSecs }

namespace Housekept

variable {ctx ctx' ctx'' : MeshCtx S}

omit [MeshStorage S] in
theorem refl (ctx : MeshCtx S) : Housekept ctx ctx :=
  ⟨ctx.storage, ctx.nodeDb, ctx.shutdownAfterSecs, rfl⟩

omit [MeshStorage S] in
theorem trans (h : Housekept ctx ctx') (h' : Housekept ctx' ctx'') : Housekept ctx ctx'' := by
  obtain ⟨_, _, _, rfl⟩ := h
  obtain ⟨storage, nodeDb, shutdownAfterSecs, rfl⟩ := h'
  exact ⟨storage, nodeDb, shutdownAfterSecs, rfl⟩

omit [MeshStorage S] in
theorem traffic_eq (h : Housekept ctx ctx') : ctx'.traffic = ctx.traffic := by
  obtain ⟨_, _, _, rfl⟩ := h
  rfl

omit [MeshStorage S] in
theorem rebootAfterSecs_eq (h : Housekept ctx ctx') :
    ctx'.rebootAfterSecs = ctx.rebootAfterSecs := by
  obtain ⟨_, _, _, rfl⟩ := h
  rfl

end Housekept

theorem housekept_saveNodeDb (ctx : MeshCtx S) : Housekept ctx (saveNodeDb ctx) :=
  ⟨_, _, ctx.shutdownAfterSecs, rfl⟩

theorem housekept_flushNodeDb (state : MeshState S) :
    Housekept state.ctx (flushNodeDb state).ctx := by
  unfold flushNodeDb
  split
  · exact housekept_saveNodeDb state.ctx
  · exact Housekept.refl state.ctx

theorem housekept_handleShutdown (state : MeshState S) :
    Housekept state.ctx (handleShutdown state).ctx := by
  unfold handleShutdown
  split
  · have hcleared : Housekept state.ctx { state.ctx with shutdownAfterSecs := none } :=
      ⟨_, _, _, rfl⟩
    dsimp only
    split
    · exact hcleared.trans (housekept_saveNodeDb _)
    · exact hcleared
  · exact Housekept.refl state.ctx

def housed (env : Env) (state : MeshState S) (event : MeshEvent) : MeshState S :=
  handleShutdown (flushNodeDb (state.withCtx (handled env state (.mesh event))))

theorem housekept_housed (state : MeshState S) (event : MeshEvent) :
    Housekept (handled env state (.mesh event)) (housed env state event).ctx :=
  (housekept_flushNodeDb _).trans (housekept_handleShutdown _)

/-- The housekeeping writes a snapshot of this database. -/
def Flushes (ctx : MeshCtx S) (lastNodeDbFlush : Nat) : Prop :=
  ctx.nodeDb.dirty = true ∧
    (NODE_DB_FLUSH_INTERVAL_MS ≤ ctx.now - lastNodeDbFlush ∨ ctx.shutdownAfterSecs.isSome = true)

instance (ctx : MeshCtx S) (lastNodeDbFlush : Nat) : Decidable (Flushes ctx lastNodeDbFlush) :=
  inferInstanceAs (Decidable (_ ∧ _))

theorem ctx_flushNodeDb (state : MeshState S) :
    (flushNodeDb state).ctx =
      if state.ctx.nodeDb.dirty = true ∧
          NODE_DB_FLUSH_INTERVAL_MS ≤ state.ctx.now - state.lastNodeDbFlush then
        saveNodeDb state.ctx
      else state.ctx := by
  unfold flushNodeDb
  split <;> rfl

def withoutShutdown (ctx : MeshCtx S) : MeshCtx S := { ctx with shutdownAfterSecs := none }

omit [MeshStorage S] in
theorem withoutShutdown_of_none {ctx : MeshCtx S} (h : ctx.shutdownAfterSecs = none) :
    withoutShutdown ctx = ctx := by
  cases ctx
  cases h
  rfl

theorem ctx_handleShutdown (state : MeshState S) :
    (handleShutdown state).ctx = withoutShutdown
      (if state.ctx.nodeDb.dirty = true ∧ state.ctx.shutdownAfterSecs.isSome = true then
        saveNodeDb state.ctx
      else state.ctx) := by
  unfold handleShutdown
  cases hshutdown : state.ctx.shutdownAfterSecs with
  | none =>
      rw [if_neg (fun h => nomatch h.2)]
      exact (withoutShutdown_of_none hshutdown).symm
  | some secs =>
      dsimp only
      by_cases hdirty : state.ctx.nodeDb.dirty = true
      · rw [if_pos hdirty, if_pos ⟨hdirty, rfl⟩]
        rfl
      · rw [if_neg hdirty, if_neg (fun h => hdirty h.1)]
        rfl

theorem nodeDb_saveNodeDb_of_ok {ctx : MeshCtx S}
    (hok : (MeshStorage.saveNodeDb ctx.storage ctx.nodeDb).2 = true) :
    (saveNodeDb ctx).nodeDb = ctx.nodeDb.markClean := by
  unfold saveNodeDb
  dsimp only
  rw [if_pos hok]

theorem ctx_housed {state : MeshState S} {event : MeshEvent}
    (hok : Flushes (handled env state (.mesh event)) state.lastNodeDbFlush →
      (MeshStorage.saveNodeDb (handled env state (.mesh event)).storage
        (handled env state (.mesh event)).nodeDb).2 = true) :
    (housed env state event).ctx = withoutShutdown
      (if Flushes (handled env state (.mesh event)) state.lastNodeDbFlush then
        saveNodeDb (handled env state (.mesh event))
      else handled env state (.mesh event)) := by
  unfold housed
  generalize handled env state (.mesh event) = ctx at hok ⊢
  rw [ctx_handleShutdown]
  refine congrArg withoutShutdown ?_
  have hflush := ctx_flushNodeDb (state.withCtx ctx)
  change (flushNodeDb (state.withCtx ctx)).ctx = if ctx.nodeDb.dirty = true ∧
    NODE_DB_FLUSH_INTERVAL_MS ≤ ctx.now - state.lastNodeDbFlush then saveNodeDb ctx else ctx
    at hflush
  by_cases hdirty : ctx.nodeDb.dirty = true
  · by_cases hdue : NODE_DB_FLUSH_INTERVAL_MS ≤ ctx.now - state.lastNodeDbFlush
    · have hflushes : Flushes ctx state.lastNodeDbFlush := ⟨hdirty, Or.inl hdue⟩
      have hclean : (saveNodeDb ctx).nodeDb.dirty = false := by
        rw [nodeDb_saveNodeDb_of_ok (hok hflushes)]
        rfl
      rw [if_pos ⟨hdirty, hdue⟩] at hflush
      rw [hflush, if_neg (fun h => Bool.false_ne_true (hclean.symm.trans h.1)), if_pos hflushes]
    · rw [if_neg (fun h => hdue h.2)] at hflush
      rw [hflush]
      exact if_congr (and_congr_right fun _ => (or_iff_right hdue).symm) rfl rfl
  · rw [if_neg (fun h => hdirty h.1)] at hflush
    rw [hflush, if_neg (fun h => hdirty h.1), if_neg (fun h : Flushes ctx _ => hdirty h.1)]

theorem shutdownCmd_housed (state : MeshState S) (event : MeshEvent) :
    (housed env state event).shutdownCmd =
      (handled env state (.mesh event)).shutdownAfterSecs.or state.shutdownCmd := by
  have hflush : (flushNodeDb (state.withCtx (handled env state (.mesh event)))).shutdownCmd =
      state.shutdownCmd ∧
      (flushNodeDb (state.withCtx (handled env state (.mesh event)))).ctx.shutdownAfterSecs =
        (handled env state (.mesh event)).shutdownAfterSecs := by
    unfold flushNodeDb
    split <;> exact ⟨rfl, rfl⟩
  unfold housed handleShutdown
  rw [hflush.2]
  cases (handled env state (.mesh event)).shutdownAfterSecs with
  | none => exact hflush.1
  | some secs => rfl

theorem handleEvent_eq {state : MeshState S} (event : MeshEvent)
    (hstarted : state.started = true) :
    handleEvent env state event =
      if restarts env state (.mesh event) = true then reboot env (housed env state event)
      else housed env state event := by
  have hhandled : handled env state (.mesh event) =
      Handlers.dispatch env (noteActivity state.ctx event) event := if_pos hstarted
  have hhoused : handleEvent env state event = handleReboot env (housed env state event) := by
    unfold handleEvent housed
    rw [hhandled]
  have hreboot := (@housekept_housed S _ env state event).rebootAfterSecs_eq
  rw [hhoused]
  unfold handleReboot restarts
  dsimp only
  rw [hstarted, Bool.true_and, ← hreboot]
  cases (housed env state event).ctx.rebootAfterSecs <;> rfl

theorem step_eq_housed {state : MeshState S} {event : MeshEvent} (hstarted : state.started = true)
    (h : restarts env state (.mesh event) = false) :
    step env state (.mesh event) = housed env state event := by
  unfold step
  dsimp only
  rw [if_pos hstarted, handleEvent_eq event hstarted, h]
  rfl

theorem step_of_timer {state : MeshState S} {event : Event}
    (hrestarts : restarts env state event = false) (hevent : ∀ mesh, event ≠ .mesh mesh) :
    (step env state event).ctx = handled env state event := by
  cases event with
  | mesh event => exact absurd rfl (hevent event)
  | powerCycle => cases hrestarts
  | announce =>
      unfold step handled announce
      dsimp only
      split <;> rfl
  | rebroadcastDue =>
      unfold step handled
      dsimp only
      split <;> rfl
  | retransmissionDue =>
      unfold step handled
      dsimp only
      split <;> rfl
  | _ => rfl

theorem step_of_not_restarts {state : MeshState S} {event : Event}
    (h : restarts env state event = false) :
    Housekept (handled env state event) (step env state event).ctx := by
  cases event with
  | mesh event =>
      cases hstarted : state.started with
      | true =>
          rw [step_eq_housed hstarted h]
          exact housekept_housed state event
      | false =>
          unfold step handled
          dsimp only
          rw [hstarted]
          exact Housekept.refl _
  | _ =>
      rw [step_of_timer h (by intro mesh hmesh; cases hmesh)]
      exact Housekept.refl _

theorem step_of_restarts {state : MeshState S} {event : Event}
    (h : restarts env state event = true) :
    ∃ housed : MeshState S, Housekept (handled env state event) housed.ctx ∧
      step env state event = reboot env housed := by
  cases event with
  | mesh event =>
      have hstarted : state.started = true := (Bool.and_eq_true_iff.mp h).1
      refine ⟨housed env state event, housekept_housed state event, ?_⟩
      unfold step
      dsimp only
      rw [if_pos hstarted, handleEvent_eq event hstarted, if_pos h]
  | powerCycle => exact ⟨state, Housekept.refl state.ctx, rfl⟩
  | announce => cases h
  | rebroadcastDue => cases h
  | retransmissionDue => cases h
  | bleTaken => cases h
  | loraTaken => cases h
  | elapse ms => cases h

def reopened (env : Env) (state : MeshState S) : Event → S
  | .mesh event => MeshStorage.reopen (housed env state event).ctx.storage
  | _ => MeshStorage.reopen state.ctx.storage

theorem nodeDb_of_restarts {state : MeshState S} {event : Event}
    (h : restarts env state event = true) :
    (step env state event).ctx.nodeDb = MeshStorage.loadNodeDb (reopened env state event)
      (NodeDb.new (step env state event).ctx.device.myNodeNum) := by
  cases event with
  | mesh event =>
      have hstarted : state.started = true := (Bool.and_eq_true_iff.mp h).1
      unfold step
      dsimp only
      rw [if_pos hstarted, handleEvent_eq event hstarted, if_pos h]
      rfl
  | powerCycle => rfl
  | _ => cases h

end Meshtastenstein.MeshState
