import Mathlib.Algebra.GroupWithZero.Nat
import Meshtastenstein.Holdings
import Meshtastenstein.KnownAnswers
import Meshtastenstein.Runs
/-!
# The session of the administrator

A passkey is issued with an answer and opens administration over the mesh while it lives.
A clock and a record of the issued keys, which no restart resets, run beside the node.
-/

namespace Meshtastenstein

open Lib Proto Handlers

variable {S : Type} [MeshStorage S] {env : Env}

/-! ## Requests -/

/-- An admin message on its way to the administration, from the mesh or from the phone. -/
structure AdminRequest where
  requester : UInt32
  reqPktId : UInt32
  bytes : Bytes
  viaLora : Bool

def MeshCtx.standing {S : Type} (ctx : MeshCtx S) :
    (Option SessionPasskey × Nat) × DeviceState :=
  (ctx.session, ctx.device.settings)

namespace MeshCtx

variable {ctx ctx' : MeshCtx S}

omit [MeshStorage S] in
theorem standing_of_core (h : ctx'.core = ctx.core) : ctx'.standing = ctx.standing :=
  congrArg (fun core => ((core.sessionPasskey, core.now), core.settings)) h

omit [MeshStorage S] in
theorem standing_of_resident (h : ctx'.resident = ctx.resident) : ctx'.standing = ctx.standing :=
  standing_of_core (core_of_resident h)

omit [MeshStorage S] in
theorem session_of_core (h : ctx'.core = ctx.core) : ctx'.session = ctx.session :=
  congrArg (fun core => (core.sessionPasskey, core.now)) h

omit [MeshStorage S] in
theorem session_of_resident (h : ctx'.resident = ctx.resident) : ctx'.session = ctx.session :=
  session_of_core (core_of_resident h)

end MeshCtx

namespace Handlers.Admin

def run (env : Env) (ctx : MeshCtx S) (request : AdminRequest) : MeshCtx S :=
  dispatch env ctx request.requester request.reqPktId request.bytes request.viaLora

def Answers (env : Env) (ctx : MeshCtx S) (request : AdminRequest)
    (answer : AdminMessage.Variant) : Prop :=
  (command env ctx request.bytes request.viaLora).isSome = true ∧
    run env ctx request =
      sendAdminResponse env ctx request.requester request.reqPktId answer request.viaLora

theorem answers_or_kept (ctx : MeshCtx S) (request : AdminRequest) :
    (∃ answer, Answers env ctx request answer) ∨
      (run env ctx request).session = ctx.session := by
  unfold Answers run
  rw [dispatch_eq]
  cases command env ctx request.bytes request.viaLora with
  | none => exact Or.inr rfl
  | some variant =>
      rcases @handleVariant_cases S env _ ctx request.requester request.reqPktId
        request.viaLora variant with ⟨-, answer, hanswer⟩ | ⟨-, hadministered⟩
      · exact Or.inl ⟨answer, rfl, hanswer⟩
      · exact Or.inr hadministered.session_eq

omit [MeshStorage S] in
theorem session_sendAdminResponse (ctx : MeshCtx S) (requester reqPktId : UInt32)
    (variant : AdminMessage.Variant) (viaLora : Bool) :
    (sendAdminResponse env ctx requester reqPktId variant viaLora).session =
      (ensureSessionPasskey ctx).session := by
  unfold sendAdminResponse
  dsimp only
  split
  · exact MeshCtx.session_of_resident (resident_originate _ _)
  · rfl

end Handlers.Admin

namespace Handlers

def adminCall (env : Env) (ctx : MeshCtx S) : MeshEvent → Option (MeshCtx S × AdminRequest)
  | .loraRx frame metadata =>
      match FromRadio.newPacket env ctx frame with
      | some (header, decoded) =>
          let noted := FromRadio.noteSender env (FromRadio.admitted ctx header) header metadata
          if decoded.portnum = PortNum.adminApp.toI32 ∧ header.isForUs ctx.device.myNodeNum then
            some (FromRadio.bufferText noted frame decoded.portnum,
              { requester := header.sender
                reqPktId := header.packetId
                bytes := decoded.payload
                viaLora := true })
          else none
      | none => none
  | .bleRx bytes =>
      (FromApp.localAdmin env ctx bytes).map fun (pkt, data) =>
        (ctx,
          { requester := pkt.fromNode
            reqPktId := pkt.id
            bytes := data.payload
            viaLora := false })
  | _ => none

/-- The administration finds the session, the clock and the settings as they were. -/
theorem standing_adminCall {ctx noted : MeshCtx S} {event : MeshEvent} {request : AdminRequest}
    (h : adminCall env ctx event = some (noted, request)) :
    noted.standing = ctx.standing := by
  unfold adminCall at h
  cases event with
  | loraRx frame metadata =>
      dsimp only at h
      split at h
      · rename_i header decoded _
        split at h
        · cases h
          have hnoted := (FromRadio.core_bufferText _ frame decoded.portnum).trans
            (@FromRadio.core_noteSender S env (FromRadio.admitted ctx header) header metadata)
          exact (MeshCtx.standing_of_core hnoted).trans rfl
        · cases h
      · cases h
  | bleRx bytes =>
      obtain ⟨packet, -, hcall⟩ := Option.map_eq_some_iff.mp h
      cases hcall
      rfl
  | _ => cases h

theorem lasting_dispatch {ctx noted : MeshCtx S} {event : MeshEvent} {request : AdminRequest}
    (h : adminCall env ctx event = some (noted, request)) :
    (dispatch env ctx event).lasting = (Admin.run env noted request).lasting := by
  unfold adminCall at h
  cases event with
  | loraRx frame metadata =>
      dsimp only at h
      cases hnew : FromRadio.newPacket env ctx frame with
      | none =>
          rw [hnew] at h
          cases h
      | some packet =>
          obtain ⟨header, decoded⟩ := packet
          rw [hnew] at h
          dsimp only at h
          by_cases hcalled : decoded.portnum = PortNum.adminApp.toI32 ∧
              header.isForUs ctx.device.myNodeNum = true
          · rw [if_pos hcalled] at h
            cases h
            obtain ⟨hadmin, hdest⟩ := hcalled
            have hnum : (FromRadio.noteSender env (FromRadio.admitted ctx header) header
                metadata).device.myNodeNum = ctx.device.myNodeNum :=
              congrArg (fun core => core.settings.myNodeNum)
                (@FromRadio.core_noteSender S env (FromRadio.admitted ctx header) header metadata)
            unfold dispatch
            dsimp only
            rw [FromRadio.dispatch_of_newPacket hnew metadata, FromRadio.lasting_handleNew]
            unfold FromRadio.handlePortnum
            rw [show PortNum.tryFrom decoded.portnum = some .adminApp by rw [hadmin]; rfl]
            dsimp only
            unfold FromRadio.handleAdmin FromRadio.inboundPacket
            rw [hnum, if_pos hdest]
            rfl
          · rw [if_neg hcalled] at h
            cases h
  | bleRx bytes =>
      obtain ⟨⟨pkt, data⟩, hlocal, hcall⟩ := Option.map_eq_some_iff.mp h
      cases hcall
      unfold dispatch
      dsimp only
      rw [FromApp.dispatch_of_localAdmin hlocal,
        MeshCtx.lasting_of_resident (MeshCtx.resident_blink _ _)]
      unfold FromApp.handleLocalAdmin sendBleRoutingAck
      dsimp only
      split
      · exact MeshCtx.lasting_of_resident (resident_sendBleRoutingResult _ _ _ _)
      · rfl
  | _ => cases h

/-- Where the administration does not run, the session and the settings stay. -/
theorem standing_dispatch_of_none {ctx : MeshCtx S} {event : MeshEvent}
    (h : adminCall env ctx event = none) : (dispatch env ctx event).standing = ctx.standing := by
  unfold adminCall at h
  cases event with
  | loraRx frame metadata =>
      dsimp only at h
      unfold dispatch
      dsimp only
      cases hnew : FromRadio.newPacket env ctx frame with
      | none =>
          exact congrArg (fun lasting => (lasting.1.2, lasting.2))
            (FromRadio.lasting_dispatch_of_none hnew metadata)
      | some packet =>
          obtain ⟨header, decoded⟩ := packet
          rw [hnew] at h
          dsimp only at h
          have hcore : (FromRadio.noteSender env (FromRadio.admitted ctx header) header
              metadata).core = (FromRadio.admitted ctx header).core :=
            FromRadio.core_noteSender _ header metadata
          have hbuffered := (FromRadio.core_bufferText (FromRadio.noteSender env
            (FromRadio.admitted ctx header) header metadata) frame decoded.portnum).trans hcore
          have hstanding := congrArg (fun lasting => (lasting.1.2, lasting.2))
            (@FromRadio.lasting_handleNew S _ env (FromRadio.admitted ctx header) frame header
              metadata decoded)
          rw [FromRadio.dispatch_of_newPacket hnew metadata]
          refine Eq.trans hstanding ?_
          change (FromRadio.handlePortnum env _ decoded.portnum _).standing = ctx.standing
          by_cases hadmin : decoded.portnum = PortNum.adminApp.toI32
          · have hdest : ¬ header.isForUs ctx.device.myNodeNum = true := by
              intro hdest
              rw [if_pos ⟨hadmin, hdest⟩] at h
              cases h
            have hnum : (FromRadio.noteSender env (FromRadio.admitted ctx header) header
                metadata).device.myNodeNum = ctx.device.myNodeNum :=
              congrArg (fun core => core.settings.myNodeNum) hcore
            unfold FromRadio.handlePortnum
            rw [show PortNum.tryFrom decoded.portnum = some .adminApp by rw [hadmin]; rfl]
            dsimp only
            unfold FromRadio.handleAdmin FromRadio.inboundPacket
            rw [hnum, if_neg hdest]
            exact (MeshCtx.standing_of_core hbuffered).trans rfl
          · exact (MeshCtx.standing_of_core
              ((FromRadio.core_handlePortnum _ _ hadmin).trans hbuffered)).trans rfl
  | bleRx bytes =>
      have hlocal := Option.map_eq_none_iff.mp h
      exact MeshCtx.standing_of_core
        (congrArg Resident.core (FromApp.resident_dispatch_of_none hlocal))
  | batteryUpdate level voltageMv =>
      exact MeshCtx.standing_of_resident
        (Periodic.resident_sendDeviceTelemetry ctx level voltageMv)
  | tick => exact MeshCtx.standing_of_resident (Periodic.resident_dispatch ctx)
  | _ => rfl

/-! ## Issuing -/

omit [MeshStorage S] in
/-- The live session is kept, or a new one issued when there is none or it is half through
its life. -/
theorem ensureSessionPasskey_cases (ctx : MeshCtx S) :
    (ensureSessionPasskey ctx).now = ctx.now ∧
    ∃ session, (ensureSessionPasskey ctx).sessionPasskey = some session ∧
      ((ctx.sessionPasskey = some session ∧
          ctx.now - session.issuedAt < SessionPasskey.REFRESH_MS) ∨
        ((∀ old, ctx.sessionPasskey = some old →
            SessionPasskey.REFRESH_MS ≤ ctx.now - old.issuedAt) ∧
          session.issuedAt = ctx.now ∧ session.key.length = 8)) := by
  unfold ensureSessionPasskey
  dsimp only
  cases hsession : ctx.sessionPasskey with
  | none =>
      refine ⟨rfl, _, rfl, Or.inr ⟨?_, rfl, ?_⟩⟩
      · intro old hold
        cases hold
      · simp [Bytes.length_toLeBytes]
  | some existing =>
      dsimp only
      by_cases hdue : existing.needsRefresh ctx.now = true
      · rw [if_pos hdue]
        refine ⟨rfl, _, rfl, Or.inr ⟨?_, rfl, ?_⟩⟩
        · intro old hold
          cases hold
          exact of_decide_eq_true hdue
        · simp [Bytes.length_toLeBytes]
      · rw [if_neg hdue]
        refine ⟨rfl, existing, hsession, Or.inl ⟨rfl, ?_⟩⟩
        unfold SessionPasskey.needsRefresh at hdue
        simpa using hdue

end Handlers

/-! ## The record of a run -/

def MeshState.Event.duration : MeshState.Event → Nat
  | .elapse ms => ms
  | _ => 0

def newSession (before after : MeshCtx S) : Option SessionPasskey :=
  if after.sessionPasskey = before.sessionPasskey then none else after.sessionPasskey

/-- A clock that no restart resets, and the key issued last with the time of its issue. -/
structure SessionLog where
  clock : Nat
  issued : Option (Bytes × Nat)

def SessionLog.note (log : SessionLog) (env : Env) (state : MeshState S)
    (event : MeshState.Event) : SessionLog where
  clock := log.clock + event.duration
  issued :=
    match newSession state.ctx (MeshState.handled env state event) with
    | some session => some (session.key, log.clock)
    | none => log.issued

/-- A node and the record beside it. -/
structure SessionRun (S : Type) where
  state : MeshState S
  log : SessionLog

namespace SessionRun

def step (env : Env) (run : SessionRun S) (event : MeshState.Event) : SessionRun S where
  state := MeshState.step env run.state event
  log := run.log.note env run.state event

def boot (env : Env) (mac : Bytes) (storage : S) (pkcKeypair : Key × Key)
    (entropy : Nat → UInt32) : SessionRun S where
  state := MeshState.boot env mac storage pkcKeypair entropy
  log := { clock := 0, issued := none }

/-- The context and the request with which a step runs the administration. -/
def called (env : Env) (state : MeshState S) : MeshState.Event → Option (MeshCtx S × AdminRequest)
  | .mesh event =>
      if state.started then adminCall env (MeshState.noteActivity state.ctx event) event
      else none
  | _ => none

omit [MeshStorage S] in
theorem standing_fireRetransmissions (ctx : MeshCtx S) :
    (MeshState.fireRetransmissions env ctx).standing = ctx.standing :=
  (MeshCtx.standing_of_core (congrArg Resident.core
    (MeshState.resident_fireRetransmissions ctx))).trans rfl

omit [MeshStorage S] in
theorem standing_noteActivity (ctx : MeshCtx S) (event : MeshEvent) :
    (MeshState.noteActivity ctx event).standing = ctx.standing := by
  cases event <;> rfl

/-- Where the administration runs, it finds everything as it was and has the last word. -/
theorem standing_handled_of_called {state : MeshState S} {event : MeshState.Event}
    {noted : MeshCtx S} {request : AdminRequest}
    (h : called env state event = some (noted, request)) :
    noted.standing = state.ctx.standing ∧ event.duration = 0 ∧
      (MeshState.handled env state event).standing = (Admin.run env noted request).standing := by
  cases event with
  | mesh event =>
      unfold called at h
      dsimp only at h
      split at h
      · rename_i hstarted
        refine ⟨(standing_adminCall h).trans (standing_noteActivity state.ctx event), rfl, ?_⟩
        unfold MeshState.handled
        dsimp only
        rw [if_pos hstarted]
        exact congrArg (fun lasting => (lasting.1.2, lasting.2)) (lasting_dispatch h)
      · cases h
  | _ => cases h

theorem handled_of_called {state : MeshState S} {event : MeshState.Event} {noted : MeshCtx S}
    {request : AdminRequest} (h : called env state event = some (noted, request)) :
    noted.session = state.ctx.session ∧ event.duration = 0 ∧
      (MeshState.handled env state event).session = (Admin.run env noted request).session := by
  obtain ⟨hnoted, hduration, hhandled⟩ := standing_handled_of_called h
  exact ⟨congrArg Prod.fst hnoted, hduration, congrArg Prod.fst hhandled⟩

theorem standing_handled_of_uncalled {state : MeshState S} {event : MeshState.Event}
    (h : called env state event = none) :
    (MeshState.handled env state event).standing =
      ((state.ctx.sessionPasskey, state.ctx.now + event.duration),
        state.ctx.device.settings) := by
  unfold MeshState.handled
  cases event with
  | mesh event =>
      unfold called at h
      dsimp only at h ⊢
      split
      · rename_i hstarted
        rw [if_pos hstarted] at h
        exact (standing_dispatch_of_none h).trans (standing_noteActivity state.ctx event)
      · rfl
  | announce =>
      dsimp only
      split
      · rfl
      · exact MeshCtx.standing_of_resident (Periodic.resident_broadcastNodeinfo state.ctx)
  | rebroadcastDue =>
      dsimp only
      split
      · rcases MeshState.fireRebroadcast_cases state.ctx with hsent | ⟨i, pending, -, hsent⟩
        · rw [hsent]
          rfl
        · rw [hsent]
          rfl
      · rfl
  | retransmissionDue =>
      dsimp only
      split
      · exact standing_fireRetransmissions state.ctx
      · rfl
  | _ => rfl

theorem handled_of_uncalled {state : MeshState S} {event : MeshState.Event}
    (h : called env state event = none) :
    (MeshState.handled env state event).session =
      (state.ctx.sessionPasskey, state.ctx.now + event.duration) :=
  congrArg Prod.fst (standing_handled_of_uncalled h)

theorem handled_of_answers {state : MeshState S} {event : MeshState.Event} {noted : MeshCtx S}
    {request : AdminRequest} {answer : AdminMessage.Variant}
    (hcalled : called env state event = some (noted, request))
    (hanswer : Admin.Answers env noted request answer) :
    (MeshState.handled env state event).session = (ensureSessionPasskey noted).session := by
  rw [(handled_of_called hcalled).2.2, hanswer.2]
  exact Admin.session_sendAdminResponse noted request.requester request.reqPktId answer
    request.viaLora

/-- Time passes, and only an answer of the administration renews the session. -/
theorem handled_cases (state : MeshState S) (event : MeshState.Event) :
    (MeshState.handled env state event).now = state.ctx.now + event.duration ∧
    ((MeshState.handled env state event).sessionPasskey = state.ctx.sessionPasskey ∨
      ∃ noted request answer, called env state event = some (noted, request) ∧
        Admin.Answers env noted request answer) := by
  cases hcalled : called env state event with
  | none =>
      have hsession := handled_of_uncalled hcalled
      exact ⟨congrArg Prod.snd hsession, Or.inl (congrArg Prod.fst hsession)⟩
  | some call =>
      obtain ⟨noted, request⟩ := call
      obtain ⟨hnoted, hduration, hsession⟩ := handled_of_called hcalled
      rw [hduration]
      rcases @Admin.answers_or_kept S _ env noted request with ⟨answer, hanswer⟩ | hkept
      · refine ⟨?_, Or.inr ⟨noted, request, answer, rfl, hanswer⟩⟩
        calc
          (MeshState.handled env state event).now = (ensureSessionPasskey noted).now :=
            congrArg Prod.snd (handled_of_answers hcalled hanswer)
          _ = noted.now := (ensureSessionPasskey_cases noted).1
          _ = state.ctx.now := congrArg Prod.snd hnoted
      · have hsame := hsession.trans (hkept.trans hnoted)
        exact ⟨congrArg Prod.snd hsame, Or.inl (congrArg Prod.fst hsame)⟩

/-! ## Whole runs -/

/-- A new session is issued with an answer, when there was none or the old one was half
through its life. -/
theorem of_newSession {state : MeshState S} {event : MeshState.Event}
    {session : SessionPasskey}
    (h : newSession state.ctx (MeshState.handled env state event) = some session) :
    (∃ noted request answer, called env state event = some (noted, request) ∧
      Admin.Answers env noted request answer) ∧
    (∀ old, state.ctx.sessionPasskey = some old →
      SessionPasskey.REFRESH_MS ≤ state.ctx.now - old.issuedAt) ∧
    session.key.length = 8 ∧ session.issuedAt = state.ctx.now := by
  unfold newSession at h
  split at h
  · cases h
  · rename_i hnew
    rcases (@handled_cases S _ env state event).2 with hkept | hanswered
    · exact absurd hkept hnew
    · refine ⟨hanswered, ?_⟩
      obtain ⟨noted, request, answer, hcalled, hanswer⟩ := hanswered
      have hsession := handled_of_answers hcalled hanswer
      have hnoted := (handled_of_called hcalled).1
      have hold : noted.sessionPasskey = state.ctx.sessionPasskey := congrArg Prod.fst hnoted
      have hnow : noted.now = state.ctx.now := congrArg Prod.snd hnoted
      obtain ⟨-, session', hensured, hcases⟩ := ensureSessionPasskey_cases noted
      have hafter : (MeshState.handled env state event).sessionPasskey = some session' :=
        (congrArg Prod.fst hsession).trans hensured
      rw [hafter] at h hnew
      cases h
      rcases hcases with ⟨hlive, -⟩ | ⟨hdue, hissued, hlength⟩
      · rw [hold] at hlive
        exact absurd hlive.symm hnew
      · rw [hold, hnow] at hdue
        exact ⟨hdue, hlength, hissued.trans hnow⟩

def Tracked (run : SessionRun S) : Prop :=
  ∀ session, run.state.ctx.sessionPasskey = some session →
    ∃ issuedAt, run.log.issued = some (session.key, issuedAt) ∧ session.key.length = 8 ∧
      session.issuedAt ≤ run.state.ctx.now ∧ issuedAt ≤ run.log.clock ∧
      run.log.clock - issuedAt = run.state.ctx.now - session.issuedAt

omit [MeshStorage S] in
theorem session_of_housekept {ctx ctx' : MeshCtx S} (h : MeshState.Housekept ctx ctx') :
    ctx'.session = ctx.session := by
  obtain ⟨_, _, _, rfl⟩ := h
  rfl

theorem tracked_step {run : SessionRun S} (h : Tracked run) (event : MeshState.Event) :
    Tracked (run.step env event) := by
  intro session hsession
  cases hrestarts : MeshState.restarts env run.state event with
  | true =>
      -- a restart begins without a session
      obtain ⟨housed, -, hstep⟩ := MeshState.step_of_restarts hrestarts
      change (MeshState.step env run.state event).ctx.sessionPasskey = some session at hsession
      rw [hstep] at hsession
      cases hsession
  | false =>
      have hkept := session_of_housekept (MeshState.step_of_not_restarts hrestarts)
      have hnow : (run.step env event).state.ctx.now = run.state.ctx.now + event.duration :=
        (congrArg Prod.snd hkept).trans (handled_cases run.state event).1
      have hafter : (MeshState.handled env run.state event).sessionPasskey = some session :=
        (congrArg Prod.fst hkept).symm.trans hsession
      rw [hnow]
      change ∃ issuedAt, (run.log.note env run.state event).issued = _ ∧ _ ∧ _ ∧
        issuedAt ≤ run.log.clock + event.duration ∧
        run.log.clock + event.duration - issuedAt = _
      unfold SessionLog.note
      dsimp only
      cases hnew : newSession run.state.ctx (MeshState.handled env run.state event) with
      | some issued =>
          obtain ⟨-, -, hlength, hissued⟩ := of_newSession hnew
          have hsame : issued = session := by
            unfold newSession at hnew
            split at hnew
            · cases hnew
            · exact Option.some.inj (hnew.symm.trans hafter)
          subst hsame
          rw [hissued]
          exact ⟨run.log.clock, rfl, hlength, by omega, by omega, by omega⟩
      | none =>
          have hold : run.state.ctx.sessionPasskey = some session := by
            unfold newSession at hnew
            split at hnew
            · rename_i hsame
              rw [← hsame]
              exact hafter
            · rw [hnew] at hafter
              cases hafter
          obtain ⟨issuedAt, hlog, hlength, hissued, hclock, hage⟩ := h session hold
          exact ⟨issuedAt, hlog, hlength, by omega, by omega, by omega⟩

/-- Messages and time during which the node does not restart and issues no other key. -/
def Undisturbed (env : Env) (state : MeshState S) (later : List MeshState.Event) : Prop :=
  Transition.Always (MeshState.step env) (fun state event =>
    MeshState.restarts env state event = false ∧
      newSession state.ctx (MeshState.handled env state event) = none) state later

def elapsed (later : List MeshState.Event) : Nat := (later.map (·.duration)).sum

theorem session_of_undisturbed {later : List MeshState.Event} {state : MeshState S}
    {session : SessionPasskey} (h : Undisturbed env state later)
    (hsession : state.ctx.sessionPasskey = some session) :
    (Transition.run (MeshState.step env) state later).ctx.session =
      (some session, state.ctx.now + elapsed later) := by
  induction later generalizing state with
  | nil => exact Prod.ext hsession rfl
  | cons event later ih =>
      obtain ⟨⟨hrestarts, hnew⟩, hlater⟩ := Transition.always_cons.mp h
      have hkept := session_of_housekept (MeshState.step_of_not_restarts hrestarts)
      have hnow : (MeshState.step env state event).ctx.now = state.ctx.now + event.duration :=
        (congrArg Prod.snd hkept).trans (handled_cases state event).1
      have hsame : (MeshState.handled env state event).sessionPasskey = some session := by
        rcases (@handled_cases S _ env state event).2 with hsame | ⟨noted, request, answer,
          hcalled, hanswer⟩
        · exact hsame.trans hsession
        · obtain ⟨-, session', hensured, -⟩ := ensureSessionPasskey_cases noted
          have hafter : (MeshState.handled env state event).sessionPasskey = some session' :=
            (congrArg Prod.fst (handled_of_answers hcalled hanswer)).trans hensured
          unfold newSession at hnew
          split at hnew
          · rename_i hunchanged
            exact hunchanged.trans hsession
          · rw [hafter] at hnew
            cases hnew
      calc
        (Transition.run (MeshState.step env) state (event :: later)).ctx.session =
            (some session, (MeshState.step env state event).ctx.now + elapsed later) :=
          ih hlater ((congrArg Prod.fst hkept).trans hsame)
        _ = (some session, state.ctx.now + elapsed (event :: later)) := by
          rw [hnow, elapsed, elapsed, List.map_cons, List.sum_cons, Nat.add_assoc]

structure Sound (env : Env) (run : SessionRun S) (event : MeshState.Event) : Prop where
  /-- Over the mesh only the key issued last opens the gate, and for less than 300 s. -/
  gate : ∀ noted request message, called env run.state event = some (noted, request) →
    request.viaLora = true → env.prost.adminMessage.decode request.bytes = some message →
    Admin.isAuthorized noted message true = true →
    ∃ issuedAt, run.log.issued = some (message.sessionPasskey, issuedAt) ∧
      message.sessionPasskey.length = 8 ∧ issuedAt ≤ run.log.clock ∧
      run.log.clock - issuedAt < 300000
  /-- A message whose command does not run leaves the key alone. -/
  rejected : ∀ noted request, called env run.state event = some (noted, request) →
    Admin.command env noted request.bytes request.viaLora = none →
    (MeshState.handled env run.state event).sessionPasskey = run.state.ctx.sessionPasskey
  /-- A key is issued with an answer, when there is none or the old one is 150 s old. -/
  issued : ∀ session,
    newSession run.state.ctx (MeshState.handled env run.state event) = some session →
    (∃ noted request answer, called env run.state event = some (noted, request) ∧
      Admin.Answers env noted request answer) ∧
    ∀ old, run.state.ctx.sessionPasskey = some old →
      150000 ≤ run.state.ctx.now - old.issuedAt
  /-- An answer carries a key that opens the gate for 150 s, unless disturbed. -/
  answered : ∀ noted request answer, called env run.state event = some (noted, request) →
    Admin.Answers env noted request answer →
    ∃ session, (MeshState.handled env run.state event).sessionPasskey = some session ∧
      Admin.responseBytes env (ensureSessionPasskey noted) answer =
        env.prost.adminMessage.encode
          { sessionPasskey := session.key, payloadVariant := some answer } ∧
      ∀ later, MeshState.restarts env run.state event = false →
        Undisturbed env (MeshState.step env run.state event) later → elapsed later ≤ 150000 →
        ∀ message, message.sessionPasskey = session.key →
          Admin.isAuthorized
            (Transition.run (MeshState.step env) (MeshState.step env run.state event) later).ctx
            message true = true

omit [MeshStorage S] in
theorem isAuthorized_iff {ctx : MeshCtx S} {message : AdminMessage} :
    Admin.isAuthorized ctx message true = true ↔
      message.sessionPasskey ≠ [] ∧ ∃ session, ctx.sessionPasskey = some session ∧
        ctx.now - session.issuedAt < SessionPasskey.EXPIRY_MS ∧
        message.sessionPasskey = session.key := by
  unfold Admin.isAuthorized SessionPasskey.isExpired
  rw [if_pos rfl]
  cases hsession : ctx.sessionPasskey with
  | none => simp
  | some session => simp

theorem sound_of_tracked {run : SessionRun S} (h : Tracked run) (event : MeshState.Event) :
    Sound env run event where
  gate noted request message hcalled _ _ hauthorized := by
    obtain ⟨-, session, hsession, hlive, hkey⟩ := isAuthorized_iff.mp hauthorized
    have hnoted := (handled_of_called hcalled).1
    have hold : noted.sessionPasskey = run.state.ctx.sessionPasskey := congrArg Prod.fst hnoted
    have hnow : noted.now = run.state.ctx.now := congrArg Prod.snd hnoted
    obtain ⟨issuedAt, hlog, hlength, -, hclock, hage⟩ := h session (hold.symm.trans hsession)
    rw [hkey]
    refine ⟨issuedAt, hlog, hlength, hclock, ?_⟩
    rw [hage, ← hnow]
    exact hlive
  rejected noted request hcalled hcommand := by
    obtain ⟨hnoted, -, hsession⟩ := handled_of_called hcalled
    have hrun : Admin.run env noted request = noted := by
      unfold Admin.run
      rw [Admin.dispatch_eq, hcommand]
    rw [hrun] at hsession
    exact congrArg Prod.fst (hsession.trans hnoted)
  issued session hnew := ⟨(of_newSession hnew).1, (of_newSession hnew).2.1⟩
  answered noted request answer hcalled hanswer := by
    have hsession := handled_of_answers hcalled hanswer
    obtain ⟨hnow, session, hensured, hcases⟩ := ensureSessionPasskey_cases noted
    have hkey : session.key.length = 8 := by
      rcases hcases with ⟨hlive, -⟩ | ⟨-, -, hlength⟩
      · have hold : run.state.ctx.sessionPasskey = some session :=
          (congrArg Prod.fst (handled_of_called hcalled).1).symm.trans hlive
        obtain ⟨-, -, hlength, -⟩ := h session hold
        exact hlength
      · exact hlength
    have hage : noted.now - session.issuedAt < SessionPasskey.REFRESH_MS := by
      rcases hcases with ⟨-, hage⟩ | ⟨-, hissued, -⟩
      · exact hage
      · rw [hissued, Nat.sub_self]
        decide
    refine ⟨session, (congrArg Prod.fst hsession).trans hensured, ?_, ?_⟩
    · unfold Admin.responseBytes
      rw [hensured]
      rfl
    · intro later hrestarts hundisturbed helapsed message hmessage
      have hkept := (session_of_housekept (MeshState.step_of_not_restarts hrestarts)).trans hsession
      have hlater := session_of_undisturbed hundisturbed
        ((congrArg Prod.fst hkept).trans hensured)
      have hstart : (MeshState.step env run.state event).ctx.now = noted.now :=
        (congrArg Prod.snd hkept).trans hnow
      refine isAuthorized_iff.mpr ⟨?_, session, congrArg Prod.fst hlater, ?_, hmessage⟩
      · intro hempty
        rw [← hmessage, hempty] at hkey
        cases hkey
      · rw [show (Transition.run (MeshState.step env) (MeshState.step env run.state event)
            later).ctx.now = noted.now + elapsed later by
          rw [← hstart]
          exact congrArg Prod.snd hlater]
        unfold SessionPasskey.EXPIRY_MS
        unfold SessionPasskey.REFRESH_MS at hage
        omega

/-- In every run the session keeps its promises at every step. -/
theorem sound_run (env : Env) (mac : Bytes) (storage : S) (pkcKeypair : Key × Key)
    (entropy : Nat → UInt32) (events : List MeshState.Event) (event : MeshState.Event) :
    Sound env (Transition.run (step env) (boot env mac storage pkcKeypair entropy) events)
      event := by
  refine sound_of_tracked ?_ event
  have hboot : Tracked (boot env mac storage pkcKeypair entropy) := fun session h => nomatch h
  have hstep : ∀ (run : SessionRun S) (event : MeshState.Event), Tracked run → True →
      Tracked (run.step env event) := fun _ event h _ => tracked_step h event
  exact Transition.invariant_run hstep hboot fun _ _ => trivial

def beginEdit : Bytes := [0x0a, 0x09, 0x22, 0x07, 0x08, 0x06, 0x12, 0x03, 0x80, 0x04, 0x01]

def restartSoon : Bytes := [0x0a, 0x09, 0x22, 0x07, 0x08, 0x06, 0x12, 0x03, 0x88, 0x06, 0x01]

def connectedNode : SessionRun FakeStorage :=
  Transition.run (step KnownAnswers.defaultKey.adminEnv)
    (boot KnownAnswers.defaultKey.adminEnv KnownAnswers.mac {} KnownAnswers.noKeypair
      KnownAnswers.noEntropy) [.announce, .mesh .bleConnected]

/-- A restart forgets the key that was issued just before. -/
theorem restart_forgets_key :
    let env := KnownAnswers.defaultKey.adminEnv
    let answering : MeshState.Event := .mesh (.bleRx beginEdit)
    let answered := MeshState.step env connectedNode.state answering
    let later : List MeshState.Event := [.mesh (.bleRx restartSoon)]
    ∃ noted request answer session,
      called env connectedNode.state answering = some (noted, request) ∧
      Admin.Answers env noted request answer ∧
      (MeshState.handled env connectedNode.state answering).sessionPasskey = some session ∧
      Transition.Always (MeshState.step env) (fun state event =>
        newSession state.ctx (MeshState.handled env state event) = none) answered later ∧
      elapsed later ≤ 150000 ∧
      Admin.isAuthorized (Transition.run (MeshState.step env) answered later).ctx
        { sessionPasskey := session.key } true = false := by
  intro env answering answered later
  refine ⟨_, _, .beginEditSettings true, ⟨List.replicate 8 0, 0⟩, rfl, ⟨by decide, rfl⟩,
    by decide, ?_, by decide, by decide⟩
  decide

end SessionRun

end Meshtastenstein
