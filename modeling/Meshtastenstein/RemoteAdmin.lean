import Meshtastenstein.AdminSession
/-!
# First contact over the mesh

A message from the mesh is carried out only under the live session key, and the key is handed
out only with an answer.  A read request without a key is never answered, and until the phone
has been given a key nothing from the mesh is.
-/

namespace Meshtastenstein

open Lib Proto Handlers

variable {S : Type} [MeshStorage S] {env : Env}

/-! ## The gate -/

def Proto.AdminMessage.Variant.IsRead : AdminMessage.Variant → Prop
  | .getOwnerRequest _ | .getConfigRequest _ | .getChannelRequest _
  | .getModuleConfigRequest _ => True
  | _ => False

/-- A read request that comes over the mesh without a session key. -/
structure FirstContact (env : Env) (request : AdminRequest) : Prop where
  viaLora : request.viaLora = true
  keyless : ∃ message variant, env.prost.adminMessage.decode request.bytes = some message ∧
    message.sessionPasskey = [] ∧ message.payloadVariant = some variant ∧ variant.IsRead

namespace Handlers.Admin

omit [MeshStorage S] in
theorem not_isAuthorized_of_none {ctx : MeshCtx S} (h : ctx.sessionPasskey = none)
    (message : AdminMessage) : isAuthorized ctx message true = false := by
  rw [Bool.eq_false_iff]
  intro hauthorized
  obtain ⟨-, session, hsession, -⟩ := SessionRun.isAuthorized_iff.mp hauthorized
  rw [h] at hsession
  cases hsession

omit [MeshStorage S] in
theorem command_of_viaLora_eq_none {ctx : MeshCtx S} {bytes : Bytes}
    (h : ∀ message, env.prost.adminMessage.decode bytes = some message →
      isAuthorized ctx message true = false) : command env ctx bytes true = none := by
  unfold command
  cases hdecode : env.prost.adminMessage.decode bytes with
  | none => rfl
  | some message =>
      rw [Option.bind_some, h message hdecode]
      rfl

omit [MeshStorage S] in
theorem command_of_firstContact {request : AdminRequest} (h : FirstContact env request)
    (ctx : MeshCtx S) : command env ctx request.bytes request.viaLora = none := by
  obtain ⟨message, -, hdecode, hkeyless, -⟩ := h.keyless
  rw [h.viaLora]
  apply command_of_viaLora_eq_none
  intro message' hdecode'
  obtain rfl := Option.some.inj (hdecode.symm.trans hdecode')
  unfold isAuthorized
  rw [hkeyless]
  rfl

theorem run_of_command_eq_none {ctx : MeshCtx S} {request : AdminRequest}
    (h : command env ctx request.bytes request.viaLora = none) : run env ctx request = ctx := by
  unfold run
  rw [dispatch_eq, h]

theorem not_answers_of_command_eq_none {ctx : MeshCtx S} {request : AdminRequest}
    (h : command env ctx request.bytes request.viaLora = none) (answer : AdminMessage.Variant) :
    ¬ Answers env ctx request answer := by
  rintro ⟨hcommand, -⟩
  rw [h] at hcommand
  cases hcommand

end Handlers.Admin

/-! ## Runs -/

namespace MeshState

def PhoneUnanswered (env : Env) (state : MeshState S) (event : Event) : Prop :=
  ∀ noted request answer, SessionRun.called env state event = some (noted, request) →
    request.viaLora = false → ¬ Admin.Answers env noted request answer

theorem sessionPasskey_step {state : MeshState S} {event : Event}
    (hnone : state.ctx.sessionPasskey = none) (hphone : PhoneUnanswered env state event) :
    (step env state event).ctx.sessionPasskey = none := by
  cases hrestarts : restarts env state event with
  | true =>
      obtain ⟨housed, -, hstep⟩ := step_of_restarts hrestarts
      rw [hstep]
      rfl
  | false =>
      have hkept := SessionRun.session_of_housekept (step_of_not_restarts hrestarts)
      have hafter : (step env state event).ctx.sessionPasskey =
          (handled env state event).sessionPasskey := congrArg Prod.fst hkept
      rw [hafter]
      rcases (@SessionRun.handled_cases S _ env state event).2 with
        hsame | ⟨noted, request, answer, hcalled, hanswer⟩
      · exact hsame.trans hnone
      · cases hlora : request.viaLora with
        | false => exact absurd hanswer (hphone noted request answer hcalled hlora)
        | true =>
            have hnoted : noted.sessionPasskey = none :=
              (congrArg Prod.fst (SessionRun.handled_of_called hcalled).1).trans hnone
            have hcommand : Admin.command env noted request.bytes request.viaLora = none := by
              rw [hlora]
              exact Admin.command_of_viaLora_eq_none fun message _ =>
                Admin.not_isAuthorized_of_none hnoted message
            exact absurd hanswer (Admin.not_answers_of_command_eq_none hcommand answer)

structure Unreachable (env : Env) (state : MeshState S) (event : Event) (noted : MeshCtx S)
    (request : AdminRequest) : Prop where
  /-- No answer goes out. -/
  unanswered : ∀ answer, ¬ Admin.Answers env noted request answer
  /-- The administration does nothing at all. -/
  ignored : Admin.run env noted request = noted
  /-- No key is issued. -/
  unissued : (handled env state event).sessionPasskey = state.ctx.sessionPasskey

/-- In every run a read request from the mesh without a key is dropped, and as long as the
phone is given no key so is every message from the mesh. -/
theorem remoteAdmin_unreachable (env : Env) (mac : Bytes) (storage : S) (pkcKeypair : Key × Key)
    (entropy : Nat → UInt32) (events : List Event) :
    let state := after env mac storage pkcKeypair entropy events
    (∀ event noted request, SessionRun.called env state event = some (noted, request) →
      FirstContact env request → Unreachable env state event noted request) ∧
    (Transition.Always (step env) (PhoneUnanswered env)
        (boot env mac storage pkcKeypair entropy) events →
      ∀ message, Admin.isAuthorized state.ctx message true = false) := by
  intro state
  constructor
  · intro event noted request hcalled hcontact
    have hcommand := Admin.command_of_firstContact hcontact noted
    have hignored := Admin.run_of_command_eq_none hcommand
    obtain ⟨hnoted, -, hsession⟩ := SessionRun.handled_of_called hcalled
    rw [hignored] at hsession
    exact
      { unanswered := Admin.not_answers_of_command_eq_none hcommand
        ignored := hignored
        unissued := congrArg Prod.fst (hsession.trans hnoted) }
  · intro hphone message
    have hstep : ∀ (state : MeshState S) event, state.ctx.sessionPasskey = none →
        PhoneUnanswered env state event → (step env state event).ctx.sessionPasskey = none :=
      fun _ _ hnone hphone => sessionPasskey_step hnone hphone
    have hboot : (boot env mac storage pkcKeypair entropy).ctx.sessionPasskey = none := rfl
    exact Admin.not_isAuthorized_of_none (Transition.invariant_run hstep hboot hphone) message

/-- Node `0x11223344` asks the owner of this node, without a session key. -/
def ownerAsked : RadioFrame where
  bytes :=
    [0x56, 0x34, 0x12, 0x28, 0x44, 0x33, 0x22, 0x11, 0x09, 0x00, 0x00, 0x00, 0x63, 0x08, 0x00,
     0x44, 0x66, 0x00, 0x3c, 0x1c, 0xc0, 0x02]
  length_le := by simp [MAX_LORA_PAYLOAD_LEN]

def freshNode : MeshState FakeStorage :=
  after KnownAnswers.defaultKey.adminEnv KnownAnswers.mac {} KnownAnswers.noKeypair
    KnownAnswers.noEntropy [.announce]

def ownerRequest : AdminRequest where
  requester := 0x11223344
  reqPktId := 9
  bytes := [0x18, 0x01]
  viaLora := true

/-- A fresh node drops the request, and would drop any other. -/
theorem freshNode_unreachable :
    ∃ noted, SessionRun.called KnownAnswers.defaultKey.adminEnv freshNode
        (.mesh (.loraRx ownerAsked ⟨0, 0⟩)) = some (noted, ownerRequest) ∧
      FirstContact KnownAnswers.defaultKey.adminEnv ownerRequest ∧
      (∀ answer, ¬ Admin.Answers KnownAnswers.defaultKey.adminEnv noted ownerRequest answer) ∧
      ∀ message, Admin.isAuthorized freshNode.ctx message true = false := by
  have hcontact : FirstContact KnownAnswers.defaultKey.adminEnv ownerRequest :=
    ⟨rfl, _, .getOwnerRequest true, rfl, rfl, rfl, trivial⟩
  refine ⟨_, rfl, hcontact, ?_, ?_⟩
  · exact Admin.not_answers_of_command_eq_none (Admin.command_of_firstContact hcontact _)
  · exact Admin.not_isAuthorized_of_none rfl

end MeshState

end Meshtastenstein
