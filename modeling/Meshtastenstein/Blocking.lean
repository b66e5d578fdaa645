import Meshtastenstein.BleSessions
import Meshtastenstein.Holdings
/-!
# Waiting for the phone

Only the answer to an admin request of the phone waits for a slot in the queue to the
phone.  When the phone has stopped reading, it waits for ever.
-/

namespace Meshtastenstein

open Lib Proto Handlers

variable {S : Type} {env : Env}

/-! ## Frames from the radio -/

namespace Handlers.FromRadio

variable [MeshStorage S]

theorem unblocked_handleNew (ctx : MeshCtx S) (frame : RadioFrame) (header : PacketHeader)
    (metadata : RadioMetadata) (decoded : DecodedPayload) :
    Unblocked ctx (handleNew env ctx frame header metadata decoded) := by
  have hbuffer : ∀ ctx : MeshCtx S, Unblocked ctx (bufferText ctx frame decoded.portnum) := by
    intro ctx
    unfold bufferText
    split <;> exact Unblocked.of_eq rfl
  have hforward : ∀ (ctx : MeshCtx S) (pkt : InboundPacket),
      Unblocked ctx (forwardInbound ctx header metadata decoded pkt) := by
    intro ctx pkt
    unfold forwardInbound forwardToBle
    split
    · exact Unblocked.push ctx _
    · exact Unblocked.refl ctx
  unfold handleNew
  dsimp only
  exact ((((tellsOwn_noteSender ctx header metadata).unblocked.trans (hbuffer _)).trans
    (tellsOwn_handlePortnum _ _ _).unblocked).trans (hforward _ _)).trans
      ((tellsOwn_ackInbound _ header decoded).unblocked.trans
        (tellsOwn_relayInbound _ frame header metadata).unblocked)

theorem txToBle_dispatch_of_none {ctx : MeshCtx S} {frame : RadioFrame}
    (h : newPacket env ctx frame = none) (metadata : RadioMetadata) :
    (dispatch env ctx frame metadata).txToBle = ctx.txToBle := by
  unfold newPacket at h
  unfold dispatch
  cases hheader : frame.header with
  | none => rfl
  | some header =>
      rw [hheader] at h
      dsimp only at h ⊢
      split
      · unfold hearOwnPacket
        split <;> rfl
      · rename_i hsender
        rw [if_neg hsender] at h
        split
        · rename_i decoded hdecoded
          rw [hdecoded] at h
          unfold handleDecoded
          dsimp only at h ⊢
          split
          · rename_i hnew
            rw [hnew] at h
            cases h
          · unfold upgradeRebroadcast
            split <;> rfl
          · rfl
          · rfl
        · exact txToBle_answerUnknownPubkey ctx header
        · exact txToBle_handleUndecodable ctx frame header metadata

theorem unblocked_dispatch (ctx : MeshCtx S) (frame : RadioFrame) (metadata : RadioMetadata) :
    Unblocked ctx (dispatch env ctx frame metadata) := by
  cases hnew : newPacket env ctx frame with
  | none => exact Unblocked.of_eq (txToBle_dispatch_of_none hnew metadata)
  | some packet =>
      obtain ⟨header, decoded⟩ := packet
      rw [dispatch_of_newPacket hnew metadata]
      exact unblocked_handleNew (admitted ctx header) frame header metadata decoded

end Handlers.FromRadio

/-! ## Messages from the phone -/

namespace Handlers.FromApp

theorem unblocked_sendToMesh (ctx : MeshCtx S) (pkt : MeshPacket) (data : Data) :
    Unblocked ctx (sendToMesh env ctx pkt data) := by
  refine PhoneWork.closed Unblocked.refl Unblocked.trans (fun hwork => ?_)
    (@works_sendToMesh S env ctx pkt data)
  cases hwork with
  | report dest requestId error =>
      exact (tellsOwn_sendBleRoutingResult _ dest requestId error).unblocked
  | _ => exact Unblocked.of_eq rfl

variable [MeshStorage S]

/-- Whether a message of the phone is an admin request to this node that is answered. -/
def asksBack (env : Env) (ctx : MeshCtx S) (bytes : Bytes) : Bool :=
  match localAdmin env ctx bytes with
  | some (_, data) =>
      (Admin.command env ctx data.payload false).any (Admin.isAnswered env)
  | none => false

theorem unblocked_dispatch_of_none {ctx : MeshCtx S} {bytes : Bytes}
    (h : localAdmin env ctx bytes = none) : Unblocked ctx (dispatch env ctx bytes) := by
  unfold localAdmin at h
  unfold dispatch
  by_cases hbytes : bytes.isEmpty = true
  · rw [if_pos hbytes]
    exact Unblocked.refl ctx
  rw [if_neg hbytes] at h ⊢
  rcases hdecode : env.prost.toRadio.decode bytes with _ | ⟨_ | variant⟩
  · exact Unblocked.refl ctx
  · exact Unblocked.of_eq rfl
  rw [hdecode] at h
  cases variant with
  | packet pkt =>
      unfold handleToRadio transmitFromBlePacket
      dsimp only at h ⊢
      rcases hpayload : pkt.payloadVariant with _ | payload
      · exact Unblocked.of_eq rfl
      cases payload with
      | decoded data =>
          rw [hpayload] at h
          dsimp only at h ⊢
          split at h
          · cases h
          · rename_i hlocal
            have hnoted : Unblocked ctx (notePosition ctx data) := by
              unfold notePosition
              split <;> exact Unblocked.of_eq rfl
            unfold transmitDecoded
            rw [if_neg hlocal]
            exact (hnoted.trans (unblocked_sendToMesh _ pkt data)).trans (Unblocked.of_eq rfl)
      | encrypted bytes => exact Unblocked.of_eq rfl
  | wantConfigId configId =>
      have hlength := (@told_wantConfigId_bounds S env _ ctx configId).2
      rw [MeshCtx.length_told, MeshCtx.length_told] at hlength
      have hexchanged : Unblocked ctx (handleToRadio env ctx (some (.wantConfigId configId))) :=
        hlength
      exact hexchanged.trans (Unblocked.of_eq rfl)
  | heartbeat nonce =>
      unfold handleToRadio
      dsimp only
      split
      · exact (tellsOwn_sendNodeinfo ctx _ _).unblocked.trans (Unblocked.of_eq rfl)
      · exact (Unblocked.push ctx _).trans (Unblocked.of_eq rfl)
  | disconnect _ => exact Unblocked.of_eq rfl
  | _ => exact Unblocked.of_eq rfl

/-- Administration by the phone waits exactly when its answer finds the queue full. -/
theorem unblocked_handleLocalAdmin_iff (ctx : MeshCtx S) (pkt : MeshPacket) (data : Data) :
    Unblocked ctx (handleLocalAdmin env ctx pkt data) ↔
      ((Admin.command env ctx data.payload false).any (Admin.isAnswered env) = true →
        ctx.txToBle.length < BLE_TX_QUEUE_SIZE) := by
  have hack : ∀ administered : MeshCtx S,
      administered.txToBle.length ≤ (if pkt.wantAck = true then
        sendBleRoutingAck env administered pkt.fromNode pkt.id else administered).txToBle.length ∧
      Unblocked administered (if pkt.wantAck = true then
        sendBleRoutingAck env administered pkt.fromNode pkt.id else administered) := by
    intro administered
    split
    · have hown := @tellsOwn_sendBleRoutingResult S env administered pkt.fromNode pkt.id .none
      obtain ⟨msgs, htold, -⟩ := hown.tells
      refine ⟨?_, hown.unblocked⟩
      rw [show (sendBleRoutingAck env administered pkt.fromNode pkt.id).txToBle =
        administered.txToBle ++ msgs from htold, List.length_append]
      exact Nat.le_add_right _ _
    · exact ⟨Nat.le_refl _, Unblocked.refl administered⟩
  unfold handleLocalAdmin
  dsimp only
  rw [Admin.dispatch_eq]
  cases hcommand : Admin.command env ctx data.payload false with
  | none =>
      constructor
      · intro _ hasked
        cases hasked
      · exact fun _ => (hack ctx).2
  | some variant =>
      rw [Option.any_some]
      rcases @Admin.handleVariant_cases S env _ ctx pkt.fromNode pkt.id false variant with
        ⟨hanswered, answer, hanswer⟩ | ⟨hsilent, hadministered⟩
      · -- the answer is queued whether there is room for it or not
        obtain ⟨session, entropy, hpasskey⟩ := ensureSessionPasskey_eq ctx
        have hlength : (Admin.handleVariant env ctx pkt.fromNode pkt.id false
            variant).txToBle.length = ctx.txToBle.length + 1 := by
          rw [hanswer]
          unfold Admin.sendAdminResponse
          rw [if_neg (by simp), hpasskey]
          exact List.length_append
        obtain ⟨hgrown, hunblocked⟩ := hack (Admin.handleVariant env ctx pkt.fromNode pkt.id false
          variant)
        unfold Unblocked at hunblocked ⊢
        rw [hlength] at hgrown hunblocked
        dsimp only
        constructor
        · intro _ _
          omega
        · intro hroom
          have hlt := hroom hanswered
          omega
      · have hkept : Unblocked ctx (Admin.handleVariant env ctx pkt.fromNode pkt.id false
            variant) :=
          Unblocked.of_eq (congrArg (fun traffic => traffic.2.2.2.2.2.2) hadministered.traffic_eq)
        constructor
        · intro _ hasked
          rw [hsilent] at hasked
          cases hasked
        · exact fun _ => hkept.trans (hack _).2

theorem unblocked_dispatch_iff (ctx : MeshCtx S) (bytes : Bytes) :
    Unblocked ctx (dispatch env ctx bytes) ↔
      (asksBack env ctx bytes = true → ctx.txToBle.length < BLE_TX_QUEUE_SIZE) := by
  unfold asksBack
  cases hlocal : localAdmin env ctx bytes with
  | none =>
      constructor
      · intro _ hasked
        cases hasked
      · exact fun _ => unblocked_dispatch_of_none hlocal
  | some packet =>
      obtain ⟨pkt, data⟩ := packet
      rw [dispatch_of_localAdmin hlocal]
      exact unblocked_handleLocalAdmin_iff ctx pkt data

end Handlers.FromApp

/-! ## All events -/

namespace Handlers

namespace Periodic

theorem txToBle_loraSend (ctx : MeshCtx S) (portnum : PortNum) (payload : Bytes) (dest : UInt32)
    (wantResponse : Bool) :
    (loraSend env ctx portnum payload dest wantResponse).1.txToBle = ctx.txToBle := by
  unfold loraSend
  split
  · dsimp only
    split <;> rfl
  · rfl

theorem txToBle_broadcastNodeinfo (ctx : MeshCtx S) :
    (broadcastNodeinfo env ctx).txToBle = ctx.txToBle := by
  unfold broadcastNodeinfo
  dsimp only
  split <;> exact txToBle_loraSend ctx _ _ _ _

theorem txToBle_dispatch (ctx : MeshCtx S) : (dispatch env ctx).txToBle = ctx.txToBle := by
  have hnodeinfo : ∀ ctx : MeshCtx S, (tickNodeinfo env ctx).txToBle = ctx.txToBle := by
    intro ctx
    unfold tickNodeinfo
    dsimp only
    split
    · exact txToBle_broadcastNodeinfo ctx
    · rfl
  have hneighbors : ∀ ctx : MeshCtx S, (tickNeighborinfo env ctx).txToBle = ctx.txToBle := by
    intro ctx
    unfold tickNeighborinfo broadcastNeighborinfo
    dsimp only
    split
    · split
      · rfl
      · exact txToBle_loraSend ctx _ _ _ _
    · rfl
  have hposition : ∀ ctx : MeshCtx S, (tickPosition env ctx).txToBle = ctx.txToBle := by
    intro ctx
    unfold tickPosition broadcastPosition
    dsimp only
    split
    · split
      · rfl
      · split <;> exact txToBle_loraSend ctx _ _ _ _
    · rfl
  unfold dispatch
  split
  · rw [hposition, hneighbors, hnodeinfo]
  · rfl

theorem txToBle_broadcastTelemetry (ctx : MeshCtx S) (payload : Bytes) :
    (broadcastTelemetry env ctx payload).txToBle = ctx.txToBle := by
  unfold broadcastTelemetry loraSend
  dsimp only
  repeat' split
  all_goals rfl

theorem unblocked_sendDeviceTelemetry (ctx : MeshCtx S) (batteryLevel : UInt8)
    (voltageMv : UInt16) : Unblocked ctx (sendDeviceTelemetry env ctx batteryLevel voltageMv) := by
  unfold sendDeviceTelemetry forwardTelemetry
  dsimp only
  split
  · exact (Unblocked.of_eq (txToBle_broadcastTelemetry ctx _)).trans
      ((Unblocked.of_eq rfl).trans (Unblocked.push _ _))
  · exact Unblocked.of_eq (txToBle_broadcastTelemetry ctx _)

end Periodic

variable [MeshStorage S]

/-- Handling the event never waits for a free slot in the queue to the phone. -/
def Finishes (env : Env) (ctx : MeshCtx S) (event : MeshEvent) : Prop :=
  Unblocked ctx (dispatch env ctx event)

/-- Whether the event is an admin request of the phone that is answered. -/
def asksBack (env : Env) (ctx : MeshCtx S) : MeshEvent → Bool
  | .bleRx bytes => FromApp.asksBack env ctx bytes
  | _ => false

theorem finishes_iff (ctx : MeshCtx S) (event : MeshEvent) :
    Finishes env ctx event ↔
      (asksBack env ctx event = true → ctx.txToBle.length < BLE_TX_QUEUE_SIZE) := by
  have hfinishes : asksBack env ctx event = false → Finishes env ctx event →
      (Finishes env ctx event ↔
        (asksBack env ctx event = true → ctx.txToBle.length < BLE_TX_QUEUE_SIZE)) := by
    intro hsilent hfinishes
    rw [hsilent]
    exact ⟨fun _ h => absurd h Bool.false_ne_true, fun _ => hfinishes⟩
  cases event with
  | loraRx frame metadata =>
      exact hfinishes rfl (FromRadio.unblocked_dispatch ctx frame metadata)
  | bleRx bytes => exact FromApp.unblocked_dispatch_iff ctx bytes
  | batteryUpdate level voltageMv =>
      exact hfinishes rfl (Periodic.unblocked_sendDeviceTelemetry ctx level voltageMv)
  | tick => exact hfinishes rfl (Unblocked.of_eq (Periodic.txToBle_dispatch ctx))
  | _ => exact hfinishes rfl (Unblocked.of_eq rfl)

end Handlers

/-! ## Whole runs -/

namespace Firmware

open Handlers

/-- In every reachable state of the tasks and channels, an event is handled without waiting
exactly when it is no admin request that is answered, or there is room for the answer. -/
theorem finishes_run_iff [MeshStorage S] (board : Board) (mac : Bytes) (storage : S)
    (pkcKeypair : Key × Key) (entropy : Nat → UInt32) (events : List Event)
    (event : MeshEvent) :
    let ctx := MeshState.noteActivity (Transition.run (step env board)
      (boot env mac storage pkcKeypair entropy) events).mesh.ctx event
    Finishes env ctx event ↔
      (asksBack env ctx event = true → ctx.txToBle.length < BLE_TX_QUEUE_SIZE) :=
  finishes_iff _ event

/-- The phone asks for the owner of this node. -/
def ownerRequest : Bytes := [0x0a, 0x08, 0x22, 0x06, 0x08, 0x06, 0x12, 0x02, 0x18, 0x01]

/-- The phone asks twice for the configuration and reads nothing of it. -/
def fullRun : List Event :=
  [.announce, .advertised true, .accepted true,
    .gatt (.toRadioWrite Handlers.FromApp.wantConfig), .receive,
    .gatt (.toRadioWrite Handlers.FromApp.wantConfig), .receive]

/-- Then it asks for the owner and goes on writing. -/
def stuckRun : List Event :=
  fullRun ++ .gatt (.toRadioWrite ownerRequest) :: .receive ::
    List.replicate 17 (.gatt (.toRadioWrite ownerRequest))

def firmwareAfter (events : List Event) : Firmware FakeStorage :=
  Transition.run (step KnownAnswers.defaultKey.adminEnv .esp32)
    (boot KnownAnswers.defaultKey.adminEnv KnownAnswers.mac {} KnownAnswers.noKeypair
      KnownAnswers.noEntropy) events

/-- The answer finds the queue full, and the two tasks wait for each other. -/
theorem stuckRun_waits :
    (firmwareAfter fullRun).mesh.ctx.txToBle.length = BLE_TX_QUEUE_SIZE ∧
      ¬ Finishes KnownAnswers.defaultKey.adminEnv (firmwareAfter fullRun).mesh.ctx
        (.bleRx ownerRequest) ∧
      BLE_TX_QUEUE_SIZE < (firmwareAfter stuckRun).mesh.ctx.txToBle.length ∧
      MESH_IN_QUEUE_SIZE < (firmwareAfter stuckRun).meshIn.length := by
  have hfull : (firmwareAfter fullRun).mesh.ctx.txToBle.length = BLE_TX_QUEUE_SIZE := by
    decide +kernel
  refine ⟨hfull, ?_, by decide +kernel, by decide +kernel⟩
  rw [finishes_iff]
  intro hroom
  have hlt := hroom (by decide +kernel)
  omega

end Firmware

end Meshtastenstein
