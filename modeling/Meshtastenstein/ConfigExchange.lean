import Meshtastenstein.Bridge
import Meshtastenstein.Lib.Queues
/-!
# The configuration exchange

The messages of a handshake stage are pushed at once into the queue to the phone, behind
whatever waits there.  The stage gets through whole exactly when the queue has room for all
of it.
-/

namespace Meshtastenstein

open Lib Proto Handlers

variable {S : Type} {env : Env}

/-! ## The queue to the phone -/

/-- What is queued for the phone, without the message ids. -/
def MeshCtx.told (ctx : MeshCtx S) : List FromRadio.Variant := ctx.txToBle.map (·.variant)

namespace MeshCtx

theorem length_told (ctx : MeshCtx S) : ctx.told.length = ctx.txToBle.length :=
  List.length_map _

theorem told_trySendBle (ctx : MeshCtx S) (msg : FromRadioMessage) :
    (ctx.trySendBle msg).told = Mailbox.trySend BLE_TX_QUEUE_SIZE ctx.told msg.variant := by
  unfold told
  rw [← Mailbox.map_trySend, trySendBle_eq]
  rfl

end MeshCtx

namespace Handlers

theorem told_pushFromRadio (ctx : MeshCtx S) (variant : FromRadio.Variant) :
    (pushFromRadio ctx variant).told = Mailbox.trySend BLE_TX_QUEUE_SIZE ctx.told variant :=
  MeshCtx.told_trySendBle ctx.takeFromRadioId _

theorem told_foldl_pushFromRadio (variants : List FromRadio.Variant) (ctx : MeshCtx S) :
    (variants.foldl pushFromRadio ctx).told =
      variants.foldl (Mailbox.trySend BLE_TX_QUEUE_SIZE) ctx.told := by
  induction variants generalizing ctx with
  | nil => rfl
  | cons variant variants ih => rw [List.foldl_cons, List.foldl_cons, ih, told_pushFromRadio]

theorem told_foldl_pushFromRadio_bounds (variants : List FromRadio.Variant) (ctx : MeshCtx S) :
    ctx.told <+: (variants.foldl pushFromRadio ctx).told ∧
      (variants.foldl pushFromRadio ctx).told.length ≤
        max BLE_TX_QUEUE_SIZE ctx.told.length := by
  rw [told_foldl_pushFromRadio]
  refine ⟨?_, Mailbox.length_foldl_trySend_le ctx.told variants⟩
  rw [Mailbox.foldl_trySend]
  exact List.prefix_append _ _

end Handlers

namespace Handlers.FromApp

variable [MeshStorage S]

theorem told_replayFrames_bounds (remaining : Nat) (ctx : MeshCtx S) :
    ctx.told <+: (replayFrames env remaining ctx).told ∧
      (replayFrames env remaining ctx).told.length ≤ max BLE_TX_QUEUE_SIZE ctx.told.length := by
  induction remaining generalizing ctx with
  | zero => exact ⟨List.prefix_refl _, Nat.le_max_right _ _⟩
  | succ remaining ih =>
      unfold replayFrames
      split
      · rename_i frame _
        generalize hpopped : { ctx with storage := MeshStorage.pop ctx.storage } = popped
        have htold : popped.told = ctx.told := by
          rw [← hpopped]
          rfl
        have hreplayed : ctx.told <+: (replayFrame env popped frame).told ∧
            (replayFrame env popped frame).told.length ≤
              max BLE_TX_QUEUE_SIZE ctx.told.length := by
          rw [replayFrame_eq, ← htold]
          split
          · exact told_foldl_pushFromRadio_bounds [_] popped
          · exact ⟨List.prefix_refl _, Nat.le_max_right _ _⟩
        obtain ⟨happended, hlength⟩ := ih (replayFrame env popped frame)
        refine ⟨hreplayed.1.trans happended, ?_⟩
        have hbound := hreplayed.2
        omega
      · exact ⟨List.prefix_refl _, Nat.le_max_right _ _⟩

/-! ## The stages -/

/-- The messages of the handshake stage that the request id asks for, in order. -/
def stage (env : Env) (ctx : MeshCtx S) (configId : UInt32) : List FromRadio.Variant :=
  if configId = SPECIAL_NONCE_ONLY_NODES then
    ownNodeInfo ctx :: nodeDbExchange ctx.nodeDb ++ [.configCompleteId configId]
  else configExchange env ctx configId

omit [MeshStorage S] in
theorem stage_eq_concat (ctx : MeshCtx S) (configId : UInt32) :
    ∃ messages, stage env ctx configId = messages ++ [.configCompleteId configId] := by
  unfold stage
  split
  · exact ⟨_, rfl⟩
  · exact ⟨_, rfl⟩

omit [MeshStorage S] in
theorem length_stage_of_ne {configId : UInt32} (h : configId ≠ SPECIAL_NONCE_ONLY_NODES)
    (ctx : MeshCtx S) : (stage env ctx configId).length = 41 := by
  unfold stage
  rw [if_neg h]
  simp [configExchange, configVariants, moduleConfigVariants, MAX_CHANNELS]

omit [MeshStorage S] in
theorem told_exchanged_bounds (ctx : MeshCtx S) (configId : UInt32) :
    ((stage env ctx configId).foldl pushFromRadio ctx).told <+:
        (exchanged env ctx configId).told ∧
      (exchanged env ctx configId).told.length ≤
        max BLE_TX_QUEUE_SIZE ((stage env ctx configId).foldl pushFromRadio ctx).told.length := by
  unfold exchanged stage
  split
  · unfold sendNodeinfoExchange replaySatelliteDb
    exact told_foldl_pushFromRadio_bounds _ _
  · exact ⟨List.prefix_refl _, Nat.le_max_right _ _⟩

theorem told_wantConfigId_bounds (ctx : MeshCtx S) (configId : UInt32) :
    let after := handleToRadio env ctx (some (.wantConfigId configId))
    (stage env ctx configId).foldl (Mailbox.trySend BLE_TX_QUEUE_SIZE) ctx.told <+: after.told ∧
      after.told.length ≤ max BLE_TX_QUEUE_SIZE ctx.told.length := by
  rw [handleToRadio_wantConfigId, ← told_foldl_pushFromRadio]
  intro after
  obtain ⟨hreplayed, hreplayedLength⟩ := @told_replayFrames_bounds S env _
    (MeshStorage.count (exchanged env ctx configId).storage) (exchanged env ctx configId)
  obtain ⟨hexchanged, hexchangedLength⟩ := @told_exchanged_bounds S env ctx configId
  have hstage := (told_foldl_pushFromRadio_bounds (stage env ctx configId) ctx).2
  refine ⟨hexchanged.trans hreplayed, hreplayedLength.trans ?_⟩
  omega

/-- The stage is queued whole, in order and behind what was queued before. -/
def QueuesWhole (env : Env) (ctx after : MeshCtx S) (configId : UInt32) : Prop :=
  ctx.told ++ stage env ctx configId <+: after.told

theorem queuesWhole_dispatch_iff (ctx : MeshCtx S) {data : Bytes} {configId : UInt32}
    (hdata : data ≠ [])
    (hdecode : env.prost.toRadio.decode data = some ⟨some (.wantConfigId configId)⟩) :
    QueuesWhole env ctx (dispatch env ctx data) configId ↔
      ctx.txToBle.length + (stage env ctx configId).length ≤ BLE_TX_QUEUE_SIZE := by
  have hdispatch : (dispatch env ctx data).told =
      (handleToRadio env ctx (some (.wantConfigId configId))).told := by
    unfold dispatch
    rw [if_neg (by simpa using hdata), hdecode]
    rfl
  obtain ⟨happended, hlength⟩ := @told_wantConfigId_bounds S env _ ctx configId
  obtain ⟨messages, hmessages⟩ := @stage_eq_concat S env ctx configId
  unfold QueuesWhole
  rw [hdispatch, ← MeshCtx.length_told]
  exact Mailbox.whole_iff (by simp [hmessages]) happended hlength

/-- In every reachable state, a stage is queued whole exactly when the queue has room for
it. -/
theorem queuesWhole_after_iff (mac : Bytes) (storage : S) (pkcKeypair : Key × Key)
    (entropy : Nat → UInt32) (events : List MeshState.Event) (data : Bytes)
    (configId : UInt32) :
    let ctx := (MeshState.after env mac storage pkcKeypair entropy events).ctx
    data ≠ [] → env.prost.toRadio.decode data = some ⟨some (.wantConfigId configId)⟩ →
      (QueuesWhole env ctx (dispatch env ctx data) configId ↔
        ctx.txToBle.length + (stage env ctx configId).length ≤ BLE_TX_QUEUE_SIZE) :=
  fun hdata hdecode => queuesWhole_dispatch_iff _ hdata hdecode

/-- The phone asks for the first stage under id 7. -/
def wantConfig : Bytes := [0x18, 0x07]

theorem wantConfig_decodes :
    KnownAnswers.defaultKey.env.prost.toRadio.decode wantConfig =
      some ⟨some (.wantConfigId 7)⟩ := by
  rfl

def connectedRun : List MeshState.Event := [.announce, .mesh .bleConnected]

/-- The phone goes away before it takes the first stage, comes back and asks again. -/
def reconnectedRun : List MeshState.Event :=
  connectedRun ++ [.mesh (.bleRx wantConfig), .mesh .bleDisconnected, .mesh .bleConnected]

def exchangeCtx (events : List MeshState.Event) : MeshCtx FakeStorage :=
  (MeshState.after KnownAnswers.defaultKey.env KnownAnswers.mac {} KnownAnswers.noKeypair
    KnownAnswers.noEntropy events).ctx

theorem connectedRun_queuesWhole :
    QueuesWhole KnownAnswers.defaultKey.env (exchangeCtx connectedRun)
      (dispatch KnownAnswers.defaultKey.env (exchangeCtx connectedRun) wantConfig) 7 := by
  have hwhole := @queuesWhole_after_iff FakeStorage KnownAnswers.defaultKey.env _
    KnownAnswers.mac {} KnownAnswers.noKeypair KnownAnswers.noEntropy connectedRun wantConfig 7
  unfold exchangeCtx
  refine (hwhole (by decide) wantConfig_decodes).mpr ?_
  rw [length_stage_of_ne (by decide)]
  decide

/-- The second time, the first stage is cut short. -/
theorem reconnectedRun_cut_short :
    (exchangeCtx reconnectedRun).bleConnected = true ∧
    KnownAnswers.defaultKey.env.prost.toRadio.decode wantConfig =
      some ⟨some (.wantConfigId 7)⟩ ∧
      ¬ QueuesWhole KnownAnswers.defaultKey.env (exchangeCtx reconnectedRun)
        (dispatch KnownAnswers.defaultKey.env (exchangeCtx reconnectedRun) wantConfig) 7 := by
  have hqueued : (exchangeCtx reconnectedRun).txToBle.length = 41 := by
    decide +kernel
  refine ⟨by decide +kernel, wantConfig_decodes, fun hwhole => ?_⟩
  rw [queuesWhole_dispatch_iff _ (by decide) wantConfig_decodes,
    length_stage_of_ne (by decide), hqueued] at hwhole
  exact absurd hwhole (by decide)

end Handlers.FromApp

end Meshtastenstein
