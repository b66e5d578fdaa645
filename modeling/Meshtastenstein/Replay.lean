import Meshtastenstein.ConfigExchange
import Meshtastenstein.Holdings
import Meshtastenstein.RingCrashes
/-!
# The replay of buffered frames

A request of the phone is answered with the messages of a handshake stage and after them
with the buffered frames, oldest first, as many as the queue takes.
-/

namespace Meshtastenstein

open Lib Proto Handlers

variable {S : Type} {env : Env}

/-! ## The messages before the frames -/

namespace Handlers

def satelliteMessages (env : Env) (ctx : MeshCtx S) : List FromRadio.Variant :=
  let others := ctx.nodeDb.nodes.toList.filter (·.nodeNum != ctx.device.myNodeNum)
  let positions := others.filterMap fun entry =>
    entry.position.map fun position =>
      makeReplayPositionPacket env entry position ctx.device.hopLimit
  let telemetry := others.filterMap fun entry =>
    entry.deviceMetrics.map fun metrics =>
      makeReplayTelemetryPacket env entry metrics ctx.device.hopLimit
  positions ++ telemetry

theorem replaySatelliteDb_eq (ctx : MeshCtx S) :
    replaySatelliteDb env ctx = (satelliteMessages env ctx).foldl pushFromRadio ctx := rfl

theorem satelliteMessages_congr {ctx ctx' : MeshCtx S} (h : ctx'.resident = ctx.resident) :
    satelliteMessages env ctx' = satelliteMessages env ctx := by
  have hdb : ctx'.nodeDb = ctx.nodeDb := congrArg (fun r => r.holdings.nodeDb) h
  have hnum : ctx'.device.myNodeNum = ctx.device.myNodeNum :=
    congrArg (fun r => r.core.settings.myNodeNum) h
  have hlimit : ctx'.device.hopLimit = ctx.device.hopLimit :=
    congrArg (fun r => r.core.settings.hopLimit) h
  unfold satelliteMessages
  rw [hdb, hnum, hlimit]

end Handlers

namespace Handlers.FromApp

def handshake (env : Env) (ctx : MeshCtx S) (configId : UInt32) : List FromRadio.Variant :=
  if configId = SPECIAL_NONCE_ONLY_NODES then stage env ctx configId ++ satelliteMessages env ctx
  else stage env ctx configId

theorem told_exchanged (ctx : MeshCtx S) (configId : UInt32) :
    (exchanged env ctx configId).told =
      (handshake env ctx configId).foldl (Mailbox.trySend BLE_TX_QUEUE_SIZE) ctx.told := by
  unfold exchanged handshake stage
  split
  · have hnodes : ∀ messages : List FromRadio.Variant,
        (messages.foldl pushFromRadio ctx).resident = ctx.resident := fun messages =>
      MeshCtx.resident_foldl resident_pushFromRadio messages ctx
    unfold sendNodeinfoExchange
    rw [replaySatelliteDb_eq, satelliteMessages_congr (hnodes _), told_foldl_pushFromRadio,
      told_foldl_pushFromRadio, ← List.foldl_append]
  · exact told_foldl_pushFromRadio _ ctx

theorem storage_exchanged (ctx : MeshCtx S) (configId : UInt32) :
    (exchanged env ctx configId).storage = ctx.storage :=
  congrArg (fun resident => resident.holdings.storage) (resident_exchange ctx configId)

/-! ## The frames -/

section

variable [MeshStorage S]

/-- A replay tells the phone what it gets of the buffered frames, in order, as long as there
is room. -/
theorem told_replayFrames (remaining : Nat) (ctx : MeshCtx S) :
    (replayFrames env remaining ctx).told =
      ((buffered remaining ctx.storage).filterMap (replayVariant env ctx.device)).foldl
        (Mailbox.trySend BLE_TX_QUEUE_SIZE) ctx.told := by
  induction remaining generalizing ctx with
  | zero => rfl
  | succ remaining ih =>
      unfold replayFrames buffered
      rcases MeshStorage.peek ctx.storage with _ | _ | frame
      · rfl
      · rfl
      dsimp only
      generalize hpopped : { ctx with storage := MeshStorage.pop ctx.storage } = popped
      have hdevice : popped.device = ctx.device := by rw [← hpopped]
      have hstorage : popped.storage = MeshStorage.pop ctx.storage := by rw [← hpopped]
      have htold : popped.told = ctx.told := by
        rw [← hpopped]
        rfl
      rw [ih, storage_replayFrame, device_replayFrame, hstorage, hdevice, replayFrame_eq,
        hdevice, List.filterMap_cons]
      cases replayVariant env ctx.device frame with
      | none =>
          dsimp only
          rw [htold]
      | some variant =>
          dsimp only
          rw [told_pushFromRadio, htold]
          rfl

end

end Handlers.FromApp

/-! ## The ring -/

namespace NvsStorage

open Lib.NorFlash Lib.WorkingFlash

variable {medium : Medium} {F : Type} [WorkingFlash medium F] {partition : Partition F}
  {s s' : partition.Storage}

theorem queue_congr (h : s'.ring = s.ring) : s'.queue = s.queue := by
  unfold queue
  rw [h]

theorem Sound.congr (h : s.Sound) (hring : s'.ring = s.ring) : s'.Sound where
  inOrder := by
    rw [hring]
    exact h.inOrder
  readable := by
    rw [queue_congr hring]
    exact h.readable

theorem peek_of_sound (h : s.Sound) {count : Nat} (hcount : s.ring.count = count + 1) :
    ∃ frame, s.peek = some (some frame) ∧ s.queue = some frame :: s.pop.queue := by
  have hpos : 0 < s.ring.count := hcount ▸ Nat.succ_pos count
  have hqueue := queue_of_count_pos hpos
  cases hshown : (s.ring.slots s.ring.tail).shown with
  | none =>
      rw [hshown] at hqueue
      have hnone : none ∈ s.queue := by
        rw [hqueue]
        exact List.mem_cons_self
      exact absurd hnone h.readable
  | some frame =>
      rw [hshown] at hqueue
      refine ⟨frame, ?_, ?_⟩
      · rw [peek_of_count_pos hpos, hqueue]
        rfl
      · rw [queue_pop]
        exact hqueue

theorem buffered_of_sound (h : s.Sound) :
    (FromApp.buffered s.ring.count s).map some = s.queue ∧
      (FromApp.drained s.ring.count s).Sound ∧
      (FromApp.drained s.ring.count s).queue = [] := by
  generalize hcount : s.ring.count = count
  induction count generalizing s with
  | zero =>
      have hnil : s.queue = [] := by
        rw [← List.length_eq_zero_iff, length_queue, hcount]
      exact ⟨hnil.symm, h, hnil⟩
  | succ count ih =>
      obtain ⟨frame, hpeek, hqueue⟩ := peek_of_sound h hcount
      have hpopped : s.pop.Sound := sound_step h .pop
      have hleft : s.pop.ring.count = count := by
        have hlength := congrArg List.length hqueue
        rw [List.length_cons, length_queue, length_queue, hcount] at hlength
        exact (Nat.succ.inj hlength).symm
      obtain ⟨hbuffered, hsound, hempty⟩ := ih hpopped hleft
      have hread : MeshStorage.peek s = some (some frame) := hpeek
      unfold FromApp.buffered FromApp.drained
      rw [hread]
      refine ⟨?_, hsound, hempty⟩
      dsimp only
      rw [List.map_cons, hqueue]
      exact congrArg (some frame :: ·) hbuffered

end NvsStorage

end Meshtastenstein
