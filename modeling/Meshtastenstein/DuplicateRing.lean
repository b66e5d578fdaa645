import Mathlib.Data.Option.Basic
import Meshtastenstein.RelayAgreement
/-!
# What the duplicate rings remember

Over calls in any order, the history knows the keys of the last two hundred calls that
returned `New` and the opaque ring the last thirty-two keys it took in.  Neither ring moves
by a call on the other.
-/

namespace Meshtastenstein

open Lib Lib.Transition Proto

/-! ## Relayers -/

/-- The relay bytes of a record are distinct and name a node. -/
def PacketRecord.RelayersApart (record : PacketRecord) : Prop :=
  record.relayedBy.toList.Nodup ∧ 0 ∉ record.relayedBy.toList

namespace PacketRecord

theorem relayersApart_addRelayer {record : PacketRecord} (h : record.RelayersApart)
    (relayNode : UInt8) : (record.addRelayer relayNode).RelayersApart := by
  unfold addRelayer
  by_cases hnone : relayNode = NO_NEXT_HOP
  · rw [if_pos hnone]
    exact h
  · rw [if_neg hnone]
    by_cases hknown : record.relayedBy.toList.contains relayNode
    · rw [if_pos hknown]
      exact h
    · rw [if_neg hknown]
      unfold RelayersApart Bounded.pushOrDrop
      dsimp only
      by_cases hroom : record.relayedBy.length < MAX_RELAYERS_TRACKED
      · have hfresh : relayNode ∉ record.relayedBy.toList := by simpa using hknown
        rw [Bounded.push_of_lt _ _ hroom]
        constructor
        · apply List.nodup_append_comm.mp
          exact List.nodup_cons.mpr ⟨hfresh, h.1⟩
        · intro hzero
          rcases List.mem_append.mp hzero with hzero | hzero
          · exact h.2 hzero
          · exact hnone (List.mem_singleton.mp hzero).symm
      · rw [Bounded.push_of_full _ _ hroom]
        exact h

end PacketRecord

/-! ## Calls -/

/-- A call on the duplicate detection, with its arguments. -/
inductive RouterCall
  | shouldFilterReceived (sender packetId : UInt32) (hopLimit relayNode : UInt8)
      (pendingHopLimit : Option UInt8) (role : DeviceRole)
  | shouldRelayOpaque (sender packetId : UInt32) (hopStart hopLimit : UInt8)
deriving DecidableEq

namespace RouterCall

def isAuthenticated : RouterCall → Bool
  | shouldFilterReceived .. => true
  | shouldRelayOpaque .. => false

end RouterCall

namespace MeshRouter

def called (router : MeshRouter) : RouterCall → MeshRouter
  | .shouldFilterReceived sender packetId hopLimit relayNode pendingHopLimit role =>
      (router.shouldFilterReceived sender packetId hopLimit relayNode pendingHopLimit role).2
  | .shouldRelayOpaque sender packetId hopStart hopLimit =>
      (router.shouldRelayOpaque sender packetId hopStart hopLimit).2

def newIn (router : MeshRouter) : RouterCall → List PacketKey
  | .shouldFilterReceived sender packetId hopLimit relayNode pendingHopLimit role =>
      if (router.shouldFilterReceived sender packetId hopLimit relayNode pendingHopLimit role).1 =
        .new then [(sender, packetId)] else []
  | .shouldRelayOpaque .. => []

def insertedIn (router : MeshRouter) : RouterCall → List PacketKey
  | .shouldFilterReceived .. => []
  | .shouldRelayOpaque sender packetId hopStart hopLimit =>
      if (router.shouldRelayOpaque sender packetId hopStart hopLimit).2.opaqueSeen =
        router.opaqueSeen then [] else [(sender, packetId)]

def after (ourNodeNum : UInt32) (calls : List RouterCall) : MeshRouter :=
  run called (new ourNodeNum) calls

def newOver (ourNodeNum : UInt32) (calls : List RouterCall) : List PacketKey :=
  observed called newIn (new ourNodeNum) calls

def insertedOver (ourNodeNum : UInt32) (calls : List RouterCall) : List PacketKey :=
  observed called insertedIn (new ourNodeNum) calls

/-! ## One call -/

/-- A call inserts its key exactly when the ring does not hold it. -/
theorem shouldRelayOpaque_cases (router : MeshRouter) (sender packetId : UInt32)
    (hopStart hopLimit : UInt8) :
    let asked := router.shouldRelayOpaque sender packetId hopStart hopLimit
    ((sender, packetId) ∈ router.opaqueSeen.live ∧ asked.2 = router ∧
      (asked.1 = true ↔ hopStart = hopLimit ∧ 0 < hopStart)) ∨
    ((sender, packetId) ∉ router.opaqueSeen.live ∧ asked.1 = true ∧
      asked.2 = { router with opaqueSeen := router.opaqueSeen.push (sender, packetId) }) := by
  intro asked
  unfold asked shouldRelayOpaque
  by_cases hseen : (sender, packetId) ∈ router.opaqueSeen.live
  · have hcontains : router.opaqueSeen.live.contains (sender, packetId) = true := by
      simpa using hseen
    refine Or.inl ⟨hseen, ?_⟩
    rw [hcontains]
    have hretransmit : (decide (0 < hopStart) && hopStart == hopLimit) =
        decide (hopStart = hopLimit ∧ 0 < hopStart) := by
      rw [Bool.eq_iff_iff, Bool.and_eq_true, decide_eq_true_eq, beq_iff_eq, decide_eq_true_eq]
      exact and_comm
    rw [hretransmit]
    by_cases hboth : hopStart = hopLimit ∧ 0 < hopStart
    · rw [decide_eq_true hboth]
      exact ⟨rfl, iff_of_true rfl hboth⟩
    · rw [decide_eq_false hboth]
      exact ⟨rfl, iff_of_false Bool.false_ne_true hboth⟩
  · have hcontains : router.opaqueSeen.live.contains (sender, packetId) = false := by
      simpa using hseen
    refine Or.inr ⟨hseen, ?_⟩
    rw [hcontains]
    simp

/-- A call writes the opaque ring exactly when it is counted as an insertion. -/
theorem opaqueSeen_called (router : MeshRouter) (call : RouterCall) :
    (router.insertedIn call = [] ∧ (router.called call).opaqueSeen = router.opaqueSeen) ∨
    (∃ key, router.insertedIn call = [key] ∧ key ∉ router.opaqueSeen.live ∧
      (router.called call).opaqueSeen = router.opaqueSeen.push key) := by
  cases call with
  | shouldFilterReceived sender packetId hopLimit relayNode pendingHopLimit role =>
      have hframe := router.shouldFilterReceived_opaqueSeen router.opaqueSeen sender packetId
        hopLimit relayNode pendingHopLimit role
      exact Or.inl ⟨rfl, congrArg (·.2.opaqueSeen) hframe⟩
  | shouldRelayOpaque sender packetId hopStart hopLimit =>
      unfold insertedIn called
      dsimp only
      rcases router.shouldRelayOpaque_cases sender packetId hopStart hopLimit with
        ⟨-, hsame, -⟩ | ⟨hfresh, -, hpushed⟩
      · rw [hsame]
        exact Or.inl ⟨if_pos rfl, rfl⟩
      · rw [hpushed]
        refine Or.inr ⟨(sender, packetId), if_neg ?_, hfresh, rfl⟩
        intro hsame
        exact RingBuffer.head_push_ne router.opaqueSeen (sender, packetId) (by decide)
          (congrArg RingBuffer.head hsame)

theorem knownKeys_called (router : MeshRouter) (call : RouterCall) :
    (router.newIn call = [] ∧ (router.called call).knownKeys = router.knownKeys) ∨
    (∃ key, router.newIn call = [key] ∧ some key ∉ router.knownKeys ∧
      (router.called call).knownKeys =
        (some key :: router.knownKeys).take DUPLICATE_RING_SIZE) := by
  cases call with
  | shouldFilterReceived sender packetId hopLimit relayNode pendingHopLimit role =>
      rcases router.shouldFilterReceived_cases sender packetId hopLimit relayNode
        pendingHopLimit role with ⟨hnew, hfresh, hknown⟩ | ⟨hduplicate, -, hknown⟩
      · exact Or.inr ⟨(sender, packetId), if_pos hnew, hfresh, hknown⟩
      · exact Or.inl ⟨if_neg hduplicate, hknown⟩
  | shouldRelayOpaque sender packetId hopStart hopLimit =>
      refine Or.inl ⟨rfl, ?_⟩
      unfold called
      dsimp only
      rcases router.shouldRelayOpaque_cases sender packetId hopStart hopLimit with
        ⟨-, hsame, -⟩ | ⟨-, -, hpushed⟩
      · rw [hsame]
      · rw [hpushed]
        rfl

def RelayersApart (router : MeshRouter) : Prop :=
  ∀ record ∈ router.history.live, record.RelayersApart

theorem relayersApart_called {router : MeshRouter} (h : router.RelayersApart)
    (call : RouterCall) : (router.called call).RelayersApart := by
  cases call with
  | shouldFilterReceived sender packetId hopLimit relayNode pendingHopLimit role =>
      have hadded : ∀ record : PacketRecord, record.RelayersApart →
          (record.addRelayer relayNode).RelayersApart :=
        fun _ hrecord => PacketRecord.relayersApart_addRelayer hrecord relayNode
      unfold called RelayersApart
      dsimp only
      cases hfind : router.findRecord sender packetId with
      | none =>
          unfold shouldFilterReceived
          rw [hfind]
          apply RingBuffer.forall_live_modify hadded
          apply RingBuffer.forall_live_push _ h
          exact ⟨List.nodup_nil, List.not_mem_nil⟩
      | some idx =>
          rw [shouldFilterReceived_of_find hfind]
          split
          · exact RingBuffer.forall_live_modify hadded h
          · split
            · exact RingBuffer.forall_live_modify hadded h
            · exact RingBuffer.forall_live_modify hadded h
  | shouldRelayOpaque sender packetId hopStart hopLimit =>
      unfold called
      dsimp only
      rcases router.shouldRelayOpaque_cases sender packetId hopStart hopLimit with
        ⟨-, hsame, -⟩ | ⟨-, -, hpushed⟩
      · rw [hsame]
        exact h
      · rw [hpushed]
        exact h

/-! ## Runs of calls -/

/-- The rings hold the newest keys of the calls that were new and of those inserted, both
given the newest first. -/
structure Holds (router : MeshRouter) (newKeys inserted : List PacketKey) : Prop where
  knownKeys_eq : router.knownKeys = (newKeys.take DUPLICATE_RING_SIZE).map some
  recent_eq : router.opaqueSeen.recent = inserted.take OPAQUE_SEEN_RING_SIZE
  fresh_new : FreshWithin DUPLICATE_RING_SIZE newKeys
  fresh_inserted : FreshWithin OPAQUE_SEEN_RING_SIZE inserted
  relayersApart : router.RelayersApart

theorem Holds.called {router : MeshRouter} {newKeys inserted : List PacketKey}
    (h : router.Holds newKeys inserted) (call : RouterCall) :
    (router.called call).Holds ((router.newIn call).reverse ++ newKeys)
      ((router.insertedIn call).reverse ++ inserted) where
  knownKeys_eq := by
    rcases router.knownKeys_called call with ⟨hnone, hsame⟩ | ⟨key, hkey, -, hknown⟩
    · rw [hnone, hsame]
      exact h.knownKeys_eq
    · rw [hkey, hknown, h.knownKeys_eq, ← List.map_cons, ← List.map_take, take_cons_take]
      rfl
  recent_eq := by
    rcases router.opaqueSeen_called call with ⟨hnone, hsame⟩ | ⟨key, hkey, -, hpushed⟩
    · rw [hnone, hsame]
      exact h.recent_eq
    · rw [hkey, hpushed, RingBuffer.recent_push, h.recent_eq, take_cons_take]
      rfl
  fresh_new := by
    rcases router.knownKeys_called call with ⟨hnone, -⟩ | ⟨key, hkey, hfresh, -⟩
    · rw [hnone]
      exact h.fresh_new
    · rw [hkey]
      refine ⟨?_, h.fresh_new⟩
      intro hrecent
      apply hfresh
      rw [h.knownKeys_eq]
      exact List.mem_map_of_mem hrecent
  fresh_inserted := by
    rcases router.opaqueSeen_called call with ⟨hnone, -⟩ | ⟨key, hkey, hfresh, -⟩
    · rw [hnone]
      exact h.fresh_inserted
    · rw [hkey]
      refine ⟨?_, h.fresh_inserted⟩
      intro hrecent
      apply hfresh
      rw [← RingBuffer.mem_recent_iff, h.recent_eq]
      exact hrecent
  relayersApart := relayersApart_called h.relayersApart call

theorem Holds.run {router : MeshRouter} {newKeys inserted : List PacketKey}
    (h : router.Holds newKeys inserted) (calls : List RouterCall) :
    (run MeshRouter.called router calls).Holds
      ((observed MeshRouter.called newIn router calls).reverse ++ newKeys)
      ((observed MeshRouter.called insertedIn router calls).reverse ++ inserted) := by
  induction calls generalizing router newKeys inserted with
  | nil => exact h
  | cons call calls ih =>
      rw [observed_cons, observed_cons, List.reverse_append, List.reverse_append,
        List.append_assoc, List.append_assoc]
      exact ih (h.called call)

theorem holds_new (ourNodeNum : UInt32) : (new ourNodeNum).Holds [] [] where
  knownKeys_eq := rfl
  recent_eq := rfl
  fresh_new := trivial
  fresh_inserted := trivial
  relayersApart := fun _ hrecord => absurd hrecord List.not_mem_nil

theorem holds_after (ourNodeNum : UInt32) (calls : List RouterCall) :
    (after ourNodeNum calls).Holds (newOver ourNodeNum calls).reverse
      (insertedOver ourNodeNum calls).reverse := by
  have hrun := (holds_new ourNodeNum).run calls
  rwa [List.append_nil, List.append_nil] at hrun

/-! ## The rings apart -/

theorem history_after (ourNodeNum : UInt32) (calls : List RouterCall) :
    (after ourNodeNum calls).history =
      (after ourNodeNum (calls.filter RouterCall.isAuthenticated)).history := by
  let part := fun router : MeshRouter => (router.history, router.ourNodeNum)
  have hmoves : ∀ router router' : MeshRouter, ∀ call, call.isAuthenticated = true →
      part router = part router' → part (router.called call) = part (router'.called call) := by
    intro router router' call hauth hsame
    cases call with
    | shouldFilterReceived sender packetId hopLimit relayNode pendingHopLimit role =>
        have hrouter : router' = { router with opaqueSeen := router'.opaqueSeen } := by
          obtain ⟨history, nodeNum, opaqueSeen⟩ := router'
          cases hsame
          rfl
        have hcalled := router.shouldFilterReceived_opaqueSeen router'.opaqueSeen sender packetId
          hopLimit relayNode pendingHopLimit role
        rw [← hrouter] at hcalled
        exact (congrArg (fun filtered => part filtered.2) hcalled).symm
    | shouldRelayOpaque => cases hauth
  have hkeeps : ∀ router : MeshRouter, ∀ call, call.isAuthenticated = false →
      part (router.called call) = part router := by
    intro router call hblind
    cases call with
    | shouldFilterReceived => cases hblind
    | shouldRelayOpaque sender packetId hopStart hopLimit =>
        rcases router.shouldRelayOpaque_cases sender packetId hopStart hopLimit with
          ⟨-, hsame, -⟩ | ⟨-, -, hpushed⟩
        · exact congrArg part hsame
        · exact (congrArg part hpushed).trans rfl
  exact congrArg Prod.fst (part_run hmoves hkeeps rfl calls)

theorem opaqueSeen_after (ourNodeNum : UInt32) (calls : List RouterCall) :
    (after ourNodeNum calls).opaqueSeen =
      (after ourNodeNum (calls.filter fun call => !call.isAuthenticated)).opaqueSeen := by
  have hmoves : ∀ router router' : MeshRouter, ∀ call, (!call.isAuthenticated) = true →
      router.opaqueSeen = router'.opaqueSeen →
      (router.called call).opaqueSeen = (router'.called call).opaqueSeen := by
    intro router router' call hblind hsame
    cases call with
    | shouldFilterReceived => cases hblind
    | shouldRelayOpaque sender packetId hopStart hopLimit =>
        unfold called shouldRelayOpaque
        dsimp only
        rw [hsame]
        split
        · exact hsame
        · split
          · exact hsame
          · rfl
  have hkeeps : ∀ router : MeshRouter, ∀ call, (!call.isAuthenticated) = false →
      (router.called call).opaqueSeen = router.opaqueSeen := by
    intro router call hauth
    cases call with
    | shouldFilterReceived sender packetId hopLimit relayNode pendingHopLimit role =>
        exact congrArg (·.2.opaqueSeen) (router.shouldFilterReceived_opaqueSeen
          router.opaqueSeen sender packetId hopLimit relayNode pendingHopLimit role)
    | shouldRelayOpaque => cases hauth
  exact part_run hmoves hkeeps rfl calls

/-! ## The newest keys -/

/-- What the router knows after some calls, whatever is asked next. -/
structure RecallsNewest (ourNodeNum : UInt32) (calls : List RouterCall) : Prop where
  new_iff : ∀ sender packetId hopLimit relayNode pendingHopLimit role,
    ((after ourNodeNum calls).shouldFilterReceived sender packetId hopLimit relayNode
        pendingHopLimit role).1 = .new ↔
      (sender, packetId) ∉ (newOver ourNodeNum calls).reverse.take 200
  records_valid : ∀ record ∈ (after ourNodeNum calls).history.live, record.valid = true
  records_distinct : ((after ourNodeNum calls).history.live.map fun record =>
    (record.sender, record.packetId)).Nodup
  relayers : ∀ record ∈ (after ourNodeNum calls).history.live,
    record.relayedBy.toList.length ≤ 6 ∧ record.relayedBy.toList.Nodup ∧
      0 ∉ record.relayedBy.toList
  relays_iff : ∀ sender packetId hopStart hopLimit,
    ((after ourNodeNum calls).shouldRelayOpaque sender packetId hopStart hopLimit).1 = true ↔
      (sender, packetId) ∉ (insertedOver ourNodeNum calls).reverse.take 32 ∨
        hopStart = hopLimit ∧ 0 < hopStart
  inserted_distinct : ((insertedOver ourNodeNum calls).reverse.take 32).Nodup
  history_alone : (after ourNodeNum calls).history =
    (after ourNodeNum (calls.filter RouterCall.isAuthenticated)).history
  opaque_alone : (after ourNodeNum calls).opaqueSeen =
    (after ourNodeNum (calls.filter fun call => !call.isAuthenticated)).opaqueSeen

theorem valid_of_holds {router : MeshRouter} {newKeys inserted : List PacketKey}
    (h : router.Holds newKeys inserted) {record : PacketRecord}
    (hrecord : record ∈ router.history.live) :
    record.valid = true ∧ record.key = some (record.sender, record.packetId) := by
  have hknown : record.key ∈ router.knownKeys :=
    List.mem_map_of_mem ((RingBuffer.mem_recent_iff _ _).mpr hrecord)
  rw [h.knownKeys_eq] at hknown
  obtain ⟨key, -, hkey⟩ := List.mem_map.mp hknown
  unfold PacketRecord.key at hkey ⊢
  split at hkey
  · rename_i hvalid
    exact ⟨hvalid, if_pos hvalid⟩
  · cases hkey

theorem nodup_records {router : MeshRouter} {newKeys inserted : List PacketKey}
    (h : router.Holds newKeys inserted) :
    (router.history.live.map fun record => (record.sender, record.packetId)).Nodup := by
  have hnewest : (newKeys.take DUPLICATE_RING_SIZE).Nodup :=
    h.fresh_new.nodup_take.sublist (List.take_sublist_take_left (Nat.le_succ _))
  have hknown : router.knownKeys.Nodup := by
    rw [h.knownKeys_eq]
    exact hnewest.map (Option.some_injective _)
  have hlive : (router.history.live.map PacketRecord.key).Nodup :=
    (router.history.perm_recent.map _).nodup_iff.mp hknown
  have hsome : router.history.live.map PacketRecord.key =
      (router.history.live.map fun record => (record.sender, record.packetId)).map some := by
    rw [List.map_map]
    exact List.map_congr_left fun record hrecord => (valid_of_holds h hrecord).2
  rw [hsome] at hlive
  exact hlive.of_map some

/-- Over any calls on a new router, the rings recall the newest keys and nothing else. -/
theorem recallsNewest (ourNodeNum : UInt32) (calls : List RouterCall) :
    RecallsNewest ourNodeNum calls where
  new_iff sender packetId hopLimit relayNode pendingHopLimit role := by
    have hknown := (holds_after ourNodeNum calls).knownKeys_eq
    have hmem : some (sender, packetId) ∈ (after ourNodeNum calls).knownKeys ↔
        (sender, packetId) ∈ (newOver ourNodeNum calls).reverse.take 200 := by
      rw [hknown]
      exact List.mem_map_of_injective (Option.some_injective _)
    rw [← hmem]
    rcases (after ourNodeNum calls).shouldFilterReceived_cases sender packetId hopLimit relayNode
      pendingHopLimit role with ⟨hnew, hfresh, -⟩ | ⟨hduplicate, hseen, -⟩
    · exact iff_of_true hnew hfresh
    · exact iff_of_false hduplicate (not_not_intro hseen)
  records_valid _ hrecord := (valid_of_holds (holds_after ourNodeNum calls) hrecord).1
  records_distinct := nodup_records (holds_after ourNodeNum calls)
  relayers record hrecord :=
    ⟨record.relayedBy.length_le, (holds_after ourNodeNum calls).relayersApart record hrecord⟩
  relays_iff sender packetId hopStart hopLimit := by
    have hrecent := (holds_after ourNodeNum calls).recent_eq
    have hmem : (sender, packetId) ∈ (after ourNodeNum calls).opaqueSeen.live ↔
        (sender, packetId) ∈ (insertedOver ourNodeNum calls).reverse.take 32 := by
      rw [← RingBuffer.mem_recent_iff, hrecent]
      rfl
    rw [← hmem]
    rcases (after ourNodeNum calls).shouldRelayOpaque_cases sender packetId hopStart hopLimit with
      ⟨hseen, -, hrelays⟩ | ⟨hfresh, hrelays, -⟩
    · rw [hrelays]
      exact (or_iff_right (not_not_intro hseen)).symm
    · exact iff_of_true hrelays (Or.inl hfresh)
  inserted_distinct := (holds_after ourNodeNum calls).fresh_inserted.nodup_take.sublist
    (List.take_sublist_take_left (Nat.le_succ _))
  history_alone := history_after ourNodeNum calls
  opaque_alone := opaqueSeen_after ourNodeNum calls

end MeshRouter

end Meshtastenstein
