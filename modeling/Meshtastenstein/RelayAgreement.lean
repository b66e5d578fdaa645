import Mathlib.Data.List.Find
import Meshtastenstein.Lib.Unwinding
import Meshtastenstein.RelayOnce
/-!
# Agreement on the relays of authenticated packets

Frames that fail authentication are relayed through the queue that holds the relays of
authenticated packets.  Two relaying parts agree when they hold the same relays of such
packets; this module says which inputs keep them in agreement.
-/

namespace Meshtastenstein

open Lib Proto Handlers

deriving instance DecidableEq for RelayInput

def RadioFrame.isVouched (vouched : PacketKey → Bool) (frame : RadioFrame) : Bool :=
  frame.key.any vouched

variable {vouched : PacketKey → Bool}

theorem RadioFrame.isVouched_of_key {frame : RadioFrame} {key : PacketKey}
    (h : frame.key = some key) : frame.isVouched vouched = vouched key := by
  unfold RadioFrame.isVouched
  rw [h]
  rfl

/-! ## The queue -/

def vouchedRelays (vouched : PacketKey → Bool) (queue : Bounded PendingRebroadcast 8) :
    List PendingRebroadcast :=
  queue.toList.filter fun p => p.frame.isVouched vouched

theorem filter_cons_vouched {p : PendingRebroadcast} (h : p.frame.isVouched vouched = true)
    (entries : List PendingRebroadcast) :
    (p :: entries).filter (fun p => p.frame.isVouched vouched) =
      p :: entries.filter fun p => p.frame.isVouched vouched :=
  List.filter_cons_of_pos h

theorem filter_cons_blind {p : PendingRebroadcast} (h : p.frame.isVouched vouched = false)
    (entries : List PendingRebroadcast) :
    (p :: entries).filter (fun p => p.frame.isVouched vouched) =
      entries.filter fun p => p.frame.isVouched vouched :=
  List.filter_cons_of_neg (by rw [h]; exact Bool.false_ne_true)

def firstDue (queue : Bounded PendingRebroadcast 8) : Option PendingRebroadcast :=
  (FromRadio.earliestDue queue.toList).bind fun i => queue.toList[i]?

/-- Scheduling costs no authenticated packet its relay. -/
def SparesVouched (vouched : PacketKey → Bool) (queue : Bounded PendingRebroadcast 8) : Prop :=
  queue.length < 8 ∨ ∀ p ∈ firstDue queue, p.frame.isVouched vouched = false

instance (queue : Bounded PendingRebroadcast 8) : Decidable (SparesVouched vouched queue) :=
  inferInstanceAs (Decidable (_ ∨ _))

variable (vouched) in
theorem vouchedRelays_swapRemove {queue : Bounded PendingRebroadcast 8} {i : Nat}
    {p : PendingRebroadcast} (h : queue.toList[i]? = some p) :
    (vouchedRelays vouched queue).Perm
      ([p].filter (fun p => p.frame.isVouched vouched) ++
        vouchedRelays vouched (queue.swapRemove i)) := by
  obtain ⟨hi, rfl⟩ := List.getElem?_eq_some_iff.mp h
  have hperm := (queue.perm_swapRemove i hi).filter fun p => p.frame.isVouched vouched
  rw [← List.singleton_append, List.filter_append] at hperm
  exact hperm

theorem vouchedRelays_append {queue queue' : Bounded PendingRebroadcast 8}
    {entry : PendingRebroadcast} (h : queue'.toList = queue.toList ++ [entry]) :
    vouchedRelays vouched queue' =
      vouchedRelays vouched queue ++ [entry].filter fun p => p.frame.isVouched vouched := by
  unfold vouchedRelays
  rw [h, List.filter_append]

variable (vouched) in
theorem vouchedRelays_queueRebroadcast_of_full {queue : Bounded PendingRebroadcast 8}
    (h : ¬ queue.length < 8) (entry : PendingRebroadcast) :
    ∃ evicted kept, firstDue queue = some evicted ∧
      (vouchedRelays vouched queue).Perm
        ([evicted].filter (fun p => p.frame.isVouched vouched) ++ kept) ∧
      vouchedRelays vouched (FromRadio.queueRebroadcast queue entry) =
        kept ++ [entry].filter fun p => p.frame.isVouched vouched := by
  obtain ⟨i, evicted, hearliest, hevicted, hqueue⟩ :=
    FromRadio.toList_queueRebroadcast_of_full h entry
  refine ⟨evicted, vouchedRelays vouched (queue.swapRemove i), ?_,
    vouchedRelays_swapRemove vouched hevicted, vouchedRelays_append hqueue⟩
  unfold firstDue
  rw [hearliest, Option.bind_some, hevicted]

theorem vouchedRelays_queueRebroadcast {queue : Bounded PendingRebroadcast 8}
    (h : SparesVouched vouched queue) (entry : PendingRebroadcast) :
    (vouchedRelays vouched (FromRadio.queueRebroadcast queue entry)).Perm
      (vouchedRelays vouched queue ++ [entry].filter fun p => p.frame.isVouched vouched) := by
  by_cases hroom : queue.length < 8
  · rw [vouchedRelays_append (FromRadio.toList_queueRebroadcast_of_lt hroom entry)]
  · obtain ⟨evicted, kept, hfirst, hperm, hqueue⟩ :=
      vouchedRelays_queueRebroadcast_of_full vouched hroom entry
    have hblind : evicted.frame.isVouched vouched = false :=
      (h.resolve_left hroom) evicted hfirst
    rw [filter_cons_blind hblind, List.filter_nil, List.nil_append] at hperm
    rw [hqueue]
    exact (hperm.symm).append_right _

/-! ### Two queues -/

/-- The relays of authenticated packets are in the same order in both queues, or no two of
them share a packet or a deadline. -/
def Alike (vouched : PacketKey → Bool) (left right : Bounded PendingRebroadcast 8) : Prop :=
  vouchedRelays vouched left = vouchedRelays vouched right ∨
    ∀ p ∈ vouchedRelays vouched left, ∀ q ∈ vouchedRelays vouched left,
      p.frame.key = q.frame.key ∨ p.deadline = q.deadline → p = q

instance (left right : Bounded PendingRebroadcast 8) : Decidable (Alike vouched left right) :=
  inferInstanceAs (Decidable (_ ∨ _))

theorem find?_vouchedRelays {queue : Bounded PendingRebroadcast 8}
    {P : PendingRebroadcast → Bool}
    (h : ∀ p, P p = true → p.frame.isVouched vouched = true) :
    (vouchedRelays vouched queue).find? P = queue.toList.find? P := by
  unfold vouchedRelays
  rw [List.find?_filter]
  apply List.find?_congr
  intro p _
  by_cases hp : P p = true
  · simp [hp, h p hp]
  · simp [hp]

variable {left right : Bounded PendingRebroadcast 8}

theorem find?_isRebroadcastOf_eq (halike : Alike vouched left right)
    (hperm : (vouchedRelays vouched left).Perm (vouchedRelays vouched right))
    {header : PacketHeader} (hheader : vouched header.key = true) :
    left.toList.find? (FromRadio.isRebroadcastOf header) =
      right.toList.find? (FromRadio.isRebroadcastOf header) := by
  have hvouched : ∀ p, FromRadio.isRebroadcastOf header p = true →
      p.frame.isVouched vouched = true := by
    intro p hp
    rw [RadioFrame.isVouched_of_key (FromRadio.isRebroadcastOf_iff.mp hp), hheader]
  rw [← find?_vouchedRelays hvouched, ← find?_vouchedRelays hvouched]
  rcases halike with hsame | hdistinct
  · rw [hsame]
  · apply List.find?_eq_find?_of_perm hperm
    rintro p ⟨hp, hpkey⟩ q ⟨hq, hqkey⟩
    apply hdistinct p hp q hq
    left
    rw [FromRadio.isRebroadcastOf_iff.mp hpkey, FromRadio.isRebroadcastOf_iff.mp hqkey]

theorem firstDue_eq_some {queue : Bounded PendingRebroadcast 8} {p : PendingRebroadcast}
    (h : firstDue queue = some p) :
    (∀ q ∈ queue.toList, p.deadline ≤ q.deadline) ∧
      queue.toList.find? (fun q => decide (q.deadline ≤ p.deadline)) = some p := by
  have hfind : queue.toList.find?
      (fun q => queue.toList.all fun other => decide (q.deadline ≤ other.deadline)) = some p := by
    rw [List.find?_eq_bind_findIdx?_getElem?]
    exact h
  have hmem : p ∈ queue.toList := List.mem_of_find?_eq_some hfind
  have hmin : ∀ q ∈ queue.toList, p.deadline ≤ q.deadline := by
    have hall := List.find?_some hfind
    simpa using hall
  refine ⟨hmin, ?_⟩
  rw [← hfind]
  apply List.find?_congr
  intro q hq
  apply Bool.eq_iff_iff.mpr
  rw [decide_eq_true_iff, List.all_eq_true]
  constructor
  · intro hle other hother
    exact decide_eq_true (Nat.le_trans hle (hmin other hother))
  · intro hall
    exact of_decide_eq_true (hall p hmem)

/-- Where the first due relay is of an authenticated packet, the other relays do not
matter. -/
theorem find?_vouchedRelays_of_firstDue {queue : Bounded PendingRebroadcast 8}
    {p : PendingRebroadcast} (h : firstDue queue = some p)
    (hvouched : p.frame.isVouched vouched = true) :
    (vouchedRelays vouched queue).find? (fun q => decide (q.deadline ≤ p.deadline)) =
      some p := by
  obtain ⟨-, hfind⟩ := firstDue_eq_some h
  obtain ⟨hdue, before, after, hqueue, hbefore⟩ := List.find?_eq_some_iff_append.mp hfind
  unfold vouchedRelays
  rw [List.find?_filter]
  refine List.find?_eq_some_iff_append.mpr ⟨?_, before, after, hqueue, ?_⟩
  · simpa using hvouched
  · intro q hq
    have hlater := hbefore q hq
    simp only [Bool.not_eq_true', decide_eq_false_iff_not] at hlater ⊢
    rintro ⟨-, hearlier⟩
    exact hlater (of_decide_eq_true hearlier)

theorem firstDue_mem {queue : Bounded PendingRebroadcast 8} {p : PendingRebroadcast}
    (h : firstDue queue = some p) (hvouched : p.frame.isVouched vouched = true) :
    p ∈ vouchedRelays vouched queue :=
  List.mem_of_find?_eq_some (find?_vouchedRelays_of_firstDue h hvouched)

theorem firstDue_eq (halike : Alike vouched left right)
    (hperm : (vouchedRelays vouched left).Perm (vouchedRelays vouched right))
    {p q : PendingRebroadcast} (hp : firstDue left = some p) (hq : firstDue right = some q)
    (hpv : p.frame.isVouched vouched = true) (hqv : q.frame.isVouched vouched = true) :
    p = q := by
  have hpmem := firstDue_mem hp hpv
  have hqmem := firstDue_mem hq hqv
  have hdeadline : p.deadline = q.deadline := by
    apply Nat.le_antisymm
    · exact (firstDue_eq_some hp).1 q (List.mem_of_mem_filter (hperm.mem_iff.mpr hqmem))
    · exact (firstDue_eq_some hq).1 p (List.mem_of_mem_filter (hperm.mem_iff.mp hpmem))
  rcases halike with hsame | hdistinct
  · have hfind := find?_vouchedRelays_of_firstDue hp hpv
    rw [hsame, hdeadline, find?_vouchedRelays_of_firstDue hq hqv] at hfind
    exact (Option.some.inj hfind).symm
  · exact hdistinct p hpmem q (hperm.mem_iff.mpr hqmem) (Or.inr hdeadline)

/-- Scheduling costs an authenticated packet its relay only for lack of room among such
packets. -/
def MakesRoom (vouched : PacketKey → Bool) (queue : Bounded PendingRebroadcast 8) : Prop :=
  SparesVouched vouched queue ∨ ∀ p ∈ queue.toList, p.frame.isVouched vouched = true

instance (queue : Bounded PendingRebroadcast 8) : Decidable (MakesRoom vouched queue) :=
  inferInstanceAs (Decidable (_ ∨ _))

theorem length_vouchedRelays_eq_iff {queue : Bounded PendingRebroadcast 8} :
    (vouchedRelays vouched queue).length = 8 ↔
      ¬ queue.length < 8 ∧ ∀ p ∈ queue.toList, p.frame.isVouched vouched = true := by
  have hfilter : (vouchedRelays vouched queue).length ≤ queue.length :=
    List.length_filter_le _ _
  have hcap : queue.length ≤ 8 := queue.length_le
  rw [← List.length_filter_eq_length_iff]
  constructor
  · intro hcrowded
    refine ⟨by omega, ?_⟩
    change (vouchedRelays vouched queue).length = queue.length
    omega
  · rintro ⟨hfull, hall⟩
    change (vouchedRelays vouched queue).length = queue.length at hall
    omega

theorem MakesRoom.sparesVouched {queue : Bounded PendingRebroadcast 8}
    (h : MakesRoom vouched queue) (hroom : (vouchedRelays vouched queue).length ≠ 8) :
    SparesVouched vouched queue := by
  rcases h with hspares | hall
  · exact hspares
  · left
    by_contra hfull
    exact hroom (length_vouchedRelays_eq_iff.mpr ⟨hfull, hall⟩)

/-- Among authenticated packets, both queues lose the same relay. -/
theorem perm_queueRebroadcast (halike : Alike vouched left right)
    (hperm : (vouchedRelays vouched left).Perm (vouchedRelays vouched right))
    (hleft : MakesRoom vouched left) (hright : MakesRoom vouched right)
    (entry : PendingRebroadcast) :
    (vouchedRelays vouched (FromRadio.queueRebroadcast left entry)).Perm
      (vouchedRelays vouched (FromRadio.queueRebroadcast right entry)) := by
  by_cases hcrowded : (vouchedRelays vouched left).length = 8
  · have hcrowded' : (vouchedRelays vouched right).length = 8 := by
      rw [← hperm.length_eq, hcrowded]
    obtain ⟨hfull, hall⟩ := length_vouchedRelays_eq_iff.mp hcrowded
    obtain ⟨hfull', hall'⟩ := length_vouchedRelays_eq_iff.mp hcrowded'
    obtain ⟨p, kept, hp, hkept, hafter⟩ :=
      vouchedRelays_queueRebroadcast_of_full vouched hfull entry
    obtain ⟨q, kept', hq, hkept', hafter'⟩ :=
      vouchedRelays_queueRebroadcast_of_full vouched hfull' entry
    have hpv := hall p (List.mem_of_find?_eq_some (firstDue_eq_some hp).2)
    have hqv := hall' q (List.mem_of_find?_eq_some (firstDue_eq_some hq).2)
    have hsame : p = q := firstDue_eq halike hperm hp hq hpv hqv
    have hrest : kept.Perm kept' := by
      have hboth := calc
        ([p].filter (fun p => p.frame.isVouched vouched) ++ kept).Perm
            (vouchedRelays vouched left) := hkept.symm
        List.Perm _ (vouchedRelays vouched right) := hperm
        List.Perm _ ([q].filter (fun p => p.frame.isVouched vouched) ++ kept') := hkept'
      rw [hsame] at hboth
      exact (List.perm_append_left_iff _).mp hboth
    rw [hafter, hafter']
    exact hrest.append_right _
  · have hcrowded' : (vouchedRelays vouched right).length ≠ 8 := by
      rw [← hperm.length_eq]
      exact hcrowded
    have hafter := vouchedRelays_queueRebroadcast (hleft.sparesVouched hcrowded) entry
    have hafter' := vouchedRelays_queueRebroadcast (hright.sparesVouched hcrowded') entry
    calc
      (vouchedRelays vouched (FromRadio.queueRebroadcast left entry)).Perm
          (vouchedRelays vouched left ++
            [entry].filter fun p => p.frame.isVouched vouched) := hafter
      List.Perm _ (vouchedRelays vouched right ++
          [entry].filter fun p => p.frame.isVouched vouched) := hperm.append_right _
      List.Perm _ (vouchedRelays vouched (FromRadio.queueRebroadcast right entry)) :=
        hafter'.symm

/-! ## The relaying part -/

/-- The verdict on a packet does not depend on what was relayed without authentication. -/
theorem MeshRouter.shouldFilterReceived_opaqueSeen (router : MeshRouter)
    (seen : RingBuffer (UInt32 × UInt32) OPAQUE_SEEN_RING_SIZE) (sender packetId : UInt32)
    (hopLimit relayNode : UInt8) (pendingHopLimit : Option UInt8) (role : DeviceRole) :
    { router with opaqueSeen := seen }.shouldFilterReceived sender packetId hopLimit relayNode
        pendingHopLimit role =
      ((router.shouldFilterReceived sender packetId hopLimit relayNode pendingHopLimit role).1,
        { (router.shouldFilterReceived sender packetId hopLimit relayNode pendingHopLimit
          role).2 with opaqueSeen := seen }) := by
  have hsame : { router with opaqueSeen := seen }.findRecord sender packetId =
      router.findRecord sender packetId := rfl
  cases hfind : router.findRecord sender packetId with
  | none =>
      unfold shouldFilterReceived
      rw [hsame, hfind]
      rfl
  | some idx =>
      rw [shouldFilterReceived_of_find hfind, shouldFilterReceived_of_find (hsame.trans hfind)]
      split
      · rfl
      · split <;> rfl

namespace RelayState

structure Agree (vouched : PacketKey → Bool) (left right : RelayState) : Prop where
  nodeNum_eq : right.nodeNum = left.nodeNum
  router_eq : right.router = { left.router with opaqueSeen := right.router.opaqueSeen }
  relays : (vouchedRelays vouched left.queue).Perm (vouchedRelays vouched right.queue)

namespace Agree

variable {left right other : RelayState}

theorem refl (st : RelayState) : Agree vouched st st := ⟨rfl, rfl, List.Perm.refl _⟩

theorem symm (h : Agree vouched left right) : Agree vouched right left := by
  refine ⟨h.nodeNum_eq.symm, ?_, h.relays.symm⟩
  rw [h.router_eq]

theorem trans (h : Agree vouched left right) (h' : Agree vouched right other) :
    Agree vouched left other := by
  refine ⟨h'.nodeNum_eq.trans h.nodeNum_eq, ?_, h.relays.trans h'.relays⟩
  rw [h'.router_eq, h.router_eq]

instance : Trans (Agree vouched) (Agree vouched) (Agree vouched) := ⟨trans⟩

end Agree

def sendsVouched (vouched : PacketKey → Bool) (st : RelayState) (input : RelayInput) :
    List RadioFrame :=
  (st.sends input).toList.filter (RadioFrame.isVouched vouched)

/-- The frame has a key of its own, and is not relayed at the expense of an authenticated
packet. -/
def Harmless (vouched : PacketKey → Bool) (st : RelayState) (header : PacketHeader) : Prop :=
  vouched header.key = false ∧
    ((st.router.shouldRelayOpaque header.sender header.packetId header.hopStart
      header.hopLimit).1 = true → SparesVouched vouched st.queue)

instance (st : RelayState) (header : PacketHeader) : Decidable (Harmless vouched st header) :=
  inferInstanceAs (Decidable (_ ∧ _))

def FiresVouched (vouched : PacketKey → Bool) (st : RelayState) (now : Nat) (is : Bool) : Prop :=
  ∀ due ∈ st.nextDue now, due.2.frame.isVouched vouched = is

instance (st : RelayState) (now : Nat) (is : Bool) : Decidable (FiresVouched vouched st now is) :=
  inferInstanceAs (Decidable (∀ due ∈ st.nextDue now, _))

theorem firstDue_of_nextDue {st : RelayState} {now i : Nat} {p : PendingRebroadcast}
    (h : st.nextDue now = some (i, p)) :
    firstDue st.queue = some p ∧ st.queue.toList[i]? = some p ∧ p.deadline ≤ now := by
  obtain ⟨j, hj, hnext⟩ := Option.bind_eq_some_iff.mp h
  obtain ⟨q, hq, hpair⟩ := Option.map_eq_some_iff.mp hnext
  obtain ⟨rfl, rfl⟩ := Prod.mk.inj hpair
  obtain ⟨hentry, hdue⟩ := Option.filter_eq_some_iff.mp hq
  refine ⟨?_, hentry, of_decide_eq_true hdue⟩
  unfold firstDue
  rw [hj, Option.bind_some, hentry]

theorem lt_of_nextDue_eq_none {st : RelayState} {now : Nat} (h : st.nextDue now = none)
    {p : PendingRebroadcast} (hp : p ∈ st.queue.toList) : now < p.deadline := by
  obtain ⟨i, first, hearliest, hentry, hmin⟩ :=
    FromRadio.exists_earliestDue (List.ne_nil_of_mem hp)
  rw [st.nextDue_of_getElem? hearliest hentry] at h
  by_contra hdue
  have hle := hmin p hp
  rw [if_pos (by omega)] at h
  cases h

/-! ### Frames that fail authentication -/

theorem agree_hearBlind {st : RelayState} {frame : RadioFrame} {header : PacketHeader}
    (hheader : frame.header = some header) (h : Harmless vouched st header) (deadline : Nat) :
    Agree vouched st (st.hearBlind frame header deadline) := by
  have hrouter : (st.router.shouldRelayOpaque header.sender header.packetId header.hopStart
        header.hopLimit).2 =
      { st.router with
        opaqueSeen := (st.router.shouldRelayOpaque header.sender header.packetId
          header.hopStart header.hopLimit).2.opaqueSeen } := by
    unfold MeshRouter.shouldRelayOpaque
    dsimp only
    split
    · rfl
    · split <;> rfl
  obtain ⟨hkey, hspares⟩ := h
  unfold hearBlind
  dsimp only
  split
  · rename_i hrelay
    refine ⟨rfl, hrouter, ?_⟩
    have hblind : (st.relayed frame header).isVouched vouched = false := by
      rw [RadioFrame.isVouched_of_key (st.key_relayed hheader), hkey]
    have hafter := vouchedRelays_queueRebroadcast (hspares hrelay)
      { frame := st.relayed frame header, deadline := deadline }
    rw [filter_cons_blind hblind, List.filter_nil, List.append_nil] at hafter
    exact hafter.symm
  · exact ⟨rfl, hrouter, List.Perm.refl _⟩

theorem agree_fire_blind {st : RelayState} {now : Nat} (h : FiresVouched vouched st now false) :
    sendsVouched vouched st (.due now) = [] ∧ Agree vouched st (st.fire now) := by
  have hsends : st.sends (.due now) = (st.nextDue now).map fun due => due.2.frame := rfl
  unfold sendsVouched fire
  rw [hsends]
  cases hnext : st.nextDue now with
  | none => exact ⟨rfl, Agree.refl st⟩
  | some due =>
      obtain ⟨i, p⟩ := due
      have hblind := h (i, p) hnext
      obtain ⟨-, hentry, -⟩ := firstDue_of_nextDue hnext
      have hperm := vouchedRelays_swapRemove vouched hentry
      rw [filter_cons_blind hblind, List.filter_nil, List.nil_append] at hperm
      refine ⟨?_, rfl, rfl, hperm⟩
      exact List.filter_cons_of_neg (by rw [hblind]; exact Bool.false_ne_true)

/-! ### What both runs hear -/

variable {left right : RelayState}

theorem agree_fire (h : Agree vouched left right)
    (halike : Alike vouched left.queue right.queue) {now : Nat}
    (hleft : FiresVouched vouched left now true) (hright : FiresVouched vouched right now true) :
    sendsVouched vouched left (.due now) = sendsVouched vouched right (.due now) ∧
      Agree vouched (left.fire now) (right.fire now) := by
  have hsends : ∀ st : RelayState,
      st.sends (.due now) = (st.nextDue now).map fun due => due.2.frame := fun _ => rfl
  -- an authenticated packet that is due in one run is due in the other
  have hdue : ∀ {st st' : RelayState}, Agree vouched st st' →
      FiresVouched vouched st now true → ∀ {i p}, st.nextDue now = some (i, p) →
      st'.nextDue now ≠ none := by
    intro st st' hagree hvouched i p hnext hnone
    obtain ⟨hfirst, -, hle⟩ := firstDue_of_nextDue hnext
    have hmem := hagree.relays.mem_iff.mp (firstDue_mem hfirst (hvouched (i, p) hnext))
    have hlt := lt_of_nextDue_eq_none hnone (List.mem_of_mem_filter hmem)
    omega
  unfold sendsVouched fire
  rw [hsends, hsends]
  cases hnext : left.nextDue now with
  | none =>
      cases hnext' : right.nextDue now with
      | none => exact ⟨rfl, h⟩
      | some due => exact absurd hnext (hdue h.symm hright hnext')
  | some due =>
      cases hnext' : right.nextDue now with
      | none => exact absurd hnext' (hdue h hleft hnext)
      | some due' =>
          obtain ⟨i, p⟩ := due
          obtain ⟨j, q⟩ := due'
          obtain ⟨hfirst, hentry, -⟩ := firstDue_of_nextDue hnext
          obtain ⟨hfirst', hentry', -⟩ := firstDue_of_nextDue hnext'
          have hsame : p = q := firstDue_eq halike h.relays hfirst hfirst' (hleft (i, p) hnext)
            (hright (j, q) hnext')
          subst hsame
          refine ⟨rfl, h.nodeNum_eq, h.router_eq, ?_⟩
          refine (List.perm_append_left_iff ([p].filter fun p => p.frame.isVouched vouched)).mp ?_
          calc
            List.Perm _ (vouchedRelays vouched left.queue) :=
              (vouchedRelays_swapRemove vouched hentry).symm
            List.Perm _ (vouchedRelays vouched right.queue) := h.relays
            List.Perm _ _ := vouchedRelays_swapRemove vouched hentry'

theorem vouchedRelays_upgrade (st : RelayState) {frame : RadioFrame} {header : PacketHeader}
    (hheader : frame.header = some header) (hkey : vouched header.key = true) :
    match st.queue.toList.find? (FromRadio.isRebroadcastOf header) with
    | none => st.upgrade frame header = st
    | some old => ∃ kept, (vouchedRelays vouched st.queue).Perm (old :: kept) ∧
        (vouchedRelays vouched (st.upgrade frame header).queue).Perm
          ({ old with frame := st.relayed frame header } :: kept) := by
  have hnew : (st.relayed frame header).isVouched vouched = true := by
    rw [RadioFrame.isVouched_of_key (st.key_relayed hheader), hkey]
  rw [List.find?_eq_bind_findIdx?_getElem?]
  unfold upgrade
  cases hfind : st.queue.toList.findIdx? (FromRadio.isRebroadcastOf header) with
  | none => rfl
  | some i =>
      obtain ⟨hi, hentry, -⟩ := List.findIdx?_eq_some_iff_getElem.mp hfind
      have hold : st.queue.toList[i].frame.isVouched vouched = true := by
        rw [RadioFrame.isVouched_of_key (FromRadio.isRebroadcastOf_iff.mp hentry), hkey]
      rw [Option.bind_some, List.getElem?_eq_getElem hi]
      dsimp only
      refine ⟨(st.queue.toList.eraseIdx i).filter fun p => p.frame.isVouched vouched, ?_, ?_⟩
      · have hperm := ((List.getElem_cons_eraseIdx_perm hi).symm).filter
          fun p => p.frame.isVouched vouched
        rw [filter_cons_vouched hold] at hperm
        exact hperm
      · have hset := List.set_perm_cons_eraseIdx hi
          ({ st.queue.toList[i] with frame := st.relayed frame header } : PendingRebroadcast)
        have hperm := hset.filter fun p => p.frame.isVouched vouched
        rw [filter_cons_vouched hnew] at hperm
        unfold vouchedRelays
        dsimp only
        rw [List.modify_eq_set_get _ hi]
        exact hperm

theorem agree_upgrade (h : Agree vouched left right)
    (halike : Alike vouched left.queue right.queue) {frame : RadioFrame}
    {header : PacketHeader} (hheader : frame.header = some header)
    (hkey : vouched header.key = true) :
    Agree vouched (left.upgrade frame header) (right.upgrade frame header) := by
  have hafter := left.vouchedRelays_upgrade hheader hkey
  have hafter' := right.vouchedRelays_upgrade hheader hkey
  have hkeeps : ∀ st : RelayState, (st.upgrade frame header).nodeNum = st.nodeNum ∧
      (st.upgrade frame header).router = st.router := by
    intro st
    unfold upgrade
    split <;> exact ⟨rfl, rfl⟩
  have hnum : (right.upgrade frame header).nodeNum = (left.upgrade frame header).nodeNum := by
    rw [(hkeeps right).1, (hkeeps left).1, h.nodeNum_eq]
  have hrouter : (right.upgrade frame header).router =
      { (left.upgrade frame header).router with
        opaqueSeen := (right.upgrade frame header).router.opaqueSeen } := by
    rw [(hkeeps right).2, (hkeeps left).2]
    exact h.router_eq
  refine ⟨hnum, hrouter, ?_⟩
  rw [← find?_isRebroadcastOf_eq halike h.relays hkey] at hafter'
  cases hfind : left.queue.toList.find? (FromRadio.isRebroadcastOf header) with
  | none =>
      rw [hfind] at hafter hafter'
      dsimp only at hafter hafter'
      rw [hafter, hafter']
      exact h.relays
  | some old =>
      rw [hfind] at hafter hafter'
      obtain ⟨kept, hbefore, hafter⟩ := hafter
      obtain ⟨kept', hbefore', hafter'⟩ := hafter'
      have hrest : kept.Perm kept' :=
        List.Perm.cons_inv <| calc
          (old :: kept).Perm (vouchedRelays vouched left.queue) := hbefore.symm
          List.Perm _ (vouchedRelays vouched right.queue) := h.relays
          List.Perm _ (old :: kept') := hbefore'
      have hframe : right.relayed frame header = left.relayed frame header := by
        unfold relayed
        rw [h.nodeNum_eq]
      rw [hframe] at hafter'
      calc
        (vouchedRelays vouched (left.upgrade frame header).queue).Perm
            ({ old with frame := left.relayed frame header } :: kept) := hafter
        List.Perm _ ({ old with frame := left.relayed frame header } :: kept') := hrest.cons _
        List.Perm _ (vouchedRelays vouched (right.upgrade frame header).queue) := hafter'.symm

theorem agree_cancel (h : Agree vouched left right) (header : PacketHeader) :
    Agree vouched (left.cancel header) (right.cancel header) := by
  have hcancel : ∀ st : RelayState, vouchedRelays vouched (st.cancel header).queue =
      (vouchedRelays vouched st.queue).filter fun p => !FromRadio.isRebroadcastOf header p := by
    intro st
    unfold vouchedRelays cancel
    rw [Bounded.toList_retain, List.filter_filter, List.filter_filter]
    apply List.filter_congr
    intro p _
    exact Bool.and_comm _ _
  refine ⟨h.nodeNum_eq, h.router_eq, ?_⟩
  rw [hcancel, hcancel]
  exact h.relays.filter _

theorem agree_schedule (h : Agree vouched left right)
    (halike : Alike vouched left.queue right.queue) (hleft : MakesRoom vouched left.queue)
    (hright : MakesRoom vouched right.queue) (frame : RadioFrame) (header : PacketHeader)
    (deadline : Nat) :
    Agree vouched (left.schedule frame header deadline) (right.schedule frame header deadline) := by
  refine ⟨h.nodeNum_eq, h.router_eq, ?_⟩
  have hframe : right.relayed frame header = left.relayed frame header := by
    unfold relayed
    rw [h.nodeNum_eq]
  unfold schedule
  rw [hframe]
  exact perm_queueRebroadcast halike h.relays hleft hright _

theorem filter_eq_of_agree (h : Agree vouched left right)
    (halike : Alike vouched left.queue right.queue) {header : PacketHeader}
    (hkey : vouched header.key = true) (role : DeviceRole) :
    right.filter header role =
      ((left.filter header role).1,
        { (left.filter header role).2 with opaqueSeen := right.router.opaqueSeen }) := by
  unfold filter
  rw [← find?_isRebroadcastOf_eq halike h.relays hkey, h.router_eq]
  exact MeshRouter.shouldFilterReceived_opaqueSeen _ _ _ _ _ _ _ _

def HasPlace (vouched : PacketKey → Bool) (st : RelayState) (header : PacketHeader)
    (role : DeviceRole) (deadline : Option Nat) : Prop :=
  (st.filter header role).1 = .new → deadline.isSome → MakesRoom vouched st.queue

instance (st : RelayState) (header : PacketHeader) (role : DeviceRole)
    (deadline : Option Nat) : Decidable (HasPlace vouched st header role deadline) :=
  inferInstanceAs (Decidable (_ → _ → _))

theorem agree_hear (h : Agree vouched left right)
    (halike : Alike vouched left.queue right.queue) {frame : RadioFrame}
    {header : PacketHeader} (hheader : frame.header = some header)
    (hkey : vouched header.key = true) {role : DeviceRole} {deadline : Option Nat}
    (hleft : HasPlace vouched left header role deadline)
    (hright : HasPlace vouched right header role deadline) :
    Agree vouched (left.hear frame header role deadline)
      (right.hear frame header role deadline) := by
  have hfilter' := filter_eq_of_agree h halike hkey role
  cases hfilter : left.filter header role with
  | mk verdict router =>
      rw [hfilter] at hfilter'
      dsimp only at hfilter'
      generalize hrouter : { router with opaqueSeen := right.router.opaqueSeen } = router'
        at hfilter'
      have hagree : Agree vouched { left with router := router }
          { right with router := router' } := by
        refine ⟨h.nodeNum_eq, ?_, h.relays⟩
        rw [← hrouter]
      cases verdict with
      | new =>
          rw [hear_of_new hfilter, hear_of_new hfilter']
          cases deadline with
          | none => exact hagree
          | some deadline =>
              exact agree_schedule hagree halike (hleft (by rw [hfilter]) rfl)
                (hright (by rw [hfilter']) rfl) frame header deadline
      | duplicateUpgrade hopLimit =>
          rw [hear_of_upgrade hfilter, hear_of_upgrade hfilter']
          exact agree_upgrade hagree halike hheader hkey
      | duplicateCancelRelay =>
          rw [hear_of_cancel hfilter, hear_of_cancel hfilter']
          exact agree_cancel hagree header
      | duplicateDrop =>
          rw [hear_of_drop hfilter, hear_of_drop hfilter']
          exact hagree

/-! ### Two runs -/

/-- What happens in one run leaves the relays of authenticated packets alone. -/
def Spares (vouched : PacketKey → Bool) (st : RelayState) : RelayInput → Prop
  | .blind _ header _ => Harmless vouched st header
  | .due now => FiresVouched vouched st now false
  | _ => True

instance (st : RelayState) : DecidablePred (Spares vouched st)
  | .heard _ _ _ _ => inferInstanceAs (Decidable True)
  | .blind _ header _ => inferInstanceAs (Decidable (Harmless vouched st header))
  | .due now => inferInstanceAs (Decidable (FiresVouched vouched st now false))
  | .reset _ => inferInstanceAs (Decidable True)

/-- What happens in both runs does to the relays of authenticated packets the same in both,
and what happens in one of them nothing. -/
def Undisturbed (vouched : PacketKey → Bool) (states : RelayState × RelayState) :
    Paired RelayInput → Prop
  | .both (.heard _ header role deadline) =>
      Alike vouched states.1.queue states.2.queue ∧
        HasPlace vouched states.1 header role deadline ∧
        HasPlace vouched states.2 header role deadline
  | .both (.blind _ header _) => Harmless vouched states.1 header ∧ Harmless vouched states.2 header
  | .both (.due now) =>
      Alike vouched states.1.queue states.2.queue ∧ FiresVouched vouched states.1 now true ∧
        FiresVouched vouched states.2 now true
  | .both (.reset _) => True
  | .left input => Spares vouched states.1 input
  | .right input => Spares vouched states.2 input

instance (states : RelayState × RelayState) : DecidablePred (Undisturbed vouched states)
  | .both (.heard _ _ _ _) => inferInstanceAs (Decidable (_ ∧ _ ∧ _))
  | .both (.blind _ _ _) => inferInstanceAs (Decidable (_ ∧ _))
  | .both (.due _) => inferInstanceAs (Decidable (_ ∧ _ ∧ _))
  | .both (.reset _) => inferInstanceAs (Decidable True)
  | .left _ => inferInstanceAs (Decidable (Spares _ _ _))
  | .right _ => inferInstanceAs (Decidable (Spares _ _ _))

end RelayState

namespace RelayInput

def Headed : RelayInput → Prop
  | .heard frame header _ _ => frame.header = some header
  | .blind frame header _ => frame.header = some header
  | .due _ => True
  | .reset _ => True

theorem Admissible.headed {nodeNum : UInt32} {input : RelayInput}
    (h : input.Admissible nodeNum) : input.Headed := by
  cases input with
  | heard frame header role deadline => exact h.1
  | blind frame header deadline => exact h.1
  | due now => trivial
  | reset nodeNum => trivial

def Vouched (vouched : PacketKey → Bool) : RelayInput → Prop
  | .heard _ header _ _ => vouched header.key = true
  | _ => True

instance : DecidablePred (Vouched vouched)
  | .heard _ _ _ _ => inferInstanceAs (Decidable (_ = _))
  | .blind _ _ _ => inferInstanceAs (Decidable True)
  | .due _ => inferInstanceAs (Decidable True)
  | .reset _ => inferInstanceAs (Decidable True)

/-- No frame decoded, and the node goes on. -/
def Blind : RelayInput → Prop
  | .heard _ _ _ _ => False
  | .blind _ _ _ => True
  | .due _ => True
  | .reset _ => False

instance : DecidablePred Blind
  | .heard _ _ _ _ => inferInstanceAs (Decidable False)
  | .blind _ _ _ => inferInstanceAs (Decidable True)
  | .due _ => inferInstanceAs (Decidable True)
  | .reset _ => inferInstanceAs (Decidable False)

end RelayInput

def HearAlike (vouched : PacketKey → Bool) : Paired RelayInput → Prop
  | .both input => input.Headed ∧ input.Vouched vouched
  | .left input => input.Headed ∧ input.Blind
  | .right input => input.Headed ∧ input.Blind

namespace RelayState

variable {left right : RelayState}

theorem agree_step_both (h : Agree vouched left right) {input : RelayInput}
    (hhear : HearAlike vouched (.both input))
    (hok : Undisturbed vouched (left, right) (.both input)) :
    sendsVouched vouched left input = sendsVouched vouched right input ∧
      Agree vouched (left.step input) (right.step input) := by
  obtain ⟨hheaded, hvouched⟩ := hhear
  cases input with
  | heard frame header role deadline =>
      obtain ⟨halike, hleft, hright⟩ := hok
      exact ⟨rfl, agree_hear h halike hheaded hvouched hleft hright⟩
  | blind frame header deadline =>
      obtain ⟨hleft, hright⟩ := hok
      have hafter := agree_hearBlind hheaded hleft deadline
      have hafter' := agree_hearBlind hheaded hright deadline
      refine ⟨rfl, ?_⟩
      calc
        Agree vouched (left.hearBlind frame header deadline) left := hafter.symm
        Agree vouched _ right := h
        Agree vouched _ (right.hearBlind frame header deadline) := hafter'
  | due now =>
      obtain ⟨halike, hleft, hright⟩ := hok
      exact agree_fire h halike hleft hright
  | reset nodeNum => exact ⟨rfl, Agree.refl _⟩

theorem agree_step_blind {st : RelayState} {input : RelayInput} (hheaded : input.Headed)
    (hblind : input.Blind) (hok : Spares vouched st input) :
    sendsVouched vouched st input = [] ∧ Agree vouched st (st.step input) := by
  cases input with
  | heard frame header role deadline => cases hblind
  | blind frame header deadline => exact ⟨rfl, agree_hearBlind hheaded hok deadline⟩
  | due now => exact agree_fire_blind hok
  | reset nodeNum => cases hblind

/-- Two runs that hear the same authenticated packets and are not disturbed by what else
they hear relay the same authenticated packets. -/
theorem observed_sendsVouched_eq (h : Agree vouched left right)
    {script : List (Paired RelayInput)} (hhear : ∀ paired ∈ script, HearAlike vouched paired)
    (hok : Transition.Always (Transition.joint step) (Undisturbed vouched) (left, right)
      script) :
    Transition.observed step (sendsVouched vouched) left (Paired.lefts script) =
      Transition.observed step (sendsVouched vouched) right (Paired.rights script) := by
  refine Transition.observed_eq_of_joint ?_ ?_ ?_ h
    ((Transition.always_of_forall hhear _).and hok)
  · rintro s t input hagree ⟨hhear, hok⟩
    exact agree_step_both hagree hhear hok
  · rintro s t input hagree ⟨⟨hheaded, hblind⟩, hok⟩
    have hstep := agree_step_blind hheaded hblind hok
    exact ⟨hstep.1, hstep.2.symm.trans hagree⟩
  · rintro s t input hagree ⟨⟨hheaded, hblind⟩, hok⟩
    have hstep := agree_step_blind hheaded hblind hok
    exact ⟨hstep.1, hagree.trans hstep.2⟩

end RelayState

end Meshtastenstein
