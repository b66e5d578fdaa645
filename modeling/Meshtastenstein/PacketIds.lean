import Mathlib.Algebra.GroupWithZero.Nat
import Meshtastenstein.KnownAnswers
import Meshtastenstein.Originations
/-!
# Packet ids over runs and restarts

The id counter restarts at the node number.  Between restarts no id is given out twice,
so a run that never restarts after a draw has unique ids; one that does repeats them.
-/

namespace Meshtastenstein

open Lib Proto Handlers

variable {S : Type}

/-! ## Unique ids -/

/-- A received packet as the flooding layer of a peer is asked about it. -/
structure Heard where
  sender : UInt32
  packetId : UInt32
  hopLimit : UInt8
  relayNode : UInt8
  pendingHopLimit : Option UInt8
  role : DeviceRole

namespace MeshRouter

def hear (router : MeshRouter) (packet : Heard) : FilterResult × MeshRouter :=
  router.shouldFilterReceived packet.sender packet.packetId packet.hopLimit packet.relayNode
    packet.pendingHopLimit packet.role

def hearAll (router : MeshRouter) (packets : List Heard) : MeshRouter :=
  packets.foldl (fun router packet => (router.hear packet).2) router

end MeshRouter

/-- Frames of which no two different ones share sender and packet id; what follows for
nonces and for the duplicate history of a peer that has heard only other ones of them. -/
structure UniqueIds (frames : List RadioFrame) : Prop where
  unique : ∀ f ∈ frames, ∀ g ∈ frames, ∀ t u,
    f.transmission = some t → g.transmission = some u →
    t.sender = u.sender → t.packetId = u.packetId → t = u
  nonces : ∀ f ∈ frames, ∀ g ∈ frames, ∀ t u,
    f.transmission = some t → g.transmission = some u → t ≠ u →
    buildNonce t.packetId t.sender ≠ buildNonce u.packetId u.sender
  peers : ∀ g ∈ frames, ∀ u, g.transmission = some u →
    ∀ peerNodeNum packets,
      (∀ packet ∈ packets, packet.sender = u.sender →
        ∃ f ∈ frames, ∃ t, f.transmission = some t ∧ t.sender = u.sender ∧
          t.packetId = packet.packetId ∧ t ≠ u) →
      ∀ copy : Heard, copy.sender = u.sender → copy.packetId = u.packetId →
        (((MeshRouter.new peerNodeNum).hearAll packets).hear copy).1 = .new

/-! ## Duplicate histories -/

namespace MeshRouter

def RecordsOnly (router : MeshRouter) (packets : List Heard) : Prop :=
  ∀ record ∈ router.history.live,
    ∃ packet ∈ packets, packet.sender = record.sender ∧ packet.packetId = record.packetId

theorem RecordsOnly.modifyRecord {router : MeshRouter} {packets : List Heard}
    (h : router.RecordsOnly packets) (idx : Nat) {f : PacketRecord → PacketRecord}
    (hf : ∀ record, (f record).sender = record.sender ∧ (f record).packetId = record.packetId) :
    (router.modifyRecord idx f).RecordsOnly packets := by
  intro record hrecord
  unfold MeshRouter.modifyRecord RingBuffer.live at hrecord
  rw [RingBuffer.slots_modify, RingBuffer.count_modify, List.take_modify] at hrecord
  obtain ⟨i, hi⟩ := List.mem_iff_getElem?.mp hrecord
  rw [List.getElem?_modify] at hi
  obtain ⟨original, horiginal, hsame⟩ := Option.map_eq_some_iff.mp hi
  obtain ⟨packet, hpacket, hsender, hid⟩ := h original (List.mem_of_getElem? horiginal)
  refine ⟨packet, hpacket, ?_⟩
  rw [← hsame]
  split
  · exact ⟨hsender.trans (hf original).1.symm, hid.trans (hf original).2.symm⟩
  · exact ⟨hsender, hid⟩

theorem addRelayer_keeps (record : PacketRecord) (relayNode : UInt8) :
    (record.addRelayer relayNode).sender = record.sender ∧
      (record.addRelayer relayNode).packetId = record.packetId := by
  unfold PacketRecord.addRelayer
  split
  · exact ⟨rfl, rfl⟩
  · split <;> exact ⟨rfl, rfl⟩

theorem RecordsOnly.hear {router : MeshRouter} {packets : List Heard}
    (h : router.RecordsOnly packets) (packet : Heard) :
    (router.hear packet).2.RecordsOnly (packet :: packets) := by
  have hmore : router.RecordsOnly (packet :: packets) := by
    intro record hrecord
    obtain ⟨other, hother, hsame⟩ := h record hrecord
    exact ⟨other, List.mem_cons_of_mem _ hother, hsame⟩
  unfold MeshRouter.hear
  cases hfind : router.findRecord packet.sender packet.packetId with
  | some idx =>
      rw [shouldFilterReceived_of_find hfind]
      have hrelayer := hmore.modifyRecord idx fun record =>
        addRelayer_keeps record packet.relayNode
      split
      · exact hmore.modifyRecord idx fun record => addRelayer_keeps record packet.relayNode
      · split
        · exact hrelayer
        · exact hrelayer
  | none =>
      unfold shouldFilterReceived
      rw [hfind]
      refine RecordsOnly.modifyRecord ?_ _ fun record => addRelayer_keeps record packet.relayNode
      exact RingBuffer.forall_live_push ⟨packet, List.mem_cons_self, rfl, rfl⟩ hmore

theorem recordsOnly_hearAll {router : MeshRouter} {before packets : List Heard}
    (h : router.RecordsOnly before) : (router.hearAll packets).RecordsOnly (before ++ packets) := by
  induction packets generalizing router before with
  | nil =>
      rw [List.append_nil]
      exact h
  | cons packet packets ih =>
      have hstep := ih (h.hear packet)
      intro record hrecord
      obtain ⟨other, hother, hsame⟩ := hstep record hrecord
      refine ⟨other, ?_, hsame⟩
      simp only [List.cons_append, List.mem_cons, List.mem_append] at hother ⊢
      tauto

theorem hear_eq_new {peerNodeNum : UInt32} {packets : List Heard} {copy : Heard}
    (h : ∀ packet ∈ packets, packet.sender = copy.sender → packet.packetId ≠ copy.packetId) :
    (((MeshRouter.new peerNodeNum).hearAll packets).hear copy).1 = .new := by
  have hempty : (MeshRouter.new peerNodeNum).RecordsOnly [] := by
    intro record hrecord
    cases hrecord
  have hrecords := @recordsOnly_hearAll _ _ packets hempty
  have hfind : ((MeshRouter.new peerNodeNum).hearAll packets).findRecord copy.sender
      copy.packetId = none := by
    unfold findRecord
    rw [RingBuffer.find_eq_none_iff]
    intro record hrecord
    obtain ⟨packet, hpacket, hsender, hid⟩ := hrecords record hrecord
    by_contra hfor
    simp only [PacketRecord.isFor, Bool.not_eq_false, Bool.and_eq_true, beq_iff_eq] at hfor
    exact h packet hpacket (hsender.trans hfor.1.2) (hid.trans hfor.2)
  unfold hear shouldFilterReceived
  rw [hfind]

end MeshRouter

theorem uniqueIds_of_unique {frames : List RadioFrame}
    (h : ∀ f ∈ frames, ∀ g ∈ frames, ∀ t u,
      f.transmission = some t → g.transmission = some u →
      t.sender = u.sender → t.packetId = u.packetId → t = u) : UniqueIds frames := by
  refine ⟨h, ?_, ?_⟩
  · intro f hf g hg t u ht hu hne hnonce
    obtain ⟨hid, hsender⟩ := buildNonce_injective hnonce
    exact hne (h f hf g hg t u ht hu hsender hid)
  · intro g hg u hu peerNodeNum packets hpackets copy hsender hid
    apply MeshRouter.hear_eq_new
    intro packet hpacket hsame heq
    obtain ⟨f, hf, t, ht, hsender', hid', hne⟩ := hpackets packet hpacket (hsame.trans hsender)
    exact hne (h f hf g hg t u ht hu hsender' (hid'.trans (heq.trans hid)))

/-! ## Originated frames of a run -/

namespace MeshState

variable [MeshStorage S] (env : Env)

/-- The frames a step queues on the node's own account; a rebroadcast passes on the frame
of another node. -/
def originated (state : MeshState S) (event : Event) : List RadioFrame :=
  match event with
  | .rebroadcastDue => []
  | event => (handled env state event).txToLora.drop state.ctx.txToLora.length

def draws (state : MeshState S) (event : Event) : Nat :=
  ((handled env state event).device.packetIdCounter - state.ctx.device.packetIdCounter).toNat

/-- The frames a run queues on the node's own account. -/
def originatedIn (state : MeshState S) (events : List Event) : List RadioFrame :=
  (Transition.trace (step env) state events).flatMap fun t => originated env t.before t.event

/-- The number of packet ids a run draws. -/
def drawsIn (state : MeshState S) (events : List Event) : Nat :=
  ((Transition.trace (step env) state events).map fun t => draws env t.before t.event).sum

/-- The phone sends its packets without an id. -/
def LeavesIds (state : MeshState S) : Event → Prop
  | .mesh (.bleRx bytes) =>
      ∀ toRadio pkt data, env.prost.toRadio.decode bytes = some toRadio →
        toRadio.payloadVariant = some (.packet pkt) →
        pkt.payloadVariant = some (.decoded data) →
        FromApp.isLocalAdmin state.ctx.device pkt data = false → pkt.id = 0
  | _ => True

/-- A restart finds the id counter where it was at boot. -/
def RestartsUnused (state : MeshState S) (event : Event) : Prop :=
  restarts env state event = true →
    (handled env state event).device.packetIdCounter =
      (handled env state event).device.myNodeNum

instance (state : MeshState S) (event : Event) : Decidable (RestartsUnused env state event) :=
  inferInstanceAs (Decidable (_ → _))

variable {env}

/-! ### Steps -/

omit [MeshStorage S] in
theorem issues_of_emits {n : Nat} {before after : MeshCtx S} (h : Emits n before after) :
    Issues n (after.txToLora.drop before.txToLora.length) before after := by
  obtain ⟨sent, hlora, hissues⟩ := h
  rw [hlora, List.drop_left]
  exact hissues

omit [MeshStorage S] in
theorem emits_noteActivity (ctx : MeshCtx S) (event : MeshEvent) :
    Emits 0 ctx (noteActivity ctx event) := by
  cases event with
  | loraRx frame metadata =>
      refine Emits.of_pending rfl rfl ?_
      unfold noteActivity MeshRouter.extendPendingDeadlines PendingPackets.transmissions
      rw [Bounded.toList_map, List.map_map]
      exact List.Subset.refl _
  | tick => exact Emits.of_pending rfl rfl (List.Subset.refl _)
  | _ => exact Emits.refl ctx

/-- What the phone says makes us queue frames under drawn ids, unless it gives an id. -/
theorem emits_phone {ctx : MeshCtx S} {bytes : Bytes}
    (hids : ∀ toRadio pkt data, env.prost.toRadio.decode bytes = some toRadio →
      toRadio.payloadVariant = some (.packet pkt) → pkt.payloadVariant = some (.decoded data) →
      FromApp.isLocalAdmin ctx.device pkt data = false → pkt.id = 0) :
    Emits 2 ctx (FromApp.dispatch env ctx bytes) := by
  rcases @FromApp.dispatch_cases S env _ ctx bytes with
    hquiet | ⟨toRadio, pkt, data, hdecode, hpacket, hdata, hdispatch⟩
  · exact (Emits.of_quiet hquiet).mono (by omega)
  · have hblink : Emits 0 (FromApp.transmitDecoded env ctx pkt data)
        ((FromApp.transmitDecoded env ctx pkt data).blink .doubleBlink) :=
      Emits.of_pending rfl rfl (List.Subset.refl _)
    rw [hdispatch]
    refine Emits.trans ?_ hblink
    cases hlocal : FromApp.isLocalAdmin ctx.device pkt data with
    | true =>
        unfold FromApp.transmitDecoded
        rw [if_pos hlocal]
        exact FromApp.emits_handleLocalAdmin ctx pkt data
    | false =>
        have hsent := @FromApp.emits_sendWithoutId S env _ ctx pkt data hdata hlocal
          (hids toRadio pkt data hdecode hpacket hdata hlocal)
        rw [FromApp.transmitFromBlePacket, hdata] at hsent
        exact hsent

/-- What a step originates carries drawn ids or repeats what is pending. -/
theorem issues_handled {state : MeshState S} {event : Event}
    (hids : LeavesIds env state event) :
    Issues 8 (originated env state event) state.ctx (handled env state event) := by
  by_cases hrebroadcast : event = .rebroadcastDue
  · subst hrebroadcast
    have hsame : Issues 8 [] state.ctx state.ctx := (Issues.refl state.ctx).mono (by omega)
    unfold handled originated
    dsimp only
    split
    · rcases fireRebroadcast_cases state.ctx with hnone | ⟨i, pending, -, hsent⟩
      · rw [hnone]
        exact hsame
      · have hrelayed : Issues 0 [] state.ctx
            { state.ctx with
              pendingRebroadcast := state.ctx.pendingRebroadcast.swapRemove i
              txToLora := state.ctx.txToLora ++ [pending.frame] } :=
          Issues.of_pending rfl (List.nil_subset _) (List.Subset.refl _)
        rw [hsent]
        exact hrelayed.mono (by omega)
    · exact hsame
  · have horiginated : originated env state event =
        (handled env state event).txToLora.drop state.ctx.txToLora.length := by
      cases event with
      | rebroadcastDue => exact absurd rfl hrebroadcast
      | _ => rfl
    rw [horiginated]
    have hwork := @work_handled S _ env state event
    generalize handled env state event = after at hwork ⊢
    cases hwork with
    | received hstarted frame metadata =>
        have hnoted := emits_noteActivity state.ctx (.loraRx frame metadata)
        exact issues_of_emits ((hnoted.trans (emits_receive _ frame metadata)).mono (by omega))
    | asked hstarted bytes => exact issues_of_emits ((emits_phone hids).mono (by omega))
    | relayed i frame => exact absurd rfl hrebroadcast
    | retransmitted hstarted => exact issues_of_emits (emits_fireRetransmissions state.ctx)
    | bleTaken =>
        have htaken : Emits 0 state.ctx { state.ctx with txToBle := state.ctx.txToBle.tail } :=
          Emits.of_pending rfl rfl (List.Subset.refl _)
        exact issues_of_emits (htaken.mono (by omega))
    | loraTaken =>
        have hnone : state.ctx.txToLora.tail.drop state.ctx.txToLora.length = [] := by
          rw [List.drop_eq_nil_iff, List.length_tail]
          omega
        have htaken : Issues 0 [] state.ctx
            { state.ctx with txToLora := state.ctx.txToLora.tail } :=
          Issues.of_pending rfl (List.nil_subset _) (List.Subset.refl _)
        dsimp only
        rw [hnone]
        exact htaken.mono (by omega)
    | quiet hquiet => exact issues_of_emits ((Emits.of_quiet hquiet).mono (by omega))

/-! ### Runs -/

/-- After `drawn` draws of node `num`, the frames `fresh` went out under ids of their own,
and what is pending is among them. -/
structure HasIssued (num : UInt32) (fresh : List RadioFrame) (drawn : Nat)
    (state : MeshState S) : Prop where
  myNodeNum_eq : state.ctx.device.myNodeNum = num
  mac_eq : DeviceState.nodeNumOfMac state.ctx.device.mac = num
  counter_eq : state.ctx.device.packetIdCounter = num + UInt32.ofNat drawn
  ids : ∃ ids, List.Sublist ids (drawnIds num drawn) ∧
    List.Forall₂ (RadioFrame.IsFrom num) fresh ids
  pending : state.ctx.pendingPackets.transmissions ⊆ fresh.map RadioFrame.transmission

theorem hasIssued_boot (mac : Bytes) (storage : S) (pkcKeypair : Key × Key)
    (entropy : Nat → UInt32) :
    HasIssued (DeviceState.nodeNumOfMac mac) [] 0 (boot env mac storage pkcKeypair entropy) := by
  refine ⟨?_, ?_, ?_, ⟨[], List.Sublist.refl _, List.Forall₂.nil⟩, List.nil_subset _⟩
  · exact loadState_myNodeNum env storage (DeviceState.new mac)
  · exact congrArg DeviceState.nodeNumOfMac (loadState_mac env storage (DeviceState.new mac))
  · refine (loadState_counter env storage (DeviceState.new mac)).trans ?_
    exact (UInt32.add_zero _).symm

/-- A step issues a few more frames; a restart is only met by a node that has drawn no id. -/
theorem HasIssued.step {num : UInt32} {fresh : List RadioFrame} {drawn : Nat}
    {state : MeshState S} {event : Event} (h : HasIssued num fresh drawn state)
    (hids : LeavesIds env state event) (hrestarts : RestartsUnused env state event)
    (hbound : drawn + draws env state event < 2 ^ 32) :
    ∃ more, HasIssued num (fresh ++ more) (drawn + draws env state event)
        (MeshState.step env state event) ∧
      (originated env state event).map RadioFrame.transmission ⊆
        (fresh ++ more).map RadioFrame.transmission := by
  have hissues := issues_handled hids
  obtain ⟨k, hk, more, ids', hcounter, hids', hmore, hsent, hpending⟩ := hissues.issued
  obtain ⟨ids, hids, hfresh⟩ := h.ids
  have hdraws : draws env state event = k := toNat_sub_of_draws hcounter (by omega)
  rw [hdraws] at hbound ⊢
  have hcover : more.map RadioFrame.transmission ++ state.ctx.pendingPackets.transmissions ⊆
      (fresh ++ more).map RadioFrame.transmission := by
    rw [List.map_append]
    exact List.append_subset.mpr ⟨List.subset_append_right _ _,
      List.Subset.trans h.pending (List.subset_append_left _ _)⟩
  have hcounter' : (handled env state event).device.packetIdCounter =
      num + UInt32.ofNat (drawn + k) := by
    rw [hcounter, h.counter_eq, UInt32.add_assoc, UInt32.ofNat_add]
  have hallIds : List.Sublist (ids ++ ids') (drawnIds num (drawn + k)) := by
    rw [drawnIds_add, ← h.counter_eq]
    exact hids.append hids'
  have hallFresh : List.Forall₂ (RadioFrame.IsFrom num) (fresh ++ more) (ids ++ ids') := by
    rw [h.myNodeNum_eq] at hmore
    exact List.rel_append hfresh hmore
  refine ⟨more, ?_, List.Subset.trans hsent hcover⟩
  cases hrestart : restarts env state event with
  | false =>
      have htraffic := (step_of_not_restarts hrestart).traffic_eq
      simp only [MeshCtx.traffic, Prod.mk.injEq] at htraffic
      obtain ⟨-, hpending', hmac, hnum, hcount, -, -⟩ := htraffic
      refine ⟨?_, ?_, hcount.trans hcounter', ⟨_, hallIds, hallFresh⟩, ?_⟩
      · rw [hnum, hissues.myNodeNum_eq, h.myNodeNum_eq]
      · rw [hmac, hissues.mac_eq, h.mac_eq]
      · rw [hpending']
        exact List.Subset.trans hpending hcover
  | true =>
      obtain ⟨housed, hkept, hreboot⟩ := step_of_restarts hrestart
      have htraffic := hkept.traffic_eq
      simp only [MeshCtx.traffic, Prod.mk.injEq] at htraffic
      obtain ⟨-, -, hmac, -, -, -, -⟩ := htraffic
      -- the counter is where it started, so nothing was drawn or sent yet
      have hback : num = num + UInt32.ofNat (drawn + k) := by
        calc num = (handled env state event).device.myNodeNum := by
              rw [hissues.myNodeNum_eq, h.myNodeNum_eq]
          _ = num + UInt32.ofNat (drawn + k) := (hrestarts hrestart).symm.trans hcounter'
      have hnone : drawn + k = 0 := eq_zero_of_draws hback hbound
      rw [hnone] at hallIds ⊢
      rw [List.sublist_nil.mp hallIds, List.forall₂_nil_right_iff] at hallFresh
      rw [hallFresh, hreboot]
      have hboot := @hasIssued_boot S _ env housed.ctx.device.mac
        (MeshStorage.reopen housed.ctx.storage)
        (housed.ctx.pkcPrivBytes, housed.ctx.pkcPubBytes) housed.ctx.entropy
      rw [hmac, hissues.mac_eq, h.mac_eq, ← hissues.mac_eq, ← hmac] at hboot
      exact hboot

theorem HasIssued.run {num : UInt32} {fresh : List RadioFrame} {drawn : Nat}
    {state : MeshState S} {events : List Event} (h : HasIssued num fresh drawn state)
    (hids : Transition.Always (MeshState.step env) (LeavesIds env) state events)
    (hrestarts : Transition.Always (MeshState.step env) (RestartsUnused env) state events)
    (hbound : drawn + drawsIn env state events < 2 ^ 32) :
    ∃ more, (originatedIn env state events).map RadioFrame.transmission ⊆
        (fresh ++ more).map RadioFrame.transmission ∧
      ∃ ids, List.Sublist ids (drawnIds num (drawn + drawsIn env state events)) ∧
        List.Forall₂ (RadioFrame.IsFrom num) (fresh ++ more) ids := by
  induction events generalizing fresh drawn state with
  | nil =>
      refine ⟨[], List.nil_subset _, ?_⟩
      rw [List.append_nil]
      exact h.ids
  | cons event events ih =>
      obtain ⟨hid, hids⟩ := Transition.always_cons.mp hids
      obtain ⟨hrestart, hrestarts⟩ := Transition.always_cons.mp hrestarts
      have hdraws : drawsIn env state (event :: events) =
          draws env state event + drawsIn env (MeshState.step env state event) events := rfl
      rw [hdraws, ← Nat.add_assoc] at hbound ⊢
      obtain ⟨first, hissued, hsent⟩ := h.step hid hrestart (by omega)
      obtain ⟨rest, hcovered, hallIds⟩ := ih hissued hids hrestarts hbound
      refine ⟨first ++ rest, ?_, ?_⟩
      · have hsplit : originatedIn env state (event :: events) =
            originated env state event ++
              originatedIn env (MeshState.step env state event) events := rfl
        rw [hsplit, List.map_append, ← List.append_assoc]
        have hgrow : (fresh ++ first).map RadioFrame.transmission ⊆
            (fresh ++ first ++ rest).map RadioFrame.transmission :=
          List.map_subset _ (List.subset_append_left _ _)
        exact List.append_subset.mpr ⟨List.Subset.trans hsent hgrow, hcovered⟩
      · rw [← List.append_assoc]
        exact hallIds

end MeshState

/-! ## Uniqueness over runs -/

theorem packetIds_of_isFrom {num : UInt32} {fresh : List RadioFrame} {ids : List UInt32}
    (h : List.Forall₂ (RadioFrame.IsFrom num) fresh ids) :
    fresh.map (fun frame => frame.transmission.map Transmission.packetId) = ids.map some := by
  induction h with
  | nil => rfl
  | cons hfrom _ ih =>
      obtain ⟨header, hheader, -, rfl⟩ := hfrom
      rw [List.map_cons, List.map_cons, ih]
      unfold RadioFrame.transmission
      rw [hheader]
      rfl

theorem transmission_eq_of_packetId_eq {num : UInt32} {fresh : List RadioFrame}
    {ids : List UInt32} (hfresh : List.Forall₂ (RadioFrame.IsFrom num) fresh ids)
    (hids : ids.Nodup) {f g : RadioFrame} (hf : f ∈ fresh) (hg : g ∈ fresh)
    {t u : Transmission} (ht : f.transmission = some t) (hu : g.transmission = some u)
    (hid : t.packetId = u.packetId) : t = u := by
  have hnodup : (fresh.map fun frame =>
      frame.transmission.map Transmission.packetId).Nodup := by
    rw [packetIds_of_isFrom hfresh]
    exact hids.map fun _ _ h => Option.some.inj h
  have hsame : f = g := by
    refine List.inj_on_of_nodup_map hnodup hf hg ?_
    rw [ht, hu, Option.map_some, Option.map_some, hid]
  subst hsame
  exact Option.some.inj (ht.symm.trans hu)

section

variable [MeshStorage S] {env : Env}

/-- In every run in which the phone leaves the ids to us, the node restarts only before it
has drawn an id, and fewer than 2^32 ids are drawn, the ids of our frames are unique. -/
theorem uniqueIds_run (mac : Bytes) (storage : S) (pkcKeypair : Key × Key)
    (entropy : Nat → UInt32) (events : List MeshState.Event)
    (hids : Transition.Always (MeshState.step env) (MeshState.LeavesIds env)
      (MeshState.boot env mac storage pkcKeypair entropy) events)
    (hrestarts : Transition.Always (MeshState.step env) (MeshState.RestartsUnused env)
      (MeshState.boot env mac storage pkcKeypair entropy) events)
    (hdraws : MeshState.drawsIn env (MeshState.boot env mac storage pkcKeypair entropy) events <
      2 ^ 32) :
    UniqueIds (MeshState.originatedIn env
      (MeshState.boot env mac storage pkcKeypair entropy) events) := by
  have hboot := @MeshState.hasIssued_boot S _ env mac storage pkcKeypair entropy
  obtain ⟨fresh, hcovered, ids, hsublist, hfresh⟩ := hboot.run hids hrestarts (by omega)
  rw [List.nil_append] at hcovered hfresh
  rw [Nat.zero_add] at hsublist
  have hnodup : ids.Nodup := hsublist.nodup (nodup_drawnIds _ (Nat.le_of_lt hdraws))
  apply uniqueIds_of_unique
  intro f hf g hg t u ht hu _ hid
  obtain ⟨f', hf', hsame⟩ := List.mem_map.mp (hcovered (List.mem_map_of_mem hf))
  obtain ⟨g', hg', hsame'⟩ := List.mem_map.mp (hcovered (List.mem_map_of_mem hg))
  exact transmission_eq_of_packetId_eq hfresh hnodup hf' hg' (hsame.trans ht)
    (hsame'.trans hu) hid

end

/-! ### Recorded runs -/

/-- The phone hands over a text for node `0x55667788` without a packet id. -/
def unnumberedMessage (first second : UInt8) : Bytes :=
  [0x0a, 0x0f, 0x15, 0x88, 0x77, 0x66, 0x55, 0x22, 0x06, 0x08, 0x01, 0x12, 0x02, first, second,
   0x48, 0x03]

/-- After a power cycle a message is sent and, when no acknowledgement comes, sent again. -/
def repeatedRun : List MeshState.Event :=
  [.powerCycle, .announce, .mesh (.bleRx (unnumberedMessage 0x68 0x69)), .elapse 60000,
    .retransmissionDue]

/-- Two messages are sent, the node losing power in between. -/
def restartedRun : List MeshState.Event :=
  [.announce, .mesh (.bleRx (unnumberedMessage 0x68 0x69)), .powerCycle, .announce,
    .mesh (.bleRx (unnumberedMessage 0x79 0x6f))]

theorem leavesIds_unnumberedMessage {first second : UInt8} (state : MeshState FakeStorage)
    (hnames : namesPacketId KnownAnswers.defaultKey.env (unnumberedMessage first second) 0 =
      true) :
    MeshState.LeavesIds KnownAnswers.defaultKey.env state
      (.mesh (.bleRx (unnumberedMessage first second))) := by
  intro toRadio pkt data htoRadio hpacket _ _
  exact id_of_namesPacketId hnames htoRadio hpacket

/-- The text and its retransmission are one transmission; no other frame has its id. -/
theorem repeatedRun_uniqueIds :
    UniqueIds (MeshState.originatedIn KnownAnswers.defaultKey.env startOfRun repeatedRun) := by
  refine @uniqueIds_run FakeStorage _ KnownAnswers.defaultKey.env KnownAnswers.mac {}
    KnownAnswers.noKeypair KnownAnswers.noEntropy repeatedRun ?_ (by decide +kernel)
      (by decide +kernel)
  unfold repeatedRun
  simp only [Transition.always_cons]
  refine ⟨trivial, trivial, leavesIds_unnumberedMessage _ (by decide), trivial, trivial, ?_⟩
  intro t ht
  cases ht

/-- The text `hi`, as it goes out before the power is lost. -/
def firstText : Transmission where
  sender := 0x28123456
  packetId := 0x28123458
  destination := 0x55667788
  payload := [0x8e, 0xde, 0x00, 0xfe, 0x95, 0x4e, 0x2c, 0x19]

def secondText : Transmission where
  sender := 0x28123456
  packetId := 0x28123458
  destination := 0x55667788
  payload := [0x8e, 0xde, 0x00, 0xfe, 0x84, 0x48, 0x2c, 0x19]

/-- The phone leaves the ids to us and few are drawn, yet two texts share an id. -/
theorem restartedRun_repeats_id :
    Transition.Always (MeshState.step KnownAnswers.defaultKey.env)
      (MeshState.LeavesIds KnownAnswers.defaultKey.env) startOfRun restartedRun ∧
    MeshState.drawsIn KnownAnswers.defaultKey.env startOfRun restartedRun < 2 ^ 32 ∧
    ¬ UniqueIds
      (MeshState.originatedIn KnownAnswers.defaultKey.env startOfRun restartedRun) := by
  refine ⟨?_, by decide, ?_⟩
  · unfold restartedRun
    simp only [Transition.always_cons]
    refine ⟨trivial, leavesIds_unnumberedMessage _ (by decide), trivial, trivial,
      leavesIds_unnumberedMessage _ (by decide), ?_⟩
    intro t ht
    cases ht
  · intro hunique
    obtain ⟨f, hf, hfirst⟩ := List.mem_map.mp
      (show some firstText ∈ (MeshState.originatedIn KnownAnswers.defaultKey.env startOfRun
        restartedRun).map RadioFrame.transmission by decide)
    obtain ⟨g, hg, hsecond⟩ := List.mem_map.mp
      (show some secondText ∈ (MeshState.originatedIn KnownAnswers.defaultKey.env startOfRun
        restartedRun).map RadioFrame.transmission by decide)
    have hsame := hunique.unique f hf g hg firstText secondText hfirst hsecond rfl rfl
    exact absurd hsame (by decide)

end Meshtastenstein
