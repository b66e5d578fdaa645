import Meshtastenstein.KnownAnswers
import Meshtastenstein.RelayState
/-!
# Relayed frames

What a node writes into its rebroadcast queue is the received frame with one hop less and
its own relay byte, so every chain of relays ends.
-/

namespace Meshtastenstein

open Lib Proto Handlers

/-! ## Relays -/

structure PacketHeader.IsRelayOf (nodeNum : UInt32) (header header' : PacketHeader) :
    Prop where
  sender_ne : header.sender ≠ nodeNum
  destination_eq : header'.destination = header.destination
  sender_eq : header'.sender = header.sender
  packetId_eq : header'.packetId = header.packetId
  channelIndex_eq : header'.channelIndex = header.channelIndex
  hopStart_eq : header'.hopStart = header.hopStart
  wantAck_eq : header'.wantAck = header.wantAck
  viaMqtt_eq : header'.viaMqtt = header.viaMqtt
  relayNode_eq : header'.relayNode = lastByte nodeNum
  hopLimit_eq : header'.hopLimit.toNat + 1 = header.hopLimit.toNat

structure RadioFrame.IsRelayOf (nodeNum : UInt32) (frame relay : RadioFrame) : Prop where
  payload_eq : relay.payload = frame.payload
  length_eq : relay.bytes.length = frame.bytes.length
  headers : ∃ header header', frame.header = some header ∧ relay.header = some header' ∧
    PacketHeader.IsRelayOf nodeNum header header'

/-- Some node, in some state, hears `frame` and queues `relay`. -/
def RelayedAs (frame relay : RadioFrame) : Prop :=
  ∃ (S : Type) (_ : MeshStorage S) (env : Env) (ctx : MeshCtx S) (metadata : RadioMetadata),
    ∃ entry ∈ written ctx.pendingRebroadcast
      (FromRadio.dispatch env ctx frame metadata).pendingRebroadcast,
      entry.frame = relay

/-- The hops a frame may still make; none without a header. -/
def RadioFrame.hopsLeft (frame : RadioFrame) : Nat :=
  match frame.header with
  | some header => header.hopLimit.toNat
  | none => 0

def FewerHops (frame relay : RadioFrame) : Prop := relay.hopsLeft < frame.hopsLeft

instance : Trans FewerHops FewerHops FewerHops :=
  ⟨fun h h' => Nat.lt_trans h' h⟩

theorem RadioFrame.hopsLeft_lt (frame : RadioFrame) : frame.hopsLeft < 8 := by
  unfold hopsLeft
  split
  · exact PacketHeader.toNat_hopLimit_lt _
  · omega

theorem RadioFrame.IsRelayOf.hopsLeft_eq {nodeNum : UInt32} {frame relay : RadioFrame}
    (h : RadioFrame.IsRelayOf nodeNum frame relay) :
    relay.hopsLeft + 1 = frame.hopsLeft := by
  obtain ⟨header, header', hheader, hheader', hrelay⟩ := h.headers
  unfold hopsLeft
  rw [hheader, hheader']
  exact hrelay.hopLimit_eq

namespace RelayState

/-! ## What a step writes -/

theorem isRelayOf_relayed (st : RelayState) {frame : RadioFrame} {header : PacketHeader}
    (hheader : frame.header = some header) (hsender : header.sender ≠ st.nodeNum)
    (hhop : header.hopLimit ≠ 0) :
    RadioFrame.IsRelayOf st.nodeNum frame (st.relayed frame header) where
  payload_eq := RadioFrame.payload_withRewrittenHeader frame _ _
  length_eq := RadioFrame.length_withRewrittenHeader frame _ _
  headers := by
    refine ⟨header, _, hheader, RadioFrame.header_withRewrittenHeader hheader _ _, ?_⟩
    have hlimit : (header.setHopLimit (header.hopLimit - 1)).hopLimit = header.hopLimit - 1 := by
      rw [PacketHeader.hopLimit_setHopLimit, PacketHeader.hopLimit_sub_one_and header hhop]
    exact
      { sender_ne := hsender
        destination_eq := rfl
        sender_eq := rfl
        packetId_eq := rfl
        channelIndex_eq := rfl
        hopStart_eq := PacketHeader.hopStart_setHopLimit header _
        wantAck_eq := PacketHeader.wantAck_setHopLimit header _
        viaMqtt_eq := PacketHeader.viaMqtt_setHopLimit header _
        relayNode_eq := rfl
        hopLimit_eq :=
          (congrArg (·.toNat + 1) hlimit).trans (PacketHeader.toNat_hopLimit_sub_one header hhop) }

theorem frame_of_mem_written_schedule {st : RelayState} {frame : RadioFrame}
    {header : PacketHeader} {deadline : Nat} {entry : PendingRebroadcast}
    (h : entry ∈ written st.queue (st.schedule frame header deadline).queue) :
    entry.frame = st.relayed frame header := by
  obtain ⟨kept, hkept, hqueue⟩ := FromRadio.toList_queueRebroadcast st.queue
    { frame := st.relayed frame header, deadline := deadline }
  have hmem := mem_of_mem_written hkept (List.Perm.of_eq hqueue) h
  rw [List.mem_singleton.mp hmem]

theorem frame_of_mem_written_upgrade {st : RelayState} {frame : RadioFrame}
    {header : PacketHeader} {entry : PendingRebroadcast}
    (h : entry ∈ written st.queue (st.upgrade frame header).queue) :
    entry.frame = st.relayed frame header := by
  rcases st.upgrade_cases frame header with hsame | ⟨old, kept, -, hbefore, hafter⟩
  · rw [hsame, written_eq_nil_of_subperm (List.Subperm.refl _)] at h
    cases h
  · have hkept : kept.Subperm st.queue.toList :=
      ((List.sublist_cons_self old kept).subperm).trans hbefore.symm.subperm
    have hmem := mem_of_mem_written hkept (hafter.trans (List.perm_append_singleton _ _).symm) h
    rw [List.mem_singleton.mp hmem]

theorem of_mem_written_hear {st : RelayState} {frame : RadioFrame} {header : PacketHeader}
    {role : DeviceRole} {deadline : Option Nat} {entry : PendingRebroadcast}
    (hdeadline : deadline.isSome → header.hopLimit ≠ 0)
    (h : entry ∈ written st.queue (st.hear frame header role deadline).queue) :
    entry.frame = st.relayed frame header ∧ header.hopLimit ≠ 0 := by
  cases hfilter : st.filter header role with
  | mk verdict router =>
      cases verdict with
      | new =>
          rw [hear_of_new hfilter] at h
          cases deadline with
          | some deadline =>
              have hframe : entry.frame = { st with router := router }.relayed frame header :=
                frame_of_mem_written_schedule h
              exact ⟨hframe, hdeadline rfl⟩
          | none =>
              rw [written_eq_nil_of_subperm (List.Subperm.refl _)] at h
              cases h
      | duplicateUpgrade newHop =>
          rw [hear_of_upgrade hfilter] at h
          have hframe : entry.frame = { st with router := router }.relayed frame header :=
            frame_of_mem_written_upgrade h
          exact ⟨hframe, hopLimit_ne_zero_of_upgrade hfilter⟩
      | duplicateCancelRelay =>
          rw [hear_of_cancel hfilter] at h
          have hsub : ({ st with router := router }.cancel header).queue.toList.Subperm
              st.queue.toList := List.filter_sublist.subperm
          rw [written_eq_nil_of_subperm hsub] at h
          cases h
      | duplicateDrop =>
          rw [hear_of_drop hfilter, written_eq_nil_of_subperm (List.Subperm.refl _)] at h
          cases h

theorem frame_of_mem_written_hearBlind {st : RelayState} {frame : RadioFrame}
    {header : PacketHeader} {deadline : Nat} {entry : PendingRebroadcast}
    (h : entry ∈ written st.queue (st.hearBlind frame header deadline).queue) :
    entry.frame = st.relayed frame header := by
  unfold hearBlind at h
  generalize st.router.shouldRelayOpaque _ _ _ _ = seen at h
  obtain ⟨relay, router⟩ := seen
  cases relay with
  | true =>
      have hframe : entry.frame = { st with router := router }.relayed frame header :=
        frame_of_mem_written_schedule h
      exact hframe
  | false =>
      dsimp only at h
      rw [if_neg (by simp), written_eq_nil_of_subperm (List.Subperm.refl _)] at h
      cases h

theorem relayed_of_mem_written_step {st : RelayState} {input : RelayInput}
    {frame : RadioFrame} {entry : PendingRebroadcast} (hframe : input.frame = some frame)
    (hadmissible : input.Admissible st.nodeNum)
    (h : entry ∈ written st.queue (st.step input).queue) :
    ∃ header, frame.header = some header ∧ header.sender ≠ st.nodeNum ∧
      header.hopLimit ≠ 0 ∧ entry.frame = st.relayed frame header := by
  cases input with
  | heard frame' header role deadline =>
      obtain rfl := Option.some.inj hframe
      obtain ⟨hheader, hsender, hdeadline⟩ := hadmissible
      obtain ⟨hentry, hhop⟩ := of_mem_written_hear hdeadline h
      exact ⟨header, hheader, hsender, hhop, hentry⟩
  | blind frame' header deadline =>
      obtain rfl := Option.some.inj hframe
      obtain ⟨hheader, hsender, hhop⟩ := hadmissible
      exact ⟨header, hheader, hsender, hhop, frame_of_mem_written_hearBlind h⟩
  | due now => cases hframe
  | reset nodeNum => cases hframe

theorem isRelayOf_of_mem_written_step {st : RelayState} {input : RelayInput}
    {frame : RadioFrame} {entry : PendingRebroadcast} (hframe : input.frame = some frame)
    (hadmissible : input.Admissible st.nodeNum)
    (h : entry ∈ written st.queue (st.step input).queue) :
    RadioFrame.IsRelayOf st.nodeNum frame entry.frame := by
  obtain ⟨header, hheader, hsender, hhop, hentry⟩ :=
    relayed_of_mem_written_step hframe hadmissible h
  rw [hentry]
  exact st.isRelayOf_relayed hheader hsender hhop

theorem queue_fire_subperm (st : RelayState) (now : Nat) :
    (st.fire now).queue.toList.Subperm st.queue.toList := by
  unfold fire
  cases hdue : st.nextDue now with
  | none => exact List.Subperm.refl _
  | some due =>
      obtain ⟨i, pending⟩ := due
      have hi := List.getElem?_eq_some_iff.mp (getElem?_of_nextDue hdue)
      have hperm := st.queue.perm_swapRemove i hi.1
      exact ((List.sublist_cons_self _ _).subperm).trans hperm.symm.subperm

theorem written_step_of_frame {st : RelayState} {input : RelayInput}
    (h : input.frame = none) : written st.queue (st.step input).queue = [] := by
  apply written_eq_nil_of_subperm
  cases input with
  | heard frame header role deadline => cases h
  | blind frame header deadline => cases h
  | due now => exact st.queue_fire_subperm now
  | reset nodeNum => exact List.nil_subperm

end RelayState

/-! ## What a reception writes -/

variable {S : Type} [MeshStorage S] {env : Env}

theorem relayed_of_mem_written {ctx : MeshCtx S} {frame : RadioFrame}
    {metadata : RadioMetadata} {entry : PendingRebroadcast}
    (h : entry ∈ written ctx.pendingRebroadcast
      (FromRadio.dispatch env ctx frame metadata).pendingRebroadcast) :
    ∃ header, frame.header = some header ∧ header.sender ≠ ctx.device.myNodeNum ∧
      header.hopLimit ≠ 0 ∧ entry.frame = ctx.relayState.relayed frame header := by
  have hqueue : (FromRadio.dispatch env ctx frame metadata).pendingRebroadcast =
      (FromRadio.dispatch env ctx frame metadata).relayState.queue := rfl
  rw [hqueue, FromRadio.relayState_dispatch] at h
  cases hinput : FromRadio.relayInput env ctx frame metadata with
  | none =>
      rw [hinput] at h
      have hnothing : written ctx.pendingRebroadcast ctx.relayState.queue = [] :=
        written_eq_nil_of_subperm (List.Subperm.refl _)
      dsimp only at h
      rw [hnothing] at h
      cases h
  | some input =>
      rw [hinput] at h
      exact RelayState.relayed_of_mem_written_step (FromRadio.frame_of_relayInput hinput)
        (FromRadio.admissible_relayInput hinput) h

theorem isRelayOf_of_mem_written {ctx : MeshCtx S} {frame : RadioFrame}
    {metadata : RadioMetadata} {entry : PendingRebroadcast}
    (h : entry ∈ written ctx.pendingRebroadcast
      (FromRadio.dispatch env ctx frame metadata).pendingRebroadcast) :
    RadioFrame.IsRelayOf ctx.device.myNodeNum frame entry.frame := by
  obtain ⟨header, hheader, hsender, hhop, hentry⟩ := relayed_of_mem_written h
  rw [hentry]
  exact ctx.relayState.isRelayOf_relayed hheader hsender hhop

/-! ## What a step queues -/

theorem mem_pendingRebroadcast_step {state : MeshState S} {event : MeshState.Event}
    {entry : PendingRebroadcast}
    (h : entry ∈ (MeshState.step env state event).ctx.pendingRebroadcast.toList) :
    entry ∈ state.ctx.pendingRebroadcast.toList ∨
    ∃ frame metadata, event = .mesh (.loraRx frame metadata) ∧
      RadioFrame.IsRelayOf state.ctx.device.myNodeNum frame entry.frame := by
  cases hrestart : MeshState.restarts env state event with
  | true =>
      obtain ⟨housed, -, hreboot⟩ := MeshState.step_of_restarts hrestart
      rw [hreboot] at h
      cases h
  | false =>
      have hqueue : (MeshState.step env state event).ctx.pendingRebroadcast =
          ((MeshState.workInput env state event).toList.foldl RelayState.step
            state.ctx.relayState).queue := by
        rw [← MeshState.relayState_handled,
          ← (MeshState.step_of_not_restarts hrestart).relayState_eq]
        rfl
      rw [hqueue] at h
      cases hinput : MeshState.workInput env state event with
      | none =>
          rw [hinput] at h
          exact Or.inl h
      | some input =>
          rw [hinput] at h
          have hstep : entry ∈ state.ctx.relayState.queue.toList ∨
              entry ∈ written state.ctx.relayState.queue
                (state.ctx.relayState.step input).queue := mem_or_mem_written h
          rcases hstep with hbefore | hwritten
          · exact Or.inl hbefore
          rcases MeshState.workInput_eq_some hinput with
            ⟨frame, metadata, hevent, hframe, hadmissible⟩ | ⟨-, rfl⟩
          · exact Or.inr ⟨frame, metadata, hevent,
              RelayState.isRelayOf_of_mem_written_step hframe hadmissible hwritten⟩
          · rw [RelayState.written_step_of_frame rfl] at hwritten
            cases hwritten

/-! ## Chains of relays -/

theorem fewerHops_of_relayedAs {frame relay : RadioFrame} (h : RelayedAs frame relay) :
    FewerHops frame relay := by
  obtain ⟨S, _, env, ctx, metadata, entry, hentry, rfl⟩ := h
  have hhops := (isRelayOf_of_mem_written hentry).hopsLeft_eq
  unfold FewerHops
  omega

theorem length_le_of_isChain {frame : RadioFrame} {relays : List RadioFrame}
    (h : (frame :: relays).IsChain RelayedAs) : relays.length ≤ frame.hopsLeft := by
  induction relays generalizing frame with
  | nil => exact Nat.zero_le _
  | cons relay relays ih =>
      obtain ⟨hrelay, hrest⟩ := List.isChain_cons_cons.mp h
      calc (relay :: relays).length = relays.length + 1 := List.length_cons
        _ ≤ relay.hopsLeft + 1 := Nat.succ_le_succ (ih hrest)
        _ ≤ frame.hopsLeft := fewerHops_of_relayedAs hrelay

/-- A node writes only relays of the frame it hears, and along any chain of relays the
hops left decrease down to an end. -/
theorem relays_dispatch :
    (∀ (ctx : MeshCtx S) (frame : RadioFrame) (metadata : RadioMetadata),
      ∀ entry ∈ written ctx.pendingRebroadcast
        (FromRadio.dispatch env ctx frame metadata).pendingRebroadcast,
        RadioFrame.IsRelayOf ctx.device.myNodeNum frame entry.frame) ∧
    ∀ (frame : RadioFrame) (relays : List RadioFrame), (frame :: relays).IsChain RelayedAs →
      (frame :: relays).Pairwise FewerHops ∧ relays.length ≤ frame.hopsLeft ∧
        frame.hopsLeft < 8 := by
  constructor
  · intro ctx frame metadata entry hentry
    exact isRelayOf_of_mem_written hentry
  · intro frame relays hchain
    have hfewer : (frame :: relays).IsChain FewerHops :=
      hchain.imp fun _ _ => fewerHops_of_relayedAs
    exact ⟨List.isChain_iff_pairwise.mp hfewer, length_le_of_isChain hchain, frame.hopsLeft_lt⟩

/-- A broadcast of node `0x11223344` under a channel hash that is none of ours, which does
not decode. -/
def foreignFrame : RadioFrame where
  bytes :=
    [0xff, 0xff, 0xff, 0xff, 0x44, 0x33, 0x22, 0x11, 0x09, 0x00, 0x00, 0x00, 0x63, 0x99, 0x00,
     0x44, 0x2a]
  length_le := by decide

/-- The broadcast with one hop less and the relay byte of node `0x28123456`. -/
def foreignRelay : RadioFrame where
  bytes :=
    [0xff, 0xff, 0xff, 0xff, 0x44, 0x33, 0x22, 0x11, 0x09, 0x00, 0x00, 0x00, 0x62, 0x99, 0x00,
     0x56, 0x2a]
  length_le := by decide

/-- A booted node that has not heard anything. -/
def quietCtx : MeshCtx FakeStorage :=
  (MeshState.after KnownAnswers.defaultKey.env KnownAnswers.mac {} KnownAnswers.noKeypair
    KnownAnswers.noEntropy [.announce]).ctx

theorem foreignFrame_relayed :
    RadioFrame.IsRelayOf 0x28123456 foreignFrame foreignRelay ∧
      [foreignFrame, foreignRelay].Pairwise FewerHops := by
  obtain ⟨entry, hentry, hframe⟩ : ∃ entry ∈ written quietCtx.pendingRebroadcast
      (FromRadio.dispatch KnownAnswers.defaultKey.env quietCtx foreignFrame
        ⟨0, 0⟩).pendingRebroadcast, entry.frame = foreignRelay := by
    decide
  have hrelays := @relays_dispatch FakeStorage _ KnownAnswers.defaultKey.env
  constructor
  · have hnum : quietCtx.device.myNodeNum = 0x28123456 := by decide
    rw [← hnum, ← hframe]
    exact hrelays.1 quietCtx foreignFrame ⟨0, 0⟩ entry hentry
  · have hrelayed : RelayedAs foreignFrame foreignRelay :=
      ⟨FakeStorage, inferInstance, _, quietCtx, ⟨0, 0⟩, entry, hentry, hframe⟩
    exact (hrelays.2 foreignFrame [foreignRelay] (List.IsChain.cons_cons hrelayed (.singleton _))).1

end Meshtastenstein
