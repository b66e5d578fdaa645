import Meshtastenstein.Acknowledgements
import Meshtastenstein.AuthGate
import Meshtastenstein.DirectedRelay
/-!
# Relays by the destination

A packet for us alone is passed on like any other: its first copy when our role relays and
it has a hop left, and a better copy of what is queued.
-/

namespace Meshtastenstein

open Lib Proto Handlers

theorem mem_written_of_count_lt {before after : Bounded PendingRebroadcast 8}
    {entry : PendingRebroadcast} (h : before.toList.count entry < after.toList.count entry) :
    entry ∈ written before after := by
  apply List.count_pos_iff.mp
  unfold written
  rw [List.count_diff]
  omega

namespace RelayState

/-! ## What a packet makes of the queue -/

variable {st : RelayState} {frame : RadioFrame} {header : PacketHeader} {role : DeviceRole}

theorem verdict_of_unknown (h : st.router.findRecord header.sender header.packetId = none)
    (role : DeviceRole) : (st.filter header role).1 = .new := by
  unfold filter MeshRouter.shouldFilterReceived
  rw [h]

theorem verdict_of_known {idx : Nat}
    (h : st.router.findRecord header.sender header.packetId = some idx) :
    (((st.queue.toList.find? (FromRadio.isRebroadcastOf header)).bind fun p =>
        p.frame.header.map (·.hopLimit)).any (· < header.hopLimit) = true ∧
      (st.filter header role).1 = .duplicateUpgrade (header.hopLimit - 1)) ∨
    (st.filter header role).1 = .duplicateCancelRelay ∨
    (st.filter header role).1 = .duplicateDrop := by
  unfold filter
  rw [MeshRouter.shouldFilterReceived_of_find h]
  split
  · rename_i hbetter
    exact Or.inl ⟨hbetter, rfl⟩
  · split
    · exact Or.inr (Or.inl rfl)
    · exact Or.inr (Or.inr rfl)

/-- A better copy takes the place of the first queued relay of its packet. -/
theorem perm_upgrade {old : PendingRebroadcast}
    (h : st.queue.toList.find? (FromRadio.isRebroadcastOf header) = some old) :
    ∃ kept, st.queue.toList.Perm (old :: kept) ∧
      (st.upgrade frame header).queue.toList.Perm
        ({ old with frame := st.relayed frame header } :: kept) := by
  rw [List.find?_eq_bind_findIdx?_getElem?] at h
  obtain ⟨i, hfind, hentry⟩ := Option.bind_eq_some_iff.mp h
  obtain ⟨hi, rfl⟩ := List.getElem?_eq_some_iff.mp hentry
  refine ⟨st.queue.toList.eraseIdx i, (List.getElem_cons_eraseIdx_perm hi).symm, ?_⟩
  unfold upgrade
  rw [hfind]
  dsimp only
  rw [List.modify_eq_set_get _ hi]
  exact List.set_perm_cons_eraseIdx hi _

/-- Hearing a packet writes nothing when no first copy is scheduled and a better copy is what
is queued. -/
theorem written_hear_eq_nil {deadline : Option Nat}
    (hnew : st.router.findRecord header.sender header.packetId = none → deadline = none)
    (hbetter : ∀ old, st.queue.toList.find? (FromRadio.isRebroadcastOf header) = some old →
      (old.frame.header.map (·.hopLimit)).any (· < header.hopLimit) = true →
      st.router.findRecord header.sender header.packetId ≠ none →
      old.frame = st.relayed frame header) :
    written st.queue (st.hear frame header role deadline).queue = [] := by
  apply written_eq_nil_of_subperm
  cases hfilter : st.filter header role with
  | mk verdict router =>
      have hverdict : (st.filter header role).1 = verdict := by rw [hfilter]
      cases hfind : st.router.findRecord header.sender header.packetId with
      | none =>
          rw [verdict_of_unknown hfind] at hverdict
          subst hverdict
          rw [hear_of_new hfilter, hnew hfind]
      | some idx =>
          have hknown : st.router.findRecord header.sender header.packetId ≠ none := by
            rw [hfind]
            exact Option.some_ne_none idx
          rcases @verdict_of_known st header role idx hfind with ⟨hless, hup⟩ | hcancel | hdrop
          · rw [hup] at hverdict
            subst hverdict
            rw [hear_of_upgrade hfilter]
            cases hold : st.queue.toList.find? (FromRadio.isRebroadcastOf header) with
            | none =>
                rw [hold] at hless
                cases hless
            | some old =>
                rw [hold] at hless
                have hsame : old.frame = st.relayed frame header :=
                  hbetter old hold hless hknown
                obtain ⟨kept, hbefore, hafter⟩ :=
                  @perm_upgrade { st with router := router } frame header old hold
                refine (hafter.trans ?_).subperm
                have hold' : { old with frame := st.relayed frame header } = old := by
                  rw [← hsame]
                exact (List.Perm.of_eq (congrArg (· :: kept) hold')).trans hbefore.symm
          · rw [hcancel] at hverdict
            subst hverdict
            rw [hear_of_cancel hfilter]
            exact List.filter_sublist.subperm
          · rw [hdrop] at hverdict
            subst hverdict
            rw [hear_of_drop hfilter]

/-- A scheduled first copy is in the queue, and new to it while there is room. -/
theorem mem_hear_of_unknown {deadline : Nat}
    (hfind : st.router.findRecord header.sender header.packetId = none) :
    ∃ entry ∈ (st.hear frame header role (some deadline)).queue.toList,
      entry.frame = st.relayed frame header ∧
      (st.queue.length < 8 →
        entry ∈ written st.queue (st.hear frame header role (some deadline)).queue) := by
  cases hfilter : st.filter header role with
  | mk verdict router =>
      have hverdict : (st.filter header role).1 = verdict := by rw [hfilter]
      rw [verdict_of_unknown hfind] at hverdict
      subst hverdict
      rw [hear_of_new hfilter]
      dsimp only
      let entry : PendingRebroadcast :=
        { frame := st.relayed frame header, deadline := deadline }
      have hqueue : ({ st with router := router }.schedule frame header deadline).queue =
          FromRadio.queueRebroadcast st.queue entry := rfl
      rw [hqueue]
      refine ⟨entry, ?_, rfl, ?_⟩
      · obtain ⟨kept, -, hafter⟩ := FromRadio.toList_queueRebroadcast st.queue entry
        rw [hafter]
        exact List.mem_append_right kept (List.mem_singleton_self entry)
      · intro hroom
        apply mem_written_of_count_lt
        rw [FromRadio.toList_queueRebroadcast_of_lt hroom, List.count_append,
          List.count_singleton_self]
        exact Nat.lt_succ_self _

theorem mem_hear_of_known {idx : Nat} {old : PendingRebroadcast} {deadline : Option Nat}
    (hfind : st.router.findRecord header.sender header.packetId = some idx)
    (hold : st.queue.toList.find? (FromRadio.isRebroadcastOf header) = some old)
    (hless : (old.frame.header.map (·.hopLimit)).any (· < header.hopLimit) = true)
    (hframe : old.frame ≠ st.relayed frame header) :
    ∃ entry ∈ (st.hear frame header role deadline).queue.toList,
      entry.frame = st.relayed frame header ∧
      entry ∈ written st.queue (st.hear frame header role deadline).queue := by
  cases hfilter : st.filter header role with
  | mk verdict router =>
      have hverdict : verdict = .duplicateUpgrade (header.hopLimit - 1) := by
        have hup : (st.filter header role).1 = .duplicateUpgrade (header.hopLimit - 1) := by
          unfold filter
          rw [MeshRouter.shouldFilterReceived_of_find hfind, hold, Option.bind_some, if_pos hless]
        rwa [hfilter] at hup
      subst hverdict
      rw [hear_of_upgrade hfilter]
      obtain ⟨kept, hbefore, hafter⟩ :=
        @perm_upgrade { st with router := router } frame header old hold
      let entry : PendingRebroadcast := { old with frame := st.relayed frame header }
      refine ⟨entry, hafter.mem_iff.mpr List.mem_cons_self, rfl, mem_written_of_count_lt ?_⟩
      have hne : old ≠ entry := fun hsame => hframe (congrArg PendingRebroadcast.frame hsame)
      rw [hafter.count_eq, hbefore.count_eq, List.count_cons_of_ne hne]
      exact Nat.lt_of_lt_of_eq (Nat.lt_succ_self _) List.count_cons_self.symm

end RelayState

namespace Handlers.FromRadio

variable {S : Type} {env : Env}

/-! ## Packets for us -/

structure ReachesUs (env : Env) (ctx : MeshCtx S) (frame : RadioFrame) (header : PacketHeader)
    (decoded : DecodedPayload) : Prop where
  header_eq : frame.header = some header
  destination_eq : header.destination = ctx.device.myNodeNum
  decodes : tryDecryptAndDecode env frame header ctx.device ctx.nodeDb ctx.pkcPrivBytes =
    .decoded decoded

def relayOf (ctx : MeshCtx S) (frame : RadioFrame) (header : PacketHeader) : RadioFrame :=
  frame.withRewrittenHeader (header.hopLimit - 1) (lastByte ctx.device.myNodeNum)

/-- A packet of another node is passed on: its first copy, by a role that relays and with a hop
left, or a better copy in place of the queued one. -/
inductive PassedOn [MeshStorage S] (env : Env) (ctx : MeshCtx S) (frame : RadioFrame)
    (header : PacketHeader) (decoded : DecodedPayload) : Prop
  | first (hsender : header.sender ≠ ctx.device.myNodeNum)
      (hnew : ctx.router.findRecord header.sender header.packetId = none)
      (hrole : shouldRebroadcastForRole (administered env ctx header decoded).role = true)
      (hhop : header.hopLimit ≠ 0)
  | better (hsender : header.sender ≠ ctx.device.myNodeNum)
      (hknown : ctx.router.findRecord header.sender header.packetId ≠ none)
      (queued : PendingRebroadcast)
      (hqueued : ctx.pendingRebroadcast.toList.find? (isRebroadcastOf header) = some queued)
      (hbetter : (queued.frame.header.map (·.hopLimit)).any (· < header.hopLimit) = true)
      (hframe : queued.frame ≠ relayOf ctx frame header)

theorem relayDeadline_isSome_iff {ctx : MeshCtx S} {header : PacketHeader}
    (metadata : RadioMetadata) (hdest : header.destination = ctx.router.ourNodeNum)
    (hsender : header.sender ≠ ctx.router.ourNodeNum) :
    (relayDeadline env ctx header metadata).isSome ↔
      shouldRebroadcastForRole ctx.device.role = true ∧ header.hopLimit ≠ 0 := by
  have hdirected : ctx.router.shouldRelayDirected header.destination header.nextHop = true :=
    if_pos hdest
  have hhop : (ctx.router.shouldRebroadcast header.hopLimit header.sender).isSome ↔
      header.hopLimit ≠ 0 := by
    unfold MeshRouter.shouldRebroadcast
    rw [if_neg hsender]
    split
    · exact iff_of_false Bool.false_ne_true (fun h => h ‹_›)
    · exact iff_of_true rfl ‹_›
  unfold relayDeadline
  rw [hdirected]
  split
  · rename_i h
    exact iff_of_true rfl ⟨h.1, hhop.mp h.2.1⟩
  · rename_i h
    exact iff_of_false Bool.false_ne_true fun h' => h ⟨h'.1, hhop.mpr h'.2, Or.inr rfl⟩

variable [MeshStorage S]

theorem queue_dispatch {ctx : MeshCtx S} {frame : RadioFrame} {header : PacketHeader}
    {decoded : DecodedPayload} (h : ReachesUs env ctx frame header decoded)
    (hknows : ctx.relayState.KnowsNode) (metadata : RadioMetadata)
    (hsender : header.sender ≠ ctx.device.myNodeNum) :
    ∃ deadline : Option Nat,
      (deadline.isSome ↔
        shouldRebroadcastForRole (administered env ctx header decoded).role = true ∧
          header.hopLimit ≠ 0) ∧
      (dispatch env ctx frame metadata).pendingRebroadcast =
        (ctx.relayState.hear frame header ctx.device.role deadline).queue := by
  refine ⟨relayDeadline env (processed env ctx frame header metadata decoded) header metadata, ?_,
    ?_⟩
  · have hbefore : (processed env ctx frame header metadata decoded).relayState =
        (filtered ctx header).relayState :=
      relayState_beforeRelay (filtered ctx header) frame header metadata decoded
    have hours : (processed env ctx frame header metadata decoded).router.ourNodeNum =
        ctx.device.myNodeNum := by
      have hrouter := MeshRouter.ourNodeNum_shouldFilterReceived ctx.router header.sender
        header.packetId header.hopLimit header.relayNode (pendingHopLimit ctx header)
        ctx.device.role
      exact (congrArg (·.router.ourNodeNum) hbefore).trans (hrouter.trans hknows)
    have hrole : (processed env ctx frame header metadata decoded).device.role =
        (administered env ctx header decoded).role := by
      have hacked : (processed env ctx frame header metadata decoded).device.settings =
          (beforeAck env (filtered ctx header) frame header metadata decoded).device.settings :=
        congrArg (fun resident => resident.core.settings)
          (resident_ackInbound
            (beforeAck env (filtered ctx header) frame header metadata decoded) header decoded)
      have hsettings := hacked.trans
        (@settings_beforeAck S env _ ctx (filtered ctx header) rfl frame header metadata decoded
          h.destination_eq)
      have hsame := congrArg DeviceState.role hsettings
      exact hsame
    rw [relayDeadline_isSome_iff metadata (h.destination_eq.trans hours.symm)
      (by rwa [hours]), hrole]
  · have hinput : relayInput env ctx frame metadata =
        some (.heard frame header ctx.device.role
          (relayDeadline env (processed env ctx frame header metadata decoded) header
            metadata)) := by
      unfold relayInput
      rw [h.header_eq]
      dsimp only
      rw [if_neg hsender, h.decodes]
    have hdispatch := @relayState_dispatch S env _ ctx frame metadata
    rw [hinput] at hdispatch
    exact congrArg RelayState.queue hdispatch

theorem written_of_not_passedOn {ctx : MeshCtx S} {frame : RadioFrame} {header : PacketHeader}
    {decoded : DecodedPayload} (h : ReachesUs env ctx frame header decoded)
    (hknows : ctx.relayState.KnowsNode) (metadata : RadioMetadata)
    (hkept : ¬ PassedOn env ctx frame header decoded) :
    written ctx.pendingRebroadcast (dispatch env ctx frame metadata).pendingRebroadcast = [] := by
  by_cases hsender : header.sender = ctx.device.myNodeNum
  · have hqueue : (dispatch env ctx frame metadata).pendingRebroadcast =
        ctx.pendingRebroadcast := by
      unfold dispatch
      rw [h.header_eq]
      dsimp only
      rw [if_pos hsender]
      exact congrArg (fun resident => resident.core.pendingRebroadcast)
        (resident_hearOwnPacket ctx header)
    rw [hqueue]
    exact written_eq_nil_of_subperm (List.Subperm.refl _)
  · obtain ⟨deadline, hdeadline, hqueue⟩ := queue_dispatch h hknows metadata hsender
    rw [hqueue]
    apply RelayState.written_hear_eq_nil
    · intro hnew
      rw [← Option.not_isSome_iff_eq_none, hdeadline]
      rintro ⟨hrole, hhop⟩
      exact hkept (.first hsender hnew hrole hhop)
    · intro old hold hless hknown
      by_contra hframe
      exact hkept (.better hsender hknown old hold hless hframe)

theorem mem_of_passedOn {ctx : MeshCtx S} {frame : RadioFrame} {header : PacketHeader}
    {decoded : DecodedPayload} (h : ReachesUs env ctx frame header decoded)
    (hknows : ctx.relayState.KnowsNode) (metadata : RadioMetadata)
    (hpassed : PassedOn env ctx frame header decoded) :
    ∃ entry ∈ (dispatch env ctx frame metadata).pendingRebroadcast.toList,
      entry.frame = relayOf ctx frame header ∧
      (ctx.pendingRebroadcast.length < 8 → entry ∈ written ctx.pendingRebroadcast
        (dispatch env ctx frame metadata).pendingRebroadcast) := by
  cases hpassed with
  | first hsender hnew hrole hhop =>
      obtain ⟨deadline, hdeadline, hqueue⟩ := queue_dispatch h hknows metadata hsender
      obtain ⟨due, rfl⟩ := Option.isSome_iff_exists.mp (hdeadline.mpr ⟨hrole, hhop⟩)
      rw [hqueue]
      exact RelayState.mem_hear_of_unknown hnew
  | better hsender hknown queued hqueued hbetter hframe =>
      obtain ⟨deadline, -, hqueue⟩ := queue_dispatch h hknows metadata hsender
      obtain ⟨idx, hfind⟩ := Option.ne_none_iff_exists'.mp hknown
      rw [hqueue]
      obtain ⟨entry, hentry, hrelayed, hwritten⟩ :=
        @RelayState.mem_hear_of_known ctx.relayState frame header ctx.device.role idx queued
          deadline hfind hqueued hbetter hframe
      exact ⟨entry, hentry, hrelayed, fun _ => hwritten⟩

/-- In every reachable state, a packet for us alone leaves nothing new in the queue unless it is
passed on, and then it is there. -/
theorem destination_relays_iff (mac : Bytes) (storage : S) (pkcKeypair : Key × Key)
    (entropy : Nat → UInt32) (events : List MeshState.Event) (frame : RadioFrame)
    (metadata : RadioMetadata) (header : PacketHeader) (decoded : DecodedPayload) :
    let ctx := MeshState.noteActivity
      (MeshState.after env mac storage pkcKeypair entropy events).ctx (.loraRx frame metadata)
    ReachesUs env ctx frame header decoded →
      (¬ PassedOn env ctx frame header decoded →
        written ctx.pendingRebroadcast
          (dispatch env ctx frame metadata).pendingRebroadcast = []) ∧
      (PassedOn env ctx frame header decoded →
        ∃ entry ∈ (dispatch env ctx frame metadata).pendingRebroadcast.toList,
          entry.frame = relayOf ctx frame header ∧
          (ctx.pendingRebroadcast.length < 8 → entry ∈ written ctx.pendingRebroadcast
            (dispatch env ctx frame metadata).pendingRebroadcast)) := by
  intro ctx h
  have hknows : ctx.relayState.KnowsNode :=
    MeshState.knowsNode_after mac storage pkcKeypair entropy events
  exact ⟨written_of_not_passedOn h hknows metadata, mem_of_passedOn h hknows metadata⟩

theorem reachesUs_wantingFrame :
    ReachesUs KnownAnswers.defaultKey.env (wantingCtx [.announce]) wantingFrame wantingHeader
      strangerPayload where
  header_eq := by decide
  destination_eq := by decide
  decodes := by decide

theorem passedOn_wantingFrame :
    PassedOn KnownAnswers.defaultKey.env (wantingCtx [.announce]) wantingFrame wantingHeader
      strangerPayload :=
  .first (by decide) (by decide) (by decide) (by decide)

/-- The context in which the same copy is heard a second time. -/
def wantingAgain : MeshCtx FakeStorage :=
  wantingCtx [.announce, .mesh (.loraRx wantingFrame ⟨0, 0⟩)]

/-- The same copy heard again changes nothing of what is queued. -/
theorem not_passedOn_again :
    ¬ PassedOn KnownAnswers.defaultKey.env
      wantingAgain wantingFrame wantingHeader strangerPayload := by
  intro hpassed
  cases hpassed with
  | first _ hnew _ _ =>
      have hfound : (wantingAgain.router.findRecord wantingHeader.sender
          wantingHeader.packetId).isSome = true := by
        decide
      rw [hnew] at hfound
      cases hfound
  | better _ _ queued hqueued _ hframe =>
      have hsame : (wantingAgain.pendingRebroadcast.toList.find?
          (isRebroadcastOf wantingHeader)).map (·.frame) =
            some (relayOf wantingAgain wantingFrame wantingHeader) := by
        decide
      rw [hqueued] at hsame
      exact hframe (Option.some.inj hsame)

/-- The first copy is passed on; the second leaves the queue as it is. -/
theorem wantingFrame_relayed :
    (∃ entry ∈ (dispatch KnownAnswers.defaultKey.env (wantingCtx [.announce]) wantingFrame
        ⟨0, 0⟩).pendingRebroadcast.toList,
      entry.frame = relayOf (wantingCtx [.announce]) wantingFrame wantingHeader ∧
      ((wantingCtx [.announce]).pendingRebroadcast.length < 8 →
        entry ∈ written (wantingCtx [.announce]).pendingRebroadcast
          (dispatch KnownAnswers.defaultKey.env (wantingCtx [.announce]) wantingFrame
            ⟨0, 0⟩).pendingRebroadcast)) ∧
    written wantingAgain.pendingRebroadcast
      (dispatch KnownAnswers.defaultKey.env wantingAgain wantingFrame
        ⟨0, 0⟩).pendingRebroadcast = [] := by
  have hfirst := @destination_relays_iff FakeStorage KnownAnswers.defaultKey.env _
    KnownAnswers.mac {} KnownAnswers.noKeypair KnownAnswers.noEntropy [.announce] wantingFrame
    ⟨0, 0⟩ wantingHeader strangerPayload
  have hagain := @destination_relays_iff FakeStorage KnownAnswers.defaultKey.env _
    KnownAnswers.mac {} KnownAnswers.noKeypair KnownAnswers.noEntropy
    [.announce, .mesh (.loraRx wantingFrame ⟨0, 0⟩)] wantingFrame ⟨0, 0⟩ wantingHeader
    strangerPayload
  have hreaches : ReachesUs KnownAnswers.defaultKey.env wantingAgain wantingFrame wantingHeader
      strangerPayload := by
    constructor <;> decide
  exact ⟨(hfirst reachesUs_wantingFrame).2 passedOn_wantingFrame,
    (hagain hreaches).1 not_passedOn_again⟩

/-- The packet is in the rebroadcast queue of its destination. -/
theorem wantingFrame_put_back :
    ReachesUs KnownAnswers.defaultKey.env (wantingCtx [.announce]) wantingFrame wantingHeader
        strangerPayload ∧
      written (wantingCtx [.announce]).pendingRebroadcast
        (dispatch KnownAnswers.defaultKey.env (wantingCtx [.announce]) wantingFrame
          ⟨0, 0⟩).pendingRebroadcast ≠ [] := by
  refine ⟨reachesUs_wantingFrame, ?_⟩
  decide

end Handlers.FromRadio

end Meshtastenstein
