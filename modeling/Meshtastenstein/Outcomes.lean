import Meshtastenstein.Lib.Outcome
import Meshtastenstein.Reports
/-!
# One outcome per packet

The ids of the pending packets are the open requests of the phone, the routing results
queued for it announce how they ended.  As long as the phone uses no id twice, no packet is
tracked twice and none is both delivered and failed.
-/

namespace Meshtastenstein

open Lib Proto Handlers

variable {S : Type} {env : Env}

/-! ## Outcomes -/

def PendingPackets.ids (pending : PendingPackets) : List UInt32 :=
  pending.toList.map (·.packetId)

theorem PendingPackets.ids_eq (pending : PendingPackets) :
    pending.ids = pending.book.map Prod.fst := by
  unfold PendingPackets.ids PendingPackets.book
  rw [List.map_map]
  rfl

/-- The packet a message is about and how it ended, when the message is a routing result. -/
def Proto.FromRadio.Variant.outcome (env : Env) (variant : FromRadio.Variant) :
    Option (UInt32 × RoutingError) :=
  match variant with
  | .packet pkt =>
      match pkt.payloadVariant with
      | some (.decoded data) =>
          if data.portnum = PortNum.routingApp.toI32 ∧ data.requestId ≠ 0 then
            match env.prost.routing.decode data.payload with
            | some { variant := some (.errorReason error) } => some (data.requestId, error)
            | _ => none
          else none
      | _ => none
  | _ => none

/-- The phone is told of these packets only, and that they ended so. -/
def Names (env : Env) (ids : List UInt32) (error : RoutingError) (variant : FromRadio.Variant) :
    Prop :=
  ∀ outcome, variant.outcome env = some outcome → outcome.1 ∈ ids ∧ outcome.2 = error

def outcomesSince (env : Env) (before after : MeshCtx S) : List (UInt32 × RoutingError) :=
  (after.txToBle.drop before.txToBle.length).filterMap fun msg => msg.variant.outcome env

theorem Tells.outcome {ids : List UInt32} {error : RoutingError} {ctx ctx' : MeshCtx S}
    (h : Tells (Names env ids error) ctx ctx') :
    ∀ outcome ∈ outcomesSince env ctx ctx', outcome.1 ∈ ids ∧ outcome.2 = error := by
  intro outcome houtcome
  obtain ⟨msg, hmsg, hnames⟩ := List.mem_filterMap.mp houtcome
  exact h.mem hmsg outcome hnames

theorem outcome_eq_none_of_isQuiet {variant : FromRadio.Variant} (h : variant.IsQuiet) :
    variant.outcome env = none := by
  cases variant with
  | packet packet =>
      unfold FromRadio.Variant.outcome
      dsimp only
      split
      · rename_i data hdata
        rw [if_neg]
        rintro ⟨hportnum, hrequest⟩
        have hreports := h packet.toNode data.requestId hrequest
        unfold FromRadio.Variant.reports at hreports
        dsimp only at hreports
        rw [hdata] at hreports
        simp [hportnum] at hreports
      · rfl
  | _ => rfl

abbrev MessageProperty := List UInt32 → RoutingError → FromRadio.Variant → Prop

structure Covers (env : Env) (P : MessageProperty) : Prop where
  mono : ∀ {ids ids' error variant}, P ids error variant → ids ⊆ ids' → P ids' error variant
  quiet : ∀ {ids error} {variant : FromRadio.Variant}, variant.IsQuiet → P ids error variant
  result : ∀ ourNodeNum packetId dest requestId error, P [requestId] error
    (.packet (routingResultPacket env ourNodeNum packetId dest requestId error))

theorem covers_any : Covers env fun _ _ _ => True where
  mono := fun h _ => h
  quiet := fun _ => trivial
  result := fun _ _ _ _ _ => trivial

/-- The codec gives back the errors that are reported. -/
def ReportsErrors (env : Env) : Prop :=
  ∀ error, env.prost.routing.RoundTrips { variant := some (.errorReason error) }

theorem covers_names (hround : ReportsErrors env) : Covers env (Names env) where
  mono := by
    intro ids ids' error variant h hsubset outcome houtcome
    obtain ⟨hid, herror⟩ := h outcome houtcome
    exact ⟨hsubset hid, herror⟩
  quiet := by
    intro ids error variant hquiet outcome houtcome
    rw [outcome_eq_none_of_isQuiet hquiet] at houtcome
    cases houtcome
  result := by
    intro ourNodeNum packetId dest requestId error outcome houtcome
    have hdecode := hround error
    unfold Codec.RoundTrips at hdecode
    unfold FromRadio.Variant.outcome routingResultPacket at houtcome
    dsimp only at houtcome
    rw [hdecode] at houtcome
    split at houtcome
    · cases houtcome
      exact ⟨List.mem_singleton_self _, rfl⟩
    · cases houtcome

variable {P : MessageProperty}

theorem Covers.tells (hP : Covers env P) {n : Nat} {ctx ctx' : MeshCtx S}
    (h : Quiet n ctx ctx') (ids : List UInt32) (error : RoutingError) :
    Tells (P ids error) ctx ctx' :=
  (show Tells FromRadio.Variant.IsQuiet ctx ctx' from h.tells).mono fun _ => hP.quiet

theorem tells_sendBleRoutingResult (hP : Covers env P) (ctx : MeshCtx S)
    (dest requestId : UInt32) (error : RoutingError) :
    Tells (P [requestId] error) ctx
      (sendBleRoutingResult env ctx dest requestId error) := by
  have hpush : Tells (P [requestId] error) ctx.takePacketId
      (sendBleRoutingResult env ctx dest requestId error) :=
    Tells.push ctx.takePacketId (hP.result _ _ dest requestId error)
  exact hpush

/-! ## Steps that close requests -/

/-- `after` follows from `before` by closing the requests `lost`; whatever is announced is
of these, and the same for all. -/
structure Ends (P : MessageProperty) (lost : List UInt32) (error : RoutingError)
    (before after : MeshCtx S) : Prop where
  perm : before.pendingPackets.ids.Perm (lost ++ after.pendingPackets.ids)
  tells : Tells (P lost error) before after

theorem Ends.consistent {lost : List UInt32} {error : RoutingError} {ctx ctx' : MeshCtx S}
    {announced : List (UInt32 × RoutingError)} (h : Ends (Names env) lost error ctx ctx')
    (hconsistent : Outcome.Consistent ctx.pendingPackets.ids announced) :
    Outcome.Consistent ctx'.pendingPackets.ids (announced ++ outcomesSince env ctx ctx') :=
  hconsistent.close h.perm h.tells.outcome

theorem Ends.of_quiet (hP : Covers env P) {n : Nat} {ctx ctx' : MeshCtx S}
    (h : Quiet n ctx ctx') : Ends P [] .none ctx ctx' := by
  refine ⟨?_, hP.tells h [] .none⟩
  rw [h.pendingPackets_eq]
  exact List.Perm.refl _

theorem Ends.of_eq {ctx ctx' : MeshCtx S}
    (hpending : ctx'.pendingPackets.ids = ctx.pendingPackets.ids)
    (hble : ctx'.txToBle = ctx.txToBle) : Ends P [] .none ctx ctx' :=
  ⟨by rw [hpending]; exact List.Perm.refl _, Tells.of_eq hble⟩

theorem Ends.congr {lost : List UInt32} {error : RoutingError} {ctx base after : MeshCtx S}
    (h : Ends P lost error base after)
    (hids : base.pendingPackets.ids = ctx.pendingPackets.ids) (hble : base.txToBle = ctx.txToBle) :
    Ends P lost error ctx after :=
  ⟨hids ▸ h.perm, (Tells.of_eq hble).trans h.tells⟩

theorem ids_swapRemove {pending : PendingPackets} {i : Nat} {entry : PendingPacket}
    (h : pending.toList[i]? = some entry) :
    pending.ids.Perm ([entry.packetId] ++ PendingPackets.ids (pending.swapRemove i)) :=
  (FromRadio.perm_swapRemove_of_getElem? h).map PendingPacket.packetId

theorem ends_receive [MeshStorage S] (hP : Covers env P) (ctx : MeshCtx S)
    (frame : RadioFrame) (metadata : RadioMetadata) :
    ∃ lost, Ends P lost .none ctx (FromRadio.dispatch env ctx frame metadata) := by
  have hreceived := @FromRadio.received_dispatch S env _ ctx frame metadata
  generalize FromRadio.dispatch env ctx frame metadata = after at hreceived
  cases hreceived with
  | quiet router hquiet =>
      have hends := Ends.of_quiet hP hquiet
      exact ⟨[], hends.perm, hends.tells⟩
  | ownPacket hheader hsender hi =>
      obtain ⟨entry, hentry, -⟩ := FromRadio.position_eq_some hi
      exact ⟨[entry.packetId], ids_swapRemove hentry, Tells.of_eq rfl⟩
  | delivered router hacknowledges hi hentry hbefore hroom hafter =>
      rename_i i entry before
      have hpending : before.pendingPackets = ctx.pendingPackets := hbefore.pendingPackets_eq
      have hdeliver : Tells (P [entry.packetId] .none) before
          (FromRadio.deliver env before i entry) := by
        unfold FromRadio.deliver
        dsimp only
        split
        · exact tells_sendBleRoutingResult hP
            { before with pendingPackets := before.pendingPackets.swapRemove i } _ _ _
        · exact Tells.of_eq rfl
      refine ⟨[entry.packetId], ?_, ?_⟩
      · rw [hafter.pendingPackets_eq, FromRadio.pendingPackets_deliver, hpending]
        exact ids_swapRemove hentry
      · exact ((hP.tells hbefore [entry.packetId] .none).trans hdeliver).trans
          (hP.tells hafter [entry.packetId] .none)

theorem tells_foldl_sendBleRoutingResult (hP : Covers env P) (error : RoutingError)
    {ids : List UInt32} {reports : List (UInt32 × UInt32)}
    (h : ∀ report ∈ reports, report.2 ∈ ids) (ctx : MeshCtx S) :
    let after := reports.foldl (fun ctx report =>
      sendBleRoutingResult env ctx report.1 report.2 error) ctx
    after.pendingPackets = ctx.pendingPackets ∧ Tells (P ids error) ctx after := by
  induction reports generalizing ctx with
  | nil => exact ⟨rfl, Tells.refl ctx⟩
  | cons report reports ih =>
      have hid : [report.2] ⊆ ids := by
        intro id hid
        rw [List.mem_singleton.mp hid]
        exact h report List.mem_cons_self
      have hfirst : Tells (P ids error) ctx
          (sendBleRoutingResult env ctx report.1 report.2 error) :=
        (tells_sendBleRoutingResult hP ctx report.1 report.2 error).mono
          fun _ hreport => hP.mono hreport hid
      obtain ⟨hpending, hrest⟩ := ih (fun r hr => h r (List.mem_cons_of_mem report hr))
        (sendBleRoutingResult env ctx report.1 report.2 error)
      exact ⟨hpending.trans (FromApp.pendingPackets_sendBleRoutingResult ctx _ _ _),
        hfirst.trans hrest⟩

theorem ends_fireRetransmissions (hP : Covers env P) (ctx : MeshCtx S) :
    ∃ lost, Ends P lost .maxRetransmit ctx (MeshState.fireRetransmissions env ctx) := by
  obtain ⟨lost, result, -, hperm, hfire⟩ := @fireRetransmissions_eq S env ctx
  have hnotices : ∀ report ∈ notices lost, report.2 ∈ lost.map Prod.fst := by
    intro report hreport
    obtain ⟨request, hrequest, hnotice⟩ := List.mem_filterMap.mp hreport
    obtain ⟨dest, -, rfl⟩ := Option.map_eq_some_iff.mp hnotice
    exact List.mem_map_of_mem hrequest
  refine ⟨lost.map Prod.fst, ?_⟩
  rw [hfire]
  obtain ⟨hpending, htells⟩ := tells_foldl_sendBleRoutingResult hP .maxRetransmit hnotices
    { ctx with
      pendingPackets := result.pending
      nodeDb := result.nodeDb
      txToLora := ctx.txToLora ++ result.toSend }
  refine ⟨?_, htells⟩
  rw [hpending, PendingPackets.ids_eq, PendingPackets.ids_eq, ← List.map_append]
  exact hperm.map Prod.fst

/-! ## Packets of the phone -/

namespace Handlers.FromApp

/-- A phone packet is tracked, and nothing is announced, or it is not tracked and announced
at most. -/
inductive Sent (P : MessageProperty) (ctx : MeshCtx S) (pkt : MeshPacket)
    (packetId : UInt32) (after : MeshCtx S) : Prop
  | announced (error : RoutingError)
      (hpending : after.pendingPackets = ctx.pendingPackets)
      (htells : Tells (P [pkt.id] error) ctx after)
  | tracked (hids : after.pendingPackets.ids = ctx.pendingPackets.ids ++ [packetId])
      (hble : after.txToBle = ctx.txToBle)

theorem Sent.congr {ctx base after : MeshCtx S} {pkt : MeshPacket} {packetId : UInt32}
    (h : Sent P base pkt packetId after)
    (hpending : base.pendingPackets = ctx.pendingPackets) (hble : base.txToBle = ctx.txToBle) :
    Sent P ctx pkt packetId after := by
  cases h with
  | announced error hsame htells =>
      exact .announced error (hsame.trans hpending) ((Tells.of_eq hble).trans htells)
  | tracked hids hsame =>
      rw [hpending] at hids
      exact .tracked hids (hsame.trans hble)

theorem Sent.andThen {ctx after after' : MeshCtx S} {pkt : MeshPacket} {packetId : UInt32}
    (h : Sent P ctx pkt packetId after)
    (hpending : after'.pendingPackets = after.pendingPackets)
    (hble : after'.txToBle = after.txToBle) : Sent P ctx pkt packetId after' := by
  cases h with
  | announced error hsame htells =>
      exact .announced error (hpending.trans hsame) (htells.trans (Tells.of_eq hble))
  | tracked hids hsame =>
      rw [← hpending] at hids
      exact .tracked hids (hble.trans hsame)

theorem Sent.silent (ctx : MeshCtx S) (pkt : MeshPacket) (packetId : UInt32) :
    Sent P ctx pkt packetId ctx :=
  .announced .none rfl (Tells.refl ctx)

theorem sent_sendBleRoutingResult (hP : Covers env P) (ctx : MeshCtx S)
    (pkt : MeshPacket) (packetId dest : UInt32) (error : RoutingError) :
    Sent P ctx pkt packetId (sendBleRoutingResult env ctx dest pkt.id error) :=
  .announced error (pendingPackets_sendBleRoutingResult ctx dest pkt.id error)
    (tells_sendBleRoutingResult hP ctx dest pkt.id error)

theorem sent_queuePhoneFrame (hP : Covers env P) (ctx : MeshCtx S) (pkt : MeshPacket)
    (data : Data) (packetId : UInt32) (frame : RadioFrame) :
    Sent P ctx pkt packetId (queuePhoneFrame env ctx pkt data packetId frame) := by
  have hconfirmed := @sent_sendBleRoutingResult S env P hP
  unfold queuePhoneFrame sendBleRoutingAck
  split
  · by_cases hspace : ctx.pendingPackets.length < 8
    · rw [Bounded.push_of_lt _ _ hspace]
      refine .tracked ?_ rfl
      change List.map _ (_ ++ [_]) = _
      rw [List.map_append]
      rfl
    · rw [Bounded.push_of_full _ _ hspace]
      have hsent := hconfirmed ctx pkt packetId (ackDest ctx.device pkt) .none
      cases hsent with
      | announced error hpending htells => exact .announced error hpending htells
      | tracked hids hble => exact .tracked hids hble
  · exact (hconfirmed (ctx.sendLora frame) pkt packetId _ .none).congr rfl rfl

theorem sent_buildAndQueue (hP : Covers env P) (ctx : MeshCtx S) (pkt : MeshPacket)
    (data : Data) (packetId : UInt32) (pkcKeys : Option (Key × UInt32)) :
    Sent P ctx pkt packetId (buildAndQueue env ctx pkt data packetId pkcKeys) := by
  unfold buildAndQueue
  split
  · exact sent_queuePhoneFrame hP ctx pkt data packetId _
  · exact Sent.silent ctx pkt packetId

theorem sent_sendPkc (hP : Covers env P) (ctx : MeshCtx S) (pkt : MeshPacket)
    (data : Data) (packetId : UInt32) :
    Sent P ctx pkt packetId (sendPkc env ctx pkt data packetId) := by
  unfold sendPkc
  split
  · exact Sent.silent ctx pkt packetId
  split
  · exact Sent.silent ctx pkt packetId
  split
  · exact sent_sendBleRoutingResult hP ctx pkt packetId pkt.toNode _
  split
  · exact sent_sendBleRoutingResult hP ctx pkt packetId pkt.toNode _
  · exact (sent_buildAndQueue hP ctx.takeRandom pkt data packetId _).congr rfl rfl

theorem sent_sendToMesh (hP : Covers env P) (ctx : MeshCtx S) (pkt : MeshPacket)
    (data : Data) :
    Sent P ctx pkt (packetIdFor ctx.device pkt) (sendToMesh env ctx pkt data) := by
  have hbase : ∀ base : MeshCtx S, base.pendingPackets = ctx.pendingPackets →
      base.txToBle = ctx.txToBle → Sent P ctx pkt (packetIdFor ctx.device pkt)
        (if MAX_CHANNELS ≤ (channelIdx pkt).toNat ∧ wantsPkc pkt = false then base
        else if wantsPkc pkt then
          sendPkc env base pkt data (packetIdFor ctx.device pkt)
        else buildAndQueue env base pkt data (packetIdFor ctx.device pkt) none) := by
    intro base hpending hble
    split
    · exact (Sent.silent base pkt _).congr hpending hble
    split
    · exact (sent_sendPkc hP base pkt data _).congr hpending hble
    · exact (sent_buildAndQueue hP base pkt data _ none).congr hpending hble
  unfold sendToMesh
  apply hbase
  · split <;> rfl
  · split <;> rfl

variable [MeshStorage S]

theorem sent_handleLocalAdmin (hP : Covers env P) (ctx : MeshCtx S) (pkt : MeshPacket)
    (data : Data) (packetId : UInt32) :
    Sent P ctx pkt packetId (handleLocalAdmin env ctx pkt data) := by
  have hadmin := @Admin.quiet_dispatch S env _ ctx pkt.fromNode pkt.id data.payload false
  unfold handleLocalAdmin sendBleRoutingAck
  dsimp only
  split
  · refine .announced .none ?_ ?_
    · rw [pendingPackets_sendBleRoutingResult, hadmin.pendingPackets_eq]
    · exact (hP.tells hadmin [pkt.id] .none).trans (tells_sendBleRoutingResult hP _ _ _ _)
  · exact .announced .none hadmin.pendingPackets_eq (hP.tells hadmin [pkt.id] .none)

theorem sent_transmitDecoded (hP : Covers env P) (ctx : MeshCtx S) (pkt : MeshPacket)
    (data : Data) :
    Sent P ctx pkt (packetIdFor ctx.device pkt) (transmitDecoded env ctx pkt data) := by
  unfold transmitDecoded
  split
  · exact sent_handleLocalAdmin hP ctx pkt data _
  · have hnoted : (notePosition ctx data).device = ctx.device ∧
        (notePosition ctx data).pendingPackets = ctx.pendingPackets ∧
        (notePosition ctx data).txToBle = ctx.txToBle := by
      unfold notePosition
      split <;> exact ⟨rfl, rfl, rfl⟩
    obtain ⟨hdevice, hpending, hble⟩ := hnoted
    rw [← hdevice]
    exact (sent_sendToMesh hP (notePosition ctx data) pkt data).congr hpending hble

end Handlers.FromApp

theorem fst_ne_zero_of_outcome {variant : FromRadio.Variant} {outcome : UInt32 × RoutingError}
    (h : variant.outcome env = some outcome) : outcome.1 ≠ 0 := by
  unfold FromRadio.Variant.outcome at h
  split at h
  · split at h
    · split at h
      · rename_i hanswers
        split at h
        · cases h
          exact hanswers.2
        · cases h
      · cases h
    · cases h
  · cases h

theorem Handlers.FromApp.Sent.consistent {ctx after : MeshCtx S} {pkt : MeshPacket}
    {announced : List (UInt32 × RoutingError)}
    (h : FromApp.Sent (Names env) ctx pkt (FromApp.packetIdFor ctx.device pkt) after)
    (hconsistent : Outcome.Consistent ctx.pendingPackets.ids announced)
    (hunused : Outcome.Unused ctx.pendingPackets.ids announced
      (FromApp.packetIdFor ctx.device pkt)) :
    Outcome.Consistent after.pendingPackets.ids (announced ++ outcomesSince env ctx after) := by
  cases h with
  | announced error hpending htells =>
      rw [hpending]
      apply hconsistent.settle hunused
      intro outcome houtcome
      obtain ⟨hid, herror⟩ := htells.outcome outcome houtcome
      obtain ⟨msg, -, hmsg⟩ := List.mem_filterMap.mp houtcome
      have hne := fst_ne_zero_of_outcome hmsg
      rw [List.mem_singleton] at hid
      have hsame := FromApp.packetIdFor_of_ne_zero ctx.device (hid ▸ hne)
      exact ⟨hid.trans hsame.symm, herror⟩
  | tracked hids hble =>
      have hsilent : outcomesSince env ctx after = [] := by
        unfold outcomesSince
        rw [hble, List.drop_length]
        rfl
      rw [hids, hsilent, List.append_nil]
      exact hconsistent.insert hunused

/-! ## Runs -/

namespace MeshState

variable [MeshStorage S]

def outcomesIn (env : Env) (state : MeshState S) (event : Event) :
    List (UInt32 × RoutingError) :=
  outcomesSince env state.ctx (handled env state event)

/-- What a run announces to the phone. -/
def outcomesOver (env : Env) (state : MeshState S) (events : List Event) :
    List (UInt32 × RoutingError) :=
  Transition.observed (step env) (outcomesIn env) state events

/-- A packet of the phone goes out under an id that is neither pending nor announced. -/
def PicksNewId (env : Env) (state : MeshState S) (announced : List (UInt32 × RoutingError)) :
    Event → Prop
  | .mesh (.bleRx data) =>
      state.started = true → ∀ toRadio pkt content,
        env.prost.toRadio.decode data = some toRadio →
        toRadio.payloadVariant = some (.packet pkt) →
        pkt.payloadVariant = some (.decoded content) →
        Outcome.Unused state.ctx.pendingPackets.ids announced
          (FromApp.packetIdFor state.ctx.device pkt)
  | _ => True

/-- So does every packet of the phone in the run. -/
def PicksNewIds (env : Env) (state : MeshState S) (events : List Event) : Prop :=
  ∀ earlier event later, events = earlier ++ event :: later →
    PicksNewId env (Transition.run (step env) state earlier) (outcomesOver env state earlier)
      event

variable {announced : List (UInt32 × RoutingError)}

/-- How the work of a step ends: requests close, a packet of the phone is taken on, or the
BLE task takes a message. -/
inductive HandledAs (env : Env) (P : MessageProperty) (state : MeshState S) :
    Event → MeshCtx S → Prop
  | ended {event : Event} {after : MeshCtx S} (lost : List UInt32) (error : RoutingError)
      (h : Ends P lost error state.ctx after) : HandledAs env P state event after
  | sent {data : Bytes} {toRadio : ToRadio} {pkt : MeshPacket} {content : Data}
      {after : MeshCtx S} (hstarted : state.started = true)
      (hdecode : env.prost.toRadio.decode data = some toRadio)
      (hpacket : toRadio.payloadVariant = some (.packet pkt))
      (hcontent : pkt.payloadVariant = some (.decoded content))
      (h : FromApp.Sent P state.ctx pkt (FromApp.packetIdFor state.ctx.device pkt) after) :
      HandledAs env P state (.mesh (.bleRx data)) after
  | taken : HandledAs env P state .bleTaken
      { state.ctx with txToBle := state.ctx.txToBle.tail }

theorem handledAs_handled (hP : Covers env P) (state : MeshState S) (event : Event) :
    HandledAs env P state event (handled env state event) := by
  have hsame : ∀ {event : Event} {after : MeshCtx S},
      after.pendingPackets.ids = state.ctx.pendingPackets.ids →
      after.txToBle = state.ctx.txToBle → HandledAs env P state event after :=
    fun hids hble => .ended [] .none (Ends.of_eq hids hble)
  have hwork := @work_handled S _ env state event
  generalize handled env state event = after at hwork ⊢
  cases hwork with
  | received hstarted frame metadata =>
      obtain ⟨lost, hends⟩ := @ends_receive S env _ _ hP
        (noteActivity state.ctx (.loraRx frame metadata)) frame metadata
      have hids : (noteActivity state.ctx (.loraRx frame metadata)).pendingPackets.ids =
          state.ctx.pendingPackets.ids := by
        rw [PendingPackets.ids_eq, book_noteActivity, ← PendingPackets.ids_eq]
      exact .ended lost .none (hends.congr hids rfl)
  | asked hstarted bytes =>
      rcases @FromApp.dispatch_cases S env _ state.ctx bytes with
        hquiet | ⟨toRadio, pkt, content, hdecode, hpacket, hcontent, hdispatch⟩
      · exact .ended [] .none (Ends.of_quiet hP hquiet)
      · have hsent := FromApp.sent_transmitDecoded hP state.ctx pkt content
        rw [hdispatch]
        exact .sent hstarted hdecode hpacket hcontent (hsent.andThen rfl rfl)
  | relayed i frame => exact hsame rfl rfl
  | retransmitted hstarted =>
      obtain ⟨lost, hends⟩ := @ends_fireRetransmissions S env _ hP state.ctx
      exact .ended lost .maxRetransmit hends
  | bleTaken => exact .taken
  | loraTaken => exact hsame rfl rfl
  | quiet hquiet => exact .ended [] .none (Ends.of_quiet hP hquiet)

/-- The mesh task only ever adds to the queue of messages to the phone. -/
theorem tells_handled (state : MeshState S) {event : Event} (h : event ≠ .bleTaken) :
    Tells (fun _ => True) state.ctx (handled env state event) := by
  have hhandled := @handledAs_handled S env _ _ covers_any state event
  generalize handled env state event = after at hhandled
  cases hhandled with
  | ended lost error hends => exact hends.tells
  | sent hstarted hdecode hpacket hcontent hsent =>
      cases hsent with
      | announced error hpending htells => exact htells
      | tracked hids hble => exact Tells.of_eq hble
  | taken => exact absurd rfl h

/-- As long as the node stays up, only the phone takes from its queue. -/
theorem txToBle_step {state : MeshState S} {event : Event} (htaken : event ≠ .bleTaken)
    (hrestarts : restarts env state event = false) :
    ∃ msgs, (step env state event).ctx.txToBle = state.ctx.txToBle ++ msgs := by
  have hhoused := step_of_not_restarts hrestarts
  obtain ⟨msgs, hmsgs, -⟩ := @tells_handled S env _ state event htaken
  exact ⟨msgs, (congrArg (fun traffic => traffic.2.2.2.2.2.2) hhoused.traffic_eq).trans hmsgs⟩

theorem consistent_handled (hround : ReportsErrors env) {state : MeshState S} {event : Event}
    (hconsistent : Outcome.Consistent state.ctx.pendingPackets.ids announced)
    (hnew : PicksNewId env state announced event) :
    Outcome.Consistent (handled env state event).pendingPackets.ids
      (announced ++ outcomesIn env state event) := by
  have hhandled := handledAs_handled (covers_names hround) state event
  unfold outcomesIn
  generalize handled env state event = after at hhandled
  cases hhandled with
  | ended lost error hends => exact hends.consistent hconsistent
  | sent hstarted hdecode hpacket hcontent hsent =>
      exact hsent.consistent hconsistent (hnew hstarted _ _ _ hdecode hpacket hcontent)
  | taken =>
      have hsilent : outcomesSince env state.ctx
          { state.ctx with txToBle := state.ctx.txToBle.tail } = [] := by
        unfold outcomesSince
        rw [List.drop_eq_nil_of_le (by rw [List.length_tail]; omega)]
        rfl
      rw [hsilent, List.append_nil]
      exact hconsistent

theorem consistent_step (hround : ReportsErrors env) {state : MeshState S} {event : Event}
    (hconsistent : Outcome.Consistent state.ctx.pendingPackets.ids announced)
    (hnew : PicksNewId env state announced event) :
    Outcome.Consistent (step env state event).ctx.pendingPackets.ids
      (announced ++ outcomesIn env state event) := by
  have hhandled := consistent_handled hround hconsistent hnew
  cases hrestarts : restarts env state event with
  | false =>
      have hpending : (step env state event).ctx.pendingPackets =
          (handled env state event).pendingPackets :=
        congrArg (fun traffic => traffic.2.1) (step_of_not_restarts hrestarts).traffic_eq
      rw [hpending]
      exact hhandled
  | true =>
      obtain ⟨housed, -, hreboot⟩ := step_of_restarts hrestarts
      rw [hreboot]
      exact hhandled.forget

theorem consistent_run (hround : ReportsErrors env) {state : MeshState S} {events : List Event}
    (hinit : Outcome.Consistent state.ctx.pendingPackets.ids ([] : List (UInt32 × RoutingError)))
    (hnew : PicksNewIds env state events) :
    Outcome.Consistent (Transition.run (step env) state events).ctx.pendingPackets.ids
      (outcomesOver env state events) := by
  have hstep : ∀ (state : MeshState S) announced event,
      Outcome.Consistent state.ctx.pendingPackets.ids announced →
      PicksNewId env state announced event →
      Outcome.Consistent (step env state event).ctx.pendingPackets.ids
        (announced ++ outcomesIn env state event) :=
    fun _ _ _ hconsistent hnew => consistent_step hround hconsistent hnew
  exact Transition.invariant_observed hstep hinit hnew

/-- In every run in which the phone uses no id twice, the pending ids are distinct and no
packet is announced both as delivered and as given up. -/
theorem oneOutcome_after (hround : ReportsErrors env) (mac : Bytes) (storage : S)
    (pkcKeypair : Key × Key) (entropy : Nat → UInt32) (events : List Event)
    (hnew : PicksNewIds env (boot env mac storage pkcKeypair entropy) events) :
    (after env mac storage pkcKeypair entropy events).ctx.pendingPackets.ids.Nodup ∧
    ∀ id, ¬ ((id, RoutingError.none) ∈
          outcomesOver env (boot env mac storage pkcKeypair entropy) events ∧
        (id, RoutingError.maxRetransmit) ∈
          outcomesOver env (boot env mac storage pkcKeypair entropy) events) := by
  have hconsistent := consistent_run hround
    (show Outcome.Consistent
      (boot env mac storage pkcKeypair entropy).ctx.pendingPackets.ids [] from
        Outcome.Consistent.empty) hnew
  refine ⟨hconsistent.nodup, ?_⟩
  rintro id ⟨hdelivered, hgivenUp⟩
  cases hconsistent.unique id _ _ hdelivered hgivenUp

end MeshState

/-! ## Recorded runs -/

/-- The direct message is sent and acknowledged. -/
def acknowledgedRun : List MeshState.Event :=
  [.announce, .mesh (.bleRx FromRadio.directMessage),
    .mesh (.loraRx FromRadio.strangerAck ⟨0, 0⟩)]

theorem reportsErrors_defaultKey : ReportsErrors KnownAnswers.defaultKey.env := by
  intro error
  exact Wire.routingCodec_roundTrips _

/-- The phone hands over nothing but the direct message, when nothing was announced. -/
theorem acknowledgedRun_picksNewIds :
    MeshState.PicksNewIds KnownAnswers.defaultKey.env startOfRun acknowledgedRun := by
  have hnames : namesPacketId KnownAnswers.defaultKey.env FromRadio.directMessage 7 = true := by
    decide
  intro earlier event later hsplit
  unfold acknowledgedRun at hsplit
  match earlier, hsplit with
  | [], hsplit =>
      cases hsplit
      trivial
  | [_], hsplit =>
      cases hsplit
      intro hstarted toRadio pkt content htoRadio hpacket hcontent
      have hid : pkt.id = 7 := id_of_namesPacketId hnames htoRadio hpacket
      have hne : pkt.id ≠ 0 := by
        rw [hid]
        decide
      rw [FromApp.packetIdFor_of_ne_zero _ hne, hid]
      refine ⟨by decide, ?_⟩
      have hnothing : MeshState.outcomesOver KnownAnswers.defaultKey.env startOfRun
          [.announce] = [] := by decide
      intro outcome houtcome
      rw [hnothing] at houtcome
      cases houtcome
  | [_, _], hsplit =>
      cases hsplit
      trivial
  | _ :: _ :: _ :: [], hsplit => cases hsplit
  | _ :: _ :: _ :: _ :: _, hsplit => cases hsplit

/-- The acknowledged message is announced as delivered only. -/
theorem acknowledgedRun_oneOutcome :
    MeshState.PicksNewIds KnownAnswers.defaultKey.env startOfRun acknowledgedRun ∧
    (MeshState.after KnownAnswers.defaultKey.env KnownAnswers.mac ({} : FakeStorage)
      KnownAnswers.noKeypair KnownAnswers.noEntropy
      acknowledgedRun).ctx.pendingPackets.ids.Nodup ∧
    ∀ id, ¬ ((id, RoutingError.none) ∈
          MeshState.outcomesOver KnownAnswers.defaultKey.env startOfRun acknowledgedRun ∧
        (id, RoutingError.maxRetransmit) ∈
          MeshState.outcomesOver KnownAnswers.defaultKey.env startOfRun acknowledgedRun) :=
  ⟨acknowledgedRun_picksNewIds,
    @MeshState.oneOutcome_after FakeStorage KnownAnswers.defaultKey.env _
      reportsErrors_defaultKey KnownAnswers.mac {} KnownAnswers.noKeypair
      KnownAnswers.noEntropy acknowledgedRun acknowledgedRun_picksNewIds⟩

/-- The phone hands the direct message over twice; one copy is acknowledged, the other is
given up. -/
def reusedRun : List MeshState.Event :=
  [.announce, .mesh (.bleRx FromRadio.directMessage), .mesh (.bleRx FromRadio.directMessage),
    .mesh (.loraRx FromRadio.strangerAck ⟨0, 0⟩), .elapse 60000, .retransmissionDue,
    .elapse 60000, .retransmissionDue, .elapse 60000, .retransmissionDue, .elapse 60000,
    .retransmissionDue]

/-- The message is tracked twice, and announced as delivered and as given up. -/
theorem reusedRun_twoOutcomes :
    ¬ (MeshState.after KnownAnswers.defaultKey.env KnownAnswers.mac ({} : FakeStorage)
      KnownAnswers.noKeypair KnownAnswers.noEntropy
      (reusedRun.take 3)).ctx.pendingPackets.ids.Nodup ∧
    (7, RoutingError.none) ∈
      MeshState.outcomesOver KnownAnswers.defaultKey.env startOfRun reusedRun ∧
    (7, RoutingError.maxRetransmit) ∈
      MeshState.outcomesOver KnownAnswers.defaultKey.env startOfRun reusedRun := by
  refine ⟨by decide, by decide +kernel, by decide +kernel⟩

end Meshtastenstein
