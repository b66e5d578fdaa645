import Meshtastenstein.Delivery
import Meshtastenstein.Lib.Ledger
import Meshtastenstein.PhoneSend
import Meshtastenstein.Retransmissions
/-!
# Completeness of delivery reports

The pending packets are a book of open requests, and a routing result queued for the
phone is the answer to one of them.
-/

namespace Meshtastenstein

open Lib Proto Handlers

variable {S : Type} {env : Env}

/-! ## The book of pending packets -/

/-- The request a pending packet stands for: its id and who waits for its outcome. -/
def PendingPacket.request (entry : PendingPacket) : UInt32 × Option UInt32 :=
  (entry.packetId, entry.bleNotify)

def PendingPackets.book (pending : PendingPackets) : Ledger.Book UInt32 UInt32 :=
  pending.toList.map PendingPacket.request

def countReports (msgs : List FromRadioMessage) (dest packetId : UInt32) : Nat :=
  msgs.countP fun msg => msg.variant.reports dest packetId

def reportsSince (before after : MeshCtx S) (dest packetId : UInt32) : Nat :=
  countReports (after.txToBle.drop before.txToBle.length) dest packetId

theorem reportsSince_of_append {before after : MeshCtx S} {msgs : List FromRadioMessage}
    (h : after.txToBle = before.txToBle ++ msgs) (dest packetId : UInt32) :
    reportsSince before after dest packetId = countReports msgs dest packetId := by
  unfold reportsSince
  rw [h, List.drop_left]

theorem countReports_quiet {msgs : List FromRadioMessage}
    (h : ∀ msg ∈ msgs, msg.variant.IsQuiet) {dest packetId : UInt32} (hid : packetId ≠ 0) :
    countReports msgs dest packetId = 0 := by
  unfold countReports
  rw [List.countP_eq_zero]
  intro msg hmsg
  rw [h msg hmsg dest packetId hid]
  exact Bool.false_ne_true

theorem reports_routingResultPacket (ourNodeNum packetId dest requestId dest' requestId' : UInt32)
    (error : RoutingError) :
    (FromRadio.Variant.packet
        (routingResultPacket env ourNodeNum packetId dest requestId error)).reports dest'
      requestId' = (dest == dest' && requestId == requestId') := by
  simp [FromRadio.Variant.reports, routingResultPacket]

theorem countReports_result
    (ourNodeNum packetId dest requestId fromRadioId dest' requestId' : UInt32)
    (error : RoutingError) :
    countReports [{ variant := .packet (routingResultPacket env ourNodeNum packetId dest
        requestId error), id := fromRadioId }] dest' requestId' =
      [(requestId, some dest)].count (requestId', some dest') := by
  unfold countReports
  rw [List.countP_singleton, List.count_singleton, reports_routingResultPacket]
  congr 1
  simp [and_comm]

/-! ## Settled requests -/

/-- `after` follows from `before` by closing the requests `lost`, each of which is
reported once to whoever waits for it, and no other report. -/
structure Settles (lost : Ledger.Book UInt32 UInt32) (before after : MeshCtx S) : Prop where
  perm : before.pendingPackets.book.Perm (lost ++ after.pendingPackets.book)
  tells : ∃ msgs, after.txToBle = before.txToBle ++ msgs ∧
    ∀ dest packetId, packetId ≠ 0 →
      countReports msgs dest packetId = lost.count (packetId, some dest)

namespace Settles

variable {lost lost' : Ledger.Book UInt32 UInt32} {ctx ctx' ctx'' : MeshCtx S}

theorem trans (h : Settles lost ctx ctx') (h' : Settles lost' ctx' ctx'') :
    Settles (lost ++ lost') ctx ctx'' := by
  obtain ⟨msgs, hble, hcount⟩ := h.tells
  obtain ⟨msgs', hble', hcount'⟩ := h'.tells
  refine ⟨?_, msgs ++ msgs', ?_, ?_⟩
  · rw [List.append_assoc]
    exact h.perm.trans (h'.perm.append_left lost)
  · rw [hble', hble, List.append_assoc]
  · intro dest packetId hid
    unfold countReports
    rw [List.countP_append, List.count_append]
    exact congrArg₂ (· + ·) (hcount dest packetId hid) (hcount' dest packetId hid)

theorem of_quiet {n : Nat} (h : Quiet n ctx ctx') : Settles [] ctx ctx' := by
  obtain ⟨msgs, hble, hquiet⟩ := h.tells
  refine ⟨?_, msgs, hble, ?_⟩
  · rw [h.pendingPackets_eq]
    exact List.Perm.refl _
  · intro dest packetId hid
    exact countReports_quiet hquiet hid

theorem of_eq (hbook : ctx'.pendingPackets.book = ctx.pendingPackets.book)
    (hble : ctx'.txToBle = ctx.txToBle) : Settles [] ctx ctx' :=
  ⟨by rw [hbook]; exact List.Perm.refl _, [], by rw [hble, List.append_nil], fun _ _ _ => rfl⟩

theorem closes (h : Settles lost ctx ctx') (hzero : 0 ∉ ctx.pendingPackets.book.map Prod.fst) :
    Ledger.Closes lost ctx.pendingPackets.book ctx'.pendingPackets.book
      (reportsSince ctx ctx') := by
  obtain ⟨msgs, hble, hcount⟩ := h.tells
  refine ⟨h.perm, fun dest packetId hkey => ?_⟩
  rw [reportsSince_of_append hble]
  exact hcount dest packetId fun hid => hzero (hid ▸ hkey)

end Settles

theorem PendingPackets.book_swapRemove {pending : PendingPackets} {i : Nat}
    {entry : PendingPacket} (h : pending.toList[i]? = some entry) :
    pending.book.Perm (entry.request :: PendingPackets.book (pending.swapRemove i)) :=
  (FromRadio.perm_swapRemove_of_getElem? h).map PendingPacket.request

theorem settles_deliver {ctx : MeshCtx S} {i : Nat} {entry : PendingPacket}
    (hentry : ctx.pendingPackets.toList[i]? = some entry)
    (hroom : ctx.txToBle.length < BLE_TX_QUEUE_SIZE) :
    Settles [entry.request] ctx (FromRadio.deliver env ctx i entry) := by
  refine ⟨?_, ?_⟩
  · rw [FromRadio.pendingPackets_deliver]
    exact PendingPackets.book_swapRemove hentry
  · unfold FromRadio.deliver
    dsimp only
    cases hnotify : entry.bleNotify with
    | none =>
        refine ⟨[], (List.append_nil _).symm, fun dest packetId _ => ?_⟩
        simp [countReports, PendingPacket.request, hnotify]
    | some dest =>
        dsimp only
        rw [sendBleRoutingResult_eq]
        dsimp only
        rw [if_pos hroom]
        refine ⟨_, rfl, fun dest' packetId _ => ?_⟩
        rw [countReports_result, PendingPacket.request, hnotify]

/-! ## Retransmissions -/

def notices (lost : Ledger.Book UInt32 UInt32) : List (UInt32 × UInt32) :=
  lost.filterMap fun request => request.2.map fun dest => (dest, request.1)

theorem count_notices (lost : Ledger.Book UInt32 UInt32) (dest packetId : UInt32) :
    (notices lost).count (dest, packetId) = lost.count (packetId, some dest) := by
  induction lost with
  | nil => rfl
  | cons request lost ih =>
      obtain ⟨key, waiter⟩ := request
      cases waiter with
      | none =>
          rw [List.count_cons_of_ne (by simp)]
          exact ih
      | some waiter =>
          have hcons : notices ((key, some waiter) :: lost) = (waiter, key) :: notices lost := rfl
          rw [hcons, List.count_cons, List.count_cons, ih]
          congr 1
          simp [and_comm]

theorem length_notices_le {pending pending' : PendingPackets}
    {lost : Ledger.Book UInt32 UInt32} (h : pending.book.Perm (lost ++ pending'.book)) :
    (notices lost).length ≤ 8 := by
  have hlost : (notices lost).length ≤ lost.length := List.length_filterMap_le _ lost
  have hlength := h.length_eq
  have hcap := pending.length_le
  rw [PendingPackets.book, List.length_map, List.length_append] at hlength
  omega

theorem request_of_fate {now : Nat} {entry next : PendingPacket}
    (h : MeshRouter.fate now entry = some next) : next.request = entry.request := by
  rcases MeshRouter.fate_cases now entry with ⟨hfate, -⟩ | ⟨-, hfate, -⟩ | ⟨hfate, -⟩
  · rw [hfate] at h
    cases h
    rfl
  · rw [hfate] at h
    cases h
    rfl
  · rw [hfate] at h
    cases h

theorem book_of_fates (now : Nat) (entries : List PendingPacket) :
    (entries.map PendingPacket.request).Perm
      ((entries.filter fun entry => (MeshRouter.fate now entry).isNone).map
          PendingPacket.request ++
        (entries.filterMap (MeshRouter.fate now)).map PendingPacket.request) := by
  induction entries with
  | nil => exact List.Perm.refl _
  | cons entry entries ih =>
      cases hfate : MeshRouter.fate now entry with
      | none =>
          rw [List.filter_cons_of_pos (by rw [hfate]; rfl), List.filterMap_cons_none hfate]
          exact ih.cons entry.request
      | some next =>
          rw [List.filter_cons_of_neg (by simp [hfate]), List.filterMap_cons_some hfate,
            List.map_cons, List.map_cons, request_of_fate hfate]
          exact (ih.cons entry.request).trans List.perm_middle.symm

theorem notices_of_fates (now : Nat) (entries : List PendingPacket) :
    entries.filterMap (MeshRouter.report now) =
      notices ((entries.filter fun entry => (MeshRouter.fate now entry).isNone).map
        PendingPacket.request) := by
  unfold notices
  rw [List.filterMap_map, List.filterMap_filter]
  apply List.filterMap_congr
  intro entry _
  rcases MeshRouter.fate_cases now entry with
    ⟨hfate, -, hreport⟩ | ⟨-, hfate, -, hreport⟩ | ⟨hfate, -, hreport⟩
  · rw [hfate, hreport]
    rfl
  · rw [hfate, hreport]
    rfl
  · rw [hfate, hreport]
    rfl

/-- A retransmission pass gives up some requests and lists whom to tell. -/
theorem tickRetransmissions_book (now : Nat) (pending : PendingPackets) (db : NodeDb) :
    ∃ lost, pending.book.Perm
        (lost ++ (MeshRouter.tickRetransmissions now pending db).pending.book) ∧
      (MeshRouter.tickRetransmissions now pending db).gaveUp = notices lost := by
  obtain ⟨-, -, hgaveUp⟩ := MeshRouter.tickRetransmissions_eq_sweep now pending db
  have hkept := (MeshRouter.passes_tickRetransmissions now pending db).kept
  have hvisited := @Sweep.perm_visited PendingPacket (MeshRouter.fate now) pending.length 0
    pending.toList (Nat.le_refl _)
  rw [notices_of_fates] at hgaveUp
  exact ⟨_, (book_of_fates now pending.toList).trans
    (((hvisited.symm.filter _).map PendingPacket.request).append
      (hkept.symm.map PendingPacket.request)), hgaveUp⟩

theorem foldl_sendLora (frames : List RadioFrame) (ctx : MeshCtx S) :
    frames.foldl MeshCtx.sendLora ctx = { ctx with txToLora := ctx.txToLora ++ frames } := by
  induction frames generalizing ctx with
  | nil =>
      rw [List.append_nil]
      rfl
  | cons frame frames ih =>
      rw [List.foldl_cons, ih]
      simp [MeshCtx.sendLora]

theorem foldl_sendBleRoutingResult (error : RoutingError) (reports : List (UInt32 × UInt32))
    (ctx : MeshCtx S) (hroom : ctx.txToBle.length + reports.length ≤ BLE_TX_QUEUE_SIZE) :
    (reports.foldl (fun ctx report =>
        sendBleRoutingResult env ctx report.1 report.2 error) ctx).pendingPackets =
      ctx.pendingPackets ∧
    ∃ msgs, (reports.foldl (fun ctx report =>
        sendBleRoutingResult env ctx report.1 report.2 error) ctx).txToBle =
      ctx.txToBle ++ msgs ∧
      ∀ dest packetId, countReports msgs dest packetId = reports.count (dest, packetId) := by
  induction reports generalizing ctx with
  | nil => exact ⟨rfl, [], (List.append_nil _).symm, fun _ _ => rfl⟩
  | cons report reports ih =>
      rw [List.length_cons] at hroom
      have hfirst : ∃ msg, (sendBleRoutingResult env ctx report.1 report.2 error).txToBle =
          ctx.txToBle ++ [msg] ∧
          ∀ dest packetId, countReports [msg] dest packetId =
            [report].count (dest, packetId) := by
        rw [sendBleRoutingResult_eq]
        dsimp only
        rw [if_pos (by omega)]
        refine ⟨_, rfl, fun dest packetId => ?_⟩
        rw [countReports_result]
        exact (count_notices [(report.2, some report.1)] dest packetId).symm
      obtain ⟨msg, hble, hcount⟩ := hfirst
      rw [List.foldl_cons]
      obtain ⟨hpending, msgs, hrest, hcounts⟩ := ih
        (sendBleRoutingResult env ctx report.1 report.2 error) (by
          rw [hble, List.length_append, List.length_singleton]
          omega)
      refine ⟨hpending.trans (FromApp.pendingPackets_sendBleRoutingResult ctx _ _ _), msg :: msgs,
        ?_, ?_⟩
      · rw [hrest, hble, List.append_assoc, List.singleton_append]
      · intro dest packetId
        have hsplit : countReports (msg :: msgs) dest packetId =
            countReports msgs dest packetId + countReports [msg] dest packetId := by
          unfold countReports
          rw [List.countP_cons, List.countP_singleton]
        rw [hsplit, hcounts, hcount, Nat.add_comm, ← List.count_append, List.singleton_append]

/-- A retransmission pass resends frames and reports on the requests it gives up. -/
theorem fireRetransmissions_eq (ctx : MeshCtx S) :
    ∃ lost result,
      result = MeshRouter.tickRetransmissions ctx.now ctx.pendingPackets ctx.nodeDb ∧
      ctx.pendingPackets.book.Perm (lost ++ result.pending.book) ∧
      MeshState.fireRetransmissions env ctx =
        (notices lost).foldl
          (fun ctx report => sendBleRoutingResult env ctx report.1 report.2 .maxRetransmit)
          { ctx with
            pendingPackets := result.pending
            nodeDb := result.nodeDb
            txToLora := ctx.txToLora ++ result.toSend } := by
  obtain ⟨lost, hperm, hgaveUp⟩ :=
    tickRetransmissions_book ctx.now ctx.pendingPackets ctx.nodeDb
  refine ⟨lost, _, rfl, hperm, ?_⟩
  unfold MeshState.fireRetransmissions
  dsimp only
  rw [foldl_sendLora, hgaveUp]

/-- Room in the queue to the phone for a report on every pending packet. -/
def MeshCtx.HasRoom (ctx : MeshCtx S) : Prop := ctx.txToBle.length + 8 ≤ BLE_TX_QUEUE_SIZE

theorem settles_fireRetransmissions {ctx : MeshCtx S} (hroom : ctx.HasRoom) :
    ∃ lost, Settles lost ctx (MeshState.fireRetransmissions env ctx) := by
  obtain ⟨lost, result, -, hperm, hfire⟩ := @fireRetransmissions_eq S env ctx
  refine ⟨lost, ?_⟩
  rw [hfire]
  have hnotices := length_notices_le hperm
  unfold MeshCtx.HasRoom at hroom
  obtain ⟨hpending, msgs, hble, hcount⟩ := @foldl_sendBleRoutingResult S env .maxRetransmit
    (notices lost)
    { ctx with
      pendingPackets := result.pending
      nodeDb := result.nodeDb
      txToLora := ctx.txToLora ++ result.toSend } (by dsimp only; omega)
  refine ⟨?_, msgs, hble, ?_⟩
  · rw [hpending]
    exact hperm
  · intro dest packetId _
    rw [hcount, count_notices]

/-! ## Received frames -/

theorem book_noteActivity [MeshStorage S] (ctx : MeshCtx S) (event : MeshEvent) :
    (MeshState.noteActivity ctx event).pendingPackets.book = ctx.pendingPackets.book := by
  cases event with
  | loraRx frame metadata =>
      unfold MeshState.noteActivity MeshRouter.extendPendingDeadlines PendingPackets.book
      dsimp only
      rw [Bounded.toList_map, List.map_map]
      rfl
  | _ => rfl

/-- With room in the queue to the phone, a received frame that repeats no pending packet
of ours settles what it removes. -/
theorem settles_receive [MeshStorage S] {ctx : MeshCtx S} {frame : RadioFrame}
    (metadata : RadioMetadata) (hroom : ctx.HasRoom)
    (hown : ∀ header, frame.header = some header → header.sender = ctx.device.myNodeNum →
      ctx.pendingPackets.position header.packetId = none) :
    ∃ lost, Settles lost ctx (FromRadio.dispatch env ctx frame metadata) := by
  have hreceived := @FromRadio.received_dispatch S env _ ctx frame metadata
  generalize FromRadio.dispatch env ctx frame metadata = after at hreceived
  cases hreceived with
  | quiet router hquiet =>
      have hrouter : Settles [] ctx { ctx with router := router } := Settles.of_eq rfl rfl
      exact ⟨_, hrouter.trans (Settles.of_quiet hquiet)⟩
  | ownPacket hheader hsender hi =>
      rw [hown _ hheader hsender] at hi
      cases hi
  | delivered router hacknowledges hi hentry hbefore hlength hafter =>
      rename_i before
      have hrouter : Settles [] ctx { ctx with router := router } := Settles.of_eq rfl rfl
      have hpending : before.pendingPackets = ctx.pendingPackets := hbefore.pendingPackets_eq
      rw [← hpending] at hentry
      unfold MeshCtx.HasRoom at hroom
      have hdeliver := @settles_deliver S env before _ _ hentry (by omega)
      exact ⟨_, ((hrouter.trans (Settles.of_quiet hbefore)).trans hdeliver).trans
        (Settles.of_quiet hafter)⟩

/-! ## Packets from the phone -/

theorem PendingPackets.position_eq_none_iff (pending : PendingPackets) (packetId : UInt32) :
    pending.position packetId = none ↔ packetId ∉ pending.book.map Prod.fst := by
  unfold PendingPackets.position PendingPackets.book
  rw [List.findIdx?_eq_none_iff, List.map_map]
  simp [PendingPacket.request]

def HasFreshId (ctx : MeshCtx S) (pkt : MeshPacket) : Prop :=
  FromApp.packetIdFor ctx.device pkt ≠ 0 ∧
    ctx.pendingPackets.position (FromApp.packetIdFor ctx.device pkt) = none

theorem HasFreshId.ne {ctx : MeshCtx S} {pkt : MeshPacket} (h : HasFreshId ctx pkt)
    (hzero : 0 ∉ ctx.pendingPackets.book.map Prod.fst) {key : UInt32}
    (hkey : key ∈ ctx.pendingPackets.book.map Prod.fst) : pkt.id ≠ key := by
  obtain ⟨-, hposition⟩ := h
  rw [PendingPackets.position_eq_none_iff] at hposition
  rintro rfl
  by_cases hid : pkt.id = 0
  · rw [hid] at hkey
    exact hzero hkey
  · have hsame := FromApp.packetIdFor_of_ne_zero ctx.device hid
    rw [hsame] at hposition
    exact hposition hkey

theorem countReports_of_areReports {ourNodeNum packetId : UInt32}
    {report : Option (UInt32 × RoutingError)} {msgs : List FromRadioMessage}
    (h : FromApp.AreReports env ourNodeNum packetId report msgs) {dest key : UInt32}
    (hkey : packetId ≠ key) : countReports msgs dest key = 0 := by
  cases report with
  | none =>
      obtain rfl : msgs = [] := h
      rfl
  | some report =>
      obtain ⟨msg, rfl, id, hmsg⟩ := h
      unfold countReports
      rw [List.countP_singleton, hmsg, reports_routingResultPacket]
      simp [hkey]

theorem Handlers.FromApp.Performs.opens {ctx after : MeshCtx S} {pkt : MeshPacket}
    {outcome : FromApp.SendOutcome}
    (h : FromApp.Performs env ctx pkt (FromApp.packetIdFor ctx.device pkt) outcome after)
    (hwell : Ledger.WellFormed ctx.pendingPackets.book)
    (hzero : 0 ∉ ctx.pendingPackets.book.map Prod.fst) (hfresh : HasFreshId ctx pkt)
    (hroom : ctx.txToBle.length < BLE_TX_QUEUE_SIZE) :
    ∃ new, Ledger.Opens new ctx.pendingPackets.book after.pendingPackets.book
      (reportsSince ctx after) ∧ 0 ∉ after.pendingPackets.book.map Prod.fst := by
  obtain ⟨msgs, hble, hreports⟩ := h.ble hroom
  have hbook : after.pendingPackets.book = ctx.pendingPackets.book ++
      (outcome.entries ctx pkt (FromApp.packetIdFor ctx.device pkt)).map
        PendingPacket.request := by
    unfold PendingPackets.book
    rw [h.pending, List.map_append]
  have hanswers : ∀ dest key, key ∈ ctx.pendingPackets.book.map Prod.fst →
      reportsSince ctx after dest key = 0 := by
    intro dest key hkey
    rw [reportsSince_of_append hble]
    exact countReports_of_areReports hreports (hfresh.ne hzero hkey)
  have hsame : ∀ new : Ledger.Book UInt32 UInt32, new = [] →
      after.pendingPackets.book = ctx.pendingPackets.book ++ new →
      ∃ new, Ledger.Opens new ctx.pendingPackets.book after.pendingPackets.book
        (reportsSince ctx after) ∧ 0 ∉ after.pendingPackets.book.map Prod.fst := by
    rintro new rfl heq
    rw [List.append_nil] at heq
    refine ⟨[], ⟨by rw [heq, List.append_nil], heq ▸ hwell, ?_⟩, heq ▸ hzero⟩
    rw [heq]
    exact hanswers
  cases outcome with
  | silent => exact hsame _ rfl hbook
  | failed error => exact hsame _ rfl hbook
  | confirmed frame => exact hsame _ rfl hbook
  | tracked frame =>
      obtain ⟨hid, hposition⟩ := hfresh
      rw [PendingPackets.position_eq_none_iff] at hposition
      have hmsgs : msgs = [] := hreports
      have hkeys : after.pendingPackets.book.map Prod.fst =
          ctx.pendingPackets.book.map Prod.fst ++ [FromApp.packetIdFor ctx.device pkt] := by
        rw [hbook, List.map_append]
        rfl
      refine ⟨_, ⟨hbook, ?_, ?_⟩, ?_⟩
      · unfold Ledger.WellFormed
        rw [hkeys, List.nodup_append]
        refine ⟨hwell, List.nodup_singleton _, ?_⟩
        intro key hkey other hother heq
        rw [heq, List.mem_singleton.mp hother] at hkey
        exact hposition hkey
      · intro dest key _
        rw [reportsSince_of_append hble, hmsgs]
        rfl
      · rw [hkeys, List.mem_append, List.mem_singleton]
        rintro (hmem | heq)
        · exact hzero hmem
        · exact hid heq.symm

/-! ## Steps -/

structure MeshCtx.Booked (ctx : MeshCtx S) : Prop where
  wellFormed : Ledger.WellFormed ctx.pendingPackets.book
  nonzero : 0 ∉ ctx.pendingPackets.book.map Prod.fst

theorem MeshCtx.Booked.congr {ctx ctx' : MeshCtx S} (h : ctx.Booked)
    (heq : ctx'.pendingPackets.book = ctx.pendingPackets.book) : ctx'.Booked :=
  ⟨heq ▸ h.wellFormed, heq ▸ h.nonzero⟩

/-- Every request that is no longer open was answered once, every open one was not. -/
def AnswersOnce (ctx ctx' : MeshCtx S) : Prop :=
  Ledger.ExactlyOnce ctx.pendingPackets.book ctx'.pendingPackets.book (reportsSince ctx ctx')

theorem Settles.answersOnce {lost : Ledger.Book UInt32 UInt32} {ctx ctx' : MeshCtx S}
    (h : Settles lost ctx ctx') (hbooked : ctx.Booked) : AnswersOnce ctx ctx' ∧ ctx'.Booked := by
  have hcloses := h.closes hbooked.nonzero
  exact ⟨hcloses.exactlyOnce hbooked.wellFormed, hcloses.wellFormed hbooked.wellFormed,
    fun hzero => hbooked.nonzero (hcloses.keys_subset hzero)⟩

theorem answersOnce_of_eq {ctx ctx' : MeshCtx S} (hbooked : ctx.Booked)
    (hpending : ctx'.pendingPackets = ctx.pendingPackets) (hble : ctx'.txToBle = ctx.txToBle) :
    AnswersOnce ctx ctx' ∧ ctx'.Booked :=
  (Settles.of_eq (by rw [hpending]) hble).answersOnce hbooked

theorem answersOnce_of_unanswered {ctx ctx' : MeshCtx S} (hbooked : ctx.Booked)
    (hpending : ctx'.pendingPackets = ctx.pendingPackets)
    (hanswers : ∀ dest, ∀ key ∈ ctx.pendingPackets.book.map Prod.fst,
      reportsSince ctx ctx' dest key = 0) : AnswersOnce ctx ctx' ∧ ctx'.Booked := by
  have hbook : ctx'.pendingPackets.book = ctx.pendingPackets.book := by rw [hpending]
  have hopens : Ledger.Opens [] ctx.pendingPackets.book ctx'.pendingPackets.book
      (reportsSince ctx ctx') :=
    ⟨by rw [hbook, List.append_nil], (hbooked.congr hbook).wellFormed, by
      rw [hbook]
      exact hanswers⟩
  exact ⟨hopens.exactlyOnce, hbooked.congr hbook⟩

section

variable [MeshStorage S]

theorem answersOnce_handleLocalAdmin {ctx : MeshCtx S} {pkt : MeshPacket} (data : Data)
    (hbooked : ctx.Booked) (hfresh : HasFreshId ctx pkt) :
    AnswersOnce ctx (FromApp.handleLocalAdmin env ctx pkt data) ∧
      (FromApp.handleLocalAdmin env ctx pkt data).Booked := by
  have hadmin := @Admin.quiet_dispatch S env _ ctx pkt.fromNode pkt.id data.payload false
  unfold FromApp.handleLocalAdmin
  dsimp only
  generalize Admin.dispatch env ctx pkt.fromNode pkt.id data.payload false = ctx' at hadmin ⊢
  split
  · obtain ⟨msgs, hble, hquiet⟩ := hadmin.tells
    refine answersOnce_of_unanswered hbooked
      ((FromApp.pendingPackets_sendBleRoutingResult ctx' _ _ _).trans hadmin.pendingPackets_eq)
      fun dest key hkey => ?_
    have hcount : countReports msgs dest key = 0 :=
      countReports_quiet hquiet fun hid => hbooked.nonzero (hid ▸ hkey)
    by_cases hroom : ctx'.txToBle.length < BLE_TX_QUEUE_SIZE
    · obtain ⟨msgs', hble', hreports⟩ :=
        @FromApp.txToBle_sendBleRoutingResult S env ctx' pkt.fromNode pkt.id .none hroom
      rw [hble, List.append_assoc] at hble'
      rw [sendBleRoutingAck, reportsSince_of_append hble', countReports, List.countP_append]
      exact congrArg₂ (· + ·) hcount
        (countReports_of_areReports hreports (hfresh.ne hbooked.nonzero hkey))
    · have hfull : (sendBleRoutingAck env ctx' pkt.fromNode pkt.id).txToBle =
          ctx.txToBle ++ msgs := by
        rw [sendBleRoutingAck, sendBleRoutingResult_eq]
        dsimp only
        rw [if_neg hroom, hble]
      rw [reportsSince_of_append hfull]
      exact hcount
  · exact (Settles.of_quiet hadmin).answersOnce hbooked

theorem answersOnce_transmitDecoded {ctx : MeshCtx S} {pkt : MeshPacket} {data : Data}
    (hbooked : ctx.Booked) (hdata : pkt.payloadVariant = some (.decoded data))
    (hfresh : HasFreshId ctx pkt) (hroom : ctx.txToBle.length < BLE_TX_QUEUE_SIZE) :
    AnswersOnce ctx (FromApp.transmitDecoded env ctx pkt data) ∧
      (FromApp.transmitDecoded env ctx pkt data).Booked := by
  cases hlocal : FromApp.isLocalAdmin ctx.device pkt data with
  | true =>
      unfold FromApp.transmitDecoded
      rw [if_pos hlocal]
      exact answersOnce_handleLocalAdmin data hbooked hfresh
  | false =>
      have hperforms := @FromApp.performs_transmitFromBlePacket S env _ ctx pkt data hdata hlocal
      rw [FromApp.transmitFromBlePacket, hdata] at hperforms
      obtain ⟨new, hopens, hzero⟩ :=
        hperforms.opens hbooked.wellFormed hbooked.nonzero hfresh hroom
      exact ⟨hopens.exactlyOnce, hopens.wellFormed, hzero⟩

/-- What keeps the reports complete over a step: no frame under our own node number names
a pending packet, the phone picks a fresh packet id, and there is room for the reports. -/
def KeepsReports (env : Env) (state : MeshState S) : MeshState.Event → Prop
  | .mesh (.loraRx frame _) =>
      state.started = true → state.ctx.HasRoom ∧
        ∀ header, frame.header = some header → header.sender = state.ctx.device.myNodeNum →
          state.ctx.pendingPackets.position header.packetId = none
  | .mesh (.bleRx data) =>
      state.started = true → state.ctx.HasRoom ∧
        ∀ toRadio pkt, env.prost.toRadio.decode data = some toRadio →
          toRadio.payloadVariant = some (.packet pkt) → HasFreshId state.ctx pkt
  | .retransmissionDue => state.started = true → state.ctx.HasRoom
  | _ => True

theorem answersOnce_receive {ctx : MeshCtx S} {frame : RadioFrame} (metadata : RadioMetadata)
    (hbooked : ctx.Booked) (hroom : ctx.HasRoom)
    (hown : ∀ header, frame.header = some header → header.sender = ctx.device.myNodeNum →
      ctx.pendingPackets.position header.packetId = none) :
    let after := FromRadio.dispatch env
      (MeshState.noteActivity ctx (.loraRx frame metadata)) frame metadata
    AnswersOnce ctx after ∧ after.Booked := by
  generalize hnoted : MeshState.noteActivity ctx (.loraRx frame metadata) = noted
  have hbook : noted.pendingPackets.book = ctx.pendingPackets.book := by
    rw [← hnoted]
    exact book_noteActivity ctx _
  have hble : noted.txToBle = ctx.txToBle := by
    rw [← hnoted]
    rfl
  have hnum : noted.device.myNodeNum = ctx.device.myNodeNum := by
    rw [← hnoted]
    rfl
  have hextend : Settles [] ctx noted := Settles.of_eq hbook hble
  obtain ⟨lost, hsettles⟩ := @settles_receive S env _ noted frame metadata
    (by
      unfold MeshCtx.HasRoom
      rw [hble]
      exact hroom)
    (by
      intro header hheader hsender
      rw [PendingPackets.position_eq_none_iff, hbook, ← PendingPackets.position_eq_none_iff]
      exact hown header hheader (hsender.trans hnum))
  exact (hextend.trans hsettles).answersOnce hbooked

theorem answersOnce_phone {ctx : MeshCtx S} {data : Bytes} (hbooked : ctx.Booked)
    (hroom : ctx.HasRoom)
    (hfresh : ∀ toRadio pkt, env.prost.toRadio.decode data = some toRadio →
      toRadio.payloadVariant = some (.packet pkt) → HasFreshId ctx pkt) :
    AnswersOnce ctx (FromApp.dispatch env ctx data) ∧
      (FromApp.dispatch env ctx data).Booked := by
  rcases @FromApp.dispatch_cases S env _ ctx data with
    hquiet | ⟨toRadio, pkt, content, hdecode, hpacket, hcontent, hdispatch⟩
  · exact (Settles.of_quiet hquiet).answersOnce hbooked
  · unfold MeshCtx.HasRoom at hroom
    have htransmitted := @answersOnce_transmitDecoded S env _ ctx pkt content hbooked hcontent
      (hfresh toRadio pkt hdecode hpacket) (by omega)
    rw [hdispatch]
    exact ⟨htransmitted.1, htransmitted.2.wellFormed, htransmitted.2.nonzero⟩

theorem answersOnce_handled {state : MeshState S} {event : MeshState.Event}
    (hbooked : state.ctx.Booked) (hkeeps : KeepsReports env state event) :
    AnswersOnce state.ctx (MeshState.handled env state event) ∧
      (MeshState.handled env state event).Booked := by
  have hwork := @MeshState.work_handled S _ env state event
  generalize MeshState.handled env state event = after at hwork ⊢
  cases hwork with
  | received hstarted frame metadata =>
      obtain ⟨hroom, hown⟩ := hkeeps hstarted
      exact answersOnce_receive metadata hbooked hroom hown
  | asked hstarted bytes =>
      obtain ⟨hroom, hfresh⟩ := hkeeps hstarted
      exact answersOnce_phone hbooked hroom hfresh
  | relayed i frame => exact answersOnce_of_eq hbooked rfl rfl
  | retransmitted hstarted =>
      obtain ⟨lost, hsettles⟩ := @settles_fireRetransmissions S env state.ctx (hkeeps hstarted)
      exact hsettles.answersOnce hbooked
  | bleTaken =>
      refine answersOnce_of_unanswered hbooked rfl fun dest key _ => ?_
      have hnone : state.ctx.txToBle.tail.drop state.ctx.txToBle.length = [] := by
        rw [List.drop_eq_nil_iff, List.length_tail]
        omega
      rw [reportsSince, hnone]
      rfl
  | loraTaken => exact answersOnce_of_eq hbooked rfl rfl
  | quiet hquiet => exact (Settles.of_quiet hquiet).answersOnce hbooked

theorem booked_boot (mac : Bytes) (storage : S) (pkcKeypair : Key × Key)
    (entropy : Nat → UInt32) : (MeshState.boot env mac storage pkcKeypair entropy).ctx.Booked :=
  ⟨Ledger.wellFormed_nil, List.not_mem_nil⟩

theorem booked_step {state : MeshState S} {event : MeshState.Event}
    (hbooked : state.ctx.Booked) (hkeeps : KeepsReports env state event) :
    (MeshState.step env state event).ctx.Booked := by
  have hhandled := (answersOnce_handled hbooked hkeeps).2
  cases hrestarts : MeshState.restarts env state event with
  | false =>
      have hpending : (MeshState.step env state event).ctx.pendingPackets =
          (MeshState.handled env state event).pendingPackets :=
        congrArg (fun traffic => traffic.2.1)
          (MeshState.step_of_not_restarts hrestarts).traffic_eq
      exact hhandled.congr (by rw [hpending])
  | true =>
      obtain ⟨housed, -, hreboot⟩ := MeshState.step_of_restarts hrestarts
      rw [hreboot]
      exact booked_boot _ _ _ _

/-- In every run that keeps the reports, every step answers what it closes exactly once
and nothing that is still open. -/
theorem answersOnce_run (mac : Bytes) (storage : S) (pkcKeypair : Key × Key)
    (entropy : Nat → UInt32) (events : List MeshState.Event)
    (hkeeps : Transition.Always (MeshState.step env) (KeepsReports env)
      (MeshState.boot env mac storage pkcKeypair entropy) events) :
    ∀ t ∈ Transition.trace (MeshState.step env)
        (MeshState.boot env mac storage pkcKeypair entropy) events,
      AnswersOnce t.before.ctx (MeshState.handled env t.before t.event) := by
  have hstep : ∀ (state : MeshState S) (event : MeshState.Event), state.ctx.Booked →
      KeepsReports env state event → (MeshState.step env state event).ctx.Booked :=
    fun _ _ hbooked hkeeps => booked_step hbooked hkeeps
  exact Transition.forall_trace hstep
    (fun _ _ hbooked hkeeps => (answersOnce_handled hbooked hkeeps).1)
    (booked_boot mac storage pkcKeypair entropy) hkeeps

end

/-! ### Recorded runs -/

/-- The direct message is sent four times and then given up. -/
def unansweredRun : List MeshState.Event :=
  [.announce, .mesh (.bleRx FromRadio.directMessage), .elapse 60000, .retransmissionDue,
    .elapse 60000, .retransmissionDue, .elapse 60000, .retransmissionDue, .elapse 60000,
    .retransmissionDue]

def startOfRun : MeshState FakeStorage :=
  MeshState.boot KnownAnswers.defaultKey.env KnownAnswers.mac {} KnownAnswers.noKeypair
    KnownAnswers.noEntropy

def namesPacketId (env : Env) (bytes : Bytes) (id : UInt32) : Bool :=
  (env.prost.toRadio.decode bytes).all fun toRadio =>
    match toRadio.payloadVariant with
    | some (.packet pkt) => pkt.id == id
    | _ => true

theorem id_of_namesPacketId {env : Env} {bytes : Bytes} {id : UInt32} {toRadio : ToRadio}
    {pkt : Proto.MeshPacket} (h : namesPacketId env bytes id = true)
    (htoRadio : env.prost.toRadio.decode bytes = some toRadio)
    (hpacket : toRadio.payloadVariant = some (.packet pkt)) : pkt.id = id := by
  unfold namesPacketId at h
  rw [htoRadio, Option.all_some, hpacket] at h
  exact beq_iff_eq.mp h

/-- The phone hands over nothing but the direct message, while no packet is pending. -/
theorem unansweredRun_keepsReports :
    Transition.Always (MeshState.step KnownAnswers.defaultKey.env)
      (KeepsReports KnownAnswers.defaultKey.env) startOfRun unansweredRun := by
  have hnames : namesPacketId KnownAnswers.defaultKey.env FromRadio.directMessage 7 = true := by
    decide
  unfold unansweredRun
  simp only [Transition.always_cons, KeepsReports, MeshCtx.HasRoom]
  refine ⟨trivial, fun _ => ⟨by decide, ?_⟩, trivial, fun _ => by decide, trivial,
    fun _ => by decide, trivial, fun _ => by decide, trivial, fun _ => by decide, ?_⟩
  · intro toRadio pkt htoRadio hpacket
    have hid : pkt.id = 7 := id_of_namesPacketId hnames htoRadio hpacket
    have hne : pkt.id ≠ 0 := by
      rw [hid]
      decide
    unfold HasFreshId
    rw [FromApp.packetIdFor_of_ne_zero _ hne, hid]
    exact ⟨by decide, by decide⟩
  · intro t ht
    cases ht

/-- The given up message is answered once. -/
theorem unansweredRun_answersOnce :
    Transition.Always (MeshState.step KnownAnswers.defaultKey.env)
      (KeepsReports KnownAnswers.defaultKey.env) startOfRun unansweredRun ∧
    ∀ t ∈ Transition.trace (MeshState.step KnownAnswers.defaultKey.env) startOfRun
        unansweredRun,
      AnswersOnce t.before.ctx
        (MeshState.handled KnownAnswers.defaultKey.env t.before t.event) :=
  ⟨unansweredRun_keepsReports,
    @answersOnce_run FakeStorage KnownAnswers.defaultKey.env _ KnownAnswers.mac {}
      KnownAnswers.noKeypair KnownAnswers.noEntropy unansweredRun unansweredRun_keepsReports⟩

/-- Our direct message as another node relays it. -/
def echoFrame : RadioFrame where
  bytes :=
    [0x88, 0x77, 0x66, 0x55, 0x56, 0x34, 0x12, 0x28, 0x07, 0x00, 0x00, 0x00, 0x6a, 0x08, 0x00,
     0x44, 0xb5, 0x66, 0xf2, 0x80, 0x16, 0xee, 0x52, 0xa9]
  length_le := by decide

/-- The direct message is heard back. -/
def echoRun : List MeshState.Event :=
  [.announce, .mesh (.bleRx FromRadio.directMessage), .mesh (.loraRx echoFrame ⟨0, 0⟩)]

/-- The message that was heard back is no longer pending and was never answered. -/
theorem echoRun_unanswered :
    ¬ ∀ t ∈ Transition.trace (MeshState.step KnownAnswers.defaultKey.env) startOfRun echoRun,
      AnswersOnce t.before.ctx
        (MeshState.handled KnownAnswers.defaultKey.env t.before t.event) := by
  intro hevery
  have hanswers := hevery _ (List.mem_cons_of_mem _ (List.mem_cons_of_mem _
    List.mem_cons_self)) 0x28123456 7
  have hone := hanswers.2 (by decide) (by decide)
  exact absurd hone (by decide)

end Meshtastenstein
