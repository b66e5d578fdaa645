import Meshtastenstein.NodeDbEdits
import Meshtastenstein.Originations
import Meshtastenstein.Retransmissions
/-!
# The copies of a tracked packet

Beside every pending packet runs a list of the copies that were handed to the radio for it, from
the first, when the packet of the phone is taken on, to the last retry.  The list is a beginning
of the same four copies whatever happens between them.
-/

namespace Meshtastenstein

open Lib Proto Handlers

variable {S : Type} {env : Env}

namespace Handlers.FromRadio

/-! ## The packet that a frame settles -/

theorem newPacket_eq_some_iff {ctx : MeshCtx S} {frame : RadioFrame} {header : PacketHeader}
    {decoded : DecodedPayload} :
    newPacket env ctx frame = some (header, decoded) ↔
      frame.header = some header ∧ header.sender ≠ ctx.device.myNodeNum ∧
      ctx.router.findRecord header.sender header.packetId = none ∧
      tryDecryptAndDecode env frame header ctx.device ctx.nodeDb ctx.pkcPrivBytes =
        .decoded decoded := by
  unfold newPacket
  constructor
  · intro h
    split at h
    · cases h
    rename_i found hheader
    split at h
    · cases h
    rename_i hsender
    split at h
    · rename_i content hdecoded
      split at h
      · rename_i hnew
        cases h
        exact ⟨hheader, hsender,
          MeshRouter.findRecord_eq_none_of_new (Prod.ext hnew rfl), hdecoded⟩
      · cases h
    · cases h
  · rintro ⟨hheader, hsender, hfind, hdecoded⟩
    rw [hheader]
    dsimp only
    rw [if_neg hsender, hdecoded]
    unfold MeshRouter.shouldFilterReceived
    rw [hfind]

def settledIndex (env : Env) (ctx : MeshCtx S) (frame : RadioFrame) : Option Nat :=
  match frame.header with
  | none => none
  | some header =>
      if header.sender = ctx.device.myNodeNum then ctx.pendingPackets.position header.packetId
      else
        match newPacket env ctx frame with
        | none => none
        | some (_, decoded) =>
            if decoded.portnum = PortNum.routingApp.toI32 ∧
                (env.prost.routing.decode decoded.payload).isSome = true ∧
                decoded.requestId ≠ 0 then
              ctx.pendingPackets.position decoded.requestId
            else none

theorem settledIndex_of_own {ctx : MeshCtx S} {frame : RadioFrame} {header : PacketHeader}
    (hheader : frame.header = some header) (hsender : header.sender = ctx.device.myNodeNum) :
    settledIndex env ctx frame = ctx.pendingPackets.position header.packetId := by
  unfold settledIndex
  rw [hheader]
  exact if_pos hsender

theorem settledIndex_of_acknowledges {ctx : MeshCtx S} {frame : RadioFrame}
    {header : PacketHeader} {entry : PendingPacket}
    (h : Acknowledges env ctx frame header entry) :
    settledIndex env ctx frame = ctx.pendingPackets.position entry.packetId := by
  obtain ⟨hheader, hsender, hfind, decoded, i, hdecoded, hportnum, hrouting, hrequest, hi,
    hentry⟩ := h
  obtain ⟨found, hfound, hid⟩ := position_eq_some hi
  rw [hentry] at hfound
  cases hfound
  have hnew := newPacket_eq_some_iff.mpr ⟨hheader, hsender, hfind, hdecoded⟩
  unfold settledIndex
  rw [hheader]
  dsimp only
  rw [if_neg hsender, hnew]
  dsimp only
  rw [if_pos ⟨hportnum, hrouting, hrequest⟩, hid]

theorem settles_of_settledIndex {ctx : MeshCtx S} {frame : RadioFrame} {i : Nat}
    (h : settledIndex env ctx frame = some i) :
    ∃ entry, NamesOwnPacket ctx frame entry ∨
      ∃ header, Acknowledges env ctx frame header entry := by
  unfold settledIndex at h
  split at h
  · cases h
  rename_i header hheader
  split at h
  · rename_i hsender
    obtain ⟨entry, hentry, -⟩ := position_eq_some h
    exact ⟨entry, Or.inl ⟨header, i, hheader, hsender, h, hentry⟩⟩
  split at h
  · cases h
  rename_i header' decoded hnew
  obtain ⟨hheader', hsender, hfind, hdecoded⟩ := newPacket_eq_some_iff.mp hnew
  split at h
  · rename_i hrouting
    obtain ⟨entry, hentry, -⟩ := position_eq_some h
    exact ⟨entry, Or.inr ⟨header', hheader', hsender, hfind, decoded, i, hdecoded, hrouting.1,
      hrouting.2.1, hrouting.2.2, h, hentry⟩⟩
  · cases h

variable [MeshStorage S]

theorem pendingPackets_dispatch (ctx : MeshCtx S) (frame : RadioFrame)
    (metadata : RadioMetadata) :
    (dispatch env ctx frame metadata).pendingPackets =
      ((settledIndex env ctx frame).map ctx.pendingPackets.swapRemove).getD
        ctx.pendingPackets := by
  have hreceived := @received_dispatch S env _ ctx frame metadata
  have hremoves : ∀ i, settledIndex env ctx frame = some i →
      ∃ entry, Removes ctx.pendingPackets (dispatch env ctx frame metadata).pendingPackets
        entry := by
    intro i hi
    obtain ⟨entry, hnames | ⟨header, hacknowledges⟩⟩ := settles_of_settledIndex hi
    · exact ⟨entry, hnames.removes metadata⟩
    · exact ⟨entry, hacknowledges.removes metadata⟩
  generalize dispatch env ctx frame metadata = after at hreceived hremoves
  cases hreceived with
  | quiet router hquiet =>
      have hkept : after.pendingPackets = ctx.pendingPackets := hquiet.pendingPackets_eq
      cases hsettled : settledIndex env ctx frame with
      | none => exact hkept
      | some i =>
          obtain ⟨entry, hentry⟩ := hremoves i hsettled
          rw [hkept] at hentry
          exact absurd hentry (not_removes_self ctx.pendingPackets entry)
  | ownPacket hheader hsender hi =>
      rw [settledIndex_of_own hheader hsender, hi]
      rfl
  | delivered router hacknowledges hi hentry hbefore hroom hafter =>
      rw [settledIndex_of_acknowledges hacknowledges, hi, hafter.pendingPackets_eq,
        pendingPackets_deliver, hbefore.pendingPackets_eq]
      rfl

end Handlers.FromRadio

/-! ## The packet that the phone adds -/

inductive Handlers.FromApp.Tracks (ctx after : MeshCtx S) : List PendingPacket → Prop
  | nothing (hpending : after.pendingPackets.toList = ctx.pendingPackets.toList) :
      Tracks ctx after []
  | packet {entry : PendingPacket}
      (hpending : after.pendingPackets.toList = ctx.pendingPackets.toList ++ [entry])
      (hretries : entry.retriesLeft = NUM_RELIABLE_RETX)
      (hheader : entry.frame.header.isSome = true)
      (hlora : after.txToLora = ctx.txToLora ++ [entry.frame]) :
      Tracks ctx after [entry]

namespace Handlers.FromApp

theorem tracks_of_performs {ctx after : MeshCtx S} {pkt : MeshPacket} {data : Data}
    (h : Performs env ctx pkt (packetIdFor ctx.device pkt) (sendOutcome env ctx pkt data) after) :
    ∃ entries, Tracks ctx after entries := by
  have hbuilt := fun frame => @build_of_mem_frames S env ctx pkt data frame
  generalize sendOutcome env ctx pkt data = outcome at h hbuilt
  cases outcome with
  | tracked frame =>
      obtain ⟨-, -, hheader, -⟩ :=
        TxBuilder.build_eq_some (hbuilt frame (List.mem_singleton_self frame))
      exact ⟨_, .packet h.pending rfl (Option.isSome_iff_exists.mpr ⟨_, hheader⟩) h.lora⟩
  | silent => exact ⟨[], .nothing (h.pending.trans (List.append_nil _))⟩
  | failed error => exact ⟨[], .nothing (h.pending.trans (List.append_nil _))⟩
  | confirmed frame => exact ⟨[], .nothing (h.pending.trans (List.append_nil _))⟩

theorem tracks_dispatch [MeshStorage S] (ctx : MeshCtx S) (bytes : Bytes) :
    ∃ entries, Tracks ctx (dispatch env ctx bytes) entries := by
  rcases @dispatch_cases S env _ ctx bytes with
    hquiet | ⟨toRadio, pkt, data, hdecode, hpacket, hdata, hdispatch⟩
  · exact ⟨[], .nothing (congrArg Bounded.toList hquiet.pendingPackets_eq)⟩
  · rw [hdispatch]
    cases hlocal : isLocalAdmin ctx.device pkt data with
    | true =>
        have hadmin :=
          @Admin.quiet_dispatch S env _ ctx pkt.fromNode pkt.id data.payload false
        have hpending : (handleLocalAdmin env ctx pkt data).pendingPackets =
            ctx.pendingPackets := by
          unfold handleLocalAdmin sendBleRoutingAck
          dsimp only
          split
          · rw [pendingPackets_sendBleRoutingResult, hadmin.pendingPackets_eq]
          · exact hadmin.pendingPackets_eq
        unfold transmitDecoded
        rw [if_pos hlocal]
        exact ⟨[], .nothing (congrArg Bounded.toList hpending)⟩
    | false =>
        have hperforms := @performs_transmitFromBlePacket S env _ ctx pkt data hdata hlocal
        unfold transmitFromBlePacket at hperforms
        rw [hdata] at hperforms
        exact tracks_of_performs
          ⟨hperforms.lora, hperforms.pending, hperforms.ble⟩

end Handlers.FromApp

/-! ## The copies that a pass sends -/

theorem fireRetransmissions_queues (ctx : MeshCtx S) :
    (MeshState.fireRetransmissions env ctx).pendingPackets =
      (MeshRouter.tickRetransmissions ctx.now ctx.pendingPackets ctx.nodeDb).pending ∧
    (MeshState.fireRetransmissions env ctx).txToLora = ctx.txToLora ++
      (MeshRouter.tickRetransmissions ctx.now ctx.pendingPackets ctx.nodeDb).toSend := by
  have hreports : ∀ (reports : List (UInt32 × UInt32)) (ctx : MeshCtx S),
      (reports.foldl (fun ctx report =>
        sendBleRoutingResult env ctx report.1 report.2 .maxRetransmit) ctx).pendingPackets =
          ctx.pendingPackets ∧
      (reports.foldl (fun ctx report =>
        sendBleRoutingResult env ctx report.1 report.2 .maxRetransmit) ctx).txToLora =
          ctx.txToLora := by
    intro reports
    induction reports with
    | nil => exact fun ctx => ⟨rfl, rfl⟩
    | cons report reports ih =>
        intro ctx
        obtain ⟨hpending, hlora⟩ :=
          ih (sendBleRoutingResult env ctx report.1 report.2 .maxRetransmit)
        exact ⟨hpending.trans (FromApp.pendingPackets_sendBleRoutingResult ctx _ _ _),
          hlora.trans (FromApp.txToLora_sendBleRoutingResult ctx _ _ _)⟩
  unfold MeshState.fireRetransmissions
  dsimp only
  rw [foldl_sendLora]
  obtain ⟨hpending, hlora⟩ := hreports
    (MeshRouter.tickRetransmissions ctx.now ctx.pendingPackets ctx.nodeDb).gaveUp _
  exact ⟨hpending, hlora⟩

/-! ## Tracks -/

/-- The frame and its retries, the last of which falls back to flooding. -/
def RadioFrame.attempts (first : RadioFrame) : List RadioFrame :=
  List.replicate 3 first ++ [first.withoutNextHop]

theorem RadioFrame.length_attempts (first : RadioFrame) : first.attempts.length = 1 + 3 := rfl

structure Track where
  entry : PendingPacket
  copies : List RadioFrame

namespace Track

def start (entry : PendingPacket) : Track := ⟨entry, [entry.frame]⟩

def postpone (track : Track) : Track :=
  { track with entry :=
      { track.entry with deadline := track.entry.deadline + RETX_AIRTIME_EXTENSION_MS } }

def copy (now : Nat) (track : Track) : Option RadioFrame := MeshRouter.copy now track.entry

def fate (now : Nat) (track : Track) : Option Track :=
  (MeshRouter.fate now track.entry).map fun entry =>
    ⟨entry, track.copies ++ (track.copy now).toList⟩

/-- As many attempts were made as retries are used up, and the entry holds the last. -/
structure Follows (first : RadioFrame) (track : Track) : Prop where
  bounded : track.entry.retriesLeft.toNat ≤ 3
  copies : track.copies = first.attempts.take (1 + (3 - track.entry.retriesLeft.toNat))
  frame : track.entry.frame =
    if track.entry.retriesLeft = 0 then first.withoutNextHop else first

variable {first : RadioFrame} {track : Track}

theorem follows_start {entry : PendingPacket} (h : entry.retriesLeft = NUM_RELIABLE_RETX) :
    (start entry).Follows entry.frame := by
  have hretries : (start entry).entry.retriesLeft = 3 := h
  refine ⟨?_, ?_, ?_⟩
  · rw [hretries]
    decide
  · rw [hretries]
    rfl
  · rw [hretries]
    rfl

theorem Follows.postpone (h : track.Follows first) : track.postpone.Follows first :=
  ⟨h.bounded, h.copies, h.frame⟩

theorem Follows.retransmit (h : track.Follows first) (now : Nat)
    (hretries : 0 < track.entry.retriesLeft) :
    Follows first ⟨MeshRouter.retransmit now track.entry,
      track.copies ++ [(MeshRouter.retransmit now track.entry).frame]⟩ := by
  have hpos : 0 < track.entry.retriesLeft.toNat := UInt8.lt_iff_toNat_lt.mp hretries
  have hne : track.entry.retriesLeft ≠ 0 := fun hzero => by
    rw [hzero] at hpos
    exact Nat.lt_irrefl 0 hpos
  have hleft : (track.entry.retriesLeft - 1).toNat = track.entry.retriesLeft.toNat - 1 :=
    UInt8.toNat_sub_of_le _ _ (UInt8.le_iff_toNat_le.mpr hpos)
  have hbounded := h.bounded
  have hfirst : track.entry.frame = first := by
    rw [h.frame, if_neg hne]
  have hframe : (MeshRouter.retransmit now track.entry).frame =
      if track.entry.retriesLeft - 1 = 0 then first.withoutNextHop else first := by
    rw [← hfirst]
    rfl
  refine ⟨?_, ?_, hframe⟩
  · change (track.entry.retriesLeft - 1).toNat ≤ 3
    omega
  · change track.copies ++ [(MeshRouter.retransmit now track.entry).frame] =
      first.attempts.take (1 + (3 - (track.entry.retriesLeft - 1).toNat))
    rw [hframe, h.copies, hleft]
    have hcases : track.entry.retriesLeft = 1 ∨ track.entry.retriesLeft = 2 ∨
        track.entry.retriesLeft = 3 := by
      rw [← UInt8.toNat_inj, ← UInt8.toNat_inj, ← UInt8.toNat_inj]
      change _ = 1 ∨ _ = 2 ∨ _ = 3
      omega
    rcases hcases with hone | htwo | hthree
    · rw [hone]
      rfl
    · rw [htwo]
      rfl
    · rw [hthree]
      rfl

/-- A pass adds the copy that it sends. -/
theorem Follows.fate (h : track.Follows first) {now : Nat} {next : Track}
    (hfate : track.fate now = some next) : next.Follows first := by
  obtain ⟨entry, hentry, rfl⟩ := Option.map_eq_some_iff.mp hfate
  unfold Track.copy
  rcases MeshRouter.fate_cases now track.entry with
    ⟨hkept, hcopy, -⟩ | ⟨hretries, hretried, hcopy, -⟩ | ⟨hgone, -⟩
  · rw [hkept] at hentry
    cases hentry
    rw [hcopy, Option.toList_none, List.append_nil]
    exact h
  · rw [hretried] at hentry
    cases hentry
    rw [hcopy]
    exact h.retransmit now hretries
  · rw [hgone] at hentry
    cases hentry

def Genuine (track : Track) : Prop :=
  ∃ first : RadioFrame, first.header.isSome = true ∧ track.Follows first

/-- One copy to four were sent, with the same bytes but for the next hop of the fourth, which is
zero. -/
structure Tried (track : Track) : Prop where
  sent : 0 < track.copies.length
  bounded : track.copies.length ≤ 1 + 3
  alike : ∃ first : RadioFrame, HEADER_SIZE ≤ first.bytes.length ∧
    track.copies.map (·.bytes) <+:
      List.replicate 3 first.bytes ++ [first.bytes.set 14 NO_NEXT_HOP]

theorem Follows.prefix_attempts (h : track.Follows first) : track.copies <+: first.attempts := by
  rw [h.copies]
  exact List.take_prefix _ _

theorem Follows.length_copies (h : track.Follows first) :
    track.copies.length + track.entry.retriesLeft.toNat = 1 + 3 := by
  have hbounded := h.bounded
  rw [h.copies, List.length_take, RadioFrame.length_attempts]
  omega

theorem Genuine.tried (h : track.Genuine) : track.Tried := by
  obtain ⟨first, hheader, hfollows⟩ := h
  obtain ⟨header, hheader⟩ := Option.isSome_iff_exists.mp hheader
  have hlength := hfollows.length_copies
  have hbounded := hfollows.bounded
  refine ⟨by omega, by omega, first, RadioFrame.length_of_header hheader, ?_⟩
  have hattempts : first.attempts.map (·.bytes) =
      List.replicate 3 first.bytes ++ [first.bytes.set 14 NO_NEXT_HOP] := by
    rw [← RadioFrame.bytes_withoutNextHop hheader]
    rfl
  rw [← hattempts]
  exact hfollows.prefix_attempts.map _

end Track

/-! ## Tracks along a step -/

namespace MeshState

variable [MeshStorage S]

def newlyPending (env : Env) (state : MeshState S) (bytes : Bytes) : List PendingPacket :=
  (FromApp.dispatch env state.ctx bytes).pendingPackets.toList.drop
    state.ctx.pendingPackets.toList.length

/-- The tracks of the packets that are pending after an event, and of those that no longer
are. -/
def retrack (env : Env) (state : MeshState S) (tracks : List Track) :
    Event → List Track × List Track
  | .mesh (.loraRx frame metadata) =>
      if state.started then
        match FromRadio.settledIndex env (noteActivity state.ctx (.loraRx frame metadata))
            frame with
        | some i => (Bounded.swapRemoveList (tracks.map Track.postpone) i, tracks[i]?.toList)
        | none => (tracks.map Track.postpone, [])
      else (tracks, [])
  | .mesh (.bleRx bytes) =>
      if state.started then (tracks ++ (newlyPending env state bytes).map Track.start, [])
      else (tracks, [])
  | .retransmissionDue =>
      if state.started then
        (Sweep.swept (Track.fate state.ctx.now) tracks.length 0 tracks,
          tracks.filter fun track => (track.fate state.ctx.now).isNone)
      else (tracks, [])
  | _ => (tracks, [])

/-- The copies that the tracks grow by. -/
def copied (env : Env) (state : MeshState S) (tracks : List Track) : Event → List RadioFrame
  | .mesh (.bleRx bytes) =>
      if state.started then (newlyPending env state bytes).map (·.frame) else []
  | .retransmissionDue =>
      if state.started then
        (Sweep.visited (Track.fate state.ctx.now) tracks.length 0 tracks).filterMap
          (Track.copy state.ctx.now)
      else []
  | _ => []

variable {state : MeshState S} {tracks : List Track}

theorem tracks_newlyPending (state : MeshState S) (bytes : Bytes) :
    FromApp.Tracks state.ctx (FromApp.dispatch env state.ctx bytes)
      (newlyPending env state bytes) := by
  obtain ⟨entries, htracks⟩ := @FromApp.tracks_dispatch S env _ state.ctx bytes
  have hentries : newlyPending env state bytes = entries := by
    unfold newlyPending
    cases htracks with
    | nothing hpending => rw [hpending, List.drop_length]
    | packet hpending => rw [hpending, List.drop_left]
  rw [hentries]
  exact htracks

theorem map_fate_entry (now : Nat) (track : Track) :
    (track.fate now).map Track.entry = MeshRouter.fate now track.entry := by
  unfold Track.fate
  rw [Option.map_map]
  exact Option.map_id'

theorem pendingPackets_handled {event : Event}
    (hframe : ∀ frame metadata, event ≠ .mesh (.loraRx frame metadata))
    (hphone : ∀ bytes, event ≠ .mesh (.bleRx bytes)) (hretries : event ≠ .retransmissionDue) :
    (handled env state event).pendingPackets = state.ctx.pendingPackets := by
  have hwork := @work_handled S _ env state event
  generalize handled env state event = after at hwork
  cases hwork with
  | received hstarted frame metadata => exact absurd rfl (hframe frame metadata)
  | asked hstarted bytes => exact absurd rfl (hphone bytes)
  | relayed i frame => rfl
  | retransmitted hstarted => exact absurd rfl hretries
  | bleTaken => rfl
  | loraTaken => rfl
  | quiet hquiet => exact hquiet.pendingPackets_eq

theorem handled_of_stopped (hstarted : state.started = false) (event : MeshEvent) :
    handled env state (.mesh event) = state.ctx := by
  unfold handled
  dsimp only
  rw [hstarted]
  rfl

theorem entries_received (halign : tracks.map Track.entry = state.ctx.pendingPackets.toList)
    (hstarted : state.started = true) (frame : RadioFrame) (metadata : RadioMetadata) :
    (retrack env state tracks (.mesh (.loraRx frame metadata))).1.map Track.entry =
      (handled env state (.mesh (.loraRx frame metadata))).pendingPackets.toList := by
  let noted := noteActivity state.ctx (.loraRx frame metadata)
  have hhandled : handled env state (.mesh (.loraRx frame metadata)) =
      FromRadio.dispatch env noted frame metadata := if_pos hstarted
  have hnoted : (tracks.map Track.postpone).map Track.entry = noted.pendingPackets.toList := by
    change _ = state.ctx.pendingPackets.toList.map _
    rw [← halign, List.map_map, List.map_map]
    rfl
  rw [hhandled, FromRadio.pendingPackets_dispatch]
  unfold retrack
  dsimp only
  rw [if_pos hstarted]
  change (match FromRadio.settledIndex env noted frame with
    | some i => (Bounded.swapRemoveList (tracks.map Track.postpone) i, tracks[i]?.toList)
    | none => (tracks.map Track.postpone, [])).1.map Track.entry = _
  cases FromRadio.settledIndex env noted frame with
  | none => exact hnoted
  | some i =>
      dsimp only
      rw [Bounded.map_swapRemoveList, hnoted]
      rfl

theorem entries_asked (halign : tracks.map Track.entry = state.ctx.pendingPackets.toList)
    (hstarted : state.started = true) (bytes : Bytes) :
    (retrack env state tracks (.mesh (.bleRx bytes))).1.map Track.entry =
      (handled env state (.mesh (.bleRx bytes))).pendingPackets.toList := by
  have hhandled : handled env state (.mesh (.bleRx bytes)) =
      FromApp.dispatch env state.ctx bytes := if_pos hstarted
  have htracks := @tracks_newlyPending S env _ state bytes
  rw [hhandled]
  unfold retrack
  dsimp only
  rw [if_pos hstarted, List.map_append, halign]
  generalize newlyPending env state bytes = entries at htracks
  cases htracks with
  | nothing hpending => rw [hpending, List.map_nil, List.map_nil, List.append_nil]
  | packet hpending => rw [hpending, List.map_singleton, List.map_singleton, Track.start]

theorem entries_retransmitted
    (halign : tracks.map Track.entry = state.ctx.pendingPackets.toList)
    (hstarted : state.started = true) :
    (retrack env state tracks .retransmissionDue).1.map Track.entry =
      (handled env state .retransmissionDue).pendingPackets.toList := by
  have hhandled : handled env state .retransmissionDue = fireRetransmissions env state.ctx :=
    if_pos hstarted
  have hlength : tracks.length = state.ctx.pendingPackets.length := by
    rw [← List.length_map Track.entry, halign]
    rfl
  rw [hhandled, (fireRetransmissions_queues state.ctx).1]
  unfold retrack
  dsimp only
  rw [if_pos hstarted, Sweep.map_swept (map_fate_entry state.ctx.now), halign, hlength]
  exact (MeshRouter.tickRetransmissions_eq_sweep _ _ _).1.symm

theorem entries_retrack (halign : tracks.map Track.entry = state.ctx.pendingPackets.toList)
    (event : Event) :
    (retrack env state tracks event).1.map Track.entry =
      (handled env state event).pendingPackets.toList := by
  have hidle : (∀ frame metadata, event ≠ .mesh (.loraRx frame metadata)) →
      (∀ bytes, event ≠ .mesh (.bleRx bytes)) → event ≠ .retransmissionDue →
      tracks.map Track.entry = (handled env state event).pendingPackets.toList := by
    intro hframe hphone hretries
    rw [halign, pendingPackets_handled hframe hphone hretries]
  cases hstarted : state.started with
  | true =>
      cases event with
      | mesh event =>
          cases event with
          | loraRx frame metadata => exact entries_received halign hstarted frame metadata
          | bleRx bytes => exact entries_asked halign hstarted bytes
          | _ => exact hidle (by simp) (by simp) (by simp)
      | retransmissionDue => exact entries_retransmitted halign hstarted
      | _ => exact hidle (by simp) (by simp) (by simp)
  | false =>
      have hsame : (retrack env state tracks event).1 = tracks := by
        unfold retrack
        split
        · rw [hstarted]
          rfl
        · rw [hstarted]
          rfl
        · rw [hstarted]
          rfl
        · rfl
      rw [hsame]
      cases event with
      | mesh event => rw [handled_of_stopped hstarted, halign]
      | retransmissionDue =>
          have hhandled : handled env state .retransmissionDue = state.ctx := by
            unfold handled
            dsimp only
            rw [hstarted]
            rfl
          rw [hhandled, halign]
      | _ => exact hidle (by simp) (by simp) (by simp)

theorem txToLora_handled_of_copied
    (halign : tracks.map Track.entry = state.ctx.pendingPackets.toList) {event : Event}
    (hcopied : copied env state tracks event ≠ []) :
    (handled env state event).txToLora =
      state.ctx.txToLora ++ copied env state tracks event := by
  cases event with
  | mesh event =>
      cases event with
      | bleRx bytes =>
          unfold copied at hcopied ⊢
          dsimp only at hcopied ⊢
          split at hcopied
          · rename_i hstarted
            have hhandled : handled env state (.mesh (.bleRx bytes)) =
                FromApp.dispatch env state.ctx bytes := if_pos hstarted
            have htracks := @tracks_newlyPending S env _ state bytes
            rw [if_pos hstarted, hhandled]
            generalize newlyPending env state bytes = entries at htracks hcopied
            cases htracks with
            | nothing hpending => exact absurd rfl hcopied
            | packet hpending hretries hheader hlora => exact hlora
          · exact absurd rfl hcopied
      | _ => exact absurd rfl hcopied
  | retransmissionDue =>
      unfold copied at hcopied ⊢
      dsimp only at hcopied ⊢
      split at hcopied
      · rename_i hstarted
        have hhandled : handled env state .retransmissionDue =
            fireRetransmissions env state.ctx := if_pos hstarted
        have hlength : tracks.length = state.ctx.pendingPackets.length := by
          rw [← List.length_map Track.entry, halign]
          rfl
        rw [if_pos hstarted, hhandled, (fireRetransmissions_queues state.ctx).2]
        apply congrArg (state.ctx.txToLora ++ ·)
        rw [show Track.copy state.ctx.now = MeshRouter.copy state.ctx.now ∘ Track.entry from rfl,
          ← List.filterMap_map, Sweep.map_visited (map_fate_entry state.ctx.now), halign, hlength]
        exact (MeshRouter.tickRetransmissions_eq_sweep _ _ _).2.1
      · exact absurd rfl hcopied
  | _ => exact absurd rfl hcopied

theorem genuine_retrack (h : ∀ track ∈ tracks, track.Genuine) (event : Event) :
    ∀ track ∈ (retrack env state tracks event).1 ++ (retrack env state tracks event).2,
      track.Genuine := by
  have hsame : ∀ track ∈ tracks ++ [], track.Genuine := by
    rw [List.append_nil]
    exact h
  have hpostponed : ∀ track ∈ tracks.map Track.postpone, track.Genuine := by
    intro track htrack
    obtain ⟨old, hold, rfl⟩ := List.mem_map.mp htrack
    obtain ⟨first, hheader, hfollows⟩ := h old hold
    exact ⟨first, hheader, hfollows.postpone⟩
  unfold retrack
  split
  · split
    · split
      · intro track htrack
        rcases List.mem_append.mp htrack with hkept | hsettled
        · exact hpostponed track (Bounded.swapRemoveList_subset _ _ hkept)
        · exact h track (List.mem_of_getElem? (Option.mem_toList.mp hsettled))
      · rw [List.append_nil]
        exact hpostponed
    · exact hsame
  · rename_i bytes
    split
    · rw [List.append_nil]
      intro track htrack
      rcases List.mem_append.mp htrack with hold | hnew
      · exact h track hold
      · have htracks := @tracks_newlyPending S env _ state bytes
        generalize newlyPending env state bytes = entries at htracks hnew
        cases htracks with
        | nothing hpending => cases hnew
        | packet hpending hretries hheader hlora =>
            rw [List.mem_singleton.mp hnew]
            exact ⟨_, hheader, Track.follows_start hretries⟩
    · exact hsame
  · split
    · intro track htrack
      rcases List.mem_append.mp htrack with hkept | hgone
      · have hswept := @Sweep.perm_swept Track (Track.fate state.ctx.now) tracks.length 0 tracks
          (Nat.le_refl _)
        obtain ⟨old, hold, hfate⟩ := List.mem_filterMap.mp (hswept.mem_iff.mp hkept)
        obtain ⟨first, hheader, hfollows⟩ := h old hold
        exact ⟨first, hheader, hfollows.fate hfate⟩
      · exact h track (List.mem_of_mem_filter hgone)
    · exact hsame
  · exact hsame

end MeshState

/-! ## Runs -/

/-- A node, the tracks of its pending packets, and the tracks of those that no longer are. -/
structure Tracking (S : Type) where
  state : MeshState S
  tracks : List Track
  closed : List Track

namespace Tracking

variable [MeshStorage S]

/-- A restart forgets the pending packets. -/
def step (env : Env) (run : Tracking S) (event : MeshState.Event) : Tracking S :=
  let (tracks, closed) := MeshState.retrack env run.state run.tracks event
  let state := MeshState.step env run.state event
  if MeshState.restarts env run.state event then
    { state := state, tracks := [], closed := run.closed ++ (tracks ++ closed) }
  else { state := state, tracks := tracks, closed := run.closed ++ closed }

def boot (env : Env) (mac : Bytes) (storage : S) (pkcKeypair : Key × Key)
    (entropy : Nat → UInt32) : Tracking S where
  state := MeshState.boot env mac storage pkcKeypair entropy
  tracks := []
  closed := []

def after (env : Env) (mac : Bytes) (storage : S) (pkcKeypair : Key × Key)
    (entropy : Nat → UInt32) (events : List MeshState.Event) : Tracking S :=
  Transition.run (step env) (boot env mac storage pkcKeypair entropy) events

theorem state_step (run : Tracking S) (event : MeshState.Event) :
    (run.step env event).state = MeshState.step env run.state event := by
  unfold step
  dsimp only
  split <;> rfl

theorem state_after (mac : Bytes) (storage : S) (pkcKeypair : Key × Key)
    (entropy : Nat → UInt32) (events : List MeshState.Event) :
    (after env mac storage pkcKeypair entropy events).state =
      MeshState.after env mac storage pkcKeypair entropy events :=
  Transition.run_project state_step (boot env mac storage pkcKeypair entropy) events

structure Sound (run : Tracking S) : Prop where
  entries : run.tracks.map Track.entry = run.state.ctx.pendingPackets.toList
  tracks : ∀ track ∈ run.tracks, track.Genuine
  closed : ∀ track ∈ run.closed, track.Genuine

theorem Sound.step {run : Tracking S} (h : run.Sound) (event : MeshState.Event) :
    (run.step env event).Sound := by
  have hgenuine := @MeshState.genuine_retrack S env _ run.state run.tracks h.tracks event
  have hclosed : ∀ tracks : List Track, (∀ track ∈ tracks, track.Genuine) →
      ∀ track ∈ run.closed ++ tracks, track.Genuine := by
    intro tracks htracks track htrack
    rcases List.mem_append.mp htrack with hold | hnew
    · exact h.closed track hold
    · exact htracks track hnew
  unfold Tracking.step
  dsimp only
  cases hrestarts : MeshState.restarts env run.state event with
  | true =>
      rw [if_pos rfl]
      refine ⟨?_, fun _ htrack => absurd htrack List.not_mem_nil, hclosed _ hgenuine⟩
      obtain ⟨housed, -, hreboot⟩ := MeshState.step_of_restarts hrestarts
      dsimp only
      rw [hreboot]
      rfl
  | false =>
      rw [if_neg Bool.false_ne_true]
      refine ⟨?_, fun track htrack => hgenuine track (List.mem_append_left _ htrack),
        hclosed _ fun track htrack => hgenuine track (List.mem_append_right _ htrack)⟩
      have hpending : (MeshState.step env run.state event).ctx.pendingPackets =
          (MeshState.handled env run.state event).pendingPackets :=
        congrArg (fun traffic => traffic.2.1) (MeshState.step_of_not_restarts hrestarts).traffic_eq
      dsimp only
      rw [hpending]
      exact MeshState.entries_retrack h.entries event

theorem sound_boot (mac : Bytes) (storage : S) (pkcKeypair : Key × Key)
    (entropy : Nat → UInt32) : (boot env mac storage pkcKeypair entropy).Sound :=
  ⟨rfl, fun _ htrack => absurd htrack List.not_mem_nil,
    fun _ htrack => absurd htrack List.not_mem_nil⟩

theorem sound_after (mac : Bytes) (storage : S) (pkcKeypair : Key × Key)
    (entropy : Nat → UInt32) (events : List MeshState.Event) :
    (after env mac storage pkcKeypair entropy events).Sound :=
  @Transition.invariant_run _ _ (step env) Sound (fun _ _ => True)
    (fun _ event h _ => h.step event) _ _ (sound_boot mac storage pkcKeypair entropy)
    fun _ _ => trivial

def SendsCopies (env : Env) (run : Tracking S) (event : MeshState.Event) : Prop :=
  MeshState.copied env run.state run.tracks event ≠ [] →
    (MeshState.handled env run.state event).txToLora =
      run.state.ctx.txToLora ++ MeshState.copied env run.state run.tracks event

/-- A pass does what is due to every entry once and ends, and over a run every tracked packet is
sent four times at most, each time the same but for the next hop of the last. -/
theorem tried_after (mac : Bytes) (storage : S) (pkcKeypair : Key × Key)
    (entropy : Nat → UInt32) (events : List MeshState.Event) :
    (∀ (now : Nat) (pending : PendingPackets) (db : NodeDb),
      MeshRouter.Passes now pending (MeshRouter.tickRetransmissions now pending db) ∧
      ∀ more, MeshRouter.tickFrom now (pending.length + more) 0
          { pending := pending, nodeDb := db, toSend := [], gaveUp := [] } =
        MeshRouter.tickRetransmissions now pending db) ∧
    let run := after env mac storage pkcKeypair entropy events
    run.state = MeshState.after env mac storage pkcKeypair entropy events ∧
    run.tracks.map Track.entry = run.state.ctx.pendingPackets.toList ∧
    (∀ track ∈ run.tracks ++ run.closed, track.Tried) ∧
    Transition.Always (step env) (SendsCopies env)
      (boot env mac storage pkcKeypair entropy) events := by
  have hsound := @sound_after S env _ mac storage pkcKeypair entropy events
  refine ⟨fun now pending db => ⟨MeshRouter.passes_tickRetransmissions now pending db,
    MeshRouter.tickRetransmissions_ends now pending db⟩,
    state_after mac storage pkcKeypair entropy events, hsound.entries, ?_, ?_⟩
  · intro track htrack
    rcases List.mem_append.mp htrack with hpending | hclosed
    · exact (hsound.tracks track hpending).tried
    · exact (hsound.closed track hclosed).tried
  · exact @Transition.forall_trace _ _ (step env) Sound (fun _ _ => True)
      (fun t => SendsCopies env t.before t.event) (fun _ event h _ => h.step event)
      (fun _ _ h _ hcopied => MeshState.txToLora_handled_of_copied h.entries hcopied) _ _
      (sound_boot mac storage pkcKeypair entropy) fun _ _ => trivial

/-- A direct message that nobody acknowledges goes out four times, and is then given up. -/
example :
    ((after KnownAnswers.defaultKey.env KnownAnswers.mac ({} : FakeStorage)
      KnownAnswers.noKeypair KnownAnswers.noEntropy
      [.announce, .mesh (.bleRx FromRadio.directMessage), .elapse 5000, .retransmissionDue,
        .elapse 5000, .retransmissionDue, .elapse 4999, .retransmissionDue, .elapse 1,
        .retransmissionDue, .elapse 5000, .retransmissionDue]).closed.map fun track =>
          (track.entry.packetId, track.copies.length)) = [(7, 4)] := by
  decide +kernel

end Tracking

end Meshtastenstein
