import Meshtastenstein.Core
import Meshtastenstein.RebroadcastQueue
import Meshtastenstein.Reception
import Meshtastenstein.Runs
/-!
# The relaying part of the node

What decides which frames of other nodes are passed on: the duplicate history and the
rebroadcast queue.  Every other handler leaves them alone, so a step of the node is a
step of this part on an input of its own.
-/

namespace Meshtastenstein

open Lib Proto Handlers

/-! ## State and inputs -/

structure RelayState where
  nodeNum : UInt32
  router : MeshRouter
  queue : Bounded PendingRebroadcast 8

inductive RelayInput
  /-- A frame that decoded, heard under a role; a first copy of it is relayed by the
  deadline, if there is one. -/
  | heard (frame : RadioFrame) (header : PacketHeader) (role : DeviceRole)
      (deadline : Option Nat)
  /-- A frame that may be relayed blind. -/
  | blind (frame : RadioFrame) (header : PacketHeader) (deadline : Nat)
  /-- The rebroadcast timer fires. -/
  | due (now : Nat)
  /-- The node restarts under a number. -/
  | reset (nodeNum : UInt32)

def RelayInput.frame : RelayInput → Option RadioFrame
  | .heard frame _ _ _ => some frame
  | .blind frame _ _ => some frame
  | .due _ => none
  | .reset _ => none

/-- What the node `nodeNum` tells its relaying part: the header is the frame's, the frame is
of another node, and a relay is asked for only while there are hops left. -/
def RelayInput.Admissible (nodeNum : UInt32) : RelayInput → Prop
  | .heard frame header _ deadline =>
      frame.header = some header ∧ header.sender ≠ nodeNum ∧
        (deadline.isSome → header.hopLimit ≠ 0)
  | .blind frame header _ =>
      frame.header = some header ∧ header.sender ≠ nodeNum ∧ header.hopLimit ≠ 0
  | .due _ => True
  | .reset _ => True

namespace RelayState

def relayed (st : RelayState) (frame : RadioFrame) (header : PacketHeader) : RadioFrame :=
  frame.withRewrittenHeader (header.hopLimit - 1) (lastByte st.nodeNum)

def schedule (st : RelayState) (frame : RadioFrame) (header : PacketHeader)
    (deadline : Nat) : RelayState :=
  { st with
    queue := FromRadio.queueRebroadcast st.queue
      { frame := st.relayed frame header, deadline := deadline } }

def upgrade (st : RelayState) (frame : RadioFrame) (header : PacketHeader) : RelayState :=
  match st.queue.toList.findIdx? (FromRadio.isRebroadcastOf header) with
  | some i =>
      { st with
        queue := ⟨st.queue.toList.modify i fun p => { p with frame := st.relayed frame header },
          by simpa using st.queue.length_le⟩ }
  | none => st

def cancel (st : RelayState) (header : PacketHeader) : RelayState :=
  { st with queue := st.queue.retain fun p => !FromRadio.isRebroadcastOf header p }

/-- The verdict of the duplicate history on a packet, and the history after it. -/
def filter (st : RelayState) (header : PacketHeader) (role : DeviceRole) :
    FilterResult × MeshRouter :=
  st.router.shouldFilterReceived header.sender header.packetId header.hopLimit
    header.relayNode
    ((st.queue.toList.find? (FromRadio.isRebroadcastOf header)).bind fun p =>
      p.frame.header.map (·.hopLimit))
    role

/-- A packet that decoded is relayed, or improves, cancels or repeats what is queued. -/
def hear (st : RelayState) (frame : RadioFrame) (header : PacketHeader) (role : DeviceRole)
    (deadline : Option Nat) : RelayState :=
  let (verdict, router) := st.filter header role
  let st := { st with router := router }
  match verdict with
  | .new =>
      match deadline with
      | some deadline => st.schedule frame header deadline
      | none => st
  | .duplicateUpgrade _ => st.upgrade frame header
  | .duplicateCancelRelay => st.cancel header
  | .duplicateDrop => st

/-- A frame nobody vouches for is relayed once. -/
def hearBlind (st : RelayState) (frame : RadioFrame) (header : PacketHeader)
    (deadline : Nat) : RelayState :=
  let (relay, router) := st.router.shouldRelayOpaque header.sender header.packetId
    header.hopStart header.hopLimit
  let st := { st with router := router }
  if relay then st.schedule frame header deadline else st

def nextDue (st : RelayState) (now : Nat) : Option (Nat × PendingRebroadcast) :=
  (FromRadio.earliestDue st.queue.toList).bind fun i =>
    (st.queue.toList[i]?.filter fun p => decide (p.deadline ≤ now)).map fun p => (i, p)

theorem nextDue_of_getElem? (st : RelayState) {i : Nat} {pending : PendingRebroadcast}
    (hearliest : FromRadio.earliestDue st.queue.toList = some i)
    (hentry : st.queue.toList[i]? = some pending) (now : Nat) :
    st.nextDue now = if pending.deadline ≤ now then some (i, pending) else none := by
  unfold nextDue
  rw [hearliest, Option.bind_some, hentry, Option.filter_some]
  by_cases hdue : pending.deadline ≤ now
  · rw [if_pos (decide_eq_true hdue), if_pos hdue, Option.map_some]
  · rw [if_neg (by simpa using hdue), if_neg hdue, Option.map_none]

theorem getElem?_of_nextDue {st : RelayState} {now i : Nat} {pending : PendingRebroadcast}
    (h : st.nextDue now = some (i, pending)) : st.queue.toList[i]? = some pending := by
  obtain ⟨j, hj, hnext⟩ := Option.bind_eq_some_iff.mp h
  obtain ⟨p, hp, hpair⟩ := Option.map_eq_some_iff.mp hnext
  obtain ⟨rfl, rfl⟩ := Prod.mk.inj hpair
  exact (Option.filter_eq_some_iff.mp hp).1

def sends (st : RelayState) : RelayInput → Option RadioFrame
  | .due now => (st.nextDue now).map fun due => due.2.frame
  | _ => none

def fire (st : RelayState) (now : Nat) : RelayState :=
  match st.nextDue now with
  | some (i, _) => { st with queue := st.queue.swapRemove i }
  | none => st

def fresh (nodeNum : UInt32) : RelayState where
  nodeNum := nodeNum
  router := MeshRouter.new nodeNum
  queue := Bounded.empty

def step (st : RelayState) : RelayInput → RelayState
  | .heard frame header role deadline => st.hear frame header role deadline
  | .blind frame header deadline => st.hearBlind frame header deadline
  | .due now => st.fire now
  | .reset nodeNum => fresh nodeNum

theorem upgrade_cases (st : RelayState) (frame : RadioFrame) (header : PacketHeader) :
    st.upgrade frame header = st ∨
    ∃ old kept, old.frame.key = some header.key ∧ st.queue.toList.Perm (old :: kept) ∧
      (st.upgrade frame header).queue.toList.Perm
        ({ old with frame := st.relayed frame header } :: kept) := by
  cases hfind : st.queue.toList.findIdx? (FromRadio.isRebroadcastOf header) with
  | none =>
      left
      unfold upgrade
      rw [hfind]
  | some i =>
      right
      obtain ⟨hi, hentry, -⟩ := List.findIdx?_eq_some_iff_getElem.mp hfind
      refine ⟨st.queue.toList[i], st.queue.toList.eraseIdx i,
        FromRadio.isRebroadcastOf_iff.mp hentry, (List.getElem_cons_eraseIdx_perm hi).symm, ?_⟩
      unfold upgrade
      rw [hfind]
      dsimp only
      rw [List.modify_eq_set_get _ hi]
      exact List.set_perm_cons_eraseIdx hi _

/-! ### Verdicts -/

theorem hear_of_new {st : RelayState} {header : PacketHeader} {role : DeviceRole}
    {router : MeshRouter} (h : st.filter header role = (.new, router)) (frame : RadioFrame)
    (deadline : Option Nat) :
    st.hear frame header role deadline =
      match deadline with
      | some deadline => { st with router := router }.schedule frame header deadline
      | none => { st with router := router } := by
  unfold hear
  rw [h]

theorem hear_of_upgrade {st : RelayState} {header : PacketHeader} {role : DeviceRole}
    {router : MeshRouter} {hopLimit : UInt8}
    (h : st.filter header role = (.duplicateUpgrade hopLimit, router)) (frame : RadioFrame)
    (deadline : Option Nat) :
    st.hear frame header role deadline = { st with router := router }.upgrade frame header := by
  unfold hear
  rw [h]

theorem hear_of_cancel {st : RelayState} {header : PacketHeader} {role : DeviceRole}
    {router : MeshRouter} (h : st.filter header role = (.duplicateCancelRelay, router))
    (frame : RadioFrame) (deadline : Option Nat) :
    st.hear frame header role deadline = { st with router := router }.cancel header := by
  unfold hear
  rw [h]

theorem hear_of_drop {st : RelayState} {header : PacketHeader} {role : DeviceRole}
    {router : MeshRouter} (h : st.filter header role = (.duplicateDrop, router))
    (frame : RadioFrame) (deadline : Option Nat) :
    st.hear frame header role deadline = { st with router := router } := by
  unfold hear
  rw [h]

theorem hopLimit_ne_zero_of_upgrade {st : RelayState} {header : PacketHeader}
    {role : DeviceRole} {router : MeshRouter} {hopLimit : UInt8}
    (h : st.filter header role = (.duplicateUpgrade hopLimit, router)) :
    header.hopLimit ≠ 0 := by
  unfold filter at h
  cases hfind : st.router.findRecord header.sender header.packetId with
  | none =>
      unfold MeshRouter.shouldFilterReceived at h
      rw [hfind] at h
      cases h
  | some idx =>
      rw [MeshRouter.shouldFilterReceived_of_find hfind] at h
      split at h
      · rename_i hbetter
        obtain ⟨limit, -, hless⟩ := (Option.any_eq_true _ _).mp hbetter
        have hpos := UInt8.lt_iff_toNat_lt.mp (of_decide_eq_true hless)
        intro hzero
        rw [hzero] at hpos
        exact Nat.not_lt_zero _ hpos
      · split at h <;> cases h

end RelayState

/-- The relaying part of a context. -/
def MeshCtx.relayState {S : Type} (ctx : MeshCtx S) : RelayState where
  nodeNum := ctx.device.myNodeNum
  router := ctx.router
  queue := ctx.pendingRebroadcast

/-! ## Work that leaves the relaying part alone -/

namespace MeshCtx

variable {S : Type}

/-- The relaying part reads three fields. -/
theorem relayState_congr {ctx ctx' : MeshCtx S}
    (hnum : ctx'.device.myNodeNum = ctx.device.myNodeNum) (hrouter : ctx'.router = ctx.router)
    (hqueue : ctx'.pendingRebroadcast = ctx.pendingRebroadcast) :
    ctx'.relayState = ctx.relayState := by
  unfold relayState
  rw [hnum, hrouter, hqueue]

theorem relayState_of_core {ctx ctx' : MeshCtx S} (h : ctx'.core = ctx.core) :
    ctx'.relayState = ctx.relayState :=
  relayState_congr (congrArg (fun core => core.settings.myNodeNum) h)
    (congrArg Core.router h) (congrArg Core.pendingRebroadcast h)

theorem relayState_of_resident {ctx ctx' : MeshCtx S} (h : ctx'.resident = ctx.resident) :
    ctx'.relayState = ctx.relayState :=
  relayState_of_core (core_of_resident h)

end MeshCtx

namespace Handlers.Admin

variable {S : Type} {env : Env}

theorem relayState_sendAdminResponse (ctx : MeshCtx S) (requester reqPktId : UInt32)
    (variant : AdminMessage.Variant) (viaLora : Bool) :
    (sendAdminResponse env ctx requester reqPktId variant viaLora).relayState =
      ctx.relayState := by
  obtain ⟨session, entropy, hpasskey⟩ := ensureSessionPasskey_eq ctx
  have hsession : (ensureSessionPasskey ctx).relayState = ctx.relayState := by
    rw [hpasskey]
    rfl
  unfold sendAdminResponse
  split
  · rw [MeshCtx.relayState_of_resident (resident_originate _ _), hsession]
  · exact hsession

theorem Administered.relayState_eq {ctx ctx' : MeshCtx S} (h : Administered ctx ctx') :
    ctx'.relayState = ctx.relayState :=
  MeshCtx.relayState_congr (congrArg (fun traffic => traffic.2.2.2.1) h.traffic_eq)
    (congrArg (fun traffic => traffic.1) h.traffic_eq) h.pendingRebroadcast_eq

variable [MeshStorage S]

@[simp] theorem relayState_dispatch (ctx : MeshCtx S) (requester reqPktId : UInt32)
    (adminBytes : Bytes) (viaLora : Bool) :
    (dispatch env ctx requester reqPktId adminBytes viaLora).relayState =
      ctx.relayState := by
  rcases dispatch_cases ctx requester reqPktId adminBytes viaLora with
    ⟨answer, hanswer⟩ | hadministered
  · rw [hanswer, relayState_sendAdminResponse]
  · exact hadministered.relayState_eq

end Handlers.Admin

namespace Handlers.FromRadio

variable {S : Type} {env : Env} [MeshStorage S]

theorem relayState_handlePortnum (ctx : MeshCtx S) (portnum : Int32) (pkt : InboundPacket) :
    (handlePortnum env ctx portnum pkt).relayState = ctx.relayState := by
  by_cases hadmin : portnum = PortNum.adminApp.toI32
  · unfold handlePortnum handleAdmin
    rw [hadmin, PortNum.tryFrom_toI32]
    dsimp only
    split
    · exact Admin.relayState_dispatch ctx _ _ _ _
    · rfl
  · exact MeshCtx.relayState_of_core (core_handlePortnum ctx pkt hadmin)

/-! ## A reception as a step of the relaying part -/

variable (env)

/-- The context in which the relay of a first copy is decided. -/
def beforeRelay (ctx : MeshCtx S) (frame : RadioFrame) (header : PacketHeader)
    (metadata : RadioMetadata) (decoded : DecodedPayload) : MeshCtx S :=
  let ctx := noteSender env ctx header metadata
  let pkt := inboundPacket ctx.device header metadata decoded
  let ctx := bufferText ctx frame decoded.portnum
  let ctx := handlePortnum env ctx decoded.portnum pkt
  let ctx := forwardInbound ctx header metadata decoded pkt
  ackInbound env ctx header decoded

omit [MeshStorage S] in
def rebroadcastDeadline (ctx : MeshCtx S) (metadata : RadioMetadata) : Nat :=
  ctx.now + env.rebroadcastDelayMs metadata.snr ctx.device.role
    ctx.device.modemConfig.spreadingFactor ctx.device.modemConfig.bandwidthHz ctx.randomU32

def relayDeadline (ctx : MeshCtx S) (header : PacketHeader) (metadata : RadioMetadata) :
    Option Nat :=
  if shouldRebroadcastForRole ctx.device.role ∧
      (ctx.router.shouldRebroadcast header.hopLimit header.sender).isSome ∧
      (header.destination = BROADCAST_ADDR ∨
        ctx.router.shouldRelayDirected header.destination header.nextHop = true) then
    some (rebroadcastDeadline env ctx metadata)
  else none

omit [MeshStorage S] in
def filtered (ctx : MeshCtx S) (header : PacketHeader) : MeshCtx S :=
  { ctx with router := (ctx.relayState.filter header ctx.device.role).2 }

/-- The state in which it is decided whether a first copy is relayed. -/
def processed (ctx : MeshCtx S) (frame : RadioFrame) (header : PacketHeader)
    (metadata : RadioMetadata) (decoded : DecodedPayload) : MeshCtx S :=
  beforeRelay env (filtered ctx header) frame header metadata decoded

/-- What the relaying part is told of a received frame. -/
def relayInput (ctx : MeshCtx S) (frame : RadioFrame) (metadata : RadioMetadata) :
    Option RelayInput :=
  match frame.header with
  | none => none
  | some header =>
      if header.sender = ctx.device.myNodeNum then none
      else
        match tryDecryptAndDecode env frame header ctx.device ctx.nodeDb ctx.pkcPrivBytes with
        | .decoded decoded =>
            some (.heard frame header ctx.device.role
              (relayDeadline env (processed env ctx frame header metadata decoded) header
                metadata))
        | .pkiUnknownPubkey => none
        | .drop =>
            if header.destination ≠ ctx.device.myNodeNum ∧
                shouldRebroadcastForRole ctx.device.role ∧ header.hopLimit ≠ 0 then
              some (.blind frame header (rebroadcastDeadline env ctx metadata))
            else none

variable {env}

omit [MeshStorage S] in
theorem hopLimit_ne_zero_of_relayDeadline {ctx : MeshCtx S} {header : PacketHeader}
    {metadata : RadioMetadata} (h : (relayDeadline env ctx header metadata).isSome) :
    header.hopLimit ≠ 0 := by
  intro hzero
  unfold relayDeadline MeshRouter.shouldRebroadcast at h
  rw [if_pos hzero] at h
  simp at h

theorem frame_of_relayInput {ctx : MeshCtx S} {frame : RadioFrame} {metadata : RadioMetadata}
    {input : RelayInput} (h : relayInput env ctx frame metadata = some input) :
    input.frame = some frame := by
  unfold relayInput at h
  split at h
  · cases h
  · split at h
    · cases h
    · split at h
      · cases h
        rfl
      · cases h
      · split at h
        · cases h
          rfl
        · cases h

theorem admissible_relayInput {ctx : MeshCtx S} {frame : RadioFrame}
    {metadata : RadioMetadata} {input : RelayInput}
    (h : relayInput env ctx frame metadata = some input) :
    input.Admissible ctx.device.myNodeNum := by
  unfold relayInput at h
  split at h
  · cases h
  · rename_i header hheader
    split at h
    · cases h
    · rename_i hsender
      split at h
      · cases h
        exact ⟨hheader, hsender, hopLimit_ne_zero_of_relayDeadline⟩
      · cases h
      · split at h
        · rename_i hrelay
          cases h
          exact ⟨hheader, hsender, hrelay.2.2⟩
        · cases h

@[simp] theorem relayState_beforeRelay (ctx : MeshCtx S) (frame : RadioFrame)
    (header : PacketHeader) (metadata : RadioMetadata) (decoded : DecodedPayload) :
    (beforeRelay env ctx frame header metadata decoded).relayState = ctx.relayState := by
  unfold beforeRelay
  dsimp only
  rw [MeshCtx.relayState_of_resident (resident_ackInbound _ header decoded),
    MeshCtx.relayState_of_resident (resident_forwardInbound _ header metadata decoded _),
    relayState_handlePortnum, MeshCtx.relayState_of_core (core_bufferText _ frame decoded.portnum),
    MeshCtx.relayState_of_core (core_noteSender ctx header metadata)]

omit [MeshStorage S] in
theorem relayState_scheduleRebroadcast (ctx : MeshCtx S) (frame : RadioFrame)
    (header : PacketHeader) (metadata : RadioMetadata) :
    (scheduleRebroadcast env ctx frame metadata (header.hopLimit - 1)).relayState =
      ctx.relayState.schedule frame header (rebroadcastDeadline env ctx metadata) := rfl

omit [MeshStorage S] in
theorem relayState_relayInbound (ctx : MeshCtx S) (frame : RadioFrame)
    (header : PacketHeader) (metadata : RadioMetadata) :
    (relayInbound env ctx frame header metadata).relayState =
      match relayDeadline env ctx header metadata with
      | some deadline => ctx.relayState.schedule frame header deadline
      | none => ctx.relayState := by
  unfold relayInbound relayDeadline
  cases hrole : shouldRebroadcastForRole ctx.device.role with
  | false => simp
  | true =>
      cases hhop : ctx.router.shouldRebroadcast header.hopLimit header.sender with
      | none => simp
      | some newHop =>
          have hnew : newHop = header.hopLimit - 1 := by
            unfold MeshRouter.shouldRebroadcast at hhop
            split at hhop
            · cases hhop
            · split at hhop
              · cases hhop
              · exact (Option.some.inj hhop).symm
          subst hnew
          rw [if_pos rfl]
          dsimp only
          by_cases hrelay : header.destination = BROADCAST_ADDR ∨
              ctx.router.shouldRelayDirected header.destination header.nextHop = true
          · have hskip : ¬ (header.destination ≠ BROADCAST_ADDR ∧
                ctx.router.shouldRelayDirected header.destination header.nextHop = false) := by
              rintro ⟨hdest, hdirected⟩
              rcases hrelay with hbroadcast | htrue
              · exact hdest hbroadcast
              · rw [hdirected] at htrue
                cases htrue
            rw [if_neg hskip, if_pos ⟨rfl, rfl, hrelay⟩]
            exact relayState_scheduleRebroadcast ctx frame header metadata
          · have hskip : header.destination ≠ BROADCAST_ADDR ∧
                ctx.router.shouldRelayDirected header.destination header.nextHop = false :=
              ⟨fun h => hrelay (Or.inl h),
                Bool.eq_false_iff.mpr fun h => hrelay (Or.inr h)⟩
            rw [if_pos hskip, if_neg fun h => hrelay h.2.2]

omit [MeshStorage S] in
theorem relayState_maybeRelayOpaque (ctx : MeshCtx S) (frame : RadioFrame)
    (header : PacketHeader) (metadata : RadioMetadata) :
    (maybeRelayOpaque env ctx frame header metadata).relayState =
      if shouldRebroadcastForRole ctx.device.role ∧ header.hopLimit ≠ 0 then
        ctx.relayState.hearBlind frame header (rebroadcastDeadline env ctx metadata)
      else ctx.relayState := by
  unfold maybeRelayOpaque
  cases hrole : shouldRebroadcastForRole ctx.device.role with
  | false => simp
  | true =>
      by_cases hhop : header.hopLimit = 0
      · simp [hhop]
      · rw [if_neg (by simp), if_neg hhop, if_pos ⟨rfl, hhop⟩]
        unfold RelayState.hearBlind MeshCtx.relayState
        dsimp only
        split <;> rfl

omit [MeshStorage S] in
theorem relayState_upgradeRebroadcast (ctx : MeshCtx S) (frame : RadioFrame)
    (header : PacketHeader) :
    (upgradeRebroadcast ctx frame header (header.hopLimit - 1)).relayState =
      ctx.relayState.upgrade frame header := by
  unfold upgradeRebroadcast RelayState.upgrade MeshCtx.relayState
  dsimp only
  cases ctx.pendingRebroadcast.toList.findIdx? (isRebroadcastOf header) <;> rfl

theorem relayState_handleDecoded (ctx : MeshCtx S) (frame : RadioFrame)
    (header : PacketHeader) (metadata : RadioMetadata) (decoded : DecodedPayload) :
    (handleDecoded env ctx frame header metadata decoded).relayState =
      ctx.relayState.hear frame header ctx.device.role
        (relayDeadline env (processed env ctx frame header metadata decoded) header
          metadata) := by
  unfold handleDecoded RelayState.hear
  have hfilter : ctx.router.shouldFilterReceived header.sender header.packetId
      header.hopLimit header.relayNode (pendingHopLimit ctx header) ctx.device.role =
      ctx.relayState.filter header ctx.device.role := rfl
  rw [hfilter]
  cases hverdict : ctx.relayState.filter header ctx.device.role with
  | mk verdict router =>
      have hprocessed : processed env ctx frame header metadata decoded =
          beforeRelay env { ctx with router := router } frame header metadata decoded := by
        unfold processed filtered
        rw [hverdict]
      rw [hprocessed]
      dsimp only
      cases verdict with
      | new =>
          have hnew : handleNew env { ctx with router := router } frame header metadata decoded =
              relayInbound env (beforeRelay env { ctx with router := router } frame header
                metadata decoded) frame header metadata := rfl
          rw [hnew, relayState_relayInbound, relayState_beforeRelay]
          rfl
      | duplicateUpgrade newHop =>
          have hhop : newHop = header.hopLimit - 1 := by
            unfold RelayState.filter at hverdict
            cases hfind : ctx.relayState.router.findRecord header.sender header.packetId with
            | none =>
                unfold MeshRouter.shouldFilterReceived at hverdict
                rw [hfind] at hverdict
                cases hverdict
            | some idx =>
                rw [MeshRouter.shouldFilterReceived_of_find hfind] at hverdict
                split at hverdict
                · cases hverdict
                  rfl
                · split at hverdict <;> cases hverdict
          rw [hhop, relayState_upgradeRebroadcast]
          rfl
      | duplicateCancelRelay => rfl
      | duplicateDrop => rfl

theorem relayState_dispatch (ctx : MeshCtx S) (frame : RadioFrame)
    (metadata : RadioMetadata) :
    (dispatch env ctx frame metadata).relayState =
      match relayInput env ctx frame metadata with
      | some input => ctx.relayState.step input
      | none => ctx.relayState := by
  unfold dispatch relayInput
  cases hheader : frame.header with
  | none => rfl
  | some header =>
      dsimp only
      by_cases hsender : header.sender = ctx.device.myNodeNum
      · rw [if_pos hsender, if_pos hsender]
        exact MeshCtx.relayState_of_resident (resident_hearOwnPacket ctx header)
      · rw [if_neg hsender, if_neg hsender]
        cases tryDecryptAndDecode env frame header ctx.device ctx.nodeDb ctx.pkcPrivBytes with
        | decoded decoded => exact relayState_handleDecoded ctx frame header metadata decoded
        | pkiUnknownPubkey =>
            exact MeshCtx.relayState_of_resident (resident_answerUnknownPubkey ctx header)
        | drop =>
            dsimp only
            unfold handleUndecodable
            by_cases hdest : header.destination = ctx.device.myNodeNum
            · rw [if_neg (fun h => h hdest), if_neg (fun h => h.1 hdest)]
            · rw [if_pos hdest, relayState_maybeRelayOpaque]
              by_cases hmay : shouldRebroadcastForRole ctx.device.role ∧ header.hopLimit ≠ 0
              · rw [if_pos hmay, if_pos ⟨hdest, hmay⟩]
                rfl
              · rw [if_neg hmay, if_neg (fun h => hmay h.2)]

end Handlers.FromRadio

namespace Handlers.FromApp

variable {S : Type} {env : Env} [MeshStorage S]

theorem relayState_transmitDecoded (ctx : MeshCtx S) (pkt : MeshPacket) (data : Data) :
    (transmitDecoded env ctx pkt data).relayState = ctx.relayState := by
  unfold transmitDecoded
  split
  · unfold handleLocalAdmin sendBleRoutingAck
    dsimp only
    split
    · rw [MeshCtx.relayState_of_resident (resident_sendBleRoutingResult _ _ _ _),
        Admin.relayState_dispatch]
    · exact Admin.relayState_dispatch ctx _ _ _ _
  · unfold notePosition
    rw [MeshCtx.relayState_of_resident (resident_sendToMesh _ pkt data)]
    split <;> rfl

theorem relayState_handleToRadio (ctx : MeshCtx S) (variant : Option ToRadio.Variant) :
    (handleToRadio env ctx variant).relayState = ctx.relayState := by
  unfold handleToRadio
  split
  · unfold transmitFromBlePacket
    split
    · exact relayState_transmitDecoded ctx _ _
    · rfl
  · dsimp only
    rw [MeshCtx.relayState_of_core (core_replayStoredFrames _)]
    split
    · exact MeshCtx.relayState_of_resident (resident_sendNodeinfoExchange ctx _)
    · exact MeshCtx.relayState_of_resident (resident_sendConfigExchange ctx _)
  · split
    · exact MeshCtx.relayState_of_resident (resident_sendNodeinfo ctx _ _)
    · exact MeshCtx.relayState_of_resident (resident_pushFromRadio ctx _)
  · rfl
  · rfl

@[simp] theorem relayState_dispatch (ctx : MeshCtx S) (data : Bytes) :
    (dispatch env ctx data).relayState = ctx.relayState := by
  unfold dispatch
  split
  · rfl
  · split
    · rfl
    · rw [MeshCtx.relayState_of_resident (MeshCtx.resident_blink _ _), relayState_handleToRadio]

end Handlers.FromApp

/-! ## The node as a relaying machine -/

namespace MeshState

variable {S : Type} [MeshStorage S] (env : Env)

def workInput (state : MeshState S) : Event → Option RelayInput
  | .mesh (.loraRx frame metadata) =>
      if state.started then
        FromRadio.relayInput env (noteActivity state.ctx (.loraRx frame metadata)) frame metadata
      else none
  | .rebroadcastDue => if state.started then some (.due state.ctx.now) else none
  | _ => none

def relayInputs (state : MeshState S) (event : Event) : List RelayInput :=
  (workInput env state event).toList ++
    if restarts env state event then
      [.reset (step env state event).ctx.device.myNodeNum]
    else []

/-- What the relaying part is told over a run. -/
def relayInputsOver (state : MeshState S) (events : List Event) : List RelayInput :=
  (Transition.trace (step env) state events).flatMap fun t => relayInputs env t.before t.event

variable {env}

omit [MeshStorage S] in
theorem relayState_noteActivity (ctx : MeshCtx S) (event : MeshEvent) :
    (noteActivity ctx event).relayState = ctx.relayState := by
  cases event <;> rfl

omit [MeshStorage S] in
/-- The rebroadcast timer sends what is due first and takes it from the queue. -/
theorem fireRebroadcast_eq (ctx : MeshCtx S) :
    fireRebroadcast ctx =
      match ctx.relayState.nextDue ctx.now with
      | some (i, pending) =>
          { ctx with pendingRebroadcast := ctx.pendingRebroadcast.swapRemove i }.sendLora
            pending.frame
      | none => ctx := by
  unfold fireRebroadcast
  cases hearliest : FromRadio.earliestDue ctx.pendingRebroadcast.toList with
  | none =>
      have hnone : ctx.relayState.nextDue ctx.now = none := by
        unfold RelayState.nextDue MeshCtx.relayState
        rw [hearliest, Option.bind_none]
      rw [hnone]
  | some i =>
      dsimp only
      cases hentry : ctx.pendingRebroadcast.toList[i]? with
      | none =>
          have hnone : ctx.relayState.nextDue ctx.now = none := by
            unfold RelayState.nextDue MeshCtx.relayState
            rw [hearliest, Option.bind_some, hentry, Option.filter_none, Option.map_none]
          rw [hnone]
      | some pending =>
          have hnext : ctx.relayState.nextDue ctx.now =
              if pending.deadline ≤ ctx.now then some (i, pending) else none :=
            ctx.relayState.nextDue_of_getElem? hearliest hentry ctx.now
          rw [hnext]
          dsimp only
          split <;> rfl

omit [MeshStorage S] in
theorem relayState_fireRebroadcast (ctx : MeshCtx S) :
    (fireRebroadcast ctx).relayState = ctx.relayState.fire ctx.now := by
  rw [fireRebroadcast_eq]
  unfold RelayState.fire
  cases ctx.relayState.nextDue ctx.now <;> rfl

omit [MeshStorage S] in
theorem relayState_fireRetransmissions (ctx : MeshCtx S) :
    (fireRetransmissions env ctx).relayState = ctx.relayState := by
  unfold fireRetransmissions
  dsimp only
  apply MeshCtx.relayState_of_core
  rw [MeshCtx.core_of_resident (MeshCtx.resident_foldl (fun ctx (report : UInt32 × UInt32) =>
      resident_sendBleRoutingResult ctx report.1 report.2 .maxRetransmit) _ _),
    MeshCtx.core_of_resident (MeshCtx.resident_foldl MeshCtx.resident_sendLora _ _)]
  rfl

omit [MeshStorage S] in
theorem Housekept.relayState_eq {ctx ctx' : MeshCtx S} (h : Housekept ctx ctx') :
    ctx'.relayState = ctx.relayState := by
  obtain ⟨_, _, _, rfl⟩ := h
  rfl

theorem workInput_loraRx {state : MeshState S} (hstarted : state.started = true)
    (frame : RadioFrame) (metadata : RadioMetadata) :
    workInput env state (.mesh (.loraRx frame metadata)) =
      FromRadio.relayInput env (noteActivity state.ctx (.loraRx frame metadata)) frame
        metadata :=
  if_pos hstarted

theorem workInput_rebroadcastDue {state : MeshState S} (hstarted : state.started = true) :
    workInput env state .rebroadcastDue = some (.due state.ctx.now) :=
  if_pos hstarted

theorem workInput_of_not_started {state : MeshState S} (hstarted : ¬ state.started = true)
    (event : Event) : workInput env state event = none := by
  unfold workInput
  split
  · exact if_neg hstarted
  · exact if_neg hstarted
  · rfl

/-- The relaying part is told of a received frame, or that its timer fires. -/
theorem workInput_eq_some {state : MeshState S} {event : Event} {input : RelayInput}
    (h : workInput env state event = some input) :
    (∃ frame metadata, event = .mesh (.loraRx frame metadata) ∧
      input.frame = some frame ∧ input.Admissible state.ctx.device.myNodeNum) ∨
    (event = .rebroadcastDue ∧ input = .due state.ctx.now) := by
  by_cases hstarted : state.started = true
  · cases event with
    | mesh event =>
        cases event with
        | loraRx frame metadata =>
            rw [workInput_loraRx hstarted] at h
            have hadmissible := FromRadio.admissible_relayInput h
            exact Or.inl ⟨frame, metadata, rfl, FromRadio.frame_of_relayInput h, hadmissible⟩
        | _ => cases h
    | rebroadcastDue =>
        rw [workInput_rebroadcastDue hstarted] at h
        exact Or.inr ⟨rfl, (Option.some.inj h).symm⟩
    | _ => cases h
  · rw [workInput_of_not_started hstarted] at h
    cases h

theorem admissible_workInput {state : MeshState S} {event : Event} {input : RelayInput}
    (h : workInput env state event = some input) :
    input.Admissible state.ctx.device.myNodeNum := by
  rcases workInput_eq_some h with ⟨_, _, _, _, hadmissible⟩ | ⟨_, rfl⟩
  · exact hadmissible
  · trivial

theorem relayState_handled (state : MeshState S) (event : Event) :
    (handled env state event).relayState =
      (workInput env state event).toList.foldl RelayState.step state.ctx.relayState := by
  cases event with
  | announce =>
      unfold handled
      dsimp only
      split
      · rfl
      · exact MeshCtx.relayState_of_resident (Periodic.resident_broadcastNodeinfo state.ctx)
  | mesh event =>
      unfold handled
      dsimp only
      by_cases hstarted : state.started = true
      · rw [if_pos hstarted]
        cases event with
        | loraRx frame metadata =>
            unfold Handlers.dispatch workInput
            dsimp only
            rw [if_pos hstarted, FromRadio.relayState_dispatch, relayState_noteActivity]
            cases FromRadio.relayInput env (noteActivity state.ctx (.loraRx frame metadata))
              frame metadata <;> rfl
        | bleRx data => exact (FromApp.relayState_dispatch _ data)
        | bleConnected => rfl
        | bleDisconnected => rfl
        | bondSave bytes => rfl
        | bondClear => rfl
        | batteryUpdate level voltageMv =>
            exact MeshCtx.relayState_of_resident
              (Periodic.resident_sendDeviceTelemetry _ level voltageMv)
        | channelUtilUpdate channelUtil airUtilTx => rfl
        | tick =>
            exact (MeshCtx.relayState_of_resident (Periodic.resident_dispatch _)).trans
              (relayState_noteActivity _ .tick)
      · rw [if_neg hstarted]
        cases event with
        | loraRx frame metadata => simp [workInput, hstarted]
        | _ => rfl
  | rebroadcastDue =>
      unfold handled workInput
      dsimp only
      split
      · exact relayState_fireRebroadcast state.ctx
      · rfl
  | retransmissionDue =>
      unfold handled
      dsimp only
      split
      · exact relayState_fireRetransmissions state.ctx
      · rfl
  | bleTaken => rfl
  | loraTaken => rfl
  | elapse ms => rfl
  | powerCycle => rfl

theorem relayState_step (state : MeshState S) (event : Event) :
    (step env state event).ctx.relayState =
      Transition.run RelayState.step state.ctx.relayState (relayInputs env state event) := by
  unfold relayInputs Transition.run
  rw [List.foldl_append, ← relayState_handled]
  cases hrestart : restarts env state event with
  | false => exact (step_of_not_restarts hrestart).relayState_eq
  | true =>
      obtain ⟨housed, -, hreboot⟩ := step_of_restarts hrestart
      rw [hreboot]
      rfl

theorem relayState_run (state : MeshState S) (events : List Event) :
    (Transition.run (step env) state events).ctx.relayState =
      Transition.run RelayState.step state.ctx.relayState
        (relayInputsOver env state events) :=
  Transition.run_view (fun state : MeshState S => state.ctx.relayState) relayState_step state
    events

end MeshState

end Meshtastenstein
