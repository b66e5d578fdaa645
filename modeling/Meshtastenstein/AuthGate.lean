import Meshtastenstein.Core
import Meshtastenstein.KnownAnswers
import Meshtastenstein.Reception
/-!
# The authentication gate

A frame from another node that neither a stored key nor a channel vouches for may only
be relayed blind, or be answered with our identity.
-/

namespace Meshtastenstein.Handlers.FromRadio

open Lib Proto

variable {S : Type} {env : Env}

/-! ## What may happen -/

/-- Neither PKC under a stored key of the sender nor a channel of ours opens the payload. -/
def Unauthenticated (env : Env) (ctx : MeshCtx S) (frame : RadioFrame)
    (header : PacketHeader) : Prop :=
  pkcPlaintext env frame header ctx.device ctx.nodeDb ctx.pkcPrivBytes = none ∧
  ∀ channel, matchedChannel ctx.device header = some channel →
    pskPlaintext env frame header ctx.device = none

def Undecoded (env : Env) (ctx : MeshCtx S) (frame : RadioFrame) (header : PacketHeader) :
    Prop :=
  ∀ decoded, tryDecryptAndDecode env frame header ctx.device ctx.nodeDb ctx.pkcPrivBytes ≠
    .decoded decoded

def identityAnswers (env : Env) (ctx : MeshCtx S) (header : PacketHeader) : List TxBuilder :=
  [{ dest := header.sender
     portnum := PortNum.routingApp.toI32
     innerPayload := env.prost.routing.encode { variant := some (.errorReason .pkiUnknownPubkey) }
     channelIdx := some 0
     requestId := header.packetId },
   loraTx .nodeinfoApp (nodeInfoPayload env ctx.device ctx.nodeIdStr ctx.pkcPubBytes)
     header.sender false]

def SentAs (env : Env) (ctx : MeshCtx S) (tx : TxBuilder) (frame : RadioFrame) : Prop :=
  ∃ counter packetId, tx.build env { ctx.device with packetIdCounter := counter } ctx.router
    ctx.nodeDb packetId none = some frame

/-- What a frame nobody vouches for may turn the context into. -/
inductive PassesGate (env : Env) (ctx : MeshCtx S) (frame : RadioFrame)
    (header : PacketHeader) : MeshCtx S → Prop
  | untouched : PassesGate env ctx frame header ctx
  /-- The frame is relayed blind. -/
  | relayed (hundecoded : Undecoded env ctx frame header)
      (hdest : header.destination ≠ ctx.device.myNodeNum)
      (opaqueSeen : RingBuffer (UInt32 × UInt32) OPAQUE_SEEN_RING_SIZE) (deadline : Nat)
      (entropy : Nat → UInt32) :
      PassesGate env ctx frame header
        { ctx with
          router := { ctx.router with opaqueSeen := opaqueSeen }
          entropy := entropy
          pendingRebroadcast := queueRebroadcast ctx.pendingRebroadcast
            { frame := frame.withRewrittenHeader (header.hopLimit - 1)
                (lastByte ctx.device.myNodeNum)
              deadline := deadline } }
  /-- The sender is told that its key is unknown and who we are. -/
  | answered (hundecoded : Undecoded env ctx frame header) (hhash : header.channelIndex = 0)
      (hdest : header.destination = ctx.device.myNodeNum) (counter : UInt32)
      {frames : List RadioFrame} (hlength : frames.length ≤ 2)
      (hframes : ∀ frame ∈ frames, ∃ tx ∈ identityAnswers env ctx header, SentAs env ctx tx frame) :
      PassesGate env ctx frame header
        { ctx with
          device := { ctx.device with packetIdCounter := counter }
          txToLora := ctx.txToLora ++ frames }

/-- A frame from another node that nobody vouches for passes the gate. -/
def KeepsGate (env : Env) (ctx : MeshCtx S) (frame : RadioFrame) (after : MeshCtx S) : Prop :=
  ∀ header, frame.header = some header → header.sender ≠ ctx.device.myNodeNum →
    Unauthenticated env ctx frame header → PassesGate env ctx frame header after

/-- The payload as it stands is no message a node of ours would take: its channel is ours
but has no usable key, or it does not decode, or it is a text message to us. -/
def Undecodable (env : Env) (ctx : MeshCtx S) (frame : RadioFrame) (header : PacketHeader) :
    Prop :=
  ∀ data, matchedChannel ctx.device header = none →
    env.prost.data.decode frame.payload = some data →
    isLegacyDm header ctx.device data false = true

/-- The copy is a better one of a packet we are about to relay. -/
def Upgrades (ctx : MeshCtx S) (header : PacketHeader) : Prop :=
  (pendingHopLimit ctx header).any (· < header.hopLimit) = true

def Cancels (ctx : MeshCtx S) (header : PacketHeader) : Prop :=
  MeshRouter.roleAllowsCancel ctx.device.role ∧ header.relayNode ≠ 0 ∧
    header.relayNode ≠ lastByte ctx.router.ourNodeNum

/-- The packet is in the duplicate history with all this copy would add to it, and our
rebroadcast of it, if any, is already what the copy would make of it. -/
structure Absorbed (ctx : MeshCtx S) (frame : RadioFrame) (header : PacketHeader) : Prop where
  recorded : ∃ idx, ctx.router.findRecord header.sender header.packetId = some idx ∧
    ∀ record, ctx.router.history.slots[idx]? = some record →
      record.addRelayer header.relayNode = record ∧
      (Upgrades ctx header → record.bestHopLimit = header.hopLimit)
  upgraded : Upgrades ctx header → ∀ i pending,
    ctx.pendingRebroadcast.toList.findIdx? (isRebroadcastOf header) = some i →
    ctx.pendingRebroadcast.toList[i]? = some pending →
    pending.frame =
      frame.withRewrittenHeader (header.hopLimit - 1) (lastByte ctx.device.myNodeNum)
  cancelled : ¬ Upgrades ctx header → Cancels ctx header →
    ∀ pending ∈ ctx.pendingRebroadcast.toList, isRebroadcastOf header pending = false

/-! ## Outcomes of decoding -/

/-- Without a vouched payload, decoding fails exactly on an undecodable one. -/
theorem undecoded_iff {ctx : MeshCtx S} {frame : RadioFrame} {header : PacketHeader}
    (h : Unauthenticated env ctx frame header) :
    Undecoded env ctx frame header ↔ Undecodable env ctx frame header := by
  obtain ⟨hpkc, hpsk⟩ := h
  unfold Undecoded Undecodable tryDecryptAndDecode finalUndecodedOutcome
  dsimp only
  rw [hpkc, Option.none_or]
  cases hchannel : matchedChannel ctx.device header with
  | some channel =>
      rw [hpsk channel hchannel]
      dsimp only
      constructor
      · intro _ data hnone
        cases hnone
      · intro _ decoded
        split <;> simp
  | none =>
      have hraw : pskPlaintext env frame header ctx.device = some frame.payload := by
        unfold pskPlaintext
        rw [hchannel]
      rw [hraw]
      dsimp only
      cases hdecode : env.prost.data.decode frame.payload with
      | none =>
          constructor
          · intro _ data _ hnone
            cases hnone
          · intro _ decoded
            dsimp only
            split <;> simp
      | some data =>
          dsimp only
          cases hlegacy : isLegacyDm header ctx.device data (none : Option Bytes).isSome with
          | true =>
              constructor
              · intro _ data' _ hdata
                obtain rfl := Option.some.inj hdata
                exact hlegacy
              · intro _ decoded
                simp
          | false =>
              constructor
              · intro hundecoded
                exact absurd rfl (hundecoded _)
              · intro hundecodable
                have htrue := hundecodable data rfl rfl
                rw [show isLegacyDm header ctx.device data false = false from hlegacy] at htrue
                cases htrue

theorem eq_zero_of_pkiUnknownPubkey {ctx : MeshCtx S} {frame : RadioFrame}
    {header : PacketHeader}
    (h : tryDecryptAndDecode env frame header ctx.device ctx.nodeDb ctx.pkcPrivBytes =
      .pkiUnknownPubkey) :
    header.channelIndex = 0 ∧ header.destination = ctx.device.myNodeNum := by
  have hfinal : ∀ key, finalUndecodedOutcome header ctx.device key = .pkiUnknownPubkey →
      header.channelIndex = 0 ∧ header.destination = ctx.device.myNodeNum := by
    intro key hkey
    unfold finalUndecodedOutcome at hkey
    split at hkey
    · rename_i hcond
      exact ⟨hcond.1, hcond.2.1⟩
    · cases hkey
  unfold tryDecryptAndDecode at h
  dsimp only at h
  split at h
  · exact hfinal _ h
  · split at h
    · exact hfinal _ h
    · split at h <;> cases h

/-! ## Replies -/

def OnlySends (P : RadioFrame → Prop) (n : Nat) (ctx after : MeshCtx S) : Prop :=
  ∃ counter frames,
    after =
      { ctx with
        device := { ctx.device with packetIdCounter := counter }
        txToLora := ctx.txToLora ++ frames } ∧
    frames.length ≤ n ∧ ∀ frame ∈ frames, P frame

section

variable {P : RadioFrame → Prop}

theorem OnlySends.trans {m n : Nat} {ctx ctx' ctx'' : MeshCtx S} (h : OnlySends P m ctx ctx')
    (h' : OnlySends P n ctx' ctx'') : OnlySends P (m + n) ctx ctx'' := by
  obtain ⟨counter, frames, rfl, hlength, hframes⟩ := h
  obtain ⟨counter', frames', rfl, hlength', hframes'⟩ := h'
  refine ⟨counter', frames ++ frames', ?_, ?_, ?_⟩
  · rw [List.append_assoc]
  · rw [List.length_append]
    omega
  · intro frame hframe
    rcases List.mem_append.mp hframe with hframe | hframe
    · exact hframes frame hframe
    · exact hframes' frame hframe

theorem OnlySends.mono {Q : RadioFrame → Prop} {m n : Nat} {ctx after : MeshCtx S}
    (h : OnlySends P m ctx after) (hle : m ≤ n) (himp : ∀ frame, P frame → Q frame) :
    OnlySends Q n ctx after := by
  obtain ⟨counter, frames, heq, hlength, hframes⟩ := h
  exact ⟨counter, frames, heq, Nat.le_trans hlength hle,
    fun frame hframe => himp frame (hframes frame hframe)⟩

theorem onlySends_sendLora (ctx : MeshCtx S) {frame : RadioFrame} (h : P frame) :
    OnlySends P 1 ctx (ctx.takePacketId.sendLora frame) := by
  refine ⟨_, [frame], rfl, Nat.le_refl 1, ?_⟩
  intro frame' hframe'
  rwa [List.mem_singleton.mp hframe']

theorem onlySends_takePacketId (n : Nat) (ctx : MeshCtx S) : OnlySends P n ctx ctx.takePacketId :=
  ⟨_, [], by rw [List.append_nil]; rfl, Nat.zero_le n, by simp⟩

theorem onlySends_refl (n : Nat) (ctx : MeshCtx S) : OnlySends P n ctx ctx :=
  ⟨ctx.device.packetIdCounter, [], by rw [List.append_nil], Nat.zero_le n, by simp⟩

end

theorem onlySends_originate (ctx : MeshCtx S) (tx : TxBuilder) :
    OnlySends (SentAs env ctx tx) 1 ctx (originate env ctx tx) := by
  unfold originate
  dsimp only
  split
  · rename_i frame hbuild
    exact onlySends_sendLora ctx ⟨_, _, hbuild⟩
  · exact onlySends_takePacketId 1 ctx

theorem onlySends_sendNodeinfo (ctx : MeshCtx S) (dest : UInt32) (wantResponse : Bool) :
    OnlySends (SentAs env ctx (loraTx .nodeinfoApp
        (nodeInfoPayload env ctx.device ctx.nodeIdStr ctx.pkcPubBytes) dest wantResponse)) 1 ctx
      (sendNodeinfo env ctx dest wantResponse) := by
  unfold sendNodeinfo loraSend
  split
  · dsimp only
    split
    · rename_i frame hbuild
      exact onlySends_sendLora ctx ⟨_, _, hbuild⟩
    · exact onlySends_takePacketId 1 ctx
  · exact onlySends_refl 1 ctx

theorem onlySends_answerUnknownPubkey (ctx : MeshCtx S) (header : PacketHeader) :
    OnlySends (fun frame => ∃ tx ∈ identityAnswers env ctx header, SentAs env ctx tx frame) 2 ctx
      (answerUnknownPubkey env ctx header) := by
  unfold answerUnknownPubkey
  dsimp only
  split
  · have herror : OnlySends
        (fun frame => ∃ tx ∈ identityAnswers env ctx header, SentAs env ctx tx frame) 1 ctx
        (sendRoutingError env ctx header.sender header.packetId .pkiUnknownPubkey) :=
      (onlySends_originate ctx _).mono (Nat.le_refl 1)
        fun _ hsent => ⟨_, List.mem_cons_self, hsent⟩
    have hintroduced := @onlySends_sendNodeinfo S env
      (sendRoutingError env ctx header.sender header.packetId .pkiUnknownPubkey) header.sender false
    -- the report changes nothing that the introduction is built from
    obtain ⟨counter, frames, hreported, -⟩ := id herror
    refine herror.trans (hintroduced.mono (Nat.le_refl 1) fun frame hsent => ?_)
    rw [hreported] at hsent
    exact ⟨_, List.mem_cons_of_mem _ List.mem_cons_self, hsent⟩
  · exact (onlySends_sendNodeinfo ctx header.sender false).mono (Nat.le_succ 1)
      fun _ hsent => ⟨_, List.mem_cons_of_mem _ List.mem_cons_self, hsent⟩

theorem passesGate_handleUndecodable {ctx : MeshCtx S} {frame : RadioFrame}
    {header : PacketHeader} (metadata : RadioMetadata)
    (hundecoded : Undecoded env ctx frame header) :
    PassesGate env ctx frame header (handleUndecodable env ctx frame header metadata) := by
  unfold handleUndecodable maybeRelayOpaque
  split
  · rename_i hdest
    split
    · exact PassesGate.untouched
    split
    · exact PassesGate.untouched
    · cases hrelay : ctx.router.shouldRelayOpaque header.sender header.packetId
          header.hopStart header.hopLimit with
      | mk relay router =>
          -- only what was relayed blind is remembered
          have hrouter : (relay = false → router = ctx.router) ∧
              ∃ opaqueSeen, router = { ctx.router with opaqueSeen := opaqueSeen } := by
            unfold MeshRouter.shouldRelayOpaque at hrelay
            dsimp only at hrelay
            split at hrelay
            · cases hrelay
              exact ⟨fun _ => rfl, ctx.router.opaqueSeen, rfl⟩
            split at hrelay
            · cases hrelay
              exact ⟨fun _ => rfl, ctx.router.opaqueSeen, rfl⟩
            · cases hrelay
              exact ⟨fun h => absurd h (by simp), _, rfl⟩
          dsimp only
          obtain ⟨hsame, opaqueSeen, hseen⟩ := hrouter
          cases relay with
          | false =>
              rw [hsame rfl]
              exact PassesGate.untouched
          | true =>
              rw [hseen]
              exact PassesGate.relayed hundecoded hdest opaqueSeen _ _
  · exact PassesGate.untouched

/-! ## Duplicates -/

theorem addRelayer_withHopLimit_eq_iff {record : PacketRecord} {relayNode hopLimit : UInt8} :
    { record.addRelayer relayNode with bestHopLimit := hopLimit } = record ↔
      record.addRelayer relayNode = record ∧ record.bestHopLimit = hopLimit := by
  have hsame : (record.addRelayer relayNode).bestHopLimit = record.bestHopLimit := by
    unfold PacketRecord.addRelayer
    split
    · rfl
    · split <;> rfl
  constructor
  · intro h
    have hlimit : record.bestHopLimit = hopLimit := (congrArg PacketRecord.bestHopLimit h).symm
    rw [← hlimit, ← hsame] at h
    exact ⟨h, hlimit⟩
  · rintro ⟨hrelayer, rfl⟩
    rw [hrelayer]

theorem upgradeRebroadcast_eq_iff {ctx ctx' : MeshCtx S} {frame : RadioFrame}
    {header : PacketHeader} {newHop : UInt8} (router : MeshRouter)
    (hctx : ctx' = { ctx with router := router }) :
    upgradeRebroadcast ctx' frame header newHop = ctx ↔
      router = ctx.router ∧ ∀ i pending,
        ctx.pendingRebroadcast.toList.findIdx? (isRebroadcastOf header) = some i →
        ctx.pendingRebroadcast.toList[i]? = some pending →
        pending.frame = frame.withRewrittenHeader newHop (lastByte ctx.device.myNodeNum) := by
  subst hctx
  unfold upgradeRebroadcast
  dsimp only
  cases hfind : ctx.pendingRebroadcast.toList.findIdx? (isRebroadcastOf header) with
  | none =>
      constructor
      · intro h
        exact ⟨congrArg MeshCtx.router h, fun i pending hi => by cases hi⟩
      · rintro ⟨rfl, -⟩
        rfl
  | some i =>
      have hmodify := RingBuffer.modifyList_eq_self_iff ctx.pendingRebroadcast.toList i
        fun p : PendingRebroadcast =>
          { p with frame := frame.withRewrittenHeader newHop (lastByte ctx.device.myNodeNum) }
      constructor
      · intro h
        refine ⟨congrArg MeshCtx.router h, ?_⟩
        intro j pending hj hpending
        obtain rfl := Option.some.inj hj
        have hlist := congrArg (fun c => c.pendingRebroadcast.toList) h
        exact (congrArg PendingRebroadcast.frame (hmodify.mp hlist pending hpending)).symm
      · rintro ⟨rfl, hframe⟩
        have hlist := hmodify.mpr fun pending hpending => by
          rw [← hframe i pending rfl hpending]
        simp only [hlist]

theorem cancelRebroadcast_eq_iff {ctx ctx' : MeshCtx S} {header : PacketHeader}
    (router : MeshRouter) (hctx : ctx' = { ctx with router := router }) :
    cancelRebroadcast ctx' header = ctx ↔
      router = ctx.router ∧
        ∀ pending ∈ ctx.pendingRebroadcast.toList, isRebroadcastOf header pending = false := by
  subst hctx
  unfold cancelRebroadcast
  have hretain : (ctx.pendingRebroadcast.retain fun p => !isRebroadcastOf header p) =
      ctx.pendingRebroadcast ↔
      ∀ pending ∈ ctx.pendingRebroadcast.toList, isRebroadcastOf header pending = false := by
    rw [Bounded.ext_iff, Bounded.toList_retain, List.filter_eq_self]
    simp
  rw [← hretain]
  constructor
  · intro h
    exact ⟨congrArg MeshCtx.router h, congrArg MeshCtx.pendingRebroadcast h⟩
  · rintro ⟨rfl, hsame⟩
    simp only [hsame]

section

variable [MeshStorage S]

theorem router_handlePortnum (ctx : MeshCtx S) (portnum : Int32) (pkt : InboundPacket) :
    (handlePortnum env ctx portnum pkt).router = ctx.router := by
  by_cases hadmin : portnum = PortNum.adminApp.toI32
  · have hportnum : portnum ≠ PortNum.routingApp.toI32 := by
      rw [hadmin]
      decide
    exact (quiet_handlePortnum ctx pkt hportnum).router_eq
  · exact congrArg Core.router (core_handlePortnum ctx pkt hadmin)

theorem router_handleNew (ctx : MeshCtx S) (frame : RadioFrame) (header : PacketHeader)
    (metadata : RadioMetadata) (decoded : DecodedPayload) :
    (handleNew env ctx frame header metadata decoded).router = ctx.router := by
  unfold handleNew
  dsimp only
  rw [(quiet_afterPortnum _ frame header metadata decoded _).router_eq, router_handlePortnum,
    (quiet_bufferText _ frame decoded.portnum).router_eq,
    (quiet_noteSender ctx header metadata).router_eq]

theorem handleDecoded_eq_self_iff {ctx : MeshCtx S} {frame : RadioFrame}
    {header : PacketHeader} (metadata : RadioMetadata) (decoded : DecodedPayload) :
    handleDecoded env ctx frame header metadata decoded = ctx ↔ Absorbed ctx frame header := by
  unfold handleDecoded
  cases hfind : ctx.router.findRecord header.sender header.packetId with
  | none =>
      -- a new packet moves the head of the history
      constructor
      · intro h
        exfalso
        have hrouter := congrArg (fun c => c.router.history.head) h
        simp only [MeshRouter.shouldFilterReceived, hfind, router_handleNew] at hrouter
        exact RingBuffer.head_push_ne ctx.router.history
          { sender := header.sender, packetId := header.packetId,
            bestHopLimit := header.hopLimit, relayedBy := Bounded.empty, valid := true }
          (by decide) hrouter
      · rintro ⟨⟨idx, hidx, -⟩, -, -⟩
        rw [hfind] at hidx
        cases hidx
  | some idx =>
      rw [MeshRouter.shouldFilterReceived_of_find hfind]
      by_cases hupgrades : (pendingHopLimit ctx header).any (· < header.hopLimit) = true
      · rw [if_pos hupgrades]
        dsimp only
        rw [upgradeRebroadcast_eq_iff _ rfl, MeshRouter.modifyRecord_eq_self_iff]
        simp only [addRelayer_withHopLimit_eq_iff]
        constructor
        · rintro ⟨hrecord, hpending⟩
          exact ⟨⟨idx, hfind, fun record hslot => (hrecord record hslot).imp_right fun h _ => h⟩,
            fun _ => hpending, fun hnot => absurd hupgrades hnot⟩
        · rintro ⟨⟨idx', hfind', hrecord⟩, hpending, -⟩
          obtain rfl := Option.some.inj (hfind.symm.trans hfind')
          exact ⟨fun record hslot => (hrecord record hslot).imp_right fun h => h hupgrades,
            hpending hupgrades⟩
      · rw [if_neg hupgrades]
        by_cases hcancels : MeshRouter.roleAllowsCancel ctx.device.role ∧
            header.relayNode ≠ 0 ∧ header.relayNode ≠ lastByte ctx.router.ourNodeNum
        · rw [if_pos hcancels]
          dsimp only
          rw [cancelRebroadcast_eq_iff _ rfl, MeshRouter.modifyRecord_eq_self_iff]
          constructor
          · rintro ⟨hrecord, hpending⟩
            exact ⟨⟨idx, hfind, fun record hslot =>
              ⟨hrecord record hslot, fun h => absurd h hupgrades⟩⟩,
              fun h => absurd h hupgrades, fun _ _ => hpending⟩
          · rintro ⟨⟨idx', hfind', hrecord⟩, -, hpending⟩
            obtain rfl := Option.some.inj (hfind.symm.trans hfind')
            exact ⟨fun record hslot => (hrecord record hslot).1, hpending hupgrades hcancels⟩
        · rw [if_neg hcancels]
          dsimp only
          have hsame : ∀ router : MeshRouter,
              { ctx with router := router } = ctx ↔ router = ctx.router := by
            intro router
            constructor
            · intro h
              exact congrArg MeshCtx.router h
            · rintro rfl
              rfl
          rw [hsame, MeshRouter.modifyRecord_eq_self_iff]
          constructor
          · intro hrecord
            exact ⟨⟨idx, hfind, fun record hslot =>
              ⟨hrecord record hslot, fun h => absurd h hupgrades⟩⟩,
              fun h => absurd h hupgrades, fun _ h => absurd h hcancels⟩
          · rintro ⟨⟨idx', hfind', hrecord⟩, -, -⟩
            obtain rfl := Option.some.inj (hfind.symm.trans hfind')
            exact fun record hslot => (hrecord record hslot).1

/-! ## Which frames keep the gate -/

/-- A frame nobody vouches for keeps the gate exactly when it does not decode or is a
duplicate with nothing new. -/
theorem passesGate_dispatch_iff {ctx : MeshCtx S} {frame : RadioFrame}
    {header : PacketHeader} (metadata : RadioMetadata) (hheader : frame.header = some header)
    (hsender : header.sender ≠ ctx.device.myNodeNum)
    (hunauthenticated : Unauthenticated env ctx frame header) :
    PassesGate env ctx frame header (dispatch env ctx frame metadata) ↔
      Undecodable env ctx frame header ∨ Absorbed ctx frame header := by
  rw [← undecoded_iff hunauthenticated]
  unfold dispatch
  rw [hheader]
  dsimp only
  rw [if_neg hsender]
  cases houtcome : tryDecryptAndDecode env frame header ctx.device ctx.nodeDb
      ctx.pkcPrivBytes with
  | decoded decoded =>
      dsimp only
      have hdecoded : ¬ Undecoded env ctx frame header := fun h => h decoded houtcome
      rw [or_iff_right hdecoded, ← @handleDecoded_eq_self_iff S env _ ctx frame header metadata
        decoded]
      generalize handleDecoded env ctx frame header metadata decoded = after
      constructor
      · intro hpasses
        cases hpasses with
        | untouched => rfl
        | relayed hundecoded => exact absurd hundecoded hdecoded
        | answered hundecoded => exact absurd hundecoded hdecoded
      · rintro rfl
        exact PassesGate.untouched
  | pkiUnknownPubkey =>
      dsimp only
      have hundecoded : Undecoded env ctx frame header := by
        intro decoded hdecoded
        rw [houtcome] at hdecoded
        cases hdecoded
      refine iff_of_true ?_ (Or.inl hundecoded)
      obtain ⟨hhash, hdest⟩ := eq_zero_of_pkiUnknownPubkey houtcome
      obtain ⟨counter, frames, heq, hlength, hframes⟩ :=
        @onlySends_answerUnknownPubkey S env ctx header
      rw [heq]
      exact PassesGate.answered hundecoded hhash hdest counter hlength hframes
  | drop =>
      dsimp only
      have hundecoded : Undecoded env ctx frame header := by
        intro decoded hdecoded
        rw [houtcome] at hdecoded
        cases hdecoded
      exact iff_of_true (passesGate_handleUndecodable metadata hundecoded) (Or.inl hundecoded)

/-- The frame is vouched for, or does not decode, or is a duplicate with nothing new. -/
def Harmless (env : Env) (ctx : MeshCtx S) (frame : RadioFrame) : Prop :=
  ∀ header, frame.header = some header → header.sender ≠ ctx.device.myNodeNum →
    Unauthenticated env ctx frame header →
    Undecodable env ctx frame header ∨ Absorbed ctx frame header

theorem keepsGate_iff (ctx : MeshCtx S) (frame : RadioFrame) (metadata : RadioMetadata) :
    KeepsGate env ctx frame (dispatch env ctx frame metadata) ↔ Harmless env ctx frame := by
  constructor
  · intro hkeeps header hheader hsender hunauthenticated
    exact (passesGate_dispatch_iff metadata hheader hsender hunauthenticated).mp
      (hkeeps header hheader hsender hunauthenticated)
  · intro hharmless header hheader hsender hunauthenticated
    exact (passesGate_dispatch_iff metadata hheader hsender hunauthenticated).mpr
      (hharmless header hheader hsender hunauthenticated)

/-- In every reachable state, which received frames keep the gate. -/
theorem keepsGate_after_iff (mac : Bytes) (storage : S) (pkcKeypair : Key × Key)
    (entropy : Nat → UInt32) (events : List MeshState.Event) (frame : RadioFrame)
    (metadata : RadioMetadata) :
    let ctx := MeshState.noteActivity
      (MeshState.after env mac storage pkcKeypair entropy events).ctx (.loraRx frame metadata)
    KeepsGate env ctx frame (dispatch env ctx frame metadata) ↔ Harmless env ctx frame :=
  keepsGate_iff _ frame metadata

end

/-- A broadcast of the text `hi` from node `0x11223344` in the clear, under a channel hash
that is none of ours. -/
def clearTextFrame : RadioFrame where
  bytes :=
    [0xff, 0xff, 0xff, 0xff, 0x44, 0x33, 0x22, 0x11, 0x09, 0x00, 0x00, 0x00, 0x63, 0x99, 0x00,
     0x44, 0x08, 0x01, 0x12, 0x02, 0x68, 0x69]
  length_le := by decide

def clearTextHeader : PacketHeader where
  destination := BROADCAST_ADDR
  sender := 0x11223344
  packetId := 9
  flags := 0x63
  channelIndex := 0x99
  nextHop := 0
  relayNode := 0x44

/-- The context in which a freshly booted node hears the broadcast. -/
def freshHearingCtx : MeshCtx FakeStorage :=
  MeshState.noteActivity
    (MeshState.after KnownAnswers.defaultKey.env KnownAnswers.mac {} KnownAnswers.noKeypair
      KnownAnswers.noEntropy [.announce]).ctx (.loraRx clearTextFrame ⟨0, 0⟩)

/-- The broadcast does not keep the gate. -/
theorem clearText_breaks_gate :
    ¬ KeepsGate KnownAnswers.defaultKey.env freshHearingCtx clearTextFrame
      (dispatch KnownAnswers.defaultKey.env freshHearingCtx clearTextFrame ⟨0, 0⟩) := by
  rw [keepsGate_iff]
  intro hharmless
  have hheader : clearTextFrame.header = some clearTextHeader := by decide
  have hsender : clearTextHeader.sender ≠ freshHearingCtx.device.myNodeNum := by decide
  have hpkc : pkcPlaintext KnownAnswers.defaultKey.env clearTextFrame clearTextHeader
      freshHearingCtx.device freshHearingCtx.nodeDb freshHearingCtx.pkcPrivBytes = none := by
    decide
  have hchannel : matchedChannel freshHearingCtx.device clearTextHeader = none :=
    Option.isNone_iff_eq_none.mp (by decide)
  have hunauthenticated : Unauthenticated KnownAnswers.defaultKey.env freshHearingCtx
      clearTextFrame clearTextHeader := by
    refine ⟨hpkc, fun channel hsome => ?_⟩
    rw [hchannel] at hsome
    cases hsome
  rcases hharmless clearTextHeader hheader hsender hunauthenticated with hundecodable | habsorbed
  · obtain ⟨data, hdata⟩ := Option.isSome_iff_exists.mp
      (show (KnownAnswers.defaultKey.env.prost.data.decode clearTextFrame.payload).isSome = true
        by decide)
    have hlegacy := hundecodable data hchannel hdata
    have hdest : (clearTextHeader.destination == freshHearingCtx.device.myNodeNum) = false := by
      decide
    rw [isLegacyDm, hdest, Bool.and_false, Bool.false_and] at hlegacy
    cases hlegacy
  · obtain ⟨idx, hidx, -⟩ := habsorbed.recorded
    have hnew : freshHearingCtx.router.findRecord clearTextHeader.sender
        clearTextHeader.packetId = none := by decide
    rw [hnew] at hidx
    cases hidx

end Meshtastenstein.Handlers.FromRadio
