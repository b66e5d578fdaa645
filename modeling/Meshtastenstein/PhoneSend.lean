import Meshtastenstein.Effects
import Meshtastenstein.Encryption
/-!
# Sends of the phone

What a packet from the phone turns into: nothing, an error report, a frame that is
tracked until the mesh answers, or a frame that is confirmed at once.
-/

namespace Meshtastenstein.Handlers.FromApp

open Lib Proto

variable {S : Type} (env : Env)

/-! ## Outcomes -/

inductive SendOutcome
  | silent
  | failed (error : RoutingError)
  | tracked (frame : RadioFrame)
  | confirmed (frame : RadioFrame)

namespace SendOutcome

/-- The frame an outcome queues to the mesh. -/
def frames : SendOutcome → List RadioFrame
  | silent | failed _ => []
  | tracked frame | confirmed frame => [frame]

def entries (ctx : MeshCtx S) (pkt : MeshPacket) (packetId : UInt32) :
    SendOutcome → List PendingPacket
  | tracked frame => [pendingEntry ctx pkt packetId frame]
  | _ => []

def report (device : DeviceState) (pkt : MeshPacket) :
    SendOutcome → Option (UInt32 × RoutingError)
  | silent | tracked _ => none
  | failed error => some (pkt.toNode, error)
  | confirmed _ => some (ackDest device pkt, .none)

end SendOutcome

/-- The outcome of a build: a frame is tracked when an acknowledgement is wanted and
there is room to wait for it. -/
def builtOutcome (ctx : MeshCtx S) (pkt : MeshPacket) (data : Data) :
    Option RadioFrame → SendOutcome
  | none => .silent
  | some frame =>
      if (wantAck pkt data && pkt.toNode != BROADCAST_ADDR) = true ∧
          ctx.pendingPackets.length < 8 then .tracked frame
      else .confirmed frame

def buildPhoneFrame (ctx : MeshCtx S) (pkt : MeshPacket) (data : Data)
    (pkcKeys : Option (Key × UInt32)) : Option RadioFrame :=
  (phoneTx pkt data).build env ctx.device ctx.router ctx.nodeDb
    (packetIdFor ctx.device pkt) pkcKeys

/-- Whether there is no key pair to encrypt for the destination with. -/
abbrev LacksKey (ctx : MeshCtx S) (pkt : MeshPacket) : Prop :=
  ctx.nodeDb.hasPubKey pkt.toNode = false ∨ ctx.pkcPrivBytes.isSet = false

def sendOutcome (ctx : MeshCtx S) (pkt : MeshPacket) (data : Data) : SendOutcome :=
  if MAX_CHANNELS ≤ (channelIdx pkt).toNat ∧ wantsPkc pkt = false then .silent
  else if wantsPkc pkt then
    if portnumAllowsPkc data.portnum = false then .silent
    else if pkt.toNode = BROADCAST_ADDR ∨ pkt.toNode = 0 then .silent
    else if keyMismatch ctx.nodeDb pkt then .failed .pkiFailed
    else if LacksKey ctx pkt then .failed .pkiSendFailPublicKey
    else
      builtOutcome ctx pkt data
        (buildPhoneFrame env ctx pkt data (some (ctx.pkcPrivBytes, ctx.randomU32)))
  else builtOutcome ctx pkt data (buildPhoneFrame env ctx pkt data none)

variable {env}

def IsResult (env : Env) (ourNodeNum dest requestId : UInt32) (error : RoutingError)
    (msg : FromRadioMessage) : Prop :=
  ∃ packetId,
    msg.variant = .packet (routingResultPacket env ourNodeNum packetId dest requestId error)

def AreReports (env : Env) (ourNodeNum requestId : UInt32)
    (report : Option (UInt32 × RoutingError)) (msgs : List FromRadioMessage) : Prop :=
  match report with
  | none => msgs = []
  | some (dest, error) =>
      ∃ msg, msgs = [msg] ∧ IsResult env ourNodeNum dest requestId error msg

/-- `after` follows from `ctx` by the effects of the outcome on the two queues and the
pending packets. -/
structure Performs (env : Env) (ctx : MeshCtx S) (pkt : MeshPacket) (packetId : UInt32)
    (outcome : SendOutcome) (after : MeshCtx S) : Prop where
  lora : after.txToLora = ctx.txToLora ++ outcome.frames
  pending : after.pendingPackets.toList =
    ctx.pendingPackets.toList ++ outcome.entries ctx pkt packetId
  ble : ctx.txToBle.length < BLE_TX_QUEUE_SIZE →
    ∃ msgs, after.txToBle = ctx.txToBle ++ msgs ∧
      AreReports env ctx.device.myNodeNum pkt.id (outcome.report ctx.device pkt) msgs

theorem Performs.silent (ctx : MeshCtx S) (pkt : MeshPacket) (packetId : UInt32) :
    Performs env ctx pkt packetId .silent ctx :=
  ⟨(List.append_nil _).symm, (List.append_nil _).symm,
    fun _ => ⟨[], (List.append_nil _).symm, rfl⟩⟩

theorem txToBle_sendBleRoutingResult (ctx : MeshCtx S) (dest requestId : UInt32)
    (error : RoutingError) (hroom : ctx.txToBle.length < BLE_TX_QUEUE_SIZE) :
    ∃ msgs, (sendBleRoutingResult env ctx dest requestId error).txToBle =
        ctx.txToBle ++ msgs ∧
      AreReports env ctx.device.myNodeNum requestId (some (dest, error)) msgs := by
  rw [sendBleRoutingResult_eq]
  dsimp only
  rw [if_pos hroom]
  exact ⟨_, rfl, _, rfl, _, rfl⟩

@[simp] theorem txToLora_sendBleRoutingResult (ctx : MeshCtx S) (dest requestId : UInt32)
    (error : RoutingError) :
    (sendBleRoutingResult env ctx dest requestId error).txToLora = ctx.txToLora := by
  rw [sendBleRoutingResult_eq]
  rfl

@[simp] theorem pendingPackets_sendBleRoutingResult (ctx : MeshCtx S)
    (dest requestId : UInt32) (error : RoutingError) :
    (sendBleRoutingResult env ctx dest requestId error).pendingPackets =
      ctx.pendingPackets := by
  rw [sendBleRoutingResult_eq]
  rfl

theorem builtOutcome_tracked {ctx : MeshCtx S} {pkt : MeshPacket} {data : Data}
    (hack : (wantAck pkt data && pkt.toNode != BROADCAST_ADDR) = true)
    (hspace : ctx.pendingPackets.length < 8) (frame : RadioFrame) :
    builtOutcome ctx pkt data (some frame) = .tracked frame :=
  if_pos ⟨hack, hspace⟩

theorem builtOutcome_confirmed {ctx : MeshCtx S} {pkt : MeshPacket} {data : Data}
    (h : ¬ ((wantAck pkt data && pkt.toNode != BROADCAST_ADDR) = true ∧
      ctx.pendingPackets.length < 8)) (frame : RadioFrame) :
    builtOutcome ctx pkt data (some frame) = .confirmed frame :=
  if_neg h

theorem performs_queuePhoneFrame (ctx : MeshCtx S) (pkt : MeshPacket) (data : Data)
    (packetId : UInt32) (frame : RadioFrame) :
    Performs env ctx pkt packetId (builtOutcome ctx pkt data (some frame))
      (queuePhoneFrame env ctx pkt data packetId frame) := by
  unfold queuePhoneFrame
  by_cases hack : (wantAck pkt data && pkt.toNode != BROADCAST_ADDR) = true
  · rw [if_pos hack]
    by_cases hspace : ctx.pendingPackets.length < 8
    · rw [builtOutcome_tracked hack hspace, Bounded.push_of_lt _ _ hspace]
      exact ⟨rfl, rfl, fun _ => ⟨[], (List.append_nil _).symm, rfl⟩⟩
    · rw [builtOutcome_confirmed (fun h => hspace h.2), Bounded.push_of_full _ _ hspace]
      refine ⟨?_, ?_, txToBle_sendBleRoutingResult ctx _ _ _⟩
      · exact congrArg (· ++ [frame]) (txToLora_sendBleRoutingResult ctx _ _ _)
      · exact (congrArg Bounded.toList (pendingPackets_sendBleRoutingResult ctx _ _ _)).trans
          (List.append_nil _).symm
  · rw [if_neg hack, builtOutcome_confirmed (fun h => hack h.1)]
    refine ⟨txToLora_sendBleRoutingResult (ctx.sendLora frame) _ _ _, ?_,
      txToBle_sendBleRoutingResult (ctx.sendLora frame) _ _ _⟩
    exact (congrArg Bounded.toList
      (pendingPackets_sendBleRoutingResult (ctx.sendLora frame) _ _ _)).trans
      (List.append_nil _).symm

theorem performs_buildAndQueue (ctx : MeshCtx S) (pkt : MeshPacket) (data : Data)
    (packetId : UInt32) (pkcKeys : Option (Key × UInt32)) :
    Performs env ctx pkt packetId
      (builtOutcome ctx pkt data ((phoneTx pkt data).build env ctx.device ctx.router
        ctx.nodeDb packetId pkcKeys))
      (buildAndQueue env ctx pkt data packetId pkcKeys) := by
  unfold buildAndQueue
  cases hbuild : (phoneTx pkt data).build env ctx.device ctx.router ctx.nodeDb packetId
      pkcKeys with
  | none => exact Performs.silent ctx pkt packetId
  | some frame => exact performs_queuePhoneFrame ctx pkt data packetId frame

theorem performs_sendPkc (ctx : MeshCtx S) (pkt : MeshPacket) (data : Data)
    (packetId : UInt32) :
    Performs env ctx pkt packetId
      (if portnumAllowsPkc data.portnum = false then .silent
      else if pkt.toNode = BROADCAST_ADDR ∨ pkt.toNode = 0 then .silent
      else if keyMismatch ctx.nodeDb pkt then .failed .pkiFailed
      else if LacksKey ctx pkt then .failed .pkiSendFailPublicKey
      else
        builtOutcome ctx pkt data ((phoneTx pkt data).build env ctx.device ctx.router
          ctx.nodeDb packetId (some (ctx.pkcPrivBytes, ctx.randomU32))))
      (sendPkc env ctx pkt data packetId) := by
  have hfailed : ∀ error, Performs env ctx pkt packetId (.failed error)
      (sendBleRoutingResult env ctx pkt.toNode pkt.id error) := by
    intro error
    refine ⟨?_, ?_, txToBle_sendBleRoutingResult ctx _ _ _⟩
    · exact (txToLora_sendBleRoutingResult ctx _ _ _).trans (List.append_nil _).symm
    · exact (congrArg Bounded.toList (pendingPackets_sendBleRoutingResult ctx _ _ _)).trans
        (List.append_nil _).symm
  unfold sendPkc
  split
  · exact Performs.silent ctx pkt packetId
  split
  · exact Performs.silent ctx pkt packetId
  split
  · exact hfailed .pkiFailed
  split
  · exact hfailed .pkiSendFailPublicKey
  · have hbuilt := @performs_buildAndQueue S env ctx.takeRandom pkt data packetId
      (some (ctx.pkcPrivBytes, ctx.randomU32))
    exact ⟨hbuilt.lora, hbuilt.pending, hbuilt.ble⟩

theorem performs_sendToMesh (ctx : MeshCtx S) (pkt : MeshPacket) (data : Data) :
    Performs env ctx pkt (packetIdFor ctx.device pkt) (sendOutcome env ctx pkt data)
      (sendToMesh env ctx pkt data) := by
  -- drawing a packet id first touches neither the queues nor what a frame is built from
  have hbase : ∀ base : MeshCtx S, base = ctx ∨ base = ctx.takePacketId →
      Performs env ctx pkt (packetIdFor ctx.device pkt) (sendOutcome env ctx pkt data)
        (if MAX_CHANNELS ≤ (channelIdx pkt).toNat ∧ wantsPkc pkt = false then base
        else if wantsPkc pkt then
          sendPkc env base pkt data (packetIdFor ctx.device pkt)
        else buildAndQueue env base pkt data (packetIdFor ctx.device pkt) none) := by
    intro base hbase
    unfold sendOutcome
    split
    · have hsilent := @Performs.silent S env base pkt (packetIdFor ctx.device pkt)
      rcases hbase with rfl | rfl
      · exact hsilent
      · exact ⟨hsilent.lora, hsilent.pending, hsilent.ble⟩
    split
    · have hpkc := @performs_sendPkc S env base pkt data (packetIdFor ctx.device pkt)
      rcases hbase with rfl | rfl
      · exact hpkc
      · exact ⟨hpkc.lora, hpkc.pending, hpkc.ble⟩
    · have hbuilt := @performs_buildAndQueue S env base pkt data
        (packetIdFor ctx.device pkt) none
      rcases hbase with rfl | rfl
      · exact hbuilt
      · exact ⟨hbuilt.lora, hbuilt.pending, hbuilt.ble⟩
  unfold sendToMesh
  apply hbase
  split
  · exact Or.inl rfl
  · exact Or.inr rfl

/-! ## Built frames -/

def phoneKeys (ctx : MeshCtx S) (pkt : MeshPacket) : Option (Key × UInt32) :=
  if wantsPkc pkt then some (ctx.pkcPrivBytes, ctx.randomU32) else none

theorem frames_builtOutcome (ctx : MeshCtx S) (pkt : MeshPacket) (data : Data)
    (frame : Option RadioFrame) : (builtOutcome ctx pkt data frame).frames = frame.toList := by
  cases frame with
  | none => rfl
  | some frame =>
      unfold builtOutcome
      dsimp only
      split <;> rfl

theorem frames_sendOutcome_psk {ctx : MeshCtx S} {pkt : MeshPacket} {data : Data}
    (hpkc : wantsPkc pkt = false) :
    (sendOutcome env ctx pkt data).frames =
      if pkt.channel.toUInt8.toNat < MAX_CHANNELS then
        (buildPhoneFrame env ctx pkt data none).toList
      else [] := by
  have hidx : channelIdx pkt = pkt.channel.toUInt8 := by simp [channelIdx, hpkc]
  unfold sendOutcome
  rw [hidx, hpkc]
  by_cases hrange : pkt.channel.toUInt8.toNat < MAX_CHANNELS
  · rw [if_neg (by omega), if_neg (by simp), if_pos hrange, frames_builtOutcome]
  · rw [if_pos ⟨by omega, rfl⟩, if_neg hrange]
    rfl

theorem build_of_mem_frames {ctx : MeshCtx S} {pkt : MeshPacket} {data : Data}
    {frame : RadioFrame} (h : frame ∈ (sendOutcome env ctx pkt data).frames) :
    buildPhoneFrame env ctx pkt data (phoneKeys ctx pkt) = some frame := by
  unfold phoneKeys
  cases hpkc : wantsPkc pkt with
  | false =>
      rw [frames_sendOutcome_psk hpkc] at h
      split at h
      · exact Option.mem_toList.mp h
      · cases h
  | true =>
      rw [if_pos rfl]
      unfold sendOutcome at h
      rw [hpkc, if_neg (by simp), if_pos rfl] at h
      split at h
      · cases h
      split at h
      · cases h
      split at h
      · cases h
      split at h
      · cases h
      · rw [frames_builtOutcome] at h
        exact Option.mem_toList.mp h

/-! ## Answers to the phone -/

/-- Exactly one routing result was queued for the requester, and an error unless a frame
was queued. -/
def Answered (env : Env) (ctx : MeshCtx S) (pkt : MeshPacket) (after : MeshCtx S) : Prop :=
  ∃ msg error, after.txToBle = ctx.txToBle ++ [msg] ∧
    IsResult env ctx.device.myNodeNum (ackDest ctx.device pkt) pkt.id error msg ∧
    (after.txToLora = ctx.txToLora → error ≠ .none)

/-- Exactly one frame was queued and exactly one entry tracked to report on it. -/
def TrackedOnce (ctx : MeshCtx S) (pkt : MeshPacket) (after : MeshCtx S) : Prop :=
  ∃ frame entry, after.txToLora = ctx.txToLora ++ [frame] ∧
    after.pendingPackets.toList = ctx.pendingPackets.toList ++ [entry] ∧
    entry.frame = frame ∧ entry.packetId = packetIdFor ctx.device pkt ∧
    entry.bleNotify = some (ackDest ctx.device pkt)

def SendOutcome.Reaches (requester dest : UInt32) : SendOutcome → Prop
  | silent => False
  | failed _ => dest = requester
  | tracked _ | confirmed _ => True

theorem dest_eq_of_isResult {ourNodeNum dest dest' requestId requestId' : UInt32}
    {error error' : RoutingError} {msg : FromRadioMessage}
    (h : IsResult env ourNodeNum dest requestId error msg)
    (h' : IsResult env ourNodeNum dest' requestId' error' msg) : dest = dest' := by
  obtain ⟨packetId, hmsg⟩ := h
  obtain ⟨packetId', hmsg'⟩ := h'
  rw [hmsg] at hmsg'
  have hpacket := FromRadio.Variant.packet.inj hmsg'
  exact congrArg MeshPacket.toNode hpacket

/-- An outcome answers the requester or is tracked, but not both, exactly when it
reaches the requester. -/
theorem Performs.xor_iff {ctx after : MeshCtx S} {pkt : MeshPacket}
    {outcome : SendOutcome}
    (h : Performs env ctx pkt (packetIdFor ctx.device pkt) outcome after)
    (hroom : ctx.txToBle.length < BLE_TX_QUEUE_SIZE)
    (herror : ∀ error, outcome = .failed error → error ≠ .none) :
    Xor (Answered env ctx pkt after) (TrackedOnce ctx pkt after) ↔
      outcome.Reaches (ackDest ctx.device pkt) pkt.toNode := by
  obtain ⟨msgs, hble, hreports⟩ := h.ble hroom
  have hnoFrame : outcome.frames = [] → ¬ TrackedOnce ctx pkt after := by
    rintro hnil ⟨frame, entry, hlora, -⟩
    rw [h.lora, hnil] at hlora
    simp at hlora
  have hnoReport : outcome.report ctx.device pkt = none → ¬ Answered env ctx pkt after := by
    rintro hnone ⟨msg, error, hmsg, -⟩
    rw [hnone] at hreports
    rw [hble, show msgs = [] from hreports] at hmsg
    simp at hmsg
  cases outcome with
  | silent =>
      refine iff_of_false ?_ (fun h => h)
      rintro (⟨hanswered, -⟩ | ⟨htracked, -⟩)
      · exact hnoReport rfl hanswered
      · exact hnoFrame rfl htracked
  | failed error =>
      obtain ⟨msg, rfl, hresult⟩ := hreports
      constructor
      · rintro (⟨⟨msg', error', hmsg', hresult', -⟩, -⟩ | ⟨htracked, -⟩)
        · rw [hble] at hmsg'
          obtain rfl : msg = msg' := by simpa using hmsg'
          exact dest_eq_of_isResult hresult hresult'
        · exact absurd htracked (hnoFrame rfl)
      · intro hdest
        refine Or.inl ⟨⟨msg, error, hble, ?_, fun _ => herror error rfl⟩, hnoFrame rfl⟩
        rwa [← show pkt.toNode = ackDest ctx.device pkt from hdest]
  | tracked frame =>
      refine iff_of_true (Or.inr ⟨⟨frame, _, h.lora, h.pending, rfl, rfl, rfl⟩, ?_⟩) trivial
      exact hnoReport rfl
  | confirmed frame =>
      obtain ⟨msg, rfl, hresult⟩ := hreports
      refine iff_of_true (Or.inl ⟨⟨msg, .none, hble, hresult, ?_⟩, ?_⟩) trivial
      · intro hlora
        rw [h.lora] at hlora
        simp [SendOutcome.frames] at hlora
      · rintro ⟨-, entry, -, hpending, -⟩
        rw [h.pending] at hpending
        simp [SendOutcome.entries] at hpending

/-- When a phone packet gets its answer: the channel number is in range after its cut to
a byte and the frame can be built; under PKC the port number and the destination are
allowed, and either the frame fits or the failure is told to a destination that is the
requester itself. -/
def Answerable (env : Env) (ctx : MeshCtx S) (pkt : MeshPacket) (data : Data) : Prop :=
  if wantsPkc pkt = true then
    portnumAllowsPkc data.portnum = true ∧
      ¬ (pkt.toNode = BROADCAST_ADDR ∨ pkt.toNode = 0) ∧
      if keyMismatch ctx.nodeDb pkt = true ∨ LacksKey ctx pkt then
        pkt.toNode = ackDest ctx.device pkt
      else
        HEADER_SIZE + (env.prost.data.encode ((phoneTx pkt data).data ctx.device)).length +
          PKC_OVERHEAD ≤ MAX_LORA_PAYLOAD_LEN
  else
    pkt.channel.toUInt8.toNat < MAX_CHANNELS ∧ ¬ (phoneTx pkt data).TooLong env ctx.device ∧
      ¬ (phoneTx pkt data).UnusableKey env ctx.device

theorem reaches_builtOutcome {ctx : MeshCtx S} {pkt : MeshPacket} {data : Data}
    {frame : Option RadioFrame} {requester dest : UInt32} :
    (builtOutcome ctx pkt data frame).Reaches requester dest ↔ frame ≠ none := by
  cases frame with
  | none => exact iff_of_false (fun h => h) (fun h => h rfl)
  | some frame =>
      refine iff_of_true ?_ (Option.some_ne_none frame)
      unfold builtOutcome
      dsimp only
      split <;> trivial

theorem ne_none_of_failed {ctx : MeshCtx S} {pkt : MeshPacket} {data : Data}
    {error : RoutingError} (h : sendOutcome env ctx pkt data = .failed error) :
    error ≠ .none := by
  have hbuilt : ∀ frame, builtOutcome ctx pkt data frame ≠ .failed error := by
    intro frame
    cases frame with
    | none => simp [builtOutcome]
    | some frame =>
        unfold builtOutcome
        dsimp only
        split <;> simp
  unfold sendOutcome at h
  split at h
  · cases h
  split at h
  · split at h
    · cases h
    split at h
    · cases h
    split at h
    · cases h
      simp
    split at h
    · cases h
      simp
    · exact absurd h (hbuilt _)
  · exact absurd h (hbuilt _)

theorem reaches_sendOutcome_iff {ctx : MeshCtx S} {pkt : MeshPacket} {data : Data} :
    (sendOutcome env ctx pkt data).Reaches (ackDest ctx.device pkt) pkt.toNode ↔
      Answerable env ctx pkt data := by
  unfold sendOutcome Answerable
  cases hpkc : wantsPkc pkt with
  | false =>
      have hidx : channelIdx pkt = pkt.channel.toUInt8 := by
        simp [channelIdx, hpkc]
      rw [hidx, if_neg (show ¬ false = true by simp), if_neg (show ¬ false = true by simp)]
      by_cases hrange : pkt.channel.toUInt8.toNat < MAX_CHANNELS
      · rw [if_neg (by omega), reaches_builtOutcome, buildPhoneFrame, Ne,
          TxBuilder.build_psk_eq_none_iff, not_or]
        exact (and_iff_right hrange).symm
      · rw [if_pos ⟨by omega, rfl⟩]
        exact iff_of_false (fun h => h) (fun h => hrange h.1)
  | true =>
      rw [if_neg (by simp), if_pos rfl, if_pos rfl]
      cases hport : portnumAllowsPkc data.portnum with
      | false => exact iff_of_false (fun h => h) (fun h => absurd h.1 (by simp))
      | true =>
          rw [if_neg (by simp), and_iff_right rfl]
          by_cases hdest : pkt.toNode = BROADCAST_ADDR ∨ pkt.toNode = 0
          · rw [if_pos hdest]
            exact iff_of_false (fun h => h) (fun h => h.1 hdest)
          rw [if_neg hdest, and_iff_right hdest]
          by_cases hmismatch : keyMismatch ctx.nodeDb pkt = true
          · rw [if_pos hmismatch, if_pos (Or.inl hmismatch)]
            exact Iff.rfl
          rw [if_neg hmismatch]
          by_cases hlacks : LacksKey ctx pkt
          · rw [if_pos hlacks, if_pos (Or.inr hlacks)]
            exact Iff.rfl
          · rw [if_neg hlacks, if_neg (not_or.mpr ⟨hmismatch, hlacks⟩), reaches_builtOutcome]
            obtain ⟨hknown, -⟩ := not_or.mp hlacks
            obtain ⟨destPubKey, hkey⟩ := Option.ne_none_iff_exists'.mp
              (show ctx.nodeDb.pubKeyOf pkt.toNode ≠ none by
                simpa [NodeDb.hasPubKey] using hknown)
            rw [buildPhoneFrame, Ne, TxBuilder.build_pkc_eq_none_iff hkey, Nat.not_lt]

variable [MeshStorage S]

theorem performs_transmitFromBlePacket {ctx : MeshCtx S} {pkt : MeshPacket} {data : Data}
    (hdecoded : pkt.payloadVariant = some (.decoded data))
    (hlocal : isLocalAdmin ctx.device pkt data = false) :
    Performs env ctx pkt (packetIdFor ctx.device pkt) (sendOutcome env ctx pkt data)
      (transmitFromBlePacket env ctx pkt) := by
  unfold transmitFromBlePacket
  rw [hdecoded]
  dsimp only
  rw [transmitDecoded, if_neg (by simp [hlocal])]
  unfold notePosition
  split
  · have hsend := @performs_sendToMesh S env
      { ctx with myPositionBytes := Bounded.ofListOrEmpty data.payload } pkt data
    exact ⟨hsend.lora, hsend.pending, hsend.ble⟩
  · exact performs_sendToMesh ctx pkt data

theorem txToLora_handleLocalAdmin (ctx : MeshCtx S) (pkt : MeshPacket) (data : Data) :
    (handleLocalAdmin env ctx pkt data).txToLora = ctx.txToLora := by
  have hadmin := @Admin.txToLora_dispatch S env _ ctx pkt.fromNode pkt.id data.payload
  unfold handleLocalAdmin
  dsimp only
  split
  · exact (txToLora_sendBleRoutingResult _ _ _ _).trans hadmin
  · exact hadmin

def sentFrames (env : Env) (ctx : MeshCtx S) (pkt : MeshPacket) : List RadioFrame :=
  match pkt.payloadVariant with
  | some (.decoded data) =>
      if isLocalAdmin ctx.device pkt data then [] else (sendOutcome env ctx pkt data).frames
  | _ => []

theorem txToLora_transmitFromBlePacket (ctx : MeshCtx S) (pkt : MeshPacket) :
    (transmitFromBlePacket env ctx pkt).txToLora =
      ctx.txToLora ++ sentFrames env ctx pkt := by
  unfold sentFrames
  split
  · rename_i data hdecoded
    cases hlocal : isLocalAdmin ctx.device pkt data with
    | false => exact (performs_transmitFromBlePacket hdecoded hlocal).lora
    | true =>
        rw [if_pos rfl, List.append_nil, transmitFromBlePacket, hdecoded]
        dsimp only
        rw [transmitDecoded, if_pos hlocal]
        exact txToLora_handleLocalAdmin ctx pkt data
  · rename_i hother
    rw [List.append_nil]
    unfold transmitFromBlePacket
    split
    · rename_i data hdecoded
      exact absurd hdecoded (hother data)
    · rfl

/-- The context of a fresh node, for sends worked out. -/
def freshCtx : MeshCtx FakeStorage :=
  (MeshState.after KnownAnswers.defaultKey.env KnownAnswers.mac {} KnownAnswers.noKeypair
    KnownAnswers.noEntropy []).ctx

/-- A broadcast of `hi` on a port number of its own. -/
def helloData (wantResponse : Bool) : Data where
  portnum := 256
  payload := utf8 "hi"
  wantResponse := wantResponse

/-- The broadcast handed over for a channel number. -/
def helloPacket (channel : UInt32) (wantResponse : Bool) : MeshPacket where
  toNode := BROADCAST_ADDR
  channel := channel
  id := 7
  hopLimit := 3
  payloadVariant := some (.decoded (helloData wantResponse))

/-- With room in the queue to the phone, a send is answered once or tracked once
exactly when it is answerable. -/
theorem answered_or_tracked_iff {ctx : MeshCtx S} {pkt : MeshPacket} {data : Data}
    (hdecoded : pkt.payloadVariant = some (.decoded data))
    (hlocal : isLocalAdmin ctx.device pkt data = false)
    (hroom : ctx.txToBle.length < BLE_TX_QUEUE_SIZE) :
    Xor (Answered env ctx pkt (transmitFromBlePacket env ctx pkt))
        (TrackedOnce ctx pkt (transmitFromBlePacket env ctx pkt)) ↔
      Answerable env ctx pkt data := by
  have hperforms : Performs env ctx pkt (packetIdFor ctx.device pkt)
      (sendOutcome env ctx pkt data) (transmitFromBlePacket env ctx pkt) :=
    performs_transmitFromBlePacket hdecoded hlocal
  rw [hperforms.xor_iff hroom fun error herror => ne_none_of_failed herror]
  exact reaches_sendOutcome_iff

/-- A broadcast on the primary channel is confirmed. -/
theorem hello_answered :
    Xor (Answered KnownAnswers.defaultKey.env freshCtx (helloPacket 0 false)
        (transmitFromBlePacket KnownAnswers.defaultKey.env freshCtx (helloPacket 0 false)))
      (TrackedOnce freshCtx (helloPacket 0 false)
        (transmitFromBlePacket KnownAnswers.defaultKey.env freshCtx (helloPacket 0 false))) := by
  refine (answered_or_tracked_iff rfl (by decide) (by decide)).mpr ?_
  rw [Answerable, if_neg (by decide)]
  refine ⟨by decide, by unfold TxBuilder.TooLong; decide, ?_⟩
  rintro ⟨channel, hchannel, -, -, hlength, -⟩
  obtain rfl : ChannelConfig.defaultPrimary = channel := by
    have hresolved : (phoneTx (helloPacket 0 false) (helloData false)).channel freshCtx.device =
        some ChannelConfig.defaultPrimary := by decide
    exact Option.some.inj (hresolved.symm.trans hchannel)
  exact hlength (by decide)

/-- A broadcast on channel 9 is neither answered nor tracked. -/
theorem hello_unanswered :
    ¬ Xor (Answered KnownAnswers.defaultKey.env freshCtx (helloPacket 9 false)
        (transmitFromBlePacket KnownAnswers.defaultKey.env freshCtx (helloPacket 9 false)))
      (TrackedOnce freshCtx (helloPacket 9 false)
        (transmitFromBlePacket KnownAnswers.defaultKey.env freshCtx (helloPacket 9 false))) := by
  have hperforms : Performs KnownAnswers.defaultKey.env freshCtx (helloPacket 9 false)
      (packetIdFor freshCtx.device (helloPacket 9 false))
      (sendOutcome KnownAnswers.defaultKey.env freshCtx (helloPacket 9 false) (helloData false))
      (transmitFromBlePacket KnownAnswers.defaultKey.env freshCtx (helloPacket 9 false)) :=
    performs_transmitFromBlePacket rfl (by decide)
  rw [hperforms.xor_iff (by decide) fun error herror => ne_none_of_failed herror,
    reaches_sendOutcome_iff, Answerable, if_neg (by decide)]
  exact fun h => absurd h.1 (by decide)

/-! ## Fidelity of phone sends -/

def bitfieldWantsResponse (bits : UInt32) : Bool :=
  (bits >>> BITFIELD_WANT_RESPONSE_SHIFT) &&& 1 == 1

/-- Decrypted with the key it was built with, the frame decodes to a message with all
the fields of the phone's. -/
def CarriesData (env : Env) (ctx : MeshCtx S) (pkt : MeshPacket) (data : Data)
    (frame : RadioFrame) : Prop :=
  ∃ plaintext sent,
    (phoneTx pkt data).decrypt env ctx.device ctx.nodeDb (packetIdFor ctx.device pkt)
      (phoneKeys ctx pkt) frame.payload = some plaintext ∧
    env.prost.data.decode plaintext = some sent ∧
    sent.portnum = data.portnum ∧ sent.payload = data.payload ∧
    sent.wantResponse = data.wantResponse ∧ sent.requestId = data.requestId ∧
    sent.replyId = data.replyId ∧ sent.emoji = data.emoji ∧
    sent.bitfield.map bitfieldWantsResponse = some data.wantResponse

omit [MeshStorage S] in
theorem bitfield_phoneTx (device : DeviceState) (pkt : MeshPacket) (data : Data) :
    ((phoneTx pkt data).data device).bitfield.map bitfieldWantsResponse = some false := by
  have hbits : ∀ okToMqtt : Bool, bitfieldWantsResponse
      ((okToMqtt.toUInt32 <<< BITFIELD_OK_TO_MQTT_SHIFT) |||
        (false.toUInt32 <<< BITFIELD_WANT_RESPONSE_SHIFT)) = false := by decide
  exact congrArg some (hbits device.configOkToMqtt)

omit [MeshStorage S] in
theorem carriesData_iff_of_build {ctx : MeshCtx S} {pkt : MeshPacket} {data : Data}
    {frame : RadioFrame}
    (hround : env.prost.data.RoundTrips ((phoneTx pkt data).data ctx.device))
    (hbuild : buildPhoneFrame env ctx pkt data (phoneKeys ctx pkt) = some frame) :
    CarriesData env ctx pkt data frame ↔ data.wantResponse = false := by
  obtain ⟨encBuf, hencrypt, -, hpayload⟩ := TxBuilder.build_eq_some hbuild
  rw [← hpayload] at hencrypt
  have hdecrypt := TxBuilder.decrypt_of_encrypt hencrypt
  constructor
  · rintro ⟨plaintext, sent, hplain, hsent, -, -, hresponse, -⟩
    rw [hdecrypt] at hplain
    cases hplain
    rw [hround] at hsent
    cases hsent
    exact hresponse.symm
  · intro hresponse
    refine ⟨_, _, hdecrypt, hround, rfl, rfl, hresponse.symm, rfl, rfl, rfl, ?_⟩
    rw [hresponse]
    exact bitfield_phoneTx ctx.device pkt data

/-- A frame of a phone packet carries the phone's message exactly when the phone asks
for no response. -/
theorem carriesData_iff {ctx : MeshCtx S} {pkt : MeshPacket} {data : Data}
    {frames : List RadioFrame} {frame : RadioFrame}
    (hdecoded : pkt.payloadVariant = some (.decoded data))
    (hround : env.prost.data.RoundTrips ((phoneTx pkt data).data ctx.device))
    (hsent : (transmitFromBlePacket env ctx pkt).txToLora = ctx.txToLora ++ frames)
    (hframe : frame ∈ frames) :
    CarriesData env ctx pkt data frame ↔ data.wantResponse = false := by
  have hsame := List.append_cancel_left
    (hsent.symm.trans (txToLora_transmitFromBlePacket ctx pkt))
  rw [hsame, sentFrames, hdecoded] at hframe
  dsimp only at hframe
  split at hframe
  · cases hframe
  · exact carriesData_iff_of_build hround (build_of_mem_frames hframe)

/-- A broadcast that asks for nothing arrives as it was handed over. -/
theorem hello_carried :
    ∃ frame, (transmitFromBlePacket KnownAnswers.defaultKey.env freshCtx
        (helloPacket 0 false)).txToLora = freshCtx.txToLora ++ [frame] ∧
      CarriesData KnownAnswers.defaultKey.env freshCtx (helloPacket 0 false)
        (helloData false) frame := by
  have hlora := @txToLora_transmitFromBlePacket FakeStorage KnownAnswers.defaultKey.env _
    freshCtx (helloPacket 0 false)
  obtain ⟨frame, hframe⟩ := List.length_eq_one_iff.mp
    (show (sentFrames KnownAnswers.defaultKey.env freshCtx
      (helloPacket 0 false)).length = 1 by decide)
  rw [hframe] at hlora
  exact ⟨frame, hlora, (carriesData_iff rfl (Wire.dataCodec_roundTrips _ (by decide)) hlora
    (List.mem_singleton_self frame)).mpr rfl⟩

/-- A request loses its wish for a response. -/
theorem hello_request_not_carried :
    ¬ ∀ frames, (transmitFromBlePacket KnownAnswers.defaultKey.env freshCtx
        (helloPacket 0 true)).txToLora = freshCtx.txToLora ++ frames →
      ∀ frame ∈ frames, CarriesData KnownAnswers.defaultKey.env freshCtx
        (helloPacket 0 true) (helloData true) frame := by
  intro hcarried
  obtain ⟨frame, hframe⟩ := List.length_eq_one_iff.mp
    (show (sendOutcome KnownAnswers.defaultKey.env freshCtx (helloPacket 0 true)
      (helloData true)).frames.length = 1 by decide)
  have hmem : frame ∈ (sendOutcome KnownAnswers.defaultKey.env freshCtx
      (helloPacket 0 true) (helloData true)).frames := by
    rw [hframe]
    exact List.mem_singleton_self frame
  have hcarries := hcarried _ (txToLora_transmitFromBlePacket freshCtx (helloPacket 0 true))
    frame hmem
  have hresponse := (carriesData_iff_of_build
    (Wire.dataCodec_roundTrips _ (by decide)) (build_of_mem_frames hmem)).mp hcarries
  cases hresponse

/-! ## Channels of phone sends -/

/-- The frame names the channel by its hash and carries the wrapper encrypted with its
key. -/
def GoesOutOn (env : Env) (device : DeviceState) (channel : ChannelConfig) (data : Data)
    (frame : RadioFrame) : Prop :=
  ∃ header, frame.header = some header ∧
    header.channelIndex = channel.hash device.modemPreset.displayName ∧
    TxBuilder.channelEncrypt env channel header.packetId header.sender
      (env.prost.data.encode data) = some frame.payload

/-- Every frame a phone packet queues goes out on the channel the packet names, which
is configured and enabled. -/
def KeepsChannel (env : Env) (ctx : MeshCtx S) (pkt : MeshPacket) : Prop :=
  ∀ frames, (transmitFromBlePacket env ctx pkt).txToLora = ctx.txToLora ++ frames →
    ∀ frame ∈ frames, ∃ channel data,
      pkt.channel.toNat < MAX_CHANNELS ∧
      ctx.device.channels.get pkt.channel.toUInt8 = some channel ∧
      channel.isEnabled = true ∧ pkt.payloadVariant = some (.decoded data) ∧
      GoesOutOn env ctx.device channel ((phoneTx pkt data).data ctx.device) frame

def NamesChannel (device : DeviceState) (pkt : MeshPacket) : Prop :=
  pkt.channel.toNat < MAX_CHANNELS ∧
    ∃ channel, device.channels.get pkt.channel.toUInt8 = some channel ∧
      channel.isEnabled = true

/-- Nothing of the packet can go out: it is not decoded, or local administration, or the
low byte of its channel number is out of range, or no frame can be built from it. -/
def SendsNothing (env : Env) (ctx : MeshCtx S) (pkt : MeshPacket) : Prop :=
  ∀ data, pkt.payloadVariant = some (.decoded data) →
    isLocalAdmin ctx.device pkt data = true ∨
    MAX_CHANNELS ≤ pkt.channel.toUInt8.toNat ∨
    (phoneTx pkt data).TooLong env ctx.device ∨
    (phoneTx pkt data).UnusableKey env ctx.device

omit [MeshStorage S] in
theorem channel_phoneTx {device : DeviceState} {pkt : MeshPacket} {data : Data}
    {channel : ChannelConfig} (hpkc : wantsPkc pkt = false)
    (hget : device.channels.get pkt.channel.toUInt8 = some channel) :
    (phoneTx pkt data).channel device = some channel := by
  have hidx : channelIdx pkt = pkt.channel.toUInt8 := by simp [channelIdx, hpkc]
  unfold TxBuilder.channel phoneTx
  rw [hidx]
  dsimp only
  rw [Option.bind_some, hget]
  rfl

omit [MeshStorage S] in
theorem sentFrames_eq_nil {ctx : MeshCtx S} {pkt : MeshPacket}
    (hpkc : wantsPkc pkt = false) (h : SendsNothing env ctx pkt) :
    sentFrames env ctx pkt = [] := by
  unfold sentFrames
  split
  · rename_i data hdecoded
    split
    · rfl
    · rename_i hlocal
      rw [frames_sendOutcome_psk hpkc]
      split
      · rename_i hrange
        rcases h data hdecoded with hadmin | hout | hbuild
        · exact absurd hadmin hlocal
        · omega
        · rw [buildPhoneFrame, TxBuilder.build_psk_eq_none_iff.mpr hbuild]
          rfl
      · rfl
  · rfl

theorem keepsChannel_iff (ctx : MeshCtx S) {pkt : MeshPacket}
    (hchannel : pkt.channel ≠ PKC_CHANNEL_INDEX.toUInt32) :
    KeepsChannel env ctx pkt ↔ NamesChannel ctx.device pkt ∨ SendsNothing env ctx pkt := by
  have hpkc : wantsPkc pkt = false := by simpa [wantsPkc] using hchannel
  have hlora := @txToLora_transmitFromBlePacket S env _ ctx pkt
  constructor
  · intro hkeeps
    by_contra hnot
    obtain ⟨hnames, hsends⟩ := not_or.mp hnot
    simp only [SendsNothing, not_forall, not_or, Nat.not_le, exists_prop] at hsends
    obtain ⟨data, hdecoded, hlocal, hrange, hfits, husable⟩ := hsends
    obtain ⟨frame, hbuild⟩ := Option.ne_none_iff_exists'.mp
      (show buildPhoneFrame env ctx pkt data none ≠ none from fun hnone =>
        (TxBuilder.build_psk_eq_none_iff.mp hnone).elim hfits husable)
    have hsent : sentFrames env ctx pkt = [frame] := by
      rw [sentFrames, hdecoded]
      dsimp only
      rw [if_neg hlocal, frames_sendOutcome_psk hpkc, if_pos hrange, hbuild]
      rfl
    obtain ⟨channel, -, hlow, hget, hon, -⟩ :=
      hkeeps _ hlora frame (by rw [hsent]; exact List.mem_singleton_self frame)
    exact hnames ⟨hlow, channel, hget, hon⟩
  · rintro (⟨hlow, channel, hget, hon⟩ | hsends) frames hframes frame hframe
    · have hsame := List.append_cancel_left (hframes.symm.trans hlora)
      rw [hsame] at hframe
      unfold sentFrames at hframe
      split at hframe
      · rename_i data hdecoded
        split at hframe
        · cases hframe
        · have hbuild := build_of_mem_frames hframe
          rw [phoneKeys, hpkc, if_neg (by simp)] at hbuild
          have hresolved : (phoneTx pkt data).channel ctx.device = some channel :=
            channel_phoneTx hpkc hget
          obtain ⟨encBuf, hencrypt, hheader, hpayload⟩ := TxBuilder.build_eq_some hbuild
          rw [TxBuilder.encrypt_of_channel hresolved, ← hpayload] at hencrypt
          refine ⟨channel, data, hlow, hget, hon, hdecoded, _, hheader, ?_, hencrypt⟩
          unfold TxBuilder.header TxBuilder.channelHash
          rw [hresolved]
          rfl
      · cases hframe
    · have hsame := List.append_cancel_left (hframes.symm.trans hlora)
      rw [hsame, sentFrames_eq_nil hpkc hsends] at hframe
      cases hframe

/-- In every reachable state, which phone sends keep their channel. -/
theorem keepsChannel_after_iff (mac : Bytes) (storage : S) (pkcKeypair : Key × Key)
    (entropy : Nat → UInt32) (events : List MeshState.Event) {pkt : MeshPacket}
    (hchannel : pkt.channel ≠ PKC_CHANNEL_INDEX.toUInt32) :
    let ctx := (MeshState.after env mac storage pkcKeypair entropy events).ctx
    KeepsChannel env ctx pkt ↔ NamesChannel ctx.device pkt ∨ SendsNothing env ctx pkt :=
  keepsChannel_iff _ hchannel

/-- A broadcast on the primary channel of a fresh node keeps it. -/
theorem hello_keeps_channel :
    KeepsChannel KnownAnswers.defaultKey.env freshCtx (helloPacket 0 false) :=
  (@keepsChannel_after_iff FakeStorage KnownAnswers.defaultKey.env _ KnownAnswers.mac {}
    KnownAnswers.noKeypair KnownAnswers.noEntropy [] (helloPacket 0 false) (by decide)).mpr
    (Or.inl ⟨by decide, ChannelConfig.defaultPrimary, by decide, by decide⟩)

/-- A broadcast on channel 256 goes out on channel 0. -/
theorem hello_leaves_channel :
    ¬ KeepsChannel KnownAnswers.defaultKey.env freshCtx (helloPacket 256 false) := by
  intro hkeeps
  have hlora := @txToLora_transmitFromBlePacket FakeStorage KnownAnswers.defaultKey.env _
    freshCtx (helloPacket 256 false)
  obtain ⟨frame, hframe⟩ := List.length_eq_one_iff.mp
    (show (sentFrames KnownAnswers.defaultKey.env freshCtx
      (helloPacket 256 false)).length = 1 by decide)
  obtain ⟨channel, data, hlow, -⟩ := hkeeps _ hlora frame (by
    rw [hframe]
    exact List.mem_singleton_self frame)
  exact absurd hlow (by decide)

end Meshtastenstein.Handlers.FromApp
