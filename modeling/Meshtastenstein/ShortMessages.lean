import Meshtastenstein.AdminSession
import Meshtastenstein.Blocking
import Meshtastenstein.HeardPositions
import Meshtastenstein.Identity
import Meshtastenstein.Replay
/-!
# Messages with room

A frame is short, and so is all that comes of it, a position and a user among them.  What the
phone itself hands over is stored as it is: a contact can be shared under a name that leaves its
node no room.  Of all that is told to the phone only such a node does not fit.
-/

namespace Meshtastenstein

open Lib Proto Handlers

variable {S : Type} {env : Env}

/-- All that is queued for the phone has room in its buffer. -/
abbrev TellsShort (before after : MeshCtx S) : Prop :=
  Tells FromRadio.Variant.Small before after

/-! ## What comes of a frame -/

namespace Handlers.FromRadio

theorem length_payload_le (frame : RadioFrame) : frame.payload.length ≤ 239 := by
  have hlen : frame.bytes.length ≤ 255 := frame.length_le
  have hpayload : frame.payload.length = frame.bytes.length - 16 := List.length_drop
  omega

theorem length_pskPlaintext_le {frame : RadioFrame} {header : PacketHeader} {device : DeviceState}
    {plaintext : Bytes} (h : pskPlaintext env frame header device = some plaintext) :
    plaintext.length ≤ 239 := by
  have hlen := length_payload_le frame
  unfold pskPlaintext at h
  split at h
  · split at h
    · rw [length_of_cryptPacket env.crypto h]
      exact hlen
    · cases h
      exact hlen
  · cases h
    exact hlen

theorem length_pkcPlaintext_le {frame : RadioFrame} {header : PacketHeader} {device : DeviceState}
    {db : NodeDb} {pkcPriv : Key} {plaintext : Bytes}
    (h : pkcPlaintext env frame header device db pkcPriv = some plaintext) :
    plaintext.length ≤ 239 := by
  have hlen := length_payload_le frame
  unfold pkcPlaintext at h
  split at h
  · cases h
  · dsimp only at h
    split at h
    · cases h
    · obtain ⟨extraNonce, hencrypt⟩ := exists_encryptPkc_of_decryptPkc env.crypto h
      have hwire := length_of_encryptPkc env.crypto hencrypt
      omega

theorem length_decoded_le (hcompact : env.prost.Compact) {frame : RadioFrame}
    {header : PacketHeader} {device : DeviceState} {db : NodeDb} {pkcPriv : Key}
    {decoded : DecodedPayload}
    (h : tryDecryptAndDecode env frame header device db pkcPriv = .decoded decoded) :
    decoded.payload.length ≤ 239 := by
  unfold tryDecryptAndDecode finalUndecodedOutcome at h
  dsimp only at h
  split at h
  · split at h <;> cases h
  · rename_i plaintext hplaintext
    have hlen : plaintext.length ≤ 239 := by
      rcases Option.or_eq_some_iff.mp hplaintext with hpkc | ⟨-, hpsk⟩
      · exact length_pkcPlaintext_le hpkc
      · exact length_pskPlaintext_le hpsk
    split at h
    · split at h <;> cases h
    · rename_i data hdata
      split at h
      · cases h
      · cases h
        exact Nat.le_trans (hcompact.dataOf plaintext data hdata) hlen

end Handlers.FromRadio

namespace Handlers.FromApp

theorem small_replayVariant (hcompact : env.prost.Compact) {device : DeviceState}
    {frame : RadioFrame} {variant : FromRadio.Variant}
    (h : replayVariant env device frame = some variant) : variant.Small := by
  unfold replayVariant at h
  cases hheader : frame.header with
  | none =>
      rw [hheader] at h
      cases h
  | some header =>
      rw [hheader, decodePskFrame_eq device hheader] at h
      cases hread : (FromRadio.pskPlaintext env frame header device).bind env.prost.data.decode with
      | none =>
          rw [hread] at h
          cases h
      | some data =>
          rw [hread] at h
          obtain ⟨plaintext, hplaintext, hdata⟩ := Option.bind_eq_some_iff.mp hread
          have hlen := FromRadio.length_pskPlaintext_le hplaintext
          have hpayload := hcompact.dataOf plaintext data hdata
          cases h
          exact small_packet rfl rfl (by dsimp only; omega)

end Handlers.FromApp

/-! ## Single messages -/

namespace Handlers

theorem small_routingResult (hcompact : env.prost.Compact)
    (ourNodeNum packetId dest requestId : UInt32) (error : RoutingError) :
    (FromRadio.Variant.packet
      (routingResultPacket env ourNodeNum packetId dest requestId error)).Small :=
  small_packet rfl rfl (Nat.le_trans (hcompact.routing error) (by decide))

theorem tellsShort_sendBleRoutingResult (hcompact : env.prost.Compact) (ctx : MeshCtx S)
    (dest requestId : UInt32) (error : RoutingError) :
    TellsShort ctx (sendBleRoutingResult env ctx dest requestId error) := by
  have hpush : TellsShort ctx.takePacketId (sendBleRoutingResult env ctx dest requestId error) :=
    Tells.push _ (small_routingResult hcompact _ _ dest requestId error)
  exact hpush

theorem tellsShort_notifyBleNodeUpdate {ctx : MeshCtx S} {sender : UInt32}
    (h : ∀ entry, ctx.nodeDb.get sender = some entry → entry.Fits) :
    TellsShort ctx (notifyBleNodeUpdate ctx sender) := by
  unfold notifyBleNodeUpdate
  split
  · rename_i entry hentry
    exact Tells.push ctx (small_makeNodeInfoFromRadio (h entry hentry))
  · exact Tells.of_eq rfl

theorem length_telemetry_le (hcompact : env.prost.Compact) (time : UInt32)
    (metrics : DeviceMetrics) :
    (env.prost.telemetry.encode { time := time, variant := some (.deviceMetrics metrics) }).length ≤
      350 :=
  Nat.le_trans (hcompact.telemetry time metrics) (by decide)

theorem small_satelliteMessages (hcompact : env.prost.Compact) {ctx : MeshCtx S}
    (hplaced : ctx.nodeDb.Forall NodeEntry.Placed) :
    ∀ variant ∈ satelliteMessages env ctx, variant.Small := by
  intro variant hvariant
  unfold satelliteMessages at hvariant
  rcases List.mem_append.mp hvariant with hposition | htelemetry
  · obtain ⟨entry, hentry, hreplay⟩ := List.mem_filterMap.mp hposition
    obtain ⟨position, hat, rfl⟩ := Option.map_eq_some_iff.mp hreplay
    have hlen : position.encoding.length ≤ 162 :=
      hplaced entry (List.mem_of_mem_filter hentry) position hat
    have hencoded := hcompact.position position
    exact small_packet rfl rfl (Nat.le_trans hencoded (Nat.le_trans hlen (by decide)))
  · obtain ⟨entry, -, hreplay⟩ := List.mem_filterMap.mp htelemetry
    obtain ⟨metrics, -, rfl⟩ := Option.map_eq_some_iff.mp hreplay
    exact small_packet rfl rfl (length_telemetry_le hcompact entry.lastHeard metrics)

end Handlers

/-! ## Administration -/

namespace MeshCtx

def KeyedShort (ctx : MeshCtx S) : Prop :=
  ∀ session, ctx.sessionPasskey = some session → session.key.length = 8

end MeshCtx

namespace Handlers.Admin

theorem tellsShort_sendAdminResponse (hcompact : env.prost.Compact) {ctx : MeshCtx S}
    (hkey : ctx.KeyedShort) (requester reqPktId : UInt32) {variant : AdminMessage.Variant}
    {room : Nat} (hroom : variant.answerRoom = some room) (hle : room ≤ 330) :
    TellsShort ctx (sendAdminResponse env ctx requester reqPktId variant false) := by
  obtain ⟨-, session, hsession, hcases⟩ := ensureSessionPasskey_cases ctx
  have hlength : session.key.length = 8 := by
    rcases hcases with ⟨hlive, -⟩ | ⟨-, -, hnew⟩
    · exact hkey session hlive
    · exact hnew
  have hbytes : (responseBytes env (ensureSessionPasskey ctx) variant).length ≤ 350 := by
    have hencoded := hcompact.adminMessage session.key variant room hroom
    have hblock : blockRoom session.key.length ≤ 12 := by
      rw [hlength]
      decide
    unfold responseBytes
    rw [hsession]
    exact Nat.le_trans hencoded (by omega)
  have hble : (ensureSessionPasskey ctx).txToBle = ctx.txToBle := by
    obtain ⟨passkey, entropy, hpasskey⟩ := ensureSessionPasskey_eq ctx
    rw [hpasskey]
  have hanswer : TellsShort (ensureSessionPasskey ctx)
      (sendAdminResponse env ctx requester reqPktId variant false) := by
    refine ⟨[_], rfl, fun msg hmsg => ?_⟩
    rw [List.mem_singleton.mp hmsg]
    exact small_packet rfl rfl hbytes
  exact (Tells.of_eq hble).trans hanswer

theorem answerRoom_le {variant : Config.Variant} {configType : AdminMessage.ConfigType}
    {device : DeviceState} (h : variant = configVariant env device configType) :
    blockRoom (Config.room { payloadVariant := some variant }) ≤ 330 := by
  have hroom : Config.room { payloadVariant := some variant } ≤ 120 := by
    apply room_config_le
    rintro security rfl
    cases configType <;> cases h
    exact ⟨Nat.zero_le 32, Nat.zero_le 32⟩
  have hblock := blockRoom_le (Nat.lt_of_le_of_lt hroom (by decide))
  omega

variable [MeshStorage S]

theorem tellsShort_handleVariant (hcompact : env.prost.Compact) {ctx : MeshCtx S}
    (hkey : ctx.KeyedShort) (hid : ctx.nodeIdStr.length = 9) (requester reqPktId : UInt32)
    (variant : AdminMessage.Variant) :
    TellsShort ctx (handleVariant env ctx requester reqPktId false variant) := by
  rcases @handleVariant_cases S env _ ctx requester reqPktId false variant with
    ⟨hanswered, -⟩ | ⟨-, hadministered⟩
  · cases variant with
    | getOwnerRequest _ =>
        have huser := room_ownUser_le ctx.device hid [] (by decide)
        have hblock := blockRoom_le (Nat.lt_of_le_of_lt huser (by decide))
        exact tellsShort_sendAdminResponse hcompact hkey requester reqPktId rfl
          (Nat.le_trans hblock (by omega))
    | getConfigRequest configType =>
        unfold handleVariant
        dsimp only
        split
        · exact tellsShort_sendAdminResponse hcompact hkey requester reqPktId rfl
            (answerRoom_le rfl)
        · exact Tells.refl ctx
    | getChannelRequest idxPlus1 =>
        have hchannel := room_channelMessage_le ctx.device.channels
          (if idxPlus1 = 0 then 0 else idxPlus1 - 1).toUInt8
        have hblock := blockRoom_le (Nat.lt_of_le_of_lt hchannel (by decide))
        exact tellsShort_sendAdminResponse hcompact hkey requester reqPktId rfl
          (Nat.le_trans hblock (by omega))
    | getModuleConfigRequest configType =>
        unfold handleVariant getModuleConfig
        dsimp only
        split
        · exact tellsShort_sendAdminResponse hcompact hkey requester reqPktId rfl
            (by decide : blockRoom (blockRoom 0) ≤ 330)
        · exact Tells.refl ctx
    | beginEditSettings _ | commitEditSettings _ =>
        exact tellsShort_sendAdminResponse hcompact hkey requester reqPktId rfl (by decide)
    | _ => cases hanswered
  · exact Tells.of_eq (congrArg (fun traffic => traffic.2.2.2.2.2.2) hadministered.traffic_eq)

theorem tellsShort_dispatch (hcompact : env.prost.Compact) {ctx : MeshCtx S}
    (hkey : ctx.KeyedShort) (hid : ctx.nodeIdStr.length = 9) (requester reqPktId : UInt32)
    (adminBytes : Bytes) :
    TellsShort ctx (dispatch env ctx requester reqPktId adminBytes false) := by
  rw [dispatch_eq]
  split
  · exact tellsShort_handleVariant hcompact hkey hid requester reqPktId _
  · exact Tells.refl ctx

end Handlers.Admin

/-! ## Receptions -/

namespace NodeEntry

theorem fits_of_unnamed {entry : NodeEntry} (hplaced : entry.Placed) (h : entry.user = none) :
    entry.Fits :=
  fits_of_room hplaced (Nat.le_trans (room_nodeInfoUser_of_unnamed h) (by decide))

end NodeEntry

namespace Handlers.FromRadio

def notedDb (ctx : MeshCtx S) (header : PacketHeader) (metadata : RadioMetadata) : NodeDb :=
  ctx.nodeDb.edited (noteEdits header metadata ctx.now)

theorem wellFormed_notedDb {ctx : MeshCtx S} {ourNodeNum : UInt32}
    (h : ctx.nodeDb.WellFormed ourNodeNum) (header : PacketHeader) (metadata : RadioMetadata) :
    (notedDb ctx header metadata).WellFormed ourNodeNum :=
  (h.touch header.sender 0 (some metadata.snr) ctx.now).modify header.sender fun _ => rfl

theorem get_notedDb {ctx : MeshCtx S} {ourNodeNum : UInt32}
    (h : ctx.nodeDb.WellFormed ourNodeNum) {header : PacketHeader} {metadata : RadioMetadata}
    {entry : NodeEntry} (hget : (notedDb ctx header metadata).get header.sender = some entry) :
    let old := (ctx.nodeDb.get header.sender).getD { nodeNum := header.sender }
    entry =
      { old with
        lastHeard := 0
        snr := (some metadata.snr).or old.snr
        lastSeenMs := ctx.now
        hopsAway := hopsAway header } := by
  change ((ctx.nodeDb.touch header.sender 0 (some metadata.snr) ctx.now).modify header.sender
    fun entry => { entry with hopsAway := hopsAway header }).get header.sender = some entry at hget
  obtain ⟨touched, htouched, rfl⟩ := NodeDb.get_modify hget fun _ => rfl
  have hheard := h.get_touch htouched
  dsimp only at hheard ⊢
  rw [hheard]

theorem tellsShort_noteSender {ctx : MeshCtx S} {ourNodeNum : UInt32}
    (hdb : ctx.nodeDb.WellFormed ourNodeNum) (header : PacketHeader) (metadata : RadioMetadata) :
    TellsShort ctx (noteSender env ctx header metadata) := by
  have hnotify : ∀ noted : MeshCtx S, noted.nodeDb = notedDb ctx header metadata →
      noted.txToBle = ctx.txToBle →
      TellsShort ctx
        (if (ctx.nodeDb.get header.sender).isNone = true then
          notifyBleNodeUpdate noted header.sender
        else noted) := by
    intro noted hnoted hble
    split
    · rename_i hnew
      refine (Tells.of_eq hble).trans (tellsShort_notifyBleNodeUpdate fun entry hentry => ?_)
      rw [hnoted] at hentry
      have hblank := get_notedDb hdb hentry
      rw [Option.isNone_iff_eq_none.mp hnew] at hblank
      rw [hblank]
      exact NodeEntry.fits_of_unnamed (fun _ hat => nomatch hat) rfl
    · exact Tells.of_eq hble
  have hrequest : ∀ noted : MeshCtx S, TellsShort ctx noted → TellsShort ctx
      (if ((noted.nodeDb.get header.sender).bind (·.user)).isNone = true then
        maybeRequestNodeinfo env noted header.sender header.hopStart header.hopLimit
      else noted) := by
    intro noted htold
    split
    · exact htold.trans (Tells.of_eq (txToBle_maybeRequestNodeinfo noted _ _ _))
    · exact htold
  exact hrequest _ (hnotify _ rfl rfl)

theorem tellsShort_handlePosition {ctx : MeshCtx S} {pkt : InboundPacket}
    (h : ∀ position entry, env.prost.position.decode pkt.payload = some position →
      (ctx.nodeDb.updatePosition pkt.sender position).get pkt.sender = some entry → entry.Fits) :
    TellsShort ctx (handlePosition env ctx pkt) := by
  unfold handlePosition
  split
  · exact Tells.refl ctx
  · rename_i position hposition
    have hstored : TellsShort ctx (ctx.modifyNodeDb (·.updatePosition pkt.sender position)) :=
      Tells.of_eq rfl
    exact hstored.trans (tellsShort_notifyBleNodeUpdate fun entry => h position entry hposition)

theorem tellsShort_handleNodeInfo (hcompact : env.prost.Compact) {ctx : MeshCtx S}
    {ourNodeNum : UInt32} (hdb : ctx.nodeDb.WellFormed ourNodeNum)
    (hplaced : ctx.nodeDb.Forall NodeEntry.Placed) {pkt : InboundPacket}
    (hpayload : pkt.payload.length ≤ 239) : TellsShort ctx (handleNodeInfo env ctx pkt) := by
  unfold handleNodeInfo
  split
  · exact Tells.refl ctx
  · rename_i user huser
    have hroom : user.textRoom ≤ 239 := Nat.le_trans (hcompact.userOf _ user huser) hpayload
    have hstored : TellsShort ctx (ctx.modifyNodeDb fun db => storeUser db pkt.sender user) :=
      Tells.of_eq rfl
    have hkept : (storeUser ctx.nodeDb pkt.sender user).Forall NodeEntry.Placed :=
      hplaced.storeUser (fun _ _ hat => nomatch hat) (fun _ _ _ hentry => hentry)
        fun _ hentry => hentry
    have htold := hstored.trans (tellsShort_notifyBleNodeUpdate fun entry hentry => by
      have hnamed : entry.user = some user := by
        change (storeUser ctx.nodeDb pkt.sender user).get pkt.sender = some entry at hentry
        unfold storeUser at hentry
        dsimp only at hentry
        split at hentry
        · exact (hdb.updatePubKey pkt.sender _).get_updateUser hentry
        · exact hdb.get_updateUser hentry
      have hat := hkept entry (List.mem_of_find?_eq_some hentry)
      exact fits_of_room hat (Nat.le_trans (room_nodeInfoUser_le hnamed) (by omega)))
    dsimp only
    split
    · exact htold.trans (Tells.of_eq (txToBle_sendNodeinfo _ pkt.sender false))
    · exact htold

theorem tellsShort_handleRouting (hcompact : env.prost.Compact) (ctx : MeshCtx S)
    (pkt : InboundPacket) : TellsShort ctx (handleRouting env ctx pkt) := by
  unfold handleRouting
  split
  · exact Tells.refl ctx
  · split
    · have hended : TellsShort ctx (acknowledge env ctx pkt.requestId) := by
        unfold acknowledge
        split
        · exact Tells.refl ctx
        · dsimp only
          split
          · exact (Tells.of_eq rfl).trans (tellsShort_sendBleRoutingResult hcompact _ _ _ _)
          · exact Tells.of_eq rfl
      exact hended.trans (Tells.of_eq rfl)
    · exact Tells.refl ctx

def moved (env : Env) (ctx : MeshCtx S) (frame : RadioFrame) : Option NodeEntry :=
  match newPacket env ctx frame with
  | some (header, decoded) =>
      if PortNum.tryFrom decoded.portnum = some .positionApp then
        (ctx.nodeDb.get header.sender).bind fun entry =>
          (env.prost.position.decode decoded.payload).map fun position =>
            { entry with position := some position }
      else none
  | none => none

variable [MeshStorage S]

theorem tellsShort_handleNew (hcompact : env.prost.Compact) {ctx : MeshCtx S} {ourNodeNum : UInt32}
    (hdb : ctx.nodeDb.WellFormed ourNodeNum) (hplaced : ctx.nodeDb.Forall NodeEntry.Placed)
    (frame : RadioFrame) {header : PacketHeader} (metadata : RadioMetadata)
    {decoded : DecodedPayload} (hpayload : decoded.payload.length ≤ 239)
    (hmoved : PortNum.tryFrom decoded.portnum = some .positionApp → ∀ position entry,
      env.prost.position.decode decoded.payload = some position →
      ctx.nodeDb.get header.sender = some entry →
      NodeEntry.Fits { entry with position := some position }) :
    TellsShort ctx (handleNew env ctx frame header metadata decoded) := by
  unfold handleNew
  dsimp only
  have hnoted := @tellsShort_noteSender S env ctx ourNodeNum hdb header metadata
  have hresident := @resident_noteSender S env ctx header metadata
  generalize noteSender env ctx header metadata = noted at hnoted hresident ⊢
  generalize hpkt : inboundPacket noted.device header metadata decoded = pkt
  have hsender : pkt.sender = header.sender := by
    rw [← hpkt]
    rfl
  have hcontent : pkt.payload = decoded.payload := by
    rw [← hpkt]
    rfl
  have hbuffered : TellsShort noted (bufferText noted frame decoded.portnum) :=
    Tells.of_eq (txToBle_bufferText noted frame decoded.portnum)
  have hstored : (bufferText noted frame decoded.portnum).nodeDb = notedDb ctx header metadata := by
    have hsame : (bufferText noted frame decoded.portnum).nodeDb = noted.nodeDb := by
      unfold bufferText
      split <;> rfl
    exact hsame.trans (congrArg (fun resident => resident.holdings.nodeDb) hresident)
  generalize bufferText noted frame decoded.portnum = buffered at hbuffered hstored ⊢
  have hbufferedDb : buffered.nodeDb.WellFormed ourNodeNum := by
    rw [hstored]
    exact wellFormed_notedDb hdb header metadata
  have hbufferedPlaced : buffered.nodeDb.Forall NodeEntry.Placed := by
    rw [hstored]
    exact (hplaced.touch 0 (some metadata.snr) ctx.now (fun _ _ hat => nomatch hat)
      fun _ hentry => hentry).modify header.sender fun _ hentry => hentry
  have hhandled : TellsShort buffered (handlePortnum env buffered decoded.portnum pkt) := by
    rcases @handlePortnum_cases S env _ buffered decoded.portnum pkt with
      ⟨hport, hposition⟩ | hnodeinfo | hrouting | ⟨-, hble⟩
    · rw [hposition]
      apply tellsShort_handlePosition
      intro position entry hdecode hget
      rw [hcontent] at hdecode
      have hroom : position.encoding.length ≤ POSITION_ROOM := hcompact.positionOf _ _ hdecode
      have hentry := hbufferedDb.get_upsert hget fun _ => rfl
      rw [hsender, hstored] at hentry
      rw [hentry]
      cases hold : ctx.nodeDb.get header.sender with
      | none =>
          apply NodeEntry.fits_of_unnamed
          · intro stored hat
            cases hat
            exact hroom
          · dsimp only
            cases hnote : (notedDb ctx header metadata).get header.sender with
            | none => rfl
            | some note =>
                have hblank := get_notedDb hdb hnote
                rw [hold] at hblank
                rw [Option.getD_some, hblank]
                rfl
      | some old =>
          have hfits := hmoved hport position old hdecode hold
          cases hnote : (notedDb ctx header metadata).get header.sender with
          | none =>
              apply NodeEntry.fits_of_unnamed
              · intro stored hat
                cases hat
                exact hroom
              · rfl
          | some note =>
              have hkept := get_notedDb hdb hnote
              rw [hold] at hkept
              rw [Option.getD_some, hkept]
              exact hfits
    · rw [hnodeinfo]
      exact tellsShort_handleNodeInfo hcompact hbufferedDb hbufferedPlaced (hcontent ▸ hpayload)
    · rw [hrouting]
      exact tellsShort_handleRouting hcompact buffered pkt
    · exact Tells.of_eq hble
  generalize handlePortnum env buffered decoded.portnum pkt = handled at hhandled ⊢
  have hforwarded : TellsShort handled (forwardInbound handled header metadata decoded pkt) := by
    unfold forwardInbound forwardToBle
    split
    · exact Tells.push handled (small_packet rfl rfl (by
        rw [hcontent]
        exact Nat.le_trans hpayload (by decide)))
    · exact Tells.refl handled
  exact (((hnoted.trans hbuffered).trans hhandled).trans hforwarded).trans
    ((Tells.of_eq (txToBle_ackInbound _ header decoded)).trans
      (Tells.of_eq (txToBle_relayInbound _ frame header metadata)))

theorem tellsShort_dispatch (hcompact : env.prost.Compact) {ctx : MeshCtx S} {ourNodeNum : UInt32}
    (hdb : ctx.nodeDb.WellFormed ourNodeNum) (hplaced : ctx.nodeDb.Forall NodeEntry.Placed)
    {frame : RadioFrame} (hmoved : ∀ entry, moved env ctx frame = some entry → entry.Fits)
    (metadata : RadioMetadata) : TellsShort ctx (dispatch env ctx frame metadata) := by
  unfold moved at hmoved
  cases hnew : newPacket env ctx frame with
  | none => exact Tells.of_eq (txToBle_dispatch_of_none hnew metadata)
  | some packet =>
      obtain ⟨header, decoded⟩ := packet
      rw [hnew] at hmoved
      dsimp only at hmoved
      rw [dispatch_of_newPacket hnew metadata]
      have hnews := @tellsShort_handleNew S env _ hcompact (admitted ctx header) ourNodeNum hdb
        hplaced frame header metadata decoded
        (length_decoded_le hcompact (of_newPacket hnew).2)
        (fun hport position entry hdecode hget => hmoved _ (by
          rw [if_pos hport]
          rw [show ctx.nodeDb.get header.sender = some entry from hget, Option.bind_some, hdecode]
          rfl))
      exact hnews

end Handlers.FromRadio

/-! ## Messages of the phone -/

namespace Handlers.FromApp

theorem tellsShort_sendToMesh (hcompact : env.prost.Compact) (ctx : MeshCtx S) (pkt : MeshPacket)
    (data : Data) : TellsShort ctx (sendToMesh env ctx pkt data) := by
  refine PhoneWork.closed Tells.refl Tells.trans (fun hwork => ?_)
    (@works_sendToMesh S env ctx pkt data)
  cases hwork with
  | report dest requestId error =>
      exact tellsShort_sendBleRoutingResult hcompact _ dest requestId error
  | _ => exact Tells.of_eq rfl

theorem small_nodeDbExchange {db : NodeDb}
    (h : ∀ entry ∈ db.nodes.toList.take CONFIG_EXCHANGE_MAX_NODES, entry.Fits) :
    ∀ variant ∈ nodeDbExchange db, variant.Small := by
  intro variant hvariant
  unfold nodeDbExchange at hvariant
  obtain ⟨num, hnum, hshown⟩ := List.mem_filterMap.mp hvariant
  obtain ⟨first, hfirst, rfl⟩ := List.mem_map.mp hnum
  obtain ⟨entry, hget, rfl⟩ := Option.map_eq_some_iff.mp hshown
  apply small_makeNodeInfoFromRadio
  apply h
  have hfound : ((db.nodes.toList.take CONFIG_EXCHANGE_MAX_NODES).find? fun n =>
      n.nodeNum == first.nodeNum).isSome = true :=
    List.find?_isSome.mpr ⟨first, hfirst, beq_self_eq_true _⟩
  obtain ⟨early, hearly⟩ := Option.isSome_iff_exists.mp hfound
  unfold NodeDb.get at hget
  rw [← List.take_append_drop CONFIG_EXCHANGE_MAX_NODES db.nodes.toList, List.find?_append, hearly,
    Option.some_or] at hget
  cases hget
  exact List.mem_of_find?_eq_some hearly

variable [MeshStorage S]

theorem tellsShort_wantConfigId (hcompact : env.prost.Compact) {ctx : MeshCtx S}
    (hid : ctx.nodeIdStr.length = 9) (hplaced : ctx.nodeDb.Forall NodeEntry.Placed)
    {configId : UInt32} (hshown : configId = SPECIAL_NONCE_ONLY_NODES →
      ∀ entry ∈ ctx.nodeDb.nodes.toList.take CONFIG_EXCHANGE_MAX_NODES, entry.Fits) :
    TellsShort ctx (handleToRadio env ctx (some (.wantConfigId configId))) := by
  have hstage : ∀ variant ∈ stage env ctx configId, variant.Small := by
    unfold stage
    split
    · rename_i hnodes
      intro variant hvariant
      rcases List.mem_append.mp hvariant with hnode | hcomplete
      · rcases List.mem_cons.mp hnode with rfl | hother
        · exact small_ownNodeInfo hid
        · exact small_nodeDbExchange (hshown hnodes) variant hother
      · rw [List.mem_singleton.mp hcomplete]
        exact (by decide : idRoom + uint32Room ≤ 512)
    · exact small_configExchange hid configId
  have hexchanged : TellsShort ctx (exchanged env ctx configId) := by
    have hpushed := Tells.foldl_push hstage ctx
    unfold stage at hpushed
    unfold exchanged
    split
    · rename_i hnodes
      rw [if_pos hnodes] at hpushed
      have hsame := MeshCtx.resident_foldl (@resident_pushFromRadio S)
        (ownNodeInfo ctx :: nodeDbExchange ctx.nodeDb ++ [.configCompleteId configId]) ctx
      unfold sendNodeinfoExchange
      dsimp only
      rw [replaySatelliteDb_eq, satelliteMessages_congr hsame]
      exact hpushed.trans (Tells.foldl_push (small_satelliteMessages hcompact hplaced) _)
    · rename_i hconfig
      rw [if_neg hconfig] at hpushed
      exact hpushed
  rw [handleToRadio_wantConfigId]
  refine hexchanged.trans ((tells_replayFrames _ _).mono fun variant hvariant => ?_)
  obtain ⟨frame, -, hreplay⟩ := hvariant
  exact small_replayVariant hcompact hreplay

theorem tellsShort_transmitDecoded (hcompact : env.prost.Compact) {ctx : MeshCtx S}
    (hkey : ctx.KeyedShort) (hid : ctx.nodeIdStr.length = 9) (pkt : MeshPacket) (data : Data) :
    TellsShort ctx (transmitDecoded env ctx pkt data) := by
  unfold transmitDecoded
  split
  · have hadministered :=
      @Admin.tellsShort_dispatch S env _ hcompact ctx hkey hid pkt.fromNode pkt.id data.payload
    unfold handleLocalAdmin
    dsimp only
    split
    · exact hadministered.trans (tellsShort_sendBleRoutingResult hcompact _ _ _ _)
    · exact hadministered
  · have hnoted : TellsShort ctx (notePosition ctx data) := by
      unfold notePosition
      split <;> exact Tells.of_eq rfl
    exact hnoted.trans (tellsShort_sendToMesh hcompact _ pkt data)

theorem tellsShort_handleToRadio (hcompact : env.prost.Compact) {ctx : MeshCtx S}
    (hkey : ctx.KeyedShort) (hid : ctx.nodeIdStr.length = 9)
    (hplaced : ctx.nodeDb.Forall NodeEntry.Placed) {variant : Option ToRadio.Variant}
    (hshown : variant = some (.wantConfigId SPECIAL_NONCE_ONLY_NODES) →
      ∀ entry ∈ ctx.nodeDb.nodes.toList.take CONFIG_EXCHANGE_MAX_NODES, entry.Fits) :
    TellsShort ctx (handleToRadio env ctx variant) := by
  cases variant with
  | none => exact Tells.refl ctx
  | some variant =>
      cases variant with
      | packet pkt =>
          unfold handleToRadio transmitFromBlePacket
          dsimp only
          split
          · exact tellsShort_transmitDecoded hcompact hkey hid pkt _
          · exact Tells.refl ctx
      | wantConfigId configId =>
          exact tellsShort_wantConfigId hcompact hid hplaced fun hnodes => hshown (by rw [hnodes])
      | heartbeat nonce =>
          unfold handleToRadio
          dsimp only
          split
          · exact Tells.of_eq (FromRadio.txToBle_sendNodeinfo ctx _ _)
          · exact Tells.push ctx (by decide :
              idRoom + blockRoom (int32Room + uint32Room + uint32Room + uint32Room) ≤ 512)
      | disconnect _ => exact Tells.of_eq rfl
      | _ => exact Tells.refl ctx

theorem tellsShort_dispatch (hcompact : env.prost.Compact) {ctx : MeshCtx S}
    (hkey : ctx.KeyedShort) (hid : ctx.nodeIdStr.length = 9)
    (hplaced : ctx.nodeDb.Forall NodeEntry.Placed) {bytes : Bytes}
    (hshown : wantedConfig env bytes = some SPECIAL_NONCE_ONLY_NODES →
      ∀ entry ∈ ctx.nodeDb.nodes.toList.take CONFIG_EXCHANGE_MAX_NODES, entry.Fits) :
    TellsShort ctx (dispatch env ctx bytes) := by
  unfold wantedConfig at hshown
  unfold dispatch
  split
  · exact Tells.refl ctx
  · rename_i hbytes
    rw [if_neg hbytes] at hshown
    split
    · exact Tells.refl ctx
    · rename_i toRadio hdecode
      rw [hdecode] at hshown
      refine (tellsShort_handleToRadio hcompact hkey hid hplaced fun hnodes => ?_).trans
        (Tells.of_eq rfl)
      obtain ⟨variant⟩ := toRadio
      cases hnodes
      exact hshown rfl

end Handlers.FromApp

/-! ## All events -/

theorem Handlers.Periodic.tellsShort_sendDeviceTelemetry (hcompact : env.prost.Compact)
    (ctx : MeshCtx S) (batteryLevel : UInt8) (voltageMv : UInt16) :
    TellsShort ctx (sendDeviceTelemetry env ctx batteryLevel voltageMv) := by
  unfold sendDeviceTelemetry forwardTelemetry
  dsimp only
  split
  · refine (Tells.of_eq (txToBle_broadcastTelemetry ctx _)).trans ((Tells.of_eq rfl).trans
      (Tells.push _ (small_packet rfl rfl ?_)))
    exact length_telemetry_le hcompact 0 _
  · exact Tells.of_eq (txToBle_broadcastTelemetry ctx _)

/-- What has to be so for the messages of the node to be short: its own id and its session key
are, and it has heard where the other nodes are. -/
structure MeshCtx.Tidy (ctx : MeshCtx S) : Prop where
  id : ctx.nodeIdStr.length = 9
  key : ctx.KeyedShort
  wellFormed : ctx.nodeDb.WellFormed ctx.nodeDb.ourNodeNum
  placed : ctx.nodeDb.Forall NodeEntry.Placed

namespace Handlers

variable [MeshStorage S]

def shown (env : Env) (ctx : MeshCtx S) : MeshEvent → List NodeEntry
  | .loraRx frame _ => (FromRadio.moved env ctx frame).toList
  | .bleRx bytes =>
      if FromApp.wantedConfig env bytes = some SPECIAL_NONCE_ONLY_NODES then
        ctx.nodeDb.nodes.toList.take CONFIG_EXCHANGE_MAX_NODES
      else []
  | _ => []

theorem tellsShort_dispatch (hcompact : env.prost.Compact) {ctx : MeshCtx S} (htidy : ctx.Tidy)
    {event : MeshEvent} (hshown : ∀ entry ∈ shown env ctx event, entry.Fits) :
    TellsShort ctx (dispatch env ctx event) := by
  cases event with
  | loraRx frame metadata =>
      exact FromRadio.tellsShort_dispatch hcompact htidy.wellFormed htidy.placed
        (fun entry hentry => hshown entry (Option.mem_toList.mpr hentry)) metadata
  | bleRx bytes =>
      exact FromApp.tellsShort_dispatch hcompact htidy.key htidy.id htidy.placed
        fun hnodes entry hentry => hshown entry (by
          unfold shown
          dsimp only
          rw [if_pos hnodes]
          exact hentry)
  | batteryUpdate level voltageMv =>
      exact Periodic.tellsShort_sendDeviceTelemetry hcompact ctx level voltageMv
  | tick => exact Tells.of_eq (Periodic.txToBle_dispatch ctx)
  | _ => exact Tells.of_eq rfl

end Handlers

/-! ## Steps -/

namespace MeshState

/-- The stored nodes that a step shows to the phone: the first ones of the list that it asks
for, and one that is heard to be elsewhere. -/
def shown (env : Env) (state : MeshState S) : Event → List NodeEntry
  | .mesh event =>
      if state.started then Handlers.shown env (noteActivity state.ctx event) event else []
  | _ => []

/-- Each of them leaves its message room. -/
def ShowsFitting (env : Env) (state : MeshState S) (event : Event) : Prop :=
  ∀ entry ∈ shown env state event, entry.Fits

instance (state : MeshState S) (event : Event) : Decidable (ShowsFitting env state event) :=
  inferInstanceAs (Decidable (∀ _ ∈ _, _))

variable [MeshStorage S]

theorem tellsShort_handled (hcompact : env.prost.Compact) {state : MeshState S}
    (htidy : state.ctx.Tidy) {event : Event} (hshows : ShowsFitting env state event)
    (h : event ≠ .bleTaken) : TellsShort state.ctx (handled env state event) := by
  unfold ShowsFitting shown at hshows
  unfold handled
  cases event with
  | mesh event =>
      dsimp only at hshows ⊢
      split
      · rename_i hstarted
        rw [if_pos hstarted] at hshows
        have hnoted : (noteActivity state.ctx event).Tidy := by
          cases event <;> exact ⟨htidy.id, htidy.key, htidy.wellFormed, htidy.placed⟩
        have hsame : (noteActivity state.ctx event).txToBle = state.ctx.txToBle := by
          cases event <;> rfl
        exact (Tells.of_eq hsame).trans (tellsShort_dispatch hcompact hnoted hshows)
      · exact Tells.refl state.ctx
  | announce =>
      dsimp only
      split
      · exact Tells.refl state.ctx
      · exact Tells.of_eq (Periodic.txToBle_broadcastNodeinfo state.ctx)
  | rebroadcastDue =>
      dsimp only
      split
      · rcases fireRebroadcast_cases state.ctx with hnone | ⟨i, pending, -, hsent⟩
        · rw [hnone]
          exact Tells.refl state.ctx
        · rw [hsent]
          exact Tells.of_eq rfl
      · exact Tells.refl state.ctx
  | retransmissionDue =>
      dsimp only
      split
      · obtain ⟨lost, result, -, -, hfire⟩ := @fireRetransmissions_eq S env state.ctx
        rw [hfire]
        exact (Tells.of_eq rfl).trans (Tells.foldl
          (fun ctx _ _ => tellsShort_sendBleRoutingResult hcompact ctx _ _ .maxRetransmit) _)
      · exact Tells.refl state.ctx
  | bleTaken => exact absurd rfl h
  | _ => exact Tells.of_eq rfl

theorem tidy_boot (hloads : LoadsSnapshots S) (mac : Bytes) (storage : S)
    (pkcKeypair : Key × Key) (entropy : Nat → UInt32) :
    (boot env mac storage pkcKeypair entropy).ctx.Tidy where
  id := length_buildNodeIdString _
  key := fun _ hsession => nomatch hsession
  wellFormed := wellFormed_boot hloads mac storage pkcKeypair entropy
  placed := placed_boot hloads mac storage pkcKeypair entropy

/-- The node keeps its id as long as it stays up, and starts again with one of that length. -/
theorem length_nodeIdStr_step {state : MeshState S} (h : state.ctx.nodeIdStr.length = 9)
    (event : Event) : (step env state event).ctx.nodeIdStr.length = 9 := by
  cases hrestarts : restarts env state event with
  | true =>
      obtain ⟨housed, -, hstep⟩ := step_of_restarts hrestarts
      rw [hstep]
      exact length_buildNodeIdString _
  | false =>
      have hhandled := (@identity_handled S _ env state event).2.2
      have hkept := (outgoing_of_housekept (step_of_not_restarts hrestarts)).1
      simp only [MeshCtx.outgoing, Prod.mk.injEq] at hkept
      have hid : (step env state event).ctx.nodeIdStr = state.ctx.nodeIdStr :=
        congrArg Prod.snd (hkept.2.2.2.1.trans hhandled)
      rw [hid]
      exact h

/-- A session that is new has a key of the length that the firmware makes. -/
theorem keyedShort_step {state : MeshState S} (h : state.ctx.KeyedShort) (event : Event) :
    (step env state event).ctx.KeyedShort := by
  intro session hsession
  cases hrestarts : restarts env state event with
  | true =>
      obtain ⟨housed, -, hstep⟩ := step_of_restarts hrestarts
      rw [hstep] at hsession
      cases hsession
  | false =>
      have hkept := SessionRun.session_of_housekept (step_of_not_restarts hrestarts)
      have hafter : (handled env state event).sessionPasskey = some session :=
        (congrArg Prod.fst hkept).symm.trans hsession
      by_cases hsame : (handled env state event).sessionPasskey = state.ctx.sessionPasskey
      · exact h session (hsame.symm.trans hafter)
      · have hnew : newSession state.ctx (handled env state event) = some session := by
          unfold newSession
          rw [if_neg hsame]
          exact hafter
        exact (SessionRun.of_newSession hnew).2.2.1

theorem tidy_step (hcompact : env.prost.Compact) (hloads : LoadsSnapshots S) {state : MeshState S}
    (h : state.ctx.Tidy) (event : Event) : (step env state event).ctx.Tidy where
  id := length_nodeIdStr_step h.id event
  key := keyedShort_step h.key event
  wellFormed := wellFormed_nodeDb_step hloads h.wellFormed event
  placed := placed_step hcompact hloads h.placed

/-- In every run whose steps show the phone such nodes only, all that is queued for it is
short. -/
theorem tellsShort_run (hcompact : env.prost.Compact) (hloads : LoadsSnapshots S) (mac : Bytes)
    (storage : S) (pkcKeypair : Key × Key) (entropy : Nat → UInt32) {events : List Event}
    (hshows : Transition.Always (step env) (ShowsFitting env)
      (boot env mac storage pkcKeypair entropy) events) :
    Transition.Always (step env)
      (fun state event => event ≠ .bleTaken → TellsShort state.ctx (handled env state event))
      (boot env mac storage pkcKeypair entropy) events := by
  intro t ht htaken
  have htidy := @Transition.preserved_trace _ _ (step env) (fun state => state.ctx.Tidy)
    (fun _ event h => tidy_step hcompact hloads h event) _
    (tidy_boot hloads mac storage pkcKeypair entropy) events t ht
  exact tellsShort_handled hcompact htidy (hshows t ht) htaken

end MeshState

end Meshtastenstein
