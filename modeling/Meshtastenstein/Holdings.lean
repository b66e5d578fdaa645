import Meshtastenstein.Core
import Meshtastenstein.Runs
/-!
# What handling an event records

The node database, the storage and the connection flag after an event was handled: the
edits of the database, one by one, and the storage up to the settings written to it.
-/

namespace Meshtastenstein

open Lib Proto Handlers

variable {S : Type} [MeshStorage S] {env : Env}

inductive Configured (storage : S) : S → Prop
  | kept : Configured storage storage
  | saved (config : SavedConfig) : Configured storage (MeshStorage.saveConfig storage config)
  | erased : Configured storage (MeshStorage.clearBond (MeshStorage.eraseConfig storage))

structure Records (ctx after : MeshCtx S) (edits : List NodeDbEdit) (storage : S) : Prop where
  nodeDb_eq : after.nodeDb = ctx.nodeDb.edited edits
  bleConnected_eq : after.bleConnected = ctx.bleConnected
  configured : Configured storage after.storage

namespace Records

variable {ctx ctx' after after' : MeshCtx S} {edits edits' : List NodeDbEdit} {storage : S}

theorem of_holdings_eq (h : after.holdings = ctx.holdings) : Records ctx after [] ctx.storage where
  nodeDb_eq := congrArg Holdings.nodeDb h
  bleConnected_eq := congrArg Holdings.bleConnected h
  configured := by
    rw [show after.storage = ctx.storage from congrArg Holdings.storage h]
    exact Configured.kept

theorem of_edit (h : after.holdings = (ctx.resident.edit (·.edited edits)).holdings) :
    Records ctx after edits ctx.storage where
  nodeDb_eq := congrArg Holdings.nodeDb h
  bleConnected_eq := congrArg Holdings.bleConnected h
  configured := by
    rw [show after.storage = ctx.storage from congrArg Holdings.storage h]
    exact Configured.kept

theorem andThen (h : Records ctx after edits storage) (heq : after'.holdings = after.holdings) :
    Records ctx after' edits storage where
  nodeDb_eq := (congrArg Holdings.nodeDb heq).trans h.nodeDb_eq
  bleConnected_eq := (congrArg Holdings.bleConnected heq).trans h.bleConnected_eq
  configured := by
    rw [show after'.storage = after.storage from congrArg Holdings.storage heq]
    exact h.configured

end Records

/-! ## Administration -/

namespace Handlers.Admin

omit [MeshStorage S] in
theorem holdings_ensureSessionPasskey (ctx : MeshCtx S) :
    (ensureSessionPasskey ctx).holdings = ctx.holdings := by
  obtain ⟨session, entropy, hpasskey⟩ := ensureSessionPasskey_eq ctx
  rw [hpasskey]
  rfl

omit [MeshStorage S] in
theorem holdings_sendAdminResponse (ctx : MeshCtx S) (requester reqPktId : UInt32)
    (variant : AdminMessage.Variant) (viaLora : Bool) :
    (sendAdminResponse env ctx requester reqPktId variant viaLora).holdings = ctx.holdings := by
  have hpasskey := holdings_ensureSessionPasskey ctx
  unfold sendAdminResponse
  split
  · rw [MeshCtx.holdings_of_resident (resident_originate _ _), hpasskey]
  · exact hpasskey

theorem records_saveDevice (ctx : MeshCtx S) (device : DeviceState) :
    Records ctx (saveDevice env ctx device) [] ctx.storage where
  nodeDb_eq := rfl
  bleConnected_eq := rfl
  configured := Configured.saved _

theorem records_handleVariant (ctx : MeshCtx S) (requester reqPktId : UInt32) (viaLora : Bool)
    (variant : AdminMessage.Variant) :
    Records ctx (handleVariant env ctx requester reqPktId viaLora variant)
      (variantEdits ctx.device.myNodeNum variant) ctx.storage := by
  have hanswered : ∀ answer, Records ctx
      (sendAdminResponse env ctx requester reqPktId answer viaLora) [] ctx.storage :=
    fun answer => Records.of_holdings_eq
      (holdings_sendAdminResponse ctx requester reqPktId answer viaLora)
  have hsame : Records ctx ctx [] ctx.storage := Records.of_holdings_eq rfl
  cases variant with
  | getOwnerRequest _ => exact hanswered _
  | getConfigRequest configType =>
      unfold handleVariant
      dsimp only
      split
      · exact hanswered _
      · exact hsame
  | getChannelRequest _ => exact hanswered _
  | getModuleConfigRequest configType =>
      unfold handleVariant getModuleConfig
      dsimp only
      split
      · exact hanswered _
      · exact hsame
  | setOwner user => exact records_saveDevice ctx _
  | setConfig config =>
      unfold handleVariant setConfig
      dsimp only
      split
      · exact records_saveDevice ctx _
      · exact (records_saveDevice ctx _).andThen rfl
      · exact records_saveDevice ctx _
      · exact hsame
  | setChannel channel =>
      unfold handleVariant setChannel
      dsimp only
      split
      · split
        · exact records_saveDevice ctx _
        · exact hsame
      · exact hsame
  | addContact contact =>
      unfold handleVariant addContact variantEdits
      dsimp only
      cases contact.user with
      | none => exact hsame
      | some user => exact Records.of_edit rfl
  | beginEditSettings _ => exact hanswered _
  | commitEditSettings _ => exact hanswered _
  | factoryResetConfig _ => exact ⟨rfl, rfl, Configured.erased⟩
  | setFavoriteNode _ => exact Records.of_edit rfl
  | removeFavoriteNode _ => exact Records.of_edit rfl
  | setIgnoredNode _ => exact Records.of_edit rfl
  | removeIgnoredNode _ => exact Records.of_edit rfl
  | toggleMutedNode _ => exact Records.of_edit rfl
  | nodedbReset _ => exact Records.of_edit rfl
  | removeByNodenum _ => exact Records.of_edit rfl
  | _ => exact ⟨rfl, rfl, Configured.kept⟩

theorem dispatch_eq (ctx : MeshCtx S) (requester reqPktId : UInt32) (adminBytes : Bytes)
    (viaLora : Bool) :
    dispatch env ctx requester reqPktId adminBytes viaLora =
      match command env ctx adminBytes viaLora with
      | some variant => handleVariant env ctx requester reqPktId viaLora variant
      | none => ctx := by
  unfold dispatch command
  cases env.prost.adminMessage.decode adminBytes with
  | none => rfl
  | some msg =>
      dsimp only [Option.bind_some]
      split
      · cases msg.payloadVariant <;> rfl
      · rfl

theorem records_dispatch (ctx : MeshCtx S) (requester reqPktId : UInt32) (adminBytes : Bytes)
    (viaLora : Bool) :
    Records ctx (dispatch env ctx requester reqPktId adminBytes viaLora)
      (edits env ctx adminBytes viaLora) ctx.storage := by
  rw [dispatch_eq]
  unfold edits
  cases command env ctx adminBytes viaLora with
  | none => exact Records.of_holdings_eq rfl
  | some variant => exact records_handleVariant ctx requester reqPktId viaLora variant

omit [MeshStorage S] in
theorem edits_congr {ctx ctx' : MeshCtx S} (h : ctx'.core = ctx.core) (adminBytes : Bytes)
    (viaLora : Bool) : edits env ctx' adminBytes viaLora = edits env ctx adminBytes viaLora := by
  have hnum : ctx'.device.myNodeNum = ctx.device.myNodeNum :=
    congrArg (fun core => core.settings.myNodeNum) h
  have hsession : ctx'.sessionPasskey = ctx.sessionPasskey := congrArg Core.sessionPasskey h
  have hnow : ctx'.now = ctx.now := congrArg Core.now h
  unfold edits command isAuthorized
  rw [hnum, hsession, hnow]

end Handlers.Admin

/-! ## Frames from the radio -/

def MeshCtx.retained {S : Type} (ctx : MeshCtx S) :
    Holdings S × Option SessionPasskey × Nat :=
  (ctx.holdings, ctx.session)

theorem MeshCtx.retained_of_resident {S : Type} {ctx ctx' : MeshCtx S}
    (h : ctx'.resident = ctx.resident) : ctx'.retained = ctx.retained :=
  congrArg (fun resident =>
    (resident.holdings, resident.core.sessionPasskey, resident.core.now)) h

theorem MeshCtx.holdings_of_retained {S : Type} {ctx ctx' : MeshCtx S}
    (h : ctx'.retained = ctx.retained) : ctx'.holdings = ctx.holdings := congrArg Prod.fst h

/-- What handling a frame leaves alone after its payload was handled. -/
def MeshCtx.lasting {S : Type} (ctx : MeshCtx S) :
    (Holdings S × Option SessionPasskey × Nat) × DeviceState :=
  (ctx.retained, ctx.device.settings)

theorem MeshCtx.lasting_of_resident {S : Type} {ctx ctx' : MeshCtx S}
    (h : ctx'.resident = ctx.resident) : ctx'.lasting = ctx.lasting :=
  congrArg₂ Prod.mk (MeshCtx.retained_of_resident h)
    (congrArg (fun resident => resident.core.settings) h)

namespace Handlers.FromRadio

omit [MeshStorage S] in
theorem portnumEdits_congr {ctx ctx' : MeshCtx S} (h : ctx'.core = ctx.core) (portnum : Int32)
    (pkt : InboundPacket) :
    portnumEdits env ctx' portnum pkt = portnumEdits env ctx portnum pkt := by
  unfold portnumEdits
  rw [Admin.edits_congr h]

theorem records_handlePortnum (ctx : MeshCtx S) (portnum : Int32) (pkt : InboundPacket) :
    Records ctx (handlePortnum env ctx portnum pkt) (portnumEdits env ctx portnum pkt)
      ctx.storage := by
  by_cases hadmin : portnum = PortNum.adminApp.toI32
  · have hport : PortNum.tryFrom portnum = some .adminApp := by
      rw [hadmin]
      rfl
    unfold handlePortnum portnumEdits
    rw [hport]
    dsimp only
    unfold handleAdmin
    split
    · exact Admin.records_dispatch ctx pkt.sender pkt.packetId pkt.payload true
    · exact Records.of_holdings_eq rfl
  · exact Records.of_edit (congrArg Resident.holdings (resident_handlePortnum ctx pkt hadmin))

omit [MeshStorage S] in
theorem lasting_relayInbound (ctx : MeshCtx S) (frame : RadioFrame) (header : PacketHeader)
    (metadata : RadioMetadata) :
    (relayInbound env ctx frame header metadata).lasting = ctx.lasting := by
  unfold relayInbound
  split
  · split
    · split <;> rfl
    · rfl
  · rfl

/-- A new packet is noted, buffered and handled, and what follows leaves the rest alone. -/
theorem lasting_handleNew (ctx : MeshCtx S) (frame : RadioFrame)
    (header : PacketHeader) (metadata : RadioMetadata) (decoded : DecodedPayload) :
    let noted := bufferText (noteSender env ctx header metadata) frame decoded.portnum
    (handleNew env ctx frame header metadata decoded).lasting =
      (handlePortnum env noted decoded.portnum
        (inboundPacket (noteSender env ctx header metadata).device header metadata
          decoded)).lasting := by
  intro noted
  unfold handleNew
  dsimp only
  rw [lasting_relayInbound, MeshCtx.lasting_of_resident (resident_ackInbound _ _ _),
    MeshCtx.lasting_of_resident (resident_forwardInbound _ _ _ _ _)]

omit [MeshStorage S] in
theorem retained_relayInbound (ctx : MeshCtx S) (frame : RadioFrame) (header : PacketHeader)
    (metadata : RadioMetadata) :
    (relayInbound env ctx frame header metadata).retained = ctx.retained :=
  congrArg Prod.fst (lasting_relayInbound ctx frame header metadata)

omit [MeshStorage S] in
theorem lasting_handleUndecodable (ctx : MeshCtx S) (frame : RadioFrame)
    (header : PacketHeader) (metadata : RadioMetadata) :
    (handleUndecodable env ctx frame header metadata).lasting = ctx.lasting := by
  unfold handleUndecodable maybeRelayOpaque
  dsimp only
  repeat' split
  all_goals rfl

def bufferedStorage (env : Env) (ctx : MeshCtx S) (frame : RadioFrame) : S :=
  match newPacket env ctx frame with
  | some (_, decoded) => (bufferText ctx frame decoded.portnum).storage
  | none => ctx.storage

theorem bufferText_eq (ctx : MeshCtx S) (frame : RadioFrame) (portnum : Int32) :
    bufferText ctx frame portnum =
      { ctx with storage := (bufferText ctx frame portnum).storage } := by
  unfold bufferText
  split <;> rfl

theorem storage_bufferText_congr {ctx ctx' : MeshCtx S}
    (hstorage : ctx'.storage = ctx.storage) (hble : ctx'.bleConnected = ctx.bleConnected)
    (frame : RadioFrame) (portnum : Int32) :
    (bufferText ctx' frame portnum).storage = (bufferText ctx frame portnum).storage := by
  unfold bufferText
  rw [hble]
  split
  · dsimp only
    rw [hstorage]
  · exact hstorage

theorem records_handleNew (ctx : MeshCtx S) (frame : RadioFrame) (header : PacketHeader)
    (metadata : RadioMetadata) (decoded : DecodedPayload) :
    Records ctx (handleNew env ctx frame header metadata decoded)
      (noteEdits header metadata ctx.now ++
        portnumEdits env ctx decoded.portnum (inboundPacket ctx.device header metadata decoded))
      (bufferText ctx frame decoded.portnum).storage := by
  have hnoted := @resident_noteSender S env ctx header metadata
  unfold handleNew
  dsimp only
  generalize noteSender env ctx header metadata = noted at hnoted ⊢
  have hcore : noted.core = ctx.core := congrArg Resident.core hnoted
  have hpkt : inboundPacket noted.device header metadata decoded =
      inboundPacket ctx.device header metadata decoded := by
    unfold inboundPacket
    rw [show noted.device.myNodeNum = ctx.device.myNodeNum from
      congrArg (fun core => core.settings.myNodeNum) hcore]
  have hstorage : noted.storage = ctx.storage :=
    congrArg (fun resident => resident.holdings.storage) hnoted
  have hble : noted.bleConnected = ctx.bleConnected :=
    congrArg (fun resident => resident.holdings.bleConnected) hnoted
  have hdb : noted.nodeDb = ctx.nodeDb.edited (noteEdits header metadata ctx.now) :=
    congrArg (fun resident => resident.holdings.nodeDb) hnoted
  rw [hpkt, bufferText_eq, storage_bufferText_congr hstorage hble]
  generalize (bufferText ctx frame decoded.portnum).storage = storage
  have hportnum := @records_handlePortnum S _ env { noted with storage := storage }
    decoded.portnum (inboundPacket ctx.device header metadata decoded)
  have hedits : portnumEdits env { noted with storage := storage } decoded.portnum
      (inboundPacket ctx.device header metadata decoded) =
        portnumEdits env ctx decoded.portnum (inboundPacket ctx.device header metadata decoded) :=
    portnumEdits_congr hcore _ _
  rw [hedits] at hportnum
  have hhandled : Records ctx (handlePortnum env { noted with storage := storage }
      decoded.portnum (inboundPacket ctx.device header metadata decoded))
      (noteEdits header metadata ctx.now ++ portnumEdits env ctx decoded.portnum
        (inboundPacket ctx.device header metadata decoded)) storage := by
    refine ⟨?_, hportnum.bleConnected_eq.trans hble, hportnum.configured⟩
    rw [hportnum.nodeDb_eq, NodeDb.edited_append, ← hdb]
  refine hhandled.andThen ?_
  rw [MeshCtx.holdings_of_retained (retained_relayInbound _ frame header metadata),
    MeshCtx.holdings_of_resident (resident_ackInbound _ _ _),
    MeshCtx.holdings_of_resident (resident_forwardInbound _ _ _ _ _)]

/-- The context once the duplicate history has taken note of a packet. -/
def admitted (ctx : MeshCtx S) (header : PacketHeader) : MeshCtx S :=
  { ctx with
    router := (ctx.router.shouldFilterReceived header.sender header.packetId header.hopLimit
      header.relayNode (pendingHopLimit ctx header) ctx.device.role).2 }

theorem dispatch_of_newPacket {ctx : MeshCtx S} {frame : RadioFrame} {header : PacketHeader}
    {decoded : DecodedPayload} (h : newPacket env ctx frame = some (header, decoded))
    (metadata : RadioMetadata) :
    dispatch env ctx frame metadata =
      handleNew env (admitted ctx header) frame header metadata decoded := by
  unfold newPacket at h
  unfold dispatch
  cases hheader : frame.header with
  | none =>
      rw [hheader] at h
      cases h
  | some header' =>
      rw [hheader] at h
      dsimp only at h ⊢
      split at h
      · cases h
      · rename_i hsender
        rw [if_neg hsender]
        split at h
        · rename_i decoded' hdecoded
          rw [hdecoded]
          split at h
          · rename_i hnew
            cases h
            unfold handleDecoded
            dsimp only
            rw [hnew]
            rfl
          · cases h
        · cases h

/-- A frame that is no new packet leaves the holdings, the session and the settings alone. -/
theorem lasting_dispatch_of_none {ctx : MeshCtx S} {frame : RadioFrame}
    (h : newPacket env ctx frame = none) (metadata : RadioMetadata) :
    (dispatch env ctx frame metadata).lasting = ctx.lasting := by
  unfold newPacket at h
  unfold dispatch
  cases hheader : frame.header with
  | none => rfl
  | some header =>
      rw [hheader] at h
      dsimp only at h ⊢
      split
      · exact MeshCtx.lasting_of_resident (resident_hearOwnPacket ctx header)
      · rename_i hsender
        rw [if_neg hsender] at h
        split
        · rename_i decoded hdecoded
          rw [hdecoded] at h
          unfold handleDecoded
          dsimp only at h ⊢
          split
          · rename_i hnew
            rw [hnew] at h
            cases h
          · unfold upgradeRebroadcast
            split <;> rfl
          · rfl
          · rfl
        · exact MeshCtx.lasting_of_resident (resident_answerUnknownPubkey ctx header)
        · exact lasting_handleUndecodable ctx frame header metadata

theorem records_dispatch (ctx : MeshCtx S) (frame : RadioFrame) (metadata : RadioMetadata) :
    Records ctx (dispatch env ctx frame metadata) (edits env ctx frame metadata)
      (bufferedStorage env ctx frame) := by
  unfold edits bufferedStorage
  cases hnew : newPacket env ctx frame with
  | none =>
      exact Records.of_holdings_eq
        (MeshCtx.holdings_of_retained
          (congrArg Prod.fst (lasting_dispatch_of_none hnew metadata)))
  | some packet =>
      obtain ⟨header, decoded⟩ := packet
      rw [dispatch_of_newPacket hnew metadata]
      dsimp only
      have hbuffered : (bufferText (admitted ctx header) frame decoded.portnum).storage =
          (bufferText ctx frame decoded.portnum).storage := by
        apply storage_bufferText_congr <;> rfl
      rw [← hbuffered]
      have hhandled := @records_handleNew S _ env (admitted ctx header) frame header metadata
        decoded
      exact ⟨hhandled.nodeDb_eq, hhandled.bleConnected_eq, hhandled.configured⟩

end Handlers.FromRadio

/-! ## Messages from the phone -/

namespace Handlers.FromApp

/-- The configuration id that a message of the phone asks for. -/
def wantedConfig (env : Env) (bytes : Bytes) : Option UInt32 :=
  if bytes.isEmpty then none
  else
    match env.prost.toRadio.decode bytes with
    | some { payloadVariant := some (.wantConfigId configId) } => some configId
    | _ => none

/-- The storage after the replay that a message of the phone asks for, if it does. -/
def replayedStorage (env : Env) (storage : S) (bytes : Bytes) : S :=
  if (wantedConfig env bytes).isSome then drained (MeshStorage.count storage) storage
  else storage

omit [MeshStorage S] in
theorem resident_exchange (ctx : MeshCtx S) (configId : UInt32) :
    (if configId = SPECIAL_NONCE_ONLY_NODES then sendNodeinfoExchange env ctx configId
      else sendConfigExchange env ctx configId).resident = ctx.resident := by
  split
  · exact resident_sendNodeinfoExchange ctx configId
  · exact resident_sendConfigExchange ctx configId

theorem resident_wantConfigId (ctx : MeshCtx S) (configId : UInt32) :
    (handleToRadio env ctx (some (.wantConfigId configId))).resident =
      ctx.resident.store (drained (MeshStorage.count ctx.storage) ctx.storage) := by
  unfold handleToRadio replayStoredFrames
  dsimp only
  have hexchanged := @resident_exchange S env ctx configId
  generalize (if configId = SPECIAL_NONCE_ONLY_NODES then sendNodeinfoExchange env ctx configId
    else sendConfigExchange env ctx configId) = exchanged at hexchanged ⊢
  rw [resident_replayFrames, hexchanged, show exchanged.storage = ctx.storage from
    congrArg (fun resident => resident.holdings.storage) hexchanged]

theorem resident_transmitDecoded {ctx : MeshCtx S} {pkt : MeshPacket} {data : Data}
    (h : isLocalAdmin ctx.device pkt data = false) :
    (transmitDecoded env ctx pkt data).resident = ctx.resident := by
  unfold transmitDecoded
  rw [if_neg (by simp [h]), resident_sendToMesh]
  unfold notePosition
  split <;> rfl

theorem dispatch_of_localAdmin {ctx : MeshCtx S} {bytes : Bytes} {pkt : MeshPacket}
    {data : Data} (h : localAdmin env ctx bytes = some (pkt, data)) :
    dispatch env ctx bytes = (handleLocalAdmin env ctx pkt data).blink .doubleBlink := by
  unfold localAdmin at h
  unfold dispatch
  split at h
  · cases h
  · rename_i hbytes
    rw [if_neg hbytes]
    split at h
    · rename_i pkt' hdecode
      rw [hdecode]
      split at h
      · rename_i data' hpayload
        split at h
        · rename_i hlocal
          cases h
          unfold handleToRadio transmitFromBlePacket transmitDecoded
          dsimp only
          rw [hpayload]
          dsimp only
          rw [if_pos hlocal]
        · cases h
      · cases h
    · cases h

/-- Whatever else the phone says writes nothing but the storage, for a replay. -/
theorem resident_dispatch_of_none {ctx : MeshCtx S} {bytes : Bytes}
    (h : localAdmin env ctx bytes = none) :
    (dispatch env ctx bytes).resident =
      ctx.resident.store (replayedStorage env ctx.storage bytes) := by
  unfold localAdmin at h
  unfold dispatch replayedStorage wantedConfig
  by_cases hbytes : bytes.isEmpty = true
  · rw [if_pos hbytes, if_pos hbytes]
    rfl
  rw [if_neg hbytes] at h ⊢
  rw [if_neg hbytes]
  rcases hdecode : env.prost.toRadio.decode bytes with _ | ⟨_ | variant⟩
  · rfl
  · rfl
  rw [hdecode] at h
  cases variant with
  | packet pkt =>
      unfold handleToRadio transmitFromBlePacket
      dsimp only at h ⊢
      rcases hpayload : pkt.payloadVariant with _ | payload
      · rfl
      cases payload with
      | decoded data =>
          rw [hpayload] at h
          dsimp only at h ⊢
          split at h
          · cases h
          · rename_i hlocal
            rw [MeshCtx.resident_blink, resident_transmitDecoded (by simpa using hlocal)]
            rfl
      | encrypted bytes => rfl
  | wantConfigId configId => exact resident_wantConfigId ctx configId
  | heartbeat nonce =>
      unfold handleToRadio
      dsimp only
      rw [MeshCtx.resident_blink]
      split
      · exact resident_sendNodeinfo _ _ _
      · exact resident_pushFromRadio _ _
  | disconnect _ => rfl
  | _ => rfl

theorem records_handleLocalAdmin (ctx : MeshCtx S) (pkt : MeshPacket) (data : Data) :
    Records ctx (handleLocalAdmin env ctx pkt data) (Admin.edits env ctx data.payload false)
      ctx.storage := by
  have hadmin := @Admin.records_dispatch S _ env ctx pkt.fromNode pkt.id data.payload false
  unfold handleLocalAdmin sendBleRoutingAck
  dsimp only
  split
  · exact hadmin.andThen (MeshCtx.holdings_of_resident (resident_sendBleRoutingResult _ _ _ _))
  · exact hadmin

omit [MeshStorage S] in
theorem wantedConfig_of_localAdmin {ctx : MeshCtx S} {bytes : Bytes} {packet : MeshPacket × Data}
    (h : localAdmin env ctx bytes = some packet) : wantedConfig env bytes = none := by
  unfold localAdmin at h
  unfold wantedConfig
  split at h
  · cases h
  · rename_i hbytes
    rw [if_neg hbytes]
    split at h
    · rename_i hdecode
      rw [hdecode]
    · cases h

theorem records_dispatch (ctx : MeshCtx S) (bytes : Bytes) :
    Records ctx (dispatch env ctx bytes) (edits env ctx bytes)
      (replayedStorage env ctx.storage bytes) := by
  unfold edits
  cases hlocal : localAdmin env ctx bytes with
  | none =>
      have hkept := congrArg Resident.holdings (resident_dispatch_of_none hlocal)
      exact
        { nodeDb_eq := congrArg Holdings.nodeDb hkept
          bleConnected_eq := congrArg Holdings.bleConnected hkept
          configured := by
            rw [show (dispatch env ctx bytes).storage = replayedStorage env ctx.storage bytes from
              congrArg Holdings.storage hkept]
            exact Configured.kept }
  | some packet =>
      obtain ⟨pkt, data⟩ := packet
      rw [dispatch_of_localAdmin hlocal]
      unfold replayedStorage
      rw [wantedConfig_of_localAdmin hlocal]
      exact (records_handleLocalAdmin ctx pkt data).andThen rfl

end Handlers.FromApp

/-! ## All events -/

/-- Whether a phone is there, as far as the other tasks have told. -/
def MeshEvent.notified (connected : Bool) : MeshEvent → Bool
  | .bleConnected => true
  | .bleDisconnected => false
  | _ => connected

namespace Handlers

/-- The storage after an event was handled, up to the settings. -/
def kept (env : Env) (ctx : MeshCtx S) : MeshEvent → S
  | .loraRx frame _ => FromRadio.bufferedStorage env ctx frame
  | .bleRx bytes => FromApp.replayedStorage env ctx.storage bytes
  | .bondSave bytes => MeshStorage.saveBond ctx.storage bytes
  | .bondClear => MeshStorage.clearBond ctx.storage
  | _ => ctx.storage

/-- Handling an event makes its edits, takes note of the phone and keeps its frames. -/
theorem dispatch_records (ctx : MeshCtx S) (event : MeshEvent) :
    Records { ctx with bleConnected := event.notified ctx.bleConnected }
      (dispatch env ctx event) (edits env ctx event) (kept env ctx event) := by
  cases event with
  | loraRx frame metadata => exact FromRadio.records_dispatch ctx frame metadata
  | bleRx bytes => exact FromApp.records_dispatch ctx bytes
  | bleConnected => exact ⟨rfl, rfl, Configured.kept⟩
  | bleDisconnected => exact ⟨rfl, rfl, Configured.kept⟩
  | bondSave bytes => exact ⟨rfl, rfl, Configured.kept⟩
  | bondClear => exact ⟨rfl, rfl, Configured.kept⟩
  | batteryUpdate level voltageMv =>
      exact Records.of_holdings_eq (MeshCtx.holdings_of_resident
        (Periodic.resident_sendDeviceTelemetry ctx level voltageMv))
  | channelUtilUpdate channelUtil airUtilTx => exact ⟨rfl, rfl, Configured.kept⟩
  | tick =>
      exact Records.of_holdings_eq (MeshCtx.holdings_of_resident (Periodic.resident_dispatch ctx))

end Handlers

namespace MeshState

def edits (env : Env) (state : MeshState S) : Event → List NodeDbEdit
  | .mesh event =>
      if state.started then Handlers.edits env (noteActivity state.ctx event) event else []
  | .retransmissionDue =>
      if state.started then
        MeshRouter.tickEdits state.ctx.now state.ctx.pendingPackets
      else []
  | _ => []

omit [MeshStorage S] in
theorem edits_cases {state : MeshState S} {event : Event} {edit : NodeDbEdit}
    (h : edit ∈ edits env state event) :
    (∃ frame metadata header decoded, event = .mesh (.loraRx frame metadata) ∧
        frame.header = some header ∧ ∃ ctx : MeshCtx S,
          edit ∈ FromRadio.noteEdits header metadata ctx.now ++
            FromRadio.portnumEdits env ctx decoded.portnum
              (FromRadio.inboundPacket ctx.device header metadata decoded)) ∨
      (∃ (ctx : MeshCtx S) (bytes : Bytes) (viaLora : Bool),
        edit ∈ Admin.edits env ctx bytes viaLora) ∨
      ∃ dest, edit = .clearRoute dest := by
  unfold edits at h
  split at h
  · split at h
    · unfold Handlers.edits at h
      split at h
      · rename_i frame metadata
        unfold FromRadio.edits at h
        split at h
        · rename_i header decoded hnew
          exact Or.inl ⟨frame, metadata, header, decoded, rfl,
            (FromRadio.of_newPacket hnew).1, _, h⟩
        · cases h
      · unfold FromApp.edits at h
        split at h
        · exact Or.inr (Or.inl ⟨_, _, _, h⟩)
        · cases h
      · cases h
    · cases h
  · split at h
    · exact Or.inr (Or.inr (MeshRouter.mem_tickEditsFrom h))
    · cases h
  · cases h

/-- The timers, the other tasks and the clock edit the database and leave the other holdings
alone. -/
theorem holdings_handled_of_timer {state : MeshState S} {event : Event}
    (h : ∀ mesh, event ≠ .mesh mesh) :
    (handled env state event).holdings =
      (state.ctx.resident.edit (·.edited (edits env state event))).holdings := by
  unfold handled edits
  cases event with
  | mesh event => exact absurd rfl (h event)
  | announce =>
      dsimp only
      split
      · rfl
      · exact MeshCtx.holdings_of_resident (Periodic.resident_broadcastNodeinfo state.ctx)
  | rebroadcastDue =>
      dsimp only
      split
      · rcases fireRebroadcast_cases state.ctx with hsent | ⟨i, pending, -, hsent⟩
        · rw [hsent]
          rfl
        · rw [hsent]
          rfl
      · rfl
  | retransmissionDue =>
      dsimp only
      split
      · exact congrArg Resident.holdings (resident_fireRetransmissions state.ctx)
      · rfl
  | _ => rfl

end MeshState

end Meshtastenstein
