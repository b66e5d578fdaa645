import Mathlib.Data.List.ReduceOption
import Meshtastenstein.LinkState
import Meshtastenstein.Replay
/-!
# Store and forward

A text message that is accepted while no phone is there waits in the message ring for the
next request of the phone, which replays it.  Acceptance tries PKC and then the channel, the
replay tries the channel only.
-/

namespace Meshtastenstein

open Lib Lib.NorFlash Lib.WorkingFlash Proto Handlers

variable {S : Type} {env : Env}

/-! ## Messages that are held back -/

/-- What was known of a text message when it was accepted: the settings, what forwarding it at
once would have told the phone, and whether it came under PKC. -/
structure Acceptance where
  device : DeviceState
  args : PacketForwardArgs
  underPkc : Bool

/-- A buffered text message; nothing is known of one that was on flash before. -/
structure HeldText where
  frame : RadioFrame
  accepted : Option Acceptance

namespace Handlers.FromRadio

instance (portnum : Int32) : Decidable (IsText portnum) := inferInstanceAs (Decidable (_ ∨ _))

def heldText (env : Env) (heard : MeshCtx S) (frame : RadioFrame) (metadata : RadioMetadata)
    (header : PacketHeader) (decoded : DecodedPayload) : HeldText where
  frame := frame
  accepted := some
    { device := heard.device
      args := forwardArgs header metadata decoded
      underPkc := (pkcPlaintext env frame header heard.device heard.nodeDb
        heard.pkcPrivBytes).isSome }

end Handlers.FromRadio

namespace MeshState

def acceptedText (env : Env) (state : MeshState S) : Event → Option HeldText
  | .mesh (.loraRx frame metadata) =>
      let heard := noteActivity state.ctx (.loraRx frame metadata)
      match FromRadio.newPacket env heard frame with
      | some (header, decoded) =>
          if state.started = true ∧ FromRadio.IsText decoded.portnum ∧
              heard.bleConnected = false then
            some (FromRadio.heldText env heard frame metadata header decoded)
          else none
      | none => none
  | _ => none

/-- The configuration that the phone asks for with the step. -/
def requestedConfig (env : Env) (state : MeshState S) : Event → Option UInt32
  | .mesh (.bleRx bytes) => if state.started then FromApp.wantedConfig env bytes else none
  | _ => none

theorem of_acceptedText {state : MeshState S} {event : Event} {text : HeldText}
    (h : acceptedText env state event = some text) :
    ∃ frame metadata header decoded, event = .mesh (.loraRx frame metadata) ∧
      state.started = true ∧
      FromRadio.newPacket env (noteActivity state.ctx (.loraRx frame metadata)) frame =
        some (header, decoded) ∧
      FromRadio.IsText decoded.portnum ∧ state.ctx.bleConnected = false ∧
      text = FromRadio.heldText env (noteActivity state.ctx (.loraRx frame metadata)) frame
        metadata header decoded := by
  unfold acceptedText at h
  split at h
  · rename_i frame metadata
    dsimp only at h
    split at h
    · rename_i header decoded hnew
      split at h
      · rename_i hall
        obtain ⟨hstarted, htext, habsent⟩ := hall
        exact ⟨frame, metadata, header, decoded, rfl, hstarted, hnew, htext, habsent,
          (Option.some.inj h).symm⟩
      · cases h
    · cases h
  · cases h

theorem of_requestedConfig {state : MeshState S} {event : Event} {configId : UInt32}
    (h : requestedConfig env state event = some configId) :
    ∃ bytes, event = .mesh (.bleRx bytes) ∧ state.started = true ∧
      FromApp.wantedConfig env bytes = some configId := by
  unfold requestedConfig at h
  split at h
  · rename_i bytes
    split at h
    · rename_i hstarted
      exact ⟨bytes, rfl, hstarted, h⟩
    · cases h
  · cases h

end MeshState

/-! ## What a step does to the ring -/

namespace NvsStorage

variable {medium : Medium} {F : Type} [WorkingFlash medium F] {partition : Partition F}
  {s s' s'' : partition.Storage}

structure SameRing (s s' : partition.Storage) : Prop where
  ring_eq : s'.ring = s.ring
  flash : AgreeOn STORAGE_SECTOR s s'

theorem SameRing.refl (s : partition.Storage) : SameRing s s := ⟨rfl, fun _ _ => rfl⟩

theorem SameRing.trans (h : SameRing s s') (h' : SameRing s' s'') : SameRing s s'' :=
  ⟨h'.ring_eq.trans h.ring_eq, h.flash.trans h'.flash⟩

theorem sameRing_configured (h : Configured s s') : SameRing s s' := by
  cases h with
  | kept => exact SameRing.refl s
  | saved config => exact ⟨ring_saveSector _ _, agreeOn_saveConfig config (by decide)⟩
  | erased =>
      have hconfig : AgreeOn STORAGE_SECTOR s (s.eraseSector CONFIG_SECTOR) :=
        agreeOn_eraseSector (by decide) (by decide)
      have hnodeDb : AgreeOn STORAGE_SECTOR (s.eraseSector CONFIG_SECTOR) s.eraseConfig :=
        agreeOn_eraseSector (by decide) (by decide)
      have hbond : AgreeOn STORAGE_SECTOR s.eraseConfig s.eraseConfig.clearBond :=
        agreeOn_eraseSector (by decide) (by decide)
      exact ⟨rfl, (hconfig.trans hnodeDb).trans hbond⟩

theorem sameRing_saveNodeDb (s : partition.Storage) (db : NodeDb) :
    SameRing s (s.saveNodeDb db).1 := ⟨ring_saveSector _ _, agreeOn_saveNodeDb db (by decide)⟩

end NvsStorage

namespace Handlers.FromRadio

variable [MeshStorage S]

theorem rebootAfterSecs_handleNew {decoded : DecodedPayload} (htext : IsText decoded.portnum)
    (ctx : MeshCtx S) (frame : RadioFrame) (header : PacketHeader) (metadata : RadioMetadata) :
    (handleNew env ctx frame header metadata decoded).rebootAfterSecs = ctx.rebootAfterSecs := by
  have hlasting := @lasting_handleNew S _ env ctx frame header metadata decoded
  dsimp only at hlasting
  rw [handlePortnum_of_text htext, bufferText_eq] at hlasting
  have hreboot : (handleNew env ctx frame header metadata decoded).rebootAfterSecs =
      (noteSender env ctx header metadata).rebootAfterSecs :=
    congrArg (fun lasting => lasting.1.1.rebootAfterSecs) hlasting
  rw [hreboot]
  exact congrArg (fun resident => resident.holdings.rebootAfterSecs)
    (@resident_noteSender S env ctx header metadata)

end Handlers.FromRadio

namespace Handlers.FromApp

variable [MeshStorage S]

theorem dispatch_of_wantedConfig {bytes : Bytes} {configId : UInt32}
    (h : wantedConfig env bytes = some configId) (ctx : MeshCtx S) :
    dispatch env ctx bytes =
      (replayStoredFrames env (exchanged env ctx configId)).blink .doubleBlink := by
  unfold wantedConfig at h
  unfold dispatch
  split at h
  · cases h
  · rename_i hbytes
    rw [if_neg hbytes]
    split at h
    · rename_i hdecode
      cases h
      rw [hdecode]
      rfl
    · cases h

end Handlers.FromApp

namespace MeshState

section

variable [MeshStorage S] {state : MeshState S} {event : Event}

theorem handled_of_text {text : HeldText} (h : acceptedText env state event = some text) :
    (handled env state event).storage = MeshStorage.add state.ctx.storage text.frame ∧
      (handled env state event).rebootAfterSecs = state.ctx.rebootAfterSecs := by
  obtain ⟨frame, metadata, header, decoded, rfl, hstarted, hnew, htext, habsent, rfl⟩ :=
    of_acceptedText h
  have hhandled : handled env state (.mesh (.loraRx frame metadata)) =
      FromRadio.handleNew env (FromRadio.admitted
        (noteActivity state.ctx (.loraRx frame metadata)) header) frame header metadata
        decoded := by
    refine Eq.trans ?_ (FromRadio.dispatch_of_newPacket hnew metadata)
    exact if_pos hstarted
  have hstored := @FromRadio.stored_handleNew S _ env (FromRadio.admitted
    (noteActivity state.ctx (.loraRx frame metadata)) header) decoded htext habsent frame header
    metadata
  have hreboot := @FromRadio.rebootAfterSecs_handleNew S env _ decoded htext (FromRadio.admitted
    (noteActivity state.ctx (.loraRx frame metadata)) header) frame header metadata
  rw [hhandled]
  exact ⟨hstored.1, hreboot⟩

theorem handled_of_requested {configId : UInt32}
    (h : requestedConfig env state event = some configId) :
    handled env state event =
      (FromApp.replayStoredFrames env (FromApp.exchanged env state.ctx configId)).blink
        .doubleBlink := by
  obtain ⟨bytes, rfl, hstarted, hwanted⟩ := of_requestedConfig h
  unfold handled
  dsimp only
  rw [if_pos hstarted]
  exact FromApp.dispatch_of_wantedConfig hwanted state.ctx

theorem storage_handled_of_requested {configId : UInt32}
    (h : requestedConfig env state event = some configId) :
    (handled env state event).storage =
        FromApp.drained (MeshStorage.count state.ctx.storage) state.ctx.storage ∧
      (handled env state event).rebootAfterSecs = state.ctx.rebootAfterSecs := by
  have hresident := @FromApp.resident_replayFrames S env _
    (MeshStorage.count (FromApp.exchanged env state.ctx configId).storage)
    (FromApp.exchanged env state.ctx configId)
  have hexchanged : (FromApp.exchanged env state.ctx configId).resident = state.ctx.resident :=
    FromApp.resident_exchange state.ctx configId
  rw [FromApp.storage_exchanged, hexchanged] at hresident
  rw [handled_of_requested h]
  unfold FromApp.replayStoredFrames
  rw [FromApp.storage_exchanged]
  exact ⟨congrArg (fun resident => resident.holdings.storage) hresident,
    congrArg (fun resident => resident.holdings.rebootAfterSecs) hresident⟩

theorem configured_handled {event : MeshEvent} (hstarted : state.started = true)
    (htext : acceptedText env state (.mesh event) = none)
    (hconfig : requestedConfig env state (.mesh event) = none)
    (hsave : ∀ bytes, event ≠ .bondSave bytes) (hclear : event ≠ .bondClear) :
    Configured state.ctx.storage (handled env state (.mesh event)).storage := by
  have hrecords := (@dispatch_records S _ env (noteActivity state.ctx event) event).configured
  have hhandled : handled env state (.mesh event) =
      Handlers.dispatch env (noteActivity state.ctx event) event := if_pos hstarted
  rw [hhandled]
  have hkept : kept env (noteActivity state.ctx event) event = state.ctx.storage := by
    cases event with
    | loraRx frame metadata =>
        change FromRadio.bufferedStorage env (noteActivity state.ctx (.loraRx frame metadata))
          frame = _
        unfold acceptedText at htext
        unfold FromRadio.bufferedStorage
        dsimp only at htext
        split
        · rename_i header decoded hnew
          rw [hnew] at htext
          dsimp only at htext
          unfold FromRadio.bufferText
          rw [if_neg]
          · rfl
          · intro hboth
            rw [if_pos ⟨hstarted, hboth⟩] at htext
            cases htext
        · rfl
    | bleRx bytes =>
        change FromApp.replayedStorage env state.ctx.storage bytes = _
        unfold requestedConfig at hconfig
        dsimp only at hconfig
        rw [if_pos hstarted] at hconfig
        unfold FromApp.replayedStorage
        rw [hconfig]
        rfl
    | bondSave bytes => exact absurd rfl (hsave bytes)
    | bondClear => exact absurd rfl hclear
    | _ => rfl
  rwa [hkept] at hrecords

theorem rebootAfterSecs_step (h : state.ctx.rebootAfterSecs = none) :
    (step env state event).ctx.rebootAfterSecs = none := by
  cases hrestarts : restarts env state event with
  | true =>
      obtain ⟨housed, -, hstep⟩ := step_of_restarts hrestarts
      rw [hstep]
      rfl
  | false =>
      rw [(step_of_not_restarts hrestarts).rebootAfterSecs_eq]
      by_cases hevent : ∀ mesh, event ≠ .mesh mesh
      · exact (congrArg Holdings.rebootAfterSecs
          (@holdings_handled_of_timer S _ env state event hevent)).trans h
      · simp only [not_forall, not_not] at hevent
        obtain ⟨mesh, rfl⟩ := hevent
        cases hstarted : state.started with
        | true =>
            unfold restarts at hrestarts
            dsimp only at hrestarts
            rw [hstarted, Bool.true_and] at hrestarts
            exact Option.isNone_iff_eq_none.mp (Option.isSome_eq_false_iff.mp hrestarts)
        | false =>
            unfold handled
            dsimp only
            rw [hstarted]
            exact h

theorem not_restarts_of_none {event : MeshEvent}
    (h : (handled env state (.mesh event)).rebootAfterSecs = none) :
    restarts env state (.mesh event) = false := by
  unfold restarts
  dsimp only
  rw [h]
  exact Bool.and_false _

end

section

variable {medium : Medium} {F : Type} [WorkingFlash medium F] {partition : Partition F}
  {state : MeshState partition.Storage} {event : Event}

theorem sameRing_housed (state : MeshState partition.Storage) (event : MeshEvent) :
    NvsStorage.SameRing (handled env state (.mesh event)).storage
      (housed env state event).ctx.storage := by
  have hhoused := @ctx_housed _ _ env state event fun _ => NvsStorage.saveNodeDb_ok _ _
  rw [hhoused]
  split
  · exact NvsStorage.sameRing_saveNodeDb _ _
  · exact NvsStorage.SameRing.refl _

theorem ring_step (hrestarts : restarts env state event = false) :
    (step env state event).ctx.storage.ring = (handled env state event).storage.ring := by
  cases event with
  | mesh event =>
      cases hstarted : state.started with
      | true =>
          rw [step_eq_housed hstarted hrestarts]
          exact (sameRing_housed state event).ring_eq
      | false =>
          unfold step handled
          dsimp only
          rw [hstarted]
          rfl
  | _ => rw [step_of_timer hrestarts (by intro mesh hmesh; cases hmesh)]

theorem storage_step_of_restarts (hrestarts : restarts env state event = true) :
    ∃ s : partition.Storage, NvsStorage.SameRing (handled env state event).storage s ∧
      (step env state event).ctx.storage = s.reopen := by
  cases event with
  | mesh event =>
      have hstarted : state.started = true := (Bool.and_eq_true_iff.mp hrestarts).1
      refine ⟨_, sameRing_housed state event, ?_⟩
      unfold step
      dsimp only
      rw [if_pos hstarted, handleEvent_eq event hstarted, if_pos hrestarts]
      rfl
  | powerCycle => exact ⟨state.ctx.storage, NvsStorage.SameRing.refl _, rfl⟩
  | _ => cases hrestarts

theorem ring_handled_of_other (htext : acceptedText env state event = none)
    (hconfig : requestedConfig env state event = none) :
    (handled env state event).storage.ring = state.ctx.storage.ring := by
  by_cases hevent : ∀ mesh, event ≠ .mesh mesh
  · exact congrArg (fun holdings => holdings.storage.ring)
      (@holdings_handled_of_timer _ _ env state event hevent)
  · simp only [not_forall, not_not] at hevent
    obtain ⟨mesh, rfl⟩ := hevent
    cases hstarted : state.started with
    | false =>
        unfold handled
        dsimp only
        rw [hstarted]
        rfl
    | true =>
        have hhandled : handled env state (.mesh mesh) =
            Handlers.dispatch env (noteActivity state.ctx mesh) mesh := if_pos hstarted
        by_cases hbond : (∀ bytes, mesh ≠ .bondSave bytes) ∧ mesh ≠ .bondClear
        · exact (NvsStorage.sameRing_configured
            (configured_handled hstarted htext hconfig hbond.1 hbond.2)).ring_eq
        · rw [hhandled]
          cases mesh with
          | bondSave bytes => exact NvsStorage.ring_saveSector _ _
          | bondClear => rfl
          | _ => exact absurd (by simp) hbond

theorem of_restarts (h : state.ctx.rebootAfterSecs = none)
    (hrestarts : restarts env state event = true) :
    acceptedText env state event = none ∧ requestedConfig env state event = none ∧
      NvsStorage.SameRing state.ctx.storage (handled env state event).storage := by
  cases event with
  | powerCycle => exact ⟨rfl, rfl, NvsStorage.SameRing.refl _⟩
  | mesh event =>
      have hstarted : state.started = true := (Bool.and_eq_true_iff.mp hrestarts).1
      have hquiet : (handled env state (.mesh event)).rebootAfterSecs ≠ none := fun hnone =>
        Bool.false_ne_true ((not_restarts_of_none hnone).symm.trans hrestarts)
      have htext : acceptedText env state (.mesh event) = none := by
        cases haccepted : acceptedText env state (.mesh event) with
        | none => rfl
        | some text => exact absurd ((handled_of_text haccepted).2.trans h) hquiet
      have hconfig : requestedConfig env state (.mesh event) = none := by
        cases hrequested : requestedConfig env state (.mesh event) with
        | none => rfl
        | some configId =>
            exact absurd ((storage_handled_of_requested hrequested).2.trans h) hquiet
      have hhandled : handled env state (.mesh event) =
          Handlers.dispatch env (noteActivity state.ctx event) event := if_pos hstarted
      refine ⟨htext, hconfig, NvsStorage.sameRing_configured
        (configured_handled hstarted htext hconfig ?_ ?_)⟩
      · rintro bytes rfl
        rw [hhandled] at hquiet
        exact hquiet h
      · rintro rfl
        rw [hhandled] at hquiet
        exact hquiet h
  | _ => cases hrestarts

end

end MeshState

/-! ## What a replay makes of a message -/

structure SameMessage (live replayed : MeshPacket) : Prop where
  fromNode_eq : replayed.fromNode = live.fromNode
  toNode_eq : replayed.toNode = live.toNode
  id_eq : replayed.id = live.id
  channel_eq : replayed.channel = live.channel
  data_eq : ∃ data data', live.payloadVariant = some (.decoded data) ∧
    replayed.payloadVariant = some (.decoded data') ∧ data'.portnum = data.portnum ∧
    data'.payload = data.payload ∧ data'.replyId = data.replyId ∧ data'.emoji = data.emoji

theorem sameMessage_of_args (args : PacketForwardArgs) (metadata : RadioMetadata) :
    ∃ live replayed, makeFromRadioPacket args = .packet live ∧
      makeFromRadioPacket { args with metadata := metadata } = .packet replayed ∧
      SameMessage live replayed :=
  ⟨_, _, rfl, rfl, rfl, rfl, rfl, rfl, _, _, rfl, rfl, rfl, rfl, rfl, rfl⟩

namespace Handlers.FromApp

open Handlers.FromRadio

theorem replayVariant_eq {frame : RadioFrame} {header : PacketHeader} (device : DeviceState)
    (hheader : frame.header = some header) :
    replayVariant env device frame =
      ((pskPlaintext env frame header device).bind env.prost.data.decode).map fun data =>
        makeFromRadioPacket
          (forwardArgs header { rssi := 0, snr := 0 }
            (decodedPayload data
              (((matchedChannel device header).map (·.index)).getD 0))) := by
  unfold replayVariant
  rw [hheader, decodePskFrame_eq device hheader]
  cases (pskPlaintext env frame header device).bind env.prost.data.decode <;> rfl

theorem replayVariant_congr {frame : RadioFrame} {header : PacketHeader}
    {device device' : DeviceState} (hheader : frame.header = some header)
    (hchannel : matchedChannel device header = matchedChannel device' header) :
    replayVariant env device frame = replayVariant env device' frame := by
  rw [replayVariant_eq device hheader, replayVariant_eq device' hheader]
  unfold pskPlaintext
  rw [hchannel]

theorem isSome_replayVariant {frame : RadioFrame} {device : DeviceState}
    (h : (decodePskFrame env frame device).isSome = true) :
    ∃ variant, replayVariant env device frame = some variant := by
  obtain ⟨decoded, hdecoded⟩ := Option.isSome_iff_exists.mp h
  unfold replayVariant
  rw [hdecoded]
  cases hheader : frame.header with
  | none =>
      unfold decodePskFrame at hdecoded
      rw [hheader] at hdecoded
      cases hdecoded
  | some header => exact ⟨_, rfl⟩

end Handlers.FromApp

namespace Acceptance

open Handlers.FromRadio

def Unchanged (accepted : Acceptance) (device : DeviceState) : Prop :=
  device.channels = accepted.device.channels

def FindsChannel (accepted : Acceptance) (device : DeviceState) : Prop :=
  matchedChannel device accepted.args.header =
    matchedChannel accepted.device accepted.args.header

/-- A frame that came under its channel reads under the settings of its acceptance as it was
accepted. -/
structure Genuine (env : Env) (frame : RadioFrame) (accepted : Acceptance) : Prop where
  header : frame.header = some accepted.args.header
  rereads : accepted.underPkc = false → FromApp.replayVariant env accepted.device frame =
    some (makeFromRadioPacket { accepted.args with metadata := { rssi := 0, snr := 0 } })

theorem genuine_heldText {heard : MeshCtx S} {frame : RadioFrame} {header : PacketHeader}
    {decoded : DecodedPayload} (h : newPacket env heard frame = some (header, decoded))
    (metadata : RadioMetadata) {accepted : Acceptance}
    (haccepted : (heldText env heard frame metadata header decoded).accepted = some accepted) :
    Genuine env frame accepted := by
  obtain ⟨hheader, hdecoded⟩ := of_newPacket h
  cases haccepted
  refine ⟨hheader, fun hpkc => ?_⟩
  have hnone : pkcPlaintext env frame header heard.device heard.nodeDb heard.pkcPrivBytes =
      none := Option.isNone_iff_eq_none.mp (Option.isSome_eq_false_iff.mp hpkc)
  unfold tryDecryptAndDecode at hdecoded
  dsimp only at hdecoded
  rw [hnone, Option.none_or] at hdecoded
  rw [FromApp.replayVariant_eq heard.device hheader]
  cases hplaintext : pskPlaintext env frame header heard.device with
  | none =>
      rw [hplaintext] at hdecoded
      unfold finalUndecodedOutcome at hdecoded
      dsimp only at hdecoded
      split at hdecoded <;> cases hdecoded
  | some plaintext =>
      rw [hplaintext] at hdecoded
      rw [Option.bind_some]
      dsimp only at hdecoded
      cases hdata : env.prost.data.decode plaintext with
      | none =>
          rw [hdata] at hdecoded
          unfold finalUndecodedOutcome at hdecoded
          dsimp only at hdecoded
          split at hdecoded <;> cases hdecoded
      | some data =>
          rw [hdata] at hdecoded
          dsimp only at hdecoded
          split at hdecoded
          · cases hdecoded
          · cases hdecoded
            rfl

end Acceptance

namespace HeldText

/-- The message stands for the held one; where the channels are configured as they were, it is
the message that the phone would have got at once. -/
structure DeliveredAs (env : Env) (device : DeviceState) (text : HeldText)
    (variant : FromRadio.Variant) : Prop where
  replayed : FromApp.replayVariant env device text.frame = some variant
  same : ∀ accepted, text.accepted = some accepted → accepted.Unchanged device →
    ∃ live replayed, makeFromRadioPacket accepted.args = .packet live ∧
      variant = .packet replayed ∧ SameMessage live replayed

/-- The frame can be read for a replay: it came under a channel that is still found for it,
or, where the channels have changed, it decodes under one. -/
structure Readable (env : Env) (device : DeviceState) (text : HeldText) : Prop where
  unchanged : ∀ accepted, text.accepted = some accepted → accepted.Unchanged device →
    accepted.underPkc = false ∧ accepted.FindsChannel device
  changed : (∀ accepted, text.accepted = some accepted → ¬ accepted.Unchanged device) →
    (decodePskFrame env text.frame device).isSome = true

theorem exists_deliveredAs {device : DeviceState} {text : HeldText}
    (hgenuine : ∀ accepted, text.accepted = some accepted → accepted.Genuine env text.frame)
    (h : text.Readable env device) : ∃ variant, text.DeliveredAs env device variant := by
  by_cases hchanged : ∀ accepted, text.accepted = some accepted → ¬ accepted.Unchanged device
  · obtain ⟨variant, hvariant⟩ := FromApp.isSome_replayVariant (h.changed hchanged)
    exact ⟨variant, hvariant, fun accepted haccepted hsame =>
      absurd hsame (hchanged accepted haccepted)⟩
  · simp only [not_forall, not_not] at hchanged
    obtain ⟨accepted, haccepted, hsame⟩ := hchanged
    obtain ⟨hpkc, hchannel⟩ := h.unchanged accepted haccepted hsame
    obtain ⟨hheader, hrereads⟩ := hgenuine accepted haccepted
    obtain ⟨live, replayed, hlive, hreplayed, hmessage⟩ :=
      sameMessage_of_args accepted.args { rssi := 0, snr := 0 }
    refine ⟨.packet replayed, ?_, fun other hother _ => ?_⟩
    · rw [FromApp.replayVariant_congr hheader hchannel, hrereads hpkc, hreplayed]
    · cases haccepted.symm.trans hother
      exact ⟨live, replayed, hlive, rfl, hmessage⟩

theorem exists_replayed {device : DeviceState} {held : List HeldText}
    (h : ∀ text ∈ held, ∃ variant, text.DeliveredAs env device variant) :
    List.Forall₂ (DeliveredAs env device) held
      ((held.map (·.frame)).filterMap (FromApp.replayVariant env device)) := by
  induction held with
  | nil => exact List.Forall₂.nil
  | cons text held ih =>
      obtain ⟨variant, hvariant⟩ := h text List.mem_cons_self
      rw [List.map_cons, List.filterMap_cons, hvariant.replayed]
      exact List.Forall₂.cons hvariant (ih fun later hlater =>
        h later (List.mem_cons_of_mem text hlater))

end HeldText

/-! ## Whole runs -/

/-- The mesh task with a record of the text messages that are held back, the last ten of those
accepted since the last request of the phone.  No step depends on the record. -/
structure TextRun (S : Type) where
  state : MeshState S
  held : List HeldText

namespace TextRun

def newest (held : List HeldText) : List HeldText :=
  held.drop (held.length - MAX_BUFFERED_MESSAGES)

def heldAfter (env : Env) (run : TextRun S) (event : MeshState.Event) : List HeldText :=
  match run.state.acceptedText env event with
  | some text => newest (run.held ++ [text])
  | none => if (run.state.requestedConfig env event).isSome then [] else run.held

def step [MeshStorage S] (env : Env) (run : TextRun S) (event : MeshState.Event) : TextRun S where
  state := run.state.step env event
  held := run.heldAfter env event

variable {medium : Medium} {F : Type} [WorkingFlash medium F] {partition : Partition F}

def boot (env : Env) (mac : Bytes) (storage : partition.Storage) (pkcKeypair : Key × Key)
    (entropy : Nat → UInt32) : TextRun partition.Storage where
  state := MeshState.boot env mac storage pkcKeypair entropy
  held := storage.queue.reduceOption.map fun frame => { frame := frame, accepted := none }

/-- Nothing is lost: a request of the phone has every held message queued once, behind the
messages of its handshake, and the ring has the messages held. -/
structure Lossless (env : Env) (run : TextRun partition.Storage) (event : MeshState.Event) :
    Prop where
  replayed : ∀ configId, run.state.requestedConfig env event = some configId →
    ∃ messages, (run.step env event).state.ctx.told =
        (FromApp.exchanged env run.state.ctx configId).told ++ messages ∧
      List.Forall₂ (HeldText.DeliveredAs env run.state.ctx.device) run.held messages
  kept : (run.step env event).state.ctx.storage.queue =
    (run.step env event).held.map fun text => some text.frame

/-- A request finds every held message readable and room for all of them, and a restart finds
the ring on flash as it is in memory. -/
structure Spares (env : Env) (run : TextRun partition.Storage) (event : MeshState.Event) :
    Prop where
  readable : (run.state.requestedConfig env event).isSome = true →
    ∀ text ∈ run.held, text.Readable env run.state.ctx.device
  room : ∀ configId, run.state.requestedConfig env event = some configId → run.held ≠ [] →
    run.state.ctx.txToBle.length + (FromApp.handshake env run.state.ctx configId).length +
      run.held.length ≤ BLE_TX_QUEUE_SIZE
  onFlash : run.state.restarts env event = true → run.state.ctx.storage.Synced

structure Consistent (env : Env) (run : TextRun partition.Storage) : Prop where
  unasked : run.state.ctx.rebootAfterSecs = none
  sound : run.state.ctx.storage.Sound
  queue : run.state.ctx.storage.queue = run.held.map fun text => some text.frame
  genuine : ∀ text ∈ run.held, ∀ accepted, text.accepted = some accepted →
    accepted.Genuine env text.frame

theorem newest_concat {held : List HeldText} (h : held.length ≤ MAX_BUFFERED_MESSAGES)
    (text : HeldText) :
    newest (held ++ [text]) =
      (if held.length < MAX_BUFFERED_MESSAGES then held else held.tail) ++ [text] := by
  unfold newest
  rw [List.length_append, List.length_singleton]
  split
  · rename_i hroom
    rw [Nat.sub_eq_zero_of_le hroom, List.drop_zero]
  · rename_i hfull
    have hone : held.length + 1 - MAX_BUFFERED_MESSAGES = 1 := by omega
    have hpos : 1 ≤ held.length := by
      unfold MAX_BUFFERED_MESSAGES at hfull
      omega
    rw [hone, List.drop_append_of_le_length hpos, List.drop_one]

variable {run : TextRun partition.Storage} {event : MeshState.Event}

/-- The ring in memory holds what the record says. -/
theorem kept_step (h : Consistent env run) (hspares : Spares env run event) :
    (run.step env event).state.ctx.storage.Sound ∧
      (run.step env event).state.ctx.storage.queue =
        (run.step env event).held.map fun text => some text.frame := by
  obtain ⟨hunasked, hsound, hqueue, -⟩ := h
  unfold step heldAfter
  dsimp only
  cases hrestarts : run.state.restarts env event with
  | true =>
      obtain ⟨htext, hconfig, hbefore⟩ := MeshState.of_restarts hunasked hrestarts
      obtain ⟨s, hafter, hstep⟩ := MeshState.storage_step_of_restarts hrestarts
      have hsame := hbefore.trans hafter
      have hsynced := (hspares.onFlash hrestarts).congr hsame.ring_eq hsame.flash
      rw [htext, hconfig, hstep]
      refine ⟨NvsStorage.sound_reopen hsynced (hsound.congr hsame.ring_eq), ?_⟩
      exact (NvsStorage.queue_reopen hsynced).trans
        ((NvsStorage.queue_congr hsame.ring_eq).trans hqueue)
  | false =>
      have hring := MeshState.ring_step hrestarts
      rw [NvsStorage.queue_congr hring]
      cases htext : run.state.acceptedText env event with
      | some text =>
          have hadd : (run.state.handled env event).storage =
              run.state.ctx.storage.add text.frame := (MeshState.handled_of_text htext).1
          rw [hadd] at hring ⊢
          refine ⟨(NvsStorage.sound_step hsound (.add text.frame)).congr hring, ?_⟩
          have hcount : run.state.ctx.storage.ring.count = run.held.length := by
            rw [← NvsStorage.length_queue, hqueue, List.length_map]
          have hle : run.held.length ≤ MAX_BUFFERED_MESSAGES :=
            hcount ▸ run.state.ctx.storage.ring.count_le
          dsimp only
          rw [NvsStorage.queue_add hsound.inOrder, hcount, hqueue, newest_concat hle]
          split
          · rw [List.map_append]
            rfl
          · rw [List.map_append, List.map_tail]
            rfl
      | none =>
          dsimp only
          cases hconfig : run.state.requestedConfig env event with
          | some configId =>
              have hdrained : (run.state.handled env event).storage =
                  FromApp.drained run.state.ctx.storage.ring.count run.state.ctx.storage :=
                (MeshState.storage_handled_of_requested hconfig).1
              obtain ⟨-, hleft, hempty⟩ := NvsStorage.buffered_of_sound hsound
              rw [hdrained] at hring ⊢
              exact ⟨hleft.congr hring, hempty⟩
          | none =>
              have hother := MeshState.ring_handled_of_other htext hconfig
              exact ⟨hsound.congr (hring.trans hother),
                (NvsStorage.queue_congr hother).trans hqueue⟩

theorem genuine_step (h : Consistent env run) :
    ∀ text ∈ (run.step env event).held, ∀ accepted, text.accepted = some accepted →
      accepted.Genuine env text.frame := by
  intro text htext
  unfold step heldAfter at htext
  dsimp only at htext
  cases haccepts : run.state.acceptedText env event with
  | some new =>
      rw [haccepts] at htext
      rcases List.mem_append.mp (List.mem_of_mem_drop htext) with hold | hnew
      · exact h.genuine text hold
      · obtain ⟨frame, metadata, header, decoded, -, -, hpacket, -, -, hheld⟩ :=
          MeshState.of_acceptedText haccepts
        cases List.mem_singleton.mp hnew
        rw [hheld]
        exact fun accepted haccepted => Acceptance.genuine_heldText hpacket metadata haccepted
  | none =>
      rw [haccepts] at htext
      dsimp only at htext
      split at htext
      · cases htext
      · exact h.genuine text htext

theorem consistent_step (h : Consistent env run) (hspares : Spares env run event) :
    Consistent env (run.step env event) where
  unasked := MeshState.rebootAfterSecs_step h.unasked
  sound := (kept_step h hspares).1
  queue := (kept_step h hspares).2
  genuine := genuine_step h

theorem replayed_step (h : Consistent env run) (hspares : Spares env run event)
    {configId : UInt32} (hconfig : run.state.requestedConfig env event = some configId) :
    ∃ messages, (run.step env event).state.ctx.told =
        (FromApp.exchanged env run.state.ctx configId).told ++ messages ∧
      List.Forall₂ (HeldText.DeliveredAs env run.state.ctx.device) run.held messages := by
  obtain ⟨hunasked, hsound, hqueue, hgenuine⟩ := h
  have hreadable := hspares.readable (by rw [hconfig]; rfl)
  have hdelivered := HeldText.exists_replayed fun text htext =>
    HeldText.exists_deliveredAs (hgenuine text htext) (hreadable text htext)
  refine ⟨_, ?_, hdelivered⟩
  have hreplayed := MeshState.handled_of_requested hconfig
  have hrestarts : run.state.restarts env event = false := by
    obtain ⟨bytes, rfl, -, -⟩ := MeshState.of_requestedConfig hconfig
    exact MeshState.not_restarts_of_none
      ((MeshState.storage_handled_of_requested hconfig).2.trans hunasked)
  have hframes : FromApp.buffered run.state.ctx.storage.ring.count run.state.ctx.storage =
      run.held.map (·.frame) := by
    have hbuffered := (NvsStorage.buffered_of_sound hsound).1
    rw [hqueue] at hbuffered
    refine (List.map_injective_iff.mpr (Option.some_injective RadioFrame)) (hbuffered.trans ?_)
    rw [List.map_map]
    rfl
  have htold : (run.step env event).state.ctx.told =
      (FromApp.replayStoredFrames env
        (FromApp.exchanged env run.state.ctx configId)).told := by
    have htraffic := (MeshState.step_of_not_restarts hrestarts).traffic_eq
    rw [hreplayed] at htraffic
    exact congrArg (fun traffic => traffic.2.2.2.2.2.2.map FromRadioMessage.variant) htraffic
  rw [htold]
  unfold FromApp.replayStoredFrames
  rw [FromApp.told_replayFrames, FromApp.storage_exchanged, FromApp.device_exchanged]
  change ((FromApp.buffered run.state.ctx.storage.ring.count
    run.state.ctx.storage).filterMap _).foldl _ _ = _
  rw [hframes, Mailbox.foldl_trySend]
  refine congrArg _ (List.take_of_length_le ?_)
  rw [← hdelivered.length_eq]
  by_cases hheld : run.held = []
  · rw [hheld]
    exact Nat.zero_le _
  · have hroom := hspares.room configId hconfig hheld
    have hexchanged : (FromApp.exchanged env run.state.ctx configId).told.length ≤
        run.state.ctx.txToBle.length +
          (FromApp.handshake env run.state.ctx configId).length := by
      rw [FromApp.told_exchanged, Mailbox.foldl_trySend, List.length_append,
        MeshCtx.length_told]
      exact Nat.add_le_add_left (List.length_take_le' _ _) _
    omega

theorem map_some_reduceOption {α : Type} {items : List (Option α)} (h : none ∉ items) :
    items.reduceOption.map some = items := by
  induction items with
  | nil => rfl
  | cons item items ih =>
      have hrest := ih fun hnone => h (List.mem_cons_of_mem item hnone)
      cases item with
      | none => exact absurd List.mem_cons_self h
      | some item => rw [List.reduceOption_cons_of_some, List.map_cons, hrest]

theorem consistent_boot (mac : Bytes) {storage : partition.Storage} (hsound : storage.Sound)
    (pkcKeypair : Key × Key) (entropy : Nat → UInt32) :
    Consistent env (boot env mac storage pkcKeypair entropy) where
  unasked := rfl
  sound := hsound
  queue := by
    change storage.queue = (storage.queue.reduceOption.map _).map _
    rw [List.map_map]
    exact (map_some_reduceOption hsound.readable).symm
  genuine text htext accepted haccepted := by
    obtain ⟨frame, -, rfl⟩ := List.mem_map.mp htext
    cases haccepted

/-- In every run no text message is lost, as long as each request of the phone finds the held
messages readable and room for them, and each restart finds the ring on flash as it is in
memory. -/
theorem lossless_run (env : Env) (partition : Partition F) (flash : F) (mac : Bytes)
    (pkcKeypair : Key × Key) (entropy : Nat → UInt32) (events : List MeshState.Event)
    (hsound : (NvsStorage.opened partition flash).Sound)
    (hspares : Transition.Always (step env) (Spares env)
      (boot env mac (NvsStorage.opened partition flash) pkcKeypair entropy) events) :
    Transition.Always (step env) (Lossless env)
      (boot env mac (NvsStorage.opened partition flash) pkcKeypair entropy) events :=
  Transition.forall_trace (fun _ _ hrun hstep => consistent_step hrun hstep)
    (fun _ _ hrun hstep =>
      { replayed := fun _ hconfig => replayed_step hrun hstep hconfig
        kept := (kept_step hrun hstep).2 })
    (consistent_boot mac hsound pkcKeypair entropy) hspares

/-- Node `0x11223344` says hi to all, on the default channel. -/
def hiFrame : RadioFrame where
  bytes :=
    [0xff, 0xff, 0xff, 0xff, 0x44, 0x33, 0x22, 0x11, 0x09, 0x00, 0x00, 0x00, 0x63, 0x08, 0x00,
     0x44, 0x66, 0x07, 0x3c, 0x1c, 0xb0, 0x6a]
  length_le := by decide

def hiHeard : MeshState.Event := .mesh (.loraRx hiFrame ⟨0, 0⟩)

def asks : MeshState.Event := .mesh (.bleRx FromApp.wantConfig)

abbrev FlashStorage : Type := (wholeFlash : Partition (Image Medium.nor 0x5000)).Storage

def bootedText : TextRun FlashStorage :=
  boot KnownAnswers.defaultKey.env KnownAnswers.mac
    (NvsStorage.opened wholeFlash NvsStorage.blankImage) KnownAnswers.noKeypair
    KnownAnswers.noEntropy

def textRun (events : List MeshState.Event) : TextRun FlashStorage :=
  Transition.run (step KnownAnswers.defaultKey.env) bootedText events

theorem requestedConfig_asks {state : MeshState FlashStorage} (h : state.started = true) :
    state.requestedConfig KnownAnswers.defaultKey.env asks = some 7 := by
  have hwanted : FromApp.wantedConfig KnownAnswers.defaultKey.env FromApp.wantConfig = some 7 := by
    decide
  unfold MeshState.requestedConfig asks
  dsimp only
  rw [if_pos h]
  exact hwanted

def hiHeader : PacketHeader where
  destination := BROADCAST_ADDR
  sender := 0x11223344
  packetId := 9
  flags := 0x63
  channelIndex := 8
  nextHop := 0
  relayNode := 0x44

def hiDecoded : FromRadio.DecodedPayload where
  portnum := PortNum.textMessageApp.toI32
  wantResponse := false
  requestId := 0
  replyId := 0
  emoji := 0
  payload := [0x68, 0x69]
  channelIndex := 0

/-- What is held once the message was heard in a context. -/
def hiHeld (ctx : MeshCtx FlashStorage) : HeldText :=
  FromRadio.heldText KnownAnswers.defaultKey.env
    (MeshState.noteActivity ctx (.loraRx hiFrame ⟨0, 0⟩)) hiFrame ⟨0, 0⟩ hiHeader hiDecoded

theorem readable_hiHeld {ctx : MeshCtx FlashStorage} {device : DeviceState}
    (hchannels : device.channels = ctx.device.channels)
    (hpreset : device.modemPreset = ctx.device.modemPreset)
    (hpkc : ∀ accepted, (hiHeld ctx).accepted = some accepted → accepted.underPkc = false) :
    (hiHeld ctx).Readable KnownAnswers.defaultKey.env device where
  unchanged accepted haccepted _ := by
    refine ⟨hpkc accepted haccepted, ?_⟩
    cases haccepted
    unfold Acceptance.FindsChannel FromRadio.matchedChannel
    rw [hchannels, hpreset]
    rfl
  changed hchanged := absurd hchannels (hchanged _ rfl)

set_option maxRecDepth 4000 in
theorem held_hiHeard :
    (textRun [.announce, hiHeard]).held = [hiHeld (textRun [.announce]).state.ctx] := by
  rfl

set_option maxRecDepth 4000 in
theorem spares_hiHeard :
    Spares KnownAnswers.defaultKey.env (textRun [.announce, hiHeard]) asks where
  readable _ text htext := by
    rw [held_hiHeard] at htext
    cases List.mem_singleton.mp htext
    refine readable_hiHeld (ChannelSet.ext (by decide +kernel)) (by decide +kernel) ?_
    intro accepted haccepted
    cases haccepted
    decide +kernel
  room configId hconfig _ := by
    rw [requestedConfig_asks (by decide +kernel)] at hconfig
    cases hconfig
    unfold FromApp.handshake
    rw [if_neg (by decide), FromApp.length_stage_of_ne (by decide)]
    decide +kernel
  onFlash hrestarts := absurd hrestarts (by decide +kernel)

theorem textRun_lossless :
    Transition.Always (step KnownAnswers.defaultKey.env) (Lossless KnownAnswers.defaultKey.env)
      bootedText [.announce, hiHeard, asks] := by
  have hquiet : ∀ {run : TextRun FlashStorage} {event : MeshState.Event},
      run.state.requestedConfig KnownAnswers.defaultKey.env event = none →
      run.state.restarts KnownAnswers.defaultKey.env event = false →
      Spares KnownAnswers.defaultKey.env run event := by
    intro run event hconfig hrestarts
    constructor
    · rw [hconfig]
      exact fun h => nomatch h
    · rw [hconfig]
      exact fun _ h => nomatch h
    · rw [hrestarts]
      exact fun h => nomatch h
  refine lossless_run KnownAnswers.defaultKey.env wholeFlash NvsStorage.blankImage
    KnownAnswers.mac KnownAnswers.noKeypair KnownAnswers.noEntropy _ ⟨by decide, by decide⟩ ?_
  refine Transition.always_cons.mpr ⟨hquiet rfl rfl, ?_⟩
  refine Transition.always_cons.mpr ⟨hquiet rfl (by decide +kernel), ?_⟩
  exact Transition.always_cons.mpr ⟨spares_hiHeard, fun _ h => nomatch h⟩

set_option maxRecDepth 20000 in
/-- The phone asks twice and reads nothing; the message that came in between is taken out of
the ring and not queued. -/
theorem unread_stage_loses_text :
    (textRun [.announce, asks, hiHeard]).held =
        [hiHeld (textRun [.announce, asks]).state.ctx] ∧
      (textRun [.announce, asks, hiHeard]).state.requestedConfig KnownAnswers.defaultKey.env
        asks = some 7 ∧
      (textRun [.announce, asks, hiHeard]).state.ctx.device.channels =
        (textRun [.announce, asks]).state.ctx.device.channels ∧
      (textRun [.announce, asks, hiHeard, asks]).state.ctx.storage.queue = [] ∧
      ¬ Lossless KnownAnswers.defaultKey.env (textRun [.announce, asks, hiHeard]) asks := by
  have hheld : (textRun [.announce, asks, hiHeard]).held =
      [hiHeld (textRun [.announce, asks]).state.ctx] := by rfl
  have hasked : (textRun [.announce, asks, hiHeard]).state.requestedConfig
      KnownAnswers.defaultKey.env asks = some 7 := requestedConfig_asks (by decide +kernel)
  refine ⟨hheld, hasked, ChannelSet.ext (by decide +kernel), by decide +kernel,
    fun hlossless => ?_⟩
  obtain ⟨messages, htold, hmessages⟩ := hlossless.replayed 7 hasked
  have hone : messages.length = 1 := by
    rw [← hmessages.length_eq, hheld, List.length_singleton]
  have hqueued : (textRun [.announce, asks, hiHeard, asks]).state.ctx.told.length = 64 := by
    decide +kernel
  have hbefore : (FromApp.exchanged KnownAnswers.defaultKey.env
      (textRun [.announce, asks, hiHeard]).state.ctx 7).told.length = 64 := by
    decide +kernel
  have hlength := congrArg List.length htold
  rw [List.length_append, hone, hbefore] at hlength
  exact absurd (hqueued.symm.trans hlength) (by decide)

end TextRun

end Meshtastenstein
