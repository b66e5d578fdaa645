import Meshtastenstein.KnownAnswers
import Meshtastenstein.Reception
import Meshtastenstein.Runs
/-!
# Pending packets and delivery reports

Which received frames end the wait for an acknowledgement, and what the phone is told
about the packets it handed over.
-/

namespace Meshtastenstein.Handlers.FromRadio

open Lib Proto

variable {S : Type} [MeshStorage S] {env : Env}

/-! ## Forged acknowledgements -/

/-- The frame decodes as a routing message that names the entry, or carries the very
payload the entry was sent with. -/
def Vouches (env : Env) (ctx : MeshCtx S) (frame : RadioFrame) (entry : PendingPacket) : Prop :=
  (∃ header, AcknowledgesId env ctx frame header entry.packetId) ∨
    frame.payload = entry.frame.payload

def RemovesOnlyVouched (env : Env) (ctx : MeshCtx S) (frame : RadioFrame)
    (after : MeshCtx S) : Prop :=
  ∀ entry, Removes ctx.pendingPackets after.pendingPackets entry → Vouches env ctx frame entry

theorem removesOnlyVouched_iff (ctx : MeshCtx S) (frame : RadioFrame)
    (metadata : RadioMetadata) :
    RemovesOnlyVouched env ctx frame (dispatch env ctx frame metadata) ↔
      ∀ entry, NamesOwnPacket ctx frame entry → Vouches env ctx frame entry := by
  constructor
  · intro h entry hnames
    exact h entry (hnames.removes metadata)
  · intro h entry hremoves
    rcases removes_dispatch hremoves with hnames | ⟨header, hacknowledges⟩
    · exact h entry hnames
    · exact Or.inl ⟨header, hacknowledges.acknowledgesId⟩

/-- In every reachable state, which received frames remove only what they vouch for. -/
theorem removesOnlyVouched_after_iff (mac : Bytes) (storage : S) (pkcKeypair : Key × Key)
    (entropy : Nat → UInt32) (events : List MeshState.Event) (frame : RadioFrame)
    (metadata : RadioMetadata) :
    let ctx := MeshState.noteActivity
      (MeshState.after env mac storage pkcKeypair entropy events).ctx (.loraRx frame metadata)
    RemovesOnlyVouched env ctx frame (dispatch env ctx frame metadata) ↔
      ∀ entry, NamesOwnPacket ctx frame entry → Vouches env ctx frame entry :=
  removesOnlyVouched_iff _ frame metadata

/-- The phone hands over the text `hi` for node `0x55667788` under packet id 7. -/
def directMessage : Bytes :=
  [0x0a, 0x14, 0x15, 0x88, 0x77, 0x66, 0x55, 0x22, 0x06, 0x08, 0x01, 0x12, 0x02, 0x68, 0x69,
   0x35, 0x07, 0x00, 0x00, 0x00, 0x48, 0x03]

/-- A frame under our own node number and packet id 7 with a single payload byte. -/
def forgedFrame : RadioFrame where
  bytes :=
    [0xff, 0xff, 0xff, 0xff, 0x56, 0x34, 0x12, 0x28, 0x07, 0x00, 0x00, 0x00, 0x00, 0x00, 0x00,
     0x00, 0x2a]
  length_le := by decide

/-- The context in which a node that waits for the acknowledgement of its direct message
hears a frame. -/
def trackedCtx (frame : RadioFrame) (metadata : RadioMetadata) : MeshCtx FakeStorage :=
  MeshState.noteActivity
    (MeshState.after KnownAnswers.defaultKey.env KnownAnswers.mac {} KnownAnswers.noKeypair
      KnownAnswers.noEntropy [.announce, .mesh (.bleRx directMessage)]).ctx
    (.loraRx frame metadata)

/-- The forged frame removes the direct message without vouching for it. -/
theorem forgedFrame_removes :
    ¬ RemovesOnlyVouched KnownAnswers.defaultKey.env (trackedCtx forgedFrame ⟨0, 0⟩) forgedFrame
      (dispatch KnownAnswers.defaultKey.env (trackedCtx forgedFrame ⟨0, 0⟩) forgedFrame
        ⟨0, 0⟩) := by
  rw [removesOnlyVouched_iff]
  intro h
  obtain ⟨header, hheader⟩ := Option.isSome_iff_exists.mp
    (show forgedFrame.header.isSome = true by decide)
  obtain ⟨entry, hentry⟩ := Option.isSome_iff_exists.mp
    (show (trackedCtx forgedFrame ⟨0, 0⟩).pendingPackets.toList[0]?.isSome = true by decide)
  have hsender : forgedFrame.header.map (·.sender) =
      some (trackedCtx forgedFrame ⟨0, 0⟩).device.myNodeNum := by decide
  have hposition : forgedFrame.header.bind (fun header =>
      (trackedCtx forgedFrame ⟨0, 0⟩).pendingPackets.position header.packetId) = some 0 := by
    decide
  have hpayload : (trackedCtx forgedFrame ⟨0, 0⟩).pendingPackets.toList[0]?.map
      (fun entry => forgedFrame.payload == entry.frame.payload) = some false := by decide
  have houtcome : forgedFrame.header.map (fun header =>
      tryDecryptAndDecode KnownAnswers.defaultKey.env forgedFrame header
        (trackedCtx forgedFrame ⟨0, 0⟩).device (trackedCtx forgedFrame ⟨0, 0⟩).nodeDb
        (trackedCtx forgedFrame ⟨0, 0⟩).pkcPrivBytes) = some .drop := by decide
  rw [hheader] at hsender hposition houtcome
  rw [hentry] at hpayload
  rcases h entry ⟨header, 0, hheader, Option.some.inj hsender, hposition, hentry⟩ with
    ⟨header', hheader', decoded, routing, hdecoded, -⟩ | hsame
  · obtain rfl : header = header' := Option.some.inj (hheader.symm.trans hheader')
    rw [Option.map_some, hdecoded] at houtcome
    cases houtcome
  · simp [hsame] at hpayload

/-! ## Soundness of delivery reports -/

/-- Every pending packet that a frame of another node removes, and whose delivery the
phone is told, was acknowledged by its recipient and to us. -/
def DeliversSoundly (env : Env) (ctx : MeshCtx S) (frame : RadioFrame)
    (after : MeshCtx S) : Prop :=
  ∀ header, frame.header = some header → header.sender ≠ ctx.device.myNodeNum →
    ∀ entry dest, Removes ctx.pendingPackets after.pendingPackets entry →
      entry.bleNotify = some dest →
      header.sender = entry.dest ∧ header.destination = ctx.device.myNodeNum ∧
        AcknowledgesId env ctx frame header entry.packetId

/-- An acknowledgement of a packet the phone waits for comes from the recipient and is
addressed to us. -/
def AckedByRecipient (env : Env) (ctx : MeshCtx S) (frame : RadioFrame) : Prop :=
  ∀ header entry, Acknowledges env ctx frame header entry → entry.bleNotify.isSome = true →
    header.sender = entry.dest ∧ header.destination = ctx.device.myNodeNum

theorem deliversSoundly_iff (ctx : MeshCtx S) (frame : RadioFrame)
    (metadata : RadioMetadata) :
    DeliversSoundly env ctx frame (dispatch env ctx frame metadata) ↔
      AckedByRecipient env ctx frame := by
  constructor
  · intro hsound header entry hacknowledges hnotify
    obtain ⟨dest, hdest⟩ := Option.isSome_iff_exists.mp hnotify
    obtain ⟨hsender, hdestination, -⟩ := hsound header hacknowledges.1 hacknowledges.2.1 entry
      dest (hacknowledges.removes metadata) hdest
    exact ⟨hsender, hdestination⟩
  · intro hacked header hheader hsender entry dest hremoves hdest
    rcases removes_dispatch hremoves with ⟨header', i, hheader', hown, -⟩ | ⟨header', hacknowledges⟩
    · obtain rfl : header = header' := Option.some.inj (hheader.symm.trans hheader')
      exact absurd hown hsender
    · obtain rfl : header = header' := Option.some.inj (hheader.symm.trans hacknowledges.1)
      obtain ⟨hfrom, hto⟩ := hacked header entry hacknowledges
        (Option.isSome_iff_exists.mpr ⟨dest, hdest⟩)
      exact ⟨hfrom, hto, hacknowledges.acknowledgesId⟩

/-- In every run, all deliveries are reported soundly exactly when all acknowledgements
come from the recipient. -/
theorem deliversSoundly_run_iff (mac : Bytes) (storage : S) (pkcKeypair : Key × Key)
    (entropy : Nat → UInt32) (events : List MeshState.Event) :
    MeshState.EveryReception env mac storage pkcKeypair entropy events
        (fun ctx frame metadata =>
          DeliversSoundly env ctx frame (dispatch env ctx frame metadata)) ↔
      MeshState.EveryReception env mac storage pkcKeypair entropy events
        (fun ctx frame _ => AckedByRecipient env ctx frame) := by
  unfold MeshState.EveryReception
  simp only [deliversSoundly_iff]

/-- Node `0x11223344` acknowledges packet 7 to node `0x99aabbcc`. -/
def strangerAck : RadioFrame where
  bytes :=
    [0xcc, 0xbb, 0xaa, 0x99, 0x44, 0x33, 0x22, 0x11, 0x09, 0x00, 0x00, 0x00, 0x63, 0x08, 0x00,
     0x44, 0x66, 0x03, 0x1b, 0x19, 0xd8, 0x03, 0x06]
  length_le := by decide

def strangerHeader : PacketHeader where
  destination := 0x99aabbcc
  sender := 0x11223344
  packetId := 9
  flags := 0x63
  channelIndex := 8
  nextHop := 0
  relayNode := 0x44

def strangerPayload : DecodedPayload where
  portnum := PortNum.routingApp.toI32
  wantResponse := false
  requestId := 7
  replyId := 0
  emoji := 0
  payload := []
  channelIndex := 0

/-- The node waits for the acknowledgement of its direct message and overhears one that
is neither from the recipient nor for us. -/
def strangerRun : List MeshState.Event :=
  [.announce, .mesh (.bleRx directMessage), .mesh (.loraRx strangerAck ⟨0, 0⟩)]

/-- The overheard acknowledgement is taken for a delivery, and the phone is told so. -/
theorem strangerAck_delivers :
    ¬ MeshState.EveryReception KnownAnswers.defaultKey.env KnownAnswers.mac
        ({} : FakeStorage) KnownAnswers.noKeypair KnownAnswers.noEntropy strangerRun
        (fun ctx frame metadata =>
          DeliversSoundly KnownAnswers.defaultKey.env ctx frame
            (dispatch KnownAnswers.defaultKey.env ctx frame metadata)) ∧
      ∃ msg ∈ (MeshState.after KnownAnswers.defaultKey.env KnownAnswers.mac
        ({} : FakeStorage) KnownAnswers.noKeypair KnownAnswers.noEntropy
        strangerRun).ctx.txToBle, msg.variant.reports 0x28123456 7 = true := by
  constructor
  · intro hevery
    have hsound : DeliversSoundly KnownAnswers.defaultKey.env (trackedCtx strangerAck ⟨0, 0⟩)
        strangerAck (dispatch KnownAnswers.defaultKey.env (trackedCtx strangerAck ⟨0, 0⟩)
          strangerAck ⟨0, 0⟩) :=
      hevery _ (List.mem_cons_of_mem _ (List.mem_cons_of_mem _ List.mem_cons_self)) strangerAck
        ⟨0, 0⟩ (by decide) rfl
    rw [deliversSoundly_iff] at hsound
    obtain ⟨entry, hentry⟩ := Option.isSome_iff_exists.mp
      (show (trackedCtx strangerAck ⟨0, 0⟩).pendingPackets.toList[0]?.isSome = true by decide)
    have hfacts : (trackedCtx strangerAck ⟨0, 0⟩).pendingPackets.toList[0]?.map
        (fun entry => (entry.dest, entry.bleNotify.isSome)) = some (0x55667788, true) := by
      decide
    rw [hentry] at hfacts
    obtain ⟨hdest, hnotify⟩ := Prod.mk.inj (Option.some.inj hfacts)
    have hacknowledges : Acknowledges KnownAnswers.defaultKey.env
        (trackedCtx strangerAck ⟨0, 0⟩) strangerAck strangerHeader entry :=
      ⟨by decide, by decide, by decide, strangerPayload, 0, by decide, rfl, by decide,
        by decide, by decide, hentry⟩
    obtain ⟨hsender, -⟩ := hsound strangerHeader entry hacknowledges hnotify
    rw [hdest] at hsender
    exact absurd hsender (by decide)
  · obtain ⟨msg, hmsg, hreports⟩ := List.any_eq_true.mp
      (show (MeshState.after KnownAnswers.defaultKey.env KnownAnswers.mac
        ({} : FakeStorage) KnownAnswers.noKeypair KnownAnswers.noEntropy
        strangerRun).ctx.txToBle.any (fun msg => msg.variant.reports 0x28123456 7) = true
        by decide)
    exact ⟨msg, hmsg, hreports⟩

end Meshtastenstein.Handlers.FromRadio
