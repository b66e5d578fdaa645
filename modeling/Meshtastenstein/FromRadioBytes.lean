import Meshtastenstein.FromRadioSlot
import Meshtastenstein.ShortMessages
import Meshtastenstein.WireRoom
/-!
# Whole messages

A message for the phone is copied into a buffer of 512 bytes, and one that does not fit
leaves the buffer empty.  What is queued is complete exactly when it is short enough, and only
the message of a node with a long user can be longer.
-/

namespace Meshtastenstein

open Lib Proto

def FromRadioMessage.value (msg : FromRadioMessage) : FromRadio where
  id := msg.id
  payloadVariant := some msg.variant

/-- The phone reads the value back, and reads something at all. -/
structure FromRadioMessage.Complete (env : Env) (msg : FromRadioMessage) : Prop where
  decodes : env.prost.fromRadio.decode (encodeFromRadio env msg).toList = some msg.value
  ne_nil : (encodeFromRadio env msg).toList ≠ []

def FromRadioMessage.Short (env : Env) (msg : FromRadioMessage) : Prop :=
  (env.prost.fromRadio.encode msg.value).length ≤ 512

instance (env : Env) (msg : FromRadioMessage) : Decidable (msg.Short env) :=
  inferInstanceAs (Decidable (_ ≤ _))

variable {env : Env}

theorem encodeFromRadio_of_short {msg : FromRadioMessage} (h : msg.Short env) :
    (encodeFromRadio env msg).toList = env.prost.fromRadio.encode msg.value :=
  Bounded.toList_ofListOrEmpty_of_le h

theorem encodeFromRadio_of_not_short {msg : FromRadioMessage} (h : ¬ msg.Short env) :
    (encodeFromRadio env msg).toList = [] :=
  (Bounded.toList_ofListOrEmpty _).trans (if_neg h)

/-- The empty encoding is that of the default message. -/
def DecodesDefault (env : Env) : Prop :=
  env.prost.fromRadio.decode [] = some { id := 0, payloadVariant := none }

theorem complete_iff_short (hdefault : DecodesDefault env) {msg : FromRadioMessage}
    (hround : env.prost.fromRadio.RoundTrips msg.value) :
    msg.Complete env ↔ msg.Short env := by
  unfold Codec.RoundTrips at hround
  constructor
  · intro hcomplete
    by_contra hlong
    exact hcomplete.ne_nil (encodeFromRadio_of_not_short hlong)
  · intro hshort
    have hbytes := encodeFromRadio_of_short hshort
    refine ⟨by rw [hbytes, hround], ?_⟩
    -- the empty message has no payload
    intro hempty
    rw [← hbytes, hempty, hdefault] at hround
    exact Option.some_ne_none _ (congrArg FromRadio.payloadVariant (Option.some.inj hround)).symm

namespace MeshState

variable {S : Type} [MeshStorage S]

variable (env) in
def queuedIn (state : MeshState S) (event : Event) : List FromRadioMessage :=
  (handled env state event).txToBle.drop state.ctx.txToBle.length

variable (env) in
def QueuesComplete (state : MeshState S) (event : Event) : Prop :=
  ∀ msg ∈ queuedIn env state event, msg.Complete env

variable (env) in
/-- The values that a step queues survive an encoding and a decoding. -/
def QueuesReadable (state : MeshState S) (event : Event) : Prop :=
  ∀ msg ∈ queuedIn env state event, env.prost.fromRadio.RoundTrips msg.value

/-- What has room in the buffer fits it once it is encoded. -/
theorem short_of_small (hcompact : env.prost.Compact) {msg : FromRadioMessage}
    (h : msg.variant.Small) : msg.Short env :=
  Nat.le_trans (hcompact.fromRadio msg.id msg.variant) h

/-- When the GATT loop takes a message, none is queued. -/
theorem queuedIn_bleTaken (state : MeshState S) : queuedIn env state .bleTaken = [] := by
  have hlen : (handled env state .bleTaken).txToBle.length ≤ state.ctx.txToBle.length := by
    change state.ctx.txToBle.tail.length ≤ _
    rw [List.length_tail]
    exact Nat.sub_le _ 1
  exact List.drop_eq_nil_of_le hlen

/-- In every run, whatever is stored at its start, the messages to the phone are complete as
long as the nodes that it is shown have room for their user and their position. -/
theorem alwaysComplete_run (hcompact : env.prost.Compact) (hloads : LoadsSnapshots S)
    (hdefault : DecodesDefault env) (mac : Bytes) (storage : S) (pkcKeypair : Key × Key)
    (entropy : Nat → UInt32) (events : List Event)
    (hround : Transition.Always (step env) (QueuesReadable env)
      (boot env mac storage pkcKeypair entropy) events)
    (hshows : Transition.Always (step env) (ShowsFitting env)
      (boot env mac storage pkcKeypair entropy) events) :
    Transition.Always (step env) (QueuesComplete env)
      (boot env mac storage pkcKeypair entropy) events := by
  have htells := tellsShort_run hcompact hloads mac storage pkcKeypair entropy hshows
  intro t ht msg hmsg
  have hsmall : msg.variant.Small := by
    by_cases htaken : t.event = .bleTaken
    · rw [htaken, queuedIn_bleTaken] at hmsg
      cases hmsg
    · exact (htells t ht htaken).mem hmsg
  exact (complete_iff_short hdefault (hround t ht msg hmsg)).mpr (short_of_small hcompact hsmall)

/-! ## Recorded runs -/

open Protobuf in
/-- `AddContact` for node `0x11` under a long name of `length` letters. -/
def contactRequest (length : Nat) : Bytes :=
  let user := encodeFields [⟨2, .bytes (List.replicate length 0x41)⟩]
  let contact := encodeFields [⟨1, .varint 0x11⟩, ⟨2, .bytes user⟩]
  let data := encodeFields [⟨1, .varint 6⟩, ⟨2, .bytes (encodeFields [⟨66, .bytes contact⟩])⟩]
  encodeFields [⟨1, .bytes (encodeFields [⟨4, .bytes data⟩])⟩]

/-- The phone adds a contact and asks for the node list. -/
def contactRun (length : Nat) : List Event :=
  [.announce, .mesh .bleConnected, .mesh (.bleRx (contactRequest length)),
    .mesh (.bleRx Firmware.wantNodes)]

/-- A broadcast of node `0x11` in the clear, which tells its latitude. -/
def positionFrame : RadioFrame where
  bytes :=
    [0xff, 0xff, 0xff, 0xff, 0x11, 0x00, 0x00, 0x00, 0x09, 0x00, 0x00, 0x00, 0x63, 0x99, 0x00,
     0x11, 0x08, 0x03, 0x12, 0x05, 0x0d, 0x40, 0x42, 0x0f, 0x00]
  length_le := by decide

def contactNode : MeshState FakeStorage :=
  boot KnownAnswers.defaultKey.placedEnv KnownAnswers.mac {} KnownAnswers.noKeypair
    KnownAnswers.noEntropy

/-- What the node queues during the recorded runs is read back from its encoding. -/
theorem queuesReadable_of_fits {events : List Event}
    (h : Transition.Always (step KnownAnswers.defaultKey.placedEnv)
      (fun state event => ∀ msg ∈ queuedIn KnownAnswers.defaultKey.placedEnv state event,
        Wire.StageTwoFits msg.variant) contactNode events) :
    Transition.Always (step KnownAnswers.defaultKey.placedEnv)
      (QueuesReadable KnownAnswers.defaultKey.placedEnv) contactNode events :=
  fun t ht msg hmsg => Wire.fromRadioCodec_roundTrips (h t ht msg hmsg) msg.id

/-- A contact with a short name is in the node list whole, and its node again when it tells
where it is. -/
theorem shortContact_alwaysComplete :
    Transition.Always (step KnownAnswers.defaultKey.placedEnv)
      (QueuesComplete KnownAnswers.defaultKey.placedEnv) contactNode
      (contactRun 10 ++ [.mesh .bleDisconnected, .mesh (.loraRx positionFrame ⟨0, 0⟩)]) :=
  alwaysComplete_run (KnownAnswers.compact_placedEnv _) loadsSnapshots_fake rfl
    KnownAnswers.mac {} KnownAnswers.noKeypair KnownAnswers.noEntropy _
    (queuesReadable_of_fits (by decide +kernel)) (by decide +kernel)

/-- A contact with a name of 487 letters fits the write of the phone, and its node list
message is queued empty. -/
theorem longContact_not_alwaysComplete :
    (contactRequest 487).length = 510 ∧
    Transition.Always (step KnownAnswers.defaultKey.placedEnv)
      (QueuesReadable KnownAnswers.defaultKey.placedEnv) contactNode (contactRun 487) ∧
    ¬ Transition.Always (step KnownAnswers.defaultKey.placedEnv)
      (QueuesComplete KnownAnswers.defaultKey.placedEnv) contactNode (contactRun 487) := by
  refine ⟨by decide +kernel, queuesReadable_of_fits (by decide +kernel), fun hcomplete => ?_⟩
  have hempty : ∃ t ∈ Transition.trace (step KnownAnswers.defaultKey.placedEnv) contactNode
      (contactRun 487), ∃ msg ∈ queuedIn KnownAnswers.defaultKey.placedEnv t.before t.event,
        (encodeFromRadio KnownAnswers.defaultKey.placedEnv msg).toList = [] := by
    decide +kernel
  obtain ⟨t, ht, msg, hmsg, hnothing⟩ := hempty
  exact (hcomplete t ht msg hmsg).ne_nil hnothing

end MeshState

end Meshtastenstein
