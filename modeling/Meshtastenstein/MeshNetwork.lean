import Meshtastenstein.KnownAnswers
import Meshtastenstein.Lib.Network
import Meshtastenstein.Pieces
import Meshtastenstein.Relaying
/-!
# A network of nodes

Any number of nodes around one radio channel, which may lose, delay, repeat and reorder what
is sent.  Whatever interleaving of receptions, timers, phones and restarts the nodes go
through, a frame on the air was built by some node, and came where it is by being relayed at
most seven times, with nothing changed but the hops left and the byte of the last relay.
-/

namespace Meshtastenstein

open Lib Proto Handlers

variable {S : Type} [MeshStorage S]

/-! ## Nodes as stations -/

/-- A node as a station: what the radio takes from the queue goes on the air. -/
def node (env : Env) : Station (MeshState S) MeshState.Event RadioFrame RadioMetadata where
  step := MeshState.step env
  emits state event :=
    match event with
    | .loraTaken => state.ctx.txToLora.head?.toList
    | _ => []
  hears frame metadata := .mesh (.loraRx frame metadata)
  heard event :=
    match event with
    | .mesh (.loraRx frame _) => some frame
    | _ => none
  heard_hears _ _ := rfl

/-- Nodes around a channel on which nothing was sent yet. -/
def MeshNetwork.boot {ι : Type} (env : Env) (mac : ι → Bytes) (storage : ι → S)
    (pkcKeypair : ι → Key × Key) (entropy : ι → Nat → UInt32) :
    Network ι (MeshState S) RadioFrame where
  stations i := MeshState.boot env (mac i) (storage i) (pkcKeypair i) (entropy i)
  medium := []

namespace MeshState

variable {env : Env}

/-! ## What a node carries -/

/-- The node goes by a number, now and after a restart. -/
structure IsNumbered (num : UInt32) (state : MeshState S) : Prop where
  myNodeNum_eq : state.ctx.device.myNodeNum = num
  mac_eq : DeviceState.nodeNumOfMac state.ctx.device.mac = num

/-- A frame in the queues of the node, or one that may be repeated. -/
def Carries (state : MeshState S) (frame : RadioFrame) : Prop :=
  frame ∈ state.ctx.txToLora ∨
  (∃ entry ∈ state.ctx.pendingRebroadcast.toList, entry.frame = frame) ∨
  ∃ waiting ∈ state.ctx.pendingPackets.frames, frame.Repeats waiting

def Makes (env : Env) (state : MeshState S) (event : Event) (frame : RadioFrame) : Prop :=
  ∃ built, BuiltBetween env state.ctx (handled env state event) built ∧ frame.Repeats built

theorem isNumbered_boot (mac : Bytes) (storage : S) (pkcKeypair : Key × Key)
    (entropy : Nat → UInt32) :
    IsNumbered (DeviceState.nodeNumOfMac mac) (boot env mac storage pkcKeypair entropy) where
  myNodeNum_eq := loadState_myNodeNum env storage (DeviceState.new mac)
  mac_eq := congrArg DeviceState.nodeNumOfMac (loadState_mac env storage (DeviceState.new mac))

omit [MeshStorage S] in
theorem outgoing_of_housekept {ctx ctx' : MeshCtx S} (h : Housekept ctx ctx') :
    ctx'.outgoing = ctx.outgoing ∧ ctx'.pendingRebroadcast = ctx.pendingRebroadcast := by
  obtain ⟨_, _, _, rfl⟩ := h
  exact ⟨rfl, rfl⟩

theorem identity_handled (state : MeshState S) (event : Event) :
    (handled env state event).device.mac = state.ctx.device.mac ∧
      (handled env state event).device.myNodeNum = state.ctx.device.myNodeNum ∧
      (handled env state event).badge = state.ctx.badge := by
  by_cases hrelay : event = .rebroadcastDue
  · subst hrelay
    unfold handled
    dsimp only
    split
    · rcases fireRebroadcast_cases state.ctx with hnone | ⟨i, pending, -, hsent⟩
      · rw [hnone]
        exact ⟨rfl, rfl, rfl⟩
      · rw [hsent]
        exact ⟨rfl, rfl, rfl⟩
    · exact ⟨rfl, rfl, rfl⟩
  by_cases htaken : event = .loraTaken
  · subst htaken
    exact ⟨rfl, rfl, rfl⟩
  obtain ⟨sent, hsends⟩ := (@pieces_handled S env _ state event hrelay htaken).sends
  exact ⟨hsends.mac_eq, hsends.myNodeNum_eq, hsends.badge_eq⟩

theorem IsNumbered.step {num : UInt32} {state : MeshState S} (h : IsNumbered num state)
    (event : Event) : IsNumbered num (MeshState.step env state event) := by
  obtain ⟨hmac, hnum, -⟩ := @identity_handled S _ env state event
  cases hrestart : restarts env state event with
  | false =>
      obtain ⟨houtgoing, -⟩ := outgoing_of_housekept (step_of_not_restarts hrestart)
      simp only [MeshCtx.outgoing, Prod.mk.injEq] at houtgoing
      obtain ⟨-, hmac', hnum', -, -⟩ := houtgoing
      exact ⟨hnum'.trans (hnum.trans h.myNodeNum_eq), by rw [hmac', hmac, h.mac_eq]⟩
  | true =>
      obtain ⟨housed, hkept, hreboot⟩ := step_of_restarts hrestart
      obtain ⟨houtgoing, -⟩ := outgoing_of_housekept hkept
      simp only [MeshCtx.outgoing, Prod.mk.injEq] at houtgoing
      obtain ⟨-, hmac', -, -, -⟩ := houtgoing
      have hnumbered : DeviceState.nodeNumOfMac housed.ctx.device.mac = num := by
        rw [hmac', hmac, h.mac_eq]
      rw [hreboot, ← hnumbered]
      exact isNumbered_boot _ _ _ _

theorem carries_handled {state : MeshState S} {event : Event} {frame : RadioFrame}
    (h : frame ∈ (handled env state event).txToLora ∨
      ∃ waiting ∈ (handled env state event).pendingPackets.frames, frame.Repeats waiting) :
    Carries state frame ∨ Makes env state event frame := by
  by_cases hrelay : event = .rebroadcastDue
  · subst hrelay
    left
    unfold handled at h
    dsimp only at h
    split at h
    · rcases fireRebroadcast_cases state.ctx with hnone | ⟨i, pending, hpending, hsent⟩
      · rw [hnone] at h
        exact h.imp_right Or.inr
      · rw [hsent] at h
        rcases h with hqueued | hwaiting
        · rcases List.mem_append.mp hqueued with hqueued | hqueued
          · exact Or.inl hqueued
          · exact Or.inr (Or.inl ⟨pending, hpending, (List.mem_singleton.mp hqueued).symm⟩)
        · exact Or.inr (Or.inr hwaiting)
    · exact h.imp_right Or.inr
  by_cases htaken : event = .loraTaken
  · subst htaken
    exact Or.inl (h.imp List.mem_of_mem_tail Or.inr)
  obtain ⟨sent, hsends⟩ := (@pieces_handled S env _ state event hrelay htaken).sends
  rw [hsends.lora] at h
  have hframes : ∀ other, other ∈ sent ∨ other ∈ (handled env state event).pendingPackets.frames →
      frame.Repeats other → Carries state frame ∨ Makes env state event frame := by
    intro other hother hrepeats
    rcases hsends.frames other hother with ⟨built, hbuilt, hsame⟩ | ⟨waiting, hwaiting, hsame⟩
    · exact Or.inr ⟨built, hbuilt, hrepeats.trans hsame⟩
    · exact Or.inl (Or.inr (Or.inr ⟨waiting, hwaiting, hrepeats.trans hsame⟩))
  rcases h with hqueued | ⟨waiting, hwaiting, hrepeats⟩
  · rcases List.mem_append.mp hqueued with hbefore | hsent
    · exact Or.inl (Or.inl hbefore)
    · exact hframes frame (Or.inl hsent) (.refl frame)
  · exact hframes waiting (Or.inr hwaiting) hrepeats

theorem not_carries_reboot (state : MeshState S) (frame : RadioFrame) :
    ¬ Carries (reboot env state) frame := by
  rintro (hqueued | ⟨entry, hentry, -⟩ | ⟨waiting, hwaiting, -⟩)
  · cases hqueued
  · cases hentry
  · cases hwaiting

theorem carries_step {state : MeshState S} {event : Event} {frame : RadioFrame}
    (h : Carries (step env state event) frame) :
    Carries state frame ∨ Makes env state event frame ∨
      ∃ heard metadata, event = .mesh (.loraRx heard metadata) ∧
        RadioFrame.IsRelayOf state.ctx.device.myNodeNum heard frame := by
  cases hrestart : restarts env state event with
  | true =>
      obtain ⟨housed, -, hreboot⟩ := step_of_restarts hrestart
      rw [hreboot] at h
      exact absurd h (not_carries_reboot housed frame)
  | false =>
      obtain ⟨houtgoing, -⟩ := outgoing_of_housekept (step_of_not_restarts hrestart)
      simp only [MeshCtx.outgoing, Prod.mk.injEq] at houtgoing
      obtain ⟨hframes, -, -, -, hlora⟩ := houtgoing
      rcases h with hqueued | ⟨entry, hentry, rfl⟩ | hwaiting
      · rw [hlora] at hqueued
        exact (carries_handled (Or.inl hqueued)).imp_right Or.inl
      · rcases mem_pendingRebroadcast_step hentry with hbefore | ⟨heard, metadata, hevent, hrelay⟩
        · exact Or.inl (Or.inr (Or.inl ⟨entry, hbefore, rfl⟩))
        · exact Or.inr (Or.inr ⟨heard, metadata, hevent, hrelay⟩)
      · rw [hframes] at hwaiting
        exact (carries_handled (Or.inr hwaiting)).imp_right Or.inl

end MeshState

/-! ## Copies -/

def PacketHeader.content (header : PacketHeader) :=
  (header.destination, header.sender, header.packetId, header.channelIndex, header.hopStart,
    header.wantAck, header.viaMqtt)

/-- The frame is the origin after the nodes of the path, numbered by `num`, relayed it in
turn: each of them was not its sender and took a hop from it, and the last left its byte. -/
structure RadioFrame.IsCopyOf {ι : Type} (num : ι → UInt32) (origin : RadioFrame)
    (path : List ι) (frame : RadioFrame) : Prop where
  payload_eq : frame.payload = origin.payload
  length_eq : frame.bytes.length = origin.bytes.length
  content_eq : frame.header.map PacketHeader.content = origin.header.map PacketHeader.content
  hops_eq : frame.hopsLeft + path.length = origin.hopsLeft
  sender_ne : ∀ i ∈ path, ∀ header, origin.header = some header → header.sender ≠ num i
  relayNode_eq : ∀ i ∈ path.getLast?,
    frame.header.map PacketHeader.relayNode = some (lastByte (num i))

namespace RadioFrame.IsCopyOf

variable {ι : Type} {num : ι → UInt32} {origin frame relay : RadioFrame} {path : List ι}

theorem refl (frame : RadioFrame) : RadioFrame.IsCopyOf num frame [] frame :=
  ⟨rfl, rfl, rfl, rfl, fun _ h => (List.not_mem_nil h).elim, fun _ h => nomatch h⟩

theorem relayed {i : ι} (h : RadioFrame.IsCopyOf num origin path frame)
    (hrelay : RadioFrame.IsRelayOf (num i) frame relay) :
    RadioFrame.IsCopyOf num origin (path ++ [i]) relay := by
  obtain ⟨header, header', hheader, hheader', hheaders⟩ := hrelay.headers
  have hcontent : header'.content = header.content := by
    unfold PacketHeader.content
    rw [hheaders.destination_eq, hheaders.sender_eq, hheaders.packetId_eq,
      hheaders.channelIndex_eq, hheaders.hopStart_eq, hheaders.wantAck_eq, hheaders.viaMqtt_eq]
  refine ⟨hrelay.payload_eq.trans h.payload_eq, hrelay.length_eq.trans h.length_eq, ?_, ?_, ?_,
    ?_⟩
  · rw [← h.content_eq, hheader, hheader', Option.map_some, Option.map_some, hcontent]
  · have hhops := hrelay.hopsLeft_eq
    have hbefore := h.hops_eq
    rw [List.length_append, List.length_singleton]
    omega
  · intro j hj first hfirst
    rcases List.mem_append.mp hj with hj | hj
    · exact h.sender_ne j hj first hfirst
    · -- the header that was relayed last has the sender of the first
      have hsame := h.content_eq
      rw [hheader, hfirst, Option.map_some, Option.map_some] at hsame
      have hsender : header.sender = first.sender :=
        congrArg (fun content => content.2.1) (Option.some.inj hsame)
      rw [List.mem_singleton.mp hj, ← hsender]
      exact hheaders.sender_ne
  · intro j hj
    rw [List.getLast?_append, List.getLast?_singleton, Option.some_or, Option.mem_some_iff] at hj
    subst hj
    rw [hheader', Option.map_some, hheaders.relayNode_eq]

theorem of_along (h : Network.Along (fun i => RadioFrame.IsRelayOf (num i)) origin path frame) :
    RadioFrame.IsCopyOf num origin path frame := by
  induction h with
  | source => exact refl origin
  | passed _ hpass ih => exact ih.relayed hpass

end RadioFrame.IsCopyOf

/-! ## Where the frames on the air come from -/

namespace MeshNetwork

variable {env : Env} {ι : Type}

theorem isNumbered_step (num : ι → UInt32) (i : ι) (state : MeshState S)
    (event : MeshState.Event) (h : state.IsNumbered (num i)) :
    ((node env).step state event).IsNumbered (num i) := h.step event

theorem passesOn_node (num : ι → UInt32) :
    Network.PassesOn (node env) (fun i (state : MeshState S) => state.IsNumbered (num i))
      MeshState.Carries (MeshState.Makes env) (fun i => RadioFrame.IsRelayOf (num i)) := by
  rintro i state event frame hnumbered (hcarries | hemitted)
  · rcases MeshState.carries_step hcarries with hbefore | hmakes | ⟨heard, metadata, rfl, hrelay⟩
    · exact Or.inl hbefore
    · exact Or.inr (Or.inl hmakes)
    · rw [hnumbered.myNodeNum_eq] at hrelay
      exact Or.inr (Or.inr ⟨heard, rfl, hrelay⟩)
  · cases event with
    | loraTaken =>
        have htaken : frame ∈ state.ctx.txToLora.head? := Option.mem_toList.mp hemitted
        exact Or.inl (Or.inl (List.mem_of_mem_head? htaken))
    | _ => cases hemitted

variable [DecidableEq ι]

/-- In a step of the run node `i` builds the frame, its context being `ctx` at that moment. -/
def BuiltBy (env : Env) (net : Network ι (MeshState S) RadioFrame)
    (events : List (Network.Event ι MeshState.Event RadioMetadata)) (i : ι) (ctx : MeshCtx S)
    (built : RadioFrame) : Prop :=
  ctx.Builds env built ∧
  ∃ t ∈ Transition.trace (Network.step (node env)) net events, ∃ own,
    Network.move (node env) t.before t.event = some (i, own) ∧
    Pieces env (t.before.stations i).ctx ctx ∧
    Pieces env ctx (MeshState.handled env (t.before.stations i) own)

def FromOutside (env : Env) (net : Network ι (MeshState S) RadioFrame)
    (events : List (Network.Event ι MeshState.Event RadioMetadata)) (frame : RadioFrame) : Prop :=
  ∃ t ∈ Transition.trace (Network.step (node env)) net events, ∃ i metadata,
    t.event = .own i (.mesh (.loraRx frame metadata))

theorem BuiltBy.myNodeNum_eq {num : ι → UInt32} {net : Network ι (MeshState S) RadioFrame}
    {events : List (Network.Event ι MeshState.Event RadioMetadata)} {i : ι} {ctx : MeshCtx S}
    {built : RadioFrame} (h : BuiltBy env net events i ctx built)
    (hnumbered : ∀ i, (net.stations i).IsNumbered (num i)) : ctx.device.myNodeNum = num i := by
  obtain ⟨-, t, ht, own, -, hbefore, -⟩ := h
  obtain ⟨sent, hsends⟩ := hbefore.sends
  rw [hsends.myNodeNum_eq]
  exact (Network.forall_inv_trace (isNumbered_step num) hnumbered events t ht i).myNodeNum_eq

theorem BuiltBy.signed {num : ι → UInt32} {net : Network ι (MeshState S) RadioFrame}
    {events : List (Network.Event ι MeshState.Event RadioMetadata)} {i : ι} {ctx : MeshCtx S}
    {built : RadioFrame} (h : BuiltBy env net events i ctx built)
    (hnumbered : ∀ i, (net.stations i).IsNumbered (num i)) :
    built.header.map PacketHeader.sender = some (num i) := by
  obtain ⟨tx, packetId, pkcKeys, hbuild⟩ := h.1
  obtain ⟨-, -, hheader, -⟩ := TxBuilder.build_eq_some hbuild
  rw [hheader, Option.map_some, ← h.myNodeNum_eq hnumbered]
  rfl

def RelayedBy (env : Env) (num : ι → UInt32) (net : Network ι (MeshState S) RadioFrame)
    (events : List (Network.Event ι MeshState.Event RadioMetadata)) (i : ι)
    (heard relay : RadioFrame) : Prop :=
  RadioFrame.IsRelayOf (num i) heard relay ∧ Network.HeardIn (node env) net events i heard

theorem fromOutside_of_heard {net : Network ι (MeshState S) RadioFrame}
    {events : List (Network.Event ι MeshState.Event RadioMetadata)}
    {t : Step (Network ι (MeshState S) RadioFrame)
      (Network.Event ι MeshState.Event RadioMetadata)}
    (ht : t ∈ Transition.trace (Network.step (node env)) net events) {i : ι}
    {own : MeshState.Event} (hevent : t.event = .own i own) {frame : RadioFrame}
    (hheard : (node env : Station (MeshState S) _ _ _).heard own = some frame) :
    FromOutside env net events frame := by
  cases own with
  | mesh mesh =>
      cases mesh with
      | loraRx heard metadata =>
          obtain rfl : heard = frame := Option.some.inj hheard
          exact ⟨t, ht, i, metadata, hevent⟩
      | _ => cases hheard
  | _ => cases hheard

theorem of_enters {net : Network ι (MeshState S) RadioFrame}
    {events : List (Network.Event ι MeshState.Event RadioMetadata)} {origin : RadioFrame}
    {t : Step (Network ι (MeshState S) RadioFrame)
      (Network.Event ι MeshState.Event RadioMetadata)}
    (ht : t ∈ Transition.trace (Network.step (node env)) net events)
    (henters : Network.Enters (node env) (MeshState.Makes env) t.before t.event origin) :
    FromOutside env net events origin ∨
      ∃ i ctx built, BuiltBy env net events i ctx built ∧ origin.Repeats built := by
  obtain ⟨before, event, after⟩ := t
  dsimp only at henters
  cases henters with
  | made hmove hmakes =>
      rename_i i own
      obtain ⟨built, ⟨ctx, hbefore, hafter, hbuilds⟩, hrepeats⟩ := hmakes
      exact Or.inr ⟨i, ctx, built, ⟨hbuilds, _, ht, own, hmove, hbefore, hafter⟩, hrepeats⟩
  | outside hheard => exact Or.inl (fromOutside_of_heard ht rfl hheard)

section Boot

variable (mac : ι → Bytes) (storage : ι → S) (pkcKeypair : ι → Key × Key)
  (entropy : ι → Nat → UInt32)

omit [DecidableEq ι] in
theorem isNumbered_boot (i : ι) :
    ((MeshNetwork.boot env mac storage pkcKeypair entropy).stations i).IsNumbered
      (DeviceState.nodeNumOfMac (mac i)) :=
  MeshState.isNumbered_boot (mac i) (storage i) (pkcKeypair i) (entropy i)

/-- Every frame on the air came, over nodes that heard and relayed it in turn, from outside or
from a node that built it or repeats what it built. -/
theorem traced_run (events : List (Network.Event ι MeshState.Event RadioMetadata))
    {frame : RadioFrame} (hframe : frame ∈ (Transition.run (Network.step (node env))
      (MeshNetwork.boot env mac storage pkcKeypair entropy) events).medium) :
    let net := MeshNetwork.boot env mac storage pkcKeypair entropy
    ∃ origin path,
      (FromOutside env net events origin ∨
        ∃ i ctx built, BuiltBy env net events i ctx built ∧ origin.Repeats built) ∧
      Network.Along (RelayedBy env (fun i => DeviceState.nodeNumOfMac (mac i)) net events)
        origin path frame := by
  intro net
  have hnothing : Network.TracedTo MeshState.Carries (fun _ _ _ => False) (fun _ => False) net := by
    rintro other (hmedium | ⟨i, hcarries⟩)
    · cases hmedium
    · rcases hcarries with hqueued | ⟨entry, hentry, -⟩ | ⟨waiting, hwaiting, -⟩
      · cases hqueued
      · cases hentry
      · cases hwaiting
  obtain ⟨origin, path, hknown | ⟨t, ht, henters⟩, halong⟩ :=
    hnothing.run (passesOn_node fun i => DeviceState.nodeNumOfMac (mac i))
      (isNumbered_step fun i => DeviceState.nodeNumOfMac (mac i))
      (isNumbered_boot mac storage pkcKeypair entropy) events frame (Or.inl hframe)
  · exact hknown.elim
  · exact ⟨origin, path, of_enters ht henters,
      halong.mono fun _ _ _ hrelayed => hrelayed.resolve_left not_false⟩

end Boot

/-- The provenance of a frame: up to at most seven relays, each by a node that had heard it, it
is a frame from outside or one that a node built and signed, or a repetition of that. -/
structure Provenance (env : Env) (num : ι → UInt32) (net : Network ι (MeshState S) RadioFrame)
    (events : List (Network.Event ι MeshState.Event RadioMetadata)) (frame origin : RadioFrame)
    (path : List ι) : Prop where
  relayed : Network.Along (RelayedBy env num net events) origin path frame
  copy : RadioFrame.IsCopyOf num origin path frame
  length_le : path.length ≤ 7
  source : FromOutside env net events origin ∨
    ∃ i ctx built, BuiltBy env net events i ctx built ∧ origin.Repeats built ∧
      built.header.map PacketHeader.sender = some (num i)

/-- Every frame on the air has a provenance, in any run of any network. -/
theorem provenance_run (mac : ι → Bytes) (storage : ι → S) (pkcKeypair : ι → Key × Key)
    (entropy : ι → Nat → UInt32) (events : List (Network.Event ι MeshState.Event RadioMetadata)) :
    ∀ frame ∈ (Transition.run (Network.step (node env))
        (MeshNetwork.boot env mac storage pkcKeypair entropy) events).medium,
      ∃ origin path, Provenance env (fun i => DeviceState.nodeNumOfMac (mac i))
        (MeshNetwork.boot env mac storage pkcKeypair entropy) events frame origin path := by
  intro frame hframe
  obtain ⟨origin, path, hsource, halong⟩ :=
    traced_run mac storage pkcKeypair entropy events hframe
  have hcopy := RadioFrame.IsCopyOf.of_along (halong.mono fun _ _ _ => And.left)
  refine ⟨origin, path, halong, hcopy, ?_, ?_⟩
  · have hhops := hcopy.hops_eq
    have hlimit := origin.hopsLeft_lt
    omega
  · refine hsource.imp_right ?_
    rintro ⟨i, ctx, built, hbuilt, hrepeats⟩
    exact ⟨i, ctx, built, hbuilt, hrepeats,
      hbuilt.signed (isNumbered_boot mac storage pkcKeypair entropy)⟩

/-! ### Two nodes -/

/-- The recorded keystreams and that of the first frame of node `0x28abcdef`. -/
def answers : KnownAnswers :=
  { KnownAnswers.defaultKey with
    aesCtr := KnownAnswers.defaultKey.aesCtr ++
      [(DEFAULT_PSK, buildNonce 0x28abcdf0 0x28abcdef,
        [0xc2, 0x4f, 0x9d, 0x63, 0xc5, 0xfc, 0x77, 0x76, 0x79, 0x24, 0x7d, 0x71, 0xbe, 0xcf, 0x1e,
         0xe6, 0xeb, 0xeb, 0x5b, 0x0c, 0xa9, 0xcf, 0x60, 0x8e, 0xb4, 0xca, 0x03, 0x60, 0x3d, 0x86,
         0xac, 0xac, 0x8b, 0xa2, 0xdf, 0x80, 0x74, 0x1b, 0x6f, 0x84, 0x56, 0x56, 0x3d, 0xc2, 0xdc,
         0x3e, 0x25, 0x15, 0xc0, 0x93, 0x65, 0xc9, 0xa9, 0x45, 0xf7, 0x87, 0x7a, 0xcc, 0x42, 0x42,
         0x5f, 0x9f, 0x45, 0xa2])] }

/-- The MAC addresses of two nodes, `0x28123456` and `0x28abcdef`. -/
def macOf : Bool → Bytes
  | true => KnownAnswers.mac
  | false => [0x24, 0x6f, 0x28, 0xab, 0xcd, 0xef]

def twoNodes : Network Bool (MeshState FakeStorage) RadioFrame :=
  MeshNetwork.boot answers.env macOf (fun _ => {}) (fun _ => KnownAnswers.noKeypair)
    (fun _ => KnownAnswers.noEntropy)

/-- Both nodes introduce themselves, and the second relays what the first says. -/
def introductions : List (Network.Event Bool MeshState.Event RadioMetadata) :=
  [.own true .announce, .own true .loraTaken, .own false .announce, .own false .loraTaken,
    .hear false 0 ⟨0, 0⟩, .own false (.elapse 60000), .own false .rebroadcastDue,
    .own false .loraTaken]

/-- The relay of the first introduction. -/
def relayedIntroduction : RadioFrame :=
  ((Transition.run (Network.step (node answers.env)) twoNodes introductions).medium.getLast?).getD
    foreignFrame

theorem mem_relayedIntroduction : relayedIntroduction ∈
    (Transition.run (Network.step (node answers.env)) twoNodes introductions).medium := by
  decide +kernel

theorem relayedIntroduction_provenance :
    relayedIntroduction.header.map PacketHeader.hopLimit = some 2 ∧
    ∃ origin path, Provenance answers.env (fun i => DeviceState.nodeNumOfMac (macOf i)) twoNodes
      introductions relayedIntroduction origin path :=
  ⟨by decide +kernel, @provenance_run FakeStorage _ answers.env Bool _ macOf (fun _ => {})
    (fun _ => KnownAnswers.noKeypair) (fun _ => KnownAnswers.noEntropy) introductions
    relayedIntroduction mem_relayedIntroduction⟩

end MeshNetwork

end Meshtastenstein
