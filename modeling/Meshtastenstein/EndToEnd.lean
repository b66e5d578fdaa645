import Meshtastenstein.Encryption
import Meshtastenstein.MeshNetwork
/-!
# From the sender to any listener

Decryption looks at the payload of a frame and at the parts of its header that relays leave
alone.  So in a network that nobody outside speaks into, whatever a node hears over any chain
of relays and retransmissions reads as the frame did when its sender built it.
-/

namespace Meshtastenstein

open Lib Proto Handlers

variable {S : Type} {env : Env}

/-! ## What decryption looks at -/

namespace Handlers.FromRadio

theorem tryDecryptAndDecode_congr {frame frame' : RadioFrame} {header header' : PacketHeader}
    (hpayload : frame.payload = frame'.payload) (hcontent : header.content = header'.content)
    (device : DeviceState) (db : NodeDb) (pkcPriv : Key) :
    tryDecryptAndDecode env frame header device db pkcPriv =
      tryDecryptAndDecode env frame' header' device db pkcPriv := by
  simp only [PacketHeader.content, Prod.mk.injEq] at hcontent
  obtain ⟨hdestination, hsender, hid, hchannel, -⟩ := hcontent
  have hmatched : matchedChannel device header = matchedChannel device header' := by
    unfold matchedChannel
    rw [hchannel]
  have hkey : senderPubKey frame header device db pkcPriv =
      senderPubKey frame' header' device db pkcPriv := by
    unfold senderPubKey isPkcCandidate
    rw [hpayload, hchannel, hdestination, hsender]
  have hpkc : pkcPlaintext env frame header device db pkcPriv =
      pkcPlaintext env frame' header' device db pkcPriv := by
    unfold pkcPlaintext
    rw [hkey, hpayload, hid, hsender]
  have hpsk : pskPlaintext env frame header device = pskPlaintext env frame' header' device := by
    unfold pskPlaintext
    rw [hmatched, hpayload, hid, hsender]
  have hundecoded : ∀ key, finalUndecodedOutcome header device key =
      finalUndecodedOutcome header' device key := by
    intro key
    unfold finalUndecodedOutcome
    rw [hchannel, hdestination]
  have hlegacy : ∀ data pkc, isLegacyDm header device data pkc =
      isLegacyDm header' device data pkc := by
    intro data pkc
    unfold isLegacyDm
    rw [hdestination]
  unfold tryDecryptAndDecode
  simp only [hmatched, hkey, hpkc, hpsk, hundecoded, hlegacy]

end Handlers.FromRadio

theorem RadioFrame.Repeats.content_eq {frame original : RadioFrame} (h : frame.Repeats original) :
    frame.header.map PacketHeader.content = original.header.map PacketHeader.content := by
  have hcontent := congrArg (Option.map PacketHeader.content) h.header_eq
  rw [Option.map_map, Option.map_map] at hcontent
  exact hcontent

/-! ## What listeners read -/

/-- Whoever has a link with the sender, which built the frame of `tx` in the context `ctx`,
reads the message out of `frame`; a text to it alone only when it came under PKC. -/
structure ReadsAs (env : Env) (ctx : MeshCtx S) (tx : TxBuilder) (packetId : UInt32)
    (pkcKeys : Option (Key × UInt32)) (frame : RadioFrame) (header : PacketHeader) : Prop where
  psk : pkcKeys = none → ∀ device db pkcPriv channelA channelB,
    PskLink env tx ctx.device device db pkcPriv packetId channelA channelB →
    FromRadio.tryDecryptAndDecode env frame header device db pkcPriv =
      if tx.portnum = PortNum.textMessageApp.toI32 ∧ tx.dest = device.myNodeNum then .drop
      else decodedTx tx channelB.index
  pkc : ∀ privBytes extraNonce, pkcKeys = some (privBytes, extraNonce) → ∀ device db pkcPriv,
    PkcLink env tx ctx.device device ctx.nodeDb db privBytes pkcPriv →
    ∃ channelIndex, FromRadio.tryDecryptAndDecode env frame header device db pkcPriv =
      decodedTx tx channelIndex

theorem readsAs_of_build {ctx : MeshCtx S} {tx : TxBuilder} {packetId : UInt32}
    {pkcKeys : Option (Key × UInt32)} {built frame : RadioFrame}
    (hempty : env.prost.data.decode [] = some {})
    (hround : env.prost.data.RoundTrips (tx.data ctx.device))
    (hbuild : tx.build env ctx.device ctx.router ctx.nodeDb packetId pkcKeys = some built)
    (hpayload : frame.payload = built.payload)
    (hcontent : frame.header.map PacketHeader.content = built.header.map PacketHeader.content) :
    ∃ header, frame.header = some header ∧ ReadsAs env ctx tx packetId pkcKeys frame header := by
  obtain ⟨-, -, hheader, -⟩ := TxBuilder.build_eq_some hbuild
  rw [hheader, Option.map_some] at hcontent
  obtain ⟨header, hframe, hsame⟩ := Option.map_eq_some_iff.mp hcontent
  refine ⟨header, hframe, ?_, ?_⟩
  · rintro rfl device db pkcPriv channelA channelB link
    rw [FromRadio.tryDecryptAndDecode_congr hpayload hsame]
    exact link.tryDecryptAndDecode_eq hround hbuild
  · rintro privBytes extraNonce rfl device db pkcPriv link
    rw [FromRadio.tryDecryptAndDecode_congr hpayload hsame]
    exact link.tryDecryptAndDecode_eq hempty hround hbuild

namespace MeshNetwork

variable [MeshStorage S] {ι : Type} [DecidableEq ι]

/-- Nobody outside the network speaks into it. -/
def Closed (events : List (Network.Event ι MeshState.Event RadioMetadata)) : Prop :=
  ∀ i frame metadata, Network.Event.own i (.mesh (.loraRx frame metadata)) ∉ events

theorem Closed.not_fromOutside {net : Network ι (MeshState S) RadioFrame}
    {events : List (Network.Event ι MeshState.Event RadioMetadata)} (h : Closed events)
    (frame : RadioFrame) : ¬ FromOutside env net events frame := by
  rintro ⟨t, ht, i, metadata, hevent⟩
  have hmem := Transition.event_mem_of_mem_trace ht
  rw [hevent] at hmem
  exact h i frame metadata hmem

/-- In a closed network every frame on the air was built by one of the nodes, which signed it,
and reads as that node built it wherever it is heard. -/
theorem heard_as_built (hempty : env.prost.data.decode [] = some {}) (mac : ι → Bytes)
    (storage : ι → S) (pkcKeypair : ι → Key × Key) (entropy : ι → Nat → UInt32)
    (events : List (Network.Event ι MeshState.Event RadioMetadata)) (hclosed : Closed events) :
    ∀ frame ∈ (Transition.run (Network.step (node env))
        (MeshNetwork.boot env mac storage pkcKeypair entropy) events).medium,
      ∃ i ctx tx packetId pkcKeys built,
        BuiltBy env (MeshNetwork.boot env mac storage pkcKeypair entropy) events i ctx built ∧
        tx.build env ctx.device ctx.router ctx.nodeDb packetId pkcKeys = some built ∧
        frame.header.map PacketHeader.sender = some (DeviceState.nodeNumOfMac (mac i)) ∧
        (env.prost.data.RoundTrips (tx.data ctx.device) →
          ∃ header, frame.header = some header ∧
            ReadsAs env ctx tx packetId pkcKeys frame header) := by
  intro frame hframe
  obtain ⟨origin, path, hsource, halong⟩ :=
    traced_run mac storage pkcKeypair entropy events hframe
  have hcopy := RadioFrame.IsCopyOf.of_along (halong.mono fun _ _ _ => And.left)
  obtain ⟨i, ctx, built, hbuilt, hrepeats⟩ :=
    hsource.resolve_left (hclosed.not_fromOutside origin)
  have hsigned := hbuilt.signed (isNumbered_boot mac storage pkcKeypair entropy)
  obtain ⟨tx, packetId, pkcKeys, hbuild⟩ := hbuilt.1
  have hpayload : frame.payload = built.payload := hcopy.payload_eq.trans hrepeats.payload_eq
  have hcontent : frame.header.map PacketHeader.content =
      built.header.map PacketHeader.content := hcopy.content_eq.trans hrepeats.content_eq
  refine ⟨i, ctx, tx, packetId, pkcKeys, built, hbuilt, hbuild, ?_, fun hround =>
    readsAs_of_build hempty hround hbuild hpayload hcontent⟩
  have hsender := congrArg (Option.map fun content => content.2.1) hcontent
  rw [Option.map_map, Option.map_map] at hsender
  exact hsender.trans hsigned

/-- The relayed introduction reads as its sender built it. -/
theorem relayedIntroduction_heard :
    ∃ i ctx tx packetId pkcKeys built,
      BuiltBy answers.env twoNodes introductions i ctx built ∧
      tx.build answers.env ctx.device ctx.router ctx.nodeDb packetId pkcKeys = some built ∧
      relayedIntroduction.header.map PacketHeader.sender =
        some (DeviceState.nodeNumOfMac (macOf i)) ∧
      (answers.env.prost.data.RoundTrips (tx.data ctx.device) →
        ∃ header, relayedIntroduction.header = some header ∧
          ReadsAs answers.env ctx tx packetId pkcKeys relayedIntroduction header) := by
  refine @heard_as_built FakeStorage answers.env _ Bool _ (by decide) macOf (fun _ => {})
    (fun _ => KnownAnswers.noKeypair) (fun _ => KnownAnswers.noEntropy) introductions ?_
    relayedIntroduction mem_relayedIntroduction
  intro i frame metadata hmem
  simp [introductions] at hmem

end MeshNetwork

end Meshtastenstein
