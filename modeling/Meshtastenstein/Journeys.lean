import Meshtastenstein.HeardNotes
import Meshtastenstein.LoraSettings
import Meshtastenstein.MeshNetwork
/-!
# Journeys

Every node that a frame visits leaves its trace in the header: the sender its number, and each
relay a hop and its last byte.  So a header tells how far its sender is and which node sent it
last, and the node database notes the same, over restarts, for what was built in the network.
-/

namespace Meshtastenstein

open Lib Lib.NorFlash Lib.WorkingFlash Proto Handlers

variable {ι : Type} {num : ι → UInt32}

/-! ## What a header tells -/

structure PacketHeader.Tells (num : ι → UInt32) (i : ι) (path : List ι) (header : PacketHeader) :
    Prop where
  sender_eq : header.sender = num i
  hops_eq : header.hopLimit.toNat + path.length = header.hopStart.toNat
  relayNode_eq : header.relayNode = lastByte (num (path.getLast?.getD i))

namespace PacketHeader

variable {i j : ι} {path : List ι} {header header' : PacketHeader}

theorem flags_makeFlags {limit : UInt8} (h : limit ≤ MAX_HOP_LIMIT) (wantAck viaMqtt : Bool) :
    makeFlags wantAck viaMqtt limit limit &&& 0x07 = limit ∧
      (makeFlags wantAck viaMqtt limit limit >>> 5) &&& 0x07 = limit := by
  have hall : ∀ n < 8, ∀ wantAck viaMqtt,
      makeFlags wantAck viaMqtt (UInt8.ofNat n) (UInt8.ofNat n) &&& 0x07 = UInt8.ofNat n ∧
        (makeFlags wantAck viaMqtt (UInt8.ofNat n) (UInt8.ofNat n) >>> 5) &&& 0x07 =
          UInt8.ofNat n := by decide
  have hlimit := hall limit.toNat (Nat.lt_succ_of_le (UInt8.le_iff_toNat_le.mp h)) wantAck viaMqtt
  rwa [UInt8.ofNat_toNat] at hlimit

/-- A frame starts out with all its hops, sent by the node that built it. -/
theorem tells_build {tx : TxBuilder} {device : DeviceState} {router : MeshRouter}
    {db : NodeDb} {packetId : UInt32} {pkcKeys : Option (Key × UInt32)}
    (h : device.myNodeNum = num i) :
    (tx.header device router db packetId pkcKeys).Tells num i [] := by
  have hle : min (tx.hopLimit.getD device.hopLimit) MAX_HOP_LIMIT ≤ MAX_HOP_LIMIT :=
    Admin.min_maxHopLimit_le _
  obtain ⟨hlimit, hstart⟩ := flags_makeFlags hle (tx.wantAck && !(tx.dest == BROADCAST_ADDR)) false
  refine ⟨h, ?_, congrArg lastByte h⟩
  calc
    (tx.header device router db packetId pkcKeys).hopLimit.toNat + 0 =
        (min (tx.hopLimit.getD device.hopLimit) MAX_HOP_LIMIT).toNat := congrArg UInt8.toNat hlimit
    _ = (tx.header device router db packetId pkcKeys).hopStart.toNat :=
      (congrArg UInt8.toNat hstart).symm

theorem Tells.relayed (h : header.Tells num i path) (hrelay : IsRelayOf (num j) header header') :
    header'.Tells num i (path ++ [j]) where
  sender_eq := hrelay.sender_eq.trans h.sender_eq
  hops_eq := by
    have hlimit := hrelay.hopLimit_eq
    have hhops := h.hops_eq
    rw [hrelay.hopStart_eq, List.length_append, List.length_singleton]
    omega
  relayNode_eq := by
    rw [hrelay.relayNode_eq, List.getLast?_append, List.getLast?_singleton, Option.some_or,
      Option.getD_some]

theorem Tells.of_nextHop (h : header.Tells num i path)
    (hsame : { header' with nextHop := NO_NEXT_HOP } = { header with nextHop := NO_NEXT_HOP }) :
    header'.Tells num i path := by
  have hsender := congrArg sender hsame
  have hflags := congrArg flags hsame
  have hrelayNode := congrArg relayNode hsame
  dsimp only at hsender hflags hrelayNode
  refine ⟨hsender.trans h.sender_eq, ?_, hrelayNode.trans h.relayNode_eq⟩
  unfold hopLimit hopStart
  rw [hflags]
  exact h.hops_eq

theorem Tells.hopsAway_eq (h : header.Tells num i path) {hops : UInt8}
    (hnoted : FromRadio.hopsAway header = some hops) : hops.toNat = path.length := by
  have hhops := h.hops_eq
  unfold FromRadio.hopsAway at hnoted
  split at hnoted
  · rename_i hstart
    rw [← Option.some.inj hnoted, UInt8.toNat_sub_of_le _ _ hstart.2]
    omega
  · cases hnoted

end PacketHeader

namespace MeshNetwork

variable [DecidableEq ι]

section Boards

variable {S : Type} [MeshStorage S] {env : Env} {net : Network ι (MeshState S) RadioFrame}
  {events : List (Network.Event ι MeshState.Event RadioMetadata)} {i : ι} {path : List ι}
  {frame origin : RadioFrame}

/-! ## Ways of a frame -/

def Journey (env : Env) (num : ι → UInt32) (net : Network ι (MeshState S) RadioFrame)
    (events : List (Network.Event ι MeshState.Event RadioMetadata)) (i : ι) (path : List ι)
    (frame : RadioFrame) : Prop :=
  ∃ ctx built origin, BuiltBy env net events i ctx built ∧ origin.Repeats built ∧
    Network.Along (RelayedBy env num net events) origin path frame

def Foreign (env : Env) (num : ι → UInt32) (net : Network ι (MeshState S) RadioFrame)
    (events : List (Network.Event ι MeshState.Event RadioMetadata)) (frame : RadioFrame) : Prop :=
  ∃ origin path, FromOutside env net events origin ∧
    Network.Along (RelayedBy env num net events) origin path frame

omit [DecidableEq ι] in
theorem tells_of_along
    (h : Network.Along (fun j => RadioFrame.IsRelayOf (num j)) origin path frame)
    (horigin : ∀ header, origin.header = some header → header.Tells num i []) :
    ∀ header, frame.header = some header → header.Tells num i path := by
  induction h with
  | source => exact horigin
  | passed _ hpass ih =>
      intro header hheader
      obtain ⟨first, second, hfirst, hsecond, hrelay⟩ := hpass.headers
      obtain rfl := Option.some.inj (hheader.symm.trans hsecond)
      exact (ih first hfirst).relayed hrelay

theorem Journey.tells (h : Journey env num net events i path frame)
    (hnumbered : ∀ i, (net.stations i).IsNumbered (num i)) :
    ∀ header, frame.header = some header → header.Tells num i path := by
  obtain ⟨ctx, built, origin, hbuilt, hrepeats, halong⟩ := h
  refine tells_of_along (halong.mono fun _ _ _ => And.left) ?_
  intro header hheader
  have hnum := hbuilt.myNodeNum_eq hnumbered
  obtain ⟨tx, packetId, pkcKeys, hbuild⟩ := hbuilt.1
  obtain ⟨-, -, hfirst, -⟩ := TxBuilder.build_eq_some hbuild
  have hsame := hrepeats.header_eq
  rw [hheader, hfirst, Option.map_some, Option.map_some] at hsame
  exact (PacketHeader.tells_build hnum).of_nextHop (Option.some.inj hsame)

theorem foreign_or_journey (mac : ι → Bytes) (storage : ι → S) (pkcKeypair : ι → Key × Key)
    (entropy : ι → Nat → UInt32) {events : List (Network.Event ι MeshState.Event RadioMetadata)}
    {i : ι} {frame : RadioFrame}
    (h : Network.HeardIn (node env) (MeshNetwork.boot env mac storage pkcKeypair entropy) events i
      frame) :
    let net := MeshNetwork.boot env mac storage pkcKeypair entropy
    let num := fun i => DeviceState.nodeNumOfMac (mac i)
    Foreign env num net events frame ∨ ∃ j path, Journey env num net events j path frame := by
  rcases h.cases with ⟨t, ht, own, hevent, hheard⟩ | hmedium
  · exact Or.inl ⟨frame, [], fromOutside_of_heard ht hevent hheard, .source⟩
  · obtain ⟨origin, path, hsource, halong⟩ :=
      traced_run mac storage pkcKeypair entropy events hmedium
    refine hsource.imp (fun houtside => ⟨origin, path, houtside, halong⟩) ?_
    rintro ⟨j, ctx, built, hbuilt, hrepeats⟩
    exact ⟨j, path, ctx, built, origin, hbuilt, hrepeats, halong⟩

/-! ## What is noted of a journey -/

/-- A frame accounts for a note of node `i`: the node heard it from the node of that number, its
header shows what is noted, and if it was built in the network, its journey was so. -/
def Accounted (env : Env) (num : ι → UInt32) (net : Network ι (MeshState S) RadioFrame)
    (events : List (Network.Event ι MeshState.Event RadioMetadata)) (i : ι) (nodeNum : UInt32)
    (shown : PacketHeader → Prop) (journey : ι → List ι → Prop) : Prop :=
  ∃ frame header, Network.HeardIn (node env) net events i frame ∧ frame.header = some header ∧
    header.sender = nodeNum ∧ shown header ∧
    (Foreign env num net events frame ∨
      ∃ j path, Journey env num net events j path frame ∧ num j = nodeNum ∧ journey j path)

end Boards

variable {medium : Medium} {F : Type} [WorkingFlash medium F] {partition : Partition F} {env : Env}

/-- What a network of nodes on flashes that work has on record of distances and ways is what
happened: the hops away are the relays that a frame took, and the next hop is the node that sent
it last.  So it stays over any interleaving, with restarts and factory resets. -/
theorem notes_run (mac : ι → Bytes) (storage : ι → partition.Storage) (pkcKeypair : ι → Key × Key)
    (entropy : ι → Nat → UInt32)
    (hblank : ∀ i db, (storage i).loadNodeDb db = db)
    (events : List (Network.Event ι MeshState.Event RadioMetadata))
    (hsized : ∀ i mesh, .own i (.mesh mesh) ∈ events → mesh.Sized) (i : ι) :
    let net := MeshNetwork.boot env mac storage pkcKeypair entropy
    let num := fun i => DeviceState.nodeNumOfMac (mac i)
    ∀ entry ∈ ((Transition.run (Network.step (node env)) net events).stations
        i).ctx.nodeDb.nodes.toList,
      (∀ hops, entry.hopsAway = some hops →
        Accounted env num net events i entry.nodeNum
          (fun header => FromRadio.hopsAway header = some hops)
          fun _ path => path.length = hops.toNat) ∧
      (entry.nextHop ≠ NO_NEXT_HOP →
        Accounted env num net events i entry.nodeNum
          (fun header => entry.nextHop = learnedHop header.sender header.relayNode)
          fun j path => entry.nextHop =
            learnedHop (num j) (lastByte (num (path.getLast?.getD j)))) := by
  intro net num
  let heard : PacketHeader → Prop := fun header =>
    ∃ frame, Network.HeardIn (node env) net events i frame ∧ frame.header = some header
  have hkeeps : MeshState.Keeps (NodeEntry.Noted heard)
      ((Transition.run (Network.step (node env)) net events).stations i) := by
    rw [Network.stations_run]
    have hblankStored : (storage i).records.Stores (NodeEntry.Noted heard) := by
      intro db hdb
      rw [← NvsStorage.loadNodeDb_eq, hblank i db]
      exact hdb
    refine @Transition.invariant_run _ _ (MeshState.step env)
      (MeshState.Keeps (NodeEntry.Noted heard))
      (fun _ event => (∀ mesh, event = .mesh mesh → mesh.Sized) ∧ event.HeardAs heard)
      (fun _ _ hstate hok => hstate.noted_step hok.1 hok.2) _ _
      (MeshState.keeps_boot hblankStored (mac i) (pkcKeypair i) (entropy i)) ?_
    refine @Network.always_eventsOver _ _ _ _ _ (node env) _ _ _ _ _
      fun t ht own hmove => ⟨?_, ?_⟩
    · rintro mesh rfl
      rcases Network.move_cases hmove with hevent | ⟨frame, -, how, hhears⟩
      · exact hsized i mesh (hevent ▸ Transition.event_mem_of_mem_trace ht)
      · rintro bytes rfl
        cases hhears
    · rintro frame metadata header rfl hheader
      exact ⟨frame, ⟨t, ht, _, hmove, rfl⟩, hheader⟩
  have hnumbered := @isNumbered_boot _ _ env _ mac storage pkcKeypair entropy
  have haccounted : ∀ header nodeNum, heard header → header.sender = nodeNum →
      ∀ (shown : PacketHeader → Prop) (journey : ι → List ι → Prop), shown header →
      (∀ j path, header.Tells num j path → journey j path) →
      Accounted env num net events i nodeNum shown journey := by
    rintro header nodeNum ⟨frame, hheard, hheader⟩ hsender shown journey hshown hjourney
    refine ⟨frame, header, hheard, hheader, hsender, hshown, ?_⟩
    refine (foreign_or_journey mac storage pkcKeypair entropy hheard).imp_right ?_
    rintro ⟨j, path, htravelled⟩
    have htells := htravelled.tells hnumbered header hheader
    exact ⟨j, path, htravelled, htells.sender_eq.symm.trans hsender, hjourney j path htells⟩
  intro entry hentry
  have hnoted := hkeeps.known entry hentry
  refine ⟨fun hops hhops => ?_, fun hroute => ?_⟩
  · obtain ⟨header, hheard, hsender, haway⟩ := hnoted.hops hops hhops
    exact haccounted header entry.nodeNum hheard hsender _ _ haway
      fun j path htells => (htells.hopsAway_eq haway).symm
  · obtain ⟨header, hheard, hsender, hlearned⟩ := hnoted.route hroute
    refine haccounted header entry.nodeNum hheard hsender _ _ hlearned fun j path htells => ?_
    rw [hlearned, htells.sender_eq, htells.relayNode_eq]

/-! ### Three nodes in a line -/

def blankBoard : (@wholeFlash Medium.nor).Storage :=
  NvsStorage.opened wholeFlash NvsStorage.blankImage

theorem loadNodeDb_blankBoard (db : NodeDb) : blankBoard.loadNodeDb db = db := by
  have hsnapshot : blankBoard.loadSector NODEDB_SECTOR SNAPSHOT_BYTES =
      some (List.replicate SNAPSHOT_BYTES 0xff) := by decide +kernel
  unfold NvsStorage.loadNodeDb
  rw [hsnapshot]
  exact restoreSnapshot_erased db

/-- The MAC addresses of the nodes `0x28123456`, `0x28abcdef` and `0x28112233`. -/
def macOnLine : Fin 3 → Bytes
  | 0 => macOf true
  | 1 => macOf false
  | 2 => [0x24, 0x6f, 0x28, 0x11, 0x22, 0x33]

def line : Network (Fin 3) (MeshState (@wholeFlash Medium.nor).Storage) RadioFrame :=
  MeshNetwork.boot answers.env macOnLine (fun _ => blankBoard) (fun _ => KnownAnswers.noKeypair)
    (fun _ => KnownAnswers.noEntropy)

/-- The introduction of the first node reaches the third over the second; the third saves what
it knows, and loses its power. -/
def farIntroduction : List (Network.Event (Fin 3) MeshState.Event RadioMetadata) :=
  [.own 0 .announce, .own 0 .loraTaken, .own 1 .announce, .own 1 .loraTaken, .own 2 .announce,
    .hear 1 0 ⟨0, 0⟩, .own 1 (.elapse 60000), .own 1 .rebroadcastDue, .own 1 .loraTaken,
    .hear 2 2 ⟨0, 0⟩, .own 2 (.elapse 300000), .own 2 (.mesh .bleConnected), .own 2 .powerCycle]

theorem farIntroduction_noted :
    (((Transition.run (Network.step (node answers.env)) line farIntroduction).stations
        2).ctx.nodeDb.get 0x28123456).bind (·.hopsAway) = some 1 ∧
    ∀ entry ∈ ((Transition.run (Network.step (node answers.env)) line farIntroduction).stations
        2).ctx.nodeDb.nodes.toList,
      (∀ hops, entry.hopsAway = some hops →
        Accounted answers.env (fun i => DeviceState.nodeNumOfMac (macOnLine i)) line
          farIntroduction 2 entry.nodeNum (fun header => FromRadio.hopsAway header = some hops)
          fun _ path => path.length = hops.toNat) ∧
      (entry.nextHop ≠ NO_NEXT_HOP →
        Accounted answers.env (fun i => DeviceState.nodeNumOfMac (macOnLine i)) line
          farIntroduction 2 entry.nodeNum
          (fun header => entry.nextHop = learnedHop header.sender header.relayNode)
          fun j path => entry.nextHop = learnedHop (DeviceState.nodeNumOfMac (macOnLine j))
            (lastByte (DeviceState.nodeNumOfMac (macOnLine (path.getLast?.getD j))))) := by
  refine ⟨by decide +kernel, ?_⟩
  unfold line
  refine @notes_run (Fin 3) _ Medium.nor _ _ wholeFlash answers.env macOnLine (fun _ => blankBoard)
    (fun _ => KnownAnswers.noKeypair) (fun _ => KnownAnswers.noEntropy)
    (fun _ => loadNodeDb_blankBoard) farIntroduction ?_ 2
  intro i mesh hmesh bytes hbytes
  subst hbytes
  simp [farIntroduction] at hmesh

end MeshNetwork

end Meshtastenstein
