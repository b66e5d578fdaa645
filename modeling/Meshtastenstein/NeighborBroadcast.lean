import Meshtastenstein.Acknowledgements
import Meshtastenstein.OnlineCount
/-!
# Neighbor broadcasts

A record of the nodes that were heard without a relay runs beside the node.  The list that is
broadcast is the whole database, so it is right exactly when all of it was heard directly, and
it goes out only while it fits a frame.
-/

namespace Meshtastenstein

open Lib Proto Handlers

variable {S : Type} {env : Env}

/-! ## The broadcast -/

namespace Handlers.Periodic

def neighborInfo (ctx : MeshCtx S) : NeighborInfo where
  nodeId := ctx.device.myNodeNum
  lastSentById := ctx.device.myNodeNum
  nodeBroadcastIntervalSecs := UInt32.ofNat (NEIGHBORINFO_BROADCAST_INTERVAL_MS / 1000)
  neighbors := neighbors ctx

def neighborinfoTx (env : Env) (ctx : MeshCtx S) : TxBuilder :=
  loraTx .neighborinfoApp (env.prost.neighborInfo.encode (neighborInfo ctx)) BROADCAST_ADDR false

def neighborinfoFrame (env : Env) (ctx : MeshCtx S) : Option RadioFrame :=
  (neighborinfoTx env ctx).build env ctx.takePacketId.device ctx.router ctx.nodeDb
    ctx.device.nextPacketId none

theorem txToLora_broadcastNeighborinfo {ctx : MeshCtx S} (hsome : neighbors ctx ≠ [])
    (hgate : txAllowedImpolite env ctx = true) :
    (broadcastNeighborinfo env ctx).txToLora =
      ctx.txToLora ++ (neighborinfoFrame env ctx).toList := by
  have hsend : (broadcastNeighborinfo env ctx).txToLora =
      (loraSend env ctx .neighborinfoApp (env.prost.neighborInfo.encode (neighborInfo ctx))
        BROADCAST_ADDR false).1.txToLora := by
    unfold broadcastNeighborinfo
    rw [if_neg (by simpa using hsome)]
    rfl
  have hbuild : (loraTx .neighborinfoApp (env.prost.neighborInfo.encode (neighborInfo ctx))
      BROADCAST_ADDR false).build env ctx.takePacketId.device ctx.takePacketId.router
        ctx.takePacketId.nodeDb ctx.device.nextPacketId none = neighborinfoFrame env ctx := rfl
  rw [hsend]
  unfold loraSend
  rw [if_pos hgate]
  dsimp only
  rw [hbuild]
  cases neighborinfoFrame env ctx with
  | some frame => rfl
  | none => exact (List.append_nil _).symm

theorem neighborinfoFrame_eq_none_iff {ctx : MeshCtx S} :
    neighborinfoFrame env ctx = none ↔
      (neighborinfoTx env ctx).TooLong env ctx.device ∨
        (neighborinfoTx env ctx).UnusableKey env ctx.device := by
  have hsettings : ctx.takePacketId.device.settings = ctx.device.settings := rfl
  rw [← FromRadio.buildable_congr hsettings]
  exact TxBuilder.build_psk_eq_none_iff

theorem mem_neighbors {ctx : MeshCtx S} {num : UInt32} :
    (∃ nb ∈ neighbors ctx, nb.nodeId = num) ↔
      num ∈ ctx.nodeDb.numbers ∧ num ≠ ctx.device.myNodeNum := by
  unfold neighbors NodeDb.numbers
  simp only [List.mem_map, List.mem_filter, bne_iff_ne]
  constructor
  · rintro ⟨_, ⟨entry, ⟨hentry, hother⟩, rfl⟩, rfl⟩
    exact ⟨⟨entry, hentry, rfl⟩, hother⟩
  · rintro ⟨⟨entry, hentry, rfl⟩, hother⟩
    exact ⟨_, ⟨entry, ⟨hentry, hother⟩, rfl⟩, rfl⟩

end Handlers.Periodic

/-! ## Where entries come from -/

def NodeDbEdit.creates : NodeDbEdit → Option UInt32
  | .touch nodeNum .. | .position nodeNum _ | .user nodeNum _ | .deviceMetrics nodeNum _
  | .learnRoute nodeNum _ => some nodeNum
  | .contact shared _ => some shared.nodeNum
  | _ => none

namespace NodeDb

variable {P : UInt32 → Prop} {db : NodeDb}

/-- What holds of the numbers of all entries holds after an edit, if it holds of the number that
the edit may add. -/
theorem forall_number_edit (h : db.Forall fun entry => P entry.nodeNum) {edit : NodeDbEdit}
    (hedit : ∀ num, edit.creates = some num → P num) :
    (edit.apply db).Forall fun entry => P entry.nodeNum := by
  cases edit with
  | touch nodeNum time snr nowMs =>
      exact h.touch time snr nowMs (fun _ => hedit nodeNum rfl) fun _ hentry => hentry
  | hopsAway nodeNum hops => exact h.modify nodeNum fun _ hentry => hentry
  | position nodeNum pos => exact h.upsert (fun _ => hedit nodeNum rfl) fun _ hentry => hentry
  | user nodeNum usr =>
      exact h.storeUser (fun _ => hedit nodeNum rfl) (fun _ _ _ hentry => hentry)
        fun _ hentry => hentry
  | deviceMetrics nodeNum metrics =>
      exact h.upsert (fun _ => hedit nodeNum rfl) fun _ hentry => hentry
  | learnRoute sender relayNode =>
      change Forall _ (if learnedHop sender relayNode = NO_NEXT_HOP then db
        else db.upsert sender fun entry => { entry with nextHop := learnedHop sender relayNode })
      split
      · exact h
      · exact h.upsert (fun _ => hedit sender rfl) fun _ hentry => hentry
  | clearRoute dest => exact h.modify dest fun _ hentry => hentry
  | favorite nodeNum fav => exact h.setFavorite nodeNum fun _ hentry => hentry
  | ignored nodeNum ign => exact h.setIgnored nodeNum fun _ hentry => hentry
  | toggleMuted nodeNum => exact h.toggleMuted nodeNum fun _ hentry => hentry
  | contact shared usr =>
      exact h.addContactToDb (fun _ => hedit shared.nodeNum rfl) (fun _ hentry => hentry)
        (fun _ _ _ hentry => hentry) (fun _ _ hentry => hentry) fun _ hentry => hentry
  | remove nodeNum => exact h.remove nodeNum
  | reset ourNodeNum => exact forall_new ourNodeNum

theorem forall_number_edited {edits : List NodeDbEdit}
    (h : db.Forall fun entry => P entry.nodeNum)
    (hedits : ∀ edit ∈ edits, ∀ num, edit.creates = some num → P num) :
    (db.edited edits).Forall fun entry => P entry.nodeNum := by
  induction edits generalizing db with
  | nil => exact h
  | cons edit edits ih =>
      have hfirst := forall_number_edit h (hedits edit List.mem_cons_self)
      exact ih hfirst fun e he => hedits e (List.mem_cons_of_mem _ he)

end NodeDb

/-! ## The record of nodes heard directly -/

def MeshState.directSender (state : MeshState S) : MeshState.Event → Option UInt32
  | .mesh (.loraRx frame _) =>
      if state.started then
        (frame.header.filter fun header => FromRadio.hopsAway header == some 0).map (·.sender)
      else none
  | _ => none

/-- A node, and beside it which others it has heard without a relay in between. -/
structure Neighborhood (S : Type) where
  state : MeshState S
  direct : UInt32 → Bool

namespace Neighborhood

section Broadcast

variable (env) (run : Neighborhood S)

/-- A node other than ourselves was heard directly. -/
def HearsNeighbor : Prop :=
  ∃ entry ∈ run.state.ctx.nodeDb.nodes.toList,
    entry.nodeNum ≠ run.state.ctx.device.myNodeNum ∧ run.direct entry.nodeNum = true

/-- A broadcast queues its frame and lists only nodes that were heard directly. -/
def ListsNeighbors : Prop :=
  (∃ frame, Periodic.neighborinfoFrame env run.state.ctx = some frame ∧
    (Periodic.broadcastNeighborinfo env run.state.ctx).txToLora =
      run.state.ctx.txToLora ++ [frame]) ∧
    ∀ nb ∈ (Periodic.neighborInfo run.state.ctx).neighbors, run.direct nb.nodeId = true

/-- The whole database but ourselves was heard directly. -/
def AllDirect : Prop :=
  ∀ entry ∈ run.state.ctx.nodeDb.nodes.toList,
    entry.nodeNum ≠ run.state.ctx.device.myNodeNum → run.direct entry.nodeNum = true

/-- The list fits a frame, the channel has a usable key, and all of it is direct. -/
structure Listable : Prop where
  fits : ¬ (Periodic.neighborinfoTx env run.state.ctx).TooLong env run.state.ctx.device
  keyed : ¬ (Periodic.neighborinfoTx env run.state.ctx).UnusableKey env run.state.ctx.device
  allDirect : run.AllDirect

variable {env run}

theorem allDirect_iff :
    run.AllDirect ↔
      ∀ nb ∈ (Periodic.neighborInfo run.state.ctx).neighbors, run.direct nb.nodeId = true := by
  constructor
  · intro h nb hnb
    obtain ⟨hmem, hother⟩ := Periodic.mem_neighbors.mp ⟨nb, hnb, rfl⟩
    obtain ⟨entry, hentry, hnum⟩ := List.mem_map.mp hmem
    rw [← hnum] at hother ⊢
    exact h entry hentry hother
  · intro h entry hentry hother
    obtain ⟨nb, hnb, hnum⟩ := Periodic.mem_neighbors.mpr
      ⟨List.mem_map_of_mem hentry, hother⟩
    rw [← hnum]
    exact h nb hnb

/-- When a node was heard directly and the airtime allows it, a broadcast queues one frame that
lists only such nodes exactly when the list fits, the key is usable and all of the database was
heard directly. -/
theorem listsNeighbors_iff
    (hgate : txAllowedImpolite env run.state.ctx = true) (hheard : run.HearsNeighbor) :
    run.ListsNeighbors env ↔ run.Listable env := by
  obtain ⟨known, hknown, hother, -⟩ := hheard
  have hsome : Periodic.neighbors run.state.ctx ≠ [] := by
    intro hnone
    obtain ⟨nb, hnb, -⟩ := Periodic.mem_neighbors.mpr ⟨List.mem_map_of_mem hknown, hother⟩
    rw [hnone] at hnb
    cases hnb
  have hbuilt := @Periodic.neighborinfoFrame_eq_none_iff S env run.state.ctx
  unfold ListsNeighbors
  rw [Periodic.txToLora_broadcastNeighborinfo hsome hgate, ← allDirect_iff]
  constructor
  · rintro ⟨⟨frame, hframe, -⟩, hdirect⟩
    rw [hframe] at hbuilt
    have hfits := not_or.mp (hbuilt.not.mp (Option.some_ne_none frame))
    exact ⟨hfits.1, hfits.2, hdirect⟩
  · rintro ⟨hfits, hkeyed, hdirect⟩
    obtain ⟨frame, hframe⟩ :=
      Option.ne_none_iff_exists'.mp (hbuilt.not.mpr (not_or.mpr ⟨hfits, hkeyed⟩))
    refine ⟨⟨frame, hframe, ?_⟩, hdirect⟩
    rw [hframe]
    rfl

end Broadcast

/-! ## Runs that hear everything directly -/

section Run

variable [MeshStorage S]

/-- Whom a step hears directly stays in the record, restarts included. -/
def step (env : Env) (run : Neighborhood S) (event : MeshState.Event) : Neighborhood S where
  state := MeshState.step env run.state event
  direct num := run.direct num || run.state.directSender event == some num

def Known (own : UInt32) (run : Neighborhood S) : Prop :=
  run.state.ctx.nodeDb.Forall fun entry => entry.nodeNum = own ∨ run.direct entry.nodeNum = true

structure StaysDirect (env : Env) (own : UInt32) (run : Neighborhood S)
    (event : MeshState.Event) : Prop where
  created : ∀ edit ∈ MeshState.edits env run.state event, ∀ num, edit.creates = some num →
    num = own ∨ (run.step env event).direct num = true
  restored : MeshState.restarts env run.state event = true → ∀ ourNodeNum,
    (MeshStorage.loadNodeDb (MeshState.reopened env run.state event)
      (NodeDb.new ourNodeNum)).Forall fun entry =>
        entry.nodeNum = own ∨ (run.step env event).direct entry.nodeNum = true

theorem direct_step {run : Neighborhood S} (event : MeshState.Event) {num : UInt32}
    (h : run.direct num = true) : (run.step env event).direct num = true :=
  Bool.or_eq_true_iff.mpr (Or.inl h)

theorem Known.step {own : UInt32} {run : Neighborhood S} (h : Known own run)
    {event : MeshState.Event} (hok : StaysDirect env own run event) :
    Known own (run.step env event) := by
  cases hrestarts : MeshState.restarts env run.state event with
  | true =>
      have hloaded := MeshState.nodeDb_of_restarts hrestarts
      unfold Known
      change (MeshState.step env run.state event).ctx.nodeDb.Forall _
      rw [hloaded]
      exact hok.restored hrestarts _
  | false =>
      have hkept : run.state.ctx.nodeDb.Forall fun entry =>
          entry.nodeNum = own ∨ (run.step env event).direct entry.nodeNum = true := by
        intro entry hentry
        exact (h entry hentry).imp_right (direct_step event)
      intro entry hentry
      change entry ∈ (MeshState.step env run.state event).ctx.nodeDb.nodes.toList at hentry
      rw [(MeshState.sameEntries_step hrestarts).1] at hentry
      exact @NodeDb.forall_number_edited
        (fun num => num = own ∨ (run.step env event).direct num = true) _ _ hkept hok.created
        entry hentry

theorem allDirect_run {own : UInt32} {run : Neighborhood S} (h : Known own run)
    {events : List MeshState.Event}
    (hok : Transition.Always (step env) (StaysDirect env own) run events)
    (hown : (Transition.run (step env) run events).state.ctx.device.myNodeNum = own) :
    (Transition.run (step env) run events).AllDirect := by
  have hknown : Known own (Transition.run (step env) run events) :=
    Transition.invariant_run (fun _ _ h hok => h.step hok) h hok
  intro entry hentry hother
  rw [hown] at hother
  exact (hknown entry hentry).resolve_left hother

end Run

/-! ## Sample broadcasts -/

/-- A neighbor with a signal of 0 dB, which as the default is left out. -/
def neighborFields (nb : Neighbor) : List Lib.Protobuf.Field :=
  [⟨1, .varint nb.nodeId.toNat⟩] ++
    (if nb.lastRxTime = 0 then [] else [⟨3, .fixed32 nb.lastRxTime⟩]) ++
    [⟨4, .varint nb.nodeBroadcastIntervalSecs.toNat⟩]

def neighborInfoFields (info : NeighborInfo) : List Lib.Protobuf.Field :=
  [⟨1, .varint info.nodeId.toNat⟩, ⟨2, .varint info.lastSentById.toNat⟩,
    ⟨3, .varint info.nodeBroadcastIntervalSecs.toNat⟩] ++
    info.neighbors.map fun nb => ⟨4, .bytes (Lib.Protobuf.encodeFields (neighborFields nb))⟩

def broadcastAnswers : KnownAnswers :=
  { Hearing.neighborAnswers with
    aesCtr := (DEFAULT_PSK, buildNonce 0x28123458 0x28123456,
      [0x86, 0xdf, 0x12, 0xfc, 0xfd, 0x27, 0x64, 0x19, 0x79, 0x36, 0x90, 0x7a, 0x87, 0x80, 0xba,
       0x35, 0x57, 0x6c, 0x0b, 0xb0, 0x7f, 0x09, 0x5a, 0x52, 0x0d, 0x36, 0x4b, 0xad, 0xd7, 0xa4,
       0xbe, 0xdf, 0x5d, 0x40, 0x57, 0x72, 0x0d, 0x6e, 0x3b, 0x0e, 0x11, 0x31, 0xc8, 0x65, 0xa2,
       0x60, 0xe8, 0x09, 0xfa, 0x8f, 0xa5, 0xa1, 0x88, 0xc3, 0xb3, 0x5d, 0xca, 0xc0, 0xc7, 0xe1,
       0xbb, 0x55, 0x75, 0x57]) :: Hearing.neighborAnswers.aesCtr }

def broadcastEnv : Env :=
  { broadcastAnswers.env with
    prost :=
      { KnownAnswers.prost with
        neighborInfo :=
          { Hearing.neighborInfoCodec with
            encode := fun info => Lib.Protobuf.encodeFields (neighborInfoFields info) } } }

def booted : Neighborhood FakeStorage where
  state := MeshState.boot broadcastEnv KnownAnswers.mac {} KnownAnswers.noKeypair
    KnownAnswers.noEntropy
  direct _ := false

def sample (events : List MeshState.Event) : Neighborhood FakeStorage :=
  Transition.run (step broadcastEnv) booted events

/-- A second after the boot, node `0x11223345` says that it has `0x11223344` as a neighbor. -/
def hearsay : List MeshState.Event :=
  [.announce, .elapse 1000, .mesh (.loraRx Hearing.mentioningFrame ⟨0, 0⟩)]

/-- A node that has heard two dozen others. -/
def crowded : Neighborhood FakeStorage where
  state :=
    { booted.state with
      ctx := booted.state.ctx.modifyNodeDb fun db =>
        (List.range 24).foldl
          (fun db i => db.touch (0x11223344 + UInt32.ofNat i) 0 (some 0) 1000) db }
  direct num := decide (0x11223344 ≤ num)

theorem not_unusableKey_defaultPrimary {tx : TxBuilder} {device : DeviceState}
    (hchannel : (tx.channelIdx.bind device.channels.get).or device.channels.primary =
      some ChannelConfig.defaultPrimary) : ¬ tx.UnusableKey broadcastEnv device := by
  rintro ⟨channel, hfound, -, -, hlength, -⟩
  rw [hchannel] at hfound
  cases hfound
  exact hlength rfl

/-- A neighbor that was heard is listed. -/
theorem hearing_listed : (sample Hearing.hearing).ListsNeighbors broadcastEnv := by
  refine (listsNeighbors_iff (by decide +kernel) ?_).mpr ⟨?_, ?_, ?_⟩
  · unfold HearsNeighbor
    decide +kernel
  · unfold TxBuilder.TooLong
    decide +kernel
  · exact not_unusableKey_defaultPrimary (by decide +kernel)
  · unfold AllDirect
    decide +kernel

/-- A neighbor known from another is listed, and two dozen neighbors do not fit a frame. -/
theorem hearsay_listed_crowd_dropped :
    (txAllowedImpolite broadcastEnv (sample hearsay).state.ctx = true ∧
      (sample hearsay).HearsNeighbor ∧ ¬ (sample hearsay).ListsNeighbors broadcastEnv) ∧
    (txAllowedImpolite broadcastEnv crowded.state.ctx = true ∧
      crowded.HearsNeighbor ∧ ¬ crowded.ListsNeighbors broadcastEnv) := by
  refine ⟨⟨by decide +kernel, ?_, fun h => ?_⟩, ⟨by decide +kernel, ?_, fun h => ?_⟩⟩
  · unfold HearsNeighbor
    decide +kernel
  · have hdirect := allDirect_iff.mpr h.2
    unfold AllDirect at hdirect
    exact absurd hdirect (by decide +kernel)
  · unfold HearsNeighbor
    decide +kernel
  · obtain ⟨⟨frame, hframe, -⟩, -⟩ := h
    have hlong : Periodic.neighborinfoFrame broadcastEnv crowded.state.ctx = none := by
      refine Periodic.neighborinfoFrame_eq_none_iff.mpr (Or.inl ?_)
      unfold TxBuilder.TooLong
      decide +kernel
    rw [hlong] at hframe
    cases hframe

end Neighborhood

end Meshtastenstein
