import Meshtastenstein.NodeDb
import Meshtastenstein.Packet
import Meshtastenstein.Lib.RingBuffer
/-!
# Hierarchical routing state

Duplicate detection (flooding layer), route learning (next-hop layer) and the
packets awaiting an acknowledgement (reliable layer).
-/

namespace Meshtastenstein

open Lib Proto

/-! ## Pending work -/

structure PendingRebroadcast where
  frame : RadioFrame
  deadline : Nat

structure PendingPacket where
  frame : RadioFrame
  packetId : UInt32
  dest : UInt32
  sender : UInt32
  deadline : Nat
  retriesLeft : UInt8
  isOurPacket : Bool
  /-- Whom to tell over BLE how the delivery ended. -/
  bleNotify : Option UInt32

abbrev PendingPackets := Bounded PendingPacket 8

def PendingPackets.position (pending : PendingPackets) (packetId : UInt32) : Option Nat :=
  pending.toList.findIdx? fun a => a.packetId == packetId

/-! ## Duplicate detection -/

structure PacketRecord where
  sender : UInt32
  packetId : UInt32
  bestHopLimit : UInt8
  /-- The relay bytes heard for this packet. -/
  relayedBy : Bounded UInt8 MAX_RELAYERS_TRACKED
  valid : Bool
deriving DecidableEq

namespace PacketRecord

def unused : PacketRecord where
  sender := 0
  packetId := 0
  bestHopLimit := 0
  relayedBy := Bounded.empty
  valid := false

def isFor (record : PacketRecord) (sender packetId : UInt32) : Bool :=
  record.valid && record.sender == sender && record.packetId == packetId

/-- Remember a relayer, unless it is unknown, already known or there is no room. -/
def addRelayer (record : PacketRecord) (relayNode : UInt8) : PacketRecord :=
  if relayNode = NO_NEXT_HOP then record
  else if record.relayedBy.toList.contains relayNode then record
  else { record with relayedBy := record.relayedBy.pushOrDrop relayNode }

end PacketRecord

inductive FilterResult
  | new
  | duplicateDrop
  | duplicateUpgrade (hopLimit : UInt8)
  | duplicateCancelRelay
deriving DecidableEq

structure MeshRouter where
  history : RingBuffer PacketRecord DUPLICATE_RING_SIZE
  ourNodeNum : UInt32
  /-- Packets relayed without authentication, kept apart from the history. -/
  opaqueSeen : RingBuffer (UInt32 × UInt32) OPAQUE_SEEN_RING_SIZE

namespace MeshRouter

def new (ourNodeNum : UInt32) : MeshRouter where
  history := RingBuffer.new (by decide) PacketRecord.unused
  ourNodeNum := ourNodeNum
  opaqueSeen := RingBuffer.new (by decide) (0, 0)

def findRecord (router : MeshRouter) (sender packetId : UInt32) : Option Nat :=
  router.history.find fun r => r.isFor sender packetId

def recordPacket (router : MeshRouter) (sender packetId : UInt32) (hopLimit : UInt8) :
    MeshRouter :=
  { router with
    history := router.history.push
      { sender := sender
        packetId := packetId
        bestHopLimit := hopLimit
        relayedBy := Bounded.empty
        valid := true } }

def modifyRecord (router : MeshRouter) (idx : Nat) (f : PacketRecord → PacketRecord) :
    MeshRouter :=
  { router with history := router.history.modify idx f }

theorem modifyRecord_modifyRecord (router : MeshRouter) (idx : Nat)
    (f g : PacketRecord → PacketRecord) :
    (router.modifyRecord idx f).modifyRecord idx g = router.modifyRecord idx (g ∘ f) := by
  unfold modifyRecord
  simp only [MeshRouter.mk.injEq, and_self, and_true]
  exact RingBuffer.ext (List.modify_modify_eq f g idx router.history.slots) rfl rfl

theorem modifyRecord_eq_self_iff (router : MeshRouter) (idx : Nat)
    (f : PacketRecord → PacketRecord) :
    router.modifyRecord idx f = router ↔
      ∀ record, router.history.slots[idx]? = some record → f record = record := by
  rw [← RingBuffer.modify_eq_self_iff]
  constructor
  · intro h
    exact congrArg MeshRouter.history h
  · intro h
    unfold modifyRecord
    rw [h]

/-- Whether a role cancels its own rebroadcast when another node relays first. -/
def roleAllowsCancel (role : DeviceRole) : Bool :=
  !(role == .router || role == .routerLate)

def shouldFilterReceived (router : MeshRouter) (sender packetId : UInt32)
    (hopLimit relayNode : UInt8) (pendingHopLimit : Option UInt8)
    (role : DeviceRole) : FilterResult × MeshRouter :=
  match router.findRecord sender packetId with
  | some idx =>
      let router := router.modifyRecord idx (·.addRelayer relayNode)
      match pendingHopLimit.filter (· < hopLimit) with
      | some _ =>
          (.duplicateUpgrade (hopLimit - 1),
            router.modifyRecord idx fun r => { r with bestHopLimit := hopLimit })
      | none =>
          if roleAllowsCancel role ∧ relayNode ≠ 0 ∧
              relayNode ≠ lastByte router.ourNodeNum then
            (.duplicateCancelRelay, router)
          else
            (.duplicateDrop, router)
  | none =>
      let idx := router.history.head
      (.new, (router.recordPacket sender packetId hopLimit).modifyRecord idx
        (·.addRelayer relayNode))

/-- A known packet is never new; what it changes of its record depends on whether it is
a better copy of one we are about to relay. -/
theorem shouldFilterReceived_of_find {router : MeshRouter} {sender packetId : UInt32}
    {idx : Nat} (hfind : router.findRecord sender packetId = some idx)
    (hopLimit relayNode : UInt8) (pendingHopLimit : Option UInt8) (role : DeviceRole) :
    router.shouldFilterReceived sender packetId hopLimit relayNode pendingHopLimit role =
      if pendingHopLimit.any (· < hopLimit) then
        (.duplicateUpgrade (hopLimit - 1),
          router.modifyRecord idx fun r =>
            { r.addRelayer relayNode with bestHopLimit := hopLimit })
      else if roleAllowsCancel role ∧ relayNode ≠ 0 ∧ relayNode ≠ lastByte router.ourNodeNum then
        (.duplicateCancelRelay, router.modifyRecord idx (·.addRelayer relayNode))
      else (.duplicateDrop, router.modifyRecord idx (·.addRelayer relayNode)) := by
  unfold shouldFilterReceived
  rw [hfind]
  dsimp only
  cases pendingHopLimit with
  | none => rfl
  | some limit =>
      have hany : (some limit).any (· < hopLimit) = decide (limit < hopLimit) := rfl
      by_cases hless : limit < hopLimit
      · have hfilter : (some limit).filter (· < hopLimit) = some limit := by simp [hless]
        rw [hfilter, hany, decide_eq_true hless]
        dsimp only
        rw [modifyRecord_modifyRecord]
        rfl
      · have hfilter : (some limit).filter (· < hopLimit) = none := by simpa using hless
        rw [hfilter, hany, decide_eq_false hless]
        rfl

theorem findRecord_eq_none_of_new {router router' : MeshRouter} {sender packetId : UInt32}
    {hopLimit relayNode : UInt8} {pendingHopLimit : Option UInt8} {role : DeviceRole}
    (h : router.shouldFilterReceived sender packetId hopLimit relayNode pendingHopLimit role =
      (.new, router')) : router.findRecord sender packetId = none := by
  cases hfind : router.findRecord sender packetId with
  | none => rfl
  | some idx =>
      rw [shouldFilterReceived_of_find hfind] at h
      split at h
      · cases h
      · split at h <;> cases h

/-- Whether to relay a packet that could not be authenticated; a first sighting is
remembered. -/
def shouldRelayOpaque (router : MeshRouter) (sender packetId : UInt32)
    (hopStart hopLimit : UInt8) : Bool × MeshRouter :=
  let isOriginatorRetransmit := decide (0 < hopStart) && hopStart == hopLimit
  let alreadySeen := router.opaqueSeen.live.contains (sender, packetId)
  if alreadySeen && !isOriginatorRetransmit then (false, router)
  else if alreadySeen then (true, router)
  else (true, { router with opaqueSeen := router.opaqueSeen.push (sender, packetId) })

def shouldRebroadcast (router : MeshRouter) (hopLimit : UInt8) (sender : UInt32) :
    Option UInt8 :=
  if sender = router.ourNodeNum then none
  else if hopLimit = 0 then none
  else some (hopLimit - 1)

/-! ## Next hops -/

def getNextHop (_router : MeshRouter) (db : NodeDb) (dest : UInt32) (relayNode : UInt8) :
    UInt8 :=
  match db.get dest with
  | some entry =>
      if entry.nextHop ≠ NO_NEXT_HOP ∧ entry.nextHop ≠ relayNode then entry.nextHop
      else NO_NEXT_HOP
  | none => NO_NEXT_HOP

/-- Learn the next hop towards `sender` from the node that relayed its
acknowledgement. -/
def learnRoute (_router : MeshRouter) (db : NodeDb) (sender : UInt32)
    (relayNode : UInt8) : NodeDb :=
  let nextHop := if relayNode ≠ 0 then relayNode else lastByte sender
  if nextHop = NO_NEXT_HOP then db
  else db.upsert sender fun entry => { entry with nextHop := nextHop }

def shouldRelayDirected (router : MeshRouter) (dest : UInt32) (nextHop : UInt8) : Bool :=
  if dest = router.ourNodeNum then true
  else nextHop != NO_NEXT_HOP && nextHop == lastByte router.ourNodeNum

/-! ## Retransmission -/

/-- Push back every deadline while the channel is busy. -/
def extendPendingDeadlines (pending : PendingPackets) (extension : Nat) : PendingPackets :=
  pending.map fun p => { p with deadline := p.deadline + extension }

structure RetransmissionState where
  pending : PendingPackets
  nodeDb : NodeDb
  toSend : List RadioFrame
  gaveUp : List (UInt32 × UInt32)

/-- What a due entry with retries left becomes: its last retry falls back to
flooding. -/
def retransmit (now : Nat) (entry : PendingPacket) : PendingPacket :=
  let retriesLeft := entry.retriesLeft - 1
  { entry with
    frame := if retriesLeft = 0 then entry.frame.withoutNextHop else entry.frame
    deadline := now + WANT_ACK_TIMEOUT_MS
    retriesLeft := retriesLeft }

/-- The database after a retransmission: the last retry forgets the route. -/
def retransmitNodeDb (entry : PendingPacket) (db : NodeDb) : NodeDb :=
  if entry.retriesLeft - 1 = 0 then
    db.modify entry.dest fun n => { n with nextHop := NO_NEXT_HOP }
  else db

/-- Process the entries from index `i` on.  A step moves past the entry or removes
it, so as many steps as there are entries reach the end. -/
def tickFrom (now : Nat) : Nat → Nat → RetransmissionState → RetransmissionState
  | 0, _, st => st
  | steps + 1, i, st =>
      match st.pending.toList[i]? with
      | none => st
      | some entry =>
          if now < entry.deadline then tickFrom now steps (i + 1) st
          else if 0 < entry.retriesLeft then
            let sent := retransmit now entry
            tickFrom now steps (i + 1)
              { st with
                pending := st.pending.set i sent
                nodeDb := retransmitNodeDb entry st.nodeDb
                toSend := st.toSend ++ [sent.frame] }
          else
            tickFrom now steps i
              { st with
                pending := st.pending.swapRemove i
                gaveUp := st.gaveUp ++
                  (entry.bleNotify.map fun dest => (dest, entry.packetId)).toList }

def tickRetransmissions (now : Nat) (pending : PendingPackets) (db : NodeDb) :
    RetransmissionState :=
  tickFrom now pending.length 0
    { pending := pending, nodeDb := db, toSend := [], gaveUp := [] }

end MeshRouter

end Meshtastenstein
