import Meshtastenstein.Environment
import Meshtastenstein.Lib.Bounded
/-!
# Node database

What is known about the other nodes of the mesh.
-/

namespace Meshtastenstein

open Lib Proto

structure NodeEntry where
  nodeNum : UInt32
  user : Option User := none
  position : Option Position := none
  lastHeard : UInt32 := 0
  snr : Option Int8 := none
  hopsAway : Option UInt8 := none
  deviceMetrics : Option DeviceMetrics := none
  nextHop : UInt8 := 0
  /-- Milliseconds since boot of the last reception. -/
  lastSeenMs : Nat := 0
  pubKey : Option Key := none
  isFavorite : Bool := false
  isIgnored : Bool := false
  isMuted : Bool := false

structure NodeDb where
  nodes : Bounded NodeEntry MAX_NODES
  ourNodeNum : UInt32
  dirty : Bool

namespace NodeDb

def new (ourNodeNum : UInt32) : NodeDb where
  nodes := Bounded.empty
  ourNodeNum := ourNodeNum
  dirty := false

def markDirty (db : NodeDb) : NodeDb := { db with dirty := true }

def markClean (db : NodeDb) : NodeDb := { db with dirty := false }

def get (db : NodeDb) (nodeNum : UInt32) : Option NodeEntry :=
  db.nodes.toList.find? fun n => n.nodeNum == nodeNum

def position (db : NodeDb) (nodeNum : UInt32) : Option Nat :=
  db.nodes.toList.findIdx? fun n => n.nodeNum == nodeNum

def modifyAt (db : NodeDb) (idx : Nat) (f : NodeEntry → NodeEntry) : NodeDb :=
  { db with nodes := ⟨db.nodes.toList.modify idx f, by
      simpa using db.nodes.length_le⟩ }

def modify (db : NodeDb) (nodeNum : UInt32) (f : NodeEntry → NodeEntry) : NodeDb :=
  match db.position nodeNum with
  | some idx => db.modifyAt idx f
  | none => db

/-- The index of the entry of a node, created if needed.  The reserved numbers are
rejected, and so is a new node when the database is full. -/
def getOrCreate (db : NodeDb) (nodeNum : UInt32) : Option (NodeDb × Nat) :=
  if nodeNum = 0 ∨ nodeNum = BROADCAST_ADDR then none
  else
    match db.position nodeNum with
    | some idx => some (db, idx)
    | none =>
        match db.nodes.push { nodeNum := nodeNum } with
        | some nodes => some ({ db with nodes := nodes, dirty := true }, nodes.length - 1)
        | none => none

def upsert (db : NodeDb) (nodeNum : UInt32) (f : NodeEntry → NodeEntry) : NodeDb :=
  match db.getOrCreate nodeNum with
  | some (db, idx) => db.modifyAt idx f
  | none => db

def updateUser (db : NodeDb) (nodeNum : UInt32) (user : User) : NodeDb :=
  match db.getOrCreate nodeNum with
  | some (db, idx) => (db.modifyAt idx fun n => { n with user := some user }).markDirty
  | none => db

def updatePubKey (db : NodeDb) (nodeNum : UInt32) (key : Key) : NodeDb :=
  match db.getOrCreate nodeNum with
  | some (db, idx) => (db.modifyAt idx fun n => { n with pubKey := some key }).markDirty
  | none => db

def updateDeviceMetrics (db : NodeDb) (nodeNum : UInt32) (metrics : DeviceMetrics) :
    NodeDb :=
  db.upsert nodeNum fun n => { n with deviceMetrics := some metrics }

def updatePosition (db : NodeDb) (nodeNum : UInt32) (position : Position) : NodeDb :=
  db.upsert nodeNum fun n => { n with position := some position }

def setFavorite (db : NodeDb) (nodeNum : UInt32) (favorite : Bool) : NodeDb :=
  match db.position nodeNum with
  | some idx => (db.modifyAt idx fun n => { n with isFavorite := favorite }).markDirty
  | none => db

def setIgnored (db : NodeDb) (nodeNum : UInt32) (ignored : Bool) : NodeDb :=
  match db.position nodeNum with
  | some idx =>
      (db.modifyAt idx fun n =>
        { n with
          isIgnored := ignored
          position := if ignored then none else n.position
          pubKey := if ignored then none else n.pubKey }).markDirty
  | none => db

def toggleMuted (db : NodeDb) (nodeNum : UInt32) : NodeDb :=
  match db.position nodeNum with
  | some idx => (db.modifyAt idx fun n => { n with isMuted := !n.isMuted }).markDirty
  | none => db

def pubKeyOf (db : NodeDb) (nodeNum : UInt32) : Option Key :=
  (db.get nodeNum).bind (·.pubKey)

def hasPubKey (db : NodeDb) (nodeNum : UInt32) : Bool :=
  (db.pubKeyOf nodeNum).isSome

def len (db : NodeDb) : Nat := db.nodes.length

def remove (db : NodeDb) (nodeNum : UInt32) : NodeDb :=
  match db.position nodeNum with
  | some idx => { db with nodes := db.nodes.swapRemove idx, dirty := true }
  | none => db

/-- Drop the nodes not heard for `maxAgeSecs`, except ourselves and those never
heard at all. -/
def pruneStale (db : NodeDb) (nowSecs maxAgeSecs : UInt32) : NodeDb :=
  { db with
    nodes := db.nodes.retain fun n =>
      n.nodeNum == db.ourNodeNum || n.lastHeard == 0 ||
        decide (nowSecs.toNat - n.lastHeard.toNat ≤ maxAgeSecs.toNat) }

def touch (db : NodeDb) (nodeNum time : UInt32) (snr : Option Int8) (nowMs : Nat) :
    NodeDb :=
  let record (db : NodeDb) : NodeDb :=
    db.upsert nodeNum fun n =>
      { n with
        lastHeard := time
        snr := snr.or n.snr
        lastSeenMs := nowMs }
  if db.nodes.isFull && db.nodes.toList.all (·.nodeNum != nodeNum) then
    let pruned := db.pruneStale time 7200
    if pruned.len < db.len then record pruned else db
  else record db

def onlineCount (db : NodeDb) (nowMs maxAgeMs : Nat) : Nat :=
  db.nodes.toList.countP fun n =>
    decide (0 < n.lastSeenMs) && decide (nowMs - n.lastSeenMs ≤ maxAgeMs)

end NodeDb

end Meshtastenstein
