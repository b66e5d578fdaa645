import Meshtastenstein.BleTask
import Meshtastenstein.Bonds
/-!
# Bonds in the BLE task

The ESP32 firmware with the places that hold the bond of a phone: the host of the BLE stack,
the copy of the BLE task and, by way of `mesh_in`, flash.
-/

namespace Meshtastenstein

open Lib

/-- A bond that is meant to last. -/
abbrev Bond := { info : BondInformation // info.isBonded = true }

def Bond.record (bond : Bond) : Bytes := serializeBond bond.val

inductive SecurityEvent
  | bondLost
  | pairingFailed (peerRejected : Bool)
  | pairingComplete (bond : Bond)
  | encrypted
  | disconnected

namespace SecurityEvent

def gatt : SecurityEvent → GattConnectionEvent
  | .bondLost => .bondLost
  | .pairingFailed peerRejected => .pairingFailed peerRejected
  | .pairingComplete bond => .pairingComplete (some bond.record)
  | .encrypted => .encrypted
  | .disconnected => .disconnected

def isDisconnected : SecurityEvent → Bool
  | .disconnected => true
  | _ => false

def isRejection : SecurityEvent → Bool
  | .bondLost => true
  | .pairingFailed peerRejected => peerRejected
  | _ => false

theorem isDisconnected_of_isRejection {event : SecurityEvent} (h : event.isRejection = true) :
    event.isDisconnected = false := by
  cases event with
  | disconnected => cases h
  | _ => rfl

end SecurityEvent

/-! ## The host -/

structure BleHost (T : Type) where
  bond : T → Identity → Option BondInformation
  /-- The table by the time an event of a connection with a peer is delivered. -/
  deliver : T → Identity → SecurityEvent → T
  removeBondInformation : T → Identity → T

/-- Pairing stores the bond, the end of a connection drops what is not meant to last, and
nothing touches the other peers.  What a rejection does to the bond is left open. -/
structure BleHost.Lawful {T : Type} (host : BleHost T) : Prop where
  paired : ∀ stack peer bond,
    host.bond (host.deliver stack peer (.pairingComplete bond)) peer = some bond.val
  pairingFailed : ∀ stack peer,
    host.bond (host.deliver stack peer (.pairingFailed false)) peer = host.bond stack peer
  encrypted : ∀ stack peer,
    host.bond (host.deliver stack peer .encrypted) peer = host.bond stack peer
  disconnected : ∀ stack peer,
    host.bond (host.deliver stack peer .disconnected) peer =
      (host.bond stack peer).filter (·.isBonded)
  elsewhere : ∀ stack peer other event, other ≠ peer →
    host.bond (host.deliver stack peer event) other = host.bond stack other
  removed : ∀ stack peer, host.bond (host.removeBondInformation stack peer) peer = none
  removed_elsewhere : ∀ stack peer other, other ≠ peer →
    host.bond (host.removeBondInformation stack peer) other = host.bond stack other

/-! ## The BLE task -/

/-- A connection, as `advertising_loop` sees it. -/
structure BleLink where
  peerIdentity : Identity
  bondClearPending : Bool
  deriving DecidableEq

structure BondTask (S T : Type) where
  fw : Firmware S
  stack : T
  bondBytes : Option Bytes
  link : Option BleLink

namespace BondTask

variable {S T : Type} [MeshStorage S]

inductive Event
  | advertised (ok : Bool)
  /-- A connection with a peer, or none. -/
  | accepted (peer : Option Identity)
  | security (event : SecurityEvent)
  /-- The mesh task takes an event from `mesh_in`. -/
  | receive

omit [MeshStorage S] in
/-- What `gatt_events_loop` does with a bond, and what `advertising_loop` does when the
connection is over. -/
def handleSecurity (host : BleHost T) (task : BondTask S T) (link : BleLink) :
    SecurityEvent → BondTask S T
  | .pairingComplete bond => { task with bondBytes := some bond.record }
  | .bondLost => { task with link := some { link with bondClearPending := true } }
  | .pairingFailed peerRejected =>
      if peerRejected then { task with link := some { link with bondClearPending := true } }
      else task
  | .encrypted => task
  | .disconnected =>
      if link.bondClearPending then
        { task with
          bondBytes := none
          stack := host.removeBondInformation task.stack link.peerIdentity
          link := none }
      else { task with link := none }

def step (env : Env) (host : BleHost T) (task : BondTask S T) : Event → BondTask S T
  | .advertised ok => { task with fw := task.fw.step env .esp32 (.advertised ok) }
  | .accepted peer =>
      match task.fw.phase with
      | .accepting =>
          { task with
            fw := task.fw.step env .esp32 (.accepted peer.isSome)
            link := peer.map fun identity => ⟨identity, false⟩ }
      | _ => task
  | .security event =>
      match task.link with
      | some link =>
          handleSecurity host
            { task with
              fw := task.fw.step env .esp32 (.gatt event.gatt)
              stack := host.deliver task.stack link.peerIdentity event } link event
      | none => task
  | .receive => { task with fw := task.fw.step env .esp32 .receive }

/-- The firmware once the mesh task has taken all that waits in `mesh_in`. -/
def settled (env : Env) (fw : Firmware S) : Firmware S :=
  Transition.run (Firmware.step env .esp32) fw (List.replicate fw.meshIn.length .receive)

end BondTask

/-! ## The record of the bonds -/

/-- Which bond was delivered last and not followed by a rejection, and for every peer the
bond it was delivered last, unless it rejected it in a connection that is over.  It is kept
for the specification only: no step depends on it. -/
structure BondLedger where
  current : Option Bond
  held : Identity → Option Bond

def BondLedger.note (ledger : BondLedger) (link : BleLink) : SecurityEvent → BondLedger
  | .pairingComplete bond =>
      { current := some bond, held := Function.update ledger.held link.peerIdentity (some bond) }
  | .bondLost => { ledger with current := none }
  | .pairingFailed peerRejected => if peerRejected then { ledger with current := none } else ledger
  | .encrypted => ledger
  | .disconnected =>
      if link.bondClearPending then
        { ledger with held := Function.update ledger.held link.peerIdentity none }
      else ledger

structure BondRun (S T : Type) where
  task : BondTask S T
  ledger : BondLedger

namespace BondRun

variable {S T : Type} [MeshStorage S]

omit [MeshStorage S] in
def noted (run : BondRun S T) : BondTask.Event → BondLedger
  | .security event =>
      match run.task.link with
      | some link => run.ledger.note link event
      | none => run.ledger
  | _ => run.ledger

def step (env : Env) (host : BleHost T) (run : BondRun S T) (event : BondTask.Event) :
    BondRun S T :=
  ⟨run.task.step env host event, run.noted event⟩

end BondRun

end Meshtastenstein
