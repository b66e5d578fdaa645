import Meshtastenstein.Router
import Meshtastenstein.Lib.Sweep
/-!
# The retransmission pass

A pass over the pending packets is a sweep.  What becomes of an entry depends on the entry and
the time alone, and every entry is looked at once, wherever the removals before it have moved it.
-/

namespace Meshtastenstein.MeshRouter

open Lib

/-! ## What becomes of an entry -/

def fate (now : Nat) (entry : PendingPacket) : Option PendingPacket :=
  if now < entry.deadline then some entry
  else if 0 < entry.retriesLeft then some (retransmit now entry)
  else none

def copy (now : Nat) (entry : PendingPacket) : Option RadioFrame :=
  if now < entry.deadline then none
  else if 0 < entry.retriesLeft then some (retransmit now entry).frame
  else none

def report (now : Nat) (entry : PendingPacket) : Option (UInt32 × UInt32) :=
  if now < entry.deadline then none
  else if 0 < entry.retriesLeft then none
  else entry.bleNotify.map fun dest => (dest, entry.packetId)

variable {now : Nat} {entry : PendingPacket}

theorem fate_of_waiting (h : now < entry.deadline) :
    fate now entry = some entry ∧ copy now entry = none ∧ report now entry = none :=
  ⟨if_pos h, if_pos h, if_pos h⟩

theorem fate_of_retries (hdue : ¬ now < entry.deadline) (hretries : 0 < entry.retriesLeft) :
    fate now entry = some (retransmit now entry) ∧
    copy now entry = some (retransmit now entry).frame ∧ report now entry = none := by
  refine ⟨?_, ?_, ?_⟩
  · rw [fate, if_neg hdue, if_pos hretries]
  · rw [copy, if_neg hdue, if_pos hretries]
  · rw [report, if_neg hdue, if_pos hretries]

theorem fate_of_spent (hdue : ¬ now < entry.deadline) (hspent : ¬ 0 < entry.retriesLeft) :
    fate now entry = none ∧ copy now entry = none ∧
    report now entry = entry.bleNotify.map fun dest => (dest, entry.packetId) := by
  refine ⟨?_, ?_, ?_⟩
  · rw [fate, if_neg hdue, if_neg hspent]
  · rw [copy, if_neg hdue, if_neg hspent]
  · rw [report, if_neg hdue, if_neg hspent]

theorem fate_cases (now : Nat) (entry : PendingPacket) :
    (fate now entry = some entry ∧ copy now entry = none ∧ report now entry = none) ∨
    (0 < entry.retriesLeft ∧ fate now entry = some (retransmit now entry) ∧
      copy now entry = some (retransmit now entry).frame ∧ report now entry = none) ∨
    (fate now entry = none ∧ copy now entry = none ∧
      report now entry = entry.bleNotify.map fun dest => (dest, entry.packetId)) := by
  by_cases hwaits : now < entry.deadline
  · exact Or.inl (fate_of_waiting hwaits)
  by_cases hretries : 0 < entry.retriesLeft
  · exact Or.inr (Or.inl ⟨hretries, fate_of_retries hwaits hretries⟩)
  · exact Or.inr (Or.inr (fate_of_spent hwaits hretries))

/-! ## The pass as a sweep -/

theorem tickFrom_eq_sweep (steps i : Nat) (st : RetransmissionState) :
    (tickFrom now steps i st).pending.toList = Sweep.swept (fate now) steps i st.pending.toList ∧
    (tickFrom now steps i st).toSend = st.toSend ++
      (Sweep.visited (fate now) steps i st.pending.toList).filterMap (copy now) ∧
    (tickFrom now steps i st).gaveUp = st.gaveUp ++
      (Sweep.visited (fate now) steps i st.pending.toList).filterMap (report now) := by
  induction steps generalizing i st with
  | zero => exact ⟨rfl, (List.append_nil _).symm, (List.append_nil _).symm⟩
  | succ steps ih =>
      unfold tickFrom
      by_cases hi : i < st.pending.toList.length
      · rw [List.getElem?_eq_getElem hi]
        dsimp only
        by_cases hwaits : now < st.pending.toList[i].deadline
        · obtain ⟨hfate, hcopy, hreport⟩ := fate_of_waiting hwaits
          rw [if_pos hwaits, Sweep.swept_of_stays hi hfate, Sweep.visited_of_stays hi hfate,
            List.filterMap_cons_none hcopy, List.filterMap_cons_none hreport,
            List.set_getElem_self]
          exact ih (i + 1) st
        by_cases hretries : 0 < st.pending.toList[i].retriesLeft
        · obtain ⟨hfate, hcopy, hreport⟩ := fate_of_retries hwaits hretries
          obtain ⟨hpending, htoSend, hgaveUp⟩ := ih (i + 1)
            { st with
              pending := st.pending.set i (retransmit now st.pending.toList[i])
              nodeDb := retransmitNodeDb st.pending.toList[i] st.nodeDb
              toSend := st.toSend ++ [(retransmit now st.pending.toList[i]).frame] }
          rw [if_neg hwaits, if_pos hretries, Sweep.swept_of_stays hi hfate,
            Sweep.visited_of_stays hi hfate, List.filterMap_cons_some hcopy,
            List.filterMap_cons_none hreport]
          refine ⟨hpending, htoSend.trans ?_, hgaveUp⟩
          rw [List.append_assoc, List.singleton_append]
          rfl
        · obtain ⟨hfate, hcopy, hreport⟩ := fate_of_spent hwaits hretries
          obtain ⟨hpending, htoSend, hgaveUp⟩ := ih i
            { st with
              pending := st.pending.swapRemove i
              gaveUp := st.gaveUp ++ (report now st.pending.toList[i]).toList }
          rw [if_neg hwaits, if_neg hretries, Sweep.swept_of_goes hi hfate,
            Sweep.visited_of_goes hi hfate, List.filterMap_cons_none hcopy, ← hreport]
          refine ⟨hpending, htoSend, hgaveUp.trans ?_⟩
          rw [List.append_assoc, List.filterMap_cons]
          cases report now st.pending.toList[i] <;> rfl
      · have hend : st.pending.toList.length ≤ i := Nat.le_of_not_lt hi
        rw [List.getElem?_eq_none hend, Sweep.swept_of_ge hend, Sweep.visited_of_ge hend]
        exact ⟨rfl, (List.append_nil _).symm, (List.append_nil _).symm⟩

/-- With as many steps as there are entries left the loop has ended. -/
theorem tickFrom_add {steps i : Nat} {st : RetransmissionState}
    (h : st.pending.toList.length - i ≤ steps) (more : Nat) :
    tickFrom now (steps + more) i st = tickFrom now steps i st := by
  induction steps generalizing i st with
  | zero =>
      have hend : st.pending.toList.length ≤ i := by omega
      cases more with
      | zero => rfl
      | succ more =>
          rw [Nat.zero_add]
          unfold tickFrom
          rw [List.getElem?_eq_none hend]
  | succ steps ih =>
      rw [Nat.add_right_comm]
      unfold tickFrom
      cases hentry : st.pending.toList[i]? with
      | none => rfl
      | some entry =>
          dsimp only
          split
          · exact ih (by omega)
          split
          · refine ih ?_
            change (st.pending.toList.set i _).length - (i + 1) ≤ steps
            rw [List.length_set]
            omega
          · have hi : i < st.pending.toList.length := (List.getElem?_eq_some_iff.mp hentry).1
            refine ih ?_
            change (Bounded.swapRemoveList st.pending.toList i).length - i ≤ steps
            rw [Bounded.length_swapRemoveList]
            omega

/-! ## The whole pass -/

/-- A pass from `pending` to `result` does to every entry what is due, once. -/
structure Passes (now : Nat) (pending : PendingPackets) (result : RetransmissionState) :
    Prop where
  kept : result.pending.toList.Perm (pending.toList.filterMap (fate now))
  sent : result.toSend.Perm (pending.toList.filterMap (copy now))
  told : result.gaveUp.Perm (pending.toList.filterMap (report now))
  /-- Neither output grows beyond its capacity. -/
  fits : result.toSend.length ≤ 8 ∧ result.gaveUp.length ≤ 8

theorem tickRetransmissions_eq_sweep (now : Nat) (pending : PendingPackets) (db : NodeDb) :
    (tickRetransmissions now pending db).pending.toList =
      Sweep.swept (fate now) pending.length 0 pending.toList ∧
    (tickRetransmissions now pending db).toSend =
      (Sweep.visited (fate now) pending.length 0 pending.toList).filterMap (copy now) ∧
    (tickRetransmissions now pending db).gaveUp =
      (Sweep.visited (fate now) pending.length 0 pending.toList).filterMap (report now) :=
  @tickFrom_eq_sweep now pending.length 0
    { pending := pending, nodeDb := db, toSend := [], gaveUp := [] }

theorem passes_tickRetransmissions (now : Nat) (pending : PendingPackets) (db : NodeDb) :
    Passes now pending (tickRetransmissions now pending db) := by
  obtain ⟨hpending, htoSend, hgaveUp⟩ := tickRetransmissions_eq_sweep now pending db
  have hsteps : pending.toList.length - 0 ≤ pending.length := Nat.le_refl _
  have hvisited : (Sweep.visited (fate now) pending.length 0 pending.toList).Perm
      pending.toList := Sweep.perm_visited hsteps
  have hlength : (Sweep.visited (fate now) pending.length 0 pending.toList).length ≤ 8 :=
    hvisited.length_eq ▸ pending.length_le
  refine ⟨?_, ?_, ?_, ?_, ?_⟩
  · rw [hpending]
    exact Sweep.perm_swept hsteps
  · rw [htoSend]
    exact hvisited.filterMap (copy now)
  · rw [hgaveUp]
    exact hvisited.filterMap (report now)
  · rw [htoSend]
    exact Nat.le_trans (List.length_filterMap_le _ _) hlength
  · rw [hgaveUp]
    exact Nat.le_trans (List.length_filterMap_le _ _) hlength

/-- The pass ends: further steps of its loop change nothing. -/
theorem tickRetransmissions_ends (now : Nat) (pending : PendingPackets) (db : NodeDb)
    (more : Nat) :
    tickFrom now (pending.length + more) 0
        { pending := pending, nodeDb := db, toSend := [], gaveUp := [] } =
      tickRetransmissions now pending db :=
  @tickFrom_add now pending.length 0
    { pending := pending, nodeDb := db, toSend := [], gaveUp := [] } (Nat.le_refl _) more

end Meshtastenstein.MeshRouter
