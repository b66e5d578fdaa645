import Mathlib.Data.List.Count
import Meshtastenstein.Handlers.FromRadio
/-!
# The rebroadcast queue

Entries are found by sender and packet id, sent and given up by deadline, and written by
scheduling or by replacing the frame of an entry that is there.
-/

namespace Meshtastenstein

open Lib Handlers

deriving instance DecidableEq for PendingRebroadcast

/-! ## Keys -/

/-- Sender and packet id, by which the duplicate history and the queue know a packet. -/
abbrev PacketKey := UInt32 × UInt32

def PacketHeader.key (header : PacketHeader) : PacketKey := (header.sender, header.packetId)

namespace RadioFrame

def key (frame : RadioFrame) : Option PacketKey := frame.header.map PacketHeader.key

theorem key_withRewrittenHeader {frame : RadioFrame} {header : PacketHeader}
    (h : frame.header = some header) (hopLimit relayNode : UInt8) :
    (frame.withRewrittenHeader hopLimit relayNode).key = some header.key := by
  unfold key
  rw [header_withRewrittenHeader h, Option.map_some]
  rfl

end RadioFrame

namespace Handlers.FromRadio

theorem isRebroadcastOf_iff {header : PacketHeader} {p : PendingRebroadcast} :
    isRebroadcastOf header p = true ↔ p.frame.key = some header.key := by
  unfold isRebroadcastOf RadioFrame.key PacketHeader.key
  cases p.frame.header with
  | none => simp
  | some ph => simp

/-! ## The earliest deadline -/

theorem exists_earliestDue {pending : List PendingRebroadcast} (h : pending ≠ []) :
    ∃ i p, earliestDue pending = some i ∧ pending[i]? = some p ∧
      ∀ q ∈ pending, p.deadline ≤ q.deadline := by
  -- the entry that attains the least deadline is found
  obtain ⟨p, hp, hmin⟩ : ∃ p ∈ pending, ∀ q ∈ pending, p.deadline ≤ q.deadline := by
    induction pending with
    | nil => exact absurd rfl h
    | cons first rest ih =>
        by_cases hrest : rest = []
        · subst hrest
          exact ⟨first, List.mem_singleton_self first, by simp⟩
        · obtain ⟨p, hp, hmin⟩ := ih hrest
          by_cases hle : first.deadline ≤ p.deadline
          · refine ⟨first, List.mem_cons_self, ?_⟩
            intro q hq
            rcases List.mem_cons.mp hq with rfl | hq
            · exact Nat.le_refl _
            · exact Nat.le_trans hle (hmin q hq)
          · refine ⟨p, List.mem_cons_of_mem first hp, ?_⟩
            intro q hq
            rcases List.mem_cons.mp hq with rfl | hq
            · omega
            · exact hmin q hq
  cases hearliest : earliestDue pending with
  | none =>
      have hnone := List.findIdx?_eq_none_iff.mp hearliest p hp
      simp only [List.all_eq_false, decide_eq_true_eq] at hnone
      obtain ⟨q, hq, hlt⟩ := hnone
      exact absurd (hmin q hq) hlt
  | some i =>
      obtain ⟨hi, hall, -⟩ := List.findIdx?_eq_some_iff_getElem.mp hearliest
      refine ⟨i, pending[i], rfl, List.getElem?_eq_getElem hi, ?_⟩
      simpa using hall

/-! ## Scheduling -/

theorem toList_queueRebroadcast_of_lt {pending : Bounded PendingRebroadcast 8}
    (h : pending.length < 8) (entry : PendingRebroadcast) :
    (queueRebroadcast pending entry).toList = pending.toList ++ [entry] := by
  unfold queueRebroadcast
  rw [Bounded.push_of_lt pending entry h]

theorem toList_queueRebroadcast_of_full {pending : Bounded PendingRebroadcast 8}
    (h : ¬ pending.length < 8) (entry : PendingRebroadcast) :
    ∃ i evicted, earliestDue pending.toList = some i ∧ pending.toList[i]? = some evicted ∧
      (queueRebroadcast pending entry).toList = (pending.swapRemove i).toList ++ [entry] := by
  have hne : pending.toList ≠ [] := by
    intro hnil
    unfold Bounded.length at h
    rw [hnil] at h
    exact h (by simp)
  obtain ⟨i, evicted, hearliest, hevicted, -⟩ := exists_earliestDue hne
  have hroom : (pending.swapRemove i).length < 8 := by
    have hlength := Bounded.length_swapRemoveList pending.toList i
    have hle := pending.length_le
    unfold Bounded.length
    rw [Bounded.toList_swapRemove, hlength]
    omega
  refine ⟨i, evicted, hearliest, hevicted, ?_⟩
  unfold queueRebroadcast Bounded.pushOrDrop
  rw [Bounded.push_of_full pending entry h]
  dsimp only
  rw [hearliest]
  dsimp only
  rw [Bounded.push_of_lt _ entry hroom]
  rfl

/-- Scheduling adds the entry at the end and may cost one entry that was there. -/
theorem toList_queueRebroadcast (pending : Bounded PendingRebroadcast 8)
    (entry : PendingRebroadcast) :
    ∃ kept, kept.Subperm pending.toList ∧
      (queueRebroadcast pending entry).toList = kept ++ [entry] := by
  by_cases hroom : pending.length < 8
  · exact ⟨pending.toList, List.Subperm.refl _, toList_queueRebroadcast_of_lt hroom entry⟩
  · obtain ⟨i, evicted, -, hevicted, hqueue⟩ := toList_queueRebroadcast_of_full hroom entry
    refine ⟨(pending.swapRemove i).toList, ?_, hqueue⟩
    obtain ⟨hi, -⟩ := List.getElem?_eq_some_iff.mp hevicted
    have hperm := pending.perm_swapRemove i hi
    exact ((List.sublist_cons_self _ _).subperm).trans hperm.symm.subperm

end Handlers.FromRadio

/-! ## Written entries -/

/-- The entries of a queue that were not in it before. -/
def written (before after : Bounded PendingRebroadcast 8) : List PendingRebroadcast :=
  after.toList.diff before.toList

theorem count_pos_of_mem_written {before after : Bounded PendingRebroadcast 8}
    {entry : PendingRebroadcast} (h : entry ∈ written before after) :
    before.toList.count entry < after.toList.count entry := by
  have hpos := List.count_pos_iff.mpr h
  unfold written at hpos
  rw [List.count_diff] at hpos
  omega

theorem mem_or_mem_written {before after : Bounded PendingRebroadcast 8}
    {entry : PendingRebroadcast} (h : entry ∈ after.toList) :
    entry ∈ before.toList ∨ entry ∈ written before after := by
  by_cases hbefore : entry ∈ before.toList
  · exact Or.inl hbefore
  · right
    have hcount : 0 < (written before after).count entry := by
      unfold written
      rw [List.count_diff, List.count_eq_zero.mpr hbefore]
      exact List.count_pos_iff.mpr h
    exact List.count_pos_iff.mp hcount

theorem written_eq_nil_of_subperm {before after : Bounded PendingRebroadcast 8}
    (h : after.toList.Subperm before.toList) : written before after = [] := by
  apply List.eq_nil_iff_forall_not_mem.mpr
  intro entry hentry
  have hcount := count_pos_of_mem_written hentry
  have hle := h.count_le entry
  omega

theorem mem_of_mem_written {before after : Bounded PendingRebroadcast 8}
    {kept new : List PendingRebroadcast} (hkept : kept.Subperm before.toList)
    (hafter : after.toList.Perm (kept ++ new)) {entry : PendingRebroadcast}
    (h : entry ∈ written before after) : entry ∈ new := by
  have hcount := count_pos_of_mem_written h
  have hle := hkept.count_le entry
  rw [hafter.count_eq, List.count_append] at hcount
  exact List.count_pos_iff.mp (by omega)

end Meshtastenstein
