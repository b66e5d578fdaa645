import Meshtastenstein.Relaying
import Meshtastenstein.RelayOnce
/-!
# Which copy of a packet is the better one

A duplicate is compared with the relay that is queued, whose frame already has one hop less
than the copy it was made from.  A copy that is as good as the best one so far then counts
for a better one, and is not taken for the relay of another node.
-/

namespace Meshtastenstein

open Lib Proto Handlers

/-! ## The relays of one packet -/

namespace RelayState

def relaysOf (st : RelayState) (key : PacketKey) : List PendingRebroadcast :=
  st.queue.toList.filter fun p => p.frame.key == some key

def pendingHop (st : RelayState) (header : PacketHeader) : Option UInt8 :=
  (st.queue.toList.find? (FromRadio.isRebroadcastOf header)).bind fun p =>
    p.frame.header.map (·.hopLimit)

theorem length_relaysOf (st : RelayState) (key : PacketKey) :
    (st.relaysOf key).length = st.pendingOf key :=
  List.countP_eq_length_filter.symm

theorem pendingHop_eq (st : RelayState) (header : PacketHeader) :
    st.pendingHop header =
      ((st.relaysOf header.key).head?).bind fun p => p.frame.header.map (·.hopLimit) := by
  have hsame : FromRadio.isRebroadcastOf header = fun p => p.frame.key == some header.key := by
    funext p
    rw [Bool.eq_iff_iff, FromRadio.isRebroadcastOf_iff, beq_iff_eq]
  unfold pendingHop relaysOf
  rw [List.head?_filter, hsame]

/-! ### What keeps the relays of the other packets -/

theorem relaysOf_schedule_of_ne {st : RelayState} {frame : RadioFrame} {header : PacketHeader}
    (hheader : frame.header = some header) (deadline : Nat) {key : PacketKey}
    (hkey : header.key ≠ key) :
    ((st.schedule frame header deadline).relaysOf key).Subperm (st.relaysOf key) := by
  obtain ⟨kept, hkept, hqueue⟩ := FromRadio.toList_queueRebroadcast st.queue
    { frame := st.relayed frame header, deadline := deadline }
  have hqueue' : (st.schedule frame header deadline).queue.toList = kept ++
      [{ frame := st.relayed frame header, deadline := deadline }] := hqueue
  have hother : ((st.relayed frame header).key == some key) = false := by
    rw [st.key_relayed hheader]
    simpa using hkey
  unfold relaysOf
  rw [hqueue', List.filter_append, List.filter_singleton, hother]
  simpa using hkept.filter fun p => p.frame.key == some key

theorem relaysOf_upgrade_of_ne {st : RelayState} {frame : RadioFrame} {header : PacketHeader}
    (hheader : frame.header = some header) {key : PacketKey} (hkey : header.key ≠ key) :
    ((st.upgrade frame header).relaysOf key).Subperm (st.relaysOf key) := by
  rcases st.upgrade_cases frame header with hsame | ⟨old, kept, hold, hbefore, hafter⟩
  · rw [hsame]
  · have hbefore' := hbefore.filter fun p => p.frame.key == some key
    have hafter' := hafter.filter fun p => p.frame.key == some key
    rw [List.filter_cons_of_neg (by simp [hold, hkey])] at hbefore'
    rw [List.filter_cons_of_neg (by simp [st.key_relayed hheader, hkey])] at hafter'
    exact (hafter'.trans hbefore'.symm).subperm

theorem relaysOf_cancel (st : RelayState) (header : PacketHeader) (key : PacketKey) :
    ((st.cancel header).relaysOf key).Subperm (st.relaysOf key) :=
  (List.filter_sublist.filter _).subperm

theorem relaysOf_fire (st : RelayState) (now : Nat) (key : PacketKey) :
    ((st.fire now).relaysOf key).Subperm (st.relaysOf key) :=
  (st.queue_fire_subperm now).filter _

theorem relaysOf_hear_of_ne (st : RelayState) {frame : RadioFrame} {header : PacketHeader}
    (hheader : frame.header = some header) (role : DeviceRole) (deadline : Option Nat)
    {key : PacketKey} (hkey : header.key ≠ key) :
    ((st.hear frame header role deadline).relaysOf key).Subperm (st.relaysOf key) := by
  cases hfilter : st.filter header role with
  | mk verdict router =>
      cases verdict with
      | new =>
          rw [hear_of_new hfilter]
          cases deadline with
          | some deadline => exact relaysOf_schedule_of_ne hheader deadline hkey
          | none => exact List.Subperm.refl _
      | duplicateUpgrade hopLimit =>
          rw [hear_of_upgrade hfilter]
          exact relaysOf_upgrade_of_ne hheader hkey
      | duplicateCancelRelay =>
          rw [hear_of_cancel hfilter]
          exact relaysOf_cancel _ header key
      | duplicateDrop =>
          rw [hear_of_drop hfilter]
          exact List.Subperm.refl _

theorem relaysOf_hearBlind_of_ne (st : RelayState) {frame : RadioFrame} {header : PacketHeader}
    (hheader : frame.header = some header) (deadline : Nat) {key : PacketKey}
    (hkey : header.key ≠ key) :
    ((st.hearBlind frame header deadline).relaysOf key).Subperm (st.relaysOf key) := by
  unfold hearBlind
  dsimp only
  split
  · exact relaysOf_schedule_of_ne hheader deadline hkey
  · exact List.Subperm.refl _

/-! ### What a copy does to the relay of its packet -/

theorem filter_of_known {st : RelayState} {header : PacketHeader} {role : DeviceRole}
    (hknown : (st.filter header role).1 ≠ .new) :
    (st.filter header role).1 =
      if (st.pendingHop header).any (· < header.hopLimit) then
        .duplicateUpgrade (header.hopLimit - 1)
      else if MeshRouter.roleAllowsCancel role ∧ header.relayNode ≠ 0 ∧
          header.relayNode ≠ lastByte st.router.ourNodeNum then
        .duplicateCancelRelay
      else .duplicateDrop := by
  cases hfind : st.router.findRecord header.sender header.packetId with
  | none =>
      refine absurd ?_ hknown
      unfold filter MeshRouter.shouldFilterReceived
      rw [hfind]
  | some idx =>
      have hfilter := MeshRouter.shouldFilterReceived_of_find hfind header.hopLimit
        header.relayNode (st.pendingHop header) role
      have hverdict : (st.filter header role).1 =
          (st.router.shouldFilterReceived header.sender header.packetId header.hopLimit
            header.relayNode (st.pendingHop header) role).1 := rfl
      rw [hverdict, hfilter]
      split
      · rfl
      · split <;> rfl

theorem relaysOf_upgrade {st : RelayState} {frame : RadioFrame} {header : PacketHeader}
    {p : PendingRebroadcast} (hheader : frame.header = some header)
    (hp : st.relaysOf header.key = [p]) :
    (st.upgrade frame header).relaysOf header.key =
      [{ p with frame := st.relayed frame header }] := by
  have hrelay : ((st.relayed frame header).key == some header.key) = true := by
    rw [st.key_relayed hheader, beq_self_eq_true]
  unfold relaysOf at hp ⊢
  cases hfind : st.queue.toList.findIdx? (FromRadio.isRebroadcastOf header) with
  | none =>
      have hmem : p ∈ st.queue.toList.filter fun p => p.frame.key == some header.key := by
        rw [hp]
        exact List.mem_singleton_self p
      obtain ⟨hqueued, hkey⟩ := List.mem_filter.mp hmem
      have hnone := List.findIdx?_eq_none_iff.mp hfind p hqueued
      rw [FromRadio.isRebroadcastOf_iff.mpr (by simpa using hkey)] at hnone
      cases hnone
  | some i =>
      obtain ⟨hi, hentry, hbefore⟩ := List.findIdx?_eq_some_iff_getElem.mp hfind
      -- the relays before the first match are of other packets
      have htake : (st.queue.toList.take i).filter (fun p => p.frame.key == some header.key) =
          [] := by
        apply List.filter_eq_nil_iff.mpr
        intro q hq hkey
        obtain ⟨j, hj, rfl⟩ := List.mem_take_iff_getElem.mp hq
        exact hbefore j (by omega) (FromRadio.isRebroadcastOf_iff.mpr (by simpa using hkey))
      have hkey : ((st.queue.toList[i]).frame.key == some header.key) = true := by
        rw [FromRadio.isRebroadcastOf_iff.mp hentry, beq_self_eq_true]
      have hsplit : st.queue.toList =
          st.queue.toList.take i ++ st.queue.toList[i] :: st.queue.toList.drop (i + 1) := by
        rw [← List.drop_eq_getElem_cons hi, List.take_append_drop]
      rw [hsplit, List.filter_append, htake, List.nil_append, List.filter_cons, if_pos hkey,
        List.cons.injEq] at hp
      obtain ⟨rfl, hdrop⟩ := hp
      unfold upgrade
      rw [hfind]
      dsimp only
      rw [List.modify_eq_take_cons_drop hi, List.filter_append, htake, List.nil_append,
        List.filter_cons, if_pos hrelay, hdrop]

theorem header_relayed (st : RelayState) {frame : RadioFrame} {header : PacketHeader}
    (hheader : frame.header = some header) (hsender : header.sender ≠ st.nodeNum)
    (hhop : header.hopLimit ≠ 0) :
    ∃ relay, (st.relayed frame header).header = some relay ∧
      relay.hopLimit.toNat + 1 = header.hopLimit.toNat := by
  obtain ⟨header', relay, hheader', hrelay, hrelayOf⟩ :=
    (st.isRelayOf_relayed hheader hsender hhop).headers
  obtain rfl := Option.some.inj (hheader.symm.trans hheader')
  exact ⟨relay, hrelay, hrelayOf.hopLimit_eq⟩

theorem relaysOf_cancel_self (st : RelayState) (header : PacketHeader) :
    (st.cancel header).relaysOf header.key = [] := by
  apply List.filter_eq_nil_iff.mpr
  intro p hp hkey
  have hkept := (List.mem_filter.mp hp).2
  rw [FromRadio.isRebroadcastOf_iff.mpr (by simpa using hkey)] at hkept
  cases hkept

/-- The only relay of the packet that is queued, if there is one, is of the best copy so
far. -/
def RelaysBest (st : RelayState) (key : PacketKey) (hops : List Nat) : Prop :=
  st.relaysOf key = [] ∨
    ∃ p header, st.relaysOf key = [p] ∧ p.frame.header = some header ∧
      hops.max? = some (header.hopLimit.toNat + 1)

namespace RelaysBest

variable {st st' : RelayState} {key : PacketKey} {hops : List Nat}

theorem of_subperm (h : st.RelaysBest key hops)
    (hsub : (st'.relaysOf key).Subperm (st.relaysOf key)) : st'.RelaysBest key hops := by
  rcases h with hnone | ⟨p, header, hp, hheader, hbest⟩
  · rw [hnone] at hsub
    exact Or.inl (List.subperm_nil.mp hsub)
  · rw [hp] at hsub
    cases hrelays : st'.relaysOf key with
    | nil => exact Or.inl hrelays
    | cons q rest =>
        rw [hrelays] at hsub
        have hrest : rest = [] := by
          have hlength := hsub.length_le
          simpa using hlength
        subst hrest
        have hsame : q = p := by
          have hmem := hsub.subset List.mem_cons_self
          simpa using hmem
        subst hsame
        exact Or.inr ⟨q, header, hrelays, hheader, hbest⟩

theorem hear_of_new {frame : RadioFrame} {header : PacketHeader} {role : DeviceRole}
    {deadline : Option Nat} (hinput : RelayInput.Admissible st.nodeNum
      (.heard frame header role deadline))
    (hnew : (st.filter header role).1 = .new) (hnone : st.relaysOf header.key = []) :
    (st.hear frame header role deadline).RelaysBest header.key [header.hopLimit.toNat] := by
  obtain ⟨hheader, hsender, hhops⟩ := hinput
  cases hfilter : st.filter header role with
  | mk verdict router =>
      rw [hfilter] at hnew
      obtain rfl : verdict = .new := hnew
      rw [RelayState.hear_of_new hfilter]
      cases deadline with
      | none => exact Or.inl hnone
      | some deadline =>
          let relay : PendingRebroadcast := ⟨st.relayed frame header, deadline⟩
          obtain ⟨kept, hkept, hqueue⟩ := FromRadio.toList_queueRebroadcast st.queue relay
          have hqueue' : ({ st with router := router }.schedule frame header
              deadline).queue.toList = kept ++ [relay] := hqueue
          have hothers : kept.filter (fun p => p.frame.key == some header.key) = [] := by
            have hsub := hkept.filter fun p => p.frame.key == some header.key
            unfold relaysOf at hnone
            rw [hnone] at hsub
            exact List.subperm_nil.mp hsub
          have hrelay : (relay.frame.key == some header.key) = true := by
            rw [st.key_relayed hheader, beq_self_eq_true]
          obtain ⟨relayHeader, hrelayHeader, hhop⟩ :=
            st.header_relayed hheader hsender (hhops rfl)
          refine Or.inr ⟨relay, relayHeader, ?_, hrelayHeader, ?_⟩
          · unfold relaysOf
            rw [hqueue', List.filter_append, hothers, List.nil_append, List.filter_cons,
              if_pos hrelay, List.filter_nil]
          · rw [hhop]
            rfl

end RelaysBest

theorem max?_concat {hops : List Nat} {best : Nat} (h : hops.max? = some best) (hop : Nat) :
    (hops ++ [hop]).max? = some (max best hop) := by
  obtain ⟨hmem, hle⟩ := List.max?_eq_some_iff.mp h
  apply List.max?_eq_some_iff.mpr
  constructor
  · rcases Nat.le_total best hop with hmax | hmax
    · rw [Nat.max_eq_right hmax]
      simp
    · rw [Nat.max_eq_left hmax]
      simp [hmem]
  · intro other hother
    rcases List.mem_append.mp hother with hother | hother
    · exact Nat.le_trans (hle other hother) (Nat.le_max_left _ _)
    · rw [List.mem_singleton.mp hother]
      exact Nat.le_max_right _ _

/-! ### Judging a copy by its hops -/

/-- A duplicate is an upgrade only when it has more hops left than every copy before it, and
then the queued relay gains some.  Any other that a node but ours relayed cancels the queued
relay, where the role allows. -/
structure JudgedByHops (st : RelayState) (frame : RadioFrame) (header : PacketHeader)
    (role : DeviceRole) (deadline : Option Nat) (earlier : List Nat) : Prop where
  only_better : ∀ hop, (st.filter header role).1 = .duplicateUpgrade hop →
    ∀ limit ∈ earlier, limit < header.hopLimit.toNat
  grows : ∀ hop limit, (st.filter header role).1 = .duplicateUpgrade hop →
    st.pendingHop header = some limit →
    ∃ limit', (st.hear frame header role deadline).pendingHop header = some limit' ∧
      limit < limit'
  others_cancel : ¬ (∀ limit ∈ earlier, limit < header.hopLimit.toNat) →
    MeshRouter.roleAllowsCancel role → header.relayNode ≠ 0 →
    header.relayNode ≠ lastByte st.router.ourNodeNum →
    (st.hear frame header role deadline).relaysOf header.key = []

theorem hear_of_known {st : RelayState} {frame : RadioFrame} {header : PacketHeader}
    {role : DeviceRole} {deadline : Option Nat} {p : PendingRebroadcast}
    {pendingHeader : PacketHeader} (hinput : RelayInput.Admissible st.nodeNum
      (.heard frame header role deadline)) (hknown : (st.filter header role).1 ≠ .new)
    (hp : st.relaysOf header.key = [p]) (hpending : p.frame.header = some pendingHeader) :
    (pendingHeader.hopLimit < header.hopLimit ∧
      (st.filter header role).1 = .duplicateUpgrade (header.hopLimit - 1) ∧
      ∃ relay relayHeader, (st.hear frame header role deadline).relaysOf header.key = [relay] ∧
        relay.frame.header = some relayHeader ∧
        relayHeader.hopLimit.toNat + 1 = header.hopLimit.toNat) ∨
    (¬ pendingHeader.hopLimit < header.hopLimit ∧
      (∀ hop, (st.filter header role).1 ≠ .duplicateUpgrade hop) ∧
      if MeshRouter.roleAllowsCancel role ∧ header.relayNode ≠ 0 ∧
          header.relayNode ≠ lastByte st.router.ourNodeNum then
        (st.hear frame header role deadline).relaysOf header.key = []
      else (st.hear frame header role deadline).relaysOf header.key = [p]) := by
  obtain ⟨hheader, hsender, -⟩ := hinput
  have hverdict := filter_of_known hknown
  have hlimit : st.pendingHop header = some pendingHeader.hopLimit := by
    rw [pendingHop_eq, hp, List.head?_cons, Option.bind_some, hpending, Option.map_some]
  have hany : (st.pendingHop header).any (· < header.hopLimit) =
      decide (pendingHeader.hopLimit < header.hopLimit) := by
    rw [hlimit]
    rfl
  rw [hany] at hverdict
  by_cases hbetter : pendingHeader.hopLimit < header.hopLimit
  · rw [if_pos (decide_eq_true hbetter)] at hverdict
    refine Or.inl ⟨hbetter, hverdict, ?_⟩
    cases hfilter : st.filter header role with
    | mk verdict router =>
        rw [hfilter] at hverdict
        obtain rfl : verdict = .duplicateUpgrade (header.hopLimit - 1) := hverdict
        obtain ⟨relayHeader, hrelayHeader, hhop⟩ :=
          st.header_relayed hheader hsender (hopLimit_ne_zero_of_upgrade hfilter)
        rw [hear_of_upgrade hfilter]
        exact ⟨_, relayHeader, relaysOf_upgrade hheader hp, hrelayHeader, hhop⟩
  · rw [if_neg (by simpa using hbetter)] at hverdict
    refine Or.inr ⟨hbetter, ?_, ?_⟩
    · intro hop
      rw [hverdict]
      split <;> simp
    · split at hverdict
      · rename_i hcancel
        rw [if_pos hcancel]
        cases hfilter : st.filter header role with
        | mk verdict router =>
            rw [hfilter] at hverdict
            obtain rfl : verdict = .duplicateCancelRelay := hverdict
            rw [hear_of_cancel hfilter]
            exact relaysOf_cancel_self _ header
      · rename_i hstays
        rw [if_neg hstays]
        cases hfilter : st.filter header role with
        | mk verdict router =>
            rw [hfilter] at hverdict
            obtain rfl : verdict = .duplicateDrop := hverdict
            rw [hear_of_drop hfilter]
            exact hp

/-- A copy is judged rightly unless it is exactly as good as the best one before it. -/
theorem judgedByHops_iff {st : RelayState} {frame : RadioFrame} {header : PacketHeader}
    {role : DeviceRole} {deadline : Option Nat} {hops : List Nat}
    (h : st.RelaysBest header.key hops) (hinput : RelayInput.Admissible st.nodeNum
      (.heard frame header role deadline)) (hknown : (st.filter header role).1 ≠ .new)
    (hqueued : st.relaysOf header.key ≠ []) :
    st.JudgedByHops frame header role deadline hops ↔
      hops.max? ≠ some header.hopLimit.toNat := by
  obtain ⟨p, pendingHeader, hp, hpending, hbest⟩ := h.resolve_left hqueued
  obtain ⟨hmem, hmax⟩ := List.max?_eq_some_iff.mp hbest
  rw [hbest, Ne, Option.some.injEq]
  have hlimit : st.pendingHop header = some pendingHeader.hopLimit := by
    rw [pendingHop_eq, hp, List.head?_cons, Option.bind_some, hpending, Option.map_some]
  rcases hear_of_known hinput hknown hp hpending with
    ⟨hbetter, hverdict, relay, relayHeader, hrelay, hrelayHeader, hhop⟩ |
    ⟨hworse, hverdict, hafter⟩
  · have hless := UInt8.lt_iff_toNat_lt.mp hbetter
    constructor
    · intro hjudged hequal
      have hcopy := hjudged.only_better _ hverdict _ hmem
      omega
    · intro hdiffers
      have hall : ∀ limit ∈ hops, limit < header.hopLimit.toNat := by
        intro limit hlimit
        have hle := hmax limit hlimit
        omega
      refine ⟨fun _ _ => hall, ?_, fun hnot => absurd hall hnot⟩
      intro hop limit _ hfound
      obtain rfl : pendingHeader.hopLimit = limit := Option.some.inj (hlimit.symm.trans hfound)
      refine ⟨relayHeader.hopLimit, ?_, ?_⟩
      · rw [pendingHop_eq, hrelay, List.head?_cons, Option.bind_some, hrelayHeader,
          Option.map_some]
      · rw [UInt8.lt_iff_toNat_lt]
        omega
  · have hle : header.hopLimit.toNat ≤ pendingHeader.hopLimit.toNat := by
      rw [UInt8.lt_iff_toNat_lt] at hworse
      omega
    refine iff_of_true ?_ (by omega)
    refine ⟨fun hop hupgrade => absurd hupgrade (hverdict hop),
      fun hop _ hupgrade => absurd hupgrade (hverdict hop), ?_⟩
    intro _ hrole hrelayed hother
    rwa [if_pos ⟨hrole, hrelayed, hother⟩] at hafter

/-- However a copy is judged, what stays queued is of the best one. -/
theorem RelaysBest.hear {st : RelayState} {frame : RadioFrame} {header : PacketHeader}
    {role : DeviceRole} {deadline : Option Nat} {hops : List Nat}
    (h : st.RelaysBest header.key hops) (hinput : RelayInput.Admissible st.nodeNum
      (.heard frame header role deadline)) (hknown : (st.filter header role).1 ≠ .new) :
    (st.hear frame header role deadline).RelaysBest header.key
      (hops ++ [header.hopLimit.toNat]) := by
  rcases h with hnone | ⟨p, pendingHeader, hp, hpending, hbest⟩
  · have hempty := (st.pendingOf_hear_le hinput.1 role deadline header.key)
    have hnew : st.newKey (.heard frame header role deadline) = none := if_neg hknown
    rw [hnew, ← length_relaysOf, ← length_relaysOf, hnone] at hempty
    exact Or.inl (List.length_eq_zero_iff.mp (Nat.le_zero.mp hempty))
  · have hmax := max?_concat hbest header.hopLimit.toNat
    rcases hear_of_known hinput hknown hp hpending with
      ⟨hbetter, -, relay, relayHeader, hrelay, hrelayHeader, hhop⟩ | ⟨hworse, -, hafter⟩
    · have hless := UInt8.lt_iff_toNat_lt.mp hbetter
      refine Or.inr ⟨relay, relayHeader, hrelay, hrelayHeader, ?_⟩
      rw [hmax, hhop, Nat.max_eq_right (by omega)]
    · rw [UInt8.lt_iff_toNat_lt] at hworse
      split at hafter
      · exact Or.inl hafter
      · refine Or.inr ⟨p, pendingHeader, hafter, hpending, ?_⟩
        rw [hmax, Nat.max_eq_left (by omega)]

end RelayState

/-! ## Runs that receive copies of one packet -/

/-- A copy for the duplicate detection to judge: a first one would be relayed by the
deadline, if there is one. -/
structure HeardCopy where
  frame : RadioFrame
  header : PacketHeader
  role : DeviceRole
  deadline : Option Nat

def RelayInput.copyOf (key : PacketKey) : RelayInput → Option HeardCopy
  | .heard frame header role deadline =>
      if header.key = key then some ⟨frame, header, role, deadline⟩ else none
  | _ => none

/-- The input passes the packet on only for a copy that decoded, and takes only the first
copy for new. -/
def RelayInput.Follows (st : RelayState) (key : PacketKey) (hops : List Nat) :
    RelayInput → Prop
  | .heard _ header role _ =>
      header.key = key → (st.filter header role).1 = .new → hops = []
  | .blind _ header _ => header.key ≠ key
  | .due _ => True
  | .reset _ => True

instance (st : RelayState) (key : PacketKey) (hops : List Nat) (input : RelayInput) :
    Decidable (input.Follows st key hops) :=
  match input with
  | .heard _ header role _ =>
      inferInstanceAs (Decidable (header.key = key → (st.filter header role).1 = .new → hops = []))
  | .blind _ header _ => inferInstanceAs (Decidable (header.key ≠ key))
  | .due _ => inferInstanceAs (Decidable True)
  | .reset _ => inferInstanceAs (Decidable True)

namespace RelayState

theorem RelaysBest.step_heard {st : RelayState} {key : PacketKey} {hops : List Nat}
    {frame : RadioFrame} {header : PacketHeader} {role : DeviceRole} {deadline : Option Nat}
    (h : st.RelaysBest key hops)
    (hinput : RelayInput.Admissible st.nodeNum (.heard frame header role deadline))
    (hfollows : RelayInput.Follows st key hops (.heard frame header role deadline)) :
    (st.hear frame header role deadline).RelaysBest key
      (hops ++ ((RelayInput.copyOf key (.heard frame header role deadline)).map
        (·.header.hopLimit.toNat)).toList) := by
  by_cases hkey : header.key = key
  · subst hkey
    have hcopy : RelayInput.copyOf header.key (.heard frame header role deadline) =
        some ⟨frame, header, role, deadline⟩ := if_pos rfl
    rw [hcopy, Option.map_some, Option.toList_some]
    by_cases hnew : (st.filter header role).1 = .new
    · rw [hfollows rfl hnew] at h ⊢
      have hnone : st.relaysOf header.key = [] := by
        rcases h with hnone | ⟨_, _, _, _, hmax⟩
        · exact hnone
        · cases hmax
      exact RelaysBest.hear_of_new hinput hnew hnone
    · exact h.hear hinput hnew
  · have hother : RelayInput.copyOf key (.heard frame header role deadline) = none :=
      if_neg hkey
    rw [hother, Option.map_none, Option.toList_none, List.append_nil]
    exact h.of_subperm (relaysOf_hear_of_ne _ hinput.1 role deadline hkey)

theorem RelaysBest.step {st : RelayState} {key : PacketKey} {hops : List Nat}
    {input : RelayInput} (h : st.RelaysBest key hops) (hinput : input.Admissible st.nodeNum)
    (hfollows : input.Follows st key hops) :
    (st.step input).RelaysBest key
      (hops ++ ((input.copyOf key).map (·.header.hopLimit.toNat)).toList) := by
  cases input with
  | heard frame header role deadline => exact h.step_heard hinput hfollows
  | blind frame header deadline =>
      unfold RelayInput.copyOf
      rw [Option.map_none, Option.toList_none, List.append_nil]
      exact h.of_subperm (relaysOf_hearBlind_of_ne _ hinput.1 deadline hfollows)
  | due now =>
      unfold RelayInput.copyOf
      rw [Option.map_none, Option.toList_none, List.append_nil]
      exact h.of_subperm (relaysOf_fire _ now key)
  | reset nodeNum => exact Or.inl rfl

end RelayState

structure CopyRun (S : Type) where
  state : MeshState S
  hops : List Nat

namespace CopyRun

variable {S : Type} [MeshStorage S] (env : Env) (key : PacketKey)

def copyIn (run : CopyRun S) (event : MeshState.Event) : Option HeardCopy :=
  (MeshState.workInput env run.state event).bind (RelayInput.copyOf key)

def step (run : CopyRun S) (event : MeshState.Event) : CopyRun S where
  state := MeshState.step env run.state event
  hops := run.hops ++ ((run.copyIn env key event).map (·.header.hopLimit.toNat)).toList

/-- The node stays up, what it receives of the packet decodes, and only the first copy is
new. -/
def FollowsPacket (run : CopyRun S) (event : MeshState.Event) : Prop :=
  MeshState.restarts env run.state event = false ∧
    ∀ input ∈ MeshState.workInput env run.state event,
      input.Follows run.state.ctx.relayState key run.hops

instance (run : CopyRun S) (event : MeshState.Event) :
    Decidable (FollowsPacket env key run event) :=
  inferInstanceAs (Decidable (_ ∧ _))

/-- While a relay of the packet is queued, its copies are judged by their hops. -/
def JudgesByHops (run : CopyRun S) (event : MeshState.Event) : Prop :=
  ∀ copy ∈ run.copyIn env key event, run.state.ctx.relayState.relaysOf key ≠ [] →
    run.state.ctx.relayState.JudgedByHops copy.frame copy.header copy.role copy.deadline
      run.hops

/-- While a relay of the packet is queued, no copy is exactly as good as the best one before
it. -/
def DiffersFromBest (run : CopyRun S) (event : MeshState.Event) : Prop :=
  ∀ copy ∈ run.copyIn env key event, run.state.ctx.relayState.relaysOf key ≠ [] →
    run.hops.max? ≠ some copy.header.hopLimit.toNat

instance (run : CopyRun S) (event : MeshState.Event) :
    Decidable (DiffersFromBest env key run event) :=
  inferInstanceAs (Decidable (∀ _ ∈ _, _))

variable {env key}

def Best (key : PacketKey) (run : CopyRun S) : Prop :=
  run.state.ctx.relayState.RelaysBest key run.hops

theorem heard_of_copyIn {run : CopyRun S} {event : MeshState.Event} {copy : HeardCopy}
    (hcopy : copy ∈ run.copyIn env key event) :
    copy.header.key = key ∧ MeshState.workInput env run.state event =
        some (.heard copy.frame copy.header copy.role copy.deadline) ∧
      RelayInput.Admissible run.state.ctx.relayState.nodeNum
        (.heard copy.frame copy.header copy.role copy.deadline) := by
  obtain ⟨input, hinput, hof⟩ := Option.bind_eq_some_iff.mp hcopy
  cases input with
  | heard frame header role deadline =>
      obtain ⟨hkey, hsame⟩ := Option.ite_none_right_eq_some.mp hof
      cases hsame
      exact ⟨hkey, hinput, MeshState.admissible_workInput hinput⟩
  | _ => cases hof

theorem not_new_of_queued {run : CopyRun S} {event : MeshState.Event} {copy : HeardCopy}
    (hbest : Best key run) (hfollows : FollowsPacket env key run event)
    (hcopy : copy ∈ run.copyIn env key event)
    (hqueued : run.state.ctx.relayState.relaysOf key ≠ []) :
    (run.state.ctx.relayState.filter copy.header copy.role).1 ≠ .new := by
  obtain ⟨hkey, hinput, -⟩ := heard_of_copyIn hcopy
  intro hnew
  have hnone : run.hops = [] := hfollows.2 _ hinput hkey hnew
  obtain ⟨p, header, -, -, hmax⟩ := hbest.resolve_left hqueued
  rw [hnone] at hmax
  cases hmax

theorem judgesByHops_step_iff {run : CopyRun S} {event : MeshState.Event} (hbest : Best key run)
    (hfollows : FollowsPacket env key run event) :
    JudgesByHops env key run event ↔ DiffersFromBest env key run event := by
  apply forall₂_congr
  intro copy hcopy
  apply forall_congr'
  intro hqueued
  have hknown := not_new_of_queued hbest hfollows hcopy hqueued
  obtain ⟨rfl, -, hadmissible⟩ := heard_of_copyIn hcopy
  exact RelayState.judgedByHops_iff hbest hadmissible hknown hqueued

theorem best_step {run : CopyRun S} {event : MeshState.Event} (hbest : Best key run)
    (hfollows : FollowsPacket env key run event) : Best key (run.step env key event) := by
  obtain ⟨hup, hfollow⟩ := hfollows
  have hrelay : (run.step env key event).state.ctx.relayState =
      (MeshState.workInput env run.state event).toList.foldl RelayState.step
        run.state.ctx.relayState := by
    rw [← MeshState.relayState_handled]
    exact (MeshState.step_of_not_restarts hup).relayState_eq
  unfold Best
  rw [hrelay]
  unfold step copyIn
  dsimp only
  cases hinput : MeshState.workInput env run.state event with
  | none =>
      rw [Option.bind_none, Option.map_none, Option.toList_none, Option.toList_none,
        List.append_nil]
      exact hbest
  | some input =>
      have hadmissible := MeshState.admissible_workInput hinput
      rw [Option.bind_some, Option.toList_some, List.foldl_cons, List.foldl_nil]
      exact hbest.step hadmissible (hfollow input hinput)

/-- Every copy of a packet is judged by its hops exactly in the runs that bring no copy as
good as the best one before it while a relay is queued. -/
theorem judgesByHops_iff {state : MeshState S} {events : List MeshState.Event}
    (hidle : state.ctx.relayState.pendingOf key = 0)
    (hfollows : Transition.Always (step env key) (FollowsPacket env key) ⟨state, []⟩ events) :
    Transition.Always (step env key) (JudgesByHops env key) ⟨state, []⟩ events ↔
      Transition.Always (step env key) (DiffersFromBest env key) ⟨state, []⟩ events := by
  have hinit : Best key (⟨state, []⟩ : CopyRun S) := by
    left
    rw [← RelayState.length_relaysOf] at hidle
    exact List.length_eq_zero_iff.mp hidle
  exact @Transition.always_congr_of_always _ _ (step env key) (Best key) (FollowsPacket env key)
    (JudgesByHops env key) (DiffersFromBest env key)
    (fun _ _ hbest hfollow => judgesByHops_step_iff hbest hfollow)
    (fun _ _ hbest hfollow _ => best_step hbest hfollow) _ _ hinit hfollows

/-- A copy of a broadcast of node `0x11223344`, sent with five hops to go. -/
def floodCopy (hopsLeft relayNode : UInt8) : RadioFrame where
  bytes :=
    [0xff, 0xff, 0xff, 0xff, 0x44, 0x33, 0x22, 0x11, 0x09, 0x00, 0x00, 0x00, 0xa0 ||| hopsLeft,
     0x08, 0x00, relayNode, 0x66, 0x07, 0x3c, 0x1c, 0xb0, 0x6a]
  length_le := by simp [MAX_LORA_PAYLOAD_LEN]

def heardCopy (hopsLeft relayNode : UInt8) : MeshState.Event :=
  .mesh (.loraRx (floodCopy hopsLeft relayNode) ⟨0, 0⟩)

def bootedCopy : CopyRun FakeStorage where
  state := MeshState.boot KnownAnswers.defaultKey.env KnownAnswers.mac ({} : FakeStorage)
    KnownAnswers.noKeypair KnownAnswers.noEntropy
  hops := []

/-- Two relays pass the broadcast on with as many hops left. -/
def evenRun : List MeshState.Event := [.announce, heardCopy 3 0x66, heardCopy 3 0x77]

def evenHeader : PacketHeader where
  destination := BROADCAST_ADDR
  sender := 0x11223344
  packetId := 9
  flags := 0xa3
  channelIndex := 8
  nextHop := 0
  relayNode := 0x77

def evened : CopyRun FakeStorage :=
  Transition.run (step KnownAnswers.defaultKey.env (0x11223344, 9)) bootedCopy (evenRun.take 2)

/-- A copy that is no better than the one whose relay is queued counts for a better one. -/
theorem evenRun_not_judgesByHops :
    Transition.Always (step KnownAnswers.defaultKey.env (0x11223344, 9))
      (FollowsPacket KnownAnswers.defaultKey.env (0x11223344, 9)) bootedCopy evenRun ∧
    ¬ Transition.Always (step KnownAnswers.defaultKey.env (0x11223344, 9))
      (JudgesByHops KnownAnswers.defaultKey.env (0x11223344, 9)) bootedCopy evenRun := by
  refine ⟨by decide +kernel, ?_⟩
  intro hjudges
  have hlast : JudgesByHops KnownAnswers.defaultKey.env (0x11223344, 9) evened
      (heardCopy 3 0x77) :=
    (Transition.always_cons.mp
      (Transition.always_cons.mp (Transition.always_cons.mp hjudges).2).2).1
  have hcopy : evened.copyIn KnownAnswers.defaultKey.env (0x11223344, 9) (heardCopy 3 0x77) =
      some ⟨floodCopy 3 0x77, evenHeader, .client, some 0⟩ := by rfl
  have hjudged := hlast _ hcopy (by decide +kernel)
  have hupgrade : (evened.state.ctx.relayState.filter evenHeader .client).1 =
      .duplicateUpgrade 2 := by decide +kernel
  have hbetter := hjudged.only_better 2 hupgrade 3 (by decide +kernel)
  exact absurd hbetter (by decide)

/-- The second relay leaves one hop more, the third one hop less. -/
theorem unevenRun_judgesByHops :
    Transition.Always (step KnownAnswers.defaultKey.env (0x11223344, 9))
      (JudgesByHops KnownAnswers.defaultKey.env (0x11223344, 9)) bootedCopy
      [.announce, heardCopy 3 0x66, heardCopy 4 0x77, heardCopy 2 0x88] :=
  (judgesByHops_iff (by decide) (by decide +kernel)).mpr (by decide +kernel)

end CopyRun

end Meshtastenstein
