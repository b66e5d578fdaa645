import Mathlib.Data.List.Basic
/-!
# Queues

What two parties that share a queue know of each other: channels that drop what finds them
full, notices whose effect is foreseen, queues that outlive the sessions of their reader, and
queues that drop their oldest item.
-/

/-! ## Channels of bounded capacity

A first-in first-out channel whose senders do not wait: what finds the channel full is
dropped.  A batch gets through whole exactly when there is room for all of it beforehand.
-/

namespace Meshtastenstein.Lib.Mailbox

variable {α β : Type} {cap : Nat}

/-- Append one item unless the channel is full. -/
def trySend (cap : Nat) (queue : List α) (item : α) : List α :=
  if queue.length < cap then queue ++ [item] else queue

theorem trySend_of_lt {queue : List α} (h : queue.length < cap) (item : α) :
    trySend cap queue item = queue ++ [item] := if_pos h

theorem trySend_of_full {queue : List α} (h : cap ≤ queue.length) (item : α) :
    trySend cap queue item = queue := if_neg (Nat.not_lt.mpr h)

theorem map_trySend (f : α → β) (queue : List α) (item : α) :
    (trySend cap queue item).map f = trySend cap (queue.map f) (f item) := by
  by_cases h : queue.length < cap
  · rw [trySend_of_lt h, trySend_of_lt (by rwa [List.length_map]), List.map_append,
      List.map_singleton]
  · have hfull : cap ≤ queue.length := Nat.le_of_not_lt h
    rw [trySend_of_full hfull, trySend_of_full (by rwa [List.length_map])]

/-- Of a batch, as much gets through as there is room for. -/
theorem foldl_trySend (queue items : List α) :
    items.foldl (trySend cap) queue = queue ++ items.take (cap - queue.length) := by
  induction items generalizing queue with
  | nil => simp
  | cons item items ih =>
      rw [List.foldl_cons, ih]
      by_cases h : queue.length < cap
      · obtain ⟨room, hroom⟩ : ∃ room, cap - queue.length = room + 1 :=
          ⟨cap - queue.length - 1, by omega⟩
        have hrest : cap - (queue ++ [item]).length = room := by
          rw [List.length_append, List.length_singleton]
          omega
        rw [trySend_of_lt h, hrest, hroom, List.take_succ_cons, List.append_assoc,
          List.singleton_append]
      · have hfull : cap ≤ queue.length := Nat.le_of_not_lt h
        rw [trySend_of_full hfull, Nat.sub_eq_zero_of_le hfull, List.take_zero, List.take_zero]

theorem length_foldl_trySend_le (queue items : List α) :
    (items.foldl (trySend cap) queue).length ≤ max cap queue.length := by
  rw [foldl_trySend, List.length_append, List.length_take]
  omega

/-- A batch is found whole behind what was queued before exactly when there was room for
it, whatever is sent afterwards. -/
theorem whole_iff {queue items after : List α} (hitems : items ≠ [])
    (hafter : items.foldl (trySend cap) queue <+: after)
    (hlength : after.length ≤ max cap queue.length) :
    queue ++ items <+: after ↔ queue.length + items.length ≤ cap := by
  constructor
  · intro hwhole
    have hle := hwhole.length_le
    have hpos : 0 < items.length := List.length_pos_of_ne_nil hitems
    rw [List.length_append] at hle
    omega
  · intro hroom
    rw [foldl_trySend, List.take_of_length_le (by omega)] at hafter
    exact hafter

end Meshtastenstein.Lib.Mailbox

/-! ## Notices

A reader keeps a view that the items of a queue change as it takes them.  What the view will
be once all that waits is taken is known to the writers; so is the view in which an item will
be taken.
-/

namespace Meshtastenstein.Lib.Notices

variable {σ α ι : Type} {notice : σ → α → σ} {P : σ → Prop} {mark : ι → Prop}

def settled (notice : σ → α → σ) (view : σ) (queue : List α) : σ := queue.foldl notice view

theorem settled_cons (view : σ) (item : α) (queue : List α) :
    settled notice view (item :: queue) = settled notice (notice view item) queue := rfl

theorem settled_concat (view : σ) (queue : List α) (item : α) :
    settled notice view (queue ++ [item]) = notice (settled notice view queue) item :=
  List.foldl_concat notice view item queue

def Foretold (notice : σ → α → σ) (P : σ → Prop) (mark : ι → Prop) : σ → List (ι × α) → Prop
  | _, [] => True
  | view, (stamp, item) :: queue =>
      (mark stamp → P view) ∧ Foretold notice P mark (notice view item) queue

theorem foretold_concat (view : σ) (queue : List (ι × α)) (stamp : ι) (item : α) :
    Foretold notice P mark view (queue ++ [(stamp, item)]) ↔
      Foretold notice P mark view queue ∧
        (mark stamp → P (settled notice view (queue.map Prod.snd))) := by
  induction queue generalizing view with
  | nil => exact and_comm
  | cons waiting queue ih =>
      rw [List.cons_append]
      unfold Foretold
      rw [ih, and_assoc]
      rfl

end Meshtastenstein.Lib.Notices

/-! ## Queues shared by sessions

Producer and consumer share a queue over a series of sessions of the consumer.  Every item
is stamped with the session it was produced in.  As long as each session finds the queue
empty, all that waits during a session was produced in it.
-/

namespace Meshtastenstein.Lib.Session

variable {σ : Type} {session : Option σ} {stamps : List (Option σ)}

/-- The stamps of a queue that holds `n` items by now, those at its end new. -/
def restamp (session : Option σ) (n : Nat) (stamps : List (Option σ)) : List (Option σ) :=
  stamps.take n ++ List.replicate (n - stamps.length) session

@[simp] theorem length_restamp (session : Option σ) (n : Nat) (stamps : List (Option σ)) :
    (restamp session n stamps).length = n := by
  unfold restamp
  rw [List.length_append, List.length_take, List.length_replicate]
  omega

@[simp] theorem restamp_zero (session : Option σ) (stamps : List (Option σ)) :
    restamp session 0 stamps = [] := List.eq_nil_of_length_eq_zero (length_restamp session 0 stamps)

theorem restamp_add (session : Option σ) (stamps : List (Option σ)) (added : Nat) :
    restamp session (stamps.length + added) stamps =
      stamps ++ List.replicate added session := by
  unfold restamp
  rw [List.take_of_length_le (Nat.le_add_right _ _), Nat.add_sub_cancel_left]

def Owned (session : Option σ) (stamps : List (Option σ)) : Prop :=
  session ≠ none → ∀ stamp ∈ stamps, stamp = session

namespace Owned

theorem nil (session : Option σ) : Owned session [] := by
  intro _ stamp hstamp
  cases hstamp

/-- Between sessions anything may wait. -/
theorem closed (stamps : List (Option σ)) : Owned none stamps :=
  fun hopen => absurd rfl hopen

theorem tail (h : Owned session stamps) : Owned session stamps.tail :=
  fun hopen stamp hstamp => h hopen stamp (List.mem_of_mem_tail hstamp)

theorem restamp (h : Owned session stamps) (n : Nat) :
    Owned session (restamp session n stamps) := by
  intro hopen stamp hstamp
  rcases List.mem_append.mp hstamp with hold | hnew
  · exact h hopen stamp (List.mem_of_mem_take hold)
  · exact List.eq_of_mem_replicate hnew

theorem head {α : Type} {items : List α} {item : α} (h : Owned session stamps)
    (hopen : session ≠ none) (hlength : stamps.length = items.length)
    (hitem : items.head? = some item) : stamps.headD none = session := by
  cases stamps with
  | nil =>
      rw [List.eq_nil_of_length_eq_zero hlength.symm] at hitem
      cases hitem
  | cons stamp stamps => exact h hopen stamp List.mem_cons_self

end Owned

end Meshtastenstein.Lib.Session

/-! ## Queues that drop their oldest

A queue of a bounded length as a list, oldest first: a new item goes to the end, and the
oldest goes when there is one too many.
-/

namespace Meshtastenstein.Lib.BoundedFifo

/-- What is asked of a queue. -/
inductive Call (α : Type)
  | add (item : α)
  | peek
  | pop
  | clear

inductive Answer (α : Type)
  | done
  | front (item : Option α)
deriving DecidableEq

variable {α ε : Type} (bound : Nat)

def add (items : List α) (item : α) : List α :=
  let items := items ++ [item]
  if bound < items.length then items.tail else items

def step (items : List α) : Call α → List α
  | .add item => add bound items item
  | .peek => items
  | .pop => items.tail
  | .clear => []

/-- Only taking an item from an empty queue fails. -/
def answer (empty : ε) (items : List α) : Call α → Except ε (Answer α)
  | .add _ => .ok .done
  | .peek => .ok (.front items.head?)
  | .pop => if items.isEmpty then .error empty else .ok .done
  | .clear => .ok .done

variable {bound : Nat} {items : List α}

theorem add_of_lt (h : items.length < bound) (item : α) :
    add bound items item = items ++ [item] := by
  refine if_neg ?_
  rw [List.length_append, List.length_singleton]
  omega

theorem add_of_full (hbound : 0 < bound) (h : items.length = bound) (item : α) :
    add bound items item = items.tail ++ [item] := by
  have hne : items ≠ [] := fun hnil => by
    rw [hnil] at h
    exact absurd h (Nat.ne_of_lt hbound)
  unfold add
  dsimp only
  rw [if_pos (by rw [List.length_append, List.length_singleton]; omega),
    List.tail_append_of_ne_nil hne]

end Meshtastenstein.Lib.BoundedFifo
