import Mathlib.Data.List.Count
import Mathlib.Data.List.Nodup
import Mathlib.Data.List.Perm.Basic
/-!
# Books of open requests

Requests under distinct keys, each with at most one party that waits for its outcome.
A move closes some requests and answers them, or opens new ones.  Either way every
waiting party hears of its request exactly once, when it closes, and not before.
-/

namespace Meshtastenstein.Lib.Ledger

variable {κ ω : Type}

/-- The open requests, each under its key and with who waits for it. -/
abbrev Book (κ ω : Type) := List (κ × Option ω)

/-- No two open requests share a key. -/
def WellFormed (book : Book κ ω) : Prop := (book.map Prod.fst).Nodup

/-- Over a move from `before` to `after`, an open request is not answered and a closed one
is answered once; `answers w k` counts what `w` was told about `k`. -/
def ExactlyOnce (before after : Book κ ω) (answers : ω → κ → Nat) : Prop :=
  ∀ w k, ((k, some w) ∈ after → answers w k = 0) ∧
    ((k, some w) ∈ before → (k, some w) ∉ after → answers w k = 1)

structure Closes [DecidableEq κ] [DecidableEq ω] (lost before after : Book κ ω)
    (answers : ω → κ → Nat) : Prop where
  perm : before.Perm (lost ++ after)
  answered : ∀ w, ∀ k ∈ before.map Prod.fst, answers w k = lost.count (k, some w)

/-- The requests `new` open; no open request is answered. -/
structure Opens (new before after : Book κ ω) (answers : ω → κ → Nat) : Prop where
  after_eq : after = before ++ new
  wellFormed : WellFormed after
  answered : ∀ w, ∀ k ∈ after.map Prod.fst, answers w k = 0

theorem wellFormed_nil : WellFormed ([] : Book κ ω) := List.nodup_nil

namespace Closes

variable [DecidableEq κ] [DecidableEq ω] {lost before after : Book κ ω}
  {answers : ω → κ → Nat}

theorem keys_perm (h : Closes lost before after answers) :
    (before.map Prod.fst).Perm (lost.map Prod.fst ++ after.map Prod.fst) := by
  rw [← List.map_append]
  exact h.perm.map Prod.fst

theorem nodup_keys (h : Closes lost before after answers) (hbefore : WellFormed before) :
    (lost.map Prod.fst ++ after.map Prod.fst).Nodup :=
  h.keys_perm.nodup_iff.mp hbefore

theorem wellFormed (h : Closes lost before after answers) (hbefore : WellFormed before) :
    WellFormed after :=
  (h.nodup_keys hbefore).of_append_right

theorem keys_subset (h : Closes lost before after answers) {k : κ}
    (hk : k ∈ after.map Prod.fst) : k ∈ before.map Prod.fst :=
  h.keys_perm.mem_iff.mpr (List.mem_append_right _ hk)

theorem exactlyOnce (h : Closes lost before after answers) (hbefore : WellFormed before) :
    ExactlyOnce before after answers := by
  have hnodup := h.nodup_keys hbefore
  intro w k
  constructor
  · intro hafter
    have hkey : k ∈ after.map Prod.fst := List.mem_map_of_mem hafter
    rw [h.answered w k (h.keys_subset hkey), List.count_eq_zero]
    -- a closed request under the same key would repeat it
    intro hlost
    exact (List.nodup_append.mp hnodup).2.2 k (List.mem_map_of_mem hlost) k hkey rfl
  · intro hopen hclosed
    rw [h.answered w k (List.mem_map_of_mem hopen)]
    have hlost : (k, some w) ∈ lost :=
      (List.mem_append.mp (h.perm.mem_iff.mp hopen)).resolve_right hclosed
    exact List.count_eq_one_of_mem (List.Nodup.of_map Prod.fst hnodup.of_append_left) hlost

end Closes

theorem Opens.exactlyOnce {new before after : Book κ ω} {answers : ω → κ → Nat}
    (h : Opens new before after answers) : ExactlyOnce before after answers := by
  intro w k
  constructor
  · intro hafter
    exact h.answered w k (List.mem_map_of_mem hafter)
  · intro hopen hclosed
    rw [h.after_eq] at hclosed
    exact absurd (List.mem_append_left new hopen) hclosed

end Meshtastenstein.Lib.Ledger
