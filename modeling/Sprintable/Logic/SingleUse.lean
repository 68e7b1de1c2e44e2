import Mathlib.Data.List.Nodup
import Mathlib.Data.List.Perm.Basic

/-! Things that are used up once. A transaction takes one by a conditional write that locks its row, and
uses it up with its commit; while it is taken, another transaction waits. -/

namespace SingleUse

universe u v

structure Cells (κ : Type u) (τ : Type v) where
  /-- What committed transactions have used up, in their order. -/
  spent : List κ := []
  /-- What open transactions have taken. -/
  held : List (κ × τ) := []

variable {κ : Type u} {τ : Type v} [DecidableEq κ] [DecidableEq τ]

namespace Cells
variable (cells : Cells κ τ) (key : κ) (owner : τ)

/-- The conditional write finds its row. -/
def free : Bool := decide (key ∉ cells.spent ∧ key ∉ cells.held.map Prod.fst)

def take : Cells κ τ := if cells.free key then { cells with held := (key, owner) :: cells.held } else cells

def commit : Cells κ τ where
  spent := cells.spent ++ (cells.held.filter (·.2 = owner)).map Prod.fst
  held := cells.held.filter (·.2 ≠ owner)

def rollback : Cells κ τ := { cells with held := cells.held.filter (·.2 ≠ owner) }

/-- No key is used up or taken twice. -/
def Sound : Prop := (cells.spent ++ cells.held.map Prod.fst).Nodup

variable {cells key owner}

omit [DecidableEq κ] [DecidableEq τ] in
theorem Sound.spent (sound : cells.Sound) : cells.spent.Nodup := (List.nodup_append.mp sound).1

omit [DecidableEq τ] in
theorem take_sound (sound : cells.Sound) : (cells.take key owner).Sound := by
  unfold take
  split
  next free =>
    obtain ⟨unspent, untaken⟩ := of_decide_eq_true free
    have moved : (cells.spent ++ key :: cells.held.map Prod.fst).Perm (key :: (cells.spent ++ cells.held.map Prod.fst)) :=
      List.perm_middle
    apply moved.nodup_iff.mpr
    apply List.nodup_cons.mpr
    exact ⟨fun member => (List.mem_append.mp member).elim unspent untaken, sound⟩
  · exact sound

omit [DecidableEq κ] in
theorem commit_sound (sound : cells.Sound) : (cells.commit owner).Sound := by
  have split_ : ((cells.held.filter (·.2 = owner)) ++ cells.held.filter (·.2 ≠ owner)).Perm cells.held := by
    have parts := List.filter_append_perm (fun entry : κ × τ => decide (entry.2 = owner)) cells.held
    simpa only [decide_not] using parts
  have whole := (split_.map Prod.fst).append_left cells.spent
  rw [List.map_append, ← List.append_assoc] at whole
  exact whole.nodup_iff.mpr sound

omit [DecidableEq κ] in
theorem rollback_sound (sound : cells.Sound) : (cells.rollback owner).Sound := by
  refine List.Nodup.sublist ?_ sound
  apply List.Sublist.append_left
  exact List.filter_sublist.map Prod.fst

end Cells

end SingleUse
