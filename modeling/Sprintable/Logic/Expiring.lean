import Mathlib.Data.List.Sort
import Mathlib.Data.Prod.Lex

/-! Tables of entries that lapse. An entry is live until its deadline and no longer at it;
two tables are alike at a time when they have the same live entries, and inserting,
renewing and removing keep them alike at every later time. -/

namespace Expiring

universe u
variable {κ : Type u}

structure Entry (κ : Type u) where
  key : κ
  deadline : Nat
  deriving DecidableEq, Repr

def live (now : Nat) (rows : List (Entry κ)) : List (Entry κ) := rows.filter (now < ·.deadline)

theorem live_live {rows : List (Entry κ)} {now later : Nat} (after : now ≤ later) : live later (live now rows) = live later rows := by
  unfold live
  rw [List.filter_filter]
  apply List.filter_congr
  intro entry _
  by_cases alive : later < entry.deadline
  · have earlier : now < entry.deadline := Nat.lt_of_le_of_lt after alive
    simp [alive, earlier]
  · simp [alive]

/-- Tables that are alike stay alike. -/
theorem live_later {rows others : List (Entry κ)} {now later : Nat} (alike : (live now rows).Perm (live now others))
    (after : now ≤ later) : (live later rows).Perm (live later others) := by
  rw [← live_live after, ← @live_live _ others now later after]
  exact alike.filter _

variable [LinearOrder κ]

def remove (rows : List (Entry κ)) (key : κ) : List (Entry κ) := rows.filter (·.key ≠ key)

/-- Insert, or replace the entry of the same key. -/
def upsert (rows : List (Entry κ)) (key : κ) (deadline : Nat) : List (Entry κ) := remove rows key ++ [Entry.mk key deadline]

/-- The soonest deadline first, and by key where deadlines are equal. -/
def Entry.before (first second : Entry κ) : Prop :=
  first.deadline < second.deadline ∨ (first.deadline = second.deadline ∧ first.key ≤ second.key)

instance : DecidableRel (Entry.before (κ := κ)) := fun first second =>
  inferInstanceAs (Decidable (first.deadline < second.deadline ∨ (first.deadline = second.deadline ∧ first.key ≤ second.key)))

def sorted (rows : List (Entry κ)) : List (Entry κ) := rows.insertionSort Entry.before

section Order
variable {first second third : Entry κ}

theorem Entry.before_total (first second : Entry κ) : first.before second ∨ second.before first := by
  unfold before
  rcases Nat.lt_trichotomy first.deadline second.deadline with earlier | same | later
  · exact .inl (.inl earlier)
  · exact (le_total first.key second.key).imp (fun below => .inr ⟨same, below⟩) fun below => .inr ⟨same.symm, below⟩
  · exact .inr (.inl later)

theorem Entry.before_trans (one : first.before second) (two : second.before third) : first.before third := by
  unfold before at *
  rcases one with earlier | ⟨same, below⟩
  · rcases two with later | ⟨again, _⟩
    · exact .inl (Nat.lt_trans earlier later)
    · exact .inl (again ▸ earlier)
  · rcases two with later | ⟨again, above⟩
    · exact .inl (same ▸ later)
    · exact .inr ⟨same.trans again, le_trans below above⟩

theorem Entry.before_antisymm (one : first.before second) (two : second.before first) : first = second := by
  have deadlines : first.deadline = second.deadline := by
    unfold before at one two
    omega
  have keys : first.key = second.key := by
    unfold before at one two
    rcases one with earlier | ⟨_, below⟩
    · omega
    · rcases two with later | ⟨_, above⟩
      · omega
      · exact le_antisymm below above
  cases first
  cases second
  cases keys
  cases deadlines
  rfl

instance : Std.Total (Entry.before (κ := κ)) := ⟨Entry.before_total⟩

instance : IsTrans (Entry κ) Entry.before := ⟨fun _ _ _ => Entry.before_trans⟩

instance : Std.Antisymm (Entry.before (κ := κ)) := ⟨fun _ _ => Entry.before_antisymm⟩

end Order

section Tables
variable {rows others : List (Entry κ)} {now : Nat}

theorem sorted_eq (alike : rows.Perm others) : sorted rows = sorted others :=
  ((List.perm_insertionSort _ _).trans (alike.trans (List.perm_insertionSort _ _).symm)).eq_of_pairwise'
    (List.pairwise_insertionSort _ _) (List.pairwise_insertionSort _ _)

theorem sorted_head (rows : List (Entry κ)) : (sorted rows).head?.map Entry.deadline = (rows.map Entry.deadline).min? := by
  have same : (sorted rows).Perm rows := List.perm_insertionSort _ _
  cases first : sorted rows with
  | nil =>
    rw [first] at same
    rw [List.nil_perm.mp same]
    rfl
  | cons head rest =>
    rw [first] at same
    have order : (head :: rest).Pairwise Entry.before := first ▸ List.pairwise_insertionSort _ _
    symm
    apply List.min?_eq_some_iff.mpr
    refine ⟨List.mem_map_of_mem (same.subset List.mem_cons_self), fun deadline member => ?_⟩
    obtain ⟨entry, present, rfl⟩ := List.mem_map.mp member
    rcases List.mem_cons.mp (same.symm.subset present) with rfl | behind
    · exact Nat.le_refl _
    · rcases (List.pairwise_cons.mp order).1 entry behind with earlier | ⟨equal, _⟩
      · exact Nat.le_of_lt earlier
      · exact Nat.le_of_eq equal

theorem live_remove (key : κ) : live now (remove rows key) = remove (live now rows) key := List.filter_comm ..

theorem live_upsert (key : κ) {deadline : Nat} (alive : now < deadline) :
    live now (upsert rows key deadline) = upsert (live now rows) key deadline := by
  unfold upsert
  rw [← live_remove]
  unfold live
  rw [List.filter_append, List.filter_singleton]
  simp [alive]

theorem remove_alike (alike : (live now rows).Perm (live now others)) (key : κ) :
    (live now (remove rows key)).Perm (live now (remove others key)) := by
  rw [live_remove, live_remove]
  exact alike.filter _

theorem upsert_alike (alike : (live now rows).Perm (live now others)) (key : κ) {deadline : Nat} (alive : now < deadline) :
    (live now (upsert rows key deadline)).Perm (live now (upsert others key deadline)) := by
  rw [live_upsert key alive, live_upsert key alive]
  exact (alike.filter _).append_right _

theorem mem_upsert {key : κ} {deadline : Nat} {entry : Entry κ} (member : entry ∈ upsert rows key deadline) :
    entry ∈ rows ∨ entry = Entry.mk key deadline := by
  rcases List.mem_append.mp member with old | new
  · exact .inl (List.mem_filter.mp old).1
  · exact .inr (List.mem_singleton.mp new)

end Tables

end Expiring
