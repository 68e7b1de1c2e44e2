import Mathlib.Data.List.Nodup
import Sprintable.Logic.Keyed

/-! A table whose rows are written under row locks. A transaction that locks a row has a version of
its own, which nobody else sees; its commit publishes the versions, its rollback drops them. -/

namespace RowLocks

structure Table (ρ τ : Type) where
  /-- What committed transactions have left. -/
  rows : List ρ := []
  /-- The rows that open transactions have locked, as their holders see them. -/
  held : List (τ × ρ) := []

variable {ρ κ τ : Type} [DecidableEq κ] [DecidableEq τ] (key : ρ → κ)

namespace Table
variable (table : Table ρ τ) (owner : τ)

/-- No other transaction has locked the row. -/
def free (wanted : κ) : Bool := decide (∀ entry ∈ table.held, key entry.2 = wanted → entry.1 = owner)

/-- The holder's version of the row takes the place of an earlier one. -/
def hold (version : ρ) : Table ρ τ :=
  { table with held := (owner, version) :: table.held.filter fun entry => key entry.2 ≠ key version }

def versions : List ρ := (table.held.filter fun entry => entry.1 = owner).map Prod.snd

def publish (row : ρ) : ρ := (Keyed.find key (table.versions owner) (key row)).getD row

def rollback : Table ρ τ := { table with held := table.held.filter fun entry => entry.1 ≠ owner }

def commit : Table ρ τ := { table.rollback owner with rows := table.rows.map (table.publish key owner) }

def insert (row : ρ) : Table ρ τ := { table with rows := table.rows ++ [row] }

def Exclusive : Prop := (table.held.map fun entry => key entry.2).Nodup

/-- Each version is of a row, and stands to it as `related` says. -/
def Based (related : ρ → ρ → Prop) : Prop :=
  ∀ entry ∈ table.held, ∃ row ∈ table.rows, key row = key entry.2 ∧ related row entry.2

variable {key table owner} {row version : ρ} {related : ρ → ρ → Prop}

omit [DecidableEq κ] in
theorem mem_versions : version ∈ table.versions owner ↔ (owner, version) ∈ table.held := by
  unfold versions
  constructor
  · intro member
    obtain ⟨⟨holder, held⟩, present, rfl⟩ := List.mem_map.mp member
    obtain ⟨listed, same⟩ := List.mem_filter.mp present
    rw [← of_decide_eq_true same]
    exact listed
  · intro held
    exact List.mem_map.mpr ⟨(owner, version), List.mem_filter.mpr ⟨held, decide_eq_true rfl⟩, rfl⟩

theorem publish_cases (key : ρ → κ) (table : Table ρ τ) (owner : τ) (row : ρ) :
    table.publish key owner row = row ∨
      ((owner, table.publish key owner row) ∈ table.held ∧ key (table.publish key owner row) = key row) := by
  unfold publish
  cases found : Keyed.find key (table.versions owner) (key row) with
  | none => exact .inl rfl
  | some version => exact .inr ⟨mem_versions.mp (Keyed.find_mem found), Keyed.find_key found⟩

theorem publish_key (row : ρ) : key (table.publish key owner row) = key row := by
  rcases publish_cases key table owner row with same | ⟨_, same⟩
  · rw [same]
  · exact same

theorem commit_keys : (table.commit key owner).rows.map key = table.rows.map key := by
  simp only [commit, List.map_map]
  exact List.map_congr_left fun row _ => publish_key row

omit [DecidableEq τ] in
theorem hold_exclusive (exclusive : table.Exclusive key) : (table.hold key owner version).Exclusive key := by
  unfold Exclusive hold
  rw [List.map_cons, List.nodup_cons]
  constructor
  · intro present
    obtain ⟨entry, listed, same⟩ := List.mem_map.mp present
    exact of_decide_eq_true (List.mem_filter.mp listed).2 same
  · exact exclusive.sublist (List.filter_sublist.map _)

omit [DecidableEq κ] in
theorem rollback_exclusive (exclusive : table.Exclusive key) : (table.rollback owner).Exclusive key :=
  exclusive.sublist (List.filter_sublist.map _)

theorem commit_exclusive (exclusive : table.Exclusive key) : (table.commit key owner).Exclusive key :=
  rollback_exclusive exclusive

omit [DecidableEq τ] in
theorem hold_based (based : table.Based key related) (member : row ∈ table.rows) (same : key row = key version)
    (holds : related row version) : (table.hold key owner version).Based key related := by
  intro entry held
  rcases List.mem_cons.mp held with rfl | earlier
  · exact ⟨row, member, same, holds⟩
  · exact based entry (List.mem_filter.mp earlier).1

omit [DecidableEq κ] in
theorem rollback_based (based : table.Based key related) : (table.rollback owner).Based key related :=
  fun entry held => based entry (List.mem_filter.mp held).1

omit [DecidableEq κ] [DecidableEq τ] in
theorem insert_based (based : table.Based key related) : (table.insert row).Based key related := by
  intro entry held
  obtain ⟨old, member, same, holds⟩ := based entry held
  exact ⟨old, List.mem_append_left _ member, same, holds⟩

/-- A row that another transaction has locked is as that transaction found it. -/
theorem publish_other {entry : τ × ρ} (exclusive : table.Exclusive key) (held : entry ∈ table.held)
    (other : entry.1 ≠ owner) (same : key row = key entry.2) : table.publish key owner row = row := by
  rcases publish_cases key table owner row with unchanged | ⟨mine, named⟩
  · exact unchanged
  · have equal := List.inj_on_of_nodup_map exclusive mine held (named.trans same)
    exact absurd (congrArg Prod.fst equal).symm other

/-- The commit publishes the version of its row. -/
theorem publish_mine (exclusive : table.Exclusive key) (held : (owner, version) ∈ table.held) (same : key row = key version) :
    table.publish key owner row = version := by
  unfold publish
  cases found : Keyed.find key (table.versions owner) (key row) with
  | none => exact absurd same.symm (Keyed.find_none found version (mem_versions.mpr held))
  | some other =>
    have equal := List.inj_on_of_nodup_map exclusive (mem_versions.mp (Keyed.find_mem found)) held
      ((Keyed.find_key found).trans same)
    exact congrArg Prod.snd equal

theorem commit_based (exclusive : table.Exclusive key) (based : table.Based key related) :
    (table.commit key owner).Based key related := by
  intro entry held
  obtain ⟨listed, other⟩ := List.mem_filter.mp held
  obtain ⟨row, member, same, holds⟩ := based entry listed
  refine ⟨row, List.mem_map.mpr ⟨row, member, ?_⟩, same, holds⟩
  exact publish_other exclusive listed (of_decide_eq_true other) same

/-- What a commit makes of a row is what the version of its holder says of it. -/
theorem commit_related {refined : ρ → ρ → Prop} (unique : (table.rows.map key).Nodup) (based : table.Based key related)
    (refl : ∀ row, refined row row)
    (implies : ∀ row ∈ table.rows, ∀ version, (owner, version) ∈ table.held → key row = key version →
      related row version → refined row version)
    (member : row ∈ table.rows) : refined row (table.publish key owner row) := by
  rcases publish_cases key table owner row with unchanged | ⟨mine, named⟩
  · rw [unchanged]
    exact refl row
  · obtain ⟨base, present, same, holds⟩ := based _ mine
    have equal : base = row := List.inj_on_of_nodup_map unique present member (same.trans named)
    rw [equal] at same holds
    exact implies row member _ mine same holds

end Table

end RowLocks
