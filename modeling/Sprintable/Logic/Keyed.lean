import Mathlib.Algebra.GroupWithZero.Nat
import Mathlib.Data.List.Basic

/-! Tables as lists of rows with a primary key: lookup by key, replacement of the
row that carries a key, and insertion at the end. -/

namespace Keyed

variable {ρ κ : Type} [DecidableEq κ] (key : ρ → κ)

def find (rows : List ρ) (wanted : κ) : Option ρ := rows.find? fun row => decide (key row = wanted)

/-- Replace the row that carries the key of `row`; a missing key changes nothing. -/
def put (rows : List ρ) (row : ρ) : List ρ := rows.map fun old => if key old = key row then row else old

/-- Change the rows that carry the key `target`. -/
def modify (rows : List ρ) (target : κ) (change : ρ → ρ) : List ρ :=
  rows.map fun row => if key row = target then change row else row

variable {key} {rows : List ρ} {row found : ρ} {wanted : κ}

theorem find_agree {rows : List ρ} {first second : ρ → Bool} (same : ∀ row ∈ rows, first row = second row) :
    rows.find? first = rows.find? second := by
  induction rows with
  | nil => rfl
  | cons row rest ih =>
    simp only [List.find?_cons]
    rw [same row List.mem_cons_self, ih fun other member => same other (List.mem_cons_of_mem row member)]

theorem find_key (selected : find key rows wanted = some found) : key found = wanted := by
  simpa using List.find?_some selected

theorem find_mem (selected : find key rows wanted = some found) : found ∈ rows :=
  List.mem_of_find?_eq_some selected

theorem find_put (rows : List ρ) (row : ρ) (wanted : κ) :
    find key (put key rows row) wanted =
      if key row = wanted then (find key rows wanted).map fun _ => row else find key rows wanted := by
  induction rows with
  | nil => simp [find, put]
  | cons first rest ih =>
    simp only [find, put, List.map_cons, List.find?_cons] at ih ⊢
    by_cases same : key first = key row
    · by_cases hit : key row = wanted
      · simp [same, hit]
      · simp only [same, hit, if_true, if_false, decide_false] at ih ⊢
        exact ih
    · by_cases hit : key first = wanted
      · have miss : key row ≠ wanted := fun equal => same (hit.trans equal.symm)
        rw [if_neg same, if_neg miss]
        simp only [hit, decide_true]
      · simp only [same, hit, if_false, decide_false]
        exact ih

theorem find_put_same (present : find key rows (key row) = some found) :
    find key (put key rows row) (key row) = some row := by
  rw [find_put, if_pos rfl, present, Option.map_some]

theorem find_put_other (different : key row ≠ wanted) :
    find key (put key rows row) wanted = find key rows wanted := by
  rw [find_put, if_neg different]

/-- A change of all rows that keeps their keys changes what a lookup finds. -/
theorem find_map (change : ρ → ρ) (kept : ∀ row, key (change row) = key row) :
    find key (rows.map change) wanted = (find key rows wanted).map change := by
  unfold find
  rw [List.find?_map]
  simp only [Function.comp_def, kept]

theorem find_modify {target : κ} {change : ρ → ρ} (kept : ∀ row, key (change row) = key row) :
    find key (modify key rows target change) wanted =
      if target = wanted then (find key rows wanted).map change else find key rows wanted := by
  have keyed : ∀ row, key (if key row = target then change row else row) = key row := by
    intro row
    split
    · exact kept row
    · rfl
  unfold modify
  rw [find_map _ keyed]
  cases found : find key rows wanted with
  | none => simp
  | some row =>
    have name := find_key found
    simp only [Option.map_some, name, eq_comm]
    split <;> rfl

theorem map_key_modify (rows : List ρ) (target : κ) {change : ρ → ρ} (kept : ∀ row, key (change row) = key row) :
    (modify key rows target change).map key = rows.map key := by
  unfold modify
  rw [List.map_map]
  apply List.map_congr_left
  intro row _
  simp only [Function.comp_apply]
  split
  · exact kept row
  · rfl

/-- A replacement changes nothing where every row of that key is the new one. -/
theorem put_same_iff : put key rows row = rows ↔ ∀ old ∈ rows, key old = key row → row = old := by
  have fixed : put key rows row = rows.map id ↔ ∀ old ∈ rows, (if key old = key row then row else old) = id old :=
    List.map_inj_left
  rw [List.map_id] at fixed
  rw [fixed]
  apply forall₂_congr
  intro old _
  split
  next keyed => simp [keyed]
  next different => simp [different]

theorem map_key_put (rows : List ρ) (row : ρ) : (put key rows row).map key = rows.map key := by
  unfold put
  rw [List.map_map]
  apply List.map_congr_left
  intro old _
  simp only [Function.comp_apply]
  split
  next same => exact same.symm
  next => rfl

/-- A row of the table after a replacement is the new row, or an old one of another key. -/
theorem mem_put {rows : List ρ} {row found : ρ} (member : found ∈ put key rows row) :
    found = row ∨ (found ∈ rows ∧ key found ≠ key row) := by
  obtain ⟨old, present, rfl⟩ := List.mem_map.mp member
  split
  next => exact .inl rfl
  next different => exact .inr ⟨present, different⟩

theorem find_of_mem (unique : (rows.map key).Nodup) (member : row ∈ rows) : find key rows (key row) = some row := by
  induction rows with
  | nil => cases member
  | cons first rest ih =>
    simp only [List.map_cons, List.nodup_cons] at unique
    simp only [find, List.find?_cons]
    rcases List.mem_cons.mp member with rfl | later
    · simp
    · have different : key first ≠ key row := fun same => unique.1 (same ▸ List.mem_map_of_mem later)
      simp only [different, decide_false]
      exact ih unique.2 later

theorem filter_of_mem (unique : (rows.map key).Nodup) (member : row ∈ rows) :
    (rows.filter fun other => decide (key other = key row)) = [row] := by
  induction rows with
  | nil => cases member
  | cons first rest ih =>
    simp only [List.map_cons, List.nodup_cons] at unique
    rw [List.filter_cons]
    rcases List.mem_cons.mp member with rfl | later
    · rw [if_pos (decide_eq_true rfl), List.filter_eq_nil_iff.mpr]
      intro other present
      have different : key other ≠ key row := fun same => unique.1 (same ▸ List.mem_map_of_mem present)
      simpa using different
    · have different : key first ≠ key row := fun same => unique.1 (same ▸ List.mem_map_of_mem later)
      rw [if_neg (by simpa using different)]
      exact ih unique.2 later

omit [DecidableEq κ] in
theorem nodup_append (unique : (rows.map key).Nodup) (fresh : ∀ old ∈ rows, key old ≠ key row) :
    ((rows ++ [row]).map key).Nodup := by
  rw [List.map_append, List.map_cons, List.map_nil, List.nodup_append]
  refine ⟨unique, List.nodup_cons.mpr ⟨List.not_mem_nil, List.nodup_nil⟩, ?_⟩
  intro first old last new
  obtain ⟨other, present, rfl⟩ := List.mem_map.mp old
  rw [List.mem_singleton.mp new]
  exact fresh other present

theorem find_none (missing : find key rows wanted = none) : ∀ row ∈ rows, key row ≠ wanted := by
  simpa [find] using missing

theorem find_append_old (selected : find key rows wanted = some found) (others : List ρ) :
    find key (rows ++ others) wanted = some found := by
  unfold find at selected ⊢
  rw [List.find?_append, selected]
  rfl

theorem find_append_new (missing : find key rows wanted = none) (same : key row = wanted) :
    find key (rows ++ [row]) wanted = some row := by
  unfold find at missing ⊢
  rw [List.find?_append, missing]
  simp [same]

theorem find_append_other (different : key row ≠ wanted) : find key (rows ++ [row]) wanted = find key rows wanted := by
  unfold find
  rw [List.find?_append]
  simp [different]

theorem find_append_cases (selected : find key (rows ++ [row]) wanted = some found) :
    find key rows wanted = some found ∨ (key row = wanted ∧ found = row ∧ find key rows wanted = none) := by
  unfold find at selected ⊢
  rw [List.find?_append] at selected
  cases old : rows.find? (fun row => decide (key row = wanted)) with
  | some first =>
    rw [old] at selected
    exact .inl selected
  | none =>
    rw [old] at selected
    simp only [Option.none_or, List.find?_cons, List.find?_nil] at selected
    split at selected
    next same =>
      cases selected
      exact .inr ⟨by simpa using same, rfl, rfl⟩
    · cases selected

/-- A sum over chosen rows, apart for the rows of a kind and the others. -/
theorem sum_split {chosen kind : ρ → Bool} {total first second : ρ → Nat} {rows : List ρ}
    (others : ∀ row ∈ rows, chosen row = true → kind row = false → total row = first row)
    (those : ∀ row ∈ rows, chosen row = true → kind row = true → total row = second row) :
    ((rows.filter chosen).map total).sum =
      ((rows.filter fun row => chosen row && !kind row).map first).sum +
        ((rows.filter fun row => chosen row && kind row).map second).sum := by
  induction rows with
  | nil => rfl
  | cons row rest ih =>
    have rest_split := ih (fun other member => others other (List.mem_cons_of_mem row member))
      fun other member => those other (List.mem_cons_of_mem row member)
    cases taken : chosen row with
    | false => simpa [List.filter_cons, taken] using rest_split
    | true =>
      cases sort : kind row with
      | false =>
        have same := others row List.mem_cons_self taken sort
        simp only [List.filter_cons, taken, sort, Bool.not_false, Bool.and_self, Bool.and_false, if_true, List.map_cons,
          List.sum_cons, Bool.false_eq_true, if_false]
        omega
      | true =>
        have same := those row List.mem_cons_self taken sort
        simp only [List.filter_cons, taken, sort, Bool.not_true, Bool.and_self, Bool.and_false, if_true, List.map_cons,
          List.sum_cons, Bool.false_eq_true, if_false]
        omega

end Keyed
