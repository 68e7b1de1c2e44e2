import Mathlib.Data.List.Nodup

/-! A table with a partial unique index: rows that the index covers have different keys. A row that
would repeat a key of the index is not inserted. -/

namespace UniqueRows

universe u v
variable {α : Type u} {κ : Type v} (covered : α → Bool) (key : α → κ)

def Unique (rows : List α) : Prop := ((rows.filter covered).map key).Nodup

theorem Unique.nil : Unique covered key [] := List.nodup_nil

variable {covered key} {rows : List α} {row other : α}

theorem Unique.same (unique : Unique covered key rows) (first : row ∈ rows) (second : other ∈ rows) (covers : covered row = true)
    (covers' : covered other = true) (sameKey : key row = key other) : row = other :=
  List.inj_on_of_nodup_map unique (List.mem_filter.mpr ⟨first, covers⟩) (List.mem_filter.mpr ⟨second, covers'⟩) sameKey

theorem Unique.filter (unique : Unique covered key rows) (keeps : α → Bool) : Unique covered key (rows.filter keeps) := by
  have part : ((rows.filter keeps).filter covered).Sublist (rows.filter covered) := List.filter_sublist.filter covered
  exact unique.sublist (part.map key)

variable [DecidableEq κ]

variable (covered key) in
/-- `ON CONFLICT DO NOTHING`. -/
def insert (rows : List α) (row : α) : List α :=
  if rows.any fun held => covered held && decide (key held = key row) then rows else rows ++ [row]

variable (covered key) in
def insertAll (rows : List α) (added : List α) : List α := added.foldl (insert covered key) rows

theorem conflict_iff : (rows.any fun held => covered held && decide (key held = key row)) = true ↔
    ∃ held ∈ rows, covered held = true ∧ key held = key row := by
  simp only [List.any_eq_true, Bool.and_eq_true, decide_eq_true_eq]

theorem Unique.insert (unique : Unique covered key rows) (row : α) : Unique covered key (insert covered key rows row) := by
  unfold UniqueRows.insert
  split
  · exact unique
  next free =>
    rw [conflict_iff] at free
    unfold Unique
    rw [List.filter_append, List.map_append]
    apply List.Nodup.append unique
    · cases covers : covered row with
      | false => simp [covers]
      | true => simp [covers]
    · intro taken first second
      obtain ⟨held, inside, rfl⟩ := List.mem_map.mp first
      obtain ⟨added, new, same⟩ := List.mem_map.mp second
      obtain ⟨member, covers⟩ := List.mem_filter.mp inside
      have own : added = row := List.mem_singleton.mp (List.mem_filter.mp new).1
      exact free ⟨held, member, covers, own ▸ same.symm⟩

theorem Unique.insertAll (unique : Unique covered key rows) (added : List α) : Unique covered key (insertAll covered key rows added) := by
  unfold UniqueRows.insertAll
  induction added generalizing rows with
  | nil => exact unique
  | cons row rest ih => exact ih (unique.insert row)

theorem insertAll_shape (rows added : List α) :
    ∃ written, insertAll covered key rows added = rows ++ written ∧ ∀ row ∈ written, row ∈ added := by
  unfold insertAll
  induction added generalizing rows with
  | nil => exact ⟨[], (List.append_nil rows).symm, fun _ absent => absurd absent List.not_mem_nil⟩
  | cons row rest ih =>
    rw [List.foldl_cons]
    obtain ⟨written, shape, inside⟩ := ih (insert covered key rows row)
    by_cases taken : (rows.any fun held => covered held && decide (key held = key row)) = true
    · refine ⟨written, ?_, fun other member => List.mem_cons_of_mem row (inside other member)⟩
      rw [shape, insert, if_pos taken]
    · refine ⟨row :: written, ?_, ?_⟩
      · rw [shape, insert, if_neg taken, List.append_assoc, List.singleton_append]
      · intro other member
        rcases List.mem_cons.mp member with rfl | later
        · exact List.mem_cons_self
        · exact List.mem_cons_of_mem row (inside other later)

/-- After the insertion there is a covered row of each covered row's key. -/
theorem insertAll_covers {added : List α} (member : row ∈ added) (covers : covered row = true) (rows : List α) :
    ∃ held ∈ insertAll covered key rows added, covered held = true ∧ key held = key row := by
  induction added generalizing rows with
  | nil => cases member
  | cons first rest ih =>
    rcases List.mem_cons.mp member with rfl | later
    · obtain ⟨written, shape, _⟩ := @insertAll_shape α κ covered key _ (insert covered key rows row) rest
      have whole : insertAll covered key rows (row :: rest) = insert covered key rows row ++ written := shape
      rw [whole]
      unfold insert
      split
      next taken =>
        obtain ⟨held, inside, facts⟩ := conflict_iff.mp taken
        exact ⟨held, List.mem_append_left _ inside, facts⟩
      next => exact ⟨row, by simp, covers, rfl⟩
    · exact ih later (insert covered key rows first)

theorem insertAll_taken {added : List α} (taken : ∀ row ∈ added, ∃ held ∈ rows, covered held = true ∧ key held = key row) :
    insertAll covered key rows added = rows := by
  unfold insertAll
  induction added with
  | nil => rfl
  | cons row rest ih =>
    have stays : insert covered key rows row = rows := if_pos (conflict_iff.mpr (taken row List.mem_cons_self))
    rw [List.foldl_cons, stays]
    exact ih fun other member => taken other (List.mem_cons_of_mem row member)

end UniqueRows
