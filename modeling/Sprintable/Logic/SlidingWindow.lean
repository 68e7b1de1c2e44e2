import Mathlib.Data.List.Sort

/-! Windows that slide over times. A window is closed and named by its end, and it is crowded when enough
of the times lie in it; over a sorted list it is found by comparing each time with a later one. -/

namespace SlidingWindow

/-- The times in the window of this length that ends at `stop`. -/
def inside (length stop : Nat) (times : List Nat) : List Nat :=
  times.filter fun time => time ≤ stop ∧ stop ≤ time + length

section Counting
variable {α : Type} {holds : α → Bool} {items : List α}

/-- In a list in which everything that holds comes first, the items that hold are the first ones. -/
theorem holds_iff_before (first : items.Pairwise fun earlier later => holds later → holds earlier) {index : Nat} {item : α}
    (there : items[index]? = some item) : holds item ↔ index < items.countP holds := by
  induction items generalizing index with
  | nil => cases there
  | cons head rest ih =>
    obtain ⟨leads, sorted⟩ := List.pairwise_cons.mp first
    by_cases begins : holds head
    · rw [List.countP_cons_of_pos begins]
      cases index with
      | zero =>
        cases there
        exact iff_of_true begins (by omega)
      | succ index =>
        rw [ih sorted there]
        omega
    · have none_ : ∀ other ∈ rest, ¬ holds other := fun other member holding => begins (leads other member holding)
      rw [List.countP_cons_of_neg begins, List.countP_eq_zero.mpr none_]
      have member : item ∈ head :: rest := List.mem_of_getElem? there
      refine iff_of_false ?_ (by omega)
      rcases List.mem_cons.mp member with rfl | later
      · exact begins
      · exact none_ item later

end Counting

section Sorted
variable {times : List Nat} {length last : Nat}

theorem length_inside (times : List Nat) (length last : Nat) :
    (inside length last times).length = times.countP (· ≤ last) - times.countP (· + length < last) := by
  induction times with
  | nil => rfl
  | cons time times ih =>
    have bound : times.countP (· + length < last) ≤ times.countP (· ≤ last) := by
      apply List.countP_mono_left
      intro other _ early
      have early := of_decide_eq_true early
      apply decide_eq_true
      omega
    unfold inside at ih ⊢
    by_cases late : time ≤ last
    · by_cases early : time + length < last
      · rw [List.filter_cons_of_neg (by simp; omega), List.countP_cons_of_pos (by simpa), List.countP_cons_of_pos (by simpa), ih]
        omega
      · rw [List.filter_cons_of_pos (by simp; omega), List.countP_cons_of_pos (by simpa), List.countP_cons_of_neg (by simpa using early),
          List.length_cons, ih]
        omega
    · rw [List.filter_cons_of_neg (by simp; omega), List.countP_cons_of_neg (by simpa using late), List.countP_cons_of_neg (by simp; omega), ih]

/-- A window that ends at a time of the list is crowded exactly when the time that stands so many places
before its last one is not out of it. -/
theorem crowded_iff (sorted : times.Pairwise (· ≤ ·)) {threshold : Nat} (some_ : 0 < threshold) (ends : Nat → Prop) :
    (∃ index first last, times[index]? = some first ∧ times[index + (threshold - 1)]? = some last ∧
        last ≤ first + length ∧ ends last) ↔
      ∃ last ∈ times, threshold ≤ (inside length last times).length ∧ ends last := by
  have upTo {last index time : Nat} (there : times[index]? = some time) : time ≤ last ↔ index < times.countP (· ≤ last) := by
    have place := @holds_iff_before _ (fun time => decide (time ≤ last)) times
      (sorted.imp fun order late => decide_eq_true (Nat.le_trans order (of_decide_eq_true late))) _ _ there
    simpa using place
  have before {last index time : Nat} (there : times[index]? = some time) :
      time + length < last ↔ index < times.countP (· + length < last) := by
    have place := @holds_iff_before _ (fun time => decide (time + length < last)) times
      (sorted.imp fun order late => decide_eq_true (by
        have late := of_decide_eq_true late
        omega)) _ _ there
    simpa using place
  constructor
  · intro ⟨index, first, last, starts, stops, near, fits⟩
    refine ⟨last, List.mem_of_getElem? stops, ?_, fits⟩
    have reaches := (upTo stops).mp (Nat.le_refl last)
    have opens := (@before last _ _ starts).not.mp (by omega)
    rw [length_inside]
    omega
  · intro ⟨last, member, crowd, fits⟩
    rw [length_inside] at crowd
    obtain ⟨place, there⟩ := List.mem_iff_getElem?.mp member
    have within := (upTo there).mp (Nat.le_refl last)
    have total : times.countP (· ≤ last) ≤ times.length := List.countP_le_length
    obtain ⟨first, starts⟩ : ∃ first, times[times.countP (· ≤ last) - threshold]? = some first :=
      ⟨_, List.getElem?_eq_getElem (by omega)⟩
    obtain ⟨final, stops⟩ : ∃ final, times[times.countP (· ≤ last) - 1]? = some final :=
      ⟨_, List.getElem?_eq_getElem (by omega)⟩
    have reaches : final ≤ last := (upTo stops).mpr (by omega)
    have latest : last ≤ final := by
      by_contra above
      have short := (@upTo final _ _ there).not.mp above
      have own := (@upTo final _ _ stops).mp (Nat.le_refl final)
      omega
    obtain rfl : final = last := Nat.le_antisymm reaches latest
    have opens := (@before final _ _ starts).not.mpr (by omega)
    have distance : times.countP (· ≤ final) - threshold + (threshold - 1) = times.countP (· ≤ final) - 1 := by omega
    exact ⟨_, first, final, starts, distance ▸ stops, by omega, fits⟩

end Sorted

end SlidingWindow
