import Mathlib.Data.List.Sort

/-! The first item of a sorted list that answers a question is the least of all that answer it. -/

namespace Ranked

section Sorted
variable {α β κ : Type} [LinearOrder κ] (rank : α → κ) (answer : α → Option β) {items : List α} {value : β}

theorem findSome_none_iff :
    (items.insertionSort fun first second => rank first ≤ rank second).findSome? answer = none ↔
      ∀ item ∈ items, answer item = none := by
  rw [List.findSome?_eq_none_iff]
  apply forall_congr'
  intro item
  rw [List.mem_insertionSort]

end Sorted

end Ranked
