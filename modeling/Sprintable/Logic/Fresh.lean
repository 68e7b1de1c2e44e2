import Mathlib.Data.Finset.Card
import Mathlib.Data.Nat.Find

/-! The first name of a numbered row that is not blocked. When the names differ and only finitely many are
blocked, it is found, and its number is not greater than the number of names that are blocked. -/

namespace Fresh

universe u

variable {α : Type u}

/-- A loop over the names from a number on, with fuel. -/
def search (name : Nat → α) (blocked : α → Bool) : Nat → Nat → Option α
  | 0, _ => none
  | fuel + 1, n => if blocked (name n) then search name blocked fuel (n + 1) else some (name n)

section Searches
variable {name : Nat → α} {blocked : α → Bool}

theorem search_first {start found : Nat} (free : blocked (name found) = false) (from_ : start ≤ found)
    (before : ∀ n, start ≤ n → n < found → blocked (name n) = true) {fuel : Nat} (enough : found - start < fuel) :
    search name blocked fuel start = some (name found) := by
  induction fuel generalizing start with
  | zero => omega
  | succ fuel ih =>
    rw [search]
    rcases Nat.eq_or_lt_of_le from_ with rfl | later
    · rw [if_neg (by simp [free])]
    · rw [if_pos (before start (Nat.le_refl _) later)]
      exact ih later (fun n beyond => before n (by omega)) (by omega)

theorem free_within [DecidableEq α] {taken : List α} (only : ∀ word, blocked word = true → word ∈ taken) (start : Nat)
    (apart : ∀ n m, start ≤ n → start ≤ m → name n = name m → n = m) :
    ∃ found, start ≤ found ∧ found ≤ start + taken.length ∧ blocked (name found) = false ∧
      ∀ n, start ≤ n → n < found → blocked (name n) = true := by
  have some_ : ∃ n, start ≤ n ∧ n ≤ start + taken.length ∧ blocked (name n) = false := by
    by_contra all
    have sub : (Finset.range (taken.length + 1)).image (fun k => name (start + k)) ⊆ taken.toFinset := by
      intro word member
      obtain ⟨k, small, rfl⟩ := Finset.mem_image.mp member
      have small := Finset.mem_range.mp small
      apply List.mem_toFinset.mpr
      apply only
      by_contra free
      exact all ⟨start + k, by omega, by omega, by simpa using free⟩
    have card := Finset.card_le_card sub
    rw [Finset.card_image_of_injOn, Finset.card_range] at card
    · have short := List.toFinset_card_le taken
      omega
    · intro k _ l _ same
      have equal := apart (start + k) (start + l) (by omega) (by omega) same
      omega
  obtain ⟨⟨from_, within, free⟩, least⟩ := And.intro (Nat.find_spec some_) fun n => @Nat.find_min _ _ some_ n
  refine ⟨Nat.find some_, from_, within, free, fun n beyond early => ?_⟩
  by_contra other
  exact least n early ⟨beyond, by omega, by simpa using other⟩

end Searches

end Fresh
