import Mathlib.Data.List.Basic

/-! The values of a list in order, each where it stands first; and what is left of them when only some
of the entries are read. -/

namespace Firsts

universe u

variable {α : Type u} [DecidableEq α]

/-- A loop that passes over what it has seen. -/
def firsts (seen : List α) : List α → List α
  | [] => []
  | value :: rest => if value ∈ seen then firsts seen rest else value :: firsts (seen ++ [value]) rest

def readOnly (entries : List (α × Bool)) : List α := (entries.filter Prod.snd).map Prod.fst

/-- Every entry that is not read has a value of an earlier entry, or the first value among the entries
read behind it that no earlier entry has. -/
def Recovered (entries : List (α × Bool)) : Prop :=
  ∀ before value after, entries = before ++ (value, false) :: after →
    value ∈ before.map Prod.fst ∨ (readOnly after).find? (fun other => other ∉ before.map Prod.fst) = some value

section Lists
variable {seen : List α} {value : α} {entries : List (α × Bool)}

theorem firsts_begin (values : List α) : (firsts seen values).head? = values.find? (· ∉ seen) := by
  induction values with
  | nil => rfl
  | cons value rest ih =>
    by_cases known : value ∈ seen
    · rw [firsts, if_pos known, ih, List.find?_cons_of_neg (by simpa using known)]
    · rw [firsts, if_neg known, List.find?_cons_of_pos (by simpa using known), List.head?_cons]

theorem firsts_tail {values : List α} (begins : values.find? (· ∉ seen) = some value) :
    firsts seen values = value :: firsts (seen ++ [value]) values := by
  induction values with
  | nil => cases begins
  | cons other rest ih =>
    by_cases known : other ∈ seen
    · rw [List.find?_cons_of_neg (by simpa using known)] at begins
      rw [firsts, firsts, if_pos known, if_pos (List.mem_append_left _ known)]
      exact ih begins
    · rw [List.find?_cons_of_pos (by simpa using known)] at begins
      cases begins
      rw [firsts, firsts, if_neg known, if_pos (List.mem_append_right _ (List.mem_singleton.mpr rfl))]

/-- The same condition, of entries that others stand in front of. -/
def RecoveredAfter (seen : List α) (entries : List (α × Bool)) : Prop :=
  ∀ before value after, entries = before ++ (value, false) :: after →
    value ∈ seen ++ before.map Prod.fst ∨ (readOnly after).find? (· ∉ seen ++ before.map Prod.fst) = some value

theorem recoveredAfter_cons {entry : α × Bool} : RecoveredAfter seen (entry :: entries) ↔
    (entry.2 = false → entry.1 ∈ seen ∨ (readOnly entries).find? (· ∉ seen) = some entry.1) ∧ RecoveredAfter (seen ++ [entry.1]) entries := by
  have shift (before : List (α × Bool)) : seen ++ (entry :: before).map Prod.fst = seen ++ [entry.1] ++ before.map Prod.fst := by
    rw [List.map_cons, List.append_assoc, List.singleton_append]
  constructor
  · intro recovered
    constructor
    · intro skipped
      have shape : entry :: entries = [] ++ (entry.1, false) :: entries := by rw [← skipped]; rfl
      have here := recovered [] entry.1 entries shape
      simpa only [List.map_nil, List.append_nil] using here
    · intro before value after split
      have later := recovered (entry :: before) value after (by rw [split]; rfl)
      rw [shift] at later
      exact later
  · rintro ⟨here, later⟩ before value after split
    cases before with
    | nil =>
      obtain ⟨rfl, rfl⟩ := List.cons.inj split
      simpa only [List.map_nil, List.append_nil] using here rfl
    | cons other before =>
      obtain ⟨rfl, tail⟩ := List.cons.inj split
      rw [shift]
      exact later before value after tail

omit [DecidableEq α] in
theorem readOnly_cons (value : α) (read : Bool) (entries : List (α × Bool)) :
    readOnly ((value, read) :: entries) = if read then value :: readOnly entries else readOnly entries := by
  cases read <;> rfl

theorem recoveredAfter_known (known : value ∈ seen) : RecoveredAfter (seen ++ [value]) entries ↔ RecoveredAfter seen entries := by
  have same (before : List (α × Bool)) (other : α) :
      other ∈ seen ++ [value] ++ before.map Prod.fst ↔ other ∈ seen ++ before.map Prod.fst := by
    simp only [List.mem_append, List.mem_singleton]
    constructor
    · rintro ((inSeen | rfl) | inBefore)
      · exact .inl inSeen
      · exact .inl known
      · exact .inr inBefore
    · rintro (inSeen | inBefore)
      · exact .inl (.inl inSeen)
      · exact .inr inBefore
  simp only [RecoveredAfter, same]

/-- The entries read give the same values in the same order as all entries do, exactly when those not
read are recovered. -/
theorem firsts_readOnly_iff (entries : List (α × Bool)) :
    firsts seen (readOnly entries) = firsts seen (entries.map Prod.fst) ↔ RecoveredAfter seen entries := by
  induction entries generalizing seen with
  | nil =>
    constructor
    · intro _ before value after split
      cases List.append_eq_nil_iff.mp split.symm with
      | intro _ none_ => cases none_
    · exact fun _ => rfl
  | cons entry entries ih =>
    obtain ⟨value, read⟩ := entry
    rw [recoveredAfter_cons, List.map_cons, readOnly_cons, firsts]
    by_cases known : value ∈ seen
    · rw [if_pos known, recoveredAfter_known known, ← ih]
      cases read with
      | true => simp [firsts, known]
      | false => simp [known]
    · rw [if_neg known, ← ih]
      cases read with
      | true => simp [firsts, known]
      | false =>
        rw [if_neg Bool.false_ne_true]
        constructor
        · intro same
          have begins := congrArg List.head? same
          rw [firsts_begin, List.head?_cons] at begins
          rw [firsts_tail begins] at same
          exact ⟨fun _ => .inr begins, (List.cons.inj same).2⟩
        · rintro ⟨here, same⟩
          rcases here rfl with member | begins
          · exact absurd member known
          · rw [firsts_tail begins, same]

theorem recovered_iff : Recovered entries ↔ RecoveredAfter [] entries := by
  simp only [Recovered, RecoveredAfter, List.nil_append]

end Lists

end Firsts
