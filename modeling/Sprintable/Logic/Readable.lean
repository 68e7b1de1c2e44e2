import Mathlib.Data.List.Basic

/-! Codes whose words are told apart in front of any text. A code word that tells where it ends needs
nothing after it; another one needs a symbol that no word contains. -/

namespace Readable

universe u v

variable {α : Type u} {σ : Type v} {write : α → List σ} {stop : σ → Prop}

/-- What stands in front of a text determines the word and the text. -/
def SelfDelimiting (write : α → List σ) : Prop :=
  ∀ ⦃first second : α⦄ ⦃tail rest : List σ⦄, write first ++ tail = write second ++ rest → first = second ∧ tail = rest

def Delimited (stop : σ → Prop) (write : α → List σ) : Prop :=
  ∀ ⦃first second : α⦄ ⦃mark sign : σ⦄ ⦃tail rest : List σ⦄, stop mark → stop sign →
    write first ++ mark :: tail = write second ++ sign :: rest → first = second ∧ mark :: tail = sign :: rest

theorem SelfDelimiting.of_read {read : List σ → Option (α × List σ)}
    (reads : ∀ word tail, read (write word ++ tail) = some (word, tail)) : SelfDelimiting write := by
  intro first second tail rest same
  have both := (reads first tail).symm.trans ((congrArg read same).trans (reads second rest))
  exact Prod.mk.inj (Option.some.inj both)

/-- Two texts that agree up to their first stopping symbols agree on what stands before them. -/
theorem before_stop {first second : List σ} {mark sign : σ} {tail rest : List σ} (marks : stop mark) (signs : stop sign)
    (left : ∀ symbol ∈ first, ¬ stop symbol) (right : ∀ symbol ∈ second, ¬ stop symbol)
    (same : first ++ mark :: tail = second ++ sign :: rest) : first = second ∧ mark :: tail = sign :: rest := by
  induction first generalizing second with
  | nil =>
    cases second with
    | nil => exact ⟨rfl, same⟩
    | cons symbol others =>
      obtain ⟨rfl, -⟩ := List.cons.inj same
      exact absurd marks (right mark List.mem_cons_self)
  | cons symbol others ih =>
    cases second with
    | nil =>
      obtain ⟨rfl, -⟩ := List.cons.inj same
      exact absurd signs (left symbol List.mem_cons_self)
    | cons other more =>
      obtain ⟨rfl, rests⟩ := List.cons.inj same
      obtain ⟨rfl, ends⟩ := ih (fun symbol later => left symbol (List.mem_cons_of_mem _ later))
        (fun symbol later => right symbol (List.mem_cons_of_mem _ later)) rests
      exact ⟨rfl, ends⟩

theorem Delimited.of_free (injective : Function.Injective write) (free : ∀ word, ∀ symbol ∈ write word, ¬ stop symbol) :
    Delimited stop write := by
  intro first second mark sign tail rest marks signs same
  obtain ⟨words, ends⟩ := before_stop marks signs (free first) (free second) same
  exact ⟨injective words, ends⟩

/-- A sequence of words that a mark closes, where no word begins with the mark. -/
theorem SelfDelimiting.sequence (code : SelfDelimiting write) {mark : σ}
    (starts : ∀ word, ∃ symbol rest, write word = symbol :: rest ∧ symbol ≠ mark) :
    SelfDelimiting fun words : List α => words.flatMap write ++ [mark] := by
  intro first second tail rest same
  induction first generalizing second with
  | nil =>
    cases second with
    | nil => exact ⟨rfl, (List.cons.inj same).2⟩
    | cons word words =>
      obtain ⟨symbol, others, shape, different⟩ := starts word
      simp only [List.flatMap_nil, List.flatMap_cons, shape, List.nil_append, List.cons_append] at same
      exact absurd (List.cons.inj same).1.symm different
  | cons word words ih =>
    cases second with
    | nil =>
      obtain ⟨symbol, others, shape, different⟩ := starts word
      simp only [List.flatMap_nil, List.flatMap_cons, shape, List.nil_append, List.cons_append] at same
      exact absurd (List.cons.inj same).1 different
    | cons other more =>
      simp only [List.flatMap_cons, List.append_assoc] at same
      obtain ⟨rfl, rests⟩ := code same
      rw [← List.append_assoc, ← List.append_assoc] at rests
      obtain ⟨rfl, ends⟩ := ih rests
      exact ⟨rfl, ends⟩

end Readable
