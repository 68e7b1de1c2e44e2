import Mathlib.Data.List.Nodup

/-! Patterns that are matched by backtracking. A pattern gives all that it matches at the front of a
text with what is left of the text, in the order in which the alternatives are tried: a pattern that
follows takes the first of them with which it goes on. -/

namespace Backtracking

universe u v w

variable {σ : Type u} {α : Type v} {β : Type w}

abbrev Pattern (σ : Type u) (α : Type v) := List σ → List (α × List σ)

/-- The characters of a class, with what they are accepted for. -/
abbrev Accepted (accepts : σ → Bool) := {c : σ // accepts c = true}

def oneOf (accepts : σ → Bool) : Pattern σ (Accepted accepts)
  | [] => []
  | c :: rest => if accepted : accepts c = true then [(⟨c, accepted⟩, rest)] else []

def andThen (first : Pattern σ α) (second : Pattern σ β) : Pattern σ (α × β) := fun text =>
  (first text).flatMap fun front => (second front.2).map fun back => ((front.1, back.1), back.2)

def either (first : Pattern σ α) (second : Pattern σ β) : Pattern σ (α ⊕ β) := fun text =>
  (first text).map (fun found => (.inl found.1, found.2)) ++ (second text).map fun found => (.inr found.1, found.2)

def convert (read : α → β) (pattern : Pattern σ α) : Pattern σ β := fun text =>
  (pattern text).map fun found => (read found.1, found.2)

/-- At most so many repetitions, more of them first. -/
def manyWithin (body : Pattern σ α) : Nat → Pattern σ (List α)
  | 0, text => [([], text)]
  | bound + 1, text =>
    (body text).flatMap (fun first =>
      (manyWithin body bound first.2).map fun more => (first.1 :: more.1, more.2)) ++ [([], text)]

/-- `(?:body)*` of a body that never matches an empty text. -/
def many (body : Pattern σ α) : Pattern σ (List α) := fun text => manyWithin body text.length text

/-- The pattern matches the texts that `write` gives, each in one way. -/
structure Reads (pattern : Pattern σ α) (write : α → List σ) : Prop where
  sound : ∀ text, ∀ found ∈ pattern text, write found.1 ++ found.2 = text
  complete : ∀ value rest, (value, rest) ∈ pattern (write value ++ rest)
  once : ∀ text, (pattern text).Nodup

section Patterns
variable {first : Pattern σ α} {second : Pattern σ β} {write : α → List σ} {other : β → List σ} {text : List σ}

theorem oneOf_accepted {accepts : σ → Bool} {c : σ} (accepted : accepts c = true) (rest : List σ) :
    oneOf accepts (c :: rest) = [(⟨c, accepted⟩, rest)] := dif_pos accepted

theorem oneOf_rejected {accepts : σ → Bool} {c : σ} (rejected : ¬ accepts c = true) (rest : List σ) :
    oneOf accepts (c :: rest) = [] := dif_neg rejected

theorem oneOf_reads (accepts : σ → Bool) : Reads (oneOf accepts) fun c => [c.val] where
  sound text found member := by
    cases text with
    | nil => cases member
    | cons c rest =>
      by_cases accepted : accepts c = true
      · rw [oneOf_accepted accepted, List.mem_singleton] at member
        rw [member]
        rfl
      · rw [oneOf_rejected accepted] at member
        cases member
  complete value rest := by
    rw [List.singleton_append, oneOf_accepted value.property]
    exact List.mem_singleton.mpr rfl
  once text := by
    cases text with
    | nil => exact List.nodup_nil
    | cons c rest =>
      by_cases accepted : accepts c = true
      · rw [oneOf_accepted accepted]
        exact List.nodup_singleton _
      · rw [oneOf_rejected accepted]
        exact List.nodup_nil

theorem Reads.mem (reads : Reads first write) {found : α × List σ} : found ∈ first text ↔ write found.1 ++ found.2 = text := by
  constructor
  · exact reads.sound text found
  · rintro rfl
    exact reads.complete found.1 found.2

theorem Reads.andThen (left : Reads first write) (right : Reads second other) :
    Reads (andThen first second) fun pair => write pair.1 ++ other pair.2 where
  sound text found member := by
    obtain ⟨front, start, member⟩ := List.mem_flatMap.mp member
    obtain ⟨back, follows, rfl⟩ := List.mem_map.mp member
    dsimp only
    rw [List.append_assoc, right.sound _ back follows, left.sound _ front start]
  complete value rest := by
    apply List.mem_flatMap.mpr
    refine ⟨(value.1, other value.2 ++ rest), ?_, ?_⟩
    · rw [List.append_assoc]
      exact left.complete _ _
    · exact List.mem_map.mpr ⟨(value.2, rest), right.complete _ _, rfl⟩
  once text := by
    apply List.nodup_flatMap.mpr
    constructor
    · intro front _
      apply (right.once front.2).map
      intro one two same
      obtain ⟨values, rests⟩ := Prod.mk.inj same
      exact Prod.ext (Prod.mk.inj values).2 rests
    · apply (left.once text).imp_of_mem
      intro one two first_ second_ different pair inOne inTwo
      obtain ⟨back, follows, rfl⟩ := List.mem_map.mp inOne
      obtain ⟨again, also, same⟩ := List.mem_map.mp inTwo
      obtain ⟨values, rests⟩ := Prod.mk.inj same
      obtain ⟨fronts, backs⟩ := Prod.mk.inj values
      apply different
      apply Prod.ext fronts.symm
      rw [← right.sound _ back follows, ← right.sound _ again also, backs, rests]

theorem Reads.either (left : Reads first write) (right : Reads second other) :
    Reads (either first second) (Sum.elim write other) where
  sound text found member := by
    rcases List.mem_append.mp member with inFirst | inSecond
    · obtain ⟨inner, start, rfl⟩ := List.mem_map.mp inFirst
      exact left.sound text inner start
    · obtain ⟨inner, start, rfl⟩ := List.mem_map.mp inSecond
      exact right.sound text inner start
  complete value rest := by
    cases value with
    | inl value => exact List.mem_append_left _ (List.mem_map.mpr ⟨(value, rest), left.complete _ _, rfl⟩)
    | inr value => exact List.mem_append_right _ (List.mem_map.mpr ⟨(value, rest), right.complete _ _, rfl⟩)
  once text := by
    apply List.Nodup.append
    · apply (left.once text).map
      intro one two same
      obtain ⟨values, rests⟩ := Prod.mk.inj same
      exact Prod.ext (Sum.inl.inj values) rests
    · apply (right.once text).map
      intro one two same
      obtain ⟨values, rests⟩ := Prod.mk.inj same
      exact Prod.ext (Sum.inr.inj values) rests
    · intro found inFirst inSecond
      obtain ⟨one, -, rfl⟩ := List.mem_map.mp inFirst
      obtain ⟨two, -, same⟩ := List.mem_map.mp inSecond
      cases (Prod.mk.inj same).1

theorem Reads.convert {γ : Type w} {read : α → γ} {written : γ → List σ} (reads : Reads first write)
    (bijective : Function.Bijective read) (same : ∀ value, written (read value) = write value) :
    Reads (convert read first) written where
  sound text found member := by
    obtain ⟨inner, start, rfl⟩ := List.mem_map.mp member
    rw [same]
    exact reads.sound text inner start
  complete value rest := by
    obtain ⟨inner, rfl⟩ := bijective.2 value
    rw [same]
    exact List.mem_map.mpr ⟨(inner, rest), reads.complete _ _, rfl⟩
  once text := by
    apply (reads.once text).map
    intro one two equal
    obtain ⟨values, rests⟩ := Prod.mk.inj equal
    exact Prod.ext (bijective.1 values) rests

end Patterns

section Repetition
variable {body : Pattern σ α} {write : α → List σ}

theorem within_sound (reads : Reads body write) (bound : Nat) :
    ∀ text, ∀ found ∈ manyWithin body bound text, found.1.flatMap write ++ found.2 = text := by
  induction bound with
  | zero =>
    intro text found member
    rw [List.mem_singleton.mp member]
    rfl
  | succ bound ih =>
    intro text found member
    rcases List.mem_append.mp member with more | stop
    · obtain ⟨front, start, member⟩ := List.mem_flatMap.mp more
      obtain ⟨rest, follows, rfl⟩ := List.mem_map.mp member
      rw [List.flatMap_cons, List.append_assoc, ih _ rest follows, reads.sound text front start]
    · rw [List.mem_singleton.mp stop]
      rfl

theorem within_complete (reads : Reads body write) (some_ : ∀ value, write value ≠ []) (bound : Nat) :
    ∀ values rest, (values.flatMap write).length ≤ bound → (values, rest) ∈ manyWithin body bound (values.flatMap write ++ rest) := by
  induction bound with
  | zero =>
    intro values rest short
    cases values with
    | nil => exact List.mem_singleton.mpr rfl
    | cons value more =>
      have one := List.length_pos_iff.mpr (some_ value)
      rw [List.flatMap_cons, List.length_append] at short
      omega
  | succ bound ih =>
    intro values rest short
    cases values with
    | nil => exact List.mem_append_right _ (List.mem_singleton.mpr rfl)
    | cons value more =>
      have one := List.length_pos_iff.mpr (some_ value)
      rw [List.flatMap_cons, List.length_append] at short
      apply List.mem_append_left
      apply List.mem_flatMap.mpr
      refine ⟨(value, more.flatMap write ++ rest), ?_, ?_⟩
      · rw [List.flatMap_cons, List.append_assoc]
        exact reads.complete _ _
      · exact List.mem_map.mpr ⟨(more, rest), ih more rest (by omega), rfl⟩

theorem within_once (reads : Reads body write) (bound : Nat) : ∀ text, (manyWithin body bound text).Nodup := by
  induction bound with
  | zero => exact fun text => List.nodup_singleton _
  | succ bound ih =>
    intro text
    apply List.Nodup.append
    · apply List.nodup_flatMap.mpr
      constructor
      · intro front _
        apply (ih front.2).map
        intro one two same
        obtain ⟨values, rests⟩ := Prod.mk.inj same
        exact Prod.ext (List.cons.inj values).2 rests
      · apply (reads.once text).imp_of_mem
        intro one two first second different found inOne inTwo
        obtain ⟨back, follows, rfl⟩ := List.mem_map.mp inOne
        obtain ⟨again, also, same⟩ := List.mem_map.mp inTwo
        obtain ⟨values, rests⟩ := Prod.mk.inj same
        obtain ⟨fronts, backs⟩ := List.cons.inj values
        apply different
        apply Prod.ext fronts.symm
        rw [← within_sound reads bound _ back follows, ← within_sound reads bound _ again also, backs, rests]
    · exact List.nodup_singleton _
    · intro found more stop
      obtain ⟨front, -, member⟩ := List.mem_flatMap.mp more
      obtain ⟨rest, -, rfl⟩ := List.mem_map.mp member
      cases (Prod.mk.inj (List.mem_singleton.mp stop)).1

theorem Reads.many (reads : Reads body write) (some_ : ∀ value, write value ≠ []) :
    Reads (many body) fun values => values.flatMap write where
  sound text := within_sound reads text.length text
  complete values rest := by
    apply within_complete reads some_
    rw [List.length_append]
    omega
  once text := within_once reads text.length text

end Repetition

end Backtracking
