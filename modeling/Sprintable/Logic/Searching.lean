import Sprintable.Logic.Backtracking

/-! What a search finds. A matcher takes the first of what a pattern matches; a search tries it at one
place after another, and goes on behind what it has found. -/

namespace Backtracking

universe u v w

variable {σ : Type u} {α : Type v} {β : Type w}

def first (pattern : Pattern σ α) (text : List σ) : Option (α × List σ) := (pattern text).head?

/-- One character of each class, one after another. -/
def spelled : List (σ → Bool) → Pattern σ (List σ)
  | [], text => [([], text)]
  | _ :: _, [] => []
  | accepts :: others, c :: rest =>
    if accepts c then (spelled others rest).map fun found => (c :: found.1, found.2) else []

def word [DecidableEq σ] (text : List σ) : Pattern σ (List σ) := spelled (text.map fun c other => other == c)

/-- `body+`. -/
def some_ (body : Pattern σ α) : Pattern σ (List α) := convert (fun found => found.1 :: found.2) (andThen body (many body))

def nothing : Pattern σ Unit := fun text => [((), text)]

/-- `(?:body)?`. -/
def optional (body : Pattern σ α) : Pattern σ (Option α) := convert (Sum.elim some fun _ => none) (either body nothing)

def mark [DecidableEq σ] (c : σ) : Pattern σ Unit := convert (fun _ => ()) (oneOf (· == c))

/-- `$`: the end of a text, or the line feed that ends it. -/
def atEnd [DecidableEq σ] (feed : σ) : Pattern σ Unit := fun text => if text = [] ∨ text = [feed] then [((), text)] else []

structure Match (α : Type v) where
  value : α
  start : Nat
  stop : Nat
  deriving DecidableEq, Repr

def findWithin (pattern : Pattern σ α) : Nat → Nat → List σ → List (Match α)
  | 0, _, _ => []
  | bound + 1, position, text =>
    match first pattern text with
    | some (value, rest) =>
      ⟨value, position, position + (text.length - rest.length)⟩ ::
        findWithin pattern bound (position + (text.length - rest.length)) rest
    | none =>
      match text with
      | [] => []
      | _ :: rest => findWithin pattern bound (position + 1) rest

/-- All that is found from a position on, of a pattern that never matches an empty text. -/
def findFrom (pattern : Pattern σ α) (position : Nat) (text : List σ) : List (Match α) :=
  findWithin pattern text.length position text

/-- `pattern.finditer(text)`. -/
def finditer (pattern : Pattern σ α) (text : List σ) : List (Match α) := findFrom pattern 0 text

/-- What a pattern matches is never empty. -/
def Consumes (pattern : Pattern σ α) : Prop := ∀ text, ∀ found ∈ pattern text, found.2.length < text.length

/-- What is left is never longer. -/
def Shrinks (pattern : Pattern σ α) : Prop := ∀ text, ∀ found ∈ pattern text, found.2.length ≤ text.length

section Lengths
variable {pattern : Pattern σ α} {follow : Pattern σ β} {classes : List (σ → Bool)}

theorem Consumes.shrinks (consumes : Consumes pattern) : Shrinks pattern := fun text found member => Nat.le_of_lt (consumes text found member)

theorem Reads.consumes {write : α → List σ} (reads : Reads pattern write) (some_ : ∀ value, write value ≠ []) : Consumes pattern := by
  intro text found member
  have whole := congrArg List.length (reads.sound text found member)
  have one := List.length_pos_iff.mpr (some_ found.1)
  rw [List.length_append] at whole
  omega

theorem oneOf_consumes (accepts : σ → Bool) : Consumes (oneOf accepts) := (oneOf_reads accepts).consumes fun _ => List.cons_ne_nil _ _

theorem spelled_length (classes : List (σ → Bool)) :
    ∀ text, ∀ found ∈ spelled classes text, found.2.length + classes.length = text.length := by
  induction classes with
  | nil =>
    intro text found member
    rw [List.mem_singleton.mp member]
    rfl
  | cons accepts others ih =>
    intro text found member
    cases text with
    | nil => cases member
    | cons c rest =>
      rw [spelled] at member
      split at member
      · obtain ⟨inner, later, rfl⟩ := List.mem_map.mp member
        have shorter := ih rest inner later
        simp only [List.length_cons]
        omega
      · cases member

theorem spelled_consumes (some_ : classes ≠ []) : Consumes (spelled classes) := by
  intro text found member
  have length := spelled_length classes text found member
  have one := List.length_pos_iff.mpr some_
  omega

theorem Shrinks.andThen (left : Shrinks pattern) (right : Shrinks follow) : Shrinks (andThen pattern follow) := by
  intro text found member
  obtain ⟨front, starts, inner⟩ := List.mem_flatMap.mp member
  obtain ⟨back, follows, rfl⟩ := List.mem_map.mp inner
  exact Nat.le_trans (right front.2 back follows) (left text front starts)

theorem Consumes.andThen (left : Consumes pattern) (right : Shrinks follow) : Consumes (andThen pattern follow) := by
  intro text found member
  obtain ⟨front, starts, inner⟩ := List.mem_flatMap.mp member
  obtain ⟨back, follows, rfl⟩ := List.mem_map.mp inner
  exact Nat.lt_of_le_of_lt (right front.2 back follows) (left text front starts)

theorem Consumes.convert (consumes : Consumes pattern) (read : α → β) : Consumes (convert read pattern) := by
  intro text found member
  obtain ⟨inner, listed, rfl⟩ := List.mem_map.mp member
  exact consumes text inner listed

theorem Consumes.either (left : Consumes pattern) (right : Consumes follow) : Consumes (either pattern follow) := by
  intro text found member
  rcases List.mem_append.mp member with inFirst | inSecond
  · obtain ⟨inner, listed, rfl⟩ := List.mem_map.mp inFirst
    exact left text inner listed
  · obtain ⟨inner, listed, rfl⟩ := List.mem_map.mp inSecond
    exact right text inner listed

theorem many_shrinks (consumes : Consumes pattern) : Shrinks (many pattern) := by
  have within (bound : Nat) : Shrinks (manyWithin pattern bound) := by
    induction bound with
    | zero =>
      intro text found member
      exact Nat.le_of_eq (congrArg (fun found => found.2.length) (List.mem_singleton.mp member))
    | succ bound ih =>
      intro text found member
      rcases List.mem_append.mp member with more | stop
      · obtain ⟨front, starts, inner⟩ := List.mem_flatMap.mp more
        obtain ⟨back, follows, rfl⟩ := List.mem_map.mp inner
        exact Nat.le_trans (ih front.2 back follows) (consumes.shrinks text front starts)
      · exact Nat.le_of_eq (congrArg (fun found => found.2.length) (List.mem_singleton.mp stop))
  exact fun text => within text.length text

theorem some_consumes (consumes : Consumes pattern) : Consumes (some_ pattern) := (consumes.andThen (many_shrinks consumes)).convert _

end Lengths

section Patterns
variable {pattern : Pattern σ α} {follow : Pattern σ β} {text rest : List σ} {value : α}

theorem spelled_fits {classes : List (σ → Bool)} {front : List σ} (fits : List.Forall₂ (fun accepts c => accepts c = true) classes front)
    (rest : List σ) : spelled classes (front ++ rest) = [(front, rest)] := by
  induction fits with
  | nil => rfl
  | cons accepted _ ih => rw [List.cons_append, spelled, if_pos accepted, ih, List.map_singleton]

theorem spelled_not {accepts : σ → Bool} {others : List (σ → Bool)} {c : σ} (rejected : ¬ accepts c = true) (rest : List σ) :
    spelled (accepts :: others) (c :: rest) = [] := if_neg rejected

theorem word_match [DecidableEq σ] (text rest : List σ) : word text (text ++ rest) = [(text, rest)] := by
  apply spelled_fits
  induction text with
  | nil => exact .nil
  | cons c text ih => exact .cons (beq_self_eq_true c) ih

theorem word_not [DecidableEq σ] {c other : σ} (different : other ≠ c) (text rest : List σ) : word (c :: text) (other :: rest) = [] := by
  rw [word, List.map_cons]
  apply spelled_not
  intro same
  exact different (eq_of_beq same)

theorem andThen_only (only : pattern text = [(value, rest)]) :
    andThen pattern follow text = (follow rest).map fun back => ((value, back.1), back.2) := by
  rw [andThen, only, List.flatMap_singleton]

theorem andThen_none (none_ : pattern text = []) : andThen pattern follow text = [] := by rw [andThen, none_, List.flatMap_nil]

theorem first_only (only : pattern text = [(value, rest)]) : first pattern text = some (value, rest) := by
  rw [first, only, List.head?_singleton]

theorem first_none (none_ : pattern text = []) : first pattern text = none := by rw [first, none_, List.head?_nil]

theorem Reads.only {write : α → List σ} (reads : Reads pattern write) {it : α × List σ}
    (only : ∀ found : α × List σ, write found.1 ++ found.2 = text ↔ found = it) : pattern text = [it] := by
  apply List.perm_singleton.mp
  apply (List.perm_ext_iff_of_nodup (reads.once text) (List.nodup_singleton it)).mpr
  intro found
  rw [reads.mem, only, List.mem_singleton]

theorem Reads.none_ {write : α → List σ} (reads : Reads pattern write)
    (fails : ∀ found : α × List σ, write found.1 ++ found.2 ≠ text) : pattern text = [] := by
  apply List.eq_nil_iff_forall_not_mem.mpr
  intro found member
  exact fails found (reads.mem.mp member)

end Patterns

theorem nothing_reads : Reads (nothing : Pattern σ Unit) fun _ => [] where
  sound text found member := by
    rw [List.mem_singleton.mp member]
    rfl
  complete _ rest := List.mem_singleton_self ((), rest)
  once _ := List.nodup_singleton _

theorem Reads.optional {write : α → List σ} (reads : Reads pattern write) :
    Reads (optional pattern) fun found => (found.map write).getD [] := by
  apply (reads.either nothing_reads).convert
  · constructor
    · intro one two same
      cases one with
      | inl one =>
        cases two with
        | inl two => exact congrArg Sum.inl (Option.some.inj same)
        | inr two => cases same
      | inr one =>
        cases two with
        | inl two => cases same
        | inr two => rfl
    · intro found
      cases found with
      | none => exact ⟨.inr (), rfl⟩
      | some value => exact ⟨.inl value, rfl⟩
  · intro value
    cases value <;> rfl

theorem mark_reads [DecidableEq σ] (c : σ) : Reads (mark c) fun _ => [c] := by
  apply (oneOf_reads (· == c)).convert
  · constructor
    · intro one two _
      exact Subtype.ext ((eq_of_beq one.property).trans (eq_of_beq two.property).symm)
    · exact fun _ => ⟨⟨c, beq_self_eq_true c⟩, rfl⟩
  · intro value
    rw [eq_of_beq value.property]

section Repetition
variable {body : Pattern σ α} {follow : Pattern σ β} {text : List σ}

theorem within_enough (consumes : Consumes body) (bound : Nat) :
    ∀ more text, text.length ≤ bound → text.length ≤ more → manyWithin body bound text = manyWithin body more text := by
  induction bound with
  | zero =>
    intro more text short _
    have empty : text = [] := List.eq_nil_of_length_eq_zero (Nat.le_zero.mp short)
    cases more with
    | zero => rfl
    | succ more =>
      have nothing : body text = [] := by
        apply List.eq_nil_iff_forall_not_mem.mpr
        intro found member
        have shorter := consumes text found member
        omega
      rw [manyWithin, manyWithin, nothing, List.flatMap_nil, List.nil_append]
  | succ bound ih =>
    intro more text short enough
    cases more with
    | zero =>
      have nothing : body text = [] := by
        apply List.eq_nil_iff_forall_not_mem.mpr
        intro found member
        have shorter := consumes text found member
        omega
      rw [manyWithin, manyWithin, nothing, List.flatMap_nil, List.nil_append]
    | succ more =>
      rw [manyWithin, manyWithin]
      congr 1
      apply List.flatMap_congr
      intro found member
      have shorter := consumes text found member
      rw [ih more found.2 (by omega) (by omega)]

theorem many_eq (consumes : Consumes body) (text : List σ) :
    many body text = (body text).flatMap (fun front => (many body front.2).map fun more => (front.1 :: more.1, more.2)) ++ [([], text)] := by
  have larger : many body text = manyWithin body (text.length + 1) text :=
    within_enough consumes text.length (text.length + 1) text (Nat.le_refl _) (Nat.le_succ _)
  rw [larger, manyWithin]
  congr 1
  apply List.flatMap_congr
  intro found member
  have shorter := consumes text found member
  rw [many, within_enough consumes text.length found.2.length found.2 (by omega) (Nat.le_refl _)]

/-- What is found behind repetitions of the body. -/
def behind (body : Pattern σ α) (follow : Pattern σ β) (text : List σ) : Option (β × List σ) :=
  (first (andThen (many body) follow) text).map fun found => (found.1.2, found.2)

theorem findSome_flatMap {ι γ δ : Type*} (write : ι → List γ) (read : γ → Option δ) (values : List ι) :
    (values.flatMap write).findSome? read = values.findSome? fun value => (write value).findSome? read := by
  induction values with
  | nil => rfl
  | cons value values ih =>
    rw [List.flatMap_cons, List.findSome?_append, ih, List.findSome?_cons]
    cases (write value).findSome? read with
    | none => rfl
    | some found => rfl

theorem behind_eq (consumes : Consumes body) (text : List σ) :
    behind body follow text = ((body text).findSome? fun front => behind body follow front.2).or (first follow text) := by
  have starts (text : List σ) : behind body follow text = (many body text).findSome? fun front => first follow front.2 := by
    rw [behind, first, andThen, List.head?_flatMap, List.map_findSome?]
    congr 1
    funext front
    simp only [Function.comp_apply, List.head?_map, Option.map_map, first]
    exact congrFun Option.map_id _
  rw [starts, many_eq consumes, List.findSome?_append, findSome_flatMap]
  congr 1
  · congr 1
    funext front
    rw [starts, List.findSome?_map]
    rfl
  · simp

/-- Where a class ends, what follows it begins: no shorter run of the class goes on. -/
theorem run_then {accepts : σ → Bool} {rest : List σ} (stops : ∀ c more, rest = c :: more → ¬ accepts c = true)
    (fails : ∀ c more, accepts c = true → follow (c :: more) = []) (front : List (Accepted accepts)) :
    andThen (many (oneOf accepts)) follow (front.map Subtype.val ++ rest) = (follow rest).map fun back => ((front, back.1), back.2) := by
  have consumes := oneOf_consumes accepts
  induction front with
  | nil =>
    have nothing : oneOf accepts rest = [] := by
      cases rest with
      | nil => rfl
      | cons c more => exact oneOf_rejected (stops c more rfl) more
    apply andThen_only
    rw [List.map_nil, List.nil_append, many_eq consumes, nothing, List.flatMap_nil, List.nil_append]
  | cons c front ih =>
    rw [List.map_cons, List.cons_append, andThen, many_eq consumes, oneOf_accepted c.property, List.flatMap_singleton,
      List.flatMap_append, List.flatMap_singleton, fails c.val _ c.property, List.map_nil, List.append_nil, List.flatMap_map]
    have inner := congrArg (List.map fun found : (List (Accepted accepts) × β) × List σ => ((c :: found.1.1, found.1.2), found.2)) ih
    rw [andThen, List.map_flatMap, List.map_map] at inner
    simp only [List.map_map] at inner ⊢
    exact inner

theorem some_then {accepts : σ → Bool} {rest : List σ} (stops : ∀ c more, rest = c :: more → ¬ accepts c = true)
    (fails : ∀ c more, accepts c = true → follow (c :: more) = []) {front : List (Accepted accepts)} (some_front : front ≠ []) :
    andThen (some_ (oneOf accepts)) follow (front.map Subtype.val ++ rest) = (follow rest).map fun back => ((front, back.1), back.2) := by
  cases front with
  | nil => exact absurd rfl some_front
  | cons c front =>
    have starts : andThen (oneOf accepts) (many (oneOf accepts)) ((c :: front).map Subtype.val ++ rest) =
        (many (oneOf accepts) (front.map Subtype.val ++ rest)).map fun back => ((c, back.1), back.2) :=
      andThen_only (oneOf_accepted c.property _)
    have inner := congrArg (List.map fun found : (List (Accepted accepts) × β) × List σ => ((c :: found.1.1, found.1.2), found.2))
      (run_then stops fails front)
    rw [andThen, List.map_flatMap] at inner
    rw [andThen, some_, convert, starts, List.map_map, List.flatMap_map]
    simp only [List.map_map] at inner ⊢
    exact inner

theorem first_convert {γ : Type w} (read : α → γ) (pattern : Pattern σ α) (text : List σ) :
    first (convert read pattern) text = (first pattern text).map fun found => (read found.1, found.2) := List.head?_map

theorem accepted_text {accepts : σ → Bool} {text : List σ} (all : ∀ c ∈ text, accepts c = true) :
    ∃ front : List (Accepted accepts), front.map Subtype.val = text := by
  induction text with
  | nil => exact ⟨[], rfl⟩
  | cons c text ih =>
    obtain ⟨front, same⟩ := ih fun other member => all other (List.mem_cons_of_mem c member)
    exact ⟨⟨c, all c List.mem_cons_self⟩ :: front, by rw [List.map_cons, same]⟩

end Repetition

section Searches
variable {pattern : Pattern σ α} {text : List σ}

theorem find_enough (consumes : Consumes pattern) (bound : Nat) :
    ∀ more position text, text.length ≤ bound → text.length ≤ more →
      findWithin pattern bound position text = findWithin pattern more position text := by
  have empty : ∀ bound position, findWithin pattern bound position [] = [] := by
    intro bound position
    cases bound with
    | zero => rfl
    | succ bound =>
      have nothing : first pattern [] = none := by
        apply first_none
        apply List.eq_nil_iff_forall_not_mem.mpr
        intro found member
        exact absurd (consumes [] found member) (Nat.not_lt_zero _)
      simp only [findWithin, nothing]
  induction bound with
  | zero =>
    intro more position text short _
    rw [List.eq_nil_of_length_eq_zero (Nat.le_zero.mp short), empty, empty]
  | succ bound ih =>
    intro more position text short enough
    cases more with
    | zero => rw [List.eq_nil_of_length_eq_zero (Nat.le_zero.mp enough), empty, empty]
    | succ more =>
      simp only [findWithin]
      cases found : first pattern text with
      | some hit =>
        have shorter := consumes text hit (List.mem_of_head? found)
        simp only
        rw [ih more _ hit.2 (by omega) (by omega)]
      | none =>
        cases text with
        | nil => rfl
        | cons c rest =>
          rw [List.length_cons] at short enough
          exact ih more _ rest (by omega) (by omega)

theorem find_skip {front : List σ} (fails : ∀ c ∈ front, ∀ more, first pattern (c :: more) = none)
    (position : Nat) (rest : List σ) : findFrom pattern position (front ++ rest) = findFrom pattern (position + front.length) rest := by
  induction front generalizing position with
  | nil => rfl
  | cons c front ih =>
    have nothing := fails c List.mem_cons_self (front ++ rest)
    have later := ih (fun other member => fails other (List.mem_cons_of_mem c member)) (position + 1)
    rw [findFrom, List.cons_append, List.length_cons, findWithin, nothing]
    rw [findFrom] at later
    simp only
    rw [later, List.length_cons]
    congr 1
    omega

theorem find_hit (consumes : Consumes pattern) {value : α} {rest : List σ} (found : first pattern text = some (value, rest))
    (position : Nat) : findFrom pattern position text =
      ⟨value, position, position + (text.length - rest.length)⟩ :: findFrom pattern (position + (text.length - rest.length)) rest := by
  have shorter : rest.length < text.length := consumes _ _ (List.mem_of_head? found)
  obtain ⟨bound, size⟩ : ∃ bound, text.length = bound + 1 := ⟨text.length - 1, by omega⟩
  rw [findFrom]
  conv_lhs => rw [size]
  simp only [findWithin, found]
  rw [find_enough consumes bound rest.length _ rest (by omega) (Nat.le_refl _), findFrom]

end Searches

end Backtracking
