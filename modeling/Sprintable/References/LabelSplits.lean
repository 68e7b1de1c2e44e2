import Sprintable.Logic.Backtracking
import Sprintable.Logic.CodePoints
import Sprintable.Logic.Readable

/-! The label of a reference token, as its pattern splits it: an escaped bracket, a pair of brackets
without brackets inside, or any other character. A backslash is such another character as well. -/

namespace Sprintable.References

open CodePoints Backtracking

def openBracket : CodePoint := 0x5b

def closeBracket : CodePoint := 0x5d

def backslash : CodePoint := 0x5c

def isBracket (c : CodePoint) : Bool := c == openBracket || c == closeBracket

abbrev Bracket := Accepted isBracket

/-- `[^\[\]]`. -/
abbrev Plain := Accepted fun c => !isBracket c

/-- What one alternative of the label matches. -/
inductive Part where
  | escaped (bracket : Bracket)
  | pair (inner : List Plain)
  | other (c : Plain)
  deriving DecidableEq

def plainText (inner : List Plain) : Text := inner.map Subtype.val

def Part.text : Part → Text
  | .escaped bracket => [backslash, bracket.val]
  | .pair inner => openBracket :: (plainText inner ++ [closeBracket])
  | .other c => [c.val]

def labelText (parts : List Part) : Text := parts.flatMap Part.text

abbrev One (c : CodePoint) := Accepted fun other => other == c

/-- `\\[\[\]]`. -/
def escapedBracket : Pattern CodePoint (One backslash × Bracket) := andThen (oneOf (· == backslash)) (oneOf isBracket)

/-- `\[[^\[\]]*\]`. -/
def rawPair : Pattern CodePoint (One openBracket × List Plain × One closeBracket) :=
  andThen (oneOf (· == openBracket)) (andThen (many (oneOf fun c => !isBracket c)) (oneOf (· == closeBracket)))

def Part.read : (One backslash × Bracket) ⊕ (One openBracket × List Plain × One closeBracket) ⊕ Plain → Part
  | .inl (_, bracket) => .escaped bracket
  | .inr (.inl (_, inner, _)) => .pair inner
  | .inr (.inr c) => .other c

/-- `\\[\[\]]|\[[^\[\]]*\]|[^\[\]]`. -/
def labelPart : Pattern CodePoint Part := convert Part.read (either escapedBracket (either rawPair (oneOf fun c => !isBracket c)))

/-- The label of `_CHAT_TOKEN_RE` and of `_CHAT_TOKEN_SHAPE_RE`, between its brackets. -/
def label : Pattern CodePoint (List Part) := many labelPart

section Matching

theorem part_read_bijective : Function.Bijective Part.read := by
  have only {c : CodePoint} (left right : One c) : left = right :=
    Subtype.ext ((eq_of_beq left.property).trans (eq_of_beq right.property).symm)
  constructor
  · rintro (⟨slash, bracket⟩ | ⟨opens, inner, closes⟩ | c) (⟨slash', bracket'⟩ | ⟨opens', inner', closes'⟩ | c') same
    all_goals cases same
    · rw [only slash slash']
    · rw [only opens opens', only closes closes']
    · rfl
  · intro part
    cases part with
    | escaped bracket => exact ⟨.inl (⟨backslash, by decide⟩, bracket), rfl⟩
    | pair inner => exact ⟨.inr (.inl (⟨openBracket, by decide⟩, inner, ⟨closeBracket, by decide⟩)), rfl⟩
    | other c => exact ⟨.inr (.inr c), rfl⟩

theorem label_part_reads : Reads labelPart Part.text := by
  have escaped := (oneOf_reads (· == backslash)).andThen (oneOf_reads isBracket)
  have inner := (oneOf_reads fun c => !isBracket c).many fun c => List.cons_ne_nil _ _
  have paired := (oneOf_reads (· == openBracket)).andThen (inner.andThen (oneOf_reads (· == closeBracket)))
  apply (escaped.either (paired.either (oneOf_reads fun c => !isBracket c))).convert part_read_bijective
  rintro (⟨slash, bracket⟩ | ⟨opens, inner, closes⟩ | c)
  · have slash_ : slash.val = backslash := eq_of_beq slash.property
    simp [Part.read, Part.text, slash_]
  · have opens_ : opens.val = openBracket := eq_of_beq opens.property
    have closes_ : closes.val = closeBracket := eq_of_beq closes.property
    simp [Part.read, Part.text, plainText, opens_, closes_]
  · rfl

theorem part_some (part : Part) : part.text ≠ [] := by
  cases part <;> simp [Part.text]

theorem label_reads : Reads label labelText := label_part_reads.many part_some

end Matching

def plainBackslash : Plain := ⟨backslash, by decide⟩

def opens : Bracket := ⟨openBracket, by decide⟩

def closes : Bracket := ⟨closeBracket, by decide⟩

/-- An escaped opening bracket, and after it no bracket before the next escaped closing one. -/
def HasEscapedPair (text : Text) : Prop :=
  ∃ (before : Text) (inner : List Plain) (after : Text),
    text = before ++ backslash :: openBracket :: (plainText inner ++ backslash :: closeBracket :: after)

def IsLabel (text : Text) : Prop := ∃ parts, labelText parts = text

def SplitOnce (text : Text) : Prop := ∀ first second, labelText first = text → labelText second = text → first = second

section Splits
variable {part : Part} {parts : List Part} {c : CodePoint} {more rest before after : Text} {inner : List Plain}

theorem plain_not (c : Plain) : c.val ≠ openBracket ∧ c.val ≠ closeBracket := by
  have plain := c.property
  simp only [isBracket, Bool.not_or, Bool.and_eq_true, Bool.not_eq_true', beq_eq_false_iff_ne] at plain
  exact plain

theorem bracket_cases (bracket : Bracket) : bracket = opens ∨ bracket = closes := by
  have either := bracket.property
  simp only [isBracket, Bool.or_eq_true, beq_iff_eq] at either
  rcases either with first | last
  · exact .inl (Subtype.ext first)
  · exact .inr (Subtype.ext last)

theorem bracket_not_plain (bracket : Bracket) (c : Plain) : bracket.val ≠ c.val := by
  have plain := plain_not c
  rcases bracket_cases bracket with rfl | rfl
  · exact Ne.symm plain.1
  · exact Ne.symm plain.2

theorem part_cases (same : part.text ++ more = c :: rest) :
    (∃ bracket : Bracket, part = .escaped bracket ∧ c = backslash ∧ rest = bracket.val :: more) ∨
    (∃ inner, part = .pair inner ∧ c = openBracket ∧ rest = plainText inner ++ closeBracket :: more) ∨
    (∃ plain : Plain, part = .other plain ∧ c = plain.val ∧ rest = more) := by
  cases part with
  | escaped bracket =>
    obtain ⟨head, tail⟩ := List.cons.inj same
    exact .inl ⟨bracket, rfl, head.symm, tail.symm⟩
  | pair inner =>
    obtain ⟨head, tail⟩ := List.cons.inj same
    refine .inr (.inl ⟨inner, rfl, head.symm, ?_⟩)
    rw [← tail]
    simp
  | other plain =>
    obtain ⟨head, tail⟩ := List.cons.inj same
    exact .inr (.inr ⟨plain, rfl, head.symm, tail.symm⟩)

theorem split_cons (split : labelText parts = c :: rest) :
    ∃ first others, parts = first :: others ∧ first.text ++ labelText others = c :: rest := by
  cases parts with
  | nil => cases split
  | cons first others => exact ⟨first, others, rfl, split⟩

theorem split_at_close (split : labelText parts = plainText inner ++ closeBracket :: after) :
    ∃ front others, inner = front ++ [plainBackslash] ∧ labelText others = after := by
  induction inner generalizing parts with
  | nil =>
    obtain ⟨first, others, rfl, starts⟩ := split_cons split
    rcases part_cases starts with ⟨_, _, head, _⟩ | ⟨_, _, head, _⟩ | ⟨plain, _, head, _⟩
    · exact absurd head (by decide)
    · exact absurd head (by decide)
    · exact absurd head.symm (plain_not plain).2
  | cons c inner ih =>
    obtain ⟨first, others, rfl, starts⟩ := split_cons split
    rcases part_cases starts with ⟨bracket, _, head, tail⟩ | ⟨_, _, head, _⟩ | ⟨plain, _, head, tail⟩
    · cases inner with
      | nil =>
        have slash : c = plainBackslash := Subtype.ext head
        exact ⟨[], others, by rw [slash]; rfl, (List.cons.inj tail).2.symm⟩
      | cons next inner => exact absurd (List.cons.inj tail).1.symm (bracket_not_plain bracket next)
    · exact absurd head (plain_not c).1
    · obtain ⟨front, later, rfl, derived⟩ := ih tail.symm
      exact ⟨c :: front, later, rfl, derived⟩

theorem pair_before (same : before ++ backslash :: openBracket :: rest = plainText inner ++ closeBracket :: more) :
    ∃ between, between ++ backslash :: openBracket :: rest = more ∧ before = plainText inner ++ closeBracket :: between := by
  induction inner generalizing before with
  | nil =>
    cases before with
    | nil => exact absurd (List.cons.inj same).1 (by decide)
    | cons c before =>
      obtain ⟨rfl, tail⟩ := List.cons.inj same
      exact ⟨before, tail, rfl⟩
  | cons c inner ih =>
    cases before with
    | nil =>
      obtain ⟨-, tail⟩ := List.cons.inj same
      cases inner with
      | nil => exact absurd (List.cons.inj tail).1 (by decide)
      | cons next inner => exact absurd (List.cons.inj tail).1.symm (plain_not next).1
    | cons first before =>
      obtain ⟨rfl, tail⟩ := List.cons.inj same
      obtain ⟨between, follows, rfl⟩ := ih tail
      exact ⟨between, follows, rfl⟩

theorem split_before (split : labelText parts = before ++ backslash :: openBracket :: rest) :
    ∃ front back, labelText front = before ∧ labelText back = backslash :: openBracket :: rest := by
  induction parts generalizing before with
  | nil =>
    cases before with
    | nil => cases split
    | cons _ _ => cases split
  | cons part parts ih =>
    cases before with
    | nil => exact ⟨[], part :: parts, rfl, split⟩
    | cons c before =>
      have starts : part.text ++ labelText parts = c :: (before ++ backslash :: openBracket :: rest) := split
      rcases part_cases starts with ⟨bracket, rfl, rfl, tail⟩ | ⟨inner, rfl, rfl, tail⟩ | ⟨plain, rfl, rfl, tail⟩
      · cases before with
        | nil => exact absurd (List.cons.inj tail).1.symm (bracket_not_plain bracket plainBackslash)
        | cons next before =>
          obtain ⟨rfl, ends⟩ := List.cons.inj tail
          obtain ⟨front, back, derived, follows⟩ := ih ends.symm
          exact ⟨.escaped bracket :: front, back, by rw [← derived]; rfl, follows⟩
      · obtain ⟨between, ends, rfl⟩ := pair_before tail
        obtain ⟨front, back, derived, follows⟩ := ih ends.symm
        refine ⟨.pair inner :: front, back, ?_, follows⟩
        rw [← derived]
        simp [labelText, Part.text]
      · obtain ⟨front, back, derived, follows⟩ := ih tail.symm
        exact ⟨.other plain :: front, back, by rw [← derived]; rfl, follows⟩

theorem first_close {left right : List Plain} {tail last : Text}
    (same : plainText left ++ closeBracket :: tail = plainText right ++ closeBracket :: last) : left = right ∧ tail = last := by
  have free (inner : List Plain) : ∀ c ∈ plainText inner, ¬ c = closeBracket := by
    intro c member
    obtain ⟨plain, -, rfl⟩ := List.mem_map.mp member
    exact (plain_not plain).2
  have before_close := @Readable.before_stop CodePoint (· = closeBracket)
  obtain ⟨texts, tails⟩ := before_close rfl rfl (free left) (free right) same
  exact ⟨List.map_injective_iff.mpr Subtype.val_injective texts, (List.cons.inj tails).2⟩

theorem label_behind (split : labelText parts = backslash :: openBracket :: (plainText inner ++ backslash :: closeBracket :: after)) :
    IsLabel after := by
  have shape : plainText inner ++ backslash :: closeBracket :: after = plainText (inner ++ [plainBackslash]) ++ closeBracket :: after := by
    simp [plainText, plainBackslash]
  rw [shape] at split
  obtain ⟨first, others, rfl, starts⟩ := split_cons split
  rcases part_cases starts with ⟨bracket, _, _, tail⟩ | ⟨_, _, head, _⟩ | ⟨plain, _, _, tail⟩
  · obtain ⟨-, tail⟩ := List.cons.inj tail
    obtain ⟨-, later, -, derived⟩ := split_at_close tail.symm
    exact ⟨later, derived⟩
  · exact absurd head (by decide)
  · obtain ⟨second, later, rfl, goesOn⟩ := split_cons tail.symm
    rcases part_cases goesOn with ⟨_, _, head, _⟩ | ⟨_, _, _, ends⟩ | ⟨plain, _, head, _⟩
    · exact absurd head (by decide)
    · exact ⟨later, (first_close ends).2.symm⟩
    · exact absurd head.symm (plain_not plain).1

/-- Where two splits of one text part, one takes the escaped opening bracket and the other reads the
backslash by itself. -/
theorem apart_at {bracket : Bracket} {others : List Part} (same : bracket.val :: labelText parts = labelText others) :
    HasEscapedPair (backslash :: bracket.val :: labelText parts) := by
  obtain ⟨first, later, rfl, starts⟩ := split_cons same.symm
  rcases part_cases starts with ⟨_, _, head, _⟩ | ⟨inner, _, head, tail⟩ | ⟨plain, _, head, _⟩
  · rcases bracket_cases bracket with rfl | rfl
    · exact absurd head (by decide)
    · exact absurd head (by decide)
  · obtain ⟨front, back, rfl, -⟩ := split_at_close tail
    refine ⟨[], front, labelText later, ?_⟩
    rw [head, tail]
    simp [plainText, plainBackslash]
  · exact absurd head (bracket_not_plain bracket plain)

theorem HasEscapedPair.behind (pair : HasEscapedPair after) (before : Text) : HasEscapedPair (before ++ after) := by
  obtain ⟨front, inner, back, rfl⟩ := pair
  exact ⟨before ++ front, inner, back, (List.append_assoc _ _ _).symm⟩

theorem splits_differ {first second : List Part} (same : labelText first = labelText second) (different : first ≠ second) :
    HasEscapedPair (labelText first) := by
  induction first generalizing second with
  | nil =>
    cases second with
    | nil => exact absurd rfl different
    | cons part parts =>
      have none_ : part.text ++ labelText parts = [] := same.symm
      exact absurd (List.append_eq_nil_iff.mp none_).1 (part_some part)
  | cons part parts ih =>
    cases second with
    | nil =>
      have none_ : part.text ++ labelText parts = [] := same
      exact absurd (List.append_eq_nil_iff.mp none_).1 (part_some part)
    | cons other others =>
      have recurse (tails : labelText parts = labelText others) (heads : part = other) :
          HasEscapedPair (labelText (part :: parts)) := by
        have later : parts ≠ others := fun equal => different (by rw [heads, equal])
        exact (ih tails later).behind part.text
      cases part with
      | escaped bracket =>
        rcases part_cases (Eq.symm same) with ⟨also, rfl, _, tail⟩ | ⟨_, _, head, _⟩ | ⟨plain, rfl, _, tail⟩
        · obtain ⟨brackets, tails⟩ := List.cons.inj tail
          exact recurse tails (congrArg Part.escaped (Subtype.ext brackets))
        · exact absurd head (by decide)
        · exact apart_at tail
      | pair inner =>
        rcases part_cases (Eq.symm same) with ⟨_, _, head, _⟩ | ⟨also, rfl, _, tail⟩ | ⟨plain, _, head, _⟩
        · exact absurd head (by decide)
        · have shape : plainText inner ++ [closeBracket] ++ labelText parts = plainText also ++ closeBracket :: labelText others := tail
          rw [List.append_assoc, List.singleton_append] at shape
          obtain ⟨inners, tails⟩ := first_close shape
          exact recurse tails (congrArg Part.pair inners)
        · exact absurd head.symm (plain_not plain).1
      | other c =>
        rcases part_cases (Eq.symm same) with ⟨bracket, rfl, head, tail⟩ | ⟨_, _, head, _⟩ | ⟨plain, rfl, head, tail⟩
        · have whole : labelText (.other c :: parts) = backslash :: bracket.val :: labelText others := same
          rw [whole]
          exact apart_at tail.symm
        · exact absurd head (plain_not c).1
        · exact recurse tail (congrArg Part.other (Subtype.ext head))

theorem labelText_append (front back : List Part) : labelText (front ++ back) = labelText front ++ labelText back :=
  List.flatMap_append

theorem labelText_plain (inner : List Plain) : labelText (inner.map Part.other) = plainText inner := by
  induction inner with
  | nil => rfl
  | cons c inner ih =>
    rw [List.map_cons, plainText, List.map_cons, ← plainText, ← ih]
    rfl

/-- A label with an escaped pair is read with the escapes, and with the brackets as a raw pair. -/
theorem split_twice (label_ : IsLabel before) (pair : HasEscapedPair before) : ¬ SplitOnce before := by
  obtain ⟨parts, split⟩ := label_
  obtain ⟨begins, inner, ends, rfl⟩ := pair
  obtain ⟨front, back, rfl, follows⟩ := split_before split
  obtain ⟨later, rfl⟩ := label_behind follows
  intro once
  have escapes := once (front ++ .escaped opens :: (inner.map Part.other ++ .escaped closes :: later))
    (front ++ .other plainBackslash :: .pair (inner ++ [plainBackslash]) :: later)
  have same := escapes ?_ ?_
  · cases (List.cons.inj (List.append_cancel_left same)).1
  · rw [labelText_append]
    have middle := labelText_append (inner.map Part.other) (.escaped closes :: later)
    rw [labelText_plain] at middle
    have whole : labelText (.escaped opens :: (inner.map Part.other ++ .escaped closes :: later)) =
      backslash :: openBracket :: labelText (inner.map Part.other ++ .escaped closes :: later) := rfl
    rw [whole, middle]
    rfl
  · rw [labelText_append]
    have whole : labelText (.other plainBackslash :: .pair (inner ++ [plainBackslash]) :: later) =
      backslash :: openBracket :: (plainText (inner ++ [plainBackslash]) ++ [closeBracket] ++ labelText later) := rfl
    rw [whole]
    simp [plainText, plainBackslash]

end Splits

/-- How often the matcher gets from the start of the text to where the rest is left. -/
def derivations (text rest : Text) : Nat := ((label (text ++ rest)).filter fun found => found.2 = rest).length

section Derivations
variable {text rest : Text}

theorem mem_derivations {found : List Part × Text} :
    found ∈ (label (text ++ rest)).filter (fun found => found.2 = rest) ↔ labelText found.1 = text ∧ found.2 = rest := by
  rw [List.mem_filter, label_reads.mem, decide_eq_true_iff]
  constructor
  · rintro ⟨whole, rfl⟩
    exact ⟨List.append_cancel_right whole, rfl⟩
  · rintro ⟨rfl, rfl⟩
    exact ⟨rfl, rfl⟩

theorem at_most_one {found : List (List Part × Text)} (nodup : found.Nodup) (same : ∀ one ∈ found, ∀ two ∈ found, one = two) :
    found.length ≤ 1 := by
  cases found with
  | nil => exact Nat.zero_le 1
  | cons one more =>
    cases more with
    | nil => exact Nat.le_refl 1
    | cons two tail =>
      have equal := same one List.mem_cons_self two (List.mem_cons_of_mem one List.mem_cons_self)
      exact absurd (equal ▸ List.mem_cons_self) (List.nodup_cons.mp nodup).1

theorem derivations_once (rest : Text) : derivations text rest ≤ 1 ↔ SplitOnce text := by
  have nodup := (label_reads.once (text ++ rest)).filter fun found => decide (found.2 = rest)
  constructor
  · intro short first second one two
    have inFirst : (first, rest) ∈ (label (text ++ rest)).filter fun found => found.2 = rest := mem_derivations.mpr ⟨one, rfl⟩
    have inSecond : (second, rest) ∈ (label (text ++ rest)).filter fun found => found.2 = rest := mem_derivations.mpr ⟨two, rfl⟩
    obtain ⟨only, alone⟩ := List.length_eq_one_iff.mp (Nat.le_antisymm short (List.length_pos_of_mem inFirst))
    rw [alone, List.mem_singleton] at inFirst inSecond
    exact (Prod.mk.inj (inFirst.trans inSecond.symm)).1
  · intro once
    apply at_most_one nodup
    intro one inFirst two inSecond
    obtain ⟨first, firstRest⟩ := mem_derivations.mp inFirst
    obtain ⟨second, secondRest⟩ := mem_derivations.mp inSecond
    exact Prod.ext (once one.1 two.1 first second) (firstRest.trans secondRest.symm)

end Derivations

/-- A text is split in one way at most, and the matcher derives it at most once whatever follows,
exactly when it is no label or has no escaped pair. -/
theorem label_split_once_iff (text : Text) :
    (SplitOnce text ∧ ∀ rest, derivations text rest ≤ 1) ↔ ¬ (IsLabel text ∧ HasEscapedPair text) := by
  constructor
  · rintro ⟨once, -⟩ ⟨label_, pair⟩
    exact split_twice label_ pair once
  · intro none_
    have once : SplitOnce text := by
      intro first second one two
      by_contra different
      subst one
      exact none_ ⟨⟨first, rfl⟩, splits_differ two.symm different⟩
    exact ⟨once, fun rest => (derivations_once rest).mpr once⟩

/-- An escaped pair with nothing inside. -/
def emptyPair : Text := [backslash, openBracket, backslash, closeBracket]

theorem empty_pair_twice : labelText [.escaped opens, .escaped closes] = emptyPair ∧
    labelText [.other plainBackslash, .pair [plainBackslash]] = emptyPair ∧ derivations emptyPair [] = 2 ∧ ¬ SplitOnce emptyPair := by
  refine ⟨by decide, by decide, by decide +kernel, ?_⟩
  intro once
  exact absurd (once [.escaped opens, .escaped closes] [.other plainBackslash, .pair [plainBackslash]] (by decide) (by decide)) (by decide)

def emptyPairs : Nat → Text
  | 0 => []
  | count + 1 => emptyPair ++ emptyPairs count

def readings : Nat → List (List Part)
  | 0 => [[]]
  | count + 1 => (readings count).map (fun parts => .escaped opens :: .escaped closes :: parts) ++
      (readings count).map fun parts => .other plainBackslash :: .pair [plainBackslash] :: parts

section Doubling

theorem readings_length (count : Nat) : (readings count).length = 2 ^ count := by
  induction count with
  | zero => rfl
  | succ count ih =>
    rw [readings, List.length_append, List.length_map, List.length_map, ih]
    omega

theorem readings_nodup (count : Nat) : (readings count).Nodup := by
  induction count with
  | zero => exact List.nodup_singleton _
  | succ count ih =>
    apply List.Nodup.append
    · apply ih.map
      intro one two same
      exact (List.cons.inj (List.cons.inj same).2).2
    · apply ih.map
      intro one two same
      exact (List.cons.inj (List.cons.inj same).2).2
    · intro parts escapes pairs
      obtain ⟨one, -, rfl⟩ := List.mem_map.mp escapes
      obtain ⟨two, -, same⟩ := List.mem_map.mp pairs
      cases (List.cons.inj same).1

theorem readings_text (count : Nat) : ∀ parts ∈ readings count, labelText parts = emptyPairs count := by
  induction count with
  | zero =>
    intro parts member
    rw [List.mem_singleton.mp member]
    rfl
  | succ count ih =>
    intro parts member
    rcases List.mem_append.mp member with escapes | pairs
    · obtain ⟨one, inner, rfl⟩ := List.mem_map.mp escapes
      rw [emptyPairs, ← ih one inner]
      rfl
    · obtain ⟨two, inner, rfl⟩ := List.mem_map.mp pairs
      rw [emptyPairs, ← ih two inner]
      rfl

/-- Each further escaped pair doubles what the matcher tries. -/
theorem derivations_double (count : Nat) (rest : Text) : 2 ^ count ≤ derivations (emptyPairs count) rest := by
  have nodup : ((readings count).map fun parts => (parts, rest)).Nodup := by
    apply (readings_nodup count).map
    intro one two same
    exact (Prod.mk.inj same).1
  have among : (readings count).map (fun parts => (parts, rest)) ⊆
      (label (emptyPairs count ++ rest)).filter fun found => found.2 = rest := by
    intro found member
    obtain ⟨parts, inner, rfl⟩ := List.mem_map.mp member
    exact mem_derivations.mpr ⟨readings_text count parts inner, rfl⟩
  calc 2 ^ count = ((readings count).map fun parts => (parts, rest)).length := by rw [List.length_map, readings_length]
    _ ≤ derivations (emptyPairs count) rest := List.Nodup.length_le_of_subset nodup among

end Doubling

end Sprintable.References
