import Sprintable.References.TokenPatterns

/-! What is read back from a text in which tokens stand. Behind a title that ends with a backslash the
chat's pattern may take the closing bracket for an escaped one, and goes on to a later token. -/

namespace Sprintable.References

open CodePoints Backtracking Firsts

def endsInBackslash (text : Text) : Bool := text.getLast? == some backslash

/-- The text behind a token lets the label run on into a later token: by a backslash in front of it, by a
title whose first bracket closes, or over a title without brackets. -/
def runsOn : List Plain → Tokens → Bool
  | _, [] => false
  | text, (mention, after) :: more =>
    endsInBackslash (plainText text) || mention.title.find? isBracket == some closeBracket ||
      (mention.title.find? isBracket == none && runsOn after more)

/-- The tokens with whether they are reported. Inside a label, with the text in front of the token, the
token is one of the label, or its end is tried again. -/
def reported : Option (List Plain) → Tokens → List (Ref × Bool)
  | _, [] => []
  | inside, (mention, after) :: more =>
    let tried := inside.all fun text => endsInBackslash (plainText text) || mention.title.find? isBracket == some closeBracket
    if tried && !(endsInBackslash mention.title && runsOn after more) then (mention.ref, true) :: reported none more
    else (mention.ref, false) :: reported (some after) more

section Labels
variable {rest : Text} {c : CodePoint}

def inLabel (text : Text) : Option (Groups × Text) := behind labelPart chatEnd text

theorem inLabel_eq (text : Text) :
    inLabel text = ((labelPart text).findSome? fun front => inLabel front.2).or (first chatEnd text) :=
  behind_eq label_part_consumes text

theorem inLabel_nil : inLabel [] = none := by
  rw [inLabel_eq]
  rfl

theorem inLabel_close (rest : Text) : inLabel (closeBracket :: rest) = first chatEnd (closeBracket :: rest) := by
  have nothing : labelPart (closeBracket :: rest) = [] := by
    apply label_part_reads.none_
    intro found same
    rcases part_cases same with ⟨_, _, head, _⟩ | ⟨_, _, head, _⟩ | ⟨plain, _, head, _⟩
    · exact absurd head (by decide)
    · exact absurd head (by decide)
    · exact absurd head.symm (plain_not plain).2
  rw [inLabel_eq, nothing, List.findSome?_nil, Option.none_or]

theorem inLabel_plain (c : Plain) (alone : c = plainBackslash → ∀ bracket : Bracket, ∀ more, rest ≠ bracket.val :: more) :
    inLabel (c.val :: rest) = inLabel rest := by
  have only : labelPart (c.val :: rest) = [(.other c, rest)] := by
    apply label_part_reads.only
    intro found
    constructor
    · intro same
      rcases part_cases same with ⟨bracket, _, head, tail⟩ | ⟨_, _, head, _⟩ | ⟨plain, part, head, tail⟩
      · exact absurd tail (alone (Subtype.ext head) bracket found.2)
      · exact absurd head (plain_not c).1
      · exact Prod.ext (part.trans (congrArg Part.other (Subtype.ext head.symm))) tail.symm
    · rintro rfl
      rfl
  rw [inLabel_eq, only, List.findSome?_singleton, chat_end_other rest (plain_not c).2, Option.or_none]

theorem inLabel_escape (bracket : Bracket) (rest : Text) :
    inLabel (backslash :: bracket.val :: rest) = (inLabel rest).or (inLabel (bracket.val :: rest)) := by
  have both : labelPart (backslash :: bracket.val :: rest) = [(.escaped bracket, rest), (.other plainBackslash, bracket.val :: rest)] := by
    have slash : oneOf (fun c => c == backslash) (backslash :: bracket.val :: rest) =
        [(⟨backslash, beq_self_eq_true _⟩, bracket.val :: rest)] := oneOf_accepted _ _
    have escaped : oneOf isBracket (bracket.val :: rest) = [(bracket, rest)] := oneOf_accepted _ _
    have opening : oneOf (fun c => c == openBracket) (backslash :: bracket.val :: rest) = [] := oneOf_rejected (by decide) _
    have plain : oneOf (fun c => !isBracket c) (backslash :: bracket.val :: rest) = [(plainBackslash, bracket.val :: rest)] :=
      @oneOf_accepted CodePoint (fun c => !isBracket c) backslash plainBackslash.property _
    simp only [labelPart, convert, either, escapedBracket, rawPair, andThen, slash, escaped, opening, plain,
      List.flatMap_singleton, List.flatMap_nil, List.map_cons, List.map_nil, List.nil_append, List.cons_append]
    rfl
  have other : backslash ≠ closeBracket := by decide
  rw [inLabel_eq, both, chat_end_other _ other, Option.or_none, List.findSome?_cons, List.findSome?_singleton]
  cases inLabel rest with
  | none => rfl
  | some found => rfl

theorem inLabel_pair (inner : List Plain) (rest : Text) :
    inLabel (openBracket :: (plainText inner ++ closeBracket :: rest)) = inLabel rest := by
  have only : labelPart (openBracket :: (plainText inner ++ closeBracket :: rest)) = [(.pair inner, rest)] := by
    apply label_part_reads.only
    intro found
    constructor
    · intro same
      rcases part_cases same with ⟨_, _, head, _⟩ | ⟨also, part, _, tail⟩ | ⟨plain, _, head, _⟩
      · exact absurd head (by decide)
      · obtain ⟨inners, rests⟩ := first_close tail
        exact Prod.ext (part.trans (congrArg Part.pair inners.symm)) rests.symm
      · exact absurd head.symm (plain_not plain).1
    · rintro rfl
      simp [Part.text]
  have other : openBracket ≠ closeBracket := by decide
  rw [inLabel_eq, only, List.findSome?_singleton, chat_end_other _ other, Option.or_none]

theorem inLabel_nested (inner : List Plain) (rest : Text) :
    inLabel (openBracket :: (plainText inner ++ openBracket :: rest)) = none := by
  have nothing : labelPart (openBracket :: (plainText inner ++ openBracket :: rest)) = [] := by
    apply label_part_reads.none_
    intro found same
    rcases part_cases same with ⟨_, _, head, _⟩ | ⟨also, _, _, tail⟩ | ⟨plain, _, head, _⟩
    · exact absurd head (by decide)
    · have free (inner : List Plain) : ∀ c ∈ plainText inner, ¬ isBracket c = true := by
        intro c member
        obtain ⟨plain, -, rfl⟩ := List.mem_map.mp member
        exact fun bracket => bracket_not_plain ⟨plain.val, bracket⟩ plain rfl
      have before_bracket := @Readable.before_stop CodePoint (isBracket · = true)
      obtain ⟨-, ends⟩ := before_bracket (by decide) (by decide) (free inner) (free also) tail
      exact absurd (List.cons.inj ends).1 (by decide)
    · exact absurd head.symm (plain_not plain).1
  have other : openBracket ≠ closeBracket := by decide
  rw [inLabel_eq, nothing, List.findSome?_nil, chat_end_other _ other, Option.none_or]

theorem inLabel_end (text : List Plain) : inLabel (plainText text) = none := by
  induction text with
  | nil => exact inLabel_nil
  | cons c text ih =>
    have outside : inLabel (c.val :: plainText text) = inLabel (plainText text) := by
      apply inLabel_plain
      intro _ bracket more starts
      cases text with
      | nil => cases starts
      | cons next text => exact absurd (List.cons.inj starts).1.symm (bracket_not_plain bracket next)
    rw [plainText, List.map_cons, ← plainText, outside, ih]

theorem inLabel_run (text : List Plain) (rest : Text) :
    inLabel (plainText text ++ openBracket :: rest) =
      if endsInBackslash (plainText text) then (inLabel rest).or (inLabel (openBracket :: rest)) else inLabel (openBracket :: rest) := by
  induction text with
  | nil => rfl
  | cons c text ih =>
    cases text with
    | nil =>
      by_cases slash : c = plainBackslash
      · rw [slash]
        exact inLabel_escape opens rest
      · have last : endsInBackslash (plainText [c]) = false := by
          apply beq_eq_false_iff_ne.mpr
          intro same
          exact slash (Subtype.ext (Option.some.inj same))
        rw [last, if_neg Bool.false_ne_true]
        exact inLabel_plain c fun same => absurd same slash
    | cons next text =>
      have outside : inLabel (c.val :: (plainText (next :: text) ++ openBracket :: rest)) = inLabel (plainText (next :: text) ++ openBracket :: rest) := by
        apply inLabel_plain
        intro _ bracket more starts
        exact absurd (List.cons.inj starts).1.symm (bracket_not_plain bracket next)
      have last : endsInBackslash (plainText (c :: next :: text)) = endsInBackslash (plainText (next :: text)) := by
        simp only [endsInBackslash, plainText, List.map_cons, List.getLast?_cons_cons]
      rw [last, ← ih]
      exact outside

end Labels

section Titles
variable {c : CodePoint} {title : Text}

theorem endsIn_cons (other : c ≠ backslash) (title : Text) : endsInBackslash (c :: title) = endsInBackslash title := by
  cases title with
  | nil =>
    apply beq_eq_false_iff_ne.mpr
    intro same
    exact other (Option.some.inj same)
  | cons d title => rw [endsInBackslash, endsInBackslash, List.getLast?_cons_cons]

theorem endsIn_cons_cons (c d : CodePoint) (title : Text) : endsInBackslash (c :: d :: title) = endsInBackslash (d :: title) := by
  rw [endsInBackslash, endsInBackslash, List.getLast?_cons_cons]

theorem collapse_cons (inRun : Bool) (c : CodePoint) (title : Text) : collapse inRun (c :: title) =
    if isNewline c then (if inRun then collapse true title else space :: collapse true title) else c :: collapse false title := rfl

theorem collapse_last (inRun : Bool) (title : Text) : endsInBackslash (collapse inRun title) = endsInBackslash title := by
  induction title generalizing inRun with
  | nil => rfl
  | cons c title ih =>
    rw [collapse_cons]
    by_cases newline : isNewline c = true
    · have other : c ≠ backslash := by
        rintro rfl
        exact absurd newline (by decide)
      have blank : space ≠ backslash := by decide
      cases inRun with
      | true => rw [if_pos newline, if_pos rfl, ih, endsIn_cons other]
      | false => rw [if_pos newline, if_neg Bool.false_ne_true, endsIn_cons blank, ih, endsIn_cons other]
    · rw [if_neg newline]
      cases title with
      | nil => rfl
      | cons d title =>
        have later := ih false
        obtain ⟨first, rest, starts⟩ : ∃ first rest, collapse false (d :: title) = first :: rest := by
          rw [collapse_cons]
          split
          · exact ⟨_, _, rfl⟩
          · exact ⟨_, _, rfl⟩
        rw [starts] at later ⊢
        rw [endsIn_cons_cons, later, endsIn_cons_cons]

theorem collapse_find (inRun : Bool) (title : Text) : (collapse inRun title).find? isBracket = title.find? isBracket := by
  induction title generalizing inRun with
  | nil => rfl
  | cons c title ih =>
    rw [collapse_cons]
    by_cases newline : isNewline c = true
    · have plain : ¬ isBracket c = true := by
        intro bracket
        rw [unsafe_not_newline (unsafe_of_bracket bracket)] at newline
        exact Bool.false_ne_true newline
      have blank : ¬ isBracket space = true := by decide
      cases inRun with
      | true => rw [if_pos newline, if_pos rfl, ih, List.find?_cons_of_neg plain]
      | false => rw [if_pos newline, if_neg Bool.false_ne_true, List.find?_cons_of_neg blank, ih, List.find?_cons_of_neg plain]
    · rw [if_neg newline]
      by_cases bracket : isBracket c = true
      · rw [List.find?_cons_of_pos bracket, List.find?_cons_of_pos bracket]
      · rw [List.find?_cons_of_neg bracket, List.find?_cons_of_neg bracket, ih]

theorem escape_head (c : CodePoint) (title : Text) :
    ∃ (plain : Plain) (more : Text), (c :: title).flatMap escapeChar = plain.val :: more := by
  rw [List.flatMap_cons, escapeChar]
  by_cases unsafe_ : isUnsafe c = true
  · rw [if_pos unsafe_]
    exact ⟨plainBackslash, _, rfl⟩
  · rw [if_neg unsafe_]
    have plain : (!isBracket c) = true := by
      rw [Bool.not_eq_true']
      exact Bool.eq_false_iff.mpr fun bracket => unsafe_ (unsafe_of_bracket bracket)
    exact ⟨⟨c, plain⟩, _, rfl⟩

theorem escape_free (free : ∀ c ∈ title, ¬ isBracket c = true) : ∃ inner, plainText inner = title.flatMap escapeChar := by
  apply accepted_text
  intro c member
  obtain ⟨origin, listed, inside⟩ := List.mem_flatMap.mp member
  rw [Bool.not_eq_true']
  apply Bool.eq_false_iff.mpr
  rw [escapeChar] at inside
  split at inside
  · rcases List.mem_cons.mp inside with rfl | same
    · decide
    · rw [List.mem_singleton.mp same]
      exact free origin listed
  · rw [List.mem_singleton.mp inside]
    exact free origin listed

end Titles

section Reading
variable (mention : Mention) (rest : Text)

/-- The label is read to the end of an escaped title. Behind a last backslash it is tried beyond first. -/
theorem title_read (title : Text) : inLabel (title.flatMap escapeChar ++ closeBracket :: (mention.target ++ rest)) =
    if endsInBackslash title then (inLabel (mention.target ++ rest)).or (some (mention.groups, rest)) else some (mention.groups, rest) := by
  induction title with
  | nil => exact (inLabel_close _).trans (chat_end mention rest)
  | cons c title ih =>
    rw [List.flatMap_cons, escapeChar]
    by_cases unsafe_ : isUnsafe c = true
    · rw [if_pos unsafe_, List.cons_append, List.cons_append, List.singleton_append, List.cons_append]
      have slash_or (other : c ≠ backslash ∨ ∃ d more, title = d :: more) : endsInBackslash (c :: title) = endsInBackslash title := by
        rcases other with other | ⟨d, more, rfl⟩
        · exact endsIn_cons other title
        · exact endsIn_cons_cons c d more
      rcases unsafe_cases unsafe_ with rfl | bracket | rfl | rfl
      · have outside (more : Text) : inLabel (backslash :: backslash :: more) = inLabel (backslash :: more) := by
          apply inLabel_plain plainBackslash
          intro _ bracket more starts
          exact absurd (List.cons.inj starts).1.symm (bracket_not_plain bracket plainBackslash)
        rw [outside]
        cases title with
        | nil =>
          have ends : endsInBackslash [backslash] = true := by decide
          rw [ends, if_pos rfl, ← chat_end mention rest, ← inLabel_close]
          exact inLabel_escape closes _
        | cons d title =>
          obtain ⟨plain, more, starts⟩ := escape_head d title
          have next : inLabel (backslash :: ((d :: title).flatMap escapeChar ++ closeBracket :: (mention.target ++ rest))) =
              inLabel ((d :: title).flatMap escapeChar ++ closeBracket :: (mention.target ++ rest)) := by
            apply inLabel_plain plainBackslash
            intro _ bracket others begins
            rw [starts] at begins
            exact absurd (List.cons.inj begins).1.symm (bracket_not_plain bracket plain)
          rw [next, ih, slash_or (.inr ⟨d, title, rfl⟩)]
      · have other : c ≠ backslash := by
          rintro rfl
          exact absurd bracket (by decide)
        have escape := inLabel_escape ⟨c, bracket⟩ (title.flatMap escapeChar ++ closeBracket :: (mention.target ++ rest))
        rw [slash_or (.inl other), escape, ih]
        split
        · cases inLabel (mention.target ++ rest) with
          | none => rfl
          | some found => rfl
        · rfl
      all_goals
        rw [slash_or (.inl (by decide))]
        rw [← ih]
        refine (inLabel_plain plainBackslash fun _ bracket more starts => ?_).trans (inLabel_plain ⟨_, by decide⟩ fun same => ?_)
        · have head := (List.cons.inj starts).1
          rcases bracket_cases bracket with rfl | rfl
          · exact absurd head (by decide)
          · exact absurd head (by decide)
        · exact absurd (congrArg Subtype.val same) (by decide)
    · have other : c ≠ backslash := by
        rintro rfl
        exact absurd (by decide) unsafe_
      have plain : (!isBracket c) = true := by
        rw [Bool.not_eq_true']
        exact Bool.eq_false_iff.mpr fun bracket => unsafe_ (unsafe_of_bracket bracket)
      rw [if_neg unsafe_, endsIn_cons other, ← ih]
      exact inLabel_plain ⟨c, plain⟩ fun same => absurd (congrArg Subtype.val same) other

theorem opened_free {title : Text} (free : title.find? isBracket = none) :
    inLabel (openBracket :: (title.flatMap escapeChar ++ closeBracket :: (mention.target ++ rest))) = inLabel (mention.target ++ rest) := by
  obtain ⟨inner, same⟩ := escape_free fun c member => List.find?_eq_none.mp free c member
  rw [← same, inLabel_pair]

theorem opened_close {title : Text} (first_ : title.find? isBracket = some closeBracket) :
    inLabel (openBracket :: (title.flatMap escapeChar ++ closeBracket :: (mention.target ++ rest))) =
      inLabel (title.flatMap escapeChar ++ closeBracket :: (mention.target ++ rest)) := by
  obtain ⟨-, front, back, rfl, free⟩ := List.find?_eq_some_iff_append.mp first_
  obtain ⟨inner, same⟩ := escape_free fun c member => by simpa using free c member
  have closing : escapeChar closeBracket = [backslash, closeBracket] := by decide
  have shape : (front ++ closeBracket :: back).flatMap escapeChar =
      plainText (inner ++ [plainBackslash]) ++ closeBracket :: back.flatMap escapeChar := by
    rw [List.flatMap_append, List.flatMap_cons, closing, ← same]
    simp [plainText, plainBackslash]
  have last : endsInBackslash (front ++ closeBracket :: back) = endsInBackslash back := by
    rw [← endsIn_cons (by decide : closeBracket ≠ backslash) back]
    simp only [endsInBackslash, List.getLast?_append, List.getLast?_cons, Option.some_or]
  have whole := title_read mention rest (front ++ closeBracket :: back)
  rw [whole, last, shape, List.append_assoc, List.cons_append, inLabel_pair]
  exact title_read mention rest back

theorem opened_open {title : Text} (first_ : title.find? isBracket = some openBracket) :
    inLabel (openBracket :: (title.flatMap escapeChar ++ closeBracket :: (mention.target ++ rest))) = none := by
  obtain ⟨-, front, back, rfl, free⟩ := List.find?_eq_some_iff_append.mp first_
  obtain ⟨inner, same⟩ := escape_free fun c member => by simpa using free c member
  have opening : escapeChar openBracket = [backslash, openBracket] := by decide
  have shape : (front ++ openBracket :: back).flatMap escapeChar =
      plainText (inner ++ [plainBackslash]) ++ openBracket :: back.flatMap escapeChar := by
    rw [List.flatMap_append, List.flatMap_cons, opening, ← same]
    simp [plainText, plainBackslash]
  rw [shape, List.append_assoc, List.cons_append, inLabel_nested]

end Reading

theorem tokensText_cons (mention : Mention) (after : List Plain) (more : Tokens) :
    tokensText ((mention, after) :: more) = openBracket :: (mention.shown.flatMap escapeChar ++
      closeBracket :: (mention.target ++ (plainText after ++ tokensText more))) := by
  rw [tokensText, token_eq]
  simp only [List.cons_append, List.append_assoc]

/-- What the pattern reads at a token's target, with no bracket in it and a parenthesis at its end. -/
theorem target_plain (mention : Mention) : ∃ front : List Plain, ∃ last : Plain, last ≠ plainBackslash ∧
    plainText (front ++ [last]) = mention.target := by
  have starts : (lit "(entity:").all (fun c => !isBracket c) = true := by decide
  have colon : (lit ":").all (fun c => !isBracket c) = true := by decide
  have letters : ∀ c ∈ lit mention.type, (!isBracket c) = true := by
    intro c member
    have letter := (type_chars mention).2 c member
    rw [Bool.not_eq_true']
    apply Bool.eq_false_iff.mpr
    intro bracket
    rcases bracket_cases ⟨c, bracket⟩ with same | same
    · rw [show c = openBracket from congrArg Subtype.val same] at letter
      exact absurd letter (by decide)
    · rw [show c = closeBracket from congrArg Subtype.val same] at letter
      exact absurd letter (by decide)
  have free : ∀ c ∈ lit "(entity:" ++ lit mention.type ++ lit ":" ++ lit mention.id.text, (!isBracket c) = true := by
    intro c member
    simp only [List.mem_append] at member
    rcases member with ((first | type) | mark) | id
    · exact List.all_eq_true.mp starts c first
    · exact letters c type
    · exact List.all_eq_true.mp colon c mark
    · rw [(id_chars mention c id).2]
      rfl
  obtain ⟨front, same⟩ := accepted_text free
  refine ⟨front, ⟨closeParen, by decide⟩, by decide, ?_⟩
  rw [plainText, List.map_append, same]
  rfl

theorem behind_target (mention : Mention) (after : List Plain) (rest : Text) :
    inLabel (mention.target ++ (plainText after ++ openBracket :: rest)) =
      if endsInBackslash (plainText after) then (inLabel rest).or (inLabel (openBracket :: rest)) else inLabel (openBracket :: rest) := by
  obtain ⟨front, last, other, same⟩ := target_plain mention
  have whole : mention.target ++ (plainText after ++ openBracket :: rest) = plainText (front ++ last :: after) ++ openBracket :: rest := by
    rw [← same]
    simp [plainText]
  have ends : endsInBackslash (plainText (front ++ last :: after)) = endsInBackslash (plainText after) := by
    have skip := endsIn_cons (fun slash => other (Subtype.ext slash)) (plainText after)
    rw [← skip]
    simp only [endsInBackslash, plainText, List.map_append, List.map_cons, List.getLast?_append, List.getLast?_cons, Option.some_or]
  rw [whole, inLabel_run, ends]

theorem behind_last (mention : Mention) (after : List Plain) : inLabel (mention.target ++ plainText after) = none := by
  obtain ⟨front, last, -, same⟩ := target_plain mention
  have whole : mention.target ++ plainText after = plainText (front ++ [last] ++ after) := by
    rw [← same]
    simp [plainText]
  rw [whole, inLabel_end]

/-- The matcher takes a token, and the search goes on behind it with the tokens that are left. -/
def Arrives (found : Option (Groups × Text)) (entries : List (Ref × Bool)) (bound : Nat) : Prop :=
  ∃ (mention : Mention) (after : List Plain) (more : Tokens), more.length < bound ∧
    found = some (mention.groups, plainText after ++ tokensText more) ∧ readOnly entries = mention.ref :: readOnly (reported none more)

/-- The entries from a token on whose end is tried. -/
def tried (mention : Mention) (after : List Plain) (more : Tokens) : List (Ref × Bool) := reported none ((mention, after) :: more)

section Runs
variable {mention : Mention} {after : List Plain} {more : Tokens}

theorem tried_eq (mention : Mention) (after : List Plain) (more : Tokens) : tried mention after more =
    if endsInBackslash mention.title && runsOn after more then (mention.ref, false) :: reported (some after) more
    else (mention.ref, true) :: reported none more := by
  rw [tried, reported]
  cases endsInBackslash mention.title && runsOn after more with
  | true => rfl
  | false => rfl

theorem reported_tried {text : List Plain}
    (entered : (endsInBackslash (plainText text) || mention.title.find? isBracket == some closeBracket) = true) :
    reported (some text) ((mention, after) :: more) = tried mention after more := by
  rw [tried, reported, reported]
  simp only [Option.all_some, Option.all_none, entered]

theorem reported_passed {text : List Plain}
    (passed : (endsInBackslash (plainText text) || mention.title.find? isBracket == some closeBracket) = false) :
    reported (some text) ((mention, after) :: more) = (mention.ref, false) :: reported (some after) more := by
  rw [reported]
  simp only [Option.all_some, passed, Bool.false_and, Bool.false_eq_true, if_false]

/-- Where the end of a token is tried, the token is taken, or a later one when the label runs on. -/
theorem title_arrives (goesOn : runsOn after more = true →
      Arrives (inLabel (mention.target ++ (plainText after ++ tokensText more))) (reported (some after) more) more.length)
    (stays : runsOn after more = false → inLabel (mention.target ++ (plainText after ++ tokensText more)) = none) :
    Arrives (inLabel (mention.shown.flatMap escapeChar ++ closeBracket :: (mention.target ++ (plainText after ++ tokensText more))))
      (tried mention after more) (more.length + 1) := by
  have slash : endsInBackslash mention.shown = endsInBackslash mention.title := collapse_last false mention.title
  have here : Arrives (some (mention.groups, plainText after ++ tokensText more)) ((mention.ref, true) :: reported none more) (more.length + 1) :=
    ⟨mention, after, more, Nat.lt_succ_self _, rfl, rfl⟩
  rw [title_read, slash, tried_eq]
  cases endsInBackslash mention.title with
  | false => exact here
  | true =>
    cases runs : runsOn after more with
    | false =>
      rw [stays runs]
      exact here
    | true =>
      obtain ⟨next, behind_, others, fewer, found, entries⟩ := goesOn runs
      refine ⟨next, behind_, others, by omega, ?_, entries⟩
      rw [found]
      rfl

theorem runs_on (tokens : Tokens) : ∀ (mention : Mention) (text : List Plain),
    (runsOn text tokens = true →
      Arrives (inLabel (mention.target ++ (plainText text ++ tokensText tokens))) (reported (some text) tokens) tokens.length) ∧
    (runsOn text tokens = false → inLabel (mention.target ++ (plainText text ++ tokensText tokens)) = none) := by
  induction tokens with
  | nil =>
    intro mention text
    refine ⟨fun runs => absurd runs Bool.false_ne_true, fun _ => ?_⟩
    rw [tokensText, List.append_nil]
    exact behind_last mention text
  | cons token more ih =>
    obtain ⟨next, after⟩ := token
    intro mention text
    have arrives := title_arrives (ih next after).1 (ih next after).2
    have brackets : next.shown.find? isBracket = next.title.find? isBracket := collapse_find false next.title
    rw [tokensText_cons, behind_target]
    by_cases slash : endsInBackslash (plainText text) = true
    · have runs : runsOn text ((next, after) :: more) = true := by
        rw [runsOn, slash]
        rfl
      refine ⟨fun _ => ?_, fun stays => absurd (runs.symm.trans stays) (by decide)⟩
      rw [if_pos slash, reported_tried (by rw [slash]; rfl)]
      obtain ⟨last, behind_, others, fewer, found, entries⟩ := arrives
      refine ⟨last, behind_, others, fewer, ?_, entries⟩
      rw [found]
      rfl
    · rw [if_neg slash]
      rw [Bool.not_eq_true] at slash
      rcases first_ : next.title.find? isBracket with _ | bracket
      · have runs : runsOn text ((next, after) :: more) = runsOn after more := by
          rw [runsOn, slash, first_]
          rfl
        rw [opened_free next _ (brackets.trans first_), runs, reported_passed (by rw [slash, first_]; rfl)]
        refine ⟨fun runs => ?_, (ih next after).2⟩
        obtain ⟨last, behind_, others, fewer, found, entries⟩ := (ih next after).1 runs
        exact ⟨last, behind_, others, Nat.lt_succ_of_lt fewer, found, entries⟩
      · have isBracket_ : isBracket bracket = true := (List.find?_eq_some_iff_append.mp first_).1
        rcases bracket_cases ⟨bracket, isBracket_⟩ with same | same
        · obtain rfl : bracket = openBracket := congrArg Subtype.val same
          have runs : runsOn text ((next, after) :: more) = false := by
            rw [runsOn, slash, first_]
            rfl
          rw [opened_open next _ (brackets.trans first_)]
          exact ⟨fun goes => absurd (runs.symm.trans goes) (by decide), fun _ => rfl⟩
        · obtain rfl : bracket = closeBracket := congrArg Subtype.val same
          have runs : runsOn text ((next, after) :: more) = true := by
            rw [runsOn, slash, first_]
            rfl
          rw [opened_close next _ (brackets.trans first_), reported_tried (by rw [slash, first_]; rfl)]
          exact ⟨fun _ => arrives, fun stays => absurd (runs.symm.trans stays) (by decide)⟩

end Runs

theorem finds (bound : Nat) : ∀ tokens : Tokens, tokens.length ≤ bound → ∀ position text,
    (findFrom chatToken position (plainText text ++ tokensText tokens)).filterMap (fun found => found.value.read) =
      readOnly (reported none tokens) := by
  have nothing (text : List Plain) : ∀ c ∈ plainText text, ∀ more, first chatToken (c :: more) = none := by
    intro c member more
    obtain ⟨plain, -, rfl⟩ := List.mem_map.mp member
    exact chat_token_other more (plain_not plain).1
  induction bound with
  | zero =>
    intro tokens short position text
    rw [List.eq_nil_of_length_eq_zero (Nat.le_zero.mp short), find_skip (nothing text)]
    rfl
  | succ bound ih =>
    intro tokens short position text
    rw [find_skip (nothing text)]
    cases tokens with
    | nil => rfl
    | cons token more =>
      obtain ⟨mention, after⟩ := token
      obtain ⟨last, behind_, others, fewer, found, entries⟩ := title_arrives (runs_on more mention after).1 (runs_on more mention after).2
      rw [List.length_cons] at short
      have hit : first chatToken (tokensText ((mention, after) :: more)) = some (last.groups, plainText behind_ ++ tokensText others) := by
        rw [tokensText_cons, chat_token_open]
        exact found
      have later := ih others (by omega) (position + (plainText text).length +
        ((tokensText ((mention, after) :: more)).length - (plainText behind_ ++ tokensText others).length)) behind_
      rw [find_hit chat_token_consumes hit, List.filterMap_cons]
      simp only [groups_read]
      rw [later]
      exact entries.symm

theorem reported_refs (tokens : Tokens) : ∀ inside, (reported inside tokens).map Prod.fst = refs tokens := by
  induction tokens with
  | nil => exact fun _ => rfl
  | cons token more ih =>
    intro inside
    rw [reported, refs, List.map_cons, ← refs]
    split
    · rw [List.map_cons, ih]
    · rw [List.map_cons, ih]

theorem extract_tokens (text : List Plain) (tokens : Tokens) :
    extractChatEntityMentions (plainText text ++ tokensText tokens) = firsts [] (readOnly (reported none tokens)) := by
  rw [extractChatEntityMentions, finditer, finds tokens.length tokens (Nat.le_refl _)]

section Spans
variable {c : CodePoint} {rest : Text}

def inEntityLabel (text : Text) : Option (Unit × Text) := behind entityPart entityEnd text

theorem inEntityLabel_eq (text : Text) :
    inEntityLabel text = ((entityPart text).findSome? fun front => inEntityLabel front.2).or (first entityEnd text) :=
  behind_eq entity_part_consumes text

theorem inEntityLabel_close (rest : Text) : inEntityLabel (closeBracket :: rest) = first entityEnd (closeBracket :: rest) := by
  rw [inEntityLabel_eq]
  rfl

theorem inEntityLabel_other (unsafe_ : ¬ isUnsafe c = true) (rest : Text) : inEntityLabel (c :: rest) = inEntityLabel rest := by
  have slash : ¬ (c == backslash) = true := fun same => unsafe_ (by rw [eq_of_beq same]; decide)
  have close : c ≠ closeBracket := fun same => unsafe_ (by rw [same]; decide)
  have plain : isUnescaped c = true := by
    rw [isUnescaped, Bool.not_eq_true', Bool.or_eq_false_iff]
    exact ⟨beq_eq_false_iff_ne.mpr close, Bool.eq_false_iff.mpr slash⟩
  have escaped : oneOf (fun c => c == backslash) (c :: rest) = [] :=
    @oneOf_rejected CodePoint (fun c => c == backslash) c slash rest
  have only : entityPart (c :: rest) = [(.inr ⟨c, plain⟩, rest)] := by
    rw [entityPart, either, andThen, escaped, oneOf_accepted plain]
    rfl
  rw [inEntityLabel_eq, only, List.findSome?_singleton, entity_end_other rest close, Option.or_none]

theorem inEntityLabel_escape (unsafe_ : isUnsafe c = true) (rest : Text) : inEntityLabel (backslash :: c :: rest) = inEntityLabel rest := by
  have any : isAny c = true := by
    have newline := unsafe_not_newline unsafe_
    rw [isNewline, Bool.or_eq_false_iff] at newline
    rw [isAny, bne, newline.1]
    rfl
  have slash : oneOf (fun c => c == backslash) (backslash :: c :: rest) = [(⟨backslash, beq_self_eq_true _⟩, c :: rest)] :=
    oneOf_accepted _ _
  have plain : oneOf isUnescaped (backslash :: c :: rest) = [] := oneOf_rejected (by decide) _
  have only : entityPart (backslash :: c :: rest) = [(.inl (⟨backslash, beq_self_eq_true _⟩, ⟨c, any⟩), rest)] := by
    rw [entityPart, either, andThen, slash, plain, List.flatMap_singleton, oneOf_accepted any]
    rfl
  have other : backslash ≠ closeBracket := by decide
  rw [inEntityLabel_eq, only, List.findSome?_singleton, entity_end_other _ other, Option.or_none]

theorem title_span (mention : Mention) (rest title : Text) :
    inEntityLabel (title.flatMap escapeChar ++ closeBracket :: (mention.target ++ rest)) = some ((), rest) := by
  induction title with
  | nil => exact (inEntityLabel_close _).trans (entity_end mention rest)
  | cons c title ih =>
    rw [List.flatMap_cons, escapeChar]
    by_cases unsafe_ : isUnsafe c = true
    · rw [if_pos unsafe_]
      exact (inEntityLabel_escape unsafe_ _).trans ih
    · rw [if_neg unsafe_]
      exact (inEntityLabel_other unsafe_ _).trans ih

theorem spans_found (tokens : Tokens) : ∀ position text,
    (findFrom entityToken position (plainText text ++ tokensText tokens)).map (fun found => (found.start, found.stop)) =
      tokenSpans (position + text.length) tokens := by
  have nothing (text : List Plain) : ∀ c ∈ plainText text, ∀ more, first entityToken (c :: more) = none := by
    intro c member more
    obtain ⟨plain, -, rfl⟩ := List.mem_map.mp member
    exact entity_token_other more (plain_not plain).1
  induction tokens with
  | nil =>
    intro position text
    rw [find_skip (nothing text)]
    rfl
  | cons token more ih =>
    obtain ⟨mention, after⟩ := token
    intro position text
    have hit : first entityToken (tokensText ((mention, after) :: more)) = some ((), plainText after ++ tokensText more) := by
      rw [tokensText_cons, entity_token_open]
      exact title_span mention _ mention.shown
    have length : (tokensText ((mention, after) :: more)).length - (plainText after ++ tokensText more).length = mention.token.length := by
      rw [tokensText, List.length_append]
      omega
    rw [find_skip (nothing text), find_hit entity_token_consumes hit, length, List.map_cons, ih, tokenSpans, plainText, List.length_map]

end Spans

/-- The tokens of a text are read back in order, and protected where they stand, exactly when every token
that is passed over is recovered by one behind it. -/
theorem tokens_read_back_iff (text : List Plain) (tokens : Tokens) :
    (extractChatEntityMentions (plainText text ++ tokensText tokens) = firsts [] (refs tokens) ∧
      entityTokenSpans (plainText text ++ tokensText tokens) = tokenSpans text.length tokens) ↔ Recovered (reported none tokens) := by
  have spans : entityTokenSpans (plainText text ++ tokensText tokens) = tokenSpans text.length tokens := by
    have found := spans_found tokens 0 text
    rw [Nat.zero_add] at found
    exact found
  rw [extract_tokens, ← reported_refs tokens none, recovered_iff, ← firsts_readOnly_iff]
  exact and_iff_left spans

/-- A story whose title is a backslash. -/
def slashStory : Mention := ⟨"story", ⟨1, by decide⟩, [backslash], by decide⟩

def closingStory : Mention := ⟨"story", ⟨2, by decide⟩, [closeBracket], by decide⟩

/-- With a space between them the second one alone is read. -/
theorem slash_story_lost :
    extractChatEntityMentions (slashStory.token ++ ([space] ++ closingStory.token)) = [closingStory.ref] ∧
      firsts [] (refs [(slashStory, [⟨space, by decide⟩]), (closingStory, [])]) = [slashStory.ref, closingStory.ref] ∧
      slashStory.ref ≠ closingStory.ref := by
  have read := extract_tokens [] [(slashStory, [⟨space, by decide⟩]), (closingStory, [])]
  have kept : firsts [] (readOnly (reported none [(slashStory, [⟨space, by decide⟩]), (closingStory, [])])) = [closingStory.ref] := by
    decide
  rw [kept] at read
  simp only [tokensText, plainText, List.map_cons, List.map_nil, List.nil_append, List.append_nil] at read
  exact ⟨read, by decide, by decide⟩

end Sprintable.References
