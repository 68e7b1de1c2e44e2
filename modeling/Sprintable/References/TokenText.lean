import Sprintable.Logic.UuidText
import Sprintable.References.LabelSplits
import Sprintable.References.Table

/-! The token that refers to an entity in a text: its title as a label, with its type and id behind. -/

namespace Sprintable.References

open CodePoints Backtracking

def openParen : CodePoint := 0x28

def closeParen : CodePoint := 0x29

def space : CodePoint := 0x20

def isNewline (c : CodePoint) : Bool := c.val == 0x0a || c.val == 0x0d

/-- `_UNSAFE_CHARS_RE`. -/
def isUnsafe (c : CodePoint) : Bool := c == backslash || c == openBracket || c == closeBracket || c == openParen || c == closeParen

def escapeChar (c : CodePoint) : Text := if isUnsafe c then [backslash, c] else [c]

/-- Each run of line breaks as one space; `inRun` behind a line break. -/
def collapse (inRun : Bool) : Text → Text
  | [] => []
  | c :: rest =>
    if isNewline c then (if inRun then collapse true rest else space :: collapse true rest) else c :: collapse false rest

def escapeTitle (title : Text) : Text := collapse false (title.flatMap escapeChar)

def tokenEnd (entityType : String) (entityId : PyText.Uuid) : Text :=
  lit "](entity:" ++ lit entityType ++ lit ":" ++ lit entityId.text ++ lit ")"

def buildReferenceToken (entityType : String) (entityId : PyText.Uuid) (title : Text) : Option Text :=
  if ENTITY_TYPES.contains entityType then some (lit "[" ++ escapeTitle title ++ tokenEnd entityType entityId) else none

/-- An entity of a type that has tokens. -/
structure Mention where
  type : String
  id : PyText.Uuid
  title : Text
  registered : ENTITY_TYPES.contains type = true

/-- What a token refers to, as it is read back. -/
abbrev Ref := Text × Nat

def Mention.ref (mention : Mention) : Ref := (lit mention.type, mention.id.number)

theorem token_built (mention : Mention) : (buildReferenceToken mention.type mention.id mention.title).isSome := by
  rw [buildReferenceToken, if_pos mention.registered]
  rfl

def Mention.token (mention : Mention) : Text :=
  (buildReferenceToken mention.type mention.id mention.title).get (token_built mention)

/-- Tokens, each with the text behind it, in which no bracket stands. -/
abbrev Tokens := List (Mention × List Plain)

def tokensText : Tokens → Text
  | [] => []
  | (mention, text) :: more => mention.token ++ (plainText text ++ tokensText more)

def refs (tokens : Tokens) : List Ref := tokens.map fun token => token.1.ref

/-- From where to where the tokens stand, behind a position. -/
def tokenSpans (position : Nat) : Tokens → List (Nat × Nat)
  | [] => []
  | (mention, text) :: more =>
    (position, position + mention.token.length) :: tokenSpans (position + mention.token.length + text.length) more

/-- The title as the token shows it. -/
def Mention.shown (mention : Mention) : Text := collapse false mention.title

/-- `(entity:type:id)`. -/
def Mention.target (mention : Mention) : Text :=
  lit "(entity:" ++ lit mention.type ++ lit ":" ++ lit mention.id.text ++ lit ")"

section Titles
variable {c : CodePoint} {title : Text} {inRun : Bool}

theorem unsafe_cases (unsafe_ : isUnsafe c = true) : c = backslash ∨ isBracket c = true ∨ c = openParen ∨ c = closeParen := by
  simp only [isUnsafe, Bool.or_eq_true, beq_iff_eq] at unsafe_
  simp only [isBracket, Bool.or_eq_true, beq_iff_eq]
  tauto

theorem unsafe_of_bracket (bracket : isBracket c = true) : isUnsafe c = true := by
  simp only [isBracket, Bool.or_eq_true] at bracket
  simp only [isUnsafe, Bool.or_eq_true]
  tauto

theorem unsafe_not_newline (unsafe_ : isUnsafe c = true) : isNewline c = false := by
  rcases unsafe_cases unsafe_ with rfl | bracket | rfl | rfl
  · decide
  · rcases bracket_cases ⟨c, bracket⟩ with same | same
    · rw [show c = openBracket from congrArg Subtype.val same]
      decide
    · rw [show c = closeBracket from congrArg Subtype.val same]
      decide
  · decide
  · decide

theorem collapse_escape (inRun : Bool) (title : Text) :
    collapse inRun (title.flatMap escapeChar) = (collapse inRun title).flatMap escapeChar := by
  induction title generalizing inRun with
  | nil => rfl
  | cons c title ih =>
    rw [List.flatMap_cons, escapeChar]
    by_cases unsafe_ : isUnsafe c = true
    · have stays := unsafe_not_newline unsafe_
      have slash : isNewline backslash = false := by decide
      simp only [unsafe_, if_true, List.cons_append, List.nil_append, collapse, slash, stays, Bool.false_eq_true, if_false, ih,
        List.flatMap_cons, escapeChar]
    · have blank : escapeChar space = [space] := by decide
      simp only [unsafe_, Bool.false_eq_true, if_false, List.cons_append, List.nil_append, collapse]
      by_cases newline : isNewline c = true
      · cases inRun with
        | true => simp only [newline, if_true, ih]
        | false => simp only [newline, if_true, Bool.false_eq_true, if_false, ih, List.flatMap_cons, blank, List.cons_append, List.nil_append]
      · simp only [newline, Bool.false_eq_true, if_false, ih, List.flatMap_cons, escapeChar, unsafe_, List.cons_append, List.nil_append]

theorem escapeTitle_eq (mention : Mention) : escapeTitle mention.title = mention.shown.flatMap escapeChar :=
  collapse_escape false mention.title

theorem token_eq (mention : Mention) :
    mention.token = openBracket :: (mention.shown.flatMap escapeChar ++ closeBracket :: mention.target) := by
  have built : buildReferenceToken mention.type mention.id mention.title =
      some (lit "[" ++ escapeTitle mention.title ++ tokenEnd mention.type mention.id) := if_pos mention.registered
  simp only [Mention.token, built, Option.get_some, escapeTitle_eq]
  rfl

end Titles

end Sprintable.References
