import Sprintable.Logic.Firsts
import Sprintable.Logic.Searching
import Sprintable.References.TokenText

/-! The two patterns that look for tokens in a text. The chat's pattern reads what a token refers to; the
promoter's one protects where it stands. Their labels know different escapes. -/

namespace Sprintable.References

open CodePoints Backtracking Firsts

/-- `[a-z_]`. -/
def isTypeChar (c : CodePoint) : Bool := (0x61 ≤ c.val && c.val ≤ 0x7a) || c.val == 0x5f

/-- `[0-9a-fA-F]`. -/
def isHexDigit (c : CodePoint) : Bool :=
  (0x30 ≤ c.val && c.val ≤ 0x39) || (0x61 ≤ c.val && c.val ≤ 0x66) || (0x41 ≤ c.val && c.val ≤ 0x46)

def hyphen : CodePoint := 0x2d

/-- `_UUID_RE`. -/
def uuidClasses : List (CodePoint → Bool) :=
  List.replicate 8 isHexDigit ++ (· == hyphen) :: (List.replicate 4 isHexDigit ++ (· == hyphen) :: (List.replicate 4 isHexDigit ++
    (· == hyphen) :: (List.replicate 4 isHexDigit ++ (· == hyphen) :: List.replicate 12 isHexDigit)))

structure Groups where
  type : Text
  id : Text
  deriving DecidableEq

def chatEnd : Pattern CodePoint Groups :=
  convert (fun found => ⟨found.2.1.map Subtype.val, found.2.2.2.1⟩)
    (andThen (word (lit "](entity:")) (andThen (some_ (oneOf isTypeChar))
      (andThen (word (lit ":")) (andThen (spelled uuidClasses) (word (lit ")"))))))

/-- `_CHAT_TOKEN_RE`. -/
def chatToken : Pattern CodePoint Groups := convert (fun found => found.2.2) (andThen (word (lit "[")) (andThen label chatEnd))

/-- `.`, which is no line feed. -/
def isAny (c : CodePoint) : Bool := c.val != 0x0a

/-- `[^\]\\]`. -/
def isUnescaped (c : CodePoint) : Bool := !(c == closeBracket || c == backslash)

/-- `[^)]`. -/
def isIdChar (c : CodePoint) : Bool := c != closeParen

/-- `\\.|[^\]\\]`. -/
def entityPart : Pattern CodePoint ((One backslash × Accepted isAny) ⊕ Accepted isUnescaped) :=
  either (andThen (oneOf (· == backslash)) (oneOf isAny)) (oneOf isUnescaped)

def entityEnd : Pattern CodePoint Unit :=
  convert (fun _ => ())
    (andThen (word (lit "](entity:")) (andThen (some_ (oneOf isTypeChar))
      (andThen (word (lit ":")) (andThen (some_ (oneOf isIdChar)) (word (lit ")"))))))

/-- `_ENTITY_TOKEN_RE`. -/
def entityToken : Pattern CodePoint Unit :=
  convert (fun _ => ()) (andThen (word (lit "[")) (andThen (many entityPart) entityEnd))

/-- A text of characters only, as the language has it. -/
def asString (text : Text) : String := String.ofList (text.map fun c => Char.ofNat c.val)

/-- What a match refers to, or `None` where its id is no UUID. -/
def Groups.read (groups : Groups) : Option Ref := (PyText.uuidOf (asString groups.id)).map fun number => (groups.type, number)

def extractChatEntityMentions (content : Text) : List Ref :=
  firsts [] ((finditer chatToken content).filterMap fun found => found.value.read)

/-- The spans that the promoter's pattern protects. -/
def entityTokenSpans (content : Text) : List (Nat × Nat) := (finditer entityToken content).map fun found => (found.start, found.stop)

/-- What the pattern reads in a token. -/
def Mention.groups (mention : Mention) : Groups := ⟨lit mention.type, lit mention.id.text⟩

section Texts

theorem asString_lit (text : String) : asString (lit text) = text := by
  rw [asString, lit, List.map_map]
  have back : (fun c : CodePoint => Char.ofNat c.val) ∘ (fun c : Char => Fin.ofNat 0x110000 c.toNat) = id := by
    funext c
    have small : c.toNat < 0x110000 := by
      have valid := c.valid
      simp only [UInt32.isValidChar, Nat.isValidChar] at valid
      have value : c.toNat = c.val.toNat := rfl
      omega
    simp only [Function.comp_apply, Fin.ofNat_eq_cast, id_eq]
    rw [Fin.val_natCast, Nat.mod_eq_of_lt small, Char.ofNat_toNat]
  rw [back, List.map_id, String.ofList_toList]

theorem groups_read (mention : Mention) : mention.groups.read = some mention.ref := by
  have id_ : PyText.uuidOf (asString (lit mention.id.text)) = some mention.id.number := by
    rw [asString_lit]
    exact PyText.uuidOf_text mention.id
  rw [Groups.read, Mention.groups, id_]
  rfl

theorem type_chars (mention : Mention) : lit mention.type ≠ [] ∧ ∀ c ∈ lit mention.type, isTypeChar c = true := by
  have all : ENTITY_TYPES.all (fun type => !(lit type).isEmpty && (lit type).all isTypeChar) = true := by decide
  have chars := List.all_eq_true.mp all mention.type (List.contains_iff_mem.mp mention.registered)
  rw [Bool.and_eq_true, Bool.not_eq_true', List.isEmpty_eq_false_iff, List.all_eq_true] at chars
  exact chars

/-- The code point of a character. -/
def code (c : Char) : CodePoint := Fin.ofNat 0x110000 c.toNat

theorem hex_code {c : Char} (hex : PyText.IsHex c) :
    isHexDigit (code c) = true ∧ isIdChar (code c) = true ∧ isBracket (code c) = false := by
  have all : ∀ digit : Fin 16, isHexDigit (code (Nat.digitChar digit)) = true ∧ isIdChar (code (Nat.digitChar digit)) = true ∧
      isBracket (code (Nat.digitChar digit)) = false := by decide
  obtain ⟨digit, small, rfl⟩ := hex
  exact all ⟨digit, small⟩

theorem id_chars (mention : Mention) : ∀ c ∈ lit mention.id.text, isIdChar c = true ∧ isBracket c = false := by
  intro c member
  obtain ⟨char, listed, rfl⟩ := List.mem_map.mp member
  rcases PyText.uuidText_chars mention.id.number listed with rfl | hex
  · decide
  · exact (hex_code hex).2

theorem fits_group {chars : List Char} {count : Nat} (length : chars.length = count) (hex : ∀ c ∈ chars, PyText.IsHex c) :
    List.Forall₂ (fun accepts c => accepts c = true) (List.replicate count isHexDigit) (chars.map code) := by
  induction chars generalizing count with
  | nil =>
    subst length
    exact .nil
  | cons c chars ih =>
    subst length
    exact .cons (hex_code (hex c List.mem_cons_self)).1 (ih rfl fun other member => hex other (List.mem_cons_of_mem c member))

theorem id_fits (mention : Mention) : List.Forall₂ (fun accepts c => accepts c = true) uuidClasses (lit mention.id.text) := by
  have size := PyText.hexDigits_length mention.id.bound
  have group (from_ count : Nat) (short : from_ + count ≤ 32) :
      List.Forall₂ (fun accepts c => accepts c = true) (List.replicate count isHexDigit)
        ((((PyText.hexDigits 32 mention.id.number).drop from_).take count).map code) := by
    apply fits_group
    · rw [List.length_take, List.length_drop, size]
      omega
    · exact fun c member => PyText.hexDigits_hex _ (List.mem_of_mem_drop (List.mem_of_mem_take member))
  have start := group 0 8 (by omega)
  rw [List.drop_zero] at start
  have dash : (fun c : CodePoint => c == hyphen) (code '-') = true := by decide
  have text : lit mention.id.text = (PyText.uuidText mention.id.number).toList.map code := rfl
  rw [text, PyText.uuidText_toList]
  simp only [List.map_append, List.map_cons]
  exact List.rel_append start (.cons dash (List.rel_append (group 8 4 (by omega)) (.cons dash (List.rel_append (group 12 4 (by omega))
    (.cons dash (List.rel_append (group 16 4 (by omega)) (.cons dash (group 20 12 (by omega)))))))))

end Texts

section Ends
variable {α : Type} {idPart : Pattern CodePoint α} {value : α} {c : CodePoint} (mention : Mention) (rest : Text)

theorem end_starts : lit "](entity:" = closeBracket :: lit "(entity:" := by decide

theorem open_lit : lit "[" = [openBracket] := by decide

theorem end_text : closeBracket :: (mention.target ++ rest) =
    lit "](entity:" ++ (lit mention.type ++ (lit ":" ++ (lit mention.id.text ++ (lit ")" ++ rest)))) := by
  rw [Mention.target, end_starts]
  simp only [List.append_assoc, List.cons_append]

theorem end_reads (id_ : andThen idPart (word (lit ")")) (lit mention.id.text ++ (lit ")" ++ rest)) = [((value, lit ")"), rest)]) :
    ∃ front : List (Accepted isTypeChar), front.map Subtype.val = lit mention.type ∧
      andThen (word (lit "](entity:")) (andThen (some_ (oneOf isTypeChar)) (andThen (word (lit ":")) (andThen idPart (word (lit ")")))))
        (closeBracket :: (mention.target ++ rest)) = [((lit "](entity:", front, lit ":", value, lit ")"), rest)] := by
  obtain ⟨some_type, all⟩ := type_chars mention
  obtain ⟨front, same⟩ := accepted_text all
  refine ⟨front, same, ?_⟩
  have some_front : front ≠ [] := by
    rintro rfl
    exact some_type same.symm
  have colon : andThen (word (lit ":")) (andThen idPart (word (lit ")"))) (lit ":" ++ (lit mention.id.text ++ (lit ")" ++ rest))) =
      [((lit ":", value, lit ")"), rest)] := by rw [andThen_only (word_match _ _), id_, List.map_singleton]
  have stops : ∀ c more, lit ":" ++ (lit mention.id.text ++ (lit ")" ++ rest)) = c :: more → ¬ isTypeChar c = true := by
    intro c more starts
    have head : (0x3a : CodePoint) = c := (List.cons.inj starts).1
    rw [← head]
    decide
  have fails : ∀ c more, isTypeChar c = true → andThen (word (lit ":")) (andThen idPart (word (lit ")"))) (c :: more) = [] := by
    intro c more letter
    have different : c ≠ 0x3a := by
      rintro rfl
      exact absurd letter (by decide)
    exact andThen_none (word_not different [] more)
  rw [end_text, andThen_only (word_match _ _), ← same, some_then stops fails some_front, colon, List.map_singleton, List.map_singleton]

theorem chat_end : first chatEnd (closeBracket :: (mention.target ++ rest)) = some (mention.groups, rest) := by
  have id_ : andThen (spelled uuidClasses) (word (lit ")")) (lit mention.id.text ++ (lit ")" ++ rest)) =
      [((lit mention.id.text, lit ")"), rest)] := by
    rw [andThen_only (spelled_fits (id_fits mention) _), word_match, List.map_singleton]
  obtain ⟨front, same, reads⟩ := end_reads mention rest id_
  rw [chatEnd, first_convert, first_only reads, Option.map_some, same, Mention.groups]

theorem entity_end : first entityEnd (closeBracket :: (mention.target ++ rest)) = some ((), rest) := by
  obtain ⟨id, same⟩ := accepted_text fun c member => (id_chars mention c member).1
  have stops : ∀ c more, lit ")" ++ rest = c :: more → ¬ isIdChar c = true := by
    intro c more starts
    have head : closeParen = c := (List.cons.inj starts).1
    rw [← head]
    decide
  have fails : ∀ c more, isIdChar c = true → word (lit ")") (c :: more) = [] := by
    intro c more other
    exact word_not (bne_iff_ne.mp other) [] more
  have some_id : id ≠ [] := by
    rintro rfl
    have fits := (id_fits mention).length_eq
    rw [← same] at fits
    exact absurd fits (by decide)
  have id_ : andThen (some_ (oneOf isIdChar)) (word (lit ")")) (lit mention.id.text ++ (lit ")" ++ rest)) = [((id, lit ")"), rest)] := by
    rw [← same, some_then stops fails some_id, word_match, List.map_singleton]
  obtain ⟨front, -, reads⟩ := end_reads mention rest id_
  rw [entityEnd, first_convert, first_only reads, Option.map_some]

theorem chat_end_other (other : c ≠ closeBracket) : first chatEnd (c :: rest) = none := by
  rw [chatEnd, first_convert, end_starts, first_none (andThen_none (word_not other _ rest)), Option.map_none]

theorem entity_end_other (other : c ≠ closeBracket) : first entityEnd (c :: rest) = none := by
  rw [entityEnd, first_convert, end_starts, first_none (andThen_none (word_not other _ rest)), Option.map_none]

theorem chat_token_other (other : c ≠ openBracket) : first chatToken (c :: rest) = none := by
  rw [chatToken, first_convert, open_lit, first_none (andThen_none (word_not other [] rest)), Option.map_none]

theorem entity_token_other (other : c ≠ openBracket) : first entityToken (c :: rest) = none := by
  rw [entityToken, first_convert, open_lit, first_none (andThen_none (word_not other [] rest)), Option.map_none]

theorem chat_token_open : first chatToken (openBracket :: rest) = behind labelPart chatEnd rest := by
  have starts : word (lit "[") (openBracket :: rest) = [(lit "[", rest)] := word_match (lit "[") rest
  rw [chatToken, first_convert, behind, label]
  rw [first, andThen_only starts, List.head?_map, Option.map_map]
  rfl

theorem entity_token_open : first entityToken (openBracket :: rest) = behind entityPart entityEnd rest := by
  have starts : word (lit "[") (openBracket :: rest) = [(lit "[", rest)] := word_match (lit "[") rest
  rw [entityToken, first_convert, behind]
  rw [first, andThen_only starts, List.head?_map, Option.map_map]
  rfl

theorem label_part_consumes : Consumes labelPart := label_part_reads.consumes part_some

theorem entity_part_consumes : Consumes entityPart :=
  ((oneOf_consumes _).andThen (oneOf_consumes _).shrinks).either (oneOf_consumes _)

theorem chat_token_consumes : Consumes chatToken := by
  have close : Shrinks (word (lit ")")) := (spelled_consumes (by decide)).shrinks
  have id_ := (spelled_consumes (by decide : uuidClasses ≠ [])).shrinks.andThen close
  have colon : Shrinks (word (lit ":")) := (spelled_consumes (by decide)).shrinks
  have letters := (some_consumes (oneOf_consumes isTypeChar)).shrinks.andThen (colon.andThen id_)
  have starts : Consumes (word (lit "](entity:")) := spelled_consumes (by decide)
  have ends : Consumes chatEnd := (starts.andThen letters).convert _
  have opens_ : Consumes (word (lit "[")) := spelled_consumes (by decide)
  exact (opens_.andThen ((many_shrinks label_part_consumes).andThen ends.shrinks)).convert _

theorem entity_token_consumes : Consumes entityToken := by
  have close : Shrinks (word (lit ")")) := (spelled_consumes (by decide)).shrinks
  have id_ := (some_consumes (oneOf_consumes isIdChar)).shrinks.andThen close
  have colon : Shrinks (word (lit ":")) := (spelled_consumes (by decide)).shrinks
  have letters := (some_consumes (oneOf_consumes isTypeChar)).shrinks.andThen (colon.andThen id_)
  have starts : Consumes (word (lit "](entity:")) := spelled_consumes (by decide)
  have ends : Consumes entityEnd := (starts.andThen letters).convert _
  have opens_ : Consumes (word (lit "[")) := spelled_consumes (by decide)
  exact (opens_.andThen ((many_shrinks entity_part_consumes).andThen ends.shrinks)).convert _

end Ends

end Sprintable.References
