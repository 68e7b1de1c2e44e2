import Sprintable.Logic.JsonDump

/-! The grammar of JSON over code points, and that what `json.dumps` writes of finite numbers is in it. -/

namespace JsonGrammar

open CodePoints JsonDump

def IsBlank (text : Text) : Prop := ∀ c ∈ text, c ∈ ([0x20, 0x09, 0x0a, 0x0d] : Text)

def IsDigits (text : Text) : Prop := text ≠ [] ∧ ∀ c ∈ text, 0x30 ≤ c.val ∧ c.val ≤ 0x39

/-- Digits without a leading zero. -/
def IsWhole (text : Text) : Prop := text = [0x30] ∨ (IsDigits text ∧ text.head? ≠ some 0x30)

def IsFraction (text : Text) : Prop := text = [] ∨ ∃ digits, IsDigits digits ∧ text = 0x2e :: digits

def IsExponent (text : Text) : Prop :=
  text = [] ∨ ∃ letter sign digits, letter ∈ ([0x65, 0x45] : Text) ∧ sign ∈ ([[], [0x2b], [0x2d]] : List Text) ∧
    IsDigits digits ∧ text = letter :: (sign ++ digits)

def IsNumber (text : Text) : Prop :=
  ∃ sign whole fraction exponent, sign ∈ ([[], [0x2d]] : List Text) ∧ IsWhole whole ∧ IsFraction fraction ∧
    IsExponent exponent ∧ text = sign ++ whole ++ fraction ++ exponent

def IsHex (c : CodePoint) : Prop :=
  (0x30 ≤ c.val ∧ c.val ≤ 0x39) ∨ (0x41 ≤ c.val ∧ c.val ≤ 0x46) ∨ (0x61 ≤ c.val ∧ c.val ≤ 0x66)

/-- One character of a string, as it is or escaped. -/
inductive IsCharacter : Text → Prop where
  | plain {c : CodePoint} (printable : 0x20 ≤ c.val) (inside : c ≠ quote) (single : c ≠ backslash) : IsCharacter [c]
  | letter {c : CodePoint} (known : c ∈ ([quote, backslash, 0x2f, 0x62, 0x66, 0x6e, 0x72, 0x74] : Text)) :
      IsCharacter [backslash, c]
  | unit {a b c d : CodePoint} (first : IsHex a) (second : IsHex b) (third : IsHex c) (fourth : IsHex d) :
      IsCharacter [backslash, 0x75, a, b, c, d]

def IsString (text : Text) : Prop :=
  ∃ parts : List Text, (∀ part ∈ parts, IsCharacter part) ∧ text = quote :: (parts.flatten ++ [quote])

mutual

inductive IsValue : Text → Prop where
  | null : IsValue (lit "null")
  | true_ : IsValue (lit "true")
  | false_ : IsValue (lit "false")
  | number {text : Text} (number : IsNumber text) : IsValue text
  | string {text : Text} (string : IsString text) : IsValue text
  | emptyArray {space : Text} (blank : IsBlank space) : IsValue (0x5b :: (space ++ [0x5d]))
  | array {first : Text} {rest : List Text} (head : IsElement first) (tail : ∀ element ∈ rest, IsElement element) :
      IsValue (0x5b :: (first ++ rest.flatMap (comma :: ·) ++ [0x5d]))
  | emptyObject {space : Text} (blank : IsBlank space) : IsValue (0x7b :: (space ++ [0x7d]))
  | object {first : Text} {rest : List Text} (head : IsMember first) (tail : ∀ member ∈ rest, IsMember member) :
      IsValue (0x7b :: (first ++ rest.flatMap (comma :: ·) ++ [0x7d]))

inductive IsElement : Text → Prop where
  | around {before text after : Text} (left : IsBlank before) (value : IsValue text) (right : IsBlank after) :
      IsElement (before ++ text ++ after)

inductive IsMember : Text → Prop where
  | named {before key after element : Text} (left : IsBlank before) (string : IsString key) (right : IsBlank after)
      (value : IsElement element) : IsMember (before ++ key ++ after ++ colon :: element)

end

section Strings

theorem hex_digit_hex (n : Nat) : IsHex (hexDigit (n % 16)) := by
  have all : ∀ d : Fin 16, (0x30 ≤ (hexDigit d).val ∧ (hexDigit d).val ≤ 0x39) ∨
      (0x41 ≤ (hexDigit d).val ∧ (hexDigit d).val ≤ 0x46) ∨ (0x61 ≤ (hexDigit d).val ∧ (hexDigit d).val ≤ 0x66) := by decide
  exact all ⟨n % 16, Nat.mod_lt n (by omega)⟩

theorem unit_character (n : Nat) : IsCharacter (unit n) :=
  .unit (hex_digit_hex _) (hex_digit_hex _) (hex_digit_hex _) (hex_digit_hex _)

theorem short_escapes_known :
    ∀ entry ∈ shortEscapes, entry.2 ∈ ([quote, backslash, 0x2f, 0x62, 0x66, 0x6e, 0x72, 0x74] : Text) := by
  have table : shortEscapes.all fun entry =>
      ([quote, backslash, 0x2f, 0x62, 0x66, 0x6e, 0x72, 0x74] : Text).contains entry.2 := by decide
  exact fun entry known => List.contains_iff_mem.mp (List.all_eq_true.mp table entry known)

/-- What is written of a code point is one character of the grammar, or two. -/
theorem escape_characters (ascii : Bool) (c : CodePoint) :
    ∃ parts : List Text, (∀ part ∈ parts, IsCharacter part) ∧ escape ascii c = parts.flatten := by
  unfold escape
  cases short : shortEscapes.lookup c with
  | some letter =>
    have known := short_escapes_known _ (mem_of_lookup short)
    exact ⟨[[backslash, letter]], by simpa using .letter known, by simp⟩
  | none =>
    have inside : c ≠ quote := by
      rintro rfl
      cases short
    have single : c ≠ backslash := by
      rintro rfl
      cases short
    dsimp only
    split
    · exact ⟨[unit c.val], by simpa using unit_character _, by simp⟩
    next printable =>
      split
      · unfold asciiUnits
        split
        · exact ⟨[unit c.val], by simpa using unit_character _, by simp⟩
        · refine ⟨[unit _, unit _], ?_, by simp; rfl⟩
          intro part member
          rcases List.mem_pair.mp member with rfl | rfl
          · exact unit_character _
          · exact unit_character _
      · exact ⟨[[c]], by simpa using .plain (by omega) inside single, by simp⟩

theorem write_text_string (ascii : Bool) (text : Text) : IsString (writeText ascii text) := by
  have written : ∃ parts : List Text, (∀ part ∈ parts, IsCharacter part) ∧ text.flatMap (escape ascii) = parts.flatten := by
    induction text with
    | nil => exact ⟨[], by simp, rfl⟩
    | cons c rest ih =>
      obtain ⟨first, each, shape⟩ := escape_characters ascii c
      obtain ⟨others, all, shapes⟩ := ih
      refine ⟨first ++ others, ?_, ?_⟩
      · intro part member
        rcases List.mem_append.mp member with front | back
        · exact each part front
        · exact all part back
      · rw [List.flatMap_cons, shape, shapes, List.flatten_append]
  obtain ⟨parts, each, shape⟩ := written
  exact ⟨parts, each, by rw [writeText, shape]⟩

end Strings

section Numbers

theorem digits_digits {digits : List (Fin 10)} (some_ : digits ≠ []) : IsDigits (digits.map digit) := by
  have each : ∀ d : Fin 10, 0x30 ≤ (digit d).val ∧ (digit d).val ≤ 0x39 := by decide
  refine ⟨by simpa using some_, ?_⟩
  intro c member
  obtain ⟨d, -, rfl⟩ := List.mem_map.mp member
  exact each d

theorem decimal_number (n : Decimal) : IsNumber n.write := by
  have zero : ∀ d : Fin 10, digit d = 0x30 → d = 0 := by decide
  refine ⟨_, _, _, _, ?_, ?_, ?_, ?_, rfl⟩
  · split <;> simp
  · by_cases single : n.lead = 0
    · have alone := n.canonical single
      rw [single, alone]
      exact .inl (by decide)
    · refine .inr ⟨digits_digits (by simp), ?_⟩
      rw [List.map_cons, List.head?_cons, ne_eq, Option.some.injEq]
      exact fun same => single (zero _ same)
  · unfold Decimal.writeFraction
    split
    · exact .inl rfl
    next some_ => exact .inr ⟨_, digits_digits some_, rfl⟩
  · unfold Decimal.writeExponent
    split
    · exact .inl rfl
    next down first rest _ =>
      refine .inr ⟨0x65, [if down then 0x2d else 0x2b], (first :: rest).map digit, by simp, ?_, digits_digits (by simp), rfl⟩
      cases down <;> simp

end Numbers

section Values
variable {ν : Type} {number : ν → Text}

theorem no_blank : IsBlank [] := by
  intro c member
  cases member

theorem one_blank : IsBlank [blank] := by
  intro c member
  rw [List.mem_singleton.mp member]
  decide

theorem element_of {text : Text} (value : IsValue text) : IsElement text := by
  have around := IsElement.around no_blank value no_blank
  simpa using around

theorem element_after {text : Text} (value : IsValue text) : IsElement (blank :: text) := by
  have around := IsElement.around one_blank value no_blank
  simpa using around

theorem separated_commas {α : Type} (write : α → Text) (first : α) (rest : List α) :
    separated write (first :: rest) = write first ++ (rest.map fun later => blank :: write later).flatMap (comma :: ·) := by
  rw [separated, List.flatMap_map]

theorem entry_member (ascii : Bool) {entry : Text × Value ν} (value : IsValue (dumps number ascii entry.2))
    {before : Text} (left : IsBlank before) : IsMember (before ++ dumpEntry number ascii entry) := by
  have named := IsMember.named left (write_text_string ascii entry.1) no_blank (element_after value)
  simpa [dumpEntry] using named

theorem dumps_value (numbers : ∀ n, IsNumber (number n)) (ascii : Bool) (value : Value ν) :
    IsValue (dumps number ascii value) := by
  induction value using Value.parts with
  | scalar value flat =>
    cases value with
    | null => exact .null
    | bool value =>
      cases value
      · exact .false_
      · exact .true_
    | number value => exact .number (numbers value)
    | text _ | list _ | dict _ => cases flat
  | text value => exact .string (write_text_string ascii value)
  | list items ih =>
    rw [dumps, dump_items]
    cases items with
    | nil => exact .emptyArray no_blank
    | cons first rest =>
      rw [separated_commas]
      apply IsValue.array
      · exact element_of (ih first List.mem_cons_self)
      · intro element member
        obtain ⟨item, inside, rfl⟩ := List.mem_map.mp member
        exact element_after (ih item (List.mem_cons_of_mem first inside))
  | dict entries ih =>
    rw [dumps, dump_entries]
    cases entries with
    | nil => exact .emptyObject no_blank
    | cons first rest =>
      rw [separated_commas]
      apply IsValue.object
      · exact entry_member ascii (ih first List.mem_cons_self) no_blank
      · intro element member
        obtain ⟨entry, inside, rfl⟩ := List.mem_map.mp member
        exact entry_member ascii (ih entry (List.mem_cons_of_mem first inside)) one_blank

end Values

end JsonGrammar
