import Mathlib.Data.List.Sort
import Sprintable.Logic.Readable

/-! The text that `json.dumps` writes of a flat mapping: keys in order, no blanks, and every character
outside of printable ASCII escaped. Different mappings have different texts. -/

namespace JsonText

open Readable

def quote : Char := '\x22'

def backslash : Char := '\x5c'

/-- The characters with an escape of one letter. -/
def shortEscapes : List (Char × Char) :=
  [(quote, quote), (backslash, backslash), ('\n', 'n'), ('\r', 'r'), ('\t', 't'), ('\x0c', 'f'), ('\x08', 'b')]

def hex4 (n : Nat) : List Char := [n / 4096 % 16, n / 256 % 16, n / 16 % 16, n % 16].map Nat.digitChar

/-- `\uXXXX`, of one unit of UTF-16. -/
def unit (n : Nat) : List Char := backslash :: 'u' :: hex4 n

def writeChar (c : Char) : List Char :=
  match shortEscapes.lookup c with
  | some letter => [backslash, letter]
  | none =>
    if 32 ≤ c.toNat ∧ c.toNat ≤ 126 then [c]
    else if c.toNat < 0x10000 then unit c.toNat
    else unit (0xd800 + (c.toNat - 0x10000) / 1024) ++ unit (0xdc00 + (c.toNat - 0x10000) % 1024)

section Reading

def hexDigit (c : Char) : Nat := if c.isDigit then c.toNat - '0'.toNat else c.toNat - 'a'.toNat + 10

def readHex4 : List Char → Option (Nat × List Char)
  | a :: b :: c :: d :: rest => some (hexDigit a * 4096 + hexDigit b * 256 + hexDigit c * 16 + hexDigit d, rest)
  | _ => none

/-- What follows the `\u` of a high surrogate. -/
def readLow (high : Nat) : List Char → Option (Char × List Char)
  | _ :: _ :: rest => (readHex4 rest).map fun low => (Char.ofNat (0x10000 + (high - 0xd800) * 1024 + (low.1 - 0xdc00)), low.2)
  | _ => none

def readUnit (text : List Char) : Option (Char × List Char) :=
  (readHex4 text).bind fun read =>
    if 0xd800 ≤ read.1 ∧ read.1 < 0xdc00 then readLow read.1 read.2 else some (Char.ofNat read.1, read.2)

def readChar : List Char → Option (Char × List Char)
  | [] => none
  | c :: rest =>
    if c = backslash then
      match rest with
      | [] => none
      | letter :: rest =>
        if letter = 'u' then readUnit rest
        else (shortEscapes.find? (·.2 = letter)).map fun entry => (entry.1, rest)
    else some (c, rest)

theorem hexDigit_digitChar {n : Nat} (small : n < 16) : hexDigit n.digitChar = n := by
  have all : ∀ digit : Fin 16, hexDigit (Nat.digitChar digit) = digit := by decide
  exact all ⟨n, small⟩

theorem read_hex4 {n : Nat} (small : n < 65536) (rest : List Char) : readHex4 (hex4 n ++ rest) = some (n, rest) := by
  have digit (m : Nat) : hexDigit (m % 16).digitChar = m % 16 := hexDigit_digitChar (Nat.mod_lt m (by omega))
  simp only [hex4, List.map_cons, List.map_nil, List.cons_append, List.nil_append, readHex4, digit]
  congr 2
  omega

theorem short_escapes_read :
    ∀ entry ∈ shortEscapes, entry.2 ≠ 'u' ∧ shortEscapes.find? (fun other => decide (other.2 = entry.2)) = some entry := by
  decide

theorem mem_of_lookup {c letter : Char} (found : shortEscapes.lookup c = some letter) : (c, letter) ∈ shortEscapes := by
  obtain ⟨before, after, shape, -⟩ := List.lookup_eq_some_iff.mp found
  rw [shape]
  exact List.mem_append_right _ List.mem_cons_self

/-- One unit is read as its character, unless it is the high half of a pair. -/
theorem read_unit {n : Nat} (small : n < 65536) (rest : List Char) :
    readChar (unit n ++ rest) =
      if 0xd800 ≤ n ∧ n < 0xdc00 then readLow n rest else some (Char.ofNat n, rest) := by
  have opened : readChar (unit n ++ rest) = readUnit (hex4 n ++ rest) := rfl
  rw [opened, readUnit, read_hex4 small]
  rfl

theorem read_write_char (c : Char) (rest : List Char) : readChar (writeChar c ++ rest) = some (c, rest) := by
  have valid : c.toNat < 0xd800 ∨ (0xdfff < c.toNat ∧ c.toNat < 0x110000) := c.valid
  have same : Char.ofNat c.toNat = c := Char.ofNat_toNat c
  unfold writeChar
  cases short : shortEscapes.lookup c with
  | some letter =>
    obtain ⟨plain, found⟩ := short_escapes_read _ (mem_of_lookup short)
    have opened : readChar ([backslash, letter] ++ rest) =
        if letter = 'u' then readUnit rest else (shortEscapes.find? (·.2 = letter)).map fun entry => (entry.1, rest) := rfl
    dsimp only
    rw [opened, if_neg plain, found]
    rfl
  | none =>
    dsimp only
    split
    next printable =>
      have other : c ≠ backslash := by
        rintro rfl
        cases short
      simp [readChar, other]
    split
    next single =>
      rw [read_unit (by omega), if_neg (by omega), same]
    next pair =>
      rw [List.append_assoc, read_unit (by omega), if_pos (by omega)]
      have opened (high low : Nat) : readLow high (unit low ++ rest) = (readHex4 (hex4 low ++ rest)).map fun low =>
          (Char.ofNat (0x10000 + (high - 0xd800) * 1024 + (low.1 - 0xdc00)), low.2) := rfl
      rw [opened, read_hex4 (by omega), Option.map_some]
      have joined : 0x10000 + (0xd800 + (c.toNat - 0x10000) / 1024 - 0xd800) * 1024 +
          (0xdc00 + (c.toNat - 0x10000) % 1024 - 0xdc00) = c.toNat := by omega
      rw [joined, same]

theorem writeChar_code : SelfDelimiting writeChar := SelfDelimiting.of_read read_write_char

theorem writeChar_starts (c : Char) : ∃ symbol rest, writeChar c = symbol :: rest ∧ symbol ≠ quote := by
  unfold writeChar
  cases short : shortEscapes.lookup c with
  | some letter => exact ⟨backslash, [letter], rfl, by decide⟩
  | none =>
    dsimp only
    split
    · refine ⟨c, [], rfl, ?_⟩
      rintro rfl
      cases short
    split
    · exact ⟨backslash, _, rfl, by decide⟩
    · exact ⟨backslash, _, rfl, by decide⟩

end Reading

inductive Scalar where
  | null
  | number (value : Int)
  | text (value : String)
  deriving DecidableEq, Repr

def writeText (value : String) : List Char := quote :: (value.toList.flatMap writeChar ++ [quote])

def writeInt (value : Int) : List Char :=
  if value < 0 then '-' :: Nat.toDigits 10 value.natAbs else Nat.toDigits 10 value.natAbs

def writeScalar : Scalar → List Char
  | .null => "null".toList
  | .number value => writeInt value
  | .text value => writeText value

/-- What may follow a value. -/
def Ends (c : Char) : Prop := c = ',' ∨ c = '\x7d'

section Values

theorem writeText_code : SelfDelimiting writeText := by
  intro first second tail rest same
  have inner : SelfDelimiting fun chars : List Char => chars.flatMap writeChar ++ [quote] :=
    writeChar_code.sequence writeChar_starts
  obtain ⟨chars, ends⟩ := inner (List.cons.inj same).2
  exact ⟨String.toList_inj.mp chars, ends⟩

theorem digits_digit {n : Nat} {c : Char} (digit : c ∈ Nat.toDigits 10 n) : c.isDigit = true :=
  Nat.isDigit_of_mem_toDigits (by omega) (by omega) digit

theorem digits_injective {first second : Nat} (same : Nat.toDigits 10 first = Nat.toDigits 10 second) : first = second := by
  have read := congrArg (fun digits => Nat.ofDigitChars 10 digits 0) same
  simpa only [Nat.ofDigitChars_ten_toDigits] using read

theorem writeInt_injective : Function.Injective writeInt := by
  have signed (n : Nat) (rest : List Char) : Nat.toDigits 10 n ≠ '-' :: rest := by
    intro same
    have digit : '-' ∈ Nat.toDigits 10 n := same ▸ List.mem_cons_self
    exact absurd (digits_digit digit) (by decide)
  intro first second same
  unfold writeInt at same
  by_cases left : first < 0
  · by_cases right : second < 0
    · rw [if_pos left, if_pos right] at same
      have size := digits_injective (List.cons.inj same).2
      omega
    · rw [if_pos left, if_neg right] at same
      exact absurd same.symm (signed _ _)
  · by_cases right : second < 0
    · rw [if_neg left, if_pos right] at same
      exact absurd same (signed _ _)
    · rw [if_neg left, if_neg right] at same
      have size := digits_injective same
      omega

theorem writeInt_free (value : Int) : ∀ c ∈ writeInt value, ¬ Ends c := by
  intro c member ends
  have digit : c = '-' ∨ c.isDigit = true := by
    unfold writeInt at member
    split at member
    · rcases List.mem_cons.mp member with sign | digit
      · exact .inl sign
      · exact .inr (digits_digit digit)
    · exact .inr (digits_digit member)
  rcases ends with rfl | rfl
  · simp at digit
  · simp at digit

theorem writeInt_code : Delimited Ends writeInt := Delimited.of_free writeInt_injective writeInt_free

theorem writeInt_starts (value : Int) : ∃ c rest, writeInt value = c :: rest ∧ (c = '-' ∨ c.isDigit = true) := by
  unfold writeInt
  split
  · exact ⟨'-', _, rfl, .inl rfl⟩
  · cases shape : Nat.toDigits 10 value.natAbs with
    | nil => exact absurd shape Nat.toDigits_ne_nil
    | cons c rest => exact ⟨c, rest, rfl, .inr (digits_digit (shape ▸ List.mem_cons_self))⟩

theorem writeScalar_code : Delimited Ends writeScalar := by
  intro first second mark sign tail rest marks signs same
  cases first with
  | null =>
    cases second with
    | null => exact ⟨rfl, List.append_cancel_left same⟩
    | number value =>
      obtain ⟨c, others, shape, digit⟩ := writeInt_starts value
      simp only [writeScalar, shape, List.cons_append] at same
      obtain ⟨rfl, -⟩ := List.cons.inj same
      exact absurd digit (by decide)
    | text value =>
      cases (List.cons.inj same).1
  | number value =>
    obtain ⟨c, others, shape, digit⟩ := writeInt_starts value
    cases second with
    | null =>
      simp only [writeScalar, shape, List.cons_append] at same
      obtain ⟨rfl, -⟩ := List.cons.inj same
      exact absurd digit (by decide)
    | number other =>
      obtain ⟨rfl, ends⟩ := writeInt_code marks signs same
      exact ⟨rfl, ends⟩
    | text other =>
      simp only [writeScalar, writeText, shape, List.cons_append] at same
      obtain ⟨rfl, -⟩ := List.cons.inj same
      exact absurd digit (by decide)
  | text value =>
    cases second with
    | null => cases (List.cons.inj same).1
    | number other =>
      obtain ⟨c, others, shape, digit⟩ := writeInt_starts other
      simp only [writeScalar, writeText, shape, List.cons_append] at same
      obtain ⟨rfl, -⟩ := List.cons.inj same
      exact absurd digit (by decide)
    | text other =>
      obtain ⟨rfl, ends⟩ := writeText_code same
      exact ⟨rfl, ends⟩

end Values

def writeMember (member : String × Scalar) : List Char := writeText member.1 ++ ':' :: writeScalar member.2

/-- The members after the first, and the closing brace. -/
def writeRest : List (String × Scalar) → List Char
  | [] => ['\x7d']
  | member :: members => ',' :: (writeMember member ++ writeRest members)

/-- `json.dumps` of the members in the given order. -/
def writeMembers : List (String × Scalar) → List Char
  | [] => ['\x7b', '\x7d']
  | member :: members => '\x7b' :: (writeMember member ++ writeRest members)

/-- `sort_keys=True`. -/
def sortKeys (members : List (String × Scalar)) : List (String × Scalar) := members.insertionSort fun first second => first.1 ≤ second.1

def dumps (members : List (String × Scalar)) : String := String.ofList (writeMembers (sortKeys members))

section Members

theorem writeRest_ends (members : List (String × Scalar)) : ∃ c rest, writeRest members = c :: rest ∧ Ends c := by
  cases members with
  | nil => exact ⟨_, _, rfl, .inr rfl⟩
  | cons member members => exact ⟨_, _, rfl, .inl rfl⟩

theorem writeMember_code : Delimited Ends writeMember := by
  rintro ⟨key, value⟩ ⟨name, other⟩ mark sign tail rest marks signs same
  simp only [writeMember, List.append_assoc, List.cons_append] at same
  obtain ⟨rfl, values⟩ := writeText_code same
  obtain ⟨rfl, ends⟩ := writeScalar_code marks signs (List.cons.inj values).2
  exact ⟨rfl, ends⟩

theorem member_rest {first second : String × Scalar} {members others : List (String × Scalar)}
    (same : writeMember first ++ writeRest members = writeMember second ++ writeRest others) :
    first = second ∧ writeRest members = writeRest others := by
  obtain ⟨mark, tail, left, marks⟩ := writeRest_ends members
  obtain ⟨sign, rest, right, signs⟩ := writeRest_ends others
  rw [left, right] at same ⊢
  exact writeMember_code marks signs same

theorem writeRest_injective : Function.Injective writeRest := by
  intro first second same
  induction first generalizing second with
  | nil =>
    cases second with
    | nil => rfl
    | cons member members => cases (List.cons.inj same).1
  | cons member members ih =>
    cases second with
    | nil => cases (List.cons.inj same).1
    | cons other others =>
      obtain ⟨rfl, rests⟩ := member_rest (List.cons.inj same).2
      rw [ih rests]

theorem writeMembers_injective : Function.Injective writeMembers := by
  have starts (member : String × Scalar) (rest : List Char) : writeMember member ++ rest ≠ ['\x7d'] := by
    intro same
    cases (List.cons.inj same).1
  intro first second same
  cases first with
  | nil =>
    cases second with
    | nil => rfl
    | cons member members => exact absurd (List.cons.inj same).2.symm (starts _ _)
  | cons member members =>
    cases second with
    | nil => exact absurd (List.cons.inj same).2 (starts _ _)
    | cons other others =>
      obtain ⟨rfl, rests⟩ := member_rest (List.cons.inj same).2
      rw [writeRest_injective rests]

theorem dumps_perm {first second : List (String × Scalar)} (same : dumps first = dumps second) : first.Perm second := by
  have sorted : sortKeys first = sortKeys second := writeMembers_injective (String.ofList_injective same)
  have back : (sortKeys first).Perm first := List.perm_insertionSort _ first
  have forth : (sortKeys second).Perm second := List.perm_insertionSort _ second
  exact back.symm.trans (sorted ▸ forth)

theorem dumps_value {first second : List (String × Scalar)} (same : dumps first = dumps second)
    (keys : (second.map Prod.fst).Nodup) {key : String} {value other : Scalar} (left : (key, value) ∈ first)
    (right : (key, other) ∈ second) : value = other := by
  have there := (dumps_perm same).subset left
  exact congrArg Prod.snd (List.inj_on_of_nodup_map keys there right rfl)

end Members

end JsonText
