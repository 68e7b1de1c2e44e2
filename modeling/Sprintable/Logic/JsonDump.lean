import Mathlib.Data.List.Forall2
import Sprintable.Logic.CodePoints

/-! The values of JSON as Python holds them, and the text that `json.dumps` writes of one, with or
without escapes of what is not ASCII. The text is in the grammar of JSON. -/

namespace JsonDump

open CodePoints

/-- A value over a type of numbers. The entries of a mapping stand in the order of their insertion. -/
inductive Value (ν : Type) where
  | null
  | bool (value : Bool)
  | number (value : ν)
  | text (value : Text)
  | list (items : List (Value ν))
  | dict (entries : List (Text × Value ν))

/-- A value without parts that is no string. -/
def Value.isScalar {ν : Type} : Value ν → Bool
  | .null | .bool _ | .number _ => true
  | _ => false

/-- Induction on a value: what holds of the parts of a list or a mapping holds of it. -/
@[elab_as_elim]
theorem Value.parts {ν : Type} {motive : Value ν → Prop} (scalar : ∀ value, value.isScalar = true → motive value)
    (text : ∀ value, motive (.text value)) (list : ∀ items, (∀ item ∈ items, motive item) → motive (.list items))
    (dict : ∀ entries, (∀ entry ∈ entries, motive entry.2) → motive (.dict entries)) : ∀ value, motive value
  | .null => scalar .null rfl
  | .bool value => scalar (.bool value) rfl
  | .number value => scalar (.number value) rfl
  | .text value => text value
  | .list items => list items fun item _member => Value.parts scalar text list dict item
  | .dict entries => dict entries fun entry _member => Value.parts scalar text list dict entry.2
termination_by value => sizeOf value
decreasing_by
  · have smaller := List.sizeOf_lt_of_mem _member
    simp only [Value.list.sizeOf_spec]
    omega
  · obtain ⟨key, value⟩ := entry
    have smaller := List.sizeOf_lt_of_mem _member
    simp only [Value.dict.sizeOf_spec, Prod.mk.sizeOf_spec] at smaller ⊢
    omega

section Writing

def quote : CodePoint := 0x22

def backslash : CodePoint := 0x5c

def comma : CodePoint := 0x2c

def colon : CodePoint := 0x3a

def blank : CodePoint := 0x20

/-- The code points with an escape of one letter, and that letter. -/
def shortEscapes : List (CodePoint × CodePoint) :=
  [(quote, quote), (backslash, backslash), (0x0a, 0x6e), (0x0d, 0x72), (0x09, 0x74), (0x0c, 0x66), (0x08, 0x62)]

def hexDigit (digit : Nat) : CodePoint := Fin.ofNat 0x110000 (if digit < 10 then 0x30 + digit else 0x57 + digit)

/-- `\uXXXX`, of one unit of UTF-16. -/
def unit (n : Nat) : Text :=
  [backslash, 0x75, hexDigit (n / 4096 % 16), hexDigit (n / 256 % 16), hexDigit (n / 16 % 16), hexDigit (n % 16)]

def asciiUnits (c : CodePoint) : Text :=
  if c.val < 0x10000 then unit c.val
  else unit (0xd800 + (c.val - 0x10000) / 1024) ++ unit (0xdc00 + (c.val - 0x10000) % 1024)

/-- With `ensure_ascii` everything but printable ASCII is escaped, and otherwise only control characters. -/
def escape (ascii : Bool) (c : CodePoint) : Text :=
  match shortEscapes.lookup c with
  | some letter => [backslash, letter]
  | none =>
    if c.val < 0x20 then unit c.val
    else if ascii && 0x7e < c.val then asciiUnits c
    else [c]

def writeText (ascii : Bool) (text : Text) : Text := quote :: (text.flatMap (escape ascii) ++ [quote])

variable {ν : Type} (number : ν → Text) (ascii : Bool)

mutual

/-- `json.dumps` with the separators `", "` and `": "`. -/
def dumps : Value ν → Text
  | .null => lit "null"
  | .bool true => lit "true"
  | .bool false => lit "false"
  | .number value => number value
  | .text value => writeText ascii value
  | .list items => 0x5b :: (dumpItems items ++ [0x5d])
  | .dict entries => 0x7b :: (dumpEntries entries ++ [0x7d])

def dumpItems : List (Value ν) → Text
  | [] => []
  | item :: rest => dumps item ++ dumpMoreItems rest

def dumpMoreItems : List (Value ν) → Text
  | [] => []
  | item :: rest => comma :: blank :: (dumps item ++ dumpMoreItems rest)

def dumpEntries : List (Text × Value ν) → Text
  | [] => []
  | (key, value) :: rest => writeText ascii key ++ colon :: blank :: (dumps value ++ dumpMoreEntries rest)

def dumpMoreEntries : List (Text × Value ν) → Text
  | [] => []
  | (key, value) :: rest =>
    comma :: blank :: (writeText ascii key ++ colon :: blank :: (dumps value ++ dumpMoreEntries rest))

end

end Writing

section Numbers

instance (priority := 2000) tenNonzero : NeZero 10 := ⟨by decide⟩

def digit (d : Fin 10) : CodePoint := Fin.ofNat 0x110000 (0x30 + d.val)

/-- An integer or a floating-point number in decimal notation, without a leading zero. -/
structure Decimal where
  negative : Bool := false
  lead : Fin 10
  digits : List (Fin 10) := []
  canonical : lead = 0 → digits = []
  fraction : List (Fin 10) := []
  exponent : Option (Bool × Fin 10 × List (Fin 10)) := none

def Decimal.writeFraction (fraction : List (Fin 10)) : Text := if fraction = [] then [] else 0x2e :: fraction.map digit

def Decimal.writeExponent : Option (Bool × Fin 10 × List (Fin 10)) → Text
  | none => []
  | some (down, first, rest) => 0x65 :: (if down then 0x2d else 0x2b) :: (first :: rest).map digit

def Decimal.write (n : Decimal) : Text :=
  (if n.negative then [0x2d] else []) ++ (n.lead :: n.digits).map digit ++ Decimal.writeFraction n.fraction ++
    Decimal.writeExponent n.exponent

/-- A number of Python. Its decoder of JSON also takes the three names, and its encoder writes them. -/
inductive Number where
  | finite (value : Decimal)
  | nan
  | infinity (negative : Bool)

def Number.write : Number → Text
  | .finite value => value.write
  | .nan => lit "NaN"
  | .infinity true => lit "-Infinity"
  | .infinity false => lit "Infinity"

end Numbers

section Surrogates
variable {ν : Type}

mutual

/-- A lone surrogate stands in some string or key of the value. -/
def surrogateIn : Value ν → Bool
  | .text value => hasSurrogate value
  | .list items => surrogateInItems items
  | .dict entries => surrogateInEntries entries
  | _ => false

def surrogateInItems : List (Value ν) → Bool
  | [] => false
  | item :: rest => surrogateIn item || surrogateInItems rest

def surrogateInEntries : List (Text × Value ν) → Bool
  | [] => false
  | (key, value) :: rest => hasSurrogate key || surrogateIn value || surrogateInEntries rest

end

mutual

/-- The strings of a value, its keys apart. -/
def strings : Value ν → List Text
  | .text value => [value]
  | .list items => stringsOfItems items
  | .dict entries => stringsOfEntries entries
  | _ => []

def stringsOfItems : List (Value ν) → List Text
  | [] => []
  | item :: rest => strings item ++ stringsOfItems rest

def stringsOfEntries : List (Text × Value ν) → List Text
  | [] => []
  | (_, value) :: rest => strings value ++ stringsOfEntries rest

end

theorem surrogate_scalar {value : Value ν} (flat : value.isScalar = true) : surrogateIn value = false := by
  cases value <;> first | rfl | cases flat

theorem strings_scalar {value : Value ν} (flat : value.isScalar = true) : strings value = [] := by
  cases value <;> first | rfl | cases flat

@[simp] theorem strings_of_items (items : List (Value ν)) : stringsOfItems items = items.flatMap strings := by
  induction items with
  | nil => rfl
  | cons item rest ih => rw [stringsOfItems, List.flatMap_cons, ih]

@[simp] theorem strings_of_entries (entries : List (Text × Value ν)) :
    stringsOfEntries entries = entries.flatMap fun entry => strings entry.2 := by
  induction entries with
  | nil => rfl
  | cons entry rest ih => rw [stringsOfEntries, List.flatMap_cons, ih]

theorem short_escapes_plain : ∀ entry ∈ shortEscapes, isSurrogate entry.1 = false ∧ isSurrogate entry.2 = false := by
  have table : shortEscapes.all fun entry => !isSurrogate entry.1 && !isSurrogate entry.2 := by decide
  simpa using table

theorem mem_of_lookup {c letter : CodePoint} (found : shortEscapes.lookup c = some letter) : (c, letter) ∈ shortEscapes := by
  obtain ⟨before, after, shape, -⟩ := List.lookup_eq_some_iff.mp found
  rw [shape]
  exact List.mem_append_right _ List.mem_cons_self

theorem hex_plain (n : Nat) : isSurrogate (hexDigit (n % 16)) = false := by
  have all : ∀ d : Fin 16, isSurrogate (hexDigit d) = false := by decide
  exact all ⟨n % 16, Nat.mod_lt n (by omega)⟩

theorem unit_plain (n : Nat) : hasSurrogate (unit n) = false := by
  have mark : isSurrogate backslash = false := by decide
  have letter : isSurrogate 0x75 = false := by decide
  simp only [unit, hasSurrogate, List.any_cons, List.any_nil, mark, letter, hex_plain, Bool.or_false]

theorem escape_surrogate (c : CodePoint) : hasSurrogate (escape false c) = isSurrogate c := by
  unfold escape
  cases short : shortEscapes.lookup c with
  | some letter =>
    have plain := short_escapes_plain _ (mem_of_lookup short)
    have mark : isSurrogate backslash = false := by decide
    simp only [hasSurrogate, List.any_cons, List.any_nil, mark, plain.2, Bool.or_false, plain.1]
  | none =>
    dsimp only
    split
    next control =>
      rw [unit_plain]
      have low : ¬ 0xd800 ≤ c.val := by omega
      simp [isSurrogate, low]
    · simp [hasSurrogate]

theorem write_text_surrogate (text : Text) : hasSurrogate (writeText false text) = hasSurrogate text := by
  have mark : isSurrogate quote = false := by decide
  have escaped : hasSurrogate (text.flatMap (escape false)) = hasSurrogate text := by
    induction text with
    | nil => rfl
    | cons c rest ih =>
      rw [List.flatMap_cons, surrogate_append, ih, escape_surrogate]
      rfl
  unfold writeText
  rw [hasSurrogate, List.any_cons, mark, Bool.false_or]
  change hasSurrogate _ = _
  rw [surrogate_append, escaped]
  simp [hasSurrogate, mark]

end Surrogates

section Encoding
variable {ν : Type} {number : ν → Text}

@[simp] theorem surrogate_cons (c : CodePoint) (text : Text) : hasSurrogate (c :: text) = (isSurrogate c || hasSurrogate text) := rfl

@[simp] theorem surrogate_items (items : List (Value ν)) : surrogateInItems items = items.any surrogateIn := by
  induction items with
  | nil => rfl
  | cons item rest ih => rw [surrogateInItems, List.any_cons, ih]

@[simp] theorem surrogate_entries (entries : List (Text × Value ν)) :
    surrogateInEntries entries = entries.any fun entry => hasSurrogate entry.1 || surrogateIn entry.2 := by
  induction entries with
  | nil => rfl
  | cons entry rest ih => rw [surrogateInEntries, List.any_cons, ih]

/-- Words behind each other, with a comma and a blank between two of them. -/
def separated {α : Type} (write : α → Text) : List α → Text
  | [] => []
  | word :: rest => write word ++ rest.flatMap fun later => comma :: blank :: write later

theorem dump_items (ascii : Bool) (items : List (Value ν)) :
    dumpItems number ascii items = separated (dumps number ascii) items := by
  cases items with
  | nil => rfl
  | cons first rest =>
    rw [dumpItems, separated]
    congr 1
    induction rest with
    | nil => rfl
    | cons item rest ih =>
      rw [dumpMoreItems, ih, List.flatMap_cons]
      rfl

def dumpEntry (number : ν → Text) (ascii : Bool) (entry : Text × Value ν) : Text :=
  writeText ascii entry.1 ++ colon :: blank :: dumps number ascii entry.2

theorem dump_entries (ascii : Bool) (entries : List (Text × Value ν)) :
    dumpEntries number ascii entries = separated (dumpEntry number ascii) entries := by
  have more : ∀ rest, dumpMoreEntries number ascii rest = rest.flatMap fun later => comma :: blank :: dumpEntry number ascii later := by
    intro rest
    induction rest with
    | nil => rfl
    | cons entry rest ih =>
      rw [dumpMoreEntries, ih, List.flatMap_cons]
      simp [dumpEntry]
  cases entries with
  | nil => rfl
  | cons first rest =>
    rw [dumpEntries, more, separated]
    simp [dumpEntry]

theorem separated_surrogate {α : Type} (write : α → Text) (words : List α) :
    hasSurrogate (separated write words) = words.any fun word => hasSurrogate (write word) := by
  have marks : isSurrogate comma = false ∧ isSurrogate blank = false := by decide
  cases words with
  | nil => rfl
  | cons first rest =>
    rw [separated, surrogate_append, List.any_cons]
    congr 1
    induction rest with
    | nil => rfl
    | cons word rest ih =>
      rw [List.flatMap_cons, surrogate_append, ih, List.any_cons, surrogate_cons, surrogate_cons, marks.1, marks.2]
      rfl

theorem any_agree {α : Type} {words : List α} {first second : α → Bool} (same : ∀ word ∈ words, first word = second word) :
    words.any first = words.any second := by
  induction words with
  | nil => rfl
  | cons word rest ih =>
    rw [List.any_cons, List.any_cons, same word List.mem_cons_self,
      ih fun other member => same other (List.mem_cons_of_mem word member)]

/-- Without `ensure_ascii` the text has a lone surrogate where the value has one. -/
theorem dumps_surrogate (plain : ∀ n, hasSurrogate (number n) = false) (value : Value ν) :
    hasSurrogate (dumps number false value) = surrogateIn value := by
  have marks : isSurrogate blank = false ∧ isSurrogate colon = false ∧ isSurrogate 0x5b = false ∧
      isSurrogate 0x5d = false ∧ isSurrogate 0x7b = false ∧ isSurrogate 0x7d = false := by decide
  obtain ⟨blank_, colon_, opens, closes, opened, closed⟩ := marks
  induction value using Value.parts with
  | scalar value flat =>
    cases value with
    | null =>
      change hasSurrogate (lit "null") = false
      decide
    | bool value =>
      cases value
      · change hasSurrogate (lit "false") = false
        decide
      · change hasSurrogate (lit "true") = false
        decide
    | number value => exact plain value
    | text _ | list _ | dict _ => cases flat
  | text value => exact write_text_surrogate value
  | list items ih =>
    rw [dumps, dump_items, surrogate_cons, surrogate_append, separated_surrogate, opens, surrogateIn, surrogate_items,
      surrogate_cons, closes, any_agree ih]
    simp [hasSurrogate]
  | dict entries ih =>
    have parts : ∀ entry ∈ entries, hasSurrogate (dumpEntry number false entry) =
        (hasSurrogate entry.1 || surrogateIn entry.2) := by
      intro entry member
      rw [dumpEntry, surrogate_append, surrogate_cons, surrogate_cons, colon_, blank_, write_text_surrogate, ih entry member]
      rfl
    rw [dumps, dump_entries, surrogate_cons, surrogate_append, separated_surrogate, opened, surrogateIn, surrogate_entries,
      surrogate_cons, closed, any_agree parts]
    simp [hasSurrogate]

end Encoding

section Sizes
variable {ν : Type} {number : ν → Text}

def AsciiOnly (text : Text) : Prop := ∀ c ∈ text, c.val < 0x80

theorem ascii_of_all {text : Text} (low : (text.all fun c => decide (c.val < 0x80)) = true) : AsciiOnly text := by
  simpa [AsciiOnly] using low

theorem ascii_append {first second : Text} (left : AsciiOnly first) (right : AsciiOnly second) : AsciiOnly (first ++ second) := by
  intro c member
  rcases List.mem_append.mp member with front | back
  · exact left c front
  · exact right c back

theorem ascii_cons {c : CodePoint} {text : Text} (low : c.val < 0x80) (rest : AsciiOnly text) : AsciiOnly (c :: text) := by
  intro other member
  rcases List.mem_cons.mp member with rfl | later
  · exact low
  · exact rest other later

theorem ascii_flatMap {α : Type} {write : α → Text} {words : List α} (each : ∀ word ∈ words, AsciiOnly (write word)) :
    AsciiOnly (words.flatMap write) := by
  intro c member
  obtain ⟨word, inside, written⟩ := List.mem_flatMap.mp member
  exact each word inside c written

theorem ascii_size {text : Text} (ascii : AsciiOnly text) : size text = text.length := by
  induction text with
  | nil => rfl
  | cons c rest ih =>
    have one : width c = 1 := if_pos (ascii c List.mem_cons_self)
    rw [size_cons, one, ih fun other later => ascii other (List.mem_cons_of_mem c later), List.length_cons, Nat.add_comm]

theorem ascii_plain {text : Text} (ascii : AsciiOnly text) : hasSurrogate text = false := by
  rw [hasSurrogate, List.any_eq_false]
  intro c member
  have low := ascii c member
  have below : ¬ 0xd800 ≤ c.val := by omega
  simp [isSurrogate, below]

theorem short_escapes_ascii : ∀ entry ∈ shortEscapes, entry.2.val < 0x80 := by
  have table : shortEscapes.all fun entry => entry.2.val < 0x80 := by decide
  exact fun entry known => of_decide_eq_true (List.all_eq_true.mp table entry known)

theorem unit_ascii (n : Nat) : AsciiOnly (unit n) := by
  have hex (m : Nat) : (hexDigit (m % 16)).val < 0x80 := by
    have all : ∀ d : Fin 16, (hexDigit d).val < 0x80 := by decide
    exact all ⟨m % 16, Nat.mod_lt m (by omega)⟩
  have mark : backslash.val < 0x80 ∧ (0x75 : CodePoint).val < 0x80 := by decide
  intro c member
  simp only [unit, List.mem_cons, List.not_mem_nil, or_false] at member
  rcases member with rfl | rfl | rfl | rfl | rfl | rfl
  · exact mark.1
  · exact mark.2
  all_goals exact hex _

theorem escape_ascii (c : CodePoint) : AsciiOnly (escape true c) := by
  unfold escape
  cases short : shortEscapes.lookup c with
  | some letter =>
    have low := short_escapes_ascii _ (mem_of_lookup short)
    exact ascii_cons (by decide) (ascii_cons low fun _ none_ => by cases none_)
  | none =>
    dsimp only
    split
    · exact unit_ascii _
    split
    · unfold asciiUnits
      split
      · exact unit_ascii _
      · exact ascii_append (unit_ascii _) (unit_ascii _)
    next printable =>
      simp only [Bool.true_and, decide_eq_true_eq] at printable
      exact ascii_cons (by omega) fun _ none_ => by cases none_

theorem write_text_ascii (text : Text) : AsciiOnly (writeText true text) := by
  apply ascii_cons (by decide)
  apply ascii_append
  · exact ascii_flatMap fun c _ => escape_ascii c
  · exact ascii_cons (by decide) fun _ none_ => by cases none_

theorem separated_ascii {α : Type} {write : α → Text} {words : List α} (each : ∀ word ∈ words, AsciiOnly (write word)) :
    AsciiOnly (separated write words) := by
  cases words with
  | nil => exact fun _ none_ => by cases none_
  | cons first rest =>
    apply ascii_append (each first List.mem_cons_self)
    apply ascii_flatMap
    intro word later
    exact ascii_cons (by decide) (ascii_cons (by decide) (each word (List.mem_cons_of_mem first later)))

theorem dumps_ascii (numbers : ∀ n, AsciiOnly (number n)) (value : Value ν) : AsciiOnly (dumps number true value) := by
  have bracketed (opening closing : CodePoint) (low : opening.val < 0x80 ∧ closing.val < 0x80) {text : Text}
      (inner : AsciiOnly text) : AsciiOnly (opening :: (text ++ [closing])) := by
    apply ascii_cons low.1
    exact ascii_append inner (ascii_cons low.2 fun _ none_ => by cases none_)
  induction value using Value.parts with
  | scalar value flat =>
    cases value with
    | null =>
      change AsciiOnly (lit "null")
      exact ascii_of_all (by decide)
    | bool value =>
      cases value
      · change AsciiOnly (lit "false")
        exact ascii_of_all (by decide)
      · change AsciiOnly (lit "true")
        exact ascii_of_all (by decide)
    | number value => exact numbers value
    | text _ | list _ | dict _ => cases flat
  | text value => exact write_text_ascii value
  | list items ih =>
    rw [dumps, dump_items]
    exact bracketed 0x5b 0x5d (by decide) (separated_ascii ih)
  | dict entries ih =>
    rw [dumps, dump_entries]
    apply bracketed 0x7b 0x7d (by decide)
    apply separated_ascii
    intro entry member
    apply ascii_append (write_text_ascii entry.1)
    exact ascii_cons (by decide) (ascii_cons (by decide) (ih entry member))

theorem digits_ascii (digits : List (Fin 10)) : AsciiOnly (digits.map digit) := by
  have each : ∀ d : Fin 10, (digit d).val < 0x80 := by decide
  intro c member
  obtain ⟨d, -, rfl⟩ := List.mem_map.mp member
  exact each d

theorem decimal_ascii (n : Decimal) : AsciiOnly n.write := by
  have empty : AsciiOnly [] := fun _ none_ => by cases none_
  unfold Decimal.write
  apply ascii_append
  apply ascii_append
  apply ascii_append
  · split
    · exact ascii_cons (by decide) empty
    · exact empty
  · exact digits_ascii _
  · unfold Decimal.writeFraction
    split
    · exact empty
    · exact ascii_cons (by decide) (digits_ascii _)
  · unfold Decimal.writeExponent
    split
    · exact empty
    · apply ascii_cons (by decide)
      apply ascii_cons
      · split <;> decide
      · exact digits_ascii _

theorem number_ascii (n : Number) : AsciiOnly n.write := by
  cases n with
  | finite value => exact decimal_ascii value
  | nan =>
    change AsciiOnly (lit "NaN")
    exact ascii_of_all (by decide)
  | infinity negative =>
    cases negative
    · change AsciiOnly (lit "Infinity")
      exact ascii_of_all (by decide)
    · change AsciiOnly (lit "-Infinity")
      exact ascii_of_all (by decide)

theorem decimal_plain (n : Decimal) : hasSurrogate n.write = false := ascii_plain (decimal_ascii n)

theorem number_plain (n : Number) : hasSurrogate n.write = false := ascii_plain (number_ascii n)

theorem escape_size (c : CodePoint) : size (escape false c) ≤ (escape true c).length := by
  unfold escape
  cases short : shortEscapes.lookup c with
  | some letter =>
    have low := short_escapes_ascii _ (mem_of_lookup short)
    have one : width letter = 1 := if_pos low
    have mark : width backslash = 1 := by decide
    simp [one, mark]
  | none =>
    dsimp only
    split
    · exact Nat.le_of_eq (ascii_size (unit_ascii _))
    next printable =>
      rw [Bool.false_and, if_neg Bool.false_ne_true]
      split
      next wide =>
        have four : width c ≤ 4 := by
          unfold width
          repeat' split
          all_goals omega
        have units : 4 ≤ (asciiUnits c).length := by
          unfold asciiUnits
          split
          · change 4 ≤ 6
            omega
          · change 4 ≤ 12
            omega
        exact Nat.le_trans four units
      next narrow =>
        simp only [Bool.true_and, decide_eq_true_eq] at narrow
        have one : width c = 1 := if_pos (by omega)
        rw [size_cons, one]
        exact Nat.le_refl 1

theorem flatMap_size {α : Type} {write wide : α → Text} {words : List α}
    (each : ∀ word ∈ words, size (write word) ≤ (wide word).length) :
    size (words.flatMap write) ≤ (words.flatMap wide).length := by
  induction words with
  | nil => exact Nat.le_refl 0
  | cons word rest ih =>
    have front := each word List.mem_cons_self
    have back := ih fun other later => each other (List.mem_cons_of_mem word later)
    rw [List.flatMap_cons, List.flatMap_cons, size_append, List.length_append]
    omega

theorem write_text_size (text : Text) : size (writeText false text) ≤ (writeText true text).length := by
  have escaped : size (text.flatMap (escape false)) ≤ (text.flatMap (escape true)).length :=
    flatMap_size fun c _ => escape_size c
  have mark : width quote = 1 := by decide
  simp only [writeText, size_cons, size_append, size_nil, mark, List.length_cons, List.length_append, List.length_nil]
  omega

theorem separated_size_le {α : Type} {write wide : α → Text} {words : List α}
    (each : ∀ word ∈ words, size (write word) ≤ (wide word).length) :
    size (separated write words) ≤ (separated wide words).length := by
  cases words with
  | nil => exact Nat.le_refl 0
  | cons first rest =>
    have marks : width comma = 1 ∧ width blank = 1 := by decide
    have front := each first List.mem_cons_self
    have back : size (rest.flatMap fun later => comma :: blank :: write later) ≤
        (rest.flatMap fun later => comma :: blank :: wide later).length := by
      apply flatMap_size
      intro word later
      have word_ := each word (List.mem_cons_of_mem first later)
      simp only [size_cons, marks.1, marks.2, List.length_cons]
      omega
    rw [separated, separated, size_append, List.length_append]
    omega

/-- The text without escapes has no more bytes than the one with escapes. -/
theorem dumps_size (numbers : ∀ n, AsciiOnly (number n)) (value : Value ν) :
    size (dumps number false value) ≤ (dumps number true value).length := by
  have marks : width 0x5b = 1 ∧ width 0x5d = 1 ∧ width 0x7b = 1 ∧ width 0x7d = 1 ∧ width colon = 1 ∧ width blank = 1 := by
    decide
  obtain ⟨opens, closes, opened, closed, colon_, blank_⟩ := marks
  induction value using Value.parts with
  | scalar value flat =>
    have ascii : AsciiOnly (dumps number true value) := dumps_ascii numbers value
    have same : dumps number false value = dumps number true value := by
      cases value with
      | bool value => cases value <;> rfl
      | null | number _ => rfl
      | text _ | list _ | dict _ => cases flat
    rw [same]
    exact Nat.le_of_eq (ascii_size ascii)
  | text value => exact write_text_size value
  | list items ih =>
    have inner := separated_size_le ih
    rw [dumps, dumps, dump_items, dump_items]
    simp only [size_cons, size_append, size_nil, opens, closes, List.length_cons, List.length_append, List.length_nil]
    omega
  | dict entries ih =>
    have inner : size (separated (dumpEntry number false) entries) ≤ (separated (dumpEntry number true) entries).length := by
      apply separated_size_le
      intro entry member
      have key := write_text_size entry.1
      have value := ih entry member
      simp only [dumpEntry, size_cons, size_append, colon_, blank_, List.length_cons, List.length_append]
      omega
    rw [dumps, dumps, dump_entries, dump_entries]
    simp only [size_cons, size_append, size_nil, opened, closed, List.length_cons, List.length_append, List.length_nil]
    omega

end Sizes

end JsonDump
