import Mathlib.Data.List.Nodup
import Sprintable.Logic.JsonDump

/-! `json.loads`: a scanner that takes a value off the front of a text. What `json.dumps` writes of a value
is read as that value, and what is read of a text without lone surrogates can be written. -/

namespace JsonLoads

open CodePoints JsonDump

section Strings

def readHex4 : Text → Option (Nat × Text)
  | a :: b :: c :: d :: rest => do
    let a ← readHex a
    let b ← readHex b
    let c ← readHex c
    let d ← readHex d
    return (a * 4096 + b * 256 + c * 16 + d, rest)
  | _ => none

def isHigh (n : Nat) : Bool := 0xd800 ≤ n && n < 0xdc00

def isLow (n : Nat) : Bool := 0xdc00 ≤ n && n < 0xe000

def joined (high low : Nat) : CodePoint := Fin.ofNat 0x110000 (0x10000 + (high - 0xd800) * 1024 + (low - 0xdc00))

/-- After the unit of a high surrogate: the unit of a low one belongs to it, and another is left to be read. -/
def readLow (high : Nat) (text : Text) : Option (CodePoint × Text) :=
  if text.take 2 = [backslash, 0x75] then do
    let (low, after) ← readHex4 (text.drop 2)
    return if isLow low then (joined high low, after) else (Fin.ofNat 0x110000 high, text)
  else some (Fin.ofNat 0x110000 high, text)

def readUnit (text : Text) : Option (CodePoint × Text) := do
  let (n, rest) ← readHex4 text
  if isHigh n then readLow n rest else return (Fin.ofNat 0x110000 n, rest)

/-- The letters after a backslash; the solidus is never written so. -/
def letters : List (CodePoint × CodePoint) := (0x2f, 0x2f) :: shortEscapes.map Prod.swap

def readEscape : Text → Option (CodePoint × Text)
  | [] => none
  | letter :: rest => if letter = 0x75 then readUnit rest else (letters.lookup letter).map fun c => (c, rest)

/-- One character of a string. A control character has to be escaped. -/
def readChar : Text → Option (CodePoint × Text)
  | [] => none
  | c :: rest => if c = backslash then readEscape rest else if c.val < 0x20 then none else some (c, rest)

/-- The rest of a string, up to the quote that closes it. -/
def scanString : Nat → Text → Option (Text × Text)
  | 0, _ => none
  | fuel + 1, text =>
    if text.head? = some quote then some ([], text.tail)
    else do
      let (c, rest) ← readChar text
      let (more, rest) ← scanString fuel rest
      return (c :: more, rest)

end Strings

section Numbers

def readDigit (c : CodePoint) : Option (Fin 10) :=
  if digit : 0x30 ≤ c.val ∧ c.val ≤ 0x39 then some ⟨c.val - 0x30, by omega⟩ else none

def scanDigits : Text → List (Fin 10) × Text
  | [] => ([], [])
  | c :: rest =>
    match readDigit c with
    | some digit =>
      let run := scanDigits rest
      (digit :: run.1, run.2)
    | none => ([], c :: rest)

def scanSign (text : Text) : Bool × Text := if text.head? = some 0x2d then (true, text.tail) else (false, text)

/-- A point that no digit follows does not belong to the number. -/
def scanFraction (text : Text) : List (Fin 10) × Text :=
  if text.head? = some 0x2e ∧ (scanDigits text.tail).1 ≠ [] then scanDigits text.tail else ([], text)

def scanExponentSign (text : Text) : Bool × Text :=
  if text.head? = some 0x2d then (true, text.tail)
  else if text.head? = some 0x2b then (false, text.tail)
  else (false, text)

def scanExponent (text : Text) : Option (Bool × Fin 10 × List (Fin 10)) × Text :=
  if text.head? = some 0x65 ∨ text.head? = some 0x45 then
    match scanDigits (scanExponentSign text.tail).2 with
    | (first :: rest, after) => (some ((scanExponentSign text.tail).1, first, rest), after)
    | _ => (none, text)
  else (none, text)

/-- An integer is neither written nor read beyond this many digits. -/
def maxStrDigits : Nat := 4300

def Short (n : Decimal) : Prop := n.fraction = [] ∧ n.exponent = none → n.digits.length < maxStrDigits

instance (n : Decimal) : Decidable (Short n) := inferInstanceAs (Decidable (_ → _))

/-- A leading zero stands alone. -/
def decimalOf (negative : Bool) (lead : Fin 10) (text : Text) : Decimal × Text :=
  let digits := if lead = 0 then ([], text) else scanDigits text
  let fraction := scanFraction digits.2
  let exponent := scanExponent fraction.2
  (⟨negative, lead, digits.1, by
    intro zero
    simp only [digits, if_pos zero], fraction.1, exponent.1⟩, exponent.2)

def scanNumber (text : Text) : Option (Number × Text) :=
  match (scanSign text).2 with
  | [] => none
  | c :: rest => do
    let lead ← readDigit c
    let read := decimalOf (scanSign text).1 lead rest
    if Short read.1 then return (.finite read.1, read.2) else none

end Numbers

section Values

def names : List (Text × Value Number) :=
  [(lit "null", .null), (lit "true", .bool true), (lit "false", .bool false), (lit "NaN", .number .nan),
    (lit "Infinity", .number (.infinity false)), (lit "-Infinity", .number (.infinity true))]

def scanName (text : Text) : Option (Value Number × Text) :=
  names.findSome? fun entry => if entry.1 <+: text then some (entry.2, text.drop entry.1.length) else none

def isBlank (c : CodePoint) : Bool := c = 0x20 || c = 0x09 || c = 0x0a || c = 0x0d

def skip (text : Text) : Text := text.dropWhile isBlank

/-- `entries[key] = value`: a key that is there keeps its place. -/
def setItem (entries : List (Text × Value Number)) (key : Text) (value : Value Number) : List (Text × Value Number) :=
  if key ∈ entries.map Prod.fst then entries.map fun entry => if entry.1 = key then (key, value) else entry
  else entries ++ [(key, value)]

mutual

def scanOnce : Nat → Text → Option (Value Number × Text)
  | 0, _ => none
  | fuel + 1, text =>
    match text with
    | [] => none
    | c :: rest =>
      if c = quote then (scanString (rest.length + 1) rest).map fun read => (.text read.1, read.2)
      else if c = 0x7b then
        if (skip rest).head? = some 0x7d then some (.dict [], (skip rest).tail) else scanMembers fuel [] (skip rest)
      else if c = 0x5b then
        if (skip rest).head? = some 0x5d then some (.list [], (skip rest).tail) else scanItems fuel [] (skip rest)
      else (scanName text).or ((scanNumber text).map fun read => (.number read.1, read.2))

/-- The members of a mapping from the next one on. -/
def scanMembers : Nat → List (Text × Value Number) → Text → Option (Value Number × Text)
  | 0, _, _ => none
  | fuel + 1, entries, text =>
    if text.head? = some quote then do
      let (key, rest) ← scanString text.length text.tail
      if (skip rest).head? = some colon then do
        let (value, rest) ← scanOnce fuel (skip (skip rest).tail)
        let entries := setItem entries key value
        if (skip rest).head? = some 0x7d then return (.dict entries, (skip rest).tail)
        else if (skip rest).head? = some comma then scanMembers fuel entries (skip (skip rest).tail)
        else none
      else none
    else none

/-- The items of a list from the next one on. -/
def scanItems : Nat → List (Value Number) → Text → Option (Value Number × Text)
  | 0, _, _ => none
  | fuel + 1, items, text => do
    let (item, rest) ← scanOnce fuel text
    if (skip rest).head? = some 0x5d then return (.list (items ++ [item]), (skip rest).tail)
    else if (skip rest).head? = some comma then scanItems fuel (items ++ [item]) (skip (skip rest).tail)
    else none

end

/-- `json.loads`, or a `ValueError`. -/
def loads (text : Text) : Option (Value Number) := do
  let (value, rest) ← scanOnce (text.length + 1) (skip text)
  if skip rest = [] then return value else none

end Values

section StringsRead

/-- No unit of a high surrogate stands directly before one of a low surrogate. -/
def Unsplit (text : Text) : Prop := text.IsChain fun c d => ¬ (isHigh c.val = true ∧ isLow d.val = true)

theorem read_hex_digit (n : Nat) : readHex (hexDigit (n % 16)) = some (n % 16) := by
  have all : ∀ d : Fin 16, readHex (hexDigit d) = some d.val := by decide
  exact all ⟨n % 16, Nat.mod_lt n (by omega)⟩

theorem read_hex4 {n : Nat} (small : n < 65536) (rest : Text) : readHex4 ((unit n).drop 2 ++ rest) = some (n, rest) := by
  have opened : (unit n).drop 2 ++ rest = hexDigit (n / 4096 % 16) :: hexDigit (n / 256 % 16) :: hexDigit (n / 16 % 16) ::
      hexDigit (n % 16) :: rest := rfl
  rw [opened, readHex4, read_hex_digit, read_hex_digit, read_hex_digit, read_hex_digit]
  have whole : n / 4096 % 16 * 4096 + n / 256 % 16 * 256 + n / 16 % 16 * 16 + n % 16 = n := by omega
  exact congrArg (fun n => some (n, rest)) whole

theorem same_point (c : CodePoint) : Fin.ofNat 0x110000 c.val = c := Fin.ext (Nat.mod_eq_of_lt c.isLt)

theorem escapes_read : ∀ entry ∈ shortEscapes, entry.2 ≠ 0x75 ∧ letters.lookup entry.2 = some entry.1 := by
  have table : shortEscapes.all fun entry => entry.2 ≠ 0x75 && letters.lookup entry.2 = some entry.1 := by decide
  simpa using table

theorem read_unit_escape {n : Nat} (small : n < 65536) (rest : Text) :
    readChar (unit n ++ rest) = if isHigh n then readLow n rest else some (Fin.ofNat 0x110000 n, rest) := by
  have opened : readChar (unit n ++ rest) = readUnit ((unit n).drop 2 ++ rest) := rfl
  rw [opened, readUnit, read_hex4 small]
  rfl

/-- A unit that is no low surrogate leaves a high one before it alone. -/
theorem low_unit {n : Nat} (small : n < 65536) (high : Nat) (rest : Text) :
    readLow high (unit n ++ rest) =
      some (if isLow n then (joined high n, rest) else (Fin.ofNat 0x110000 high, unit n ++ rest)) := by
  have front : (unit n ++ rest).take 2 = [backslash, 0x75] := rfl
  have back : (unit n ++ rest).drop 2 = (unit n).drop 2 ++ rest := rfl
  rw [readLow, if_pos front, back, read_hex4 small]
  rfl

theorem read_escape (c : CodePoint) (tail : Text) (alone : isHigh c.val = true → readLow c.val tail = some (c, tail)) :
    readChar (escape true c ++ tail) = some (c, tail) := by
  have valid := c.isLt
  unfold escape
  cases short : shortEscapes.lookup c with
  | some letter =>
    obtain ⟨plain, found⟩ := escapes_read _ (mem_of_lookup short)
    have opened : readChar ([backslash, letter] ++ tail) =
        if letter = 0x75 then readUnit tail else (letters.lookup letter).map fun c => (c, tail) := rfl
    dsimp only at plain found ⊢
    rw [opened, if_neg plain, found]
    rfl
  | none =>
    have single : c ≠ backslash := by
      rintro rfl
      cases short
    dsimp only
    split
    next control =>
      have low : isHigh c.val = false := by
        simp only [isHigh, Bool.and_eq_false_iff, decide_eq_false_iff_not]
        omega
      rw [read_unit_escape (by omega), low, if_neg Bool.false_ne_true, same_point]
    next printable =>
      split
      · unfold asciiUnits
        split
        next narrow =>
          rw [read_unit_escape narrow, same_point]
          split
          next high => exact alone high
          next => rfl
        next wide =>
          have high : isHigh (0xd800 + (c.val - 0x10000) / 1024) = true := by
            simp only [isHigh, Bool.and_eq_true, decide_eq_true_eq]
            omega
          have low : isLow (0xdc00 + (c.val - 0x10000) % 1024) = true := by
            simp only [isLow, Bool.and_eq_true, decide_eq_true_eq]
            omega
          have back : 0x10000 + (0xd800 + (c.val - 0x10000) / 1024 - 0xd800) * 1024 +
              (0xdc00 + (c.val - 0x10000) % 1024 - 0xdc00) = c.val := by omega
          rw [List.append_assoc, read_unit_escape (by omega), if_pos high, low_unit (by omega), if_pos low, joined, back, same_point]
      · have opened : readChar ([c] ++ tail) = if c = backslash then readEscape tail else if c.val < 0x20 then none else some (c, tail) := rfl
        rw [opened, if_neg single, if_neg printable]

/-- What is written after a high surrogate is not read as its other half. -/
theorem alone_before {c : CodePoint} {rest : Text} (apart : Unsplit (c :: rest)) (high : isHigh c.val = true) (tail : Text) :
    readLow c.val (rest.flatMap (escape true) ++ quote :: tail) = some (c, rest.flatMap (escape true) ++ quote :: tail) := by
  cases rest with
  | nil =>
    have front : ([].flatMap (escape true) ++ quote :: tail).take 2 ≠ [backslash, 0x75] := by
      intro same
      exact absurd (List.cons.inj same).1 (by decide)
    rw [readLow, if_neg front, same_point]
  | cons d rest =>
    have other : isLow d.val = false := by
      have pair := List.isChain_cons_cons.mp apart |>.1
      simpa [high] using pair
    have valid := d.isLt
    rw [List.flatMap_cons, List.append_assoc]
    generalize rest.flatMap (escape true) ++ quote :: tail = more
    unfold escape
    cases short : shortEscapes.lookup d with
    | some letter =>
      have plain := (escapes_read _ (mem_of_lookup short)).1
      have front : ([backslash, letter] ++ more).take 2 ≠ [backslash, 0x75] := by simpa using plain
      rw [readLow, if_neg front, same_point]
    | none =>
      have single : d ≠ backslash := by
        rintro rfl
        cases short
      dsimp only
      split
      next control => rw [low_unit (by omega), other, if_neg Bool.false_ne_true, same_point]
      next printable =>
        split
        · unfold asciiUnits
          split
          next narrow => rw [low_unit narrow, other, if_neg Bool.false_ne_true, same_point]
          next wide =>
            have first : isLow (0xd800 + (d.val - 0x10000) / 1024) = false := by
              simp only [isLow, Bool.and_eq_false_iff, decide_eq_false_iff_not]
              omega
            rw [List.append_assoc, low_unit (by omega), first, if_neg Bool.false_ne_true, same_point]
        · have front : ([d] ++ more).take 2 ≠ [backslash, 0x75] := by simp [single]
          rw [readLow, if_neg front, same_point]

theorem escape_starts (ascii : Bool) (c : CodePoint) : ∃ first rest, escape ascii c = first :: rest ∧ first ≠ quote := by
  unfold escape
  cases short : shortEscapes.lookup c with
  | some letter => exact ⟨backslash, [letter], rfl, by decide⟩
  | none =>
    have inside : c ≠ quote := by
      rintro rfl
      cases short
    dsimp only
    split
    · exact ⟨backslash, _, rfl, by decide⟩
    split
    · unfold asciiUnits
      split
      · exact ⟨backslash, _, rfl, by decide⟩
      · exact ⟨backslash, _, rfl, by decide⟩
    · exact ⟨c, [], rfl, inside⟩

theorem escapes_length (ascii : Bool) (text : Text) : text.length ≤ (text.flatMap (escape ascii)).length := by
  induction text with
  | nil => exact Nat.le_refl 0
  | cons c rest ih =>
    obtain ⟨first, others, shape, -⟩ := escape_starts ascii c
    rw [List.flatMap_cons, shape, List.length_append, List.length_cons, List.length_cons]
    omega

theorem scan_string {text : Text} (apart : Unsplit text) {fuel : Nat} (enough : text.length < fuel) (tail : Text) :
    scanString fuel (text.flatMap (escape true) ++ quote :: tail) = some (text, tail) := by
  induction text generalizing fuel with
  | nil =>
    cases fuel with
    | zero => exact absurd enough (Nat.not_lt_zero _)
    | succ fuel => rfl
  | cons c rest ih =>
    cases fuel with
    | zero => exact absurd enough (Nat.not_lt_zero _)
    | succ fuel =>
      have later := ih apart.of_cons (Nat.lt_of_succ_lt_succ enough)
      obtain ⟨first, others, shape, other⟩ := escape_starts true c
      have char := read_escape c (rest.flatMap (escape true) ++ quote :: tail) fun high => alone_before apart high tail
      rw [List.flatMap_cons, List.append_assoc]
      have open_ : (escape true c ++ (rest.flatMap (escape true) ++ quote :: tail)).head? ≠ some quote := by
        rw [shape]
        simpa using other
      rw [scanString, if_neg open_, char]
      simp only [Option.bind_eq_bind, Option.bind_some, later]
      rfl

end StringsRead

section NumbersRead

theorem read_digit (d : Fin 10) : readDigit (digit d) = some d := by
  have all : ∀ d : Fin 10, readDigit (digit d) = some d := by decide
  exact all d

/-- What may stand behind a value. -/
def Stops (tail : Text) : Prop := ∀ c, tail.head? = some c → c = comma ∨ c = 0x5d ∨ c = 0x7d

def NoDigit (text : Text) : Prop := ∀ c, text.head? = some c → readDigit c = none

theorem Stops.not_head {tail : Text} (stops : Stops tail) {c : CodePoint} (other : c ≠ comma ∧ c ≠ 0x5d ∧ c ≠ 0x7d) :
    tail.head? ≠ some c := by
  intro head
  rcases stops c head with same | same | same
  · exact other.1 same
  · exact other.2.1 same
  · exact other.2.2 same

theorem Stops.no_digit {tail : Text} (stops : Stops tail) : NoDigit tail := by
  intro c head
  rcases stops c head with rfl | rfl | rfl
  all_goals decide

theorem scan_digits (digits : List (Fin 10)) {tail : Text} (ends : NoDigit tail) :
    scanDigits (digits.map digit ++ tail) = (digits, tail) := by
  induction digits with
  | nil =>
    cases tail with
    | nil => rfl
    | cons c rest => rw [List.map_nil, List.nil_append, scanDigits, ends c rfl]
  | cons d rest ih =>
    rw [List.map_cons, List.cons_append, scanDigits, read_digit]
    dsimp only
    rw [ih]

theorem scan_exponent (exponent : Option (Bool × Fin 10 × List (Fin 10))) {tail : Text} (stops : Stops tail) :
    scanExponent (Decimal.writeExponent exponent ++ tail) = (exponent, tail) := by
  cases exponent with
  | none =>
    have small := stops.not_head (c := 0x65) (by decide)
    have capital := stops.not_head (c := 0x45) (by decide)
    exact if_neg fun head => head.elim small capital
  | some parts =>
    obtain ⟨down, first, rest⟩ := parts
    have sign : scanExponentSign ((if down then 0x2d else 0x2b) :: ((first :: rest).map digit ++ tail)) =
        (down, (first :: rest).map digit ++ tail) := by
      cases down <;> rfl
    have shape : Decimal.writeExponent (some (down, first, rest)) ++ tail =
        0x65 :: (if down then 0x2d else 0x2b) :: ((first :: rest).map digit ++ tail) := rfl
    rw [shape, scanExponent, if_pos (.inl rfl), List.tail_cons, sign, scan_digits _ stops.no_digit]

theorem exponent_head (exponent : Option (Bool × Fin 10 × List (Fin 10))) {tail : Text} (stops : Stops tail) (c : CodePoint)
    (head : (Decimal.writeExponent exponent ++ tail).head? = some c) : c = 0x65 ∨ c = comma ∨ c = 0x5d ∨ c = 0x7d := by
  cases exponent with
  | none => exact .inr (stops c head)
  | some parts => exact .inl (Option.some.inj head).symm

theorem scan_fraction (fraction : List (Fin 10)) {more : Text} (ends : NoDigit more) (point : more.head? ≠ some 0x2e) :
    scanFraction (Decimal.writeFraction fraction ++ more) = (fraction, more) := by
  unfold Decimal.writeFraction
  by_cases none_ : fraction = []
  · rw [if_pos none_, List.nil_append, scanFraction, if_neg fun head => point head.1, none_]
  · rw [if_neg none_, List.cons_append, scanFraction, List.tail_cons, scan_digits fraction ends]
    exact if_pos ⟨rfl, none_⟩

theorem scan_decimal (n : Decimal) {tail : Text} (stops : Stops tail) :
    decimalOf n.negative n.lead (n.digits.map digit ++ Decimal.writeFraction n.fraction ++ Decimal.writeExponent n.exponent ++ tail) =
      (n, tail) := by
  have exponent := scan_exponent n.exponent stops
  have after := exponent_head n.exponent stops
  generalize behind : Decimal.writeExponent n.exponent ++ tail = more at exponent after
  have digits : NoDigit more := by
    intro c head
    rcases after c head with rfl | rfl | rfl | rfl
    all_goals decide
  have point : more.head? ≠ some 0x2e := by
    intro head
    exact absurd (after _ head) (by decide)
  have fraction := scan_fraction n.fraction digits point
  have next : NoDigit (Decimal.writeFraction n.fraction ++ more) := by
    unfold Decimal.writeFraction
    split
    · exact digits
    · intro c head
      obtain rfl := Option.some.inj head
      decide
  have whole : (if n.lead = 0 then ([], n.digits.map digit ++ (Decimal.writeFraction n.fraction ++ more))
      else scanDigits (n.digits.map digit ++ (Decimal.writeFraction n.fraction ++ more))) =
        (n.digits, Decimal.writeFraction n.fraction ++ more) := by
    split
    next zero =>
      rw [n.canonical zero]
      rfl
    next => exact scan_digits n.digits next
  rw [List.append_assoc, List.append_assoc, behind]
  simp only [decimalOf, whole, fraction, exponent]

/-- A number that is finite has few enough digits to be written and read. -/
def Writable : Number → Prop
  | .finite n => Short n
  | _ => True

theorem lead_not_minus (d : Fin 10) : digit d ≠ 0x2d := by
  have all : ∀ d : Fin 10, digit d ≠ 0x2d := by decide
  exact all d

theorem write_shape (n : Decimal) (tail : Text) : n.write ++ tail = (if n.negative then [0x2d] else []) ++ (digit n.lead ::
    (n.digits.map digit ++ Decimal.writeFraction n.fraction ++ Decimal.writeExponent n.exponent ++ tail)) := by
  simp only [Decimal.write, List.map_cons, List.append_assoc, List.cons_append]

theorem scan_number {n : Decimal} (short : Short n) {tail : Text} (stops : Stops tail) :
    scanNumber (n.write ++ tail) = some (.finite n, tail) := by
  have sign : scanSign (n.write ++ tail) = (n.negative, digit n.lead ::
      (n.digits.map digit ++ Decimal.writeFraction n.fraction ++ Decimal.writeExponent n.exponent ++ tail)) := by
    rw [write_shape]
    cases n.negative with
    | true => rfl
    | false => exact if_neg fun head => lead_not_minus n.lead (Option.some.inj head)
  rw [scanNumber, sign]
  simp only [read_digit, Option.bind_eq_bind, Option.bind_some, scan_decimal n stops, if_pos short]
  rfl

theorem names_letters : ∀ entry ∈ names, ∃ c d rest, entry.1 = c :: d :: rest ∧ readDigit c = none ∧ readDigit d = none := by
  have table : names.all fun entry => (entry.1.drop 1).length ≠ 0 && (entry.1.take 2).all fun c => readDigit c = none := by decide
  intro entry member
  have holds := List.all_eq_true.mp table entry member
  obtain ⟨text, value⟩ := entry
  cases text with
  | nil => cases holds
  | cons c rest =>
    cases rest with
    | nil => cases holds
    | cons d rest => exact ⟨c, d, rest, rfl, by simpa using holds⟩

theorem name_none (n : Decimal) (tail : Text) : scanName (n.write ++ tail) = none := by
  apply List.findSome?_eq_none_iff.mpr
  intro entry member
  obtain ⟨c, d, rest, shape, first, second⟩ := names_letters entry member
  apply if_neg
  rw [shape, write_shape]
  cases n.negative with
  | true =>
    intro front
    obtain ⟨-, later⟩ := List.cons_prefix_cons.mp front
    rw [(List.cons_prefix_cons.mp later).1, read_digit] at second
    cases second
  | false =>
    intro front
    rw [(List.cons_prefix_cons.mp front).1, read_digit] at first
    cases first

end NumbersRead

section ValuesRead

/-- A value that a text can name: no key twice, no split pair of surrogates, and no integer of too many digits. -/
inductive Sound : Value Number → Prop where
  | null : Sound .null
  | bool (value : Bool) : Sound (.bool value)
  | number {value : Number} (writable : Writable value) : Sound (.number value)
  | text {value : Text} (apart : Unsplit value) : Sound (.text value)
  | list {items : List (Value Number)} (each : ∀ item ∈ items, Sound item) : Sound (.list items)
  | dict {entries : List (Text × Value Number)} (keys : (entries.map Prod.fst).Nodup)
      (apart : ∀ entry ∈ entries, Unsplit entry.1) (each : ∀ entry ∈ entries, Sound entry.2) : Sound (.dict entries)

theorem skip_blank (text : Text) : skip (blank :: text) = skip text := rfl

theorem skip_word {c : CodePoint} (word : isBlank c = false) (rest : Text) : skip (c :: rest) = c :: rest :=
  List.dropWhile_cons_of_neg (by simp [word])

theorem number_starts (n : Number) : ∃ c rest, n.write = c :: rest ∧ isBlank c = false ∧ c ≠ 0x5d ∧ c ≠ quote ∧ c ≠ 0x7b ∧ c ≠ 0x5b := by
  have digits : ∀ d : Fin 10, isBlank (digit d) = false ∧ digit d ≠ 0x5d ∧ digit d ≠ quote ∧ digit d ≠ 0x7b ∧ digit d ≠ 0x5b := by decide
  cases n with
  | finite n =>
    have shape := write_shape n []
    rw [List.append_nil, List.append_nil] at shape
    cases negative : n.negative with
    | true =>
      rw [negative] at shape
      exact ⟨0x2d, _, shape, by decide⟩
    | false =>
      rw [negative] at shape
      exact ⟨_, _, shape, digits n.lead⟩
  | nan => exact ⟨0x4e, _, rfl, by decide⟩
  | infinity negative =>
    cases negative
    · exact ⟨0x49, _, rfl, by decide⟩
    · exact ⟨0x2d, _, rfl, by decide⟩

/-- A value begins with a character that closes no list and is no blank. -/
theorem dumps_starts (value : Value Number) :
    ∃ c rest, dumps Number.write true value = c :: rest ∧ isBlank c = false ∧ c ≠ 0x5d := by
  cases value with
  | null => exact ⟨0x6e, _, rfl, by decide⟩
  | bool value =>
    cases value
    · exact ⟨0x66, _, rfl, by decide⟩
    · exact ⟨0x74, _, rfl, by decide⟩
  | number value =>
    obtain ⟨c, rest, shape, word, other, -⟩ := number_starts value
    exact ⟨c, rest, shape, word, other⟩
  | text value => exact ⟨quote, _, rfl, by decide⟩
  | list items => exact ⟨0x5b, _, rfl, by decide⟩
  | dict entries => exact ⟨0x7b, _, rfl, by decide⟩

theorem skip_dumps (value : Value Number) (tail : Text) :
    skip (dumps Number.write true value ++ tail) = dumps Number.write true value ++ tail := by
  obtain ⟨c, rest, shape, word, -⟩ := dumps_starts value
  rw [shape]
  exact skip_word word _

/-- What is neither string nor mapping nor list is a name or a number. -/
theorem scan_plain {c : CodePoint} (plain : c ≠ quote ∧ c ≠ 0x7b ∧ c ≠ 0x5b) (fuel : Nat) (rest : Text) :
    scanOnce (fuel + 1) (c :: rest) = (scanName (c :: rest)).or ((scanNumber (c :: rest)).map fun read => (.number read.1, read.2)) := by
  rw [scanOnce, if_neg plain.1, if_neg plain.2.1, if_neg plain.2.2]

theorem scan_write {n : Number} (writable : Writable n) (fuel : Nat) {tail : Text} (stops : Stops tail) :
    scanOnce (fuel + 1) (n.write ++ tail) = some (.number n, tail) := by
  cases n with
  | finite n =>
    obtain ⟨c, rest, shape, -, -, plain⟩ := number_starts (.finite n)
    have shape : n.write ++ tail = c :: (rest ++ tail) := congrArg (· ++ tail) shape
    have written : Number.write (.finite n) ++ tail = n.write ++ tail := rfl
    rw [written, shape, scan_plain plain, ← shape, name_none, scan_number writable stops]
    rfl
  | nan => rfl
  | infinity negative => cases negative <;> rfl

/-- A value is read wherever it stands in front of a text that may follow it. -/
def Read (value : Value Number) : Prop :=
  ∀ fuel tail, Stops tail → (dumps Number.write true value).length ≤ fuel →
    scanOnce fuel (dumps Number.write true value ++ tail) = some (value, tail)

theorem stops_cons {c : CodePoint} (stop : c = comma ∨ c = 0x5d ∨ c = 0x7d) (rest : Text) : Stops (c :: rest) := by
  intro other head
  obtain rfl := Option.some.inj head
  exact stop

theorem separated_more {α : Type} (write : α → Text) (first second : α) (rest : List α) :
    separated write (first :: second :: rest) = write first ++ comma :: blank :: separated write (second :: rest) := rfl

theorem scan_items (first : Value Number) (rest done : List (Value Number)) (each : ∀ item ∈ first :: rest, Read item) {fuel : Nat}
    (enough : (separated (dumps Number.write true) (first :: rest)).length < fuel) (tail : Text) :
    scanItems fuel done (separated (dumps Number.write true) (first :: rest) ++ 0x5d :: tail) =
      some (.list (done ++ first :: rest), tail) := by
  induction rest generalizing first done fuel with
  | nil =>
    obtain ⟨fuel, rfl⟩ := Nat.exists_eq_add_one_of_ne_zero (Nat.ne_zero_of_lt enough)
    have alone : separated (dumps Number.write true) [first] = dumps Number.write true first := List.append_nil _
    rw [alone] at enough ⊢
    have read := each first List.mem_cons_self fuel (0x5d :: tail) (stops_cons (by decide) tail) (Nat.le_of_lt_succ enough)
    rw [scanItems, read]
    rfl
  | cons second rest ih =>
    obtain ⟨fuel, rfl⟩ := Nat.exists_eq_add_one_of_ne_zero (Nat.ne_zero_of_lt enough)
    rw [separated_more] at enough ⊢
    simp only [List.length_append, List.length_cons] at enough
    have read := each first List.mem_cons_self fuel
      (comma :: blank :: (separated (dumps Number.write true) (second :: rest) ++ 0x5d :: tail)) (stops_cons (by decide) _) (by omega)
    have later := ih second (done ++ [first]) (fun item member => each item (List.mem_cons_of_mem first member))
      (show _ < fuel by omega)
    have next : skip (blank :: (separated (dumps Number.write true) (second :: rest) ++ 0x5d :: tail)) =
        separated (dumps Number.write true) (second :: rest) ++ 0x5d :: tail := by
      rw [skip_blank, separated, List.append_assoc]
      exact skip_dumps second _
    have comma_ : skip (comma :: blank :: (separated (dumps Number.write true) (second :: rest) ++ 0x5d :: tail)) =
        comma :: blank :: (separated (dumps Number.write true) (second :: rest) ++ 0x5d :: tail) := rfl
    rw [List.append_assoc, List.cons_append, List.cons_append, scanItems, read]
    simp only [Option.bind_eq_bind, Option.bind_some, comma_, List.head?_cons, List.tail_cons, next, later]
    rw [if_neg (by decide), if_pos trivial, List.append_assoc]
    rfl

theorem setItem_new {entries : List (Text × Value Number)} {key : Text} (fresh : key ∉ entries.map Prod.fst) (value : Value Number) :
    setItem entries key value = entries ++ [(key, value)] := if_neg fresh

/-- The key of an entry, the colon and the value are taken off a text. -/
theorem scan_entry {entry : Text × Value Number} (apart : Unsplit entry.1) (read : Read entry.2) {fuel : Nat}
    (enough : (dumpEntry Number.write true entry).length ≤ fuel) (done : List (Text × Value Number)) {tail : Text} (stops : Stops tail) :
    scanMembers (fuel + 1) done (dumpEntry Number.write true entry ++ tail) =
      if (skip tail).head? = some 0x7d then some (.dict (setItem done entry.1 entry.2), (skip tail).tail)
      else if (skip tail).head? = some comma then scanMembers fuel (setItem done entry.1 entry.2) (skip (skip tail).tail)
      else none := by
  obtain ⟨key, value⟩ := entry
  have size := escapes_length true key
  have shape : dumpEntry Number.write true (key, value) ++ tail =
      quote :: (key.flatMap (escape true) ++ quote :: colon :: blank :: (dumps Number.write true value ++ tail)) := by
    simp only [dumpEntry, writeText, List.cons_append, List.append_assoc, List.nil_append]
  have long : key.length < (quote :: (key.flatMap (escape true) ++ quote :: colon :: blank :: (dumps Number.write true value ++ tail))).length := by
    simp only [List.length_cons, List.length_append]
    omega
  have short : (dumps Number.write true value).length ≤ fuel := by
    simp only [dumpEntry, List.length_cons, List.length_append] at enough
    omega
  have colon_ : skip (colon :: blank :: (dumps Number.write true value ++ tail)) =
      colon :: blank :: (dumps Number.write true value ++ tail) := rfl
  rw [shape, scanMembers, if_pos (List.head?_cons), List.tail_cons, scan_string apart long]
  simp only [Option.bind_eq_bind, Option.bind_some, colon_, List.head?_cons, List.tail_cons, if_pos, skip_blank, skip_dumps,
    read fuel tail stops short]
  rfl

theorem scan_members (first : Text × Value Number) (rest done : List (Text × Value Number))
    (apart : ∀ entry ∈ first :: rest, Unsplit entry.1) (each : ∀ entry ∈ first :: rest, Read entry.2)
    (keys : ((done ++ first :: rest).map Prod.fst).Nodup) {fuel : Nat}
    (enough : (separated (dumpEntry Number.write true) (first :: rest)).length < fuel) (tail : Text) :
    scanMembers fuel done (separated (dumpEntry Number.write true) (first :: rest) ++ 0x7d :: tail) =
      some (.dict (done ++ first :: rest), tail) := by
  induction rest generalizing first done fuel with
  | nil =>
    obtain ⟨fuel, rfl⟩ := Nat.exists_eq_add_one_of_ne_zero (Nat.ne_zero_of_lt enough)
    have alone : separated (dumpEntry Number.write true) [first] = dumpEntry Number.write true first := List.append_nil _
    have fresh : first.1 ∉ done.map Prod.fst := by
      rw [List.map_append] at keys
      exact fun member => (List.disjoint_of_nodup_append keys) member List.mem_cons_self
    rw [alone] at enough ⊢
    rw [scan_entry (apart first List.mem_cons_self) (each first List.mem_cons_self) (Nat.le_of_lt_succ enough) done
      (stops_cons (by decide) tail), setItem_new fresh]
    rfl
  | cons second rest ih =>
    obtain ⟨fuel, rfl⟩ := Nat.exists_eq_add_one_of_ne_zero (Nat.ne_zero_of_lt enough)
    have fresh : first.1 ∉ done.map Prod.fst := by
      rw [List.map_append] at keys
      exact fun member => (List.disjoint_of_nodup_append keys) member List.mem_cons_self
    rw [separated_more] at enough ⊢
    simp only [List.length_append, List.length_cons] at enough
    have later := ih second (done ++ [first]) (fun entry member => apart entry (List.mem_cons_of_mem first member))
      (fun entry member => each entry (List.mem_cons_of_mem first member)) (by rwa [List.append_assoc]) (show _ < fuel by omega)
    have next : skip (blank :: (separated (dumpEntry Number.write true) (second :: rest) ++ 0x7d :: tail)) =
        separated (dumpEntry Number.write true) (second :: rest) ++ 0x7d :: tail := rfl
    have comma_ : skip (comma :: blank :: (separated (dumpEntry Number.write true) (second :: rest) ++ 0x7d :: tail)) =
        comma :: blank :: (separated (dumpEntry Number.write true) (second :: rest) ++ 0x7d :: tail) := rfl
    rw [List.append_assoc, List.cons_append, List.cons_append, scan_entry (apart first List.mem_cons_self)
      (each first List.mem_cons_self) (by omega) done (stops_cons (by decide) _), setItem_new fresh, comma_, List.head?_cons, List.tail_cons,
      next, later, if_neg (by decide), if_pos rfl, List.append_assoc]
    rfl

theorem scan_dumps {value : Value Number} (sound : Sound value) : Read value := by
  induction value using Value.parts with
  | scalar value flat =>
    intro fuel tail stops enough
    obtain ⟨c, rest, shape, -⟩ := dumps_starts value
    have some_ : fuel ≠ 0 := by
      rw [shape, List.length_cons] at enough
      omega
    obtain ⟨fuel, rfl⟩ := Nat.exists_eq_add_one_of_ne_zero some_
    cases sound with
    | null => rfl
    | bool value => cases value <;> rfl
    | number writable => exact scan_write writable fuel stops
    | text | list | dict => cases flat
  | text value =>
    intro fuel tail stops enough
    cases sound with
    | text apart =>
      have size := escapes_length true value
      have shape : dumps Number.write true (.text value) ++ tail = quote :: (value.flatMap (escape true) ++ quote :: tail) := by
        simp only [dumps, writeText, List.cons_append, List.append_assoc, List.nil_append]
      obtain ⟨fuel, rfl⟩ := Nat.exists_eq_add_one_of_ne_zero (show fuel ≠ 0 by
        simp only [dumps, writeText, List.length_cons] at enough
        omega)
      have long : value.length < (value.flatMap (escape true) ++ quote :: tail).length + 1 := by
        rw [List.length_append]
        omega
      rw [shape, scanOnce, if_pos rfl, scan_string apart long]
      rfl
  | list items ih =>
    intro fuel tail stops enough
    cases sound with
    | list each =>
      rw [dumps, dump_items] at enough ⊢
      rw [List.length_cons, List.length_append, List.length_singleton] at enough
      obtain ⟨fuel, rfl⟩ := Nat.exists_eq_add_one_of_ne_zero (show fuel ≠ 0 by omega)
      rw [List.cons_append, List.append_assoc, List.singleton_append, scanOnce, if_neg (by decide), if_neg (by decide), if_pos rfl]
      cases items with
      | nil => rfl
      | cons first rest =>
        have next : skip (separated (dumps Number.write true) (first :: rest) ++ 0x5d :: tail) =
            separated (dumps Number.write true) (first :: rest) ++ 0x5d :: tail := by
          rw [separated, List.append_assoc]
          exact skip_dumps first _
        have more : (separated (dumps Number.write true) (first :: rest) ++ 0x5d :: tail).head? ≠ some 0x5d := by
          obtain ⟨c, others, shape, -, other⟩ := dumps_starts first
          rw [separated, shape]
          simpa using other
        rw [next, if_neg more]
        exact scan_items first rest [] (fun item member => ih item member (each item member)) (by omega) tail
  | dict entries ih =>
    intro fuel tail stops enough
    cases sound with
    | dict keys apart each =>
      rw [dumps, dump_entries] at enough ⊢
      rw [List.length_cons, List.length_append, List.length_singleton] at enough
      obtain ⟨fuel, rfl⟩ := Nat.exists_eq_add_one_of_ne_zero (show fuel ≠ 0 by omega)
      rw [List.cons_append, List.append_assoc, List.singleton_append, scanOnce, if_neg (by decide), if_pos rfl]
      cases entries with
      | nil => rfl
      | cons first rest =>
        have next : skip (separated (dumpEntry Number.write true) (first :: rest) ++ 0x7d :: tail) =
            separated (dumpEntry Number.write true) (first :: rest) ++ 0x7d :: tail := rfl
        have more : (separated (dumpEntry Number.write true) (first :: rest) ++ 0x7d :: tail).head? = some quote := rfl
        rw [next, more, if_neg (by decide)]
        exact scan_members first rest [] apart (fun entry member => ih entry member (each entry member)) keys (by omega) tail

/-- What is written of a value is read as that value. -/
theorem loads_dumps {value : Value Number} (sound : Sound value) : loads (dumps Number.write true value) = some value := by
  have stops : Stops [] := by
    intro c head
    cases head
  have read := scan_dumps sound ((dumps Number.write true value).length + 1) [] stops (Nat.le_succ _)
  have start := skip_dumps value []
  rw [List.append_nil] at read start
  rw [loads, start, read]
  rfl

end ValuesRead

section Reads

theorem plain_suffix {text rest : Text} (plain : hasSurrogate text = false) (suffix : rest <:+ text) : hasSurrogate rest = false := by
  obtain ⟨front, rfl⟩ := suffix
  rw [surrogate_append, Bool.or_eq_false_iff] at plain
  exact plain.2

theorem hex_small {c : CodePoint} {n : Nat} (read : readHex c = some n) : n < 16 := by
  unfold readHex at read
  split at read
  · obtain rfl := Option.some.inj read
    omega
  split at read
  · obtain rfl := Option.some.inj read
    omega
  split at read
  · obtain rfl := Option.some.inj read
    omega
  · cases read

theorem hex4_read {text rest : Text} {n : Nat} (read : readHex4 text = some (n, rest)) : n < 65536 ∧ rest <:+ text := by
  unfold readHex4 at read
  split at read
  next a b c d more =>
    simp only [Option.bind_eq_bind, Option.bind_eq_some_iff] at read
    obtain ⟨a_, first, b_, second, c_, third, d_, fourth, read⟩ := read
    obtain ⟨rfl, rfl⟩ := Prod.mk.inj (Option.some.inj read)
    have first := hex_small first
    have second := hex_small second
    have third := hex_small third
    have fourth := hex_small fourth
    exact ⟨by omega, [a, b, c, d], rfl⟩
  next => cases read

theorem point_val {n : Nat} (small : n < 65536) : (Fin.ofNat 0x110000 n : CodePoint).val = n := Nat.mod_eq_of_lt (by omega)

theorem joined_val {high low : Nat} (first : isHigh high = true) (second : isLow low = true) :
    0x10000 ≤ (joined high low).val := by
  simp only [isHigh, isLow, Bool.and_eq_true, decide_eq_true_eq] at first second
  have value : (joined high low).val = 0x10000 + (high - 0xd800) * 1024 + (low - 0xdc00) := Nat.mod_eq_of_lt (by omega)
  omega

/-- How a half of a pair of surrogates is read: from a unit that stands alone. -/
structure Half (text : Text) (c : CodePoint) (rest : Text) : Prop where
  suffix : rest <:+ text
  high : isHigh c.val = true → readLow c.val rest = some (c, rest)
  low : isLow c.val = true → text.take 2 = [backslash, 0x75] ∧ ∃ after, readHex4 (text.drop 2) = some (c.val, after)

theorem plain_half {text rest : Text} {c : CodePoint} (suffix : rest <:+ text) (whole : isSurrogate c = false) : Half text c rest := by
  simp only [isSurrogate, Bool.and_eq_false_iff, decide_eq_false_iff_not] at whole
  refine ⟨suffix, ?_, ?_⟩
  · intro high
    simp only [isHigh, Bool.and_eq_true, decide_eq_true_eq] at high
    omega
  · intro low
    simp only [isLow, Bool.and_eq_true, decide_eq_true_eq] at low
    omega

theorem unit_half {text rest : Text} {c : CodePoint} (read : readUnit text = some (c, rest)) : Half (backslash :: 0x75 :: text) c rest := by
  have behind {part : Text} (suffix : part <:+ text) : part <:+ backslash :: 0x75 :: text :=
    suffix.trans ((List.suffix_cons _ _).trans (List.suffix_cons _ _))
  simp only [readUnit, Option.bind_eq_bind, Option.bind_eq_some_iff] at read
  obtain ⟨⟨n, more⟩, unit_, read⟩ := read
  obtain ⟨small, suffix⟩ := hex4_read unit_
  dsimp only at read suffix
  by_cases high : isHigh n = true
  · rw [if_pos high] at read
    unfold readLow at read
    by_cases next : more.take 2 = [backslash, 0x75]
    · rw [if_pos next, Option.bind_eq_bind, Option.bind_eq_some_iff] at read
      obtain ⟨⟨low, after⟩, second, read⟩ := read
      obtain ⟨-, later⟩ := hex4_read second
      have read := Option.some.inj read
      by_cases pair : isLow low = true
      · rw [if_pos pair] at read
        obtain ⟨rfl, rfl⟩ := Prod.mk.inj read
        apply plain_half (behind (later.trans ((List.drop_suffix _ _).trans suffix)))
        have big := joined_val high pair
        simp only [isSurrogate, Bool.and_eq_false_iff, decide_eq_false_iff_not]
        omega
      · rw [if_neg pair] at read
        obtain ⟨rfl, rfl⟩ := Prod.mk.inj read
        refine ⟨behind suffix, fun _ => ?_, ?_⟩
        · rw [point_val small, readLow, if_pos next, second]
          exact congrArg some (if_neg pair)
        · rw [point_val small]
          exact fun _ => ⟨rfl, more, unit_⟩
    · rw [if_neg next] at read
      obtain ⟨rfl, rfl⟩ := Prod.mk.inj (Option.some.inj read)
      refine ⟨behind suffix, fun _ => ?_, ?_⟩
      · rw [point_val small, readLow, if_neg next]
      · rw [point_val small]
        exact fun _ => ⟨rfl, more, unit_⟩
  · rw [if_neg high] at read
    obtain ⟨rfl, rfl⟩ := Prod.mk.inj (Option.some.inj read)
    refine ⟨behind suffix, ?_, ?_⟩
    · rw [point_val small]
      exact fun same => absurd same high
    · rw [point_val small]
      exact fun _ => ⟨rfl, more, unit_⟩

theorem letters_plain : ∀ entry ∈ letters, isSurrogate entry.2 = false := by
  have table : letters.all fun entry => !isSurrogate entry.2 := by decide
  simpa using table

theorem char_half {text rest : Text} {c : CodePoint} (plain : hasSurrogate text = false) (read : readChar text = some (c, rest)) :
    Half text c rest := by
  cases text with
  | nil => cases read
  | cons first others =>
    rw [readChar] at read
    by_cases marked : first = backslash
    · rw [if_pos marked] at read
      rw [marked]
      cases others with
      | nil => cases read
      | cons letter others =>
        rw [readEscape] at read
        by_cases unit_ : letter = 0x75
        · rw [if_pos unit_] at read
          rw [unit_]
          exact unit_half read
        · rw [if_neg unit_] at read
          obtain ⟨found, known, read⟩ := Option.map_eq_some_iff.mp read
          obtain ⟨rfl, rfl⟩ := Prod.mk.inj read
          obtain ⟨before, after, shape, -⟩ := List.lookup_eq_some_iff.mp known
          have member : (letter, found) ∈ letters := shape ▸ List.mem_append_right _ List.mem_cons_self
          exact plain_half ((List.suffix_cons _ _).trans (List.suffix_cons _ _)) (letters_plain _ member)
    rw [if_neg marked] at read
    split at read
    · cases read
    · obtain ⟨rfl, rfl⟩ := Prod.mk.inj (Option.some.inj read)
      rw [surrogate_cons, Bool.or_eq_false_iff] at plain
      exact plain_half (List.suffix_cons _ _) plain.1

/-- What is read of a text without lone surrogates holds no split pair. -/
theorem string_read {fuel : Nat} {text value rest : Text} (plain : hasSurrogate text = false)
    (read : scanString fuel text = some (value, rest)) : Unsplit value ∧ rest <:+ text := by
  induction fuel generalizing text value with
  | zero => cases read
  | succ fuel ih =>
    unfold scanString at read
    split at read
    · obtain ⟨rfl, rfl⟩ := Prod.mk.inj (Option.some.inj read)
      exact ⟨List.IsChain.nil, List.tail_suffix text⟩
    · simp only [Option.bind_eq_bind, Option.bind_eq_some_iff] at read
      obtain ⟨⟨c, behind⟩, char, ⟨more, last⟩, later, read⟩ := read
      obtain ⟨rfl, rfl⟩ := Prod.mk.inj (Option.some.inj read)
      have half := char_half plain char
      have plain := plain_suffix plain half.suffix
      obtain ⟨apart, suffix⟩ := ih plain later
      refine ⟨?_, suffix.trans half.suffix⟩
      cases more with
      | nil => exact List.IsChain.singleton c
      | cons d others =>
        refine List.isChain_cons_cons.mpr ⟨?_, apart⟩
        intro ⟨high, low⟩
        cases fuel with
        | zero => cases later
        | succ fuel =>
          unfold scanString at later
          split at later
          · cases later
          · simp only [Option.bind_eq_bind, Option.bind_eq_some_iff] at later
            obtain ⟨⟨e, after⟩, next, ⟨words, ends⟩, -, later⟩ := later
            obtain ⟨same, -⟩ := Prod.mk.inj (Option.some.inj later)
            obtain ⟨rfl, -⟩ := List.cons.inj same
            obtain ⟨unit_, behind_, hex⟩ := (char_half plain next).low low
            have alone := half.high high
            rw [readLow, if_pos unit_, hex] at alone
            have joined_ : joined c.val e.val = c := by
              have alone := Option.some.inj alone
              rw [if_pos low] at alone
              exact (Prod.mk.inj alone).1
            have big := joined_val high low
            simp only [isHigh, Bool.and_eq_true, decide_eq_true_eq] at high
            rw [joined_] at big
            omega

theorem setItem_keys (entries : List (Text × Value Number)) (key : Text) (value : Value Number) :
    (setItem entries key value).map Prod.fst =
      if key ∈ entries.map Prod.fst then entries.map Prod.fst else entries.map Prod.fst ++ [key] := by
  unfold setItem
  split
  · rw [List.map_map]
    apply List.map_congr_left
    intro entry _
    by_cases same : entry.1 = key
    · simp [same]
    · simp [same]
  · rw [List.map_append]
    rfl

theorem setItem_nodup {entries : List (Text × Value Number)} (keys : (entries.map Prod.fst).Nodup) (key : Text) (value : Value Number) :
    ((setItem entries key value).map Prod.fst).Nodup := by
  rw [setItem_keys]
  split
  · exact keys
  next fresh =>
    apply List.nodup_append.mpr
    refine ⟨keys, List.nodup_singleton key, ?_⟩
    intro old member other last
    rw [List.mem_singleton.mp last]
    exact fun same => fresh (same ▸ member)

theorem mem_setItem {entries : List (Text × Value Number)} {key : Text} {value : Value Number} {entry : Text × Value Number}
    (member : entry ∈ setItem entries key value) : entry ∈ entries ∨ entry = (key, value) := by
  unfold setItem at member
  split at member
  · obtain ⟨old, there, rfl⟩ := List.mem_map.mp member
    by_cases same : old.1 = key
    · exact .inr (if_pos same)
    · exact .inl (by rwa [if_neg same])
  · rcases List.mem_append.mp member with old | last
    · exact .inl old
    · exact .inr (List.mem_singleton.mp last)

theorem skip_suffix (text : Text) : skip text <:+ text := List.dropWhile_suffix _

theorem digits_suffix (text : Text) : (scanDigits text).2 <:+ text := by
  induction text with
  | nil => exact List.suffix_rfl
  | cons c rest ih =>
    unfold scanDigits
    split
    · exact ih.trans (List.suffix_cons c rest)
    · exact List.suffix_rfl

theorem fraction_suffix (text : Text) : (scanFraction text).2 <:+ text := by
  unfold scanFraction
  split
  · exact (digits_suffix _).trans (List.tail_suffix text)
  · exact List.suffix_rfl

theorem exponent_suffix (text : Text) : (scanExponent text).2 <:+ text := by
  have sign (text : Text) : (scanExponentSign text).2 <:+ text := by
    unfold scanExponentSign
    split
    · exact List.tail_suffix text
    split
    · exact List.tail_suffix text
    · exact List.suffix_rfl
  unfold scanExponent
  split
  · split
    next first rest after run =>
      have behind := digits_suffix (scanExponentSign text.tail).2
      rw [run] at behind
      exact (behind.trans (sign _)).trans (List.tail_suffix text)
    next => exact List.suffix_rfl
  · exact List.suffix_rfl

theorem decimal_suffix (negative : Bool) (lead : Fin 10) (text : Text) : (decimalOf negative lead text).2 <:+ text := by
  have digits : (if lead = 0 then (([], text) : List (Fin 10) × Text) else scanDigits text).2 <:+ text := by
    split
    · exact List.suffix_rfl
    · exact digits_suffix text
  exact (exponent_suffix _).trans ((fraction_suffix _).trans digits)

theorem number_read {text rest : Text} {n : Number} (read : scanNumber text = some (n, rest)) : Writable n ∧ rest <:+ text := by
  have sign : (scanSign text).2 <:+ text := by
    unfold scanSign
    split
    · exact List.tail_suffix text
    · exact List.suffix_rfl
  unfold scanNumber at read
  split at read
  · cases read
  next c more shape =>
    simp only [Option.bind_eq_bind, Option.bind_eq_some_iff] at read
    obtain ⟨lead, -, read⟩ := read
    split at read
    next short =>
      obtain ⟨rfl, rfl⟩ := Prod.mk.inj (Option.some.inj read)
      rw [shape] at sign
      exact ⟨short, (decimal_suffix _ _ _).trans ((List.suffix_cons c more).trans sign)⟩
    next => cases read

theorem name_read {text rest : Text} {value : Value Number} (read : scanName text = some (value, rest)) : Sound value ∧ rest <:+ text := by
  obtain ⟨entry, member, found⟩ := List.exists_of_findSome?_eq_some read
  split at found
  · obtain ⟨rfl, rfl⟩ := Prod.mk.inj (Option.some.inj found)
    refine ⟨?_, List.drop_suffix _ _⟩
    simp only [names, List.mem_cons, List.not_mem_nil, or_false] at member
    rcases member with rfl | rfl | rfl | rfl | rfl | rfl
    · exact .null
    · exact .bool true
    · exact .bool false
    all_goals exact .number trivial
  · cases found

def Taken (text : Text) (read : Value Number × Text) : Prop := Sound read.1 ∧ read.2 <:+ text

theorem Taken.of_suffix {text rest : Text} {read : Value Number × Text} (taken : Taken rest read) (suffix : rest <:+ text) : Taken text read :=
  ⟨taken.1, taken.2.trans suffix⟩

theorem tail_skip (text : Text) : (skip text).tail <:+ text := (List.tail_suffix _).trans (skip_suffix text)

theorem scan_taken (fuel : Nat) :
    (∀ text read, hasSurrogate text = false → scanOnce fuel text = some read → Taken text read) ∧
      (∀ entries text read, hasSurrogate text = false → Sound (.dict entries) → scanMembers fuel entries text = some read → Taken text read) ∧
        ∀ items text read, hasSurrogate text = false → Sound (.list items) → scanItems fuel items text = some read → Taken text read := by
  induction fuel with
  | zero =>
    refine ⟨?_, ?_, ?_⟩
    · intro text read _ scanned
      cases scanned
    · intro entries text read _ _ scanned
      cases scanned
    · intro items text read _ _ scanned
      cases scanned
  | succ fuel ih =>
    obtain ⟨once, members, items⟩ := ih
    refine ⟨?_, ?_, ?_⟩
    · intro text read plain scanned
      cases text with
      | nil => cases scanned
      | cons c rest =>
        have behind : rest <:+ c :: rest := List.suffix_cons c rest
        have opened : hasSurrogate (skip rest) = false := plain_suffix plain ((skip_suffix rest).trans behind)
        rw [scanOnce] at scanned
        split at scanned
        · obtain ⟨⟨value, after⟩, string, rfl⟩ := Option.map_eq_some_iff.mp scanned
          obtain ⟨apart, suffix⟩ := string_read (plain_suffix plain behind) string
          exact ⟨.text apart, suffix.trans behind⟩
        split at scanned
        · split at scanned
          · obtain rfl := Option.some.inj scanned
            refine ⟨.dict List.nodup_nil ?_ ?_, (tail_skip rest).trans behind⟩
            · intro entry member
              cases member
            · intro entry member
              cases member
          · have taken := members [] (skip rest) read opened (.dict List.nodup_nil (by simp) (by simp)) scanned
            exact taken.of_suffix ((skip_suffix rest).trans behind)
        split at scanned
        · split at scanned
          · obtain rfl := Option.some.inj scanned
            exact ⟨.list (by simp), (tail_skip rest).trans behind⟩
          · have taken := items [] (skip rest) read opened (.list (by simp)) scanned
            exact taken.of_suffix ((skip_suffix rest).trans behind)
        · rcases Option.or_eq_some_iff.mp scanned with name | ⟨-, number⟩
          · exact name_read name
          · obtain ⟨⟨n, after⟩, found, rfl⟩ := Option.map_eq_some_iff.mp number
            obtain ⟨writable, suffix⟩ := number_read found
            exact ⟨.number writable, suffix⟩
    · intro entries text read plain sound scanned
      rw [scanMembers] at scanned
      split at scanned
      · simp only [Option.bind_eq_bind, Option.bind_eq_some_iff] at scanned
        obtain ⟨⟨key, rest⟩, string, scanned⟩ := scanned
        obtain ⟨apart, suffix⟩ := string_read (plain_suffix plain (List.tail_suffix text)) string
        have first : rest <:+ text := suffix.trans (List.tail_suffix text)
        split at scanned
        · simp only [Option.bind_eq_some_iff] at scanned
          obtain ⟨⟨value, after⟩, second, scanned⟩ := scanned
          have third : skip (skip rest).tail <:+ text := (skip_suffix _).trans ((tail_skip rest).trans first)
          obtain ⟨valued, behind⟩ := once _ _ (plain_suffix plain third) second
          have last : after <:+ text := behind.trans third
          have grown : Sound (.dict (setItem entries key value)) := by
            cases sound with
            | dict keys words each =>
              refine .dict (setItem_nodup keys key value) ?_ ?_
              · intro entry member
                rcases mem_setItem member with old | rfl
                · exact words entry old
                · exact apart
              · intro entry member
                rcases mem_setItem member with old | rfl
                · exact each entry old
                · exact valued
          split at scanned
          · obtain rfl := Option.some.inj scanned
            exact ⟨grown, (tail_skip after).trans last⟩
          split at scanned
          · have next : skip (skip after).tail <:+ text := (skip_suffix _).trans ((tail_skip after).trans last)
            exact (members _ _ _ (plain_suffix plain next) grown scanned).of_suffix next
          · cases scanned
        · cases scanned
      · cases scanned
    · intro done text read plain sound scanned
      rw [scanItems] at scanned
      simp only [Option.bind_eq_bind, Option.bind_eq_some_iff] at scanned
      obtain ⟨⟨item, after⟩, first, scanned⟩ := scanned
      obtain ⟨valued, last⟩ := once _ _ plain first
      have grown : Sound (.list (done ++ [item])) := by
        cases sound with
        | list each =>
          refine .list fun other member => ?_
          rcases List.mem_append.mp member with old | new
          · exact each other old
          · exact List.mem_singleton.mp new ▸ valued
      split at scanned
      · obtain rfl := Option.some.inj scanned
        exact ⟨grown, (tail_skip after).trans last⟩
      split at scanned
      · have next : skip (skip after).tail <:+ text := (skip_suffix _).trans ((tail_skip after).trans last)
        exact (items _ _ _ (plain_suffix plain next) grown scanned).of_suffix next
      · cases scanned

/-- The values of JSON: what is read of a text without lone surrogates. -/
def IsJson (value : Value Number) : Prop := ∃ text, hasSurrogate text = false ∧ loads text = some value

theorem isJson_iff {value : Value Number} : IsJson value ↔ Sound value := by
  constructor
  · intro ⟨text, plain, read⟩
    simp only [loads, Option.bind_eq_bind, Option.bind_eq_some_iff] at read
    obtain ⟨⟨found, rest⟩, scanned, read⟩ := read
    split at read
    · obtain rfl := Option.some.inj read
      exact ((scan_taken _).1 _ _ (plain_suffix plain (skip_suffix text)) scanned).1
    · cases read
  · intro sound
    exact ⟨_, ascii_plain (dumps_ascii number_ascii value), loads_dumps sound⟩

end Reads

end JsonLoads
