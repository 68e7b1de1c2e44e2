import Mathlib.Data.Nat.Digits.Defs

/-! The Python text operations that the services rely on: whitespace stripping,
lower-casing of ASCII names, and the textual form of a UUID. -/

namespace PyText

/-- `str.isspace` of one character. -/
def isSpace (c : Char) : Bool :=
  let n := c.toNat
  (9 ≤ n && n ≤ 13) || (28 ≤ n && n ≤ 32) || n == 0x85 || n == 0xA0 || n == 0x1680 ||
    (0x2000 ≤ n && n ≤ 0x200A) || n == 0x2028 || n == 0x2029 || n == 0x202F || n == 0x205F || n == 0x3000

def strip (text : String) : String :=
  String.ofList ((text.toList.dropWhile isSpace).reverse.dropWhile isSpace).reverse

/-- `text.lower()` of a text in ASCII, as repository names, modes and results are. -/
def lower (text : String) : String :=
  String.ofList (text.toList.map Char.toLower)

/-- `bool((text or "").strip())`. -/
def notBlank : Option String → Bool
  | none => false
  | some text => text.toList.any fun c => !isSpace c

/-- Python truth of an optional text. -/
def truthy : Option String → Bool
  | none => false
  | some text => text ≠ ""

def hexDigits (width n : Nat) : List Char :=
  let digits := (Nat.digits 16 n).reverse.map Nat.digitChar
  List.replicate (width - digits.length) '0' ++ digits

/-- `str(uuid)`: 32 hex digits in groups of 8, 4, 4, 4 and 12. -/
def uuidText (uuid : Nat) : String :=
  let digits := hexDigits 32 uuid
  let group := fun first count => String.ofList ((digits.drop first).take count)
  group 0 8 ++ "-" ++ group 8 4 ++ "-" ++ group 12 4 ++ "-" ++ group 16 4 ++ "-" ++ group 20 12

def hexValue (c : Char) : Option Nat :=
  if c.isDigit then some (c.toNat - '0'.toNat)
  else if 'a' ≤ c && c ≤ 'f' then some (c.toNat - 'a'.toNat + 10)
  else if 'A' ≤ c && c ≤ 'F' then some (c.toNat - 'A'.toNat + 10)
  else none

/-- Digits with single underscores between them. The value is that of the digits so far, and the
flag says that a digit came last. -/
def hexNumber (value : Nat) (digit : Bool) : List Char → Option Nat
  | [] => if digit then some value else none
  | c :: rest =>
    if c = '_' then if digit then hexNumber value false rest else none
    else (hexValue c).bind fun next => hexNumber (value * 16 + next) true rest

/-- `int(text, 16)` of a text without a minus sign. Digits of other scripts are not read. -/
def readInt16 (text : List Char) : Option Nat :=
  let bare := ((text.dropWhile isSpace).reverse.dropWhile isSpace).reverse
  let unsigned := if bare.head? = some '+' then bare.drop 1 else bare
  if unsigned.take 2 = ['0', 'x'] ∨ unsigned.take 2 = ['0', 'X'] then
    hexNumber 0 false (if (unsigned.drop 2).head? = some '_' then unsigned.drop 3 else unsigned.drop 2)
  else hexNumber 0 false unsigned

/-- `text.replace(pattern, "")` on characters. The count is what is left to skip of a match. -/
def without (pattern : List Char) : Nat → List Char → List Char
  | _, [] => []
  | skip + 1, _ :: rest => without pattern skip rest
  | 0, c :: rest =>
    if pattern.isPrefixOf (c :: rest) then without pattern (pattern.length - 1) rest else c :: without pattern 0 rest

/-- `uuid.UUID(text)`: the URN prefix, braces and hyphens are dropped, and what is left is 32
characters that spell a number. -/
def uuidOf (text : String) : Option Nat :=
  let bare := without "uuid:".toList 0 (without "urn:".toList 0 text.toList)
  let brace := fun c : Char => c.toNat == 0x7b || c.toNat == 0x7d
  let inner := ((bare.dropWhile brace).reverse.dropWhile brace).reverse
  let digits := inner.filter (· ≠ '-')
  if digits.length = 32 then readInt16 digits else none

end PyText
