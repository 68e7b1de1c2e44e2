import Mathlib.Algebra.Group.Nat.Defs
import Mathlib.Data.Rat.Defs

/-! JSON values as Python holds them after decoding: truth, lookup in a mapping,
the value of a number, and the two operations that fail on some values,
iteration and hashing. -/

/-- A number is an integer or the text of a floating-point value. -/
inductive Json where
  | null
  | bool (value : Bool)
  | int (value : Int)
  | float (text : String)
  | str (value : String)
  | arr (items : List Json)
  | obj (entries : List (String × Json))

namespace Json

/-- `TypeError`: the value cannot be iterated or hashed. -/
inductive TypeFailure where
  | notIterable | unhashable
  deriving DecidableEq, Repr

def truthy : Json → Bool
  | .null => false
  | .bool value => value
  | .int value => value ≠ 0
  | .float text => text ≠ "0.0" ∧ text ≠ "-0.0"
  | .str value => value ≠ ""
  | .arr items => !items.isEmpty
  | .obj entries => !entries.isEmpty

def isObj : Json → Bool
  | .obj _ => true
  | _ => false

def get (json : Json) (key : String) : Json :=
  match json with
  | .obj entries => (entries.lookup key).getD .null
  | _ => .null

def getD (json : Json) (key : String) (default : Json) : Json :=
  match json with
  | .obj entries => (entries.lookup key).getD default
  | _ => default

def hasKey (json : Json) (key : String) : Bool :=
  match json with
  | .obj entries => (entries.lookup key).isSome
  | _ => false

/-- The value itself when it is a mapping, and an empty mapping otherwise. -/
def asObj (json : Json) : Json := if json.isObj then json else .obj []

def isStr (json : Json) (text : String) : Bool :=
  match json with
  | .str value => value == text
  | _ => false

def isNull : Json → Bool
  | .null => true
  | _ => false

def isTrue : Json → Bool
  | .bool value => value
  | _ => false

def digits (text : List Char) : Option Nat :=
  if text = [] ∨ text.any fun c => !c.isDigit then none
  else some (text.foldl (fun value c => 10 * value + (c.toNat - '0'.toNat)) 0)

def signed (text : List Char) : Bool × List Char :=
  match text with
  | '-' :: rest => (true, rest)
  | '+' :: rest => (false, rest)
  | rest => (false, rest)

/-- A mantissa such as `12.5`. -/
def mantissa (text : List Char) : Option Rat :=
  let whole := text.takeWhile (· ≠ '.')
  let fraction := (text.dropWhile (· ≠ '.')).drop 1
  (digits (whole ++ fraction)).map fun value => (value : Rat) / (10 ^ fraction.length : Nat)

/-- The value of a floating-point literal such as `-1.5e-05`. -/
def decimal (text : String) : Option Rat := do
  let (negative, unsigned) := signed text.toList
  let value ← mantissa (unsigned.takeWhile fun c => c ≠ 'e' ∧ c ≠ 'E')
  let magnitude ← match unsigned.dropWhile fun c => c ≠ 'e' ∧ c ≠ 'E' with
    | [] => some value
    | _ :: exponent =>
      let (down, places) := signed exponent
      (digits places).map fun power => if down then value / (10 ^ power : Nat) else value * (10 ^ power : Nat)
  return if negative then -magnitude else magnitude

/-- The value of a number. A truth value counts as one, as Python's does. -/
def number : Json → Option Rat
  | .bool value => some (if value then 1 else 0)
  | .int value => some value
  | .float text => decimal text
  | _ => none

def text : Json → Option String
  | .str value => some value
  | _ => none

/-- `for item in value or []`: a mapping yields its keys and a string its characters. -/
def items (json : Json) : Except TypeFailure (List Json) :=
  if !json.truthy then .ok []
  else
    match json with
    | .arr items => .ok items
    | .obj entries => .ok (entries.map fun entry => .str entry.1)
    | .str value => .ok (value.toList.map fun c => .str (String.singleton c))
    | _ => .error .notIterable

def hashable (json : Json) : Except TypeFailure Json :=
  match json with
  | .arr _ | .obj _ => .error .unhashable
  | _ => .ok json

/-- `value in frozenset(names)` for a set of strings. -/
def memberOf (json : Json) (names : List String) : Except TypeFailure Bool := do
  let member ← json.hashable
  return names.any member.isStr

end Json
