import Mathlib.Data.List.Basic
import Mathlib.Algebra.GroupWithZero.Nat
import Mathlib.Order.Fin.Basic

/-! Strings as Python has them, sequences of code points in which a lone surrogate may stand, and UTF-8,
which has no bytes for one. A decoder is given what it reads for an error. -/

namespace CodePoints

abbrev CodePoint := Fin 0x110000

instance (priority := 2000) neZero : NeZero 0x110000 := ⟨by decide⟩

abbrev Text := List CodePoint

def lit (text : String) : Text := text.toList.map fun c => Fin.ofNat 0x110000 c.toNat

def isSurrogate (c : CodePoint) : Bool := 0xd800 ≤ c.val && c.val < 0xe000

def hasSurrogate (text : Text) : Bool := text.any isSurrogate

def width (c : CodePoint) : Nat :=
  if c.val < 0x80 then 1 else if c.val < 0x800 then 2 else if c.val < 0x10000 then 3 else 4

def bytes (c : CodePoint) : List Nat :=
  if c.val < 0x80 then [c.val]
  else if c.val < 0x800 then [0xc0 + c.val / 64, 0x80 + c.val % 64]
  else if c.val < 0x10000 then [0xe0 + c.val / 4096, 0x80 + c.val / 64 % 64, 0x80 + c.val % 64]
  else [0xf0 + c.val / 262144, 0x80 + c.val / 4096 % 64, 0x80 + c.val / 64 % 64, 0x80 + c.val % 64]

/-- The bytes of a text, or `UnicodeEncodeError`. -/
def encode (text : Text) : Option (List Nat) := if hasSurrogate text then none else some (text.flatMap bytes)

def size (text : Text) : Nat := (text.map width).sum

/-- A character of several bytes that is being read: how many bytes are still owed, the bits so far,
and between which bytes the next one lies. -/
structure Unfinished where
  owed : Nat
  bits : Nat
  low : Nat
  high : Nat

section Decoder
variable (errors : Text)

/-- The first byte of a character, with what an error is read as. -/
def opening (byte : Nat) : Text × Option Unfinished :=
  if byte < 0x80 then ([Fin.ofNat 0x110000 byte], none)
  else if byte < 0xc2 then (errors, none)
  else if byte < 0xe0 then ([], some ⟨1, byte - 0xc0, 0x80, 0xbf⟩)
  else if byte < 0xf0 then
    ([], some ⟨2, byte - 0xe0, if byte = 0xe0 then 0xa0 else 0x80, if byte = 0xed then 0x9f else 0xbf⟩)
  else if byte < 0xf5 then
    ([], some ⟨3, byte - 0xf0, if byte = 0xf0 then 0x90 else 0x80, if byte = 0xf4 then 0x8f else 0xbf⟩)
  else (errors, none)

/-- One byte: one that does not go on with what is pending ends it, and begins anew. -/
def accept (pending : Option Unfinished) (byte : Nat) : Text × Option Unfinished :=
  match pending with
  | none => opening errors byte
  | some held =>
    if held.low ≤ byte ∧ byte ≤ held.high then
      let bits := held.bits * 64 + (byte - 0x80)
      if held.owed ≤ 1 then ([Fin.ofNat 0x110000 bits], none) else ([], some ⟨held.owed - 1, bits, 0x80, 0xbf⟩)
    else (errors ++ (opening errors byte).1, (opening errors byte).2)

def decodeFrom (pending : Option Unfinished) : List Nat → Text
  | [] => if pending.isSome then errors else []
  | byte :: rest => (accept errors pending byte).1 ++ decodeFrom (accept errors pending byte).2 rest

end Decoder

/-- `decode("utf-8", errors="ignore")`. -/
def decodeIgnore (octets : List Nat) : Text := decodeFrom [] none octets

def replacement : CodePoint := 0xfffd

/-- `decode("utf-8", errors="replace")`. -/
def decodeReplace (octets : List Nat) : Text := decodeFrom [replacement] none octets

/-- The value of a hexadecimal digit in either case. -/
def readHex (c : CodePoint) : Option Nat :=
  if 0x30 ≤ c.val ∧ c.val ≤ 0x39 then some (c.val - 0x30)
  else if 0x41 ≤ c.val ∧ c.val ≤ 0x46 then some (c.val - 0x37)
  else if 0x61 ≤ c.val ∧ c.val ≤ 0x66 then some (c.val - 0x57)
  else none

/-- The characters from the front that fit into a number of bytes. -/
def fitting : Nat → Text → Text
  | _, [] => []
  | room, c :: rest => if width c ≤ room then c :: fitting (room - width c) rest else []

section Sizes
variable {first second : Text} {c : CodePoint}

theorem bytes_length (c : CodePoint) : (bytes c).length = width c := by
  unfold bytes width
  split
  · rfl
  split
  · rfl
  split
  · rfl
  · rfl

theorem width_pos (c : CodePoint) : 0 < width c := by
  unfold width
  repeat' split
  all_goals omega

@[simp] theorem size_nil : size [] = 0 := rfl

@[simp] theorem size_cons (c : CodePoint) (rest : Text) : size (c :: rest) = width c + size rest := rfl

@[simp] theorem size_append (first second : Text) : size (first ++ second) = size first + size second := by
  unfold size
  rw [List.map_append, List.sum_append]

theorem octets_length (text : Text) : (text.flatMap bytes).length = size text := by
  induction text with
  | nil => rfl
  | cons c rest ih => rw [List.flatMap_cons, List.length_append, bytes_length, ih, size_cons]

/-- The bytes of a text without surrogates are as many as its size. -/
theorem encode_length {text : Text} {octets : List Nat} (encoded : encode text = some octets) : octets.length = size text := by
  unfold encode at encoded
  split at encoded
  · cases encoded
  · cases encoded
    exact octets_length text

@[simp] theorem surrogate_append (first second : Text) :
    hasSurrogate (first ++ second) = (hasSurrogate first || hasSurrogate second) := List.any_append

end Sizes

section Cutting

theorem fitting_front (room : Nat) (text : Text) : fitting room text <+: text := by
  induction text generalizing room with
  | nil => exact List.prefix_refl []
  | cons c rest ih =>
    unfold fitting
    split
    · exact (List.prefix_cons_inj c).mpr (ih _)
    · exact List.nil_prefix

section Decoding
variable {errors : Text}

theorem decode_ascii {byte : Nat} (low : byte < 0x80) (rest : List Nat) :
    decodeFrom errors none (byte :: rest) = Fin.ofNat 0x110000 byte :: decodeFrom errors none rest := by
  simp only [decodeFrom, accept, opening, if_pos low, List.singleton_append]

theorem decode_two {byte : Nat} (first : 0xc2 ≤ byte) (last : byte < 0xe0) (rest : List Nat) :
    decodeFrom errors none (byte :: rest) = decodeFrom errors (some ⟨1, byte - 0xc0, 0x80, 0xbf⟩) rest := by
  have high : ¬ byte < 0x80 := by omega
  have start : ¬ byte < 0xc2 := by omega
  simp only [decodeFrom, accept, opening, if_neg high, if_neg start, if_pos last, List.nil_append]

theorem decode_three {byte : Nat} (first : 0xe0 ≤ byte) (last : byte < 0xf0) (rest : List Nat) :
    decodeFrom errors none (byte :: rest) =
      decodeFrom errors (some ⟨2, byte - 0xe0, if byte = 0xe0 then 0xa0 else 0x80, if byte = 0xed then 0x9f else 0xbf⟩) rest := by
  have high : ¬ byte < 0x80 := by omega
  have start : ¬ byte < 0xc2 := by omega
  have long : ¬ byte < 0xe0 := by omega
  simp only [decodeFrom, accept, opening, if_neg high, if_neg start, if_neg long, if_pos last, List.nil_append]

theorem decode_four {byte : Nat} (first : 0xf0 ≤ byte) (last : byte < 0xf5) (rest : List Nat) :
    decodeFrom errors none (byte :: rest) =
      decodeFrom errors (some ⟨3, byte - 0xf0, if byte = 0xf0 then 0x90 else 0x80, if byte = 0xf4 then 0x8f else 0xbf⟩) rest := by
  have high : ¬ byte < 0x80 := by omega
  have start : ¬ byte < 0xc2 := by omega
  have long : ¬ byte < 0xe0 := by omega
  have longer : ¬ byte < 0xf0 := by omega
  simp only [decodeFrom, accept, opening, if_neg high, if_neg start, if_neg long, if_neg longer, if_pos last, List.nil_append]

theorem decode_more {held : Unfinished} {six : Nat} (low : held.low ≤ 0x80 + six) (high : 0x80 + six ≤ held.high) (rest : List Nat) :
    decodeFrom errors (some held) ((0x80 + six) :: rest) =
      if held.owed ≤ 1 then Fin.ofNat 0x110000 (held.bits * 64 + six) :: decodeFrom errors none rest
      else decodeFrom errors (some ⟨held.owed - 1, held.bits * 64 + six, 0x80, 0xbf⟩) rest := by
  simp only [decodeFrom, accept, if_pos (And.intro low high), Nat.add_sub_cancel_left]
  split
  · rfl
  · rfl

/-- The bytes of a character give it back, whatever follows. -/
theorem decode_bytes (c : CodePoint) (plain : isSurrogate c = false) (more : List Nat) :
    decodeFrom errors none (bytes c ++ more) = c :: decodeFrom errors none more := by
  have bound := c.isLt
  have scalar : c.val < 0xd800 ∨ 0xe000 ≤ c.val := by
    simp only [isSurrogate, Bool.and_eq_false_iff, decide_eq_false_iff_not] at plain
    omega
  have whole {bits : Nat} (same : bits = c.val) : Fin.ofNat 0x110000 bits = c := by
    subst same
    exact Fin.ofNat_val_eq_self c
  unfold bytes
  split
  next ascii =>
    rw [List.singleton_append, decode_ascii ascii, whole rfl]
  split
  next two =>
    rw [List.cons_append, List.singleton_append, decode_two (by omega) (by omega),
      decode_more (by dsimp only; omega) (by dsimp only; omega), if_pos (by dsimp only; omega), whole (by dsimp only; omega)]
  split
  next three =>
    rw [List.cons_append, List.cons_append, List.singleton_append, decode_three (by omega) (by omega),
      decode_more (by dsimp only; split <;> omega) (by dsimp only; split <;> omega), if_neg (by dsimp only; omega),
      decode_more (by dsimp only; omega) (by dsimp only; omega), if_pos (by dsimp only; omega), whole (by dsimp only; omega)]
  next four =>
    rw [List.cons_append, List.cons_append, List.cons_append, List.singleton_append, decode_four (by omega) (by omega),
      decode_more (by dsimp only; split <;> omega) (by dsimp only; split <;> omega), if_neg (by dsimp only; omega),
      decode_more (by dsimp only; omega) (by dsimp only; omega), if_neg (by dsimp only; omega),
      decode_more (by dsimp only; omega) (by dsimp only; omega), if_pos (by dsimp only; omega), whole (by dsimp only; omega)]

/-- Fewer bytes than a character needs are an error, or none at all. -/
theorem decode_short (c : CodePoint) (plain : isSurrogate c = false) {room : Nat} (short : room < width c) :
    decodeFrom errors none ((bytes c).take room) = if room = 0 then [] else errors := by
  have bound := c.isLt
  have scalar : c.val < 0xd800 ∨ 0xe000 ≤ c.val := by
    simp only [isSurrogate, Bool.and_eq_false_iff, decide_eq_false_iff_not] at plain
    omega
  unfold bytes
  unfold width at short
  split at short
  next ascii =>
    rw [show room = 0 by omega]
    rfl
  split at short
  next wide two =>
    rw [if_neg wide, if_pos two]
    rcases (by omega : room = 0 ∨ room = 1) with rfl | rfl
    · rfl
    · rw [List.take_succ_cons, decode_two (by omega) (by omega)]
      rfl
  split at short
  next wide wider three =>
    rw [if_neg wide, if_neg wider, if_pos three]
    rcases (by omega : room = 0 ∨ room = 1 ∨ room = 2) with rfl | rfl | rfl
    · rfl
    · rw [List.take_succ_cons, decode_three (by omega) (by omega)]
      rfl
    · rw [List.take_succ_cons, List.take_succ_cons, decode_three (by omega) (by omega),
        decode_more (by dsimp only; split <;> omega) (by dsimp only; split <;> omega), if_neg (by dsimp only; omega)]
      rfl
  next wide wider widest =>
    rw [if_neg wide, if_neg wider, if_neg widest]
    rcases (by omega : room = 0 ∨ room = 1 ∨ room = 2 ∨ room = 3) with rfl | rfl | rfl | rfl
    · rfl
    · rw [List.take_succ_cons, decode_four (by omega) (by omega)]
      rfl
    · rw [List.take_succ_cons, List.take_succ_cons, decode_four (by omega) (by omega),
        decode_more (by dsimp only; split <;> omega) (by dsimp only; split <;> omega), if_neg (by dsimp only; omega)]
      rfl
    · rw [List.take_succ_cons, List.take_succ_cons, List.take_succ_cons, decode_four (by omega) (by omega),
        decode_more (by dsimp only; split <;> omega) (by dsimp only; split <;> omega), if_neg (by dsimp only; omega),
        decode_more (by dsimp only; omega) (by dsimp only; omega), if_neg (by dsimp only; omega)]
      rfl

theorem decode_text {text : Text} (plain : hasSurrogate text = false) : decodeFrom errors none (text.flatMap bytes) = text := by
  induction text with
  | nil => rfl
  | cons c rest ih =>
    obtain ⟨first, others⟩ := Bool.or_eq_false_iff.mp plain
    rw [List.flatMap_cons, decode_bytes c first]
    exact congrArg (c :: ·) (ih others)

end Decoding

/-- Cutting the bytes and ignoring what is left of the last character cuts at a character. -/
theorem decode_take {text : Text} {octets : List Nat} (encoded : encode text = some octets) (room : Nat) :
    decodeIgnore (octets.take room) = fitting room text := by
  unfold encode at encoded
  split at encoded
  · cases encoded
  next clean =>
    cases encoded
    have plain : ∀ c ∈ text, isSurrogate c = false := by simpa [hasSurrogate] using clean
    clear clean
    unfold decodeIgnore
    induction text generalizing room with
    | nil => simp [fitting, decodeFrom]
    | cons c rest ih =>
      rw [List.flatMap_cons]
      unfold fitting
      split
      next fits =>
        rw [List.take_append, bytes_length, List.take_of_length_le (by rw [bytes_length]; exact fits),
          decode_bytes c (plain c List.mem_cons_self), ih _ fun other later => plain other (List.mem_cons_of_mem c later)]
      next full =>
        have short : room < width c := by omega
        rw [List.take_append_of_le_length (by rw [bytes_length]; omega), decode_short c (plain c List.mem_cons_self) short]
        exact ite_self []

end Cutting

end CodePoints
