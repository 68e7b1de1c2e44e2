import Mathlib.Data.Nat.Digits.Lemmas
import Sprintable.Logic.PyText

/-! The text of a UUID and its reading back: 32 hex digits in five groups, from which the number is
read again. -/

namespace PyText

structure Uuid where
  number : Nat
  bound : number < 16 ^ 32
  deriving DecidableEq, Repr

/-- `str(uuid)`. -/
def Uuid.text (uuid : Uuid) : String := uuidText uuid.number

def IsHex (c : Char) : Prop := ∃ digit < 16, c = Nat.digitChar digit

section Digits

theorem hexValue_digitChar {digit : Nat} (small : digit < 16) : hexValue (Nat.digitChar digit) = some digit := by
  have all : ∀ digit : Fin 16, hexValue (Nat.digitChar digit) = some digit.val := by decide
  exact all ⟨digit, small⟩

theorem isHex_not {c : Char} (hex : IsHex c) : c ≠ '-' ∧ c ≠ 'u' ∧ c ≠ '|' ∧ c.toNat ≠ 0x7b ∧ c.toNat ≠ 0x7d := by
  have all : ∀ digit : Fin 16, Nat.digitChar digit ≠ '-' ∧ Nat.digitChar digit ≠ 'u' ∧ Nat.digitChar digit ≠ '|' ∧
      (Nat.digitChar digit).toNat ≠ 0x7b ∧ (Nat.digitChar digit).toNat ≠ 0x7d := by decide
  obtain ⟨digit, small, rfl⟩ := hex
  exact all ⟨digit, small⟩

/-- The digits of a number, with the zeros in front. -/
def hexValues (width n : Nat) : List Nat :=
  List.replicate (width - (Nat.digits 16 n).length) 0 ++ (Nat.digits 16 n).reverse

theorem hexDigits_eq (width n : Nat) : hexDigits width n = (hexValues width n).map Nat.digitChar := by
  simp [hexDigits, hexValues, Nat.digitChar]

theorem hexValues_small {width n digit : Nat} (member : digit ∈ hexValues width n) : digit < 16 := by
  rcases List.mem_append.mp member with zero | rest
  · rw [List.eq_of_mem_replicate zero]
    omega
  · exact Nat.digits_lt_base (by omega) (List.mem_reverse.mp rest)

theorem hexValues_length {width n : Nat} (bound : n < 16 ^ width) : (hexValues width n).length = width := by
  have short : (Nat.digits 16 n).length ≤ width := (Nat.digits_length_le_iff (by omega) n).mpr bound
  simp only [hexValues, List.length_append, List.length_replicate, List.length_reverse]
  omega

theorem hexValues_read (width n : Nat) : (hexValues width n).foldl (fun n digit => n * 16 + digit) 0 = n := by
  have zeros : ∀ count, (List.replicate count 0).foldl (fun n digit => n * 16 + digit) 0 = 0 := by
    intro count
    induction count with
    | zero => rfl
    | succ count ih => simpa [List.replicate_succ] using ih
  have read := Nat.ofDigits_eq_foldr 16 (Nat.digits 16 n)
  rw [Nat.ofDigits_digits] at read
  rw [hexValues, List.foldl_append, zeros, List.foldl_reverse]
  conv_rhs => rw [read]
  congr 1
  funext digit rest
  simp only [Nat.cast_id]
  omega

theorem digitChar_plain {digit : Nat} (small : digit < 16) : isSpace (Nat.digitChar digit) = false ∧
    Nat.digitChar digit ≠ '+' ∧ Nat.digitChar digit ≠ '_' ∧ Nat.digitChar digit ≠ 'x' ∧ Nat.digitChar digit ≠ 'X' := by
  have all : ∀ digit : Fin 16, isSpace (Nat.digitChar digit) = false ∧ Nat.digitChar digit ≠ '+' ∧ Nat.digitChar digit ≠ '_' ∧
      Nat.digitChar digit ≠ 'x' ∧ Nat.digitChar digit ≠ 'X' := by decide
  exact all ⟨digit, small⟩

theorem hexNumber_digits {digits : List Nat} (small : ∀ digit ∈ digits, digit < 16) (value : Nat) :
    hexNumber value true (digits.map Nat.digitChar) = some (digits.foldl (fun n digit => n * 16 + digit) value) := by
  induction digits generalizing value with
  | nil => rfl
  | cons digit rest ih =>
    have first := small digit List.mem_cons_self
    rw [List.map_cons, hexNumber, if_neg (digitChar_plain first).2.2.1, hexValue_digitChar first, Option.bind_some]
    exact ih (fun other member => small other (List.mem_cons_of_mem digit member)) _

theorem dropWhile_free {p : Char → Bool} {text : List Char} (free : ∀ c ∈ text, p c = false) : text.dropWhile p = text := by
  cases text with
  | nil => rfl
  | cons c rest => simp [free c List.mem_cons_self]

theorem readInt16_digits {digits : List Nat} (small : ∀ digit ∈ digits, digit < 16) (some_ : digits ≠ []) :
    readInt16 (digits.map Nat.digitChar) = some (digits.foldl (fun n digit => n * 16 + digit) 0) := by
  have plain : ∀ c ∈ digits.map Nat.digitChar, isSpace c = false ∧ c ≠ '+' ∧ c ≠ '_' ∧ c ≠ 'x' ∧ c ≠ 'X' := by
    intro c member
    obtain ⟨digit, listed, rfl⟩ := List.mem_map.mp member
    exact digitChar_plain (small digit listed)
  have front : (digits.map Nat.digitChar).dropWhile isSpace = digits.map Nat.digitChar :=
    dropWhile_free fun c member => (plain c member).1
  have back : (digits.map Nat.digitChar).reverse.dropWhile isSpace = (digits.map Nat.digitChar).reverse :=
    dropWhile_free fun c member => (plain c (List.mem_reverse.mp member)).1
  have unsigned : (digits.map Nat.digitChar).head? ≠ some '+' :=
    fun sign => (plain '+' (List.mem_of_mem_head? sign)).2.1 rfl
  have unprefixed : ∀ x, x = 'x' ∨ x = 'X' → (digits.map Nat.digitChar).take 2 ≠ ['0', x] := by
    rintro x either same
    have member : x ∈ digits.map Nat.digitChar := List.mem_of_mem_take (same ▸ by simp : x ∈ (digits.map Nat.digitChar).take 2)
    rcases either with rfl | rfl
    · exact (plain 'x' member).2.2.2.1 rfl
    · exact (plain 'X' member).2.2.2.2 rfl
  unfold readInt16
  simp only [front, back, List.reverse_reverse, if_neg unsigned, unprefixed 'x' (.inl rfl), unprefixed 'X' (.inr rfl), or_self, if_false]
  cases digits with
  | nil => exact absurd rfl some_
  | cons digit rest =>
    have first := small digit List.mem_cons_self
    rw [List.map_cons, hexNumber, if_neg (digitChar_plain first).2.2.1, hexValue_digitChar first, Option.bind_some]
    exact hexNumber_digits (fun other member => small other (List.mem_cons_of_mem digit member)) _

end Digits

section Texts
variable (n : Nat)

theorem uuidText_toList : (uuidText n).toList =
    (hexDigits 32 n).take 8 ++ '-' :: (((hexDigits 32 n).drop 8).take 4 ++ '-' :: (((hexDigits 32 n).drop 12).take 4 ++
      '-' :: (((hexDigits 32 n).drop 16).take 4 ++ '-' :: ((hexDigits 32 n).drop 20).take 12))) := by
  simp [uuidText]

theorem hexDigits_hex {width : Nat} {c : Char} (member : c ∈ hexDigits width n) : IsHex c := by
  rw [hexDigits_eq] at member
  obtain ⟨digit, listed, rfl⟩ := List.mem_map.mp member
  exact ⟨digit, hexValues_small listed, rfl⟩

theorem uuidText_chars {c : Char} (member : c ∈ (uuidText n).toList) : c = '-' ∨ IsHex c := by
  have group : ∀ from_ count, c ∈ ((hexDigits 32 n).drop from_).take count → IsHex c :=
    fun _ _ listed => hexDigits_hex n (List.mem_of_mem_drop (List.mem_of_mem_take listed))
  rw [uuidText_toList] at member
  simp only [List.mem_append, List.mem_cons] at member
  rcases member with first | dash | second | dash | third | dash | fourth | dash | fifth
  · exact .inr (group 0 8 first)
  · exact .inl dash
  · exact .inr (group 8 4 second)
  · exact .inl dash
  · exact .inr (group 12 4 third)
  · exact .inl dash
  · exact .inr (group 16 4 fourth)
  · exact .inl dash
  · exact .inr (group 20 12 fifth)

theorem without_absent {c : Char} {pattern text : List Char} (absent : c ∉ text) : without (c :: pattern) 0 text = text := by
  induction text with
  | nil => rfl
  | cons head rest ih =>
    have other : c ≠ head := fun same => absent (same ▸ List.mem_cons_self)
    have later : c ∉ rest := fun member => absent (List.mem_cons_of_mem head member)
    simp [without, other, ih later]

theorem hexDigits_length {n : Nat} (bound : n < 16 ^ 32) : (hexDigits 32 n).length = 32 := by
  rw [hexDigits_eq, List.length_map, hexValues_length bound]

theorem uuidText_digits {n : Nat} (bound : n < 16 ^ 32) : (uuidText n).toList.filter (· ≠ '-') = hexDigits 32 n := by
  have group : ∀ from_ count, (((hexDigits 32 n).drop from_).take count).filter (· ≠ '-') =
      ((hexDigits 32 n).drop from_).take count := by
    intro from_ count
    apply List.filter_eq_self.mpr
    intro c listed
    have hex := hexDigits_hex n (List.mem_of_mem_drop (List.mem_of_mem_take listed))
    simpa using (isHex_not hex).1
  have first := group 0 8
  rw [List.drop_zero] at first
  have last : ((hexDigits 32 n).drop 20).take 12 = (hexDigits 32 n).drop 20 := by
    apply List.take_of_length_le
    rw [List.length_drop, hexDigits_length bound]
  rw [uuidText_toList]
  simp only [List.filter_append, List.filter_cons, ne_eq, not_true_eq_false, decide_false, Bool.false_eq_true, if_false]
  simp only [ne_eq] at group first
  rw [first, group, group, group, group, last]
  have joined : ∀ from_ count, ((hexDigits 32 n).drop from_).take count ++ (hexDigits 32 n).drop (from_ + count) =
      (hexDigits 32 n).drop from_ := by
    intro from_ count
    rw [← List.drop_drop, List.take_append_drop]
  rw [joined 16 4, joined 12 4, joined 8 4, List.take_append_drop]

/-- `uuid.UUID(str(uuid))`. -/
theorem uuidOf_text (uuid : Uuid) : uuidOf uuid.text = some uuid.number := by
  have chars : ∀ c ∈ uuid.text.toList, c ≠ 'u' ∧ (c.toNat == 0x7b || c.toNat == 0x7d) = false := by
    intro c member
    rcases uuidText_chars uuid.number member with rfl | hex
    · decide
    · obtain ⟨_, other, _, left, right⟩ := isHex_not hex
      exact ⟨other, by simp [left, right]⟩
  have absent : 'u' ∉ uuid.text.toList := fun member => (chars 'u' member).1 rfl
  have bare : without "uuid:".toList 0 (without "urn:".toList 0 uuid.text.toList) = uuid.text.toList := by
    have urn : without "urn:".toList 0 uuid.text.toList = uuid.text.toList := without_absent absent
    rw [urn]
    exact without_absent absent
  have front := dropWhile_free fun c member => (chars c member).2
  have back := dropWhile_free fun c member => (chars c (List.mem_reverse.mp member)).2
  have digits : uuid.text.toList.filter (· ≠ '-') = hexDigits 32 uuid.number := uuidText_digits uuid.bound
  have number : readInt16 (hexDigits 32 uuid.number) = some uuid.number := by
    rw [hexDigits_eq, readInt16_digits fun digit member => hexValues_small member, hexValues_read]
    exact List.ne_nil_of_length_pos (by rw [hexValues_length uuid.bound]; omega)
  simp only [uuidOf, bare, front, back, List.reverse_reverse, digits, hexDigits_length uuid.bound, if_true, number]

theorem Uuid.text_injective : Function.Injective Uuid.text := by
  intro first second same
  have numbers : first.number = second.number := by
    have read := congrArg uuidOf same
    rw [uuidOf_text, uuidOf_text] at read
    exact Option.some.inj read
  cases first
  cases second
  cases numbers
  rfl

end Texts

end PyText
