import Sprintable.Logic.CodePoints

/-! Percent-encoding as `urllib` has it. A text is written by its bytes, and what is read of bytes that are
no UTF-8 is the replacement character; only what is written is read back. -/

namespace Percent

open CodePoints

def percent : CodePoint := 0x25

def plus : CodePoint := 0x2b

def space : CodePoint := 0x20

/-- The bytes of a run of ASCII. A percent sign without two digits behind it stands for itself. -/
def unquoteToBytes : Text → List Nat
  | [] => []
  | [c] => [c.val]
  | [c, d] => [c.val, d.val]
  | c :: d :: e :: rest =>
    if c = percent then
      match readHex d, readHex e with
      | some high, some low => (high * 16 + low) :: unquoteToBytes rest
      | _, _ => c.val :: unquoteToBytes (d :: e :: rest)
    else c.val :: unquoteToBytes (d :: e :: rest)

/-- `unquote`, with a run of ASCII that has been read. -/
def unquoteFrom (run : Text) : Text → Text
  | [] => decodeReplace (unquoteToBytes run)
  | c :: rest =>
    if c.val < 0x80 then unquoteFrom (run ++ [c]) rest
    else decodeReplace (unquoteToBytes run) ++ c :: unquoteFrom [] rest

def unquotePlus (text : Text) : Text := unquoteFrom [] (text.map fun c => if c = plus then space else c)

/-- Letters and digits of ASCII and `_.-~`. -/
def alwaysSafe (byte : Nat) : Bool :=
  (0x41 ≤ byte && byte ≤ 0x5a) || (0x61 ≤ byte && byte ≤ 0x7a) || (0x30 ≤ byte && byte ≤ 0x39) ||
    byte == 0x5f || byte == 0x2e || byte == 0x2d || byte == 0x7e

/-- A digit of a byte, in capitals. -/
def hexDigit (digit : Nat) : CodePoint := Fin.ofNat 0x110000 (if digit < 10 then 0x30 + digit else 0x37 + digit)

def quoteByte (byte : Nat) : Text :=
  if alwaysSafe byte then [Fin.ofNat 0x110000 byte]
  else if byte = 0x20 then [plus]
  else [percent, hexDigit (byte / 16), hexDigit (byte % 16)]

/-- `quote_plus` of a text without a surrogate. -/
def quoted (text : Text) : Text := (text.flatMap bytes).flatMap quoteByte

/-- `quote_plus`, or `UnicodeEncodeError`. -/
def quotePlus (text : Text) : Option Text := if hasSurrogate text then none else some (quoted text)

def amp : CodePoint := 0x26

def equals : CodePoint := 0x3d

def pieces (query : Text) : List Text := (query.splitOn amp).filter (· ≠ [])

/-- A parameter without an equals sign has an empty value. -/
def readPair (piece : Text) : Text × Text :=
  (unquotePlus (piece.takeWhile (· ≠ equals)), unquotePlus ((piece.dropWhile (· ≠ equals)).drop 1))

/-- `parse_qsl` with blank values. -/
def parseQsl (query : Text) : List (Text × Text) := (pieces query).map readPair

def encodePair (pair : Text × Text) : Option Text :=
  (quotePlus pair.1).bind fun name => (quotePlus pair.2).map fun value => name ++ equals :: value

def urlencode (query : List (Text × Text)) : Option Text := (query.mapM encodePair).map [amp].intercalate

section Quoting

/-- Without what separates names, values and parts of a link, and without blanks. -/
def isFormChar (c : CodePoint) : Bool := alwaysSafe c.val || c = plus || c = percent

theorem point_val {n : Nat} (small : n < 0x110000) : (Fin.ofNat 0x110000 n).val = n := Nat.mod_eq_of_lt small

theorem safe_small {byte : Nat} (safe : alwaysSafe byte = true) :
    byte < 0x80 ∧ byte ≠ 0x20 ∧ byte ≠ 0x25 ∧ byte ≠ 0x26 ∧ byte ≠ 0x2b ∧ byte ≠ 0x3d ∧ byte ≠ 0x3f ∧ byte ≠ 0x23 ∧ 0x20 < byte := by
  simp only [alwaysSafe, Bool.or_eq_true, Bool.and_eq_true, decide_eq_true_eq, beq_iff_eq] at safe
  omega

theorem hex_safe (n : Nat) : alwaysSafe (hexDigit (n % 16)).val = true := by
  have all : ∀ digit : Fin 16, alwaysSafe (hexDigit digit).val = true := by decide
  exact all ⟨n % 16, Nat.mod_lt n (by omega)⟩

theorem read_hex (n : Nat) : readHex (hexDigit (n % 16)) = some (n % 16) := by
  have all : ∀ digit : Fin 16, readHex (hexDigit digit) = some digit.val := by decide
  exact all ⟨n % 16, Nat.mod_lt n (by omega)⟩

theorem bytes_small (c : CodePoint) : ∀ byte ∈ bytes c, byte < 256 := by
  have bound := c.isLt
  intro byte member
  unfold bytes at member
  split at member
  · rw [List.mem_singleton.mp member]
    omega
  split at member
  · simp only [List.mem_cons, List.not_mem_nil, or_false] at member
    omega
  split at member
  · simp only [List.mem_cons, List.not_mem_nil, or_false] at member
    omega
  · simp only [List.mem_cons, List.not_mem_nil, or_false] at member
    omega

theorem high_digit {byte : Nat} (small : byte < 256) : byte / 16 = byte / 16 % 16 := by omega

theorem quote_form {byte : Nat} (small : byte < 256) : ∀ c ∈ quoteByte byte, isFormChar c = true := by
  intro c member
  unfold quoteByte at member
  unfold isFormChar
  split at member
  next safe =>
    rw [List.mem_singleton.mp member, point_val (by omega), safe]
    rfl
  split at member
  · rw [List.mem_singleton.mp member]
    rfl
  · rw [high_digit small] at member
    simp only [List.mem_cons, List.not_mem_nil, or_false] at member
    rcases member with rfl | rfl | rfl
    · rfl
    · rw [hex_safe]
      rfl
    · rw [hex_safe]
      rfl

theorem quoted_form (text : Text) : ∀ c ∈ quoted text, isFormChar c = true := by
  intro c member
  obtain ⟨byte, among, inner⟩ := List.mem_flatMap.mp member
  obtain ⟨d, -, listed⟩ := List.mem_flatMap.mp among
  exact quote_form (bytes_small d byte listed) c inner

/-- What separates the parts of a link is none of these characters. -/
theorem form_char {c : CodePoint} (form : isFormChar c = true) :
    c ≠ amp ∧ c ≠ equals ∧ c.val ≠ 0x3f ∧ c.val ≠ 0x23 ∧ 0x20 < c.val ∧ c.val < 0x80 := by
  simp only [isFormChar, Bool.or_eq_true, decide_eq_true_eq] at form
  rcases form with (safe | rfl) | rfl
  · obtain ⟨ascii, -, -, amp_, -, equals_, rest⟩ := safe_small safe
    exact ⟨fun same => amp_ (congrArg Fin.val same), fun same => equals_ (congrArg Fin.val same), rest.1, rest.2.1, rest.2.2, ascii⟩
  · decide
  · decide

end Quoting

section Reading

theorem unquote_plain {c : CodePoint} (plain : c ≠ percent) (rest : Text) : unquoteToBytes (c :: rest) = c.val :: unquoteToBytes rest := by
  rcases rest with _ | ⟨d, _ | ⟨e, more⟩⟩
  · rfl
  · rfl
  · rw [unquoteToBytes, if_neg plain]

/-- A byte is read back of what is written of it, once the sign for a space is one again. -/
theorem unquote_byte {byte : Nat} (small : byte < 256) (rest : Text) :
    unquoteToBytes ((quoteByte byte).map (fun c => if c = plus then space else c) ++ rest) = byte :: unquoteToBytes rest := by
  have kept {c : CodePoint} (safe : alwaysSafe c.val = true) : (if c = plus then space else c) = c := by
    have other : c ≠ plus := fun same => (safe_small safe).2.2.2.2.1 (congrArg Fin.val same)
    exact if_neg other
  unfold quoteByte
  split
  next safe =>
    have same := point_val (n := byte) (by omega)
    have other : Fin.ofNat 0x110000 byte ≠ percent := by
      intro equal
      exact (safe_small safe).2.2.1 (same.symm.trans (congrArg Fin.val equal))
    rw [List.map_cons, kept (same.symm ▸ safe), List.map_nil, List.singleton_append, unquote_plain other, same]
  split
  next blank =>
    subst blank
    exact unquote_plain (by decide) rest
  · rw [high_digit small, List.map_cons, List.map_cons, List.map_cons, kept (hex_safe _), kept (hex_safe _), List.map_nil,
      if_neg (by decide : percent ≠ plus), List.cons_append, List.cons_append, List.singleton_append, unquoteToBytes,
      if_pos rfl, read_hex, read_hex]
    dsimp only
    congr 1
    omega

theorem unquote_bytes {octets : List Nat} (small : ∀ byte ∈ octets, byte < 256) :
    unquoteToBytes ((octets.flatMap quoteByte).map fun c => if c = plus then space else c) = octets := by
  induction octets with
  | nil => rfl
  | cons byte rest ih =>
    rw [List.flatMap_cons, List.map_append, unquote_byte (small byte List.mem_cons_self),
      ih fun other later => small other (List.mem_cons_of_mem byte later)]

theorem unquote_ascii {text : Text} (ascii : ∀ c ∈ text, c.val < 0x80) (run : Text) :
    unquoteFrom run text = decodeReplace (unquoteToBytes (run ++ text)) := by
  induction text generalizing run with
  | nil => rw [unquoteFrom, List.append_nil]
  | cons c rest ih =>
    rw [unquoteFrom, if_pos (ascii c List.mem_cons_self), ih fun d later => ascii d (List.mem_cons_of_mem c later),
      List.append_assoc, List.singleton_append]

theorem unquote_quoted {text : Text} (plain : hasSurrogate text = false) : unquotePlus (quoted text) = text := by
  have ascii : ∀ c ∈ (quoted text).map fun c => if c = plus then space else c, c.val < 0x80 := by
    intro c member
    obtain ⟨d, among, rfl⟩ := List.mem_map.mp member
    split
    · decide
    · exact (form_char (quoted_form text d among)).2.2.2.2.2
  have small : ∀ byte ∈ text.flatMap bytes, byte < 256 := by
    intro byte member
    obtain ⟨c, -, listed⟩ := List.mem_flatMap.mp member
    exact bytes_small c byte listed
  rw [unquotePlus, unquote_ascii ascii, List.nil_append, quoted, unquote_bytes small, decodeReplace, decode_text plain]

end Reading

section Queries

def PlainPair (pair : Text × Text) : Prop := hasSurrogate pair.1 = false ∧ hasSurrogate pair.2 = false

def writtenPair (pair : Text × Text) : Text := quoted pair.1 ++ equals :: quoted pair.2

def writtenQuery (query : List (Text × Text)) : Text := [amp].intercalate (query.map writtenPair)

theorem encode_pair_iff {pair : Text × Text} {piece : Text} : encodePair pair = some piece ↔ PlainPair pair ∧ piece = writtenPair pair := by
  unfold encodePair quotePlus PlainPair
  cases hasSurrogate pair.1 <;> cases hasSurrogate pair.2 <;> simp [writtenPair, eq_comm]

theorem encode_pairs_iff {query : List (Text × Text)} {written : List Text} :
    query.mapM encodePair = some written ↔ (∀ pair ∈ query, PlainPair pair) ∧ written = query.map writtenPair := by
  induction query generalizing written with
  | nil => simp [eq_comm]
  | cons pair rest ih =>
    rw [List.mapM_cons]
    simp only [Option.bind_eq_bind, Option.bind_eq_some_iff, encode_pair_iff, ih, Option.pure_def, Option.some.injEq, List.forall_mem_cons, List.map_cons]
    constructor
    · rintro ⟨piece, ⟨plain, rfl⟩, others, ⟨all, rfl⟩, rfl⟩
      exact ⟨⟨plain, all⟩, rfl⟩
    · rintro ⟨⟨plain, all⟩, rfl⟩
      exact ⟨_, ⟨plain, rfl⟩, _, ⟨all, rfl⟩, rfl⟩

theorem urlencode_iff {query : List (Text × Text)} {text : Text} :
    urlencode query = some text ↔ (∀ pair ∈ query, PlainPair pair) ∧ text = writtenQuery query := by
  unfold urlencode
  simp only [Option.map_eq_some_iff, encode_pairs_iff]
  constructor
  · rintro ⟨_, ⟨all, rfl⟩, rfl⟩
    exact ⟨all, rfl⟩
  · rintro ⟨all, rfl⟩
    exact ⟨_, ⟨all, rfl⟩, rfl⟩

theorem amp_unwritten (pair : Text × Text) : amp ∉ writtenPair pair := by
  intro member
  rcases List.mem_append.mp member with front | back
  · exact (form_char (quoted_form _ _ front)).1 rfl
  · rcases List.mem_cons.mp back with same | later
    · exact absurd same (by decide)
    · exact (form_char (quoted_form _ _ later)).1 rfl

theorem pieces_written (query : List (Text × Text)) : pieces (writtenQuery query) = query.map writtenPair := by
  have some_ : ∀ piece ∈ query.map writtenPair, piece ≠ [] := by
    intro piece member
    obtain ⟨pair, -, rfl⟩ := List.mem_map.mp member
    exact List.append_ne_nil_of_right_ne_nil _ (List.cons_ne_nil _ _)
  cases query with
  | nil => rfl
  | cons pair rest =>
    rw [pieces, writtenQuery, List.splitOn_intercalate]
    · exact List.filter_eq_self.mpr fun piece member => decide_eq_true (some_ piece member)
    · intro piece member
      obtain ⟨other, -, rfl⟩ := List.mem_map.mp member
      exact amp_unwritten other
    · exact List.cons_ne_nil _ _

theorem read_written {pair : Text × Text} (plain : PlainPair pair) : readPair (writtenPair pair) = pair := by
  have free : ∀ c ∈ quoted pair.1, decide (c ≠ equals) = true :=
    fun c member => decide_eq_true (form_char (quoted_form _ c member)).2.1
  have front : (writtenPair pair).takeWhile (· ≠ equals) = quoted pair.1 := by
    rw [writtenPair, List.takeWhile_append_of_pos free, List.takeWhile_cons_of_neg (by simp), List.append_nil]
  have back : (writtenPair pair).dropWhile (· ≠ equals) = equals :: quoted pair.2 := by
    rw [writtenPair, List.dropWhile_append_of_pos free, List.dropWhile_cons_of_neg (by simp)]
  rw [readPair, front, back, List.drop_one, List.tail_cons, unquote_quoted plain.1, unquote_quoted plain.2]

theorem parse_written {query : List (Text × Text)} (plain : ∀ pair ∈ query, PlainPair pair) : parseQsl (writtenQuery query) = query := by
  rw [parseQsl, pieces_written, List.map_map]
  exact (List.map_congr_left fun pair member => read_written (plain pair member)).trans (List.map_id query)

/-- A parameter that `urlencode` writes. -/
def IsWritten (piece : Text) : Prop := ∃ pair, PlainPair pair ∧ piece = writtenPair pair

theorem written_char {pair : Text × Text} {c : CodePoint} (member : c ∈ writtenPair pair) : isFormChar c = true ∨ c = equals := by
  rcases List.mem_append.mp member with name | behind
  · exact .inl (quoted_form _ c name)
  · exact (List.mem_cons.mp behind).symm.imp_left (quoted_form _ c)

theorem mem_intercalate {mark c : CodePoint} {parts : List Text} (member : c ∈ [mark].intercalate parts) :
    c = mark ∨ ∃ piece ∈ parts, c ∈ piece := by
  induction parts with
  | nil => cases member
  | cons piece others ih =>
    cases others with
    | nil =>
      rw [List.intercalate_singleton] at member
      exact .inr ⟨piece, List.mem_cons_self, member⟩
    | cons other more =>
      rw [List.intercalate_cons_cons] at member
      rcases List.mem_append.mp member with front | back
      · rcases List.mem_append.mp front with inPiece | inMark
        · exact .inr ⟨piece, List.mem_cons_self, inPiece⟩
        · exact .inl (List.mem_singleton.mp inMark)
      · exact (ih back).imp_right fun ⟨inner, listed, found⟩ => ⟨inner, List.mem_cons_of_mem piece listed, found⟩

/-- The characters of a query are those of its parameters, but for the marks between them. -/
theorem query_char {query : Text} {c : CodePoint} (member : c ∈ query) : c = amp ∨ ∃ piece ∈ pieces query, c ∈ piece := by
  rw [← @List.intercalate_splitOn _ query _ _ amp] at member
  refine (mem_intercalate member).imp_right fun ⟨piece, listed, inner⟩ => ⟨piece, ?_, inner⟩
  exact List.mem_filter.mpr ⟨listed, decide_eq_true (List.ne_nil_of_mem inner)⟩

theorem written_again {piece : Text} (written : IsWritten piece) : writtenPair (readPair piece) = piece ∧ PlainPair (readPair piece) := by
  obtain ⟨pair, plain, rfl⟩ := written
  rw [read_written plain]
  exact ⟨rfl, plain⟩

theorem writtenQuery_char {query : List (Text × Text)} {c : CodePoint} (member : c ∈ writtenQuery query) :
    isFormChar c = true ∨ c = equals ∨ c = amp := by
  rcases mem_intercalate member with same | ⟨piece, listed, inner⟩
  · exact .inr (.inr same)
  · obtain ⟨pair, -, rfl⟩ := List.mem_map.mp listed
    exact (written_char inner).imp_right .inl

end Queries

end Percent
