import Sprintable.Logic.JsonGrammar

/-! The data of one frame of an agent's stream. It is the whole event when that fits, else the event with
its long strings cut, and else the short fields of the event alone. -/

namespace Sprintable.Streams

open CodePoints JsonDump JsonGrammar

abbrev Payload := Value Decimal

abbrev Fields := List (Text × Payload)

def agentFrameMaxBytes : Nat := 512 * 1024

def frameStrKeepBytes : Nat := 8 * 1024

def frameCutNote : Text := lit " … [truncated — read the full text through the API]"

def shortFieldLen : Nat := 256

def truncatedKey : Text := lit "truncated"

/-- A string is cut at a character. One with a lone surrogate raises `UnicodeEncodeError`. -/
def cutString (value : Text) : Option Text :=
  (encode value).map fun raw =>
    if raw.length ≤ frameStrKeepBytes then value else decodeIgnore (raw.take frameStrKeepBytes) ++ frameCutNote

mutual

def cutStrings : Payload → Option Payload
  | .text value => (cutString value).map .text
  | .dict entries => (cutFields entries).map .dict
  | .list items => (cutItems items).map .list
  | value => some value

def cutFields : Fields → Option Fields
  | [] => some []
  | (key, value) :: rest => (cutStrings value).bind fun cut => (cutFields rest).map fun others => (key, cut) :: others

def cutItems : List Payload → Option (List Payload)
  | [] => some []
  | item :: rest => (cutStrings item).bind fun cut => (cutItems rest).map fun others => cut :: others

end

/-- The text of a value and its bytes in UTF-8. A lone surrogate keeps its escaped form. -/
def sizedDumps (value : Payload) : Text × Nat :=
  let text := dumps Decimal.write false value
  match encode text with
  | some octets => (text, octets.length)
  | none =>
    let text := dumps Decimal.write true value
    (text, text.length)

/-- `{**fields, "truncated": True}`. -/
def marked (fields : Fields) : Fields :=
  if fields.any fun entry => entry.1 == truncatedKey then
    fields.map fun entry => if entry.1 = truncatedKey then (truncatedKey, .bool true) else entry
  else fields ++ [(truncatedKey, .bool true)]

/-- `None`, a number or a truth value, or a short string. -/
def isShort : Payload → Bool
  | .null | .bool _ | .number _ => true
  | .text value => value.length ≤ shortFieldLen
  | _ => false

def shortFields (data : Fields) : Fields := data.filter fun entry => isShort entry.2

/-- `_frame_data`; none is an error of the encoder. -/
def frameData (data : Fields) : Option Text :=
  let whole := sizedDumps (.dict data)
  if whole.2 ≤ agentFrameMaxBytes then some whole.1
  else
    (cutFields data).map fun cut =>
      let frame := sizedDumps (.dict (marked cut))
      if frame.2 ≤ agentFrameMaxBytes then frame.1 else (sizedDumps (.dict (marked (shortFields data)))).1

/-- The second value is the first with some strings cut to a prefix that carries the note. -/
inductive Shortened : Payload → Payload → Prop where
  | same (value : Payload) : Shortened value value
  | cut {text kept : Text} (front : kept <+: text) : Shortened (.text text) (.text (kept ++ frameCutNote))
  | list {items others : List Payload} (each : List.Forall₂ Shortened items others) : Shortened (.list items) (.list others)
  | dict {entries others : Fields} (keys : entries.map Prod.fst = others.map Prod.fst)
      (each : List.Forall₂ Shortened (entries.map Prod.snd) (others.map Prod.snd)) : Shortened (.dict entries) (.dict others)

/-- A frame that says it is cut: each field is one of the event, cut or not, and the short ones are there. -/
structure CutFrame (data frame : Fields) : Prop where
  mark : frame.lookup truncatedKey = some (.bool true)
  fields : ∀ entry ∈ frame, entry.1 = truncatedKey ∨ ∃ value, (entry.1, value) ∈ data ∧ Shortened value entry.2
  short : ∀ entry ∈ data, entry.1 ≠ truncatedKey → isShort entry.2 = true → entry ∈ frame

/-- What a frame owes: it is JSON within the limit, whole if that fits, and cut otherwise. -/
structure FrameSound (data : Fields) : Prop where
  bounded : ∃ text octets, frameData data = some text ∧ IsValue text ∧ encode text = some octets ∧
    octets.length ≤ agentFrameMaxBytes
  whole : (sizedDumps (.dict data)).2 ≤ agentFrameMaxBytes → frameData data = some (sizedDumps (.dict data)).1
  cut : agentFrameMaxBytes < (sizedDumps (.dict data)).2 →
    ∃ frame, frameData data = some (sizedDumps (.dict frame)).1 ∧ CutFrame data frame

section Cutting

/-- A string of the value, its keys apart, has a lone surrogate. -/
def stringsLone (value : Payload) : Bool := (strings value).any hasSurrogate

theorem encode_some {text : Text} (plain : hasSurrogate text = false) :
    ∃ octets, encode text = some octets ∧ octets.length = size text := by
  have encoded : encode text = some (text.flatMap bytes) := by
    unfold encode
    rw [plain, if_neg Bool.false_ne_true]
  exact ⟨_, encoded, encode_length encoded⟩

theorem encode_none {text : Text} (lone : hasSurrogate text = true) : encode text = none := if_pos lone

theorem cut_string_none (text : Text) : cutString text = none ↔ hasSurrogate text = true := by
  unfold cutString
  cases lone : hasSurrogate text with
  | true => simp [encode_none lone]
  | false =>
    obtain ⟨octets, encoded, -⟩ := encode_some lone
    simp [encoded]

theorem cut_string_some {text cut : Text} (done : cutString text = some cut) :
    cut = if size text ≤ frameStrKeepBytes then text else fitting frameStrKeepBytes text ++ frameCutNote := by
  obtain ⟨raw, encoded, shape⟩ := Option.map_eq_some_iff.mp done
  rw [encode_length encoded, decode_take encoded] at shape
  exact shape.symm

theorem cut_items_spec {items others : List Payload} (done : cutItems items = some others) :
    List.Forall₂ (fun item cut => cutStrings item = some cut) items others := by
  induction items generalizing others with
  | nil =>
    cases done
    exact .nil
  | cons item rest ih =>
    obtain ⟨cut, first, done⟩ := Option.bind_eq_some_iff.mp done
    obtain ⟨more, later, rfl⟩ := Option.map_eq_some_iff.mp done
    exact .cons first (ih later)

theorem cut_fields_spec {entries others : Fields} (done : cutFields entries = some others) :
    List.Forall₂ (fun entry cut => entry.1 = cut.1 ∧ cutStrings entry.2 = some cut.2) entries others := by
  induction entries generalizing others with
  | nil =>
    cases done
    exact .nil
  | cons entry rest ih =>
    obtain ⟨cut, first, done⟩ := Option.bind_eq_some_iff.mp done
    obtain ⟨more, later, rfl⟩ := Option.map_eq_some_iff.mp done
    exact .cons ⟨rfl, first⟩ (ih later)

theorem cut_items_none (items : List Payload) : cutItems items = none ↔ ∃ item ∈ items, cutStrings item = none := by
  induction items with
  | nil => simp [cutItems]
  | cons item rest ih =>
    rw [cutItems]
    cases first : cutStrings item with
    | none => simp [first]
    | some cut => simp [first, ih]

theorem cut_fields_none (entries : Fields) : cutFields entries = none ↔ ∃ entry ∈ entries, cutStrings entry.2 = none := by
  induction entries with
  | nil => simp [cutFields]
  | cons entry rest ih =>
    rw [cutFields]
    cases first : cutStrings entry.2 with
    | none => simp [first]
    | some cut => simp [first, ih]

theorem cut_none (value : Payload) : cutStrings value = none ↔ stringsLone value = true := by
  unfold stringsLone
  induction value using Value.parts with
  | scalar value flat =>
    rw [strings_scalar flat]
    cases value with
    | null | bool _ | number _ => simp [cutStrings]
    | text _ | list _ | dict _ => cases flat
  | text value =>
    rw [cutStrings, Option.map_eq_none_iff, cut_string_none]
    simp [strings]
  | list items ih =>
    rw [cutStrings, Option.map_eq_none_iff, cut_items_none, strings, strings_of_items, List.any_flatMap, List.any_eq_true]
    apply exists_congr
    intro item
    exact and_congr_right (ih item)
  | dict entries ih =>
    rw [cutStrings, Option.map_eq_none_iff, cut_fields_none, strings, strings_of_entries, List.any_flatMap, List.any_eq_true]
    apply exists_congr
    intro entry
    exact and_congr_right (ih entry)

theorem cut_shortened (value : Payload) : ∀ cut, cutStrings value = some cut → Shortened value cut := by
  induction value using Value.parts with
  | scalar value flat =>
    intro cut done
    cases value with
    | null | bool _ | number _ =>
      cases done
      exact .same _
    | text _ | list _ | dict _ => cases flat
  | text value =>
    intro cut done
    obtain ⟨text, kept, rfl⟩ := Option.map_eq_some_iff.mp done
    rw [cut_string_some kept]
    split
    · exact .same _
    · exact .cut (fitting_front _ _)
  | list items ih =>
    intro cut done
    obtain ⟨others, each, rfl⟩ := Option.map_eq_some_iff.mp done
    apply Shortened.list
    have both := (List.forall₂_and_left _ _).mpr ⟨ih, cut_items_spec each⟩
    exact both.imp fun item cut step => step.1 cut step.2
  | dict entries ih =>
    intro cut done
    obtain ⟨others, each, rfl⟩ := Option.map_eq_some_iff.mp done
    have spec := cut_fields_spec each
    apply Shortened.dict
    · rw [← List.forall₂_eq_eq_eq, List.forall₂_map_left_iff, List.forall₂_map_right_iff]
      exact spec.imp fun entry cut step => step.1
    · rw [List.forall₂_map_left_iff, List.forall₂_map_right_iff]
      have both := (List.forall₂_and_left _ _).mpr ⟨ih, spec⟩
      exact both.imp fun entry cut step => step.1 cut.2 step.2.2

theorem size_le (text : Text) : size text ≤ 4 * text.length := by
  induction text with
  | nil => exact Nat.le_refl 0
  | cons c rest ih =>
    have four : width c ≤ 4 := by
      unfold width
      repeat' split
      all_goals omega
    rw [size_cons, List.length_cons]
    omega

theorem cut_short {value cut : Payload} (short : isShort value = true) (done : cutStrings value = some cut) : cut = value := by
  cases value with
  | null | bool _ | number _ =>
    cases done
    rfl
  | text value =>
    obtain ⟨text, kept, rfl⟩ := Option.map_eq_some_iff.mp done
    have few : value.length ≤ 256 := of_decide_eq_true short
    have bound := size_le value
    rw [cut_string_some kept, if_pos]
    unfold frameStrKeepBytes
    omega
  | list _ | dict _ => cases short

end Cutting

section Marks
variable {data fields : Fields} {entry : Text × Payload}

theorem marked_lookup (fields : Fields) : (marked fields).lookup truncatedKey = some (.bool true) := by
  unfold marked
  split
  next present =>
    induction fields with
    | nil => cases present
    | cons first rest ih =>
      rw [List.map_cons]
      by_cases same : first.1 = truncatedKey
      · rw [if_pos same, List.lookup_cons_self]
      · have miss : (first.1 == truncatedKey) = false := beq_eq_false_iff_ne.mpr same
        have missed : (truncatedKey == first.1) = false := beq_eq_false_iff_ne.mpr (Ne.symm same)
        rw [List.any_cons, miss, Bool.false_or] at present
        rw [if_neg same, List.lookup_cons, missed]
        exact ih present
  next absent =>
    have none_ : fields.lookup truncatedKey = none := by
      rw [List.lookup_eq_none_iff]
      intro entry member
      rw [bne_iff_ne]
      intro same
      exact absent (List.any_eq_true.mpr ⟨entry, member, beq_iff_eq.mpr same.symm⟩)
    rw [List.lookup_append, none_]
    rfl

theorem mem_marked : entry ∈ marked fields ↔ entry = (truncatedKey, .bool true) ∨ (entry ∈ fields ∧ entry.1 ≠ truncatedKey) := by
  unfold marked
  split
  next present =>
    obtain ⟨old, inside, same⟩ := List.any_eq_true.mp present
    have same : old.1 = truncatedKey := eq_of_beq same
    rw [List.mem_map]
    constructor
    · rintro ⟨other, member, rfl⟩
      split
      · exact .inl rfl
      next different => exact .inr ⟨member, different⟩
    · rintro (rfl | ⟨member, different⟩)
      · exact ⟨old, inside, if_pos same⟩
      · exact ⟨entry, member, if_neg different⟩
  next absent =>
    have other : ∀ field ∈ fields, field.1 ≠ truncatedKey := by
      intro field member same
      exact absent (List.any_eq_true.mpr ⟨field, member, beq_iff_eq.mpr same⟩)
    rw [List.mem_append, List.mem_singleton, or_comm]
    exact or_congr_right ⟨fun member => ⟨member, other entry member⟩, And.left⟩

theorem forall_mem_right {α β : Type} {related : α → β → Prop} {lefts : List α} {rights : List β} {right : β}
    (each : List.Forall₂ related lefts rights) (member : right ∈ rights) : ∃ left ∈ lefts, related left right := by
  induction each with
  | nil => cases member
  | cons pair _ ih =>
    rcases List.mem_cons.mp member with rfl | later
    · exact ⟨_, List.mem_cons_self, pair⟩
    · obtain ⟨left, inside, relation⟩ := ih later
      exact ⟨left, List.mem_cons_of_mem _ inside, relation⟩

theorem forall_mem_left {α β : Type} {related : α → β → Prop} {lefts : List α} {rights : List β} {left : α}
    (each : List.Forall₂ related lefts rights) (member : left ∈ lefts) : ∃ right ∈ rights, related left right :=
  forall_mem_right each.flip member

theorem cut_frame {cut : Fields} (done : cutFields data = some cut) : CutFrame data (marked cut) := by
  have spec := cut_fields_spec done
  refine ⟨marked_lookup cut, ?_, ?_⟩
  · intro entry member
    rcases mem_marked.mp member with rfl | ⟨inside, -⟩
    · exact .inl rfl
    · obtain ⟨original, present, key, step⟩ := forall_mem_right spec inside
      refine .inr ⟨original.2, ?_, cut_shortened _ _ step⟩
      rw [← key]
      exact present
  · intro entry member other short
    obtain ⟨kept, inside, key, step⟩ := forall_mem_left spec member
    have same : kept = entry := Prod.ext key.symm (cut_short short step)
    rw [← same] at other ⊢
    exact mem_marked.mpr (.inr ⟨inside, other⟩)

theorem short_frame (data : Fields) : CutFrame data (marked (shortFields data)) := by
  refine ⟨marked_lookup _, ?_, ?_⟩
  · intro entry member
    rcases mem_marked.mp member with rfl | ⟨inside, -⟩
    · exact .inl rfl
    · exact .inr ⟨entry.2, (List.mem_filter.mp inside).1, .same _⟩
  · intro entry member other short
    exact mem_marked.mpr (.inr ⟨List.mem_filter.mpr ⟨member, short⟩, other⟩)

end Marks

section Sizes
variable {ascii : Bool} {data fields : Fields}

theorem sized_dumps (value : Payload) :
    sizedDumps value = (dumps Decimal.write (surrogateIn value) value, size (dumps Decimal.write (surrogateIn value) value)) := by
  have written := dumps_surrogate decimal_plain value
  unfold sizedDumps
  dsimp only
  cases lone : surrogateIn value with
  | true =>
    rw [encode_none (written.trans lone), ascii_size (dumps_ascii decimal_ascii value)]
  | false =>
    obtain ⟨octets, encoded, length⟩ := encode_some (written.trans lone)
    rw [encoded]
    dsimp only
    rw [length]

theorem sized_encoded (value : Payload) :
    ∃ octets, encode (sizedDumps value).1 = some octets ∧ octets.length = (sizedDumps value).2 := by
  rw [sized_dumps]
  apply encode_some
  cases lone : surrogateIn value with
  | true => exact ascii_plain (dumps_ascii decimal_ascii value)
  | false => exact (dumps_surrogate decimal_plain value).trans lone

theorem sized_value (value : Payload) : IsValue (sizedDumps value).1 := by
  rw [sized_dumps]
  exact dumps_value decimal_number _ value

/-- The bytes of a field with what separates it from the next. -/
def fieldSize (ascii : Bool) (entry : Text × Payload) : Nat := size (dumpEntry Decimal.write ascii entry) + 2

theorem dict_size (some_ : fields ≠ []) :
    size (dumps Decimal.write ascii (.dict fields)) = (fields.map (fieldSize ascii)).sum := by
  have marks : width 0x7b = 1 ∧ width 0x7d = 1 ∧ width comma = 1 ∧ width blank = 1 := by decide
  obtain ⟨opens, closes, comma_, blank_⟩ := marks
  have later : ∀ rest : Fields, size (rest.flatMap fun entry => comma :: blank :: dumpEntry Decimal.write ascii entry) =
      (rest.map (fieldSize ascii)).sum := by
    intro rest
    induction rest with
    | nil => rfl
    | cons entry rest ih =>
      rw [List.flatMap_cons, size_append, ih, size_cons, size_cons, comma_, blank_, List.map_cons, List.sum_cons, fieldSize]
      omega
  cases fields with
  | nil => exact absurd rfl some_
  | cons first rest =>
    rw [dumps, dump_entries, separated, size_cons, size_append, size_append, later, size_cons, size_nil, opens, closes,
      List.map_cons, List.sum_cons, fieldSize]
    omega

theorem marked_some (fields : Fields) : marked fields ≠ [] := by
  intro empty
  have found := marked_lookup fields
  rw [empty] at found
  cases found

theorem sum_sublist {weigh : Text × Payload → Nat} {part : Fields} (sub : part.Sublist fields) :
    (part.map weigh).sum ≤ (fields.map weigh).sum := by
  induction sub with
  | slnil => exact Nat.le_refl _
  | cons entry _ ih =>
    rw [List.map_cons, List.sum_cons]
    omega
  | cons_cons entry _ ih =>
    rw [List.map_cons, List.map_cons, List.sum_cons, List.sum_cons]
    omega

/-- A marked mapping weighs what its other fields weigh, and the mark for each field of that key, but once at least. -/
theorem marked_sum (weigh : Text × Payload → Nat) (fields : Fields) :
    ((marked fields).map weigh).sum = ((fields.filter fun entry => entry.1 != truncatedKey).map weigh).sum +
      max 1 (fields.countP fun entry => entry.1 == truncatedKey) * weigh (truncatedKey, .bool true) := by
  have replaced : ∀ fields : Fields,
      ((fields.map fun entry => if entry.1 = truncatedKey then (truncatedKey, .bool true) else entry).map weigh).sum =
        ((fields.filter fun entry => entry.1 != truncatedKey).map weigh).sum +
          (fields.countP fun entry => entry.1 == truncatedKey) * weigh (truncatedKey, .bool true) := by
    intro fields
    induction fields with
    | nil => simp
    | cons entry rest ih =>
      rw [List.map_cons, List.map_cons, List.sum_cons, ih]
      by_cases same : entry.1 = truncatedKey
      · rw [if_pos same, List.filter_cons_of_neg (by simp [same]), List.countP_cons_of_pos (by simp [same]), Nat.succ_mul]
        omega
      · rw [if_neg same, List.filter_cons_of_pos (by simp [same]), List.countP_cons_of_neg (by simp [same]), List.map_cons,
          List.sum_cons]
        omega
  unfold marked
  split
  next present =>
    have some_ : 0 < fields.countP fun entry => entry.1 == truncatedKey := by
      rw [List.countP_pos_iff]
      exact List.any_eq_true.mp present
    rw [replaced, Nat.max_eq_right some_]
  next absent =>
    have others : ∀ entry ∈ fields, ¬ (entry.1 == truncatedKey) = true := fun entry member same =>
      absent (List.any_eq_true.mpr ⟨entry, member, same⟩)
    have none_ : (fields.countP fun entry => entry.1 == truncatedKey) = 0 := List.countP_eq_zero.mpr others
    have all : (fields.filter fun entry => entry.1 != truncatedKey) = fields := by
      rw [List.filter_eq_self]
      intro entry member
      rw [bne, (Bool.not_eq_true _).mp (others entry member)]
      rfl
    rw [none_, all, List.map_append, List.sum_append]
    simp

theorem marked_size {part : Fields} (sub : part.Sublist fields) :
    size (dumps Decimal.write ascii (.dict (marked part))) ≤ size (dumps Decimal.write ascii (.dict (marked fields))) := by
  rw [dict_size (marked_some part), dict_size (marked_some fields), marked_sum, marked_sum]
  have count : (part.countP fun entry => entry.1 == truncatedKey) ≤ fields.countP fun entry => entry.1 == truncatedKey :=
    sub.countP_le
  apply Nat.add_le_add
  · exact sum_sublist (sub.filter _)
  · apply Nat.mul_le_mul_right
    omega

theorem short_sublist {cut : Fields} (done : cutFields data = some cut) : (shortFields data).Sublist cut := by
  induction data generalizing cut with
  | nil =>
    cases done
    exact List.Sublist.refl []
  | cons entry rest ih =>
    obtain ⟨value, first, done⟩ := Option.bind_eq_some_iff.mp done
    obtain ⟨more, later, rfl⟩ := Option.map_eq_some_iff.mp done
    by_cases short : isShort entry.2 = true
    · have kept : shortFields (entry :: rest) = entry :: shortFields rest := List.filter_cons_of_pos short
      rw [kept, cut_short short first]
      exact (ih later).cons_cons entry
    · have dropped : shortFields (entry :: rest) = shortFields rest := List.filter_cons_of_neg short
      rw [dropped]
      exact (ih later).cons _

theorem short_le_cut {cut : Fields} (done : cutFields data = some cut) :
    (sizedDumps (.dict (marked (shortFields data)))).2 ≤ (sizedDumps (.dict (marked cut))).2 := by
  have sub := short_sublist done
  rw [sized_dumps, sized_dumps]
  dsimp only
  cases lone : surrogateIn (.dict (marked cut)) with
  | true =>
    -- The cut frame is escaped. The short one is escaped as well, or no longer without escapes.
    have escaped : size (dumps Decimal.write true (.dict (marked (shortFields data)))) ≤
        size (dumps Decimal.write true (.dict (marked cut))) := marked_size sub
    have ascii := ascii_size (dumps_ascii decimal_ascii (.dict (marked (shortFields data))))
    have plain := dumps_size decimal_ascii (.dict (marked (shortFields data)))
    cases surrogateIn (.dict (marked (shortFields data))) with
    | true => exact escaped
    | false => omega
  | false =>
    have clean : surrogateIn (.dict (marked (shortFields data))) = false := by
      rw [surrogateIn, surrogate_entries, List.any_eq_false] at lone ⊢
      intro entry member
      apply lone entry
      rcases mem_marked.mp member with mark | ⟨inside, other⟩
      · exact mem_marked.mpr (.inl mark)
      · exact mem_marked.mpr (.inr ⟨sub.subset inside, other⟩)
    rw [clean]
    exact marked_size sub

end Sizes

/-- A frame is sound exactly where the event fits whole, or no string has a lone surrogate and the short
fields fit. -/
theorem frame_sound_iff (data : Fields) :
    FrameSound data ↔ (sizedDumps (.dict data)).2 ≤ agentFrameMaxBytes ∨
      (stringsLone (.dict data) = false ∧ (sizedDumps (.dict (marked (shortFields data)))).2 ≤ agentFrameMaxBytes) := by
  have sent (value : Payload) (fits : (sizedDumps value).2 ≤ agentFrameMaxBytes) :
      ∃ octets, IsValue (sizedDumps value).1 ∧ encode (sizedDumps value).1 = some octets ∧
        octets.length ≤ agentFrameMaxBytes := by
    obtain ⟨octets, encoded, length⟩ := sized_encoded value
    exact ⟨octets, sized_value value, encoded, by omega⟩
  have raises : cutFields data = none ↔ stringsLone (.dict data) = true := by
    rw [← cut_none, cutStrings, Option.map_eq_none_iff]
  by_cases whole : (sizedDumps (.dict data)).2 ≤ agentFrameMaxBytes
  · have all : frameData data = some (sizedDumps (.dict data)).1 := if_pos whole
    refine ⟨fun _ => .inl whole, fun _ => ⟨?_, fun _ => all, fun large => absurd whole (by omega)⟩⟩
    obtain ⟨octets, valid, encoded, few⟩ := sent _ whole
    exact ⟨_, octets, all, valid, encoded, few⟩
  have rest : frameData data = (cutFields data).map fun cut =>
      if (sizedDumps (.dict (marked cut))).2 ≤ agentFrameMaxBytes then (sizedDumps (.dict (marked cut))).1
      else (sizedDumps (.dict (marked (shortFields data)))).1 := if_neg whole
  cases done : cutFields data with
  | none =>
    rw [done] at rest
    constructor
    · intro sound
      obtain ⟨text, octets, framed, -⟩ := sound.bounded
      rw [rest] at framed
      cases framed
    · rintro (fits | ⟨clean, -⟩)
      · exact absurd fits whole
      · rw [raises.mp done] at clean
        cases clean
  | some cut =>
    have clean : stringsLone (.dict data) = false := by
      rw [← Bool.not_eq_true, ← raises, done]
      exact fun none_ => by cases none_
    have smaller := short_le_cut done
    rw [done, Option.map_some] at rest
    by_cases fits : (sizedDumps (.dict (marked cut))).2 ≤ agentFrameMaxBytes
    · rw [if_pos fits] at rest
      refine ⟨fun _ => .inr ⟨clean, by omega⟩, fun _ => ⟨?_, fun small => absurd small whole, fun _ => ?_⟩⟩
      · obtain ⟨octets, valid, encoded, few⟩ := sent _ fits
        exact ⟨_, octets, rest, valid, encoded, few⟩
      · exact ⟨_, rest, cut_frame done⟩
    · rw [if_neg fits] at rest
      constructor
      · intro sound
        obtain ⟨text, octets, framed, -, encoded, few⟩ := sound.bounded
        rw [rest] at framed
        cases framed
        obtain ⟨sent_, same, length⟩ := sized_encoded (.dict (marked (shortFields data)))
        rw [same] at encoded
        cases encoded
        exact .inr ⟨clean, by omega⟩
      · rintro (fits | ⟨-, short⟩)
        · exact absurd fits whole
        · refine ⟨?_, fun small => absurd small whole, fun _ => ⟨_, rest, short_frame data⟩⟩
          obtain ⟨octets, valid, encoded, few⟩ := sent _ short
          exact ⟨_, octets, rest, valid, encoded, few⟩

section Unbounded

theorem escape_some (ascii : Bool) (c : CodePoint) : 0 < size (escape ascii c) := by
  have positive : ∀ text : Text, text ≠ [] → 0 < size text := by
    intro text some_
    cases text with
    | nil => exact absurd rfl some_
    | cons first rest =>
      have one := width_pos first
      rw [size_cons]
      omega
  apply positive
  unfold escape asciiUnits
  repeat' split
  all_goals simp [unit]

theorem text_size_le (ascii : Bool) (text : Text) : text.length ≤ size (writeText ascii text) := by
  have escaped : text.length ≤ size (text.flatMap (escape ascii)) := by
    induction text with
    | nil => exact Nat.le_refl 0
    | cons c rest ih =>
      have one := escape_some ascii c
      rw [List.flatMap_cons, size_append, List.length_cons]
      omega
  rw [writeText, size_cons, size_append]
  omega

theorem key_size {fields : Fields} {entry : Text × Payload} (member : entry ∈ fields) :
    entry.1.length < (sizedDumps (.dict fields)).2 := by
  rw [sized_dumps]
  dsimp only
  rw [dict_size (List.ne_nil_of_mem member)]
  have part : fieldSize (surrogateIn (.dict fields)) entry ≤ (fields.map (fieldSize (surrogateIn (.dict fields)))).sum := by
    have alone : ([entry].map (fieldSize (surrogateIn (.dict fields)))).sum ≤ _ :=
      sum_sublist (List.singleton_sublist.mpr member)
    simpa using alone
  have key := text_size_le (surrogateIn (.dict fields)) entry.1
  rw [fieldSize, dumpEntry, size_append] at part
  omega

end Unbounded

def longKey : Fields := [(List.replicate agentFrameMaxBytes 0x61, .null)]

/-- The short fields of an event are sent whatever their size. -/
theorem long_key_unbounded : ¬ FrameSound longKey := by
  have key : (List.replicate agentFrameMaxBytes 0x61 : Text) ≠ truncatedKey := by
    intro same
    have lengths := congrArg List.length same
    rw [List.length_replicate] at lengths
    exact absurd lengths (by decide)
  have large {fields : Fields} (member : (List.replicate agentFrameMaxBytes 0x61, .null) ∈ fields) :
      ¬ (sizedDumps (.dict fields)).2 ≤ agentFrameMaxBytes := by
    have longer := key_size member
    rw [List.length_replicate] at longer
    omega
  have field : (List.replicate agentFrameMaxBytes 0x61, .null) ∈ longKey := List.mem_singleton.mpr rfl
  have mark : (List.replicate agentFrameMaxBytes 0x61, .null) ∈ marked longKey := mem_marked.mpr (.inr ⟨field, key⟩)
  have cut : cutFields longKey = some longKey := rfl
  have short : shortFields longKey = longKey := rfl
  have framed : frameData longKey = some (sizedDumps (.dict (marked longKey))).1 := by
    unfold frameData
    dsimp only
    rw [if_neg (large field), cut, Option.map_some, if_neg (large mark), short]
  intro sound
  obtain ⟨text, octets, sent, -, encoded, few⟩ := sound.bounded
  obtain ⟨bytes_, same, length⟩ := sized_encoded (.dict (marked longKey))
  have text_ : (sizedDumps (.dict (marked longKey))).1 = text := Option.some.inj (framed.symm.trans sent)
  have octets_ : bytes_ = octets := Option.some.inj (same.symm.trans (text_ ▸ encoded))
  apply large mark
  rw [← length, octets_]
  exact few

end Sprintable.Streams
