import Sprintable.Logic.JsonLoads
import Sprintable.Logic.Readable
import Sprintable.Logic.Searching

/-! The repeat value of a recipe, a duration of ISO 8601. What its pattern matches, what the number of seconds
is, and the grammar: each part at most once, in order, at least one part, and at least one behind a `T`. -/

namespace Sprintable.Recipes

open CodePoints Backtracking

/-- `\d`, with the value of the digit. Of ASCII it has the ten digits. -/
structure Digits where
  value : CodePoint → Option (Fin 10)
  ascii : ∀ c, c.val < 0x80 → value c = JsonLoads.readDigit c

def Digits.isDigit (digits : Digits) (c : CodePoint) : Bool := (digits.value c).isSome

section Pattern
variable (digits : Digits)

/-- The characters that `\d+` matches. -/
abbrev Run := Accepted digits.isDigit × List (Accepted digits.isDigit)

def run : Pattern CodePoint (Run digits) := andThen (oneOf digits.isDigit) (many (oneOf digits.isDigit))

/-- `(?:(\d+)L)?`. -/
def part (letter : CodePoint) : Pattern CodePoint (Option (Run digits × Unit)) := optional (andThen (run digits) (mark letter))

abbrev Part := Option (Run digits × Unit)

abbrev Time := Option (Unit × Part digits × Part digits × Part digits)

abbrev Parts := Unit × Part digits × Part digits × Part digits × Part digits × Time digits

/-- `_DURATION_RE` up to its end. -/
def durationRe : Pattern CodePoint (Parts digits) :=
  andThen (mark 0x50) (andThen (part digits 0x59) (andThen (part digits 0x4d) (andThen (part digits 0x57) (andThen (part digits 0x44)
    (optional (andThen (mark 0x54) (andThen (part digits 0x48) (andThen (part digits 0x4d) (part digits 0x53)))))))))

def durationMatch (value : Text) : Option (Parts digits) := (first (andThen (durationRe digits) (atEnd 0x0a)) value).map fun found => found.1.1

end Pattern

inductive ParseError where
  /-- `InvalidRepeatDurationError`. -/
  | invalid
  | valueError
  | overflowError
  deriving DecidableEq, Repr

def maxStrDigits : Nat := 4300

def maxDays : Nat := 999999999

section Parsing
variable {digits : Digits}

def Run.text (run : Run digits) : List (Accepted digits.isDigit) := run.1 :: run.2

def digitOf (c : Accepted digits.isDigit) : Fin 10 := (digits.value c.val).get c.property

def Run.value (run : Run digits) : Nat := run.text.foldl (fun n c => 10 * n + (digitOf c).val) 0

/-- `int(v) if v else 0`. -/
def number (part : Part digits) : Except ParseError Nat :=
  match part with
  | none => .ok 0
  | some (run, _) => if maxStrDigits < run.text.length then .error .valueError else .ok run.value

def Parts.hours (parts : Parts digits) : Part digits := parts.2.2.2.2.2.bind fun time => time.2.1

def Parts.minutes (parts : Parts digits) : Part digits := parts.2.2.2.2.2.bind fun time => time.2.2.1

def Parts.seconds (parts : Parts digits) : Part digits := parts.2.2.2.2.2.bind fun time => time.2.2.2

/-- Seconds of a `timedelta`. -/
def timedelta (days hours minutes seconds : Nat) : Except ParseError Nat :=
  let total := days * 86400 + hours * 3600 + minutes * 60 + seconds
  if maxDays < total / 86400 then .error .overflowError else .ok total

end Parsing

def parseIso8601Duration (digits : Digits) (value : Text) : Except ParseError Nat :=
  if value.head? ≠ some 0x50 then .error .invalid
  else
    match durationMatch digits value with
    | none => .error .invalid
    | some parts => do
      let years ← number parts.2.1
      let months ← number parts.2.2.1
      let weeks ← number parts.2.2.2.1
      let days ← number parts.2.2.2.2.1
      let hours ← number parts.hours
      let minutes ← number parts.minutes
      let seconds ← number parts.seconds
      let delta ← timedelta (years * 365 + months * 30 + weeks * 7 + days) hours minutes seconds
      if delta = 0 then throw .invalid
      return delta

section Grammar

abbrev Numeral := Fin 10 × List (Fin 10)

def Numeral.value (numeral : Numeral) : Nat := (numeral.1 :: numeral.2).foldl (fun n d => 10 * n + d.val) 0

def writePart (letter : CodePoint) : Option Numeral → Text
  | none => []
  | some numeral => (numeral.1 :: numeral.2).map JsonDump.digit ++ [letter]

structure Duration where
  years : Option Numeral := none
  months : Option Numeral := none
  weeks : Option Numeral := none
  days : Option Numeral := none
  hours : Option Numeral := none
  minutes : Option Numeral := none
  seconds : Option Numeral := none
  some_ : (years.or (months.or (weeks.or (days.or (hours.or (minutes.or seconds)))))).isSome

def Duration.writeTime (duration : Duration) : Text :=
  if (duration.hours.or (duration.minutes.or duration.seconds)).isSome then
    0x54 :: (writePart 0x48 duration.hours ++ (writePart 0x4d duration.minutes ++ writePart 0x53 duration.seconds))
  else []

def Duration.write (duration : Duration) : Text :=
  0x50 :: (writePart 0x59 duration.years ++ (writePart 0x4d duration.months ++ (writePart 0x57 duration.weeks ++
    (writePart 0x44 duration.days ++ duration.writeTime))))

def amount (numeral : Option Numeral) : Nat := numeral.elim 0 Numeral.value

/-- A year is 365 days, a month 30 days. -/
def Duration.total (duration : Duration) : Nat :=
  (amount duration.years * 365 + amount duration.months * 30 + amount duration.weeks * 7 + amount duration.days) * 86400 +
    amount duration.hours * 3600 + amount duration.minutes * 60 + amount duration.seconds

/-- The text is of the grammar and stands for so many seconds. -/
def Denotes (value : Text) (delta : Nat) : Prop := ∃ duration : Duration, duration.write = value ∧ duration.total = delta

end Grammar

section Texts
variable {digits : Digits}

def Run.write (run : Run digits) : Text := [run.1.val] ++ run.2.flatMap fun c => [c.val]

def Part.write (letter : CodePoint) (part : Part digits) : Text := (part.map fun found => Run.write found.1 ++ [letter]).getD []

def Time.write (time : Time digits) : Text :=
  (time.map fun found => [0x54] ++ (Part.write 0x48 found.2.1 ++ (Part.write 0x4d found.2.2.1 ++ Part.write 0x53 found.2.2.2))).getD []

def Parts.write (parts : Parts digits) : Text :=
  [0x50] ++ (Part.write 0x59 parts.2.1 ++ (Part.write 0x4d parts.2.2.1 ++ (Part.write 0x57 parts.2.2.2.1 ++
    (Part.write 0x44 parts.2.2.2.2.1 ++ Time.write parts.2.2.2.2.2))))

theorem run_reads : Reads (run digits) Run.write :=
  (oneOf_reads digits.isDigit).andThen ((oneOf_reads digits.isDigit).many fun _ => List.cons_ne_nil _ _)

theorem part_reads (letter : CodePoint) : Reads (part digits letter) (Part.write letter) :=
  (run_reads.andThen (mark_reads letter)).optional

theorem duration_reads : Reads (durationRe digits) Parts.write :=
  (mark_reads 0x50).andThen ((part_reads 0x59).andThen ((part_reads 0x4d).andThen ((part_reads 0x57).andThen ((part_reads 0x44).andThen
    ((mark_reads 0x54).andThen ((part_reads 0x48).andThen ((part_reads 0x4d).andThen (part_reads 0x53)))).optional))))

/-- The first character of a text that is no digit. -/
def stop (digits : Digits) (text : Text) : Option CodePoint := (text.dropWhile digits.isDigit).head?

/-- A text comes to its end or to one of these letters after its digits. -/
def StopsAt (digits : Digits) (text : Text) (letters : List CodePoint) : Prop := ∀ c, stop digits text = some c → c ∈ letters

theorem letter_no_digit {c : CodePoint} (letter : c.val < 0x80 ∧ ¬ (0x30 ≤ c.val ∧ c.val ≤ 0x39)) : digits.isDigit c = false := by
  rw [Digits.isDigit, digits.ascii c letter.1, JsonLoads.readDigit, dif_neg letter.2]
  rfl

theorem run_text (run : Run digits) : Run.write run = run.text.map Subtype.val := by
  rw [Run.write, ← List.map_eq_flatMap]
  rfl

theorem run_digit (run : Run digits) : ∀ c ∈ Run.write run, digits.isDigit c = true := by
  intro c member
  rw [run_text] at member
  obtain ⟨digit, -, rfl⟩ := List.mem_map.mp member
  exact digit.property

theorem run_injective : Function.Injective (@Run.write digits) := by
  intro first second same
  rw [run_text, run_text] at same
  have texts := List.map_injective_iff.mpr Subtype.val_injective same
  obtain ⟨heads, tails⟩ := List.cons.inj texts
  exact Prod.ext heads tails

theorem stop_letter {c : CodePoint} (letter : digits.isDigit c = false) (run : Run digits) (rest : Text) :
    stop digits (Run.write run ++ c :: rest) = some c := by
  rw [stop, List.dropWhile_append_of_pos (run_digit run), List.dropWhile_cons_of_neg (by simp [letter])]
  rfl

theorem StopsAt.part {letter : CodePoint} (plain : digits.isDigit letter = false) {rest : Text} {letters : List CodePoint}
    (stops : StopsAt digits rest letters) (part : Part digits) : StopsAt digits (Part.write letter part ++ rest) (letter :: letters) := by
  intro c found
  cases part with
  | none => exact List.mem_cons_of_mem letter (stops c found)
  | some inner =>
    have shape : Part.write letter (some inner) ++ rest = Run.write inner.1 ++ letter :: rest := List.append_assoc _ _ _
    rw [shape, stop_letter plain] at found
    obtain rfl := Option.some.inj found
    exact List.mem_cons_self

/-- A part and what follows it can be told apart when what follows cannot begin with such a part. -/
theorem part_unique {letter : CodePoint} (plain : digits.isDigit letter = false) {first second : Part digits} {rest others : Text}
    {letters : List CodePoint} (stops : StopsAt digits rest letters) (stop_ : StopsAt digits others letters) (fresh : letter ∉ letters)
    (same : Part.write letter first ++ rest = Part.write letter second ++ others) : first = second ∧ rest = others := by
  have shape (inner : Run digits × Unit) (rest : Text) : Part.write letter (some inner) ++ rest = Run.write inner.1 ++ letter :: rest :=
    List.append_assoc _ _ _
  cases first with
  | none =>
    cases second with
    | none => exact ⟨rfl, same⟩
    | some inner =>
      rw [shape] at same
      have found := stop_letter plain inner.1 others
      rw [← same] at found
      exact absurd (stops letter found) fresh
  | some inner =>
    cases second with
    | none =>
      rw [shape] at same
      have found := stop_letter plain inner.1 rest
      rw [same] at found
      exact absurd (stop_ letter found) fresh
    | some other =>
      rw [shape, shape] at same
      have outside : ¬ digits.isDigit letter = true := by simp [plain]
      obtain ⟨runs, ends⟩ := @Readable.before_stop _ (fun c => ¬ digits.isDigit c = true) _ _ _ _ _ _ outside outside
        (fun c member => not_not.mpr (run_digit inner.1 c member)) (fun c member => not_not.mpr (run_digit other.1 c member)) same
      refine ⟨?_, (List.cons.inj ends).2⟩
      exact congrArg some (Prod.ext (run_injective runs) rfl)

/-- What may stand behind the match: nothing, or a line feed. -/
def IsEnd (text : Text) : Prop := text = [] ∨ text = [0x0a]

theorem plain_letters : ∀ c ∈ ([0x59, 0x4d, 0x57, 0x44, 0x48, 0x53, 0x54, 0x0a] : Text), digits.isDigit c = false := by
  have table : ([0x59, 0x4d, 0x57, 0x44, 0x48, 0x53, 0x54, 0x0a] : Text).all fun c =>
      c.val < 0x80 ∧ ¬ (0x30 ≤ c.val ∧ c.val ≤ 0x39) := by decide
  exact fun c member => letter_no_digit (of_decide_eq_true (List.all_eq_true.mp table c member))

theorem IsEnd.stops {text : Text} (ends : IsEnd text) : StopsAt digits text [0x0a] := by
  intro c found
  rcases ends with rfl | rfl
  · cases found
  · have feed : digits.isDigit 0x0a = false := plain_letters 0x0a (by decide)
    rw [stop, List.dropWhile_cons_of_neg (by simp [feed])] at found
    exact List.mem_singleton.mpr (Option.some.inj found).symm

theorem time_stops (time : Time digits) {rest : Text} (ends : IsEnd rest) : StopsAt digits (Time.write time ++ rest) [0x54, 0x0a] := by
  cases time with
  | none => exact fun c found => List.mem_cons_of_mem _ (ends.stops c found)
  | some found =>
    have mark : digits.isDigit 0x54 = false := plain_letters 0x54 (by decide)
    intro c first
    have shape : ∃ more, Time.write (some found) ++ rest = 0x54 :: more := ⟨_, rfl⟩
    obtain ⟨more, shape⟩ := shape
    rw [shape, stop, List.dropWhile_cons_of_neg (by simp [mark])] at first
    obtain rfl := Option.some.inj first
    exact List.mem_cons_self

theorem time_unique {first second : Time digits} {rest others : Text} (ends : IsEnd rest) (end_ : IsEnd others)
    (same : Time.write first ++ rest = Time.write second ++ others) : first = second ∧ rest = others := by
  have shape (found : Unit × Part digits × Part digits × Part digits) (rest : Text) : Time.write (some found) ++ rest =
      0x54 :: (Part.write 0x48 found.2.1 ++ (Part.write 0x4d found.2.2.1 ++ (Part.write 0x53 found.2.2.2 ++ rest))) := by
    simp only [Time.write, Option.map_some, Option.getD_some, List.append_assoc, List.cons_append, List.nil_append]
  have apart (found : Unit × Part digits × Part digits × Part digits) {rest others : Text} (ends : IsEnd rest) :
      rest ≠ Time.write (some found) ++ others := by
    intro same
    rw [shape] at same
    rcases ends with rfl | rfl
    · cases same
    · cases (List.cons.inj same).1
  cases first with
  | none =>
    cases second with
    | none => exact ⟨rfl, same⟩
    | some found => exact absurd same (apart found ends)
  | some found =>
    cases second with
    | none => exact absurd same.symm (apart found end_)
    | some other =>
      rw [shape, shape] at same
      have third := @plain_letters digits 0x53 (by decide)
      have second := @plain_letters digits 0x4d (by decide)
      have first := @plain_letters digits 0x48 (by decide)
      obtain ⟨hours, same⟩ := part_unique first ((ends.stops.part third _).part second _) ((end_.stops.part third _).part second _)
        (by decide) (List.cons.inj same).2
      obtain ⟨minutes, same⟩ := part_unique second (ends.stops.part third _) (end_.stops.part third _) (by decide) same
      obtain ⟨seconds, same⟩ := part_unique third ends.stops end_.stops (by decide) same
      exact ⟨congrArg some (Prod.ext rfl (Prod.ext hours (Prod.ext minutes seconds))), same⟩

theorem parts_unique {first second : Parts digits} {rest others : Text} (ends : IsEnd rest) (end_ : IsEnd others)
    (same : Parts.write first ++ rest = Parts.write second ++ others) : first = second ∧ rest = others := by
  have shape (parts : Parts digits) (rest : Text) : Parts.write parts ++ rest =
      0x50 :: (Part.write 0x59 parts.2.1 ++ (Part.write 0x4d parts.2.2.1 ++ (Part.write 0x57 parts.2.2.2.1 ++
        (Part.write 0x44 parts.2.2.2.2.1 ++ (Time.write parts.2.2.2.2.2 ++ rest))))) := by
    simp only [Parts.write, List.append_assoc, List.cons_append, List.nil_append]
  rw [shape, shape] at same
  have years := @plain_letters digits 0x59 (by decide)
  have months := @plain_letters digits 0x4d (by decide)
  have weeks := @plain_letters digits 0x57 (by decide)
  have days := @plain_letters digits 0x44 (by decide)
  have left := time_stops first.2.2.2.2.2 ends
  have right := time_stops second.2.2.2.2.2 end_
  obtain ⟨years_, same⟩ := part_unique years (((left.part days _).part weeks _).part months _)
    (((right.part days _).part weeks _).part months _) (by decide) (List.cons.inj same).2
  obtain ⟨months_, same⟩ := part_unique months ((left.part days _).part weeks _) ((right.part days _).part weeks _) (by decide) same
  obtain ⟨weeks_, same⟩ := part_unique weeks (left.part days _) (right.part days _) (by decide) same
  obtain ⟨days_, same⟩ := part_unique days left right (by decide) same
  obtain ⟨time, same⟩ := time_unique ends end_ same
  exact ⟨Prod.ext rfl (Prod.ext years_ (Prod.ext months_ (Prod.ext weeks_ (Prod.ext days_ time)))), same⟩

/-- The text is that of the parts, with at most a line feed behind it. -/
def Matches (value : Text) (parts : Parts digits) : Prop := ∃ rest, IsEnd rest ∧ Parts.write parts ++ rest = value

theorem match_iff {value : Text} {parts : Parts digits} : durationMatch digits value = some parts ↔ Matches value parts := by
  have member (found : (Parts digits × Unit) × Text) : found ∈ andThen (durationRe digits) (atEnd 0x0a) value ↔
      IsEnd found.2 ∧ Parts.write found.1.1 ++ found.2 = value := by
    obtain ⟨⟨parts, unit_⟩, rest⟩ := found
    constructor
    · intro member
      obtain ⟨front, start, member⟩ := List.mem_flatMap.mp member
      obtain ⟨back, follows, same⟩ := List.mem_map.mp member
      obtain ⟨values, rests⟩ := Prod.mk.inj same
      obtain ⟨rfl, -⟩ := Prod.mk.inj values
      unfold atEnd at follows
      split at follows
      next ends =>
        rw [List.mem_singleton.mp follows] at rests
        obtain rfl := rests
        exact ⟨ends, duration_reads.mem.mp start⟩
      next => cases follows
    · intro ⟨ends, same⟩
      apply List.mem_flatMap.mpr
      refine ⟨(parts, rest), duration_reads.mem.mpr same, ?_⟩
      have single : atEnd 0x0a rest = [((), rest)] := if_pos ends
      rw [single]
      exact List.mem_singleton_self _
  constructor
  · intro matched
    obtain ⟨found, head, rfl⟩ := Option.map_eq_some_iff.mp matched
    obtain ⟨ends, same⟩ := (member found).mp (List.mem_of_head? head)
    exact ⟨found.2, ends, same⟩
  · intro ⟨rest, ends, same⟩
    have listed := (member ((parts, ()), rest)).mpr ⟨ends, same⟩
    cases head : andThen (durationRe digits) (atEnd 0x0a) value with
    | nil =>
      rw [head] at listed
      cases listed
    | cons found more =>
      obtain ⟨end_, other⟩ := (member found).mp (head ▸ List.mem_cons_self)
      rw [durationMatch, first, head]
      exact congrArg some (parts_unique end_ ends (other.trans same.symm)).1

end Texts

section Spec
variable {digits : Digits} {value : Text} {parts : Parts digits}

def Parts.all (parts : Parts digits) : List (Part digits) :=
  [parts.2.1, parts.2.2.1, parts.2.2.2.1, parts.2.2.2.2.1, parts.hours, parts.minutes, parts.seconds]

def Part.length (part : Part digits) : Nat := part.elim 0 fun found => (Run.text found.1).length

def Part.amount (part : Part digits) : Nat := part.elim 0 fun found => Run.value found.1

/-- No part has more digits than `int` reads. -/
def Legible (parts : Parts digits) : Prop := ∀ part ∈ parts.all, Part.length part ≤ maxStrDigits

def Parts.total (parts : Parts digits) : Nat :=
  (Part.amount parts.2.1 * 365 + Part.amount parts.2.2.1 * 30 + Part.amount parts.2.2.2.1 * 7 + Part.amount parts.2.2.2.2.1) * 86400 +
    Part.amount parts.hours * 3600 + Part.amount parts.minutes * 60 + Part.amount parts.seconds

theorem number_short {part : Part digits} (short : Part.length part ≤ maxStrDigits) : number part = .ok (Part.amount part) := by
  cases part with
  | none => rfl
  | some found => exact if_neg (Nat.not_lt.mpr short)

theorem number_long {part : Part digits} (long : ¬ Part.length part ≤ maxStrDigits) : number part = .error .valueError := by
  cases part with
  | none => exact absurd (Nat.zero_le _) long
  | some found => exact if_pos (Nat.not_le.mp long)

theorem parse_unmatched (unmatched : ∀ parts : Parts digits, ¬ Matches value parts) :
    parseIso8601Duration digits value = .error .invalid := by
  have none_ : durationMatch digits value = none := by
    cases found : durationMatch digits value with
    | none => rfl
    | some parts => exact absurd (match_iff.mp found) (unmatched parts)
  unfold parseIso8601Duration
  rw [none_]
  exact ite_self _

theorem parse_matched (matched : Matches value parts) : (Legible parts → parseIso8601Duration digits value =
    if maxDays < parts.total / 86400 then .error .overflowError else if parts.total = 0 then .error .invalid else .ok parts.total) ∧
      (¬ Legible parts → parseIso8601Duration digits value = .error .valueError) := by
  have starts : value.head? = some 0x50 := by
    obtain ⟨rest, -, rfl⟩ := matched
    rfl
  have found := match_iff.mpr matched
  unfold parseIso8601Duration
  rw [found, if_neg (not_not.mpr starts)]
  have either_ (part : Part digits) : Part.length part ≤ maxStrDigits ∧ number part = .ok (Part.amount part) ∨
      ¬ Part.length part ≤ maxStrDigits ∧ number part = .error .valueError := by
    by_cases short : Part.length part ≤ maxStrDigits
    · exact .inl ⟨short, number_short short⟩
    · exact .inr ⟨short, number_long short⟩
  have member {part : Part digits} (listed : part ∈ parts.all) (long : ¬ Part.length part ≤ maxStrDigits) : ¬ Legible parts :=
    fun legible => long (legible part listed)
  dsimp only
  rcases either_ parts.2.1 with ⟨first, years⟩ | ⟨long, years⟩
  rcases either_ parts.2.2.1 with ⟨second, months⟩ | ⟨long, months⟩
  rcases either_ parts.2.2.2.1 with ⟨third, weeks⟩ | ⟨long, weeks⟩
  rcases either_ parts.2.2.2.2.1 with ⟨fourth, days⟩ | ⟨long, days⟩
  rcases either_ parts.hours with ⟨fifth, hours⟩ | ⟨long, hours⟩
  rcases either_ parts.minutes with ⟨sixth, minutes⟩ | ⟨long, minutes⟩
  rcases either_ parts.seconds with ⟨last, seconds⟩ | ⟨long, seconds⟩
  · have legible : Legible parts := by
      intro part listed
      simp only [Parts.all, List.mem_cons, List.not_mem_nil, or_false] at listed
      rcases listed with rfl | rfl | rfl | rfl | rfl | rfl | rfl
      all_goals assumption
    refine ⟨fun _ => ?_, fun other => absurd legible other⟩
    rw [years, months, weeks, days, hours, minutes, seconds]
    change (timedelta _ _ _ _).bind _ = _
    unfold timedelta
    dsimp only
    change (if maxDays < parts.total / 86400 then _ else _ : Except ParseError Nat).bind _ = _
    split
    · rfl
    · rfl
  · refine ⟨fun legible => absurd legible (member (by simp [Parts.all]) long), fun _ => ?_⟩
    rw [years, months, weeks, days, hours, minutes, seconds]
    rfl
  · refine ⟨fun legible => absurd legible (member (by simp [Parts.all]) long), fun _ => ?_⟩
    rw [years, months, weeks, days, hours, minutes]
    rfl
  · refine ⟨fun legible => absurd legible (member (by simp [Parts.all]) long), fun _ => ?_⟩
    rw [years, months, weeks, days, hours]
    rfl
  · refine ⟨fun legible => absurd legible (member (by simp [Parts.all]) long), fun _ => ?_⟩
    rw [years, months, weeks, days]
    rfl
  · refine ⟨fun legible => absurd legible (member (by simp [Parts.all]) long), fun _ => ?_⟩
    rw [years, months, weeks]
    rfl
  · refine ⟨fun legible => absurd legible (member (by simp [Parts.all]) long), fun _ => ?_⟩
    rw [years, months]
    rfl
  · refine ⟨fun legible => absurd legible (member (by simp [Parts.all]) long), fun _ => ?_⟩
    rw [years]
    rfl

end Spec

/-- The digits are of ASCII, and a `T` has a part behind it. -/
structure Proper {digits : Digits} (parts : Parts digits) : Prop where
  ascii : ∀ part ∈ parts.all, ∀ found ∈ part, ∀ c ∈ Run.text found.1, 0x30 ≤ c.val.val ∧ c.val.val ≤ 0x39
  time : parts.2.2.2.2.2 ≠ some ((), none, none, none)

section Language
variable {digits : Digits}

theorem digit_value (d : Fin 10) : digits.value (JsonDump.digit d) = some d := by
  have low : ∀ d : Fin 10, (JsonDump.digit d).val < 0x80 := by decide
  rw [digits.ascii _ (low d), JsonLoads.read_digit]

theorem digit_ascii : ∀ d : Fin 10, 0x30 ≤ (JsonDump.digit d).val ∧ (JsonDump.digit d).val ≤ 0x39 := by decide

def accept (d : Fin 10) : Accepted digits.isDigit := ⟨JsonDump.digit d, by rw [Digits.isDigit, digit_value]; rfl⟩

theorem digitOf_accept (d : Fin 10) : @digitOf digits (accept d) = d := by
  have known := @digit_value digits d
  exact Option.get_of_eq_some _ known

theorem accept_digitOf {c : Accepted digits.isDigit} (ascii : 0x30 ≤ c.val.val ∧ c.val.val ≤ 0x39) : accept (digitOf c) = c := by
  apply Subtype.ext
  have known : digits.value c.val = some ⟨c.val.val - 0x30, by omega⟩ := by
    rw [digits.ascii c.val (by omega), JsonLoads.readDigit, dif_pos ascii]
  have digit : digitOf c = ⟨c.val.val - 0x30, by omega⟩ := Option.get_of_eq_some _ known
  have back : 0x30 + (c.val.val - 0x30) = c.val.val := by omega
  rw [digit]
  apply Fin.ext
  have small := c.val.isLt
  change (0x30 + (c.val.val - 0x30)) % 0x110000 = c.val.val
  rw [back, Nat.mod_eq_of_lt small]

def Numeral.run (numeral : Numeral) : Run digits := (accept numeral.1, numeral.2.map accept)

def Run.numeral (run : Run digits) : Numeral := (digitOf run.1, run.2.map digitOf)

theorem run_numeral (numeral : Numeral) : @Run.numeral digits numeral.run = numeral := by
  have all : (numeral.2.map (@accept digits)).map digitOf = numeral.2 := by
    rw [List.map_map]
    exact (List.map_congr_left fun d _ => digitOf_accept d).trans (List.map_id _)
  exact Prod.ext (digitOf_accept numeral.1) all

theorem numeral_run {run : Run digits} (ascii : ∀ c ∈ run.text, 0x30 ≤ c.val.val ∧ c.val.val ≤ 0x39) : run.numeral.run = run := by
  have all : (run.2.map digitOf).map accept = run.2 := by
    rw [List.map_map]
    refine (List.map_congr_left fun c member => ?_).trans (List.map_id _)
    exact accept_digitOf (ascii c (List.mem_cons_of_mem _ member))
  exact Prod.ext (accept_digitOf (ascii run.1 List.mem_cons_self)) all

theorem numeral_value (run : Run digits) : run.numeral.value = run.value := by
  have texts : run.numeral.1 :: run.numeral.2 = run.text.map digitOf := rfl
  rw [Numeral.value, texts, List.foldl_map, Run.value]

theorem numeral_write (numeral : Numeral) :
    @Run.write digits numeral.run = (numeral.1 :: numeral.2).map JsonDump.digit := by
  have texts : @Run.text digits numeral.run = (numeral.1 :: numeral.2).map accept := rfl
  rw [run_text, texts, List.map_map]
  rfl

def asPart (numeral : Option Numeral) : Part digits := numeral.map fun numeral => (numeral.run, ())

def ofPart (part : Part digits) : Option Numeral := part.map fun found => Run.numeral found.1

theorem asPart_write (letter : CodePoint) (numeral : Option Numeral) :
    @Part.write digits letter (asPart numeral) = writePart letter numeral := by
  cases numeral with
  | none => rfl
  | some numeral => exact congrArg (· ++ [letter]) (numeral_write numeral)

theorem ofPart_amount (part : Part digits) : amount (ofPart part) = Part.amount part := by
  cases part with
  | none => rfl
  | some found => exact numeral_value found.1

theorem ofPart_asPart (numeral : Option Numeral) : ofPart (@asPart digits numeral) = numeral := by
  cases numeral with
  | none => rfl
  | some numeral => exact congrArg some (run_numeral numeral)

theorem asPart_ofPart {part : Part digits} (ascii : ∀ found ∈ part, ∀ c ∈ Run.text found.1, 0x30 ≤ c.val.val ∧ c.val.val ≤ 0x39) :
    asPart (ofPart part) = part := by
  cases part with
  | none => rfl
  | some found => exact congrArg some (Prod.ext (numeral_run (ascii found rfl)) rfl)

theorem asPart_ascii (numeral : Option Numeral) : ∀ found ∈ @asPart digits numeral, ∀ c ∈ Run.text found.1,
    0x30 ≤ c.val.val ∧ c.val.val ≤ 0x39 := by
  intro found member c listed
  cases numeral with
  | none => cases member
  | some numeral =>
    obtain rfl := Option.some.inj member
    have texts : @Run.text digits numeral.run = (numeral.1 :: numeral.2).map accept := rfl
    rw [texts] at listed
    obtain ⟨d, -, rfl⟩ := List.mem_map.mp listed
    exact digit_ascii d

theorem ofPart_write (letter : CodePoint) {part : Part digits}
    (ascii : ∀ found ∈ part, ∀ c ∈ Run.text found.1, 0x30 ≤ c.val.val ∧ c.val.val ≤ 0x39) :
    writePart letter (ofPart part) = Part.write letter part := by
  rw [← @asPart_write digits, asPart_ofPart ascii]

def Duration.parts (duration : Duration) : Parts digits :=
  ((), asPart duration.years, asPart duration.months, asPart duration.weeks, asPart duration.days,
    if (duration.hours.or (duration.minutes.or duration.seconds)).isSome then
      some ((), asPart duration.hours, asPart duration.minutes, asPart duration.seconds)
    else none)

theorem time_parts (duration : Duration) : Parts.hours (@Duration.parts digits duration) = asPart duration.hours ∧
    Parts.minutes (@Duration.parts digits duration) = asPart duration.minutes ∧
      Parts.seconds (@Duration.parts digits duration) = asPart duration.seconds := by
  unfold Parts.hours Parts.minutes Parts.seconds Duration.parts
  dsimp only
  split
  · exact ⟨rfl, rfl, rfl⟩
  next missing =>
    simp only [Option.isSome_or, Bool.or_eq_true, not_or, Option.not_isSome_iff_eq_none] at missing
    obtain ⟨hours, minutes, seconds⟩ := missing
    rw [hours, minutes, seconds]
    exact ⟨rfl, rfl, rfl⟩

theorem duration_amounts (duration : Duration) : Parts.total (@Duration.parts digits duration) = duration.total := by
  have amounts (numeral : Option Numeral) : Part.amount (@asPart digits numeral) = amount numeral := by
    rw [← ofPart_amount, ofPart_asPart]
  obtain ⟨hours, minutes, seconds⟩ := @time_parts digits duration
  rw [Parts.total, hours, minutes, seconds]
  simp only [Duration.parts, amounts]
  rfl

theorem duration_write (duration : Duration) : Parts.write (@Duration.parts digits duration) = duration.write := by
  have time : Time.write (@Duration.parts digits duration).2.2.2.2.2 = duration.writeTime := by
    unfold Duration.parts Duration.writeTime
    dsimp only
    split
    · simp only [Time.write, Option.map_some, Option.getD_some, asPart_write, List.cons_append, List.nil_append]
    · rfl
  rw [Parts.write, time]
  simp only [Duration.parts, asPart_write]
  rfl

theorem duration_proper (duration : Duration) : Proper (@Duration.parts digits duration) := by
  obtain ⟨hours, minutes, seconds⟩ := @time_parts digits duration
  constructor
  · intro part member
    simp only [Parts.all, hours, minutes, seconds, List.mem_cons, List.not_mem_nil, or_false] at member
    rcases member with rfl | rfl | rfl | rfl | rfl | rfl | rfl
    all_goals exact asPart_ascii _
  · intro bare
    unfold Duration.parts at bare
    dsimp only at bare
    split at bare
    next some_ =>
      have parts := congrArg (fun time => time.2) (Option.some.inj bare)
      have empty (numeral : Option Numeral) (none_ : @asPart digits numeral = none) : numeral = none := Option.map_eq_none_iff.mp none_
      have hours := empty _ (congrArg Prod.fst parts)
      have minutes := empty _ (congrArg (fun parts => parts.2.1) parts)
      have seconds := empty _ (congrArg (fun parts => parts.2.2) parts)
      rw [hours, minutes, seconds] at some_
      cases some_
    next => cases bare

theorem time_write {parts : Parts digits} (marked : parts.2.2.2.2.2 ≠ some ((), none, none, none)) :
    (if ((ofPart parts.hours).or ((ofPart parts.minutes).or (ofPart parts.seconds))).isSome then
      0x54 :: (Part.write 0x48 parts.hours ++ (Part.write 0x4d parts.minutes ++ Part.write 0x53 parts.seconds))
    else []) = Time.write parts.2.2.2.2.2 := by
  obtain ⟨_, years, months, weeks, days, time⟩ := parts
  cases time with
  | none => rfl
  | some found =>
    obtain ⟨_, hours, minutes, seconds⟩ := found
    change (if ((ofPart hours).or ((ofPart minutes).or (ofPart seconds))).isSome then
      0x54 :: (Part.write 0x48 hours ++ (Part.write 0x4d minutes ++ Part.write 0x53 seconds)) else []) = _
    split
    · rfl
    next missing =>
      have empty (part : Part digits) (none_ : ofPart part = none) : part = none := Option.map_eq_none_iff.mp none_
      simp only [Option.isSome_or, Bool.or_eq_true, not_or, Option.not_isSome_iff_eq_none] at missing
      rw [empty hours missing.1, empty minutes missing.2.1, empty seconds missing.2.2] at marked
      exact absurd rfl marked

theorem denotes_of_proper {parts : Parts digits} (proper : Proper parts) (positive : 0 < parts.total) :
    Denotes parts.write parts.total := by
  have some_ : ((ofPart parts.2.1).or ((ofPart parts.2.2.1).or ((ofPart parts.2.2.2.1).or ((ofPart parts.2.2.2.2.1).or
      ((ofPart parts.hours).or ((ofPart parts.minutes).or (ofPart parts.seconds))))))).isSome := by
    by_contra missing
    simp only [Option.isSome_or, Bool.or_eq_true, not_or, Option.not_isSome_iff_eq_none] at missing
    obtain ⟨years, months, weeks, days, hours, minutes, seconds⟩ := missing
    have zero : parts.total = 0 := by
      simp only [Parts.total, ← ofPart_amount, years, months, weeks, days, hours, minutes, seconds]
      rfl
    omega
  have ascii := proper.ascii
  simp only [Parts.all, List.forall_mem_cons] at ascii
  obtain ⟨years, months, weeks, days, hours, minutes, seconds, -⟩ := ascii
  refine ⟨⟨_, _, _, _, _, _, _, some_⟩, ?_, ?_⟩
  · have time := time_write proper.time
    simp only [Duration.write, Duration.writeTime, ofPart_write _ years, ofPart_write _ months, ofPart_write _ weeks,
      ofPart_write _ days, ofPart_write _ hours, ofPart_write _ minutes, ofPart_write _ seconds, time]
    rfl
  · simp only [Duration.total, ofPart_amount]
    rfl

end Language

end Sprintable.Recipes
