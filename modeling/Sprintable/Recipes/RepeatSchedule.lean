import Sprintable.Basic
import Sprintable.Logic.PyText
import Sprintable.Recipes.Durations

/-! The repeat schedule that the first stage of a recipe sets up, from the repeat value in its payload. The
stages after it keep the snapshot for the next round up to date. -/

namespace Sprintable.Recipes

open CodePoints

/-- The fields of a payload that are strings. -/
structure Payload where
  stage : Option Text := none
  workItemType : Option Text := none
  workItemId : Option Text := none
  repeat_ : Option Text := none
  channel : Option Text := none
  sourceDocId : Option Text := none
  previousOutputDocId : Option Text := none

structure Definition where
  key : Text
  /-- `properties.stage.enum` of the payload schema, where it is a list. -/
  stageEnum : Option (List Text)

def cyclicStages (definition : Definition) : List Text := definition.stageEnum.getD []

structure Snapshot where
  channel : Option Text := none
  sourceDocId : Option Text := none
  previousOutputDocId : Option Text := none
  deriving DecidableEq

def nonempty (value : Option Text) : Option Text := value.filter (· ≠ [])

def snapshotFromPayload (payload : Payload) : Snapshot where
  channel := nonempty payload.channel
  sourceDocId := nonempty payload.sourceDocId
  previousOutputDocId := nonempty payload.previousOutputDocId

/-- `{**old, **new}`. -/
def Snapshot.merge (old new : Snapshot) : Snapshot where
  channel := new.channel.or old.channel
  sourceDocId := new.sourceDocId.or old.sourceDocId
  previousOutputDocId := new.previousOutputDocId.or old.previousOutputDocId

inductive ScheduleStatus where
  | active | paused
  deriving DecidableEq, Repr

structure RecipeRepeatSchedule where
  id : Uuid
  orgId : Uuid
  projectId : Uuid
  definitionKey : Text
  workItemType : Text
  anchorTime : Nat
  nextRunAt : Nat
  repeat_ : Text
  lastPayloadSnapshot : Snapshot
  consecutiveFailureCount : Nat := 0
  status : ScheduleStatus := .active
  lastRunAt : Option Nat
  lastStoryId : Option Uuid

def maxInstant : Nat := seconds (2932897 * 86400) - 1

/-- `now + delta`, of a number of seconds. -/
def plus (now delta : Nat) : Except ParseError Nat :=
  if maxInstant < now + seconds delta then .error .overflowError else .ok (now + seconds delta)

/-- One call, with what the database answers: the project of a work item. -/
structure Call where
  orgId : Uuid
  definition : Definition
  payload : Payload
  projectOf : Text → Uuid → Option Uuid
  newId : Uuid
  rows : List RecipeRepeatSchedule

def uuidOf (text : Text) : Option Uuid := PyText.uuidOf (String.ofList (text.map fun c => Char.ofNat c.val))

namespace Call
variable (call : Call) (now : Nat)

def isOf (projectId : Uuid) (row : RecipeRepeatSchedule) : Bool :=
  row.orgId == call.orgId && row.projectId == projectId && row.definitionKey == call.definition.key

/-- `ON CONFLICT DO UPDATE` on the organisation, the project and the definition. -/
def upsert (projectId workItemId : Uuid) (workItemType repeat_ : Text) (nextRunAt : Nat) : List RecipeRepeatSchedule :=
  let snapshot := snapshotFromPayload call.payload
  let storyId := if workItemType = lit "story" then some workItemId else none
  if call.rows.any (call.isOf projectId) then
    call.rows.map fun row =>
      if call.isOf projectId row then
        { row with
          nextRunAt, repeat_, lastPayloadSnapshot := snapshot, consecutiveFailureCount := 0, status := .active, lastRunAt := some now
          lastStoryId := storyId.or row.lastStoryId }
      else row
  else
    call.rows ++ [{
      id := call.newId, orgId := call.orgId, projectId, definitionKey := call.definition.key, workItemType, anchorTime := now, nextRunAt
      repeat_, lastPayloadSnapshot := snapshot, lastRunAt := some now, lastStoryId := storyId }]

/-- A later stage updates the schedule of the round that it belongs to. -/
def refresh (projectId workItemId : Uuid) (workItemType : Text) : List RecipeRepeatSchedule :=
  let snapshot := snapshotFromPayload call.payload
  call.rows.map fun row =>
    if call.isOf projectId row && row.lastStoryId.all (· = workItemId) then
      { row with
        lastPayloadSnapshot := row.lastPayloadSnapshot.merge snapshot
        lastStoryId := if workItemType = lit "story" then some workItemId else row.lastStoryId }
    else row

def maybeUpsertRepeatSchedule (digits : Digits) : Except ParseError (List RecipeRepeatSchedule) :=
  match nonempty call.payload.stage, nonempty call.payload.workItemType, nonempty call.payload.workItemId with
  | some stage, some workItemType, some workItemIdRaw =>
    match (cyclicStages call.definition).head?, uuidOf workItemIdRaw with
    | some first, some workItemId =>
      match call.projectOf workItemType workItemId with
      | none => .ok call.rows
      | some projectId =>
        match nonempty call.payload.repeat_ with
        | some repeat_ =>
          if stage = first then
            match parseIso8601Duration digits repeat_ with
            | .error .invalid => .ok call.rows
            | .error raised => .error raised
            | .ok delta => (plus now delta).map (call.upsert now projectId workItemId workItemType repeat_)
          else .ok (call.refresh projectId workItemId workItemType)
        | none => .ok (call.refresh projectId workItemId workItemType)
    | _, _ => .ok call.rows
  | _, _, _ => .ok call.rows

end Call

/-- What is owed of a repeat value: a positive time that can be added to the present one, exactly for the texts of
the grammar, or the error that is meant for it, and no other error from the schedule. -/
structure ParsesTotally (digits : Digits) (now : Nat) (value : Text) : Prop where
  outcome : (∃ delta, parseIso8601Duration digits value = .ok delta ∧ 0 < delta ∧ now + seconds delta ≤ maxInstant) ∨
    parseIso8601Duration digits value = .error .invalid
  grammar : ∀ delta, parseIso8601Duration digits value = .ok delta ↔
    Denotes value delta ∧ 0 < delta ∧ now + seconds delta ≤ maxInstant
  quiet : ∀ call : Call, call.payload.repeat_ = some value → ∃ rows, call.maybeUpsertRepeatSchedule now digits = .ok rows

/-- Where the text has the shape of a duration, in whatever digits, perhaps with a bare `T` and perhaps with a line
feed at its end: no number has too many digits, and if it stands for some time, its digits are of ASCII, a `T` has a
part behind it, nothing follows, and the time can be added. -/
def Unambiguous (digits : Digits) (now : Nat) (value : Text) : Prop :=
  ∀ parts : Parts digits, Matches value parts → Legible parts ∧
    (0 < parts.total → Proper parts ∧ parts.write = value ∧ now + seconds parts.total ≤ maxInstant)

section Totality
variable {digits : Digits} {now : Nat} {value : Text}

theorem denotes_match {delta : Nat} (denotes : Denotes value delta) :
    ∃ parts : Parts digits, Matches value parts ∧ Proper parts ∧ parts.write = value ∧ parts.total = delta := by
  obtain ⟨duration, rfl, rfl⟩ := denotes
  refine ⟨duration.parts, ⟨[], .inl rfl, ?_⟩, duration_proper duration, duration_write duration, duration_amounts duration⟩
  rw [List.append_nil, duration_write]

theorem days_small {total : Nat} (fits : now + seconds total ≤ maxInstant) : ¬ maxDays < total / 86400 := by
  unfold maxInstant seconds maxDays at *
  omega

theorem call_quiet (outcome : (∃ delta, parseIso8601Duration digits value = .ok delta ∧ now + seconds delta ≤ maxInstant) ∨
    parseIso8601Duration digits value = .error .invalid) (call : Call) (given : call.payload.repeat_ = some value) :
    ∃ rows, call.maybeUpsertRepeatSchedule now digits = .ok rows := by
  unfold Call.maybeUpsertRepeatSchedule
  split
  · split
    · split
      · exact ⟨_, rfl⟩
      · split
        next repeat_ found =>
          have same : repeat_ = value := by
            rw [given] at found
            exact (Option.some.inj (Option.filter_eq_some_iff.mp found).1).symm
          split
          · rcases outcome with ⟨delta, parsed, fits⟩ | refused
            · have added : plus now delta = .ok (now + seconds delta) := if_neg (Nat.not_lt.mpr fits)
              rw [same, parsed]
              dsimp only
              rw [added]
              exact ⟨_, rfl⟩
            · rw [same, refused]
              exact ⟨_, rfl⟩
          · exact ⟨_, rfl⟩
        next => exact ⟨_, rfl⟩
    · exact ⟨_, rfl⟩
  · exact ⟨_, rfl⟩

theorem refused_total (refused : parseIso8601Duration digits value = .error .invalid) (nothing : ∀ delta, Denotes value delta → delta = 0) :
    ParsesTotally digits now value where
  outcome := .inr refused
  grammar delta := by
    rw [refused]
    constructor
    · intro other
      cases other
    · rintro ⟨denotes, positive, -⟩
      rw [nothing delta denotes] at positive
      cases positive
  quiet := call_quiet (.inr refused)

theorem parsed_total {delta : Nat} (parsed : parseIso8601Duration digits value = .ok delta) (positive : 0 < delta)
    (fits : now + seconds delta ≤ maxInstant) (denotes : Denotes value delta) (only : ∀ other, Denotes value other → other = delta) :
    ParsesTotally digits now value where
  outcome := .inl ⟨delta, parsed, positive, fits⟩
  grammar other := by
    rw [parsed, Except.ok.injEq]
    constructor
    · rintro rfl
      exact ⟨denotes, positive, fits⟩
    · rintro ⟨denotes, -, -⟩
      exact (only other denotes).symm
  quiet := call_quiet (.inl ⟨delta, parsed, fits⟩)

theorem ParsesTotally.not_error {raised : ParseError} (total : ParsesTotally digits now value)
    (parsed : parseIso8601Duration digits value = .error raised) : raised = .invalid := by
  rcases total.outcome with ⟨delta, ok, -⟩ | refused
  · rw [parsed] at ok
    cases ok
  · rw [parsed] at refused
    exact Except.error.inj refused

theorem matches_unique {parts other : Parts digits} (matched : Matches value parts) (also : Matches value other) : other = parts := by
  obtain ⟨rest, ends, same⟩ := matched
  obtain ⟨others, end_, equal⟩ := also
  exact (parts_unique end_ ends (equal.trans same.symm)).1

theorem denotes_total {parts : Parts digits} (matched : Matches value parts) {delta : Nat} (denotes : Denotes value delta) :
    Proper parts ∧ parts.write = value ∧ delta = parts.total := by
  obtain ⟨other, also, proper, written, total⟩ := @denotes_match digits value delta denotes
  obtain rfl := matches_unique matched also
  exact ⟨proper, written, total.symm⟩

theorem total_of_unambiguous {parts : Parts digits} (matched : Matches value parts) (unambiguous : Unambiguous digits now value) :
    ParsesTotally digits now value := by
  obtain ⟨legible, whole⟩ := unambiguous parts matched
  have parsed := (parse_matched matched).1 legible
  by_cases zero : parts.total = 0
  · have small : ¬ maxDays < parts.total / 86400 := by
      rw [zero]
      decide
    rw [if_neg small, if_pos zero] at parsed
    exact refused_total parsed fun delta denotes => (denotes_total matched denotes).2.2.trans zero
  · have positive := Nat.pos_of_ne_zero zero
    obtain ⟨proper, written, fits⟩ := whole positive
    rw [if_neg (days_small fits), if_neg zero] at parsed
    have denotes := denotes_of_proper proper positive
    rw [written] at denotes
    exact parsed_total parsed positive fits denotes fun other denotes => (denotes_total matched denotes).2.2

theorem unambiguous_of_total {parts : Parts digits} (matched : Matches value parts) (total : ParsesTotally digits now value) :
    Legible parts ∧ (0 < parts.total → Proper parts ∧ parts.write = value ∧ now + seconds parts.total ≤ maxInstant) := by
  obtain ⟨short, long⟩ := parse_matched matched
  by_cases legible : Legible parts
  · refine ⟨legible, fun positive => ?_⟩
    have parsed := short legible
    by_cases large : maxDays < parts.total / 86400
    · rw [if_pos large] at parsed
      cases total.not_error parsed
    · rw [if_neg large, if_neg (Nat.ne_of_gt positive)] at parsed
      obtain ⟨denotes, -, fits⟩ := (total.grammar parts.total).mp parsed
      obtain ⟨proper, written, -⟩ := denotes_total matched denotes
      exact ⟨proper, written, fits⟩
  · cases total.not_error (long legible)

end Totality

/-- A repeat value is handled as it should be exactly when its text is unambiguous. -/
theorem durations_total_iff (digits : Digits) (now : Nat) (value : Text) :
    Unambiguous digits now value ↔ ParsesTotally digits now value := by
  by_cases matched : ∃ parts : Parts digits, Matches value parts
  · obtain ⟨parts, matched⟩ := matched
    constructor
    · exact total_of_unambiguous matched
    · intro total other also
      exact unambiguous_of_total also total
  · have unmatched : ∀ parts : Parts digits, ¬ Matches value parts := fun parts also => matched ⟨parts, also⟩
    refine iff_of_true (fun parts also => absurd also (unmatched parts)) (refused_total (parse_unmatched unmatched) ?_)
    intro delta denotes
    obtain ⟨parts, also, -⟩ := @denotes_match digits value delta denotes
    exact absurd also (unmatched parts)

def asciiDigits : Digits := ⟨JsonLoads.readDigit, fun _ _ => rfl⟩

/-- A schedule whose first stage repeats after more days than a `timedelta` has. -/
def hugeRepeat : Call where
  orgId := 1
  definition := ⟨lit "post", some [lit "collect", lit "measure"]⟩
  payload := {
    stage := some (lit "collect"), workItemType := some (lit "story"), workItemId := some (lit "00000000-0000-0000-0000-000000000007")
    repeat_ := some (lit "P9999999999D") }
  projectOf _ _ := some 2
  newId := 3
  rows := []

/-- A number of days beyond the range raises `OverflowError`, out of the schedule too. -/
theorem huge_repeat_raises : ¬ ParsesTotally asciiDigits 0 (lit "P9999999999D") ∧
    (hugeRepeat.maybeUpsertRepeatSchedule 0 asciiDigits).isOk = false := by
  have parsed : parseIso8601Duration asciiDigits (lit "P9999999999D") = .error .overflowError := by decide +kernel
  refine ⟨?_, ?_⟩
  · intro total
    rcases total.outcome with ⟨delta, ok, -⟩ | refused
    · rw [parsed] at ok
      cases ok
    · rw [parsed] at refused
      cases refused
  · decide +kernel

/-- A bare `T` passes the pattern. -/
example : parseIso8601Duration asciiDigits (lit "P1DT") = .ok 86400 := by decide +kernel

end Sprintable.Recipes
