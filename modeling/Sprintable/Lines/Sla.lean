import Sprintable.Lines.Parallel

/-! The SLA pass over step runs that wait for a decision. It reminds, escalates
once, and approves in place of a human where the published policy asks for it. -/

namespace Sprintable.Lines

open Gates

def slaBatchSize : Nat := 200

/-- The `sla_policy` of the published step that the run followed, or an empty one. -/
def resolveSlaPolicy (versions : List LineVersion) (run : StepRun) : Except ApprovalError Json :=
  match stepConfig versions run with
  | .ok step => .ok (step.get "sla_policy").asObj
  | .error error => .error (.item error)

/-- The guard of the automatic approval reads the snapshots that were recorded with the run. -/
def autoApproveAllowed (run : StepRun) (storyPoints : Option Int) : Bool :=
  let risk := run.riskSnapshot
  let trust := run.trustSnapshot
  if (risk.get "prod_touch").isTrue || (risk.get "high_risk").isTrue then false
  else if storyPoints.any (8 ≤ ·) then false
  else if (trust.get "cold_start").isTrue || (trust.get "unresolved").isTrue then false
  else !(trust.hasKey "hit_rate" && (trust.get "hit_rate").isNull)

/-- What one item of a pass learns from other tables: the points of the story,
the candidate of the escalation role, and whether another pass holds the row. -/
structure SlaAnswers where
  drafts : Drafts := .empty
  lookups : ResolutionLookups := {}
  storyPoints : Option Int := none
  candidate : Option Uuid := none
  locked : Bool := false

inductive SlaOutcome where
  | skipped | autoApproved | escalated | unresolved | keptPending | reminded | notDue
  deriving DecidableEq, Repr

def StepRun.elapsed (run : StepRun) (now : Nat) : Rat := ((now : Rat) - run.startedAt) / (minutes 60 : Nat)

def policyNumber (policy : Json) (key : String) (default : Json) : Except ApprovalError Rat :=
  match (policy.getD key default).number with
  | some value => .ok value
  | none => .error (.policyType key)

/-- The last instant that a `datetime` can hold. -/
def datetimeMax : Rat := 253402300799999999

def datetimeMin : Rat := -62135596800000000

section Item
variable (desk : ApprovalDesk) (run : StepRun) (policy : Json) (answers : SlaAnswers) (now : Nat)

def maybeAutoApprove : Except ApprovalError (ApprovalDesk × Bool) :=
  match run.gateId.bind (desk.gates.lookup run.orgId) with
  | none => .ok (desk, false)
  | some gate =>
    if terminalGate.contains gate.status then .ok (desk, false)
    else if !autoApproveAllowed run answers.storyPoints then .ok (desk, false)
    else if gate.isRecipeExternalPublish then .ok (desk.recordEvent run .autoApproveSkipped, false)
    else do
      let approved ← desk.transition answers.drafts run.orgId gate.id .approved none none answers.lookups now
      return (approved.recordEvent run .autoApproved, true)

/-- A text that is no identifier names a role. -/
def resolveEscalation (escalateTo : Json) : Option Uuid :=
  escalateTo.text.bind fun name => (PyText.uuidOf name).or answers.candidate

def unresolvedAssignee : String := "unresolved_assignee"

def ApprovalDesk.putRun (desk : ApprovalDesk) (run : StepRun) : ApprovalDesk := desk.withItems (desk.toItemDesk.putRun run)

def StepRun.escalateTo (run : StepRun) (target : Uuid) : StepRun :=
  { run with escalatedToMemberId := some target, status := .escalated }

def StepRun.leaveUnassigned (run : StepRun) : StepRun := { run with deliveryStatus := unresolvedAssignee }

/-- One escalation; one that finds nobody is recorded once. -/
def escalate : ApprovalDesk × SlaOutcome :=
  let escalateTo := policy.get "escalate_to"
  if escalateTo.truthy && run.escalatedToMemberId.isNone then
    match resolveEscalation answers escalateTo with
    | some target =>
      ((desk.putRun (run.escalateTo target)).recordEvent run (.escalated (some target)), .escalated)
    | none =>
      if run.deliveryStatus = unresolvedAssignee then (desk, .keptPending)
      else ((desk.putRun run.leaveUnassigned).recordEvent run (.escalated none), .unresolved)
  else (desk, .keptPending)

/-- The instant of the next reminder, exact where Python rounds to microseconds. -/
def nextReminder : Except ApprovalError Rat := do
  let key := if (policy.get "reminder_every_hours").truthy then "reminder_every_hours" else "reminder_after_hours"
  let every ← policyNumber policy key .null
  let next := (now : Rat) + every * (minutes 60 : Nat)
  if next < datetimeMin ∨ datetimeMax < next then .error (.policyRange key)
  else return next

def StepRun.remind (run : StepRun) (next : Rat) : StepRun :=
  { run with
    reminderCount := run.reminderCount + 1
    nextReminderAt := some next
    status := if run.status = .escalated then .escalated else .reminded }

def remind : Except ApprovalError (ApprovalDesk × SlaOutcome) :=
  if (policy.get "reminder_after_hours").isNull then .ok (desk, .notDue)
  else do
    let reminderAfter ← policyNumber policy "reminder_after_hours" .null
    if run.elapsed now < reminderAfter then return (desk, .notDue)
    let maxReminders ← policyNumber policy "max_reminders" (.int 0)
    if maxReminders ≤ run.reminderCount then return (desk, .notDue)
    if run.nextReminderAt.any ((now : Rat) < ·) then return (desk, .notDue)
    let next ← nextReminder policy now
    return ((desk.putRun (run.remind next)).recordEvent run (.reminded (run.reminderCount + 1)), .reminded)

/-- A run past its timeout is approved or escalated, and any other reminded. -/
def processOneStepRun : Except ApprovalError (ApprovalDesk × SlaOutcome) :=
  if run.status = .held then .ok (desk, .skipped)
  else do
    let policy ← resolveSlaPolicy desk.versions run
    if !(policy.get "timeout_hours").truthy then return (desk, .skipped)
    let timeout ← policyNumber policy "timeout_hours" .null
    if timeout ≤ run.elapsed now then
      if (policy.getD "on_timeout" (.str "keep_pending")).isStr "auto_approve" then
        let (tried, approved) ← maybeAutoApprove desk run answers now
        if approved then return (tried, .autoApproved)
        return escalate tried run policy answers
      return escalate desk run policy answers
    remind desk run policy now

end Item

/-- The row of an item, unless another pass holds it or it no longer waits. -/
def slaRow (desk : ApprovalDesk) (stepRunId : Uuid) (answers : SlaAnswers) : Option StepRun :=
  (Keyed.find StepRun.id desk.runs stepRunId).filter fun run => slaStatuses.contains run.status && !answers.locked

/-- One item of a pass, in a transaction of its own. -/
def processSlaItem (desk : ApprovalDesk) (stepRunId : Uuid) (answers : SlaAnswers) (now : Nat) :
    Except ApprovalError (ApprovalDesk × SlaOutcome) :=
  match slaRow desk stepRunId answers with
  | none => .ok (desk, .skipped)
  | some run => processOneStepRun desk run answers now

def slaBatch (desk : ApprovalDesk) : List Uuid :=
  (((desk.runs.filter fun run => slaStatuses.contains run.status).insertionSort
    fun first second => first.startedAt ≤ second.startedAt).take slaBatchSize).map StepRun.id

section Spec
variable {desk tried after : ApprovalDesk} {run : StepRun} {policy : Json} {answers : SlaAnswers} {now : Nat}
  {approved : Bool} {outcome : SlaOutcome}

/-- The policy approves in place of a human: the run is past its timeout. -/
structure PolicyApproves (desk : ApprovalDesk) (run : StepRun) (now : Nat) : Prop where
  notHeld : run.status ≠ .held
  asks : ∃ policy timeout, resolveSlaPolicy desk.versions run = .ok policy ∧ (policy.get "timeout_hours").truthy = true ∧
    policyNumber policy "timeout_hours" .null = .ok timeout ∧ timeout ≤ run.elapsed now ∧
    (policy.getD "on_timeout" (.str "keep_pending")).isStr "auto_approve" = true

/-- The gate of the run may be approved by the pass, and its service takes the decision. -/
structure GateApproves (desk : ApprovalDesk) (run : StepRun) (answers : SlaAnswers) (now : Nat) (decided : ApprovalDesk) :
    Prop where
  allowed : autoApproveAllowed run answers.storyPoints = true
  taken : ∃ gate, run.gateId.bind (desk.gates.lookup run.orgId) = some gate ∧ terminalGate.contains gate.status = false ∧
    gate.isRecipeExternalPublish = false ∧
    desk.transition answers.drafts run.orgId gate.id .approved none none answers.lookups now = .ok decided

/-- A refused automatic approval may leave a note of it, and nothing else. -/
def Refused (desk : ApprovalDesk) (run : StepRun) (tried : ApprovalDesk) : Prop :=
  tried = desk ∨ tried = desk.recordEvent run .autoApproveSkipped

theorem maybe_auto_approve_spec (executed : maybeAutoApprove desk run answers now = .ok (tried, approved)) :
    if approved then ∃ decided, GateApproves desk run answers now decided ∧ tried = decided.recordEvent run .autoApproved
    else Refused desk run tried := by
  unfold maybeAutoApprove at executed
  split at executed
  · cases executed
    exact .inl rfl
  next gate found =>
    split at executed
    · cases executed
      exact .inl rfl
    next live =>
      split at executed
      · cases executed
        exact .inl rfl
      next allowed =>
        split at executed
        · cases executed
          exact .inr rfl
        next ordinary =>
          obtain ⟨decided, taken, executed⟩ := Runs.bind_ok executed
          cases executed
          exact ⟨decided, ⟨by simpa using allowed, gate, found, by simpa using live, by simpa using ordinary, taken⟩, rfl⟩

/-- What one item of a pass can do to a run that waits for a decision. -/
inductive SlaStep (desk : ApprovalDesk) (run : StepRun) (answers : SlaAnswers) (now : Nat) :
    ApprovalDesk → SlaOutcome → Prop where
  | kept {tried : ApprovalDesk} {outcome : SlaOutcome} (refused : Refused desk run tried)
      (quiet : outcome = .skipped ∨ outcome = .keptPending ∨ outcome = .notDue) : SlaStep desk run answers now tried outcome
  | escalated {tried : ApprovalDesk} {target : Uuid} (refused : Refused desk run tried)
      (first : run.escalatedToMemberId = none) :
      SlaStep desk run answers now
        ((tried.putRun (run.escalateTo target)).recordEvent run (.escalated (some target))) .escalated
  | unresolved {tried : ApprovalDesk} (refused : Refused desk run tried) (first : run.escalatedToMemberId = none)
      (unmarked : run.deliveryStatus ≠ unresolvedAssignee) :
      SlaStep desk run answers now ((tried.putRun run.leaveUnassigned).recordEvent run (.escalated none)) .unresolved
  | reminded {policy : Json} {maxReminders next : Rat} (published : resolveSlaPolicy desk.versions run = .ok policy)
      (bound : policyNumber policy "max_reminders" (.int 0) = .ok maxReminders) (room : run.reminderCount < maxReminders) :
      SlaStep desk run answers now
        ((desk.putRun (run.remind next)).recordEvent run (.reminded (run.reminderCount + 1))) .reminded
  | approved {decided : ApprovalDesk} (asked : PolicyApproves desk run now)
      (taken : GateApproves desk run answers now decided) :
      SlaStep desk run answers now (decided.recordEvent run .autoApproved) .autoApproved

theorem escalate_step (policy : Json) (refused : Refused desk run tried) :
    SlaStep desk run answers now (escalate tried run policy answers).1 (escalate tried run policy answers).2 := by
  unfold escalate
  dsimp only
  split
  next opens =>
    have first : run.escalatedToMemberId = none := by simpa using (Bool.and_eq_true_iff.mp opens).2
    split
    · exact .escalated refused first
    · split
      · exact .kept refused (.inr (.inl rfl))
      next unmarked => exact .unresolved refused first unmarked
  · exact .kept refused (.inr (.inl rfl))

theorem remind_step (published : resolveSlaPolicy desk.versions run = .ok policy)
    (executed : remind desk run policy now = .ok (after, outcome)) : SlaStep desk run answers now after outcome := by
  have idle : SlaStep desk run answers now desk .notDue := .kept (.inl rfl) (.inr (.inr rfl))
  unfold remind at executed
  split at executed
  · cases executed
    exact idle
  · obtain ⟨reminderAfter, -, executed⟩ := Runs.bind_ok executed
    split at executed
    · cases executed
      exact idle
    obtain ⟨maxReminders, bound, executed⟩ := Runs.bind_ok executed
    split at executed
    · cases executed
      exact idle
    next room =>
      split at executed
      · cases executed
        exact idle
      obtain ⟨next, -, executed⟩ := Runs.bind_ok executed
      cases executed
      exact .reminded published bound (not_le.mp room)

theorem process_step (executed : processOneStepRun desk run answers now = .ok (after, outcome)) :
    SlaStep desk run answers now after outcome := by
  unfold processOneStepRun at executed
  split at executed
  · cases executed
    exact .kept (.inl rfl) (.inl rfl)
  next notHeld =>
    obtain ⟨policy, published, executed⟩ := Runs.bind_ok executed
    split at executed
    · cases executed
      exact .kept (.inl rfl) (.inl rfl)
    next limited =>
      obtain ⟨timeout, limit, executed⟩ := Runs.bind_ok executed
      split at executed
      next late =>
        split at executed
        next asks =>
          obtain ⟨⟨tried, approved⟩, attempted, executed⟩ := Runs.bind_ok executed
          have spec := maybe_auto_approve_spec attempted
          cases approved with
          | true =>
            obtain ⟨decided, taken, rfl⟩ := spec
            cases executed
            exact .approved ⟨notHeld, policy, timeout, published, by simpa using limited, limit, late, asks⟩ taken
          | false =>
            have same : escalate tried run policy answers = (after, outcome) := Except.ok.inj executed
            have step : SlaStep desk run answers now _ _ := escalate_step policy spec
            rw [same] at step
            exact step
        · have same : escalate desk run policy answers = (after, outcome) := Except.ok.inj executed
          have step : SlaStep desk run answers now _ _ := escalate_step policy (.inl rfl)
          rw [same] at step
          exact step
      · exact remind_step published executed

theorem process_approves {decided : ApprovalDesk} (asked : PolicyApproves desk run now)
    (taken : GateApproves desk run answers now decided) :
    processOneStepRun desk run answers now = .ok (decided.recordEvent run .autoApproved, .autoApproved) := by
  obtain ⟨notHeld, policy, timeout, published, limited, limit, late, asks⟩ := asked
  obtain ⟨allowed, gate, found, live, ordinary, decision⟩ := taken
  have attempted : maybeAutoApprove desk run answers now = .ok (decided.recordEvent run .autoApproved, true) := by
    unfold maybeAutoApprove
    simp only [found, live, allowed, ordinary, decision, Bool.false_eq_true, Bool.not_true, if_false]
    rfl
  unfold processOneStepRun
  rw [if_neg notHeld, published]
  simp only [bind, Except.bind, limited, limit, late, asks, attempted, Bool.not_true, Bool.false_eq_true, if_true, if_false]
  rfl

theorem sla_row_spec {stepRunId : Uuid} (found : slaRow desk stepRunId answers = some run) :
    run ∈ desk.runs ∧ run.id = stepRunId ∧ run.status ∈ slaStatuses := by
  obtain ⟨selected, waits⟩ := Option.filter_eq_some_iff.mp found
  simp only [Bool.and_eq_true, List.contains_iff_mem] at waits
  exact ⟨Keyed.find_mem selected, Keyed.find_key selected, waits.1⟩

end Spec

end Sprintable.Lines
