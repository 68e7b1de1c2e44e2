import Mathlib.Data.List.Sort
import Sprintable.Gates.Merge
import Sprintable.Logic.Runs
import Sprintable.Lines.Model

/-! Evaluation of a workflow line for one status transition. Whatever an
evaluation calls may raise, and the engine then lets the transition proceed. -/

namespace Sprintable.Lines

open Gates

structure EngineSettings where
  decisionGateLineEnabled : Bool
  decisionGateLineOrgAllowlist : Option String
  decisionGateLineMode : Option String

structure LineDesk where
  definitions : List LineDefinition := []
  versions : List LineVersion := []
  runs : List StepRun := []
  gates : Table := []

structure Failure where
  className : String
  message : String
  deriving DecidableEq, Repr

structure LineRequest where
  orgId : Uuid
  projectId : Option Uuid
  entityType : String
  entityId : Uuid
  fromStatus : Option String
  toStatus : String
  dryRun : Bool := false

/-- The outcome scores of a member, as the trust query returns them. -/
structure TrustScores where
  primarySource : Json
  hypothesisHitRate : Json
  resolved : Int
  hit : Int
  pending : Int

/-- What the callees outside the engine answer to one evaluation, or the
exception that they raise: the three queries, the grandfather register, the
routing context and the evidence that the merge evaluation collects. `saved`
tells whether the insert of the step run survives its savepoint, and a call
without an actor has no trust scores. -/
structure LineAnswers where
  circuitQuery : Except Failure Unit
  definitionQuery : Except Failure Unit
  versionQuery : Except Failure Unit
  grandfathered : Except Failure Bool
  routingContext : Except Failure Unit
  mergeEvidence : Except Failure MergeEvidence
  mergeRaises : GateError → Failure
  saved : Bool
  stepRunId : Uuid
  trustScores : Option TrustScores := none

structure LineDecision where
  mode : DecisionMode
  statusToApply : Option String
  gateId : Option Uuid := none
  stepRunId : Option Uuid := none
  blockingReason : Option String := none
  httpStatus : Option Nat := none
  degradedToPlain : Bool := false
  relayStepRunId : Option Uuid := none
  effectiveGateType : Option String := none

/-- The caller applies the transition exactly on these modes. -/
def LineDecision.proceeds (decision : LineDecision) : Bool :=
  decision.mode == .plainTransition || decision.mode == .advisoryOnly || decision.mode == .engineFailed

def LineDecision.plain : LineDecision where
  mode := .plainTransition
  statusToApply := none

section Modes

def modeOrder : List String := ["off", "shadow", "advisory", "enforcing"]

/-- The text of a mode. A configured value that is no string has a text of its
own, which names no mode and is left out. -/
abbrev ModeText := Option String

def modeRank (mode : ModeText) : Nat := (mode.bind modeOrder.idxOf?).getD 0

def minMode (a b : ModeText) : ModeText := if modeRank a ≤ modeRank b then a else b

theorem min_mode_left (a b : ModeText) : modeRank (minMode a b) ≤ modeRank a := by
  unfold minMode
  split <;> omega

theorem min_mode_right (a b : ModeText) : modeRank (minMode a b) ≤ modeRank b := by
  unfold minMode
  split <;> omega

def orgAllowlist (settings : EngineSettings) : List Uuid :=
  ((settings.decisionGateLineOrgAllowlist.getD "").toList.splitOn ',').filterMap fun entry =>
    let name := PyText.strip (String.ofList entry)
    if name = "" then none else PyText.uuidOf name

def configuredMode (settings : EngineSettings) : String :=
  let mode := PyText.lower (PyText.strip ((settings.decisionGateLineMode.filter (· ≠ "")).getD "off"))
  if mode ∈ modeOrder then mode else "off"

def cbWindow : Nat := minutes 5

def cbThreshold : Nat := 5

def cbDegrade : Nat := minutes 15

/-- Starting instants of the organisation's recent engine failures, oldest first. -/
def engineFailures (runs : List StepRun) (orgId : Uuid) (now : Nat) : List Nat :=
  ((runs.filter fun run => run.orgId == orgId && run.status == .engineFailed &&
    decide (now < run.startedAt + (cbWindow + cbDegrade))).map StepRun.startedAt).insertionSort (· ≤ ·)

/-- Some run of failures as long as the threshold fits one window, and its last
failure is recent enough. -/
def circuitOpen (failures : List Nat) (now : Nat) : Bool :=
  if failures.length < cbThreshold then false
  else
    (List.range failures.length).any fun i =>
      match failures[i]?, failures[i + cbThreshold - 1]? with
      | some first, some last => decide (last ≤ first + cbWindow) && decide (now ≤ last + cbDegrade)
      | _, _ => false

def resolveRuntimeMode (settings : EngineSettings) (desk : LineDesk) (answers : LineAnswers) (orgId : Uuid) (now : Nat) :
    Except Failure ModeText :=
  if !settings.decisionGateLineEnabled then .ok (some "off")
  else
    let allow := orgAllowlist settings
    if allow ≠ [] ∧ orgId ∉ allow then .ok (some "off")
    else
      let base := configuredMode settings
      if base = "off" then .ok (some "off")
      else do
        answers.circuitQuery
        if circuitOpen (engineFailures desk.runs orgId now) now then return minMode (some base) (some "advisory")
        else return some base

end Modes

section Config

/-- The project's own active line, or else that of the organisation. -/
def activeDefinition (definitions : List LineDefinition) (orgId : Uuid) (projectId : Option Uuid) (entityType : String) :
    Option LineDefinition :=
  let candidates := definitions.filter fun definition =>
    definition.orgId == orgId && definition.entityType == entityType && definition.isActive
  let own := if projectId.isSome then candidates.find? fun definition => definition.projectId == projectId else none
  own.or (candidates.find? fun definition => definition.projectId == none)

def publishedConfig (versions : List LineVersion) (definition : LineDefinition) : Json :=
  let published := versions.filter fun version =>
    version.lineDefinitionId == some definition.id && version.status == .published
  match (published.insertionSort fun a b => b.version ≤ a.version).head? with
  | some version => version.config.asObj
  | none => .obj []

/-- `str(config.get("rollout_mode") or "shadow").strip()`. -/
def rolloutMode (config : Json) : ModeText :=
  let configured := config.get "rollout_mode"
  if configured.truthy then configured.text.map PyText.strip else some "shadow"

def Json.isOptional (json : Json) (value : Option String) : Bool :=
  match json, value with
  | .null, none => true
  | .str text, some wanted => text == wanted
  | _, _ => false

def stepMatches (fromStatus : Option String) (toStatus : String) (step : Json) : Bool :=
  step.isObj && (step.get "to_status").isStr toStatus &&
    (Json.isOptional (step.get "from_status") fromStatus || Json.isOptional (step.get "from_status") none)

def typeFailure (failure : Json.TypeFailure) : Failure :=
  match failure with
  | .notIterable => ⟨"TypeError", "object is not iterable"⟩
  | .unhashable => ⟨"TypeError", "unhashable type"⟩

def matchStep (config : Json) (fromStatus : Option String) (toStatus : String) : Except Failure (Option Json) :=
  match (config.get "steps").items with
  | .ok steps => .ok (steps.find? (stepMatches fromStatus toStatus))
  | .error failure => .error (typeFailure failure)

def isMergeGateStep (step : Json) : Bool :=
  (step.get "step_type").isStr "merge-gate" || (step.get "gate_type").isStr "merge"

def isBlockingStep (step : Json) : Bool := (step.get "enforcement").isStr "block"

end Config

structure GoverningLine where
  definition : LineDefinition
  config : Json
  runtimeMode : ModeText
  mode : ModeText

section Evaluation
variable (settings : EngineSettings) (desk : LineDesk) (answers : LineAnswers) (request : LineRequest) (now : Nat)

/-- The line that governs the transition, unless a mode is off or no line is active. -/
def governingLine : Except Failure (Option GoverningLine) := do
  let runtimeMode ← resolveRuntimeMode settings desk answers request.orgId now
  if runtimeMode = some "off" then return none
  answers.definitionQuery
  match activeDefinition desk.definitions request.orgId request.projectId request.entityType with
  | none => return none
  | some definition =>
    answers.versionQuery
    let config := publishedConfig desk.versions definition
    let configMode := rolloutMode config
    if configMode = some "off" then return none
    let mode := minMode runtimeMode configMode
    if mode = some "off" then return none
    return some ⟨definition, config, runtimeMode, mode⟩

/-- The dry run asks the register of grandfathered items for stories only. -/
def grandfathered : Except Failure Bool :=
  if request.dryRun && request.entityType != "story" then .ok false else answers.grandfathered

def governingStep : Except Failure (Option (GoverningLine × Json)) := do
  match ← governingLine settings desk answers request now with
  | none => return none
  | some line =>
    if ← grandfathered answers request then return none
    return (← matchStep line.config request.fromStatus request.toStatus).map fun step => (line, step)

/-- The trust of the actor before the verdict. A member without resolved outcomes
starts cold, and so does a call without an actor. -/
def resolveTrustSnapshot : Option TrustScores → Json
  | none =>
    .obj [("primary_source", .str "hypothesis_outcome"), ("cold_start", .bool true), ("reason", .str "no_member"),
      ("hypothesis_hit_rate", .null), ("resolved", .int 0), ("hit", .int 0), ("pending", .int 0),
      ("captured_before_verdict", .bool true)]
  | some scores =>
    .obj [("primary_source", scores.primarySource), ("hypothesis_hit_rate", scores.hypothesisHitRate),
      ("resolved", .int scores.resolved), ("hit", .int scores.hit), ("pending", .int scores.pending),
      ("cold_start", .bool (scores.resolved == 0)), ("role_key", .null), ("captured_before_verdict", .bool true)]

/-- The trust that the routing context holds. It reads no scores for a type
that no line may gate. -/
def routingTrust : Json :=
  if ["story", "hypothesis", "doc", "epic", "sprint"].contains request.entityType then
    resolveTrustSnapshot answers.trustScores
  else .obj [("cold_start", .bool true), ("captured_before_verdict", .bool true)]

/-- Insert one step run: nothing in a dry run, an exception without a project,
and no row when the insert fails in its savepoint. -/
def recordStepRun (runs : List StepRun) (definitionId : Option Uuid) (status : StepRunStatus) (mode : DecisionMode)
    (gateId : Option Uuid) (trustSnapshot : Json) : Except Failure (List StepRun × Option Uuid) :=
  if request.dryRun then .ok (runs, none)
  else
    match request.projectId with
    | none => .error ⟨"ValueError", "step_run project_id is required"⟩
    | some projectId =>
      if !answers.saved then .ok (runs, none)
      else
        let run : StepRun :=
          { id := answers.stepRunId, orgId := request.orgId, projectId, lineDefinitionId := definitionId
            entityType := request.entityType, entityId := request.entityId
            fromStatus := request.fromStatus, toStatus := request.toStatus
            status, mode, gateId, h1GateId := gateId, startedAt := now, trustSnapshot }
        .ok (runs ++ [run], some run.id)

/-- Record the run of a decision. The desk keeps what was written before a failure. -/
def LineDesk.record (definition : LineDefinition) (status : StepRunStatus) (gateId : Option Uuid)
    (decision : LineDecision) : LineDesk × Except Failure LineDecision :=
  match recordStepRun answers request now desk.runs (some definition.id) status decision.mode gateId
      (routingTrust answers request) with
  | .ok (runs, stepRunId) => ({ desk with runs }, .ok { decision with stepRunId })
  | .error failure => (desk, .error failure)

def mergeGateWrapper (definition : LineDefinition) : LineDesk × Except Failure LineDecision :=
  if request.dryRun then
    (desk, .ok {
      mode := .gatePending, statusToApply := none
      blockingReason := some "merge-gate (dry-run preview · 정확 verdict 미계산: CI/PR 동적 상태 의존)"
      httpStatus := some 202, effectiveGateType := some "merge" })
  else
    match answers.mergeEvidence with
    | .error failure => (desk, .error failure)
    | .ok evidence =>
      let report := { evidence with
        orgId := request.orgId, storyId := request.entityId, prNumber := 0, repo := ""
        ciResult := none, prResult := none, headSha := none }
      match evaluateMergeGate desk.gates report now with
      | .error error => (desk, .error (answers.mergeRaises error))
      | .ok (gates, verdict) =>
        let evaluated := { desk with gates }
        let gateId := verdict.gateId
        match verdict.decision with
        | .autoMerge =>
          evaluated.record answers request now definition .applied gateId
            { mode := .advisoryOnly, statusToApply := some request.toStatus, gateId }
        | .block =>
          evaluated.record answers request now definition .blockedByPolicy gateId
            { mode := .blockedByPolicy, statusToApply := none, gateId
              blockingReason := some "merge gate blocks this transition", httpStatus := some 409 }
        | .askHuman =>
          evaluated.record answers request now definition .waitingGate gateId
            { mode := .gatePending, statusToApply := none, gateId
              blockingReason := some "merge gate requires human approval", httpStatus := some 409 }

/-- The decision of a matched step. A handoff step hands its run to the relay. -/
def decideStep (line : GoverningLine) (step : Json) : LineDesk × Except Failure LineDecision :=
  if line.mode = some "enforcing" ∧ isBlockingStep step then
    desk.record answers request now line.definition .blockedByPolicy none
      { mode := .blockedByPolicy, statusToApply := none
        blockingReason := some "workflow line policy blocks this transition", httpStatus := some 409 }
  else if line.mode = some "enforcing" ∧ isMergeGateStep step then
    mergeGateWrapper desk answers request now line.definition
  else
    let (after, decision) := desk.record answers request now line.definition .routingResolved none
      { mode := .advisoryOnly, statusToApply := some request.toStatus }
    let relay := line.mode = some "enforcing" ∧ (step.get "step_type").isStr "agent-handoff"
    (after, decision.map fun advisory =>
      { advisory with relayStepRunId := if relay then advisory.stepRunId else none })

def attemptEvaluation : LineDesk × Except Failure LineDecision :=
  match governingStep settings desk answers request now with
  | .error failure => (desk, .error failure)
  | .ok none => (desk, .ok .plain)
  | .ok (some (line, step)) =>
    match answers.routingContext with
    | .error failure => (desk, .error failure)
    | .ok _ => decideStep desk answers request now line step

/-- The run of a failed evaluation is recorded if that does not raise as well. -/
def degrade : LineDesk × LineDecision :=
  let failed : LineDecision :=
    { mode := .engineFailed, statusToApply := some request.toStatus, degradedToPlain := true }
  match recordStepRun answers request now desk.runs none .engineFailed .engineFailed none (.obj []) with
  | .ok (runs, stepRunId) => ({ desk with runs }, { failed with stepRunId })
  | .error _ => (desk, failed)

def evaluateLineForTransition : LineDesk × LineDecision :=
  match attemptEvaluation settings desk answers request now with
  | (after, .ok decision) => (after, decision)
  | (after, .error _) => degrade after answers request now

end Evaluation

section Law
variable {settings : EngineSettings} {desk after : LineDesk} {answers : LineAnswers} {request : LineRequest} {now : Nat}
  {line : GoverningLine} {step : Json} {decision : LineDecision}

theorem open_circuit_mode {mode : ModeText} (circuit : circuitOpen (engineFailures desk.runs request.orgId now) now = true)
    (resolved : resolveRuntimeMode settings desk answers request.orgId now = .ok mode) :
    modeRank mode ≤ modeRank (some "advisory") := by
  have off : modeRank (some "off") ≤ modeRank (some "advisory") := by decide
  unfold resolveRuntimeMode at resolved
  by_cases enabled : settings.decisionGateLineEnabled = true
  · by_cases excluded : orgAllowlist settings ≠ [] ∧ request.orgId ∉ orgAllowlist settings
    · simp only [enabled, Bool.not_true, Bool.false_eq_true, if_false, if_pos excluded] at resolved
      exact Except.ok.inj resolved ▸ off
    · by_cases disabled : configuredMode settings = "off"
      · simp only [enabled, Bool.not_true, Bool.false_eq_true, if_false, if_neg excluded, if_pos disabled] at resolved
        exact Except.ok.inj resolved ▸ off
      · simp only [enabled, Bool.not_true, Bool.false_eq_true, if_false, if_neg excluded, if_neg disabled,
          if_pos circuit] at resolved
        obtain ⟨_, _, lowered⟩ := Runs.bind_ok resolved
        exact Except.ok.inj lowered ▸ min_mode_right _ _
  · simp only [Bool.not_eq_true] at enabled
    simp only [enabled, Bool.not_false, if_true] at resolved
    exact Except.ok.inj resolved ▸ off

theorem governing_line_spec (governs : governingLine settings desk answers request now = .ok (some line)) :
    resolveRuntimeMode settings desk answers request.orgId now = .ok line.runtimeMode ∧
    activeDefinition desk.definitions request.orgId request.projectId request.entityType = some line.definition ∧
    line.config = publishedConfig desk.versions line.definition ∧
    line.mode = minMode line.runtimeMode (rolloutMode line.config) := by
  unfold governingLine at governs
  obtain ⟨runtimeMode, resolved, governs⟩ := Runs.bind_ok governs
  split at governs
  · cases governs
  obtain ⟨_, _, governs⟩ := Runs.bind_ok governs
  split at governs
  · cases governs
  next definition active =>
    obtain ⟨_, _, governs⟩ := Runs.bind_ok governs
    dsimp only at governs
    split at governs
    · cases governs
    split at governs
    · cases governs
    · cases governs
      exact ⟨resolved, active, rfl, rfl⟩

theorem governing_step_spec (governs : governingStep settings desk answers request now = .ok (some (line, step))) :
    governingLine settings desk answers request now = .ok (some line) ∧
    matchStep line.config request.fromStatus request.toStatus = .ok (some step) := by
  unfold governingStep at governs
  obtain ⟨found, governing, governs⟩ := Runs.bind_ok governs
  cases found with
  | none => cases governs
  | some governed =>
    obtain ⟨exempt, _, governs⟩ := Runs.bind_ok governs
    cases exempt with
    | true => cases governs
    | false =>
      obtain ⟨matched, matching, governs⟩ := Runs.bind_ok governs
      cases matched with
      | none => cases governs
      | some selected =>
        cases governs
        exact ⟨governing, matching⟩

theorem record_mode {definition : LineDefinition} {status : StepRunStatus} {gateId : Option Uuid} {given : LineDecision}
    (recorded : (desk.record answers request now definition status gateId given).2 = .ok decision) :
    decision.mode = given.mode := by
  unfold LineDesk.record at recorded
  split at recorded
  · cases recorded
    rfl
  · cases recorded

theorem decide_forbids (decided : (decideStep desk answers request now line step).2 = .ok decision)
    (forbids : decision.proceeds = false) :
    line.mode = some "enforcing" ∧ (isBlockingStep step = true ∨ isMergeGateStep step = true) := by
  unfold decideStep at decided
  split at decided
  next blocks => exact ⟨blocks.1, .inl blocks.2⟩
  split at decided
  next gated => exact ⟨gated.1, .inr gated.2⟩
  next advisory =>
    exfalso
    dsimp only at decided
    cases recorded : (desk.record answers request now line.definition .routingResolved none
        { mode := .advisoryOnly, statusToApply := some request.toStatus }).2 with
    | error failure =>
      rw [recorded] at decided
      cases decided
    | ok advised =>
      rw [recorded] at decided
      cases decided
      simp [LineDecision.proceeds, record_mode recorded] at forbids

theorem degrade_proceeds : (degrade desk answers request now).2.proceeds = true := by
  unfold degrade
  dsimp only
  split <;> rfl

end Law

/-- Evaluation is fail-open and bounded by its modes, whatever its callees answer
or raise. -/
theorem line_fail_open (settings : EngineSettings) (desk : LineDesk) (answers : LineAnswers) (request : LineRequest)
    (now : Nat) :
    ((evaluateLineForTransition settings desk answers request now).2.proceeds = false →
      ∃ line step, governingLine settings desk answers request now = .ok (some line) ∧
        matchStep line.config request.fromStatus request.toStatus = .ok (some step) ∧
        line.mode = some "enforcing" ∧ (isBlockingStep step = true ∨ isMergeGateStep step = true)) ∧
    ∀ line, governingLine settings desk answers request now = .ok (some line) →
      resolveRuntimeMode settings desk answers request.orgId now = .ok line.runtimeMode ∧
      activeDefinition desk.definitions request.orgId request.projectId request.entityType = some line.definition ∧
      line.config = publishedConfig desk.versions line.definition ∧
      modeRank line.mode ≤ modeRank line.runtimeMode ∧ modeRank line.mode ≤ modeRank (rolloutMode line.config) ∧
      (circuitOpen (engineFailures desk.runs request.orgId now) now = true → line.mode ≠ some "enforcing") := by
  refine ⟨fun forbids => ?_, fun line governs => ?_⟩
  · unfold evaluateLineForTransition at forbids
    split at forbids
    next after decision attempted =>
      unfold attemptEvaluation at attempted
      split at attempted
      · cases attempted
      · cases attempted
        cases forbids
      next line step governs =>
        obtain ⟨governing, matching⟩ := governing_step_spec governs
        split at attempted
        · cases attempted
        · have decided := congrArg Prod.snd attempted
          obtain ⟨enforcing, forbidding⟩ := decide_forbids decided forbids
          exact ⟨line, step, governing, matching, enforcing, forbidding⟩
    · rw [degrade_proceeds] at forbids
      cases forbids
  · obtain ⟨resolved, active, published, mode⟩ := governing_line_spec governs
    have below := min_mode_left line.runtimeMode (rolloutMode line.config)
    rw [← mode] at below
    refine ⟨resolved, active, published, below, mode ▸ min_mode_right _ _, fun circuit enforcing => ?_⟩
    have advisory := below.trans (open_circuit_mode circuit resolved)
    rw [enforcing] at advisory
    revert advisory
    decide

section Samples

/-- Five engine failures within one minute, a line that enforces a block, and a
transition that it matches. -/
def sampleLineDesk (failures : Nat) : LineDesk where
  definitions := [{ id := 1, orgId := 2, entityType := "doc" }]
  versions := [{ id := 3, lineDefinitionId := some 1, orgId := 2, entityType := "doc", version := 1, status := .published
                 config := .obj [("rollout_mode", .str "enforcing"),
                   ("steps", .arr [.obj [("to_status", .str "confirmed"), ("enforcement", .str "block")]])]
                 configHash := "h", createdByMemberId := 4 }]
  runs := (List.range failures).map fun i =>
    { id := 10 + i, orgId := 2, projectId := 5, entityType := "doc", entityId := 6, toStatus := "confirmed"
      status := .engineFailed, mode := .engineFailed, startedAt := seconds (1000 + i) }

def sampleLineSettings : EngineSettings where
  decisionGateLineEnabled := true
  decisionGateLineOrgAllowlist := none
  decisionGateLineMode := some "enforcing"

def sampleLineAnswers : LineAnswers where
  circuitQuery := .ok ()
  definitionQuery := .ok ()
  versionQuery := .ok ()
  grandfathered := .ok false
  routingContext := .ok ()
  mergeEvidence := .error ⟨"RuntimeError", "unavailable"⟩
  mergeRaises _ := ⟨"ValueError", "gate"⟩
  saved := true
  stepRunId := 100

def sampleLineRequest : LineRequest where
  orgId := 2
  projectId := some 5
  entityType := "doc"
  entityId := 6
  fromStatus := some "draft"
  toStatus := "confirmed"

end Samples

/-- An enforced block forbids, and the same evaluation proceeds under an open circuit. -/
theorem line_fail_open_sample :
    (∃ line step, governingLine sampleLineSettings (sampleLineDesk 4) sampleLineAnswers sampleLineRequest
          (seconds 1100) = .ok (some line) ∧
        matchStep line.config (some "draft") "confirmed" = .ok (some step) ∧
        line.mode = some "enforcing" ∧ (isBlockingStep step = true ∨ isMergeGateStep step = true)) ∧
      ∃ line, governingLine sampleLineSettings (sampleLineDesk 5) sampleLineAnswers sampleLineRequest
          (seconds 1100) = .ok (some line) ∧ line.mode ≠ some "enforcing" := by
  obtain ⟨forbidden, -⟩ := line_fail_open sampleLineSettings (sampleLineDesk 4) sampleLineAnswers sampleLineRequest
    (seconds 1100)
  obtain ⟨-, bounded⟩ := line_fail_open sampleLineSettings (sampleLineDesk 5) sampleLineAnswers sampleLineRequest
    (seconds 1100)
  refine ⟨forbidden (by decide +kernel), ?_⟩
  have circuit : circuitOpen (engineFailures (sampleLineDesk 5).runs 2 (seconds 1100)) (seconds 1100) = true := by
    decide +kernel
  cases governs : governingLine sampleLineSettings (sampleLineDesk 5) sampleLineAnswers sampleLineRequest (seconds 1100) with
  | error failure => cases governs
  | ok found =>
    cases found with
    | none => cases governs
    | some line => exact ⟨line, rfl, (bounded line governs).2.2.2.2.2 circuit⟩

end Sprintable.Lines
