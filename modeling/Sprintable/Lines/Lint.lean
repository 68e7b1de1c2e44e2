import Sprintable.Lines.Model

/-! The publish lint of a workflow line config. A value of an unexpected JSON
type is a finding where the lint checks for it, and an exception elsewhere. -/

namespace Sprintable.Lines

open Json (TypeFailure)

def workflowEventAllowlist : List String :=
  ["dispatched", "story_assigned", "conversation.message_created", "conversation:mention", "kickoff", "review_request",
    "qa_request", "deploy_request", "handoff"]

def allowedRoutingFields : List String :=
  ["trust_score", "risk_level", "outcome_status", "entity_type", "from_status", "to_status", "assignee_type",
    "story_points", "actor_type"]

def allowedRoutingOps : List String := ["eq", "ne", "lt", "lte", "gt", "gte", "in", "not_in"]

def humanStepTypes : List String := ["human-gate", "merge-gate"]

def lintCondition (loc condition : Json) : Except TypeFailure (List LintError) :=
  if !condition.isObj then .ok []
  else do
    let field := condition.get "field"
    let op := condition.get "op"
    let knownField ← field.memberOf allowedRoutingFields
    let knownOp ← op.memberOf allowedRoutingOps
    return (if knownField then [] else [.routingField loc field]) ++ (if knownOp then [] else [.routingOp loc op])

def lintRule (loc : Json) (index : Nat) (rule : Json) : Except TypeFailure (List LintError) :=
  if !rule.isObj then .ok [.ruleNotObject loc index]
  else do
    let mode := rule.get "mode"
    let knownMode := match mode with
      | .null => true
      | _ => mode.isStr "all" || mode.isStr "any"
    let conditions ← (rule.get "conditions").items
    let found ← conditions.mapM (lintCondition loc)
    let catchAll := (rule.get "catch_all").truthy && (rule.get "decision").isStr "auto_route"
    return (if knownMode then [] else [.routingMode loc mode]) ++ found.flatten ++
      (if catchAll then [.catchAllAutoRoute loc] else [])

/-- The events that a step may emit, in the order of its keys. -/
def collectEventTypes (step : Json) : List String :=
  let emitted := ["on_approve", "on_reject"].filterMap fun key =>
    let block := step.get key
    let event := block.get "emit_event"
    if block.isObj then (if event.truthy then event else block.get "event_type").text else none
  emitted ++ (step.get "event_type").text.toList

/-- A human step needs an approver other than its author, and a fallback. -/
def lintApproval (loc step : Json) : List LintError :=
  let stepType := step.get "step_type"
  let approval := (step.get "approval_policy").asObj
  let assignee := (step.get "assignee_policy").asObj
  let approvers := approval.get "approvers"
  let onlySelf := match approvers with
    | .arr [sole] => sole.isStr "self"
    | _ => false
  let unattended := !approvers.truthy && !(approval.get "approver_role").truthy
  let selfOnly := (approval.get "self_approval").isStr "allow_only" || onlySelf || (approval.get "only_self").truthy
  let covered := ["fallback", "deputy", "fallback_role"].any fun key => (assignee.get key).truthy
  (if unattended then [.noApprover loc stepType] else []) ++ (if selfOnly then [.selfApprovalOnly loc] else []) ++
    (if covered then [] else [.noFallback loc stepType])

/-- The findings of one step, and whether it leaves a way forward. -/
def lintStep (step : Json) (index : Nat) : Except TypeFailure (List LintError × Bool) :=
  if !step.isObj then .ok ([.stepNotObject index], false)
  else do
    let stepKey := step.get "step_key"
    let loc := if stepKey.truthy then stepKey else .str ("step[" ++ toString index ++ "]")
    let stepType := step.get "step_type"
    let rules ← (step.get "routing_rules").items
    let routing ← rules.zipIdx.mapM fun (rule, position) => lintRule loc position rule
    let decisions ← rules.mapM fun rule => (rule.asObj.get "decision").hashable
    let onlyBlocks := !decisions.isEmpty && decisions.all fun decision => decision.isStr "block"
    let forward := (!stepType.isStr "advisory" && !onlyBlocks) || !(step.get "routing_rules").truthy
    let human ← stepType.memberOf humanStepTypes
    let sla := (step.get "sla_policy").asObj
    let highRisk := match sla with
      | .obj entries => ((entries.lookup "applies_to_high_risk").getD (.bool true)).truthy
      | _ => true
    let timeout := (sla.get "on_timeout").isStr "auto_approve" && (human || highRisk)
    let events := (collectEventTypes step).filter fun event => !workflowEventAllowlist.contains event
    return (routing.flatten ++ (if human then lintApproval loc step else []) ++
      (if timeout then [.highRiskTimeoutAutoApprove loc] else []) ++ events.map (.eventNotInAllowlist loc), forward)

def lintConfig (config : Json) : Except TypeFailure (List LintError) :=
  match config.get "steps" with
  | .arr [] => .ok [.noSteps]
  | .arr steps => do
    let findings ← steps.zipIdx.mapM fun (step, index) => lintStep step index
    let forward := findings.any Prod.snd
    return (findings.map Prod.fst).flatten ++ (if forward then [] else [.allTransitionsBlocked])
  | _ => .ok [.stepsNotList]

theorem lint_passed_config {config : Json} (passed : lintConfig config = .ok []) :
    config.isObj = true ∧ config.truthy = true := by
  unfold lintConfig at passed
  cases config with
  | obj entries =>
    cases entries with
    | nil => cases passed
    | cons entry rest => exact ⟨rfl, rfl⟩
  | _ => cases passed

end Sprintable.Lines
