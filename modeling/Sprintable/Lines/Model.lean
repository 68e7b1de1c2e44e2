import Sprintable.Basic
import Sprintable.Logic.Json

/-! The rows of the workflow line engine: a step run records one status
transition of a work item that a line governs, and its approval rows name the
members who decide it together. -/

namespace Sprintable.Lines

inductive StepRunStatus where
  | pending | routingResolved | dispatched | waitingGate | waitingParallel | gatePending | reminded | escalated
  | held | approved | rejected | applied | skipped | withdrawn | blockedByPolicy | engineFailed
  deriving DecidableEq, Repr

/-- How an evaluation ended; it also is the mode column of the step run. -/
inductive DecisionMode where
  | plainTransition | advisoryOnly | gatePending | blockedByPolicy | engineFailed
  deriving DecidableEq, Repr

inductive QuorumType where
  | all | any | count
  deriving DecidableEq, Repr

structure QuorumPolicy where
  type : QuorumType := .all
  count : Option Int := none
  rejectPolicy : String := "any_reject_blocks"
  deriving DecidableEq, Repr

structure StepRun where
  id : Uuid
  orgId : Uuid
  projectId : Uuid
  lineDefinitionId : Option Uuid := none
  entityType : String
  entityId : Uuid
  fromStatus : Option String := none
  toStatus : String
  status : StepRunStatus := .pending
  mode : DecisionMode
  gateId : Option Uuid := none
  h1GateId : Option Uuid := none
  approvalGroupId : Option Uuid := none
  quorumPolicy : Option QuorumPolicy := none
  startedAt : Nat := 0
  resolvedAt : Option Nat := none
  withdrawnByMemberId : Option Uuid := none
  withdrawnAt : Option Nat := none
  withdrawReason : Option String := none
  trustSnapshot : Json := .obj []
  riskSnapshot : Json := .obj []
  resolvedMemberId : Option Uuid := none
  deliveryStatus : String := "not_required"
  reminderCount : Nat := 0
  nextReminderAt : Option Rat := none
  escalatedToMemberId : Option Uuid := none

inductive ApprovalStatus where
  | pending | approved | rejected | abstained | withdrawn | overridden
  deriving DecidableEq, Repr

inductive ApprovalKind where
  | approver | consult | deputy
  deriving DecidableEq, Repr

structure StepApproval where
  id : Uuid
  orgId : Uuid
  projectId : Uuid
  stepRunId : Uuid
  gateId : Option Uuid
  approvalGroupId : Uuid
  approverMemberId : Uuid
  originalApproverMemberId : Option Uuid := none
  requestedByMemberId : Option Uuid := none
  implementationMemberId : Option Uuid := none
  kind : ApprovalKind := .approver
  blocking : Bool := true
  status : ApprovalStatus := .pending
  decisionNote : Option String := none
  resolvedAt : Option Nat := none
  reassignedFromMemberId : Option Uuid := none
  createdAt : Nat := 0

inductive VersionStatus where
  | draft | pendingReview | published | retired | rejected
  deriving DecidableEq, Repr

/-- One finding of the config lint, with the values that its sentence quotes. -/
inductive LintError where
  | stepsNotList
  | noSteps
  | stepNotObject (index : Nat)
  | ruleNotObject (loc : Json) (index : Nat)
  | routingMode (loc mode : Json)
  | routingField (loc field : Json)
  | routingOp (loc op : Json)
  | catchAllAutoRoute (loc : Json)
  | noApprover (loc stepType : Json)
  | selfApprovalOnly (loc : Json)
  | noFallback (loc stepType : Json)
  | highRiskTimeoutAutoApprove (loc : Json)
  | eventNotInAllowlist (loc : Json) (event : String)
  | allTransitionsBlocked

def LintError.rule : LintError → String
  | .stepsNotList | .noSteps => "no_steps"
  | .stepNotObject _ | .ruleNotObject _ _ | .routingField _ _ => "unknown_field"
  | .routingMode _ _ | .routingOp _ _ => "unknown_op"
  | .catchAllAutoRoute _ => "catch_all_auto_route"
  | .noApprover _ _ => "no_approver"
  | .selfApprovalOnly _ => "self_approval_only"
  | .noFallback _ _ => "no_fallback"
  | .highRiskTimeoutAutoApprove _ => "high_risk_timeout_auto_approve"
  | .eventNotInAllowlist _ _ => "event_not_in_allowlist"
  | .allTransitionsBlocked => "all_transitions_blocked"

/-- The active pointer of an organisation's or a project's line. -/
structure LineDefinition where
  id : Uuid
  orgId : Uuid
  projectId : Option Uuid := none
  entityType : String
  version : Nat := 1
  isActive : Bool := true
  retiredAt : Option Nat := none
  publishedAt : Option Nat := none
  configHash : Option String := none

structure LineVersion where
  id : Uuid
  lineDefinitionId : Option Uuid := none
  orgId : Uuid
  projectId : Option Uuid := none
  entityType : String
  version : Nat
  status : VersionStatus := .draft
  config : Json := .obj []
  configHash : String
  lintErrors : List LintError := []
  createdByMemberId : Uuid
  reviewedByMemberId : Option Uuid := none
  reviewGateId : Option Uuid := none
  publishedAt : Option Nat := none

end Sprintable.Lines
