import Sprintable.Gates.Model
import Sprintable.Lines.Model

/-! Withdrawal of a pending step run by its author. It closes the run, its open
approval rows and its open gates in bulk updates of their own. -/

namespace Sprintable.Lines

open Gates

def activePending : List StepRunStatus := [.waitingGate, .waitingParallel, .gatePending]

def privilegedRoles : List String := ["admin", "owner", "product_owner"]

structure TeamMember where
  orgId : Uuid
  role : String

/-- The requester is noted on the first approval row of the run's group. -/
def isRequester (approvals : List StepApproval) (run : StepRun) (actorId : Uuid) : Bool :=
  match run.approvalGroupId with
  | none => false
  | some group =>
    let named := approvals.filter fun row => row.approvalGroupId == group && row.requestedByMemberId.isSome
    let first := named.mergeSort fun left right =>
      left.createdAt < right.createdAt || (left.createdAt == right.createdAt && left.id ≤ right.id)
    (first.head?.bind StepApproval.requestedByMemberId) == some actorId

def isPrivileged (member : Option TeamMember) (orgId : Uuid) : Bool :=
  member.any fun found => found.orgId == orgId && privilegedRoles.contains found.role

/-- The tables that a withdrawal writes. -/
structure Desk where
  gates : Table
  runs : List StepRun
  approvals : List StepApproval

inductive WithdrawResult where
  | notFound
  | notActive (runStatus : StepRunStatus)
  | forbidden
  | withdrawn (stepRunId : Uuid)
  deriving DecidableEq, Repr

def withdrawnNote : String := "withdrawn by author"

/-- The bulk update of the run's gates: its `values` are written as they stand. -/
def Gate.withdraw (gate : Gate) (actorId : Uuid) (now : Nat) : Gate :=
  { gate with
    status := .rejected
    resolverId := some actorId
    resolvedAt := some now
    resolutionNote := some withdrawnNote }

def StepRun.gateIds (run : StepRun) : List Uuid := run.gateId.toList ++ run.h1GateId.toList

/-- The pending gates of the run are the ones that its withdrawal closes. -/
def StepRun.closes (run : StepRun) (orgId : Uuid) (gate : Gate) : Bool :=
  run.gateIds.contains gate.id && gate.orgId == orgId && gate.status == .pending

/-- The run that a withdrawal acts on, or the reason why it does not. -/
def withdrawable (desk : Desk) (orgId storyId stepRunId actorId : Uuid) (actor : Option TeamMember) :
    Except WithdrawResult StepRun :=
  match desk.runs.find? fun run => run.id == stepRunId && run.orgId == orgId && run.entityType == "story" &&
      run.entityId == storyId with
  | none => .error .notFound
  | some run =>
    if run.status ∉ activePending then .error (.notActive run.status)
    else if !(isRequester desk.approvals run actorId || isPrivileged actor orgId) then .error .forbidden
    else .ok run

/-- `actor` is the team member row of `actorId`. -/
def withdrawPendingRun (desk : Desk) (orgId storyId stepRunId actorId : Uuid) (actor : Option TeamMember)
    (reason : Option String) (now : Nat) : Desk × WithdrawResult :=
  match withdrawable desk orgId storyId stepRunId actorId actor with
  | .error result => (desk, result)
  | .ok run =>
    let closed : StepRun := { run with
      status := .withdrawn
      withdrawnByMemberId := some actorId
      withdrawnAt := some now
      withdrawReason := reason }
    let closeRow (row : StepApproval) : StepApproval :=
      if run.approvalGroupId = some row.approvalGroupId ∧ row.status = .pending then
        { row with status := .withdrawn, resolvedAt := some now }
      else row
    ({ gates := desk.gates.map fun gate => if run.closes orgId gate then Gate.withdraw gate actorId now else gate
       runs := desk.runs.map fun row => if row.id = run.id then closed else row
       approvals := desk.approvals.map closeRow },
      .withdrawn stepRunId)

end Sprintable.Lines
