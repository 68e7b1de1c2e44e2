import Sprintable.Lines.LineRuns

/-! Decisions of several approvers about one gate. Each of them decides an own
row, and the blocking rows of the group then decide the gate: by one rejection,
or by a quorum of approvals. -/

namespace Sprintable.Lines

open Gates

/-- The audit events of step runs. An escalation that found nobody has no target. -/
inductive StepRunEventKind where
  | reminded (reminderCount : Nat)
  | escalated (target : Option Uuid)
  | autoApproved
  | autoApproveSkipped
  | withdrawn (actorMemberId : Uuid) (reason : Option String)
  | approverReassigned (reassignerId oldApproverId newApproverId : Uuid) (reason : Option String)
  deriving DecidableEq, Repr

structure StepRunEvent where
  stepRunId : Uuid
  kind : StepRunEventKind
  deriving DecidableEq, Repr

structure ApprovalDesk extends ItemDesk where
  approvals : List StepApproval := []
  events : List StepRunEvent := []

inductive ApprovalError where
  | item (error : ItemError)
  | invalidDecision (decision : ApprovalStatus)
  | approvalNotFound (approvalId : Uuid)
  | selfApproval (memberId : Option Uuid)
  | stepRunNotFound (stepRunId : Uuid)
  | gate (error : GateError)
  | uniqueViolation
  | noPendingApprover
  | approverNotNamed
  | severalApprovers
  | sameApprover
  | notAMember
  | noProjectAccess
  | reassignedToParty
  | policyType (key : String)
  | policyRange (key : String)

def ApprovalStatus.text : ApprovalStatus → String
  | .pending => "pending"
  | .approved => "approved"
  | .rejected => "rejected"
  | .abstained => "abstained"
  | .withdrawn => "withdrawn"
  | .overridden => "overridden"

/-- The text of an error that a service of approvals raises itself. -/
def ApprovalError.message : ApprovalError → Option String
  | .invalidDecision decision => some ("invalid decision: " ++ decision.text)
  | .approvalNotFound approvalId => some ("approval " ++ PyText.uuidText approvalId ++ " not found")
  | .selfApproval memberId =>
    some ("self-approval forbidden (SoD): member " ++ (memberId.map PyText.uuidText).getD "None")
  | .noPendingApprover => some "이 게이트엔 재지정할 명시적 결재자(approver)가 없습니다 (parallel gate 전용)."
  | .approverNotNamed => some "old_approver_id 에 해당하는 pending 결재자가 없습니다."
  | .severalApprovers => some "결재자가 여러 명입니다 — old_approver_id 를 지정하세요."
  | .sameApprover => some "이미 그 멤버가 결재자입니다."
  | .notAMember => some "새 결재자가 이 org 의 멤버가 아닙니다."
  | .noProjectAccess => some "새 결재자가 해당 프로젝트 접근권이 없습니다."
  | .reassignedToParty => some "새 결재자가 SoD 당사자(요청자/구현자/최초결재자)와 동일 — 자기승인 우회 금지."
  | .gate error => some error.message
  | _ => none

namespace ApprovalDesk

def opened : ApprovalDesk where

def withItems (desk : ApprovalDesk) (items : ItemDesk) : ApprovalDesk := { desk with toItemDesk := items }

def recordEvent (desk : ApprovalDesk) (run : StepRun) (kind : StepRunEventKind) : ApprovalDesk :=
  { desk with events := desk.events ++ [⟨run.id, kind⟩] }

/-- `transition_gate` with the resolution of the step run that the gate decides. -/
def transition (desk : ApprovalDesk) (drafts : Drafts) (orgId gateId : Uuid) (newStatus : GateStatus)
    (resolverId : Option Uuid) (note : Option String) (lookups : ResolutionLookups) (now : Nat) :
    Except ApprovalError ApprovalDesk :=
  match LineEvent.gateWrite desk.toItemDesk (.transition drafts orgId gateId newStatus resolverId note none now) lookups with
  | .ok items => .ok (desk.withItems items)
  | .error error => .error (.item error)

def withdraw (desk : ApprovalDesk) (orgId storyId stepRunId actorId : Uuid) (actor : Option TeamMember)
    (reason : Option String) (now : Nat) : ApprovalDesk × WithdrawResult :=
  match withdrawPendingRun ⟨desk.gates, desk.runs, desk.approvals⟩ orgId storyId stepRunId actorId actor reason now with
  | (closed, .withdrawn id) =>
    ({ desk with
       gates := closed.gates
       runs := closed.runs
       approvals := closed.approvals
       events := desk.events ++ [⟨id, .withdrawn actorId reason⟩] }, .withdrawn id)
  | (_, refused) => (desk, refused)

end ApprovalDesk

def terminalGate : List GateStatus := [.approved, .rejected]

def validDecisions : List ApprovalStatus := [.approved, .rejected, .abstained]

/-- The member is one of the parties that separation of duties keeps apart. -/
def sodConflict (memberId : Option Uuid) (parties : List (Option Uuid)) : Bool :=
  memberId.any fun member => parties.contains (some member)

structure Tally where
  approved : Nat
  rejected : Nat
  totalBlocking : Nat
  deriving DecidableEq, Repr

def blockingRows (approvals : List StepApproval) (groupId : Uuid) : List StepApproval :=
  approvals.filter fun row => row.approvalGroupId == groupId && row.kind == .approver && row.blocking

def tallyBlocking (approvals : List StepApproval) (groupId : Uuid) : Tally :=
  let rows := blockingRows approvals groupId
  ⟨rows.countP fun row => row.status == .approved, rows.countP fun row => row.status == .rejected, rows.length⟩

def quorumMet (tally : Tally) (policy : QuorumPolicy) : Bool :=
  if tally.totalBlocking = 0 then false
  else
    match policy.type with
    | .all => tally.totalBlocking ≤ tally.approved
    | .any => 1 ≤ tally.approved
    | .count => policy.count.any fun wanted => decide (wanted ≤ (tally.approved : Int))

def groupTarget (tally : Tally) (policy : QuorumPolicy) : Option GateStatus :=
  if policy.rejectPolicy = "any_reject_blocks" ∧ 1 ≤ tally.rejected then some .rejected
  else if quorumMet tally policy then some .approved
  else none

structure ParallelOutcome where
  outcome : GateStatus
  skipped : Bool
  tally : Tally

def StepApproval.decide (row : StepApproval) (decision : ApprovalStatus) (note : Option String) (now : Nat) : StepApproval :=
  { row with
    status := decision
    resolvedAt := some now
    decisionNote := if PyText.truthy note then note else row.decisionNote }

/-- A resolver decides only an own row. A gate that is decided keeps its rows as they are. -/
def recordParallelDecision (desk : ApprovalDesk) (approvalId : Uuid) (decision : ApprovalStatus) (resolverId : Option Uuid)
    (note : Option String) (drafts : Drafts) (lookups : ResolutionLookups) (now : Nat) :
    Except ApprovalError (ApprovalDesk × ParallelOutcome) :=
  if decision ∉ validDecisions then .error (.invalidDecision decision)
  else
    match Keyed.find StepApproval.id desk.approvals approvalId with
    | none => .error (.approvalNotFound approvalId)
    | some row =>
      if resolverId.any (· ≠ row.approverMemberId) then .error (.selfApproval resolverId)
      else if sodConflict resolverId [row.requestedByMemberId, row.implementationMemberId, row.originalApproverMemberId] then
        .error (.selfApproval resolverId)
      else
        let gate := row.gateId.bind (desk.gates.lookup row.orgId)
        match gate.filter fun gate => terminalGate.contains gate.status with
        | some decided => .ok (desk, ⟨decided.status, true, tallyBlocking desk.approvals row.approvalGroupId⟩)
        | none =>
          let recorded := { desk with
            approvals := Keyed.put StepApproval.id desk.approvals (row.decide decision note now) }
          let tally := tallyBlocking recorded.approvals row.approvalGroupId
          let policy := ((Keyed.find StepRun.id desk.runs row.stepRunId).bind StepRun.quorumPolicy).getD {}
          match groupTarget tally policy, gate with
          | some target, some gate => do
            let resolved ← recorded.transition drafts row.orgId gate.id target resolverId note lookups now
            return (resolved, ⟨target, false, tally⟩)
          | _, _ => .ok (recorded, ⟨.pending, false, tally⟩)

/-- One entry of `approvers`, with the key that its row gets. -/
structure ApproverRequest where
  rowId : Uuid
  memberId : Uuid
  kind : ApprovalKind := .approver
  blocking : Option Bool := none
  originalApproverMemberId : Option Uuid := none

def ApproverRequest.blocks (request : ApproverRequest) : Bool := request.blocking.getD (request.kind == .approver)

/-- What a caller asks of `create_parallel_gate`; the fresh keys and the policy's
disposition are part of it. -/
structure ParallelRequest where
  approvers : List ApproverRequest
  quorum : QuorumPolicy
  gateType : GateType := .merge
  requestedByMemberId : Option Uuid := none
  implementationMemberId : Option Uuid := none
  gateId : Uuid
  groupId : Uuid
  disposition : Disposition

def ParallelRequest.create (request : ParallelRequest) (run : StepRun) : CreateRequest where
  orgId := run.orgId
  workItemId := run.entityId
  workItemType := run.entityType
  gateType := request.gateType
  gateId := request.gateId
  neutralFacts := some [
    ("requested_by_member_id", .ofOption (fun id => .text (PyText.uuidText id)) request.requestedByMemberId),
    ("parallel", .bool true)]

def ParallelRequest.row (request : ParallelRequest) (run : StepRun) (gate : Gate) (now : Nat)
    (approver : ApproverRequest) : StepApproval where
  id := approver.rowId
  orgId := run.orgId
  projectId := run.projectId
  stepRunId := run.id
  gateId := some gate.id
  approvalGroupId := request.groupId
  approverMemberId := approver.memberId
  originalApproverMemberId := approver.originalApproverMemberId
  requestedByMemberId := request.requestedByMemberId
  implementationMemberId := request.implementationMemberId
  kind := approver.kind
  blocking := approver.blocks
  createdAt := now

/-- What the unique index on the approval rows holds apart. -/
def StepApproval.indexKey (row : StepApproval) : Uuid × Uuid × ApprovalKind := (row.stepRunId, row.approverMemberId, row.kind)

/-- The rows that a flush writes pass the unique index. -/
def Indexed (approvals : List StepApproval) : Prop := (approvals.map StepApproval.indexKey).Nodup

instance decidableIndexed (approvals : List StepApproval) : Decidable (Indexed approvals) :=
  inferInstanceAs (Decidable (approvals.map StepApproval.indexKey).Nodup)

/-- A party of the step may not be asked for a blocking approval. -/
def ParallelRequest.conflicts (request : ParallelRequest) (approver : ApproverRequest) : Bool :=
  approver.kind == .approver && approver.blocks &&
    sodConflict (some approver.memberId)
      [request.requestedByMemberId, request.implementationMemberId, approver.originalApproverMemberId]

/-- One gate for several approvers, with a row for each of them. -/
def createParallelGate (desk : ApprovalDesk) (stepRunId : Uuid) (request : ParallelRequest) (now : Nat) :
    Except ApprovalError ApprovalDesk :=
  match Keyed.find StepRun.id desk.runs stepRunId with
  | none => .error (.stepRunNotFound stepRunId)
  | some run =>
    match createGate desk.gates (request.create run) request.disposition now with
    | .error error => .error (.gate error)
    | .ok (gates, gate) =>
      match request.approvers.find? request.conflicts with
      | some party => .error (.selfApproval (some party.memberId))
      | none =>
        let linked := { run with
          gateId := some gate.id, approvalGroupId := some request.groupId, quorumPolicy := some request.quorum }
        let approvals := desk.approvals ++ request.approvers.map (request.row run gate now)
        if Indexed approvals then
          .ok { desk with toItemDesk := (desk.withGates gates).putRun linked, approvals }
        else .error .uniqueViolation

structure ReassignAnswers where
  isMember : Bool
  hasProjectAccess : Bool

def reassignTarget (approvals : List StepApproval) (orgId gateId : Uuid) (oldApproverId : Option Uuid) :
    Except ApprovalError StepApproval :=
  let rows := approvals.filter fun row =>
    row.gateId == some gateId && row.orgId == orgId && row.status == .pending && row.blocking && row.kind == .approver
  match rows, oldApproverId with
  | [], _ => .error .noPendingApprover
  | _, some old =>
    match rows.find? fun row => row.approverMemberId == old with
    | some row => .ok row
    | none => .error .approverNotNamed
  | [row], none => .ok row
  | _, none => .error .severalApprovers

/-- The row keeps its first approver, and the new one may be no party of the step. -/
def reassignApprover (desk : ApprovalDesk) (orgId gateId newApproverId reassignerId : Uuid) (oldApproverId : Option Uuid)
    (reason : Option String) (answers : ReassignAnswers) : Except ApprovalError ApprovalDesk := do
  let row ← reassignTarget desk.approvals orgId gateId oldApproverId
  if newApproverId = row.approverMemberId then .error .sameApprover
  else if !answers.isMember then .error .notAMember
  else if !answers.hasProjectAccess then .error .noProjectAccess
  else if sodConflict (some newApproverId)
      [row.requestedByMemberId, row.implementationMemberId, row.originalApproverMemberId] then .error .reassignedToParty
  else
    let reassigned := { row with
      reassignedFromMemberId := some row.approverMemberId
      originalApproverMemberId := row.originalApproverMemberId.or (some row.approverMemberId)
      approverMemberId := newApproverId }
    let approvals := Keyed.put StepApproval.id desk.approvals reassigned
    if Indexed approvals then
      return { desk with
        approvals
        events := desk.events ++
          [⟨row.stepRunId, .approverReassigned reassignerId row.approverMemberId newApproverId reason⟩] }
    else .error .uniqueViolation

end Sprintable.Lines
