import Mathlib.Data.List.Dedup
import Sprintable.Gates.SlotIdentity
import Sprintable.Lines.ApprovalRuns

/-! Who stands behind the approval of a parallel gate. The quorum counts the rows of a group, and the
unique index gives every one of them a member of its own. -/

namespace Sprintable.Lines

open Gates

def approvedRows (approvals : List StepApproval) (groupId : Uuid) : List StepApproval :=
  (blockingRows approvals groupId).filter fun row => row.status == .approved

def approvingMembers (approvals : List StepApproval) (groupId : Uuid) : List Uuid :=
  ((approvedRows approvals groupId).map StepApproval.approverMemberId).dedup

def blockingMembers (approvals : List StepApproval) (groupId : Uuid) : List Uuid :=
  ((blockingRows approvals groupId).map StepApproval.approverMemberId).dedup

/-- The members reach the quorum: all blocking approvers, one of them, or the wanted number. -/
def QuorumPolicy.ReachedBy (policy : QuorumPolicy) (approving blocking : List Uuid) : Prop :=
  match policy.type with
  | .all => ∀ member ∈ blocking, member ∈ approving
  | .any => 1 ≤ approving.length
  | .count => ∃ wanted, policy.count = some wanted ∧ wanted ≤ (approving.length : Int)

/-- The parties that separation of duties keeps away from a row. -/
def StepApproval.parties (row : StepApproval) : List (Option Uuid) :=
  [row.requestedByMemberId, row.implementationMemberId, row.originalApproverMemberId]

/-- The quorum is one of distinct members, and none of them is a party of the step. -/
structure QuorumSound (request : ParallelRequest) (desk : ApprovalDesk) : Prop where
  reached : request.quorum.ReachedBy (approvingMembers desk.approvals request.groupId)
    (blockingMembers desk.approvals request.groupId)
  parties : ∀ row ∈ approvedRows desk.approvals request.groupId,
    row.requestedByMemberId = request.requestedByMemberId ∧ row.implementationMemberId = request.implementationMemberId
  apart : ∀ row ∈ approvedRows desk.approvals request.groupId, sodConflict (some row.approverMemberId) row.parties = false

def gateApproved (desk : ApprovalDesk) (gateId : Uuid) : Bool :=
  desk.gates.any fun gate => gate.id == gateId && gate.status == .approved

def Approves (gateId : Uuid) (desk : ApprovalDesk) (event : DeskEvent) : Prop :=
  gateApproved desk gateId = false ∧ gateApproved (event.step desk) gateId = true

/-- A call of `record_parallel_decision` or of `reassign_approver`. -/
def DeskEvent.isApproval : DeskEvent → Bool
  | .decide .. | .reassign .. => true
  | _ => false

/-- A decision about the gate is made on a row of the group. -/
def OwnGroup (request : ParallelRequest) (gateId : Uuid) (desk : ApprovalDesk) : DeskEvent → Prop
  | .decide approvalId .. =>
    ∀ row ∈ desk.approvals, row.id = approvalId → row.gateId = some gateId → row.approvalGroupId = request.groupId
  | _ => True

instance decidableOwnGroup (request : ParallelRequest) (gateId : Uuid) (desk : ApprovalDesk) (event : DeskEvent) :
    Decidable (OwnGroup request gateId desk event) :=
  match event with
  | .decide approvalId .. =>
    inferInstanceAs (Decidable (∀ row ∈ desk.approvals, row.id = approvalId →
      row.gateId = some gateId → row.approvalGroupId = request.groupId))
  | .line _ | .createParallel .. | .reassign .. | .slaItem .. => .isTrue True.intro

/-- What other tables promise of the keys: those of the tables are keys, and those of a creation are new. -/
structure ParallelRequest.Fresh (request : ParallelRequest) (desk : ApprovalDesk) : Prop where
  runs : (desk.runs.map StepRun.id).Nodup
  gates : desk.gates.Unique
  rows : (desk.approvals.map StepApproval.id ++ request.approvers.map ApproverRequest.rowId).Nodup
  group : ∀ row ∈ desk.approvals, row.approvalGroupId ≠ request.groupId

section Tallies
variable {approvals : List StepApproval} {groupId : Uuid} {row : StepApproval}

theorem mem_blocking :
    row ∈ blockingRows approvals groupId ↔
      row ∈ approvals ∧ row.approvalGroupId = groupId ∧ row.kind = .approver ∧ row.blocking = true := by
  simp [blockingRows, and_assoc]

theorem mem_approved : row ∈ approvedRows approvals groupId ↔ row ∈ blockingRows approvals groupId ∧ row.status = .approved := by
  simp [approvedRows]

theorem tally_approved (approvals : List StepApproval) (groupId : Uuid) :
    (tallyBlocking approvals groupId).approved = (approvedRows approvals groupId).length :=
  List.countP_eq_length_filter

theorem approving_length (keys : (approvals.map StepApproval.id).Nodup)
    (once : ∀ first ∈ approvedRows approvals groupId, ∀ second ∈ approvedRows approvals groupId,
      first.approverMemberId = second.approverMemberId → first.id = second.id) :
    (approvingMembers approvals groupId).length = (approvedRows approvals groupId).length := by
  have rows : (approvedRows approvals groupId).Nodup := by
    apply List.Nodup.filter
    apply List.Nodup.filter
    exact List.Nodup.of_map StepApproval.id keys
  have members : ((approvedRows approvals groupId).map StepApproval.approverMemberId).Nodup := by
    apply List.Nodup.map_on _ rows
    intro first left second right same
    have key := once first left second right same
    apply List.inj_on_of_nodup_map keys _ _ key
    · exact (mem_blocking.mp (mem_approved.mp left).1).1
    · exact (mem_blocking.mp (mem_approved.mp right).1).1
  rw [approvingMembers, members.dedup, List.length_map]

theorem all_approving (approved : (blockingRows approvals groupId).length ≤ (approvedRows approvals groupId).length)
    {member : Uuid} (blocking : member ∈ blockingMembers approvals groupId) : member ∈ approvingMembers approvals groupId := by
  have same : approvedRows approvals groupId = blockingRows approvals groupId :=
    List.filter_sublist.eq_of_length_le approved
  rw [approvingMembers, same]
  exact blocking

theorem quorum_reached {policy : QuorumPolicy} (keys : (approvals.map StepApproval.id).Nodup)
    (once : ∀ first ∈ approvedRows approvals groupId, ∀ second ∈ approvedRows approvals groupId,
      first.approverMemberId = second.approverMemberId → first.id = second.id)
    (met : quorumMet (tallyBlocking approvals groupId) policy = true) :
    policy.ReachedBy (approvingMembers approvals groupId) (blockingMembers approvals groupId) := by
  unfold quorumMet at met
  split at met
  · cases met
  rw [tally_approved] at met
  unfold QuorumPolicy.ReachedBy
  cases type : policy.type with
  | all =>
    rw [type] at met
    intro member blocking
    exact all_approving (of_decide_eq_true met) blocking
  | any =>
    rw [type, ← approving_length keys once] at met
    exact of_decide_eq_true met
  | count =>
    rw [type] at met
    cases wanted : policy.count with
    | none => simp [wanted] at met
    | some number =>
      simp only [wanted, Option.any_some, decide_eq_true_eq] at met
      refine ⟨number, rfl, ?_⟩
      rw [approving_length keys once]
      exact met

end Tallies

end Sprintable.Lines
