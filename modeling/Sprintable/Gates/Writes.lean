import Sprintable.Gates.Decisions
import Sprintable.Lines.Recall

/-! All writers of gate rows as one machine. The other tables are inputs of the
operation that reads them. -/

namespace Sprintable.Gates

/-- What the submission of a draft version writes on its destination gate once
the gate stands: the facts of the draft and the version that it seals. -/
def sealSubmission (table : Table) (orgId gateId : Uuid) (neutralFacts : Facts) (version : Nat)
    (scheduledAt : Option Nat) : Except GateError (Table × Gate) :=
  match table.lookup orgId gateId with
  | none => .error (.notFound gateId)
  | some gate =>
    let submitted := { gate with
      neutralFacts := some neutralFacts
      sealedContentVersion := some version
      sealedScheduledAt := scheduledAt }
    .ok (table.put submitted, submitted)

/-- Beside the operations of a gate's own service: a decision asked for with any
target status, the seal of a submission, and the withdrawal of a step run, which
closes gates in bulk. -/
inductive GateWrite where
  | operation (operation : GateOperation)
  | transition (drafts : Drafts) (orgId gateId : Uuid) (newStatus : GateStatus) (resolverId : Option Uuid)
      (note : Option String) (reviewedDraft : Option (Uuid × Nat)) (now : Nat)
  | submitDraft (orgId gateId : Uuid) (neutralFacts : Facts) (version : Nat) (scheduledAt : Option Nat)
  | withdraw (runs : List Lines.StepRun) (approvals : List Lines.StepApproval)
      (orgId storyId stepRunId actorId : Uuid) (actor : Option Lines.TeamMember) (reason : Option String) (now : Nat)

namespace GateWrite

def attempt (table : Table) : GateWrite → Except GateError Table
  | .operation single => single.attempt table
  | .transition drafts orgId gateId newStatus resolverId note reviewedDraft now =>
    Prod.fst <$> transitionGate drafts table orgId gateId newStatus resolverId note reviewedDraft now
  | .submitDraft orgId gateId neutralFacts version scheduledAt =>
    Prod.fst <$> sealSubmission table orgId gateId neutralFacts version scheduledAt
  | .withdraw runs approvals orgId storyId stepRunId actorId actor reason now =>
    .ok (Lines.withdrawPendingRun ⟨table, runs, approvals⟩ orgId storyId stepRunId actorId actor reason now).1.gates

def step : Table → GateWrite → Table := Runs.settle attempt

end GateWrite

theorem withdraw_gates (desk : Lines.Desk) (orgId storyId stepRunId actorId : Uuid) (actor : Option Lines.TeamMember)
    (reason : Option String) (now : Nat) :
    ∃ closes : Gate → Bool, (∀ gate, closes gate = true → gate.status = .pending) ∧
      (Lines.withdrawPendingRun desk orgId storyId stepRunId actorId actor reason now).1.gates =
        desk.gates.map fun gate => if closes gate then Lines.Gate.withdraw gate actorId now else gate := by
  unfold Lines.withdrawPendingRun
  split
  · refine ⟨fun _ => false, by simp, ?_⟩
    simp
  next run _ =>
    refine ⟨run.closes orgId, ?_, rfl⟩
    intro gate closed
    simp only [Lines.StepRun.closes, Bool.and_eq_true, beq_iff_eq] at closed
    exact closed.2

end Sprintable.Gates
