import Sprintable.Logic.Runs
import Sprintable.Gates.Merge

/-! The resolution fields of a gate say who closed it, when and why. A gate that
waits for a decision has none of them; the invariant is carried over every
sequence of gate operations, and the one operation that can break it is named. -/

namespace Sprintable.Gates

/-- The resolver, the instant and the note of a gate are all null. -/
structure Gate.Unresolved (gate : Gate) : Prop where
  resolver : gate.resolverId = none
  resolvedAt : gate.resolvedAt = none
  note : gate.resolutionNote = none

/-- A held gate keeps its holder and reason in the resolution fields, so only
the instant must be null there; releasing the hold clears the other two. -/
structure Gate.FieldsValid (gate : Gate) : Prop where
  pending : gate.status = .pending → gate.Unresolved
  held : gate.status = .held → gate.resolvedAt = none

namespace Gate.FieldsValid

theorem of_closed {gate : Gate} (waiting : gate.status ≠ .pending) (paused : gate.status ≠ .held) :
    gate.FieldsValid :=
  ⟨fun same => absurd same waiting, fun same => absurd same paused⟩

theorem of_unresolved {gate : Gate} (open_ : gate.Unresolved) : gate.FieldsValid :=
  ⟨fun _ => open_, fun _ => open_.resolvedAt⟩

theorem congr {gate other : Gate} (valid : gate.FieldsValid) (status : other.status = gate.status)
    (resolver : other.resolverId = gate.resolverId) (instant : other.resolvedAt = gate.resolvedAt)
    (note : other.resolutionNote = gate.resolutionNote) : other.FieldsValid := by
  refine ⟨fun waiting => ?_, fun paused => ?_⟩
  · have kept := valid.pending (status ▸ waiting)
    exact ⟨resolver.trans kept.resolver, instant.trans kept.resolvedAt, note.trans kept.note⟩
  · exact instant.trans (valid.held (status ▸ paused))

end Gate.FieldsValid

def FieldsValid (table : Table) : Prop := ∀ gate ∈ table, gate.FieldsValid

theorem submission_status_closed {gateType : GateType} {disposition : Disposition}
    (closed : submissionStatus gateType disposition ≠ .pending) : submissionStatus gateType disposition ≠ .held := by
  unfold submissionStatus at closed ⊢
  split
  · simp
  · cases disposition <;> simp [dispositionToStatus]

theorem submittable : Submittable Gate.FieldsValid where
  bind gate pr repo valid := valid.congr rfl rfl rfl rfl
  submit request disposition now := by
    by_cases waiting : submissionStatus request.gateType disposition = .pending
    · exact .of_unresolved ⟨rfl, by simp [newGate, waiting], rfl⟩
    · exact .of_closed waiting (submission_status_closed waiting)
  reopen table gate request disposition now valid := by
    by_cases waiting : submissionStatus request.gateType disposition = .pending
    · exact .of_unresolved ⟨rfl, by simp [reopenRejectedGate, waiting], rfl⟩
    · exact .of_closed (by simpa using waiting) (by simpa using submission_status_closed waiting)

section Decisions
variable {drafts : Drafts} {table after : Table} {orgId gateId : Uuid} {gate : Gate} {now : Nat}

theorem resolve_status (gate : Gate) (now : Nat) (newStatus : GateStatus) (resolverId : Option Uuid) (note : Option String) :
    (gate.resolve newStatus resolverId note now).status = newStatus := by
  simp [Gate.resolve]

theorem command_hook_status (drafts : Drafts) (gate : Gate) (resolverId : Option Uuid) :
    (maybeCreateScheduledPublicationCommand drafts gate resolverId).1.status = gate.status := by
  unfold maybeCreateScheduledPublicationCommand
  dsimp only
  repeat' split
  all_goals rfl

theorem cascade_status (target recipe : Gate) (newStatus : GateStatus) (note : String) :
    (target.cascadeFrom recipe newStatus note now).status = newStatus := by
  simp [Gate.cascadeFrom]

theorem seal_status {reviewedDraft sealedDraft : Option (Uuid × Nat)} {marked : Gate}
    (sealed_ : sealRecipeApprovedDraft drafts gate reviewedDraft = .ok (marked, sealedDraft)) :
    marked.status = gate.status := by
  unfold sealRecipeApprovedDraft at sealed_
  repeat' split at sealed_
  all_goals cases sealed_
  all_goals rfl

theorem approve_cascade_rows {resolverId : Option Uuid} {reviewedDraft : Option (Uuid × Nat)} {decided : Gate}
    {commands : List CommandRequest} (approved : gate.status = .approved)
    (executed : approveCascade drafts table gate resolverId reviewedDraft now = .ok (after, decided, commands)) :
    decided.status = .approved ∧ ∀ row ∈ after, row ∈ table ∨ row.status = .approved := by
  unfold approveCascade at executed
  split at executed
  · obtain ⟨⟨marked, sealedDraft⟩, sealed_, executed⟩ := Runs.bind_ok executed
    have status := (seal_status sealed_).trans approved
    dsimp only at executed
    split at executed
    · cases executed
      refine ⟨status, fun row member => ?_⟩
      rcases Table.mem_put member with rfl | old
      · exact .inr status
      · exact .inl old
    next target _ =>
      cases executed
      refine ⟨status, fun row member => ?_⟩
      rcases Table.mem_put member with rfl | old
      · exact .inr ((command_hook_status drafts _ resolverId).trans (cascade_status _ _ _ _))
      · rcases Table.mem_put old with rfl | old
        · exact .inr status
        · exact .inl old
  · cases executed
    exact ⟨approved, fun row member => .inl member⟩

theorem reject_cascade_rows {row : Gate} (member : row ∈ rejectCascade table gate now) :
    row ∈ table ∨ row.status = .rejected := by
  unfold rejectCascade at member
  split at member
  · split at member
    · exact .inl member
    · rcases Table.mem_put member with rfl | old
      · exact .inr (cascade_status _ _ _ _)
      · exact .inl old
  · exact .inl member

/-- A decision leaves every row as it was or in the decided status: the decided
gate, and in the same step the only destination gate of a recipe gate. -/
theorem transition_rows {newStatus : GateStatus} {resolverId : Option Uuid} {note : Option String}
    {reviewedDraft : Option (Uuid × Nat)} {commands : List CommandRequest}
    (executed : transitionGate drafts table orgId gateId newStatus resolverId note reviewedDraft now =
      .ok (after, gate, commands)) :
    gate.status = newStatus ∧ ∀ row ∈ after, row ∈ table ∨ row.status = newStatus := by
  unfold transitionGate at executed
  split at executed
  · cases executed
  next selected _ =>
    have resolved := resolve_status selected now newStatus resolverId note
    split at executed
    · cases executed
    split at executed
    · cases executed
    dsimp only at executed
    split at executed
    · obtain ⟨⟨cascaded, marked, others⟩, cascade, executed⟩ := Runs.bind_ok executed
      cases executed
      have noted := (command_hook_status drafts _ resolverId).trans resolved
      obtain ⟨status, rows⟩ := approve_cascade_rows noted cascade
      refine ⟨status, fun row member => ?_⟩
      rcases rows row member with old | decided
      · rcases Table.mem_put old with rfl | old
        · exact .inr noted
        · exact .inl old
      · exact .inr decided
    · cases executed
      refine ⟨resolved, fun row member => ?_⟩
      rcases reject_cascade_rows member with old | decided
      · rcases Table.mem_put old with rfl | old
        · exact .inr resolved
        · exact .inl old
      · exact .inr decided
    · cases executed
      refine ⟨resolved, fun row member => ?_⟩
      rcases Table.mem_put member with rfl | old
      · exact .inr resolved
      · exact .inl old

end Decisions

section Steps
variable {drafts : Drafts} {table after : Table} {orgId gateId : Uuid} {gate : Gate} {now : Nat}

theorem put_valid (valid : FieldsValid table) (new : gate.FieldsValid) : FieldsValid (table.put gate) :=
  put_preserves valid new

theorem closed_rows_valid (valid : FieldsValid table) {newStatus : GateStatus} (waiting : newStatus ≠ .pending)
    (paused : newStatus ≠ .held) (rows : ∀ row ∈ after, row ∈ table ∨ row.status = newStatus) :
    FieldsValid after := by
  intro row member
  rcases rows row member with old | rfl
  · exact valid row old
  · exact .of_closed waiting paused

theorem transition_valid (valid : FieldsValid table) {newStatus : GateStatus} {resolverId : Option Uuid}
    {note : Option String} {reviewedDraft : Option (Uuid × Nat)} {commands : List CommandRequest}
    (waiting : newStatus ≠ .pending) (paused : newStatus ≠ .held)
    (executed : transitionGate drafts table orgId gateId newStatus resolverId note reviewedDraft now =
      .ok (after, gate, commands)) : FieldsValid after :=
  closed_rows_valid valid waiting paused (transition_rows executed).2

theorem undo_valid (valid : FieldsValid table) {actorId : Uuid}
    (executed : undoGateResolution table orgId gateId actorId now = .ok (after, gate)) : FieldsValid after := by
  unfold undoGateResolution at executed
  repeat' split at executed
  all_goals cases executed
  exact put_valid valid (.of_unresolved ⟨rfl, rfl, rfl⟩)

theorem void_valid (valid : FieldsValid table) {voiderId : Uuid} {reason : String}
    (executed : voidGate table orgId gateId voiderId reason now = .ok (after, gate)) : FieldsValid after := by
  unfold voidGate at executed
  repeat' split at executed
  all_goals cases executed
  exact put_valid valid (.of_closed (by simp) (by simp))

theorem hold_valid (valid : FieldsValid table) {holderId : Uuid} {reason : Option String} {heldUntil : Option Nat}
    (executed : holdGate table orgId gateId holderId reason heldUntil now = .ok (after, gate)) : FieldsValid after := by
  unfold holdGate at executed
  split at executed
  · cases executed
  next row found =>
    split at executed
    · cases executed
    next legal =>
      cases executed
      have waiting : row.status = .pending := by
        cases status : row.status <;> simp_all [isValidTransition, validTransitions]
      have open_ := (valid row (Table.lookup_mem found)).pending waiting
      exact put_valid valid ⟨by simp, by simp [open_.resolvedAt]⟩

theorem unhold_valid (valid : FieldsValid table)
    (executed : unholdGate table orgId gateId now = .ok (after, gate)) : FieldsValid after := by
  unfold unholdGate at executed
  split at executed
  · cases executed
  next row found =>
    split at executed
    · cases executed
    next legal =>
      cases executed
      have paused : row.status = .held := by
        cases status : row.status <;> simp_all [isValidTransition, validTransitions]
      have instant := (valid row (Table.lookup_mem found)).held paused
      exact put_valid valid (.of_unresolved ⟨rfl, by simp [instant], rfl⟩)

theorem override_valid (valid : FieldsValid table) {ownerId : Uuid} {decision : GateStatus} {reason : String}
    {commands : List CommandRequest}
    (executed : overrideGate drafts table orgId gateId ownerId decision reason now = .ok (after, gate, commands)) :
    FieldsValid after := by
  unfold overrideGate at executed
  split at executed
  · cases executed
  next allowed =>
    have closed : decision ≠ .pending ∧ decision ≠ .held := by
      constructor <;> rintro rfl <;> simp at allowed
    split at executed
    · cases executed
    split at executed
    · cases executed
    split at executed
    · cases executed
    obtain ⟨⟨cascaded, decided, others⟩, transition, executed⟩ := Runs.bind_ok executed
    cases executed
    have status := (transition_rows transition).1
    exact put_valid (transition_valid valid closed.1 closed.2 transition)
      (.of_closed (status ▸ closed.1) (status ▸ closed.2))

theorem reopen_if_new_sha_valid (valid : FieldsValid table) {newHeadSha : String} {prUpdatedAt : Option Nat}
    {reopened : Bool} (executed : reopenGateIfNewSha table orgId gateId newHeadSha prUpdatedAt now = .ok (after, reopened)) :
    FieldsValid after := by
  unfold reopenGateIfNewSha at executed
  split at executed
  · cases executed
  next row found =>
    have observed : (row.observeHead prUpdatedAt).1.FieldsValid := by
      have before := valid row (Table.lookup_mem found)
      unfold Gate.observeHead
      split
      · exact before
      · exact before.congr rfl rfl rfl rfl
    dsimp only at executed
    repeat' split at executed
    all_goals cases executed
    · exact valid
    · exact put_valid valid observed
    · exact put_valid valid observed
    · exact put_valid valid observed
    · exact put_valid valid (.of_unresolved ⟨rfl, rfl, rfl⟩)

end Steps

/-- The evidence withdraws an automatic merge: the gate of the slot stands
auto-passed, or is rejected and the policy re-opens it as auto-passed, an anchored
head commit is recorded on it, and the verdict is not to merge. -/
def MergeEvidence.withdrawsAnchor (evidence : MergeEvidence) (table : Table) : Bool :=
  evidence.participation.isSome && !evidence.noSubstance && (evidence.verdict .autoPassed).1 != .autoMerge &&
    (findGateSlotWithPrFallback table evidence.slot evidence.dbPrNumber evidence.dbRepoFullName).1.any fun prior =>
      PyText.truthy prior.approvedHeadSha &&
        (prior.status == .autoPassed || (prior.status == .rejected && evidence.disposition == .allowAuto))

section Evaluation
variable {table after : Table} {evidence : MergeEvidence} {gate : Gate} {now : Nat}

theorem created_anchored {memberId : Uuid} {existing : Option Gate}
    (lookup : findGateSlotWithPrFallback table evidence.slot evidence.dbPrNumber evidence.dbRepoFullName = (existing, table))
    (created : createGate table (evidence.request memberId) evidence.disposition now = .ok (after, gate))
    (passed : gate.status = .autoPassed) (anchored : PyText.truthy gate.approvedHeadSha) :
    ∃ prior, existing = some prior ∧ PyText.truthy prior.approvedHeadSha ∧
      (prior.status = .autoPassed ∨ prior.status = .rejected ∧ evidence.disposition = .allowAuto) := by
  unfold createGate at created
  have lookup : findGateSlotWithPrFallback table (evidence.request memberId).toSlot (evidence.request memberId).prNumber
      (evidence.request memberId).repoFullName = (existing, table) := lookup
  rw [lookup] at created
  cases existing with
  | none =>
    dsimp only at created
    split at created
    · cases created
    · cases created
      exact absurd anchored (by simp [newGate, PyText.truthy])
  | some prior =>
    dsimp only at created
    split at created
    · cases created
      exact ⟨_, rfl, anchored, .inl passed⟩
    next rejected =>
      have same : (reopenRejectedGate table prior (evidence.request memberId) evidence.disposition now).2 = gate :=
        congrArg Prod.snd (Except.ok.inj created)
      subst same
      rw [reopenRejectedGate_approvedHeadSha] at anchored
      rw [reopenRejectedGate_status] at passed
      refine ⟨prior, rfl, anchored, .inr ⟨not_not.mp rejected, ?_⟩⟩
      change submissionStatus .merge evidence.disposition = .autoPassed at passed
      cases policy : evidence.disposition with
      | allowAuto => rfl
      | ask | deny => simp [submissionStatus, alwaysManualGateTypes, dispositionToStatus, policy] at passed

theorem resubmit_valid (valid : gate.FieldsValid) (existed : Bool) (facts : Facts) :
    (gate.resubmit existed facts now).FieldsValid := by
  unfold Gate.resubmit
  split
  · exact .of_unresolved ⟨rfl, rfl, rfl⟩
  · split
    · exact valid.congr rfl rfl rfl rfl
    · exact valid

theorem resubmit_anchored {existed : Bool} {facts : Facts} (passed : (gate.resubmit existed facts now).status = .autoPassed) :
    gate.status = .autoPassed ∧ (gate.resubmit existed facts now).approvedHeadSha = gate.approvedHeadSha := by
  unfold Gate.resubmit at passed ⊢
  split at passed
  · simp at passed
  next live =>
    rw [if_neg live]
    split at passed
    · exact ⟨passed, by split <;> rfl⟩
    · exact ⟨passed, by split <;> rfl⟩

theorem set_evidence_status_fields (gate : Gate) (newStatus : EvidenceStatus) (now : Nat) :
    (gate.setEvidenceStatus newStatus now).status = gate.status ∧
    (gate.setEvidenceStatus newStatus now).resolverId = gate.resolverId ∧
    (gate.setEvidenceStatus newStatus now).resolvedAt = gate.resolvedAt ∧
    (gate.setEvidenceStatus newStatus now).resolutionNote = gate.resolutionNote ∧
    (gate.setEvidenceStatus newStatus now).approvedHeadSha = gate.approvedHeadSha := by
  unfold Gate.setEvidenceStatus
  split <;> exact ⟨rfl, rfl, rfl, rfl, rfl⟩

/-- Recording the verdict and moving the anchor keep the fields valid unless an
anchored automatic pass is withdrawn. -/
theorem anchor_valid (valid : gate.FieldsValid) {decision : MergeDecision} {reason : DecisionReason}
    {headSha : Option String}
    (stands : gate.status = .autoPassed → PyText.truthy gate.approvedHeadSha → decision = .autoMerge) :
    ((gate.recordVerdict decision reason now).anchor decision headSha).FieldsValid := by
  obtain ⟨status, resolver, instant, note, sha⟩ :=
    set_evidence_status_fields gate decision.evidenceStatus now
  have recorded : (gate.recordVerdict decision reason now).FieldsValid := valid.congr status resolver instant note
  unfold Gate.anchor
  split
  · split
    · exact recorded.congr rfl rfl rfl rfl
    · exact recorded
  next withdrawn =>
    split
    next anchored =>
      have passed : gate.status = .autoPassed := status.symm.trans anchored.1
      have recordedSha : (gate.recordVerdict decision reason now).approvedHeadSha = gate.approvedHeadSha := sha
      exact absurd (stands passed (recordedSha ▸ anchored.2)) withdrawn
    · exact recorded

theorem evaluate_valid (valid : FieldsValid table) {answer : MergeGateDecision}
    (stands : evidence.withdrawsAnchor table = false)
    (executed : evaluateMergeGate table evidence now = .ok (after, answer)) : FieldsValid after := by
  unfold evaluateMergeGate at executed
  cases participation : evidence.participation with
  | none =>
    rw [participation] at executed
    cases executed
    exact valid
  | some memberId =>
    rw [participation] at executed
    dsimp only at executed
    split at executed
    · cases executed
      exact valid
    next substance =>
      cases lookup : findGateSlotWithPrFallback table evidence.slot evidence.dbPrNumber evidence.dbRepoFullName with
      | mk existing promoted =>
        rw [lookup] at executed
        obtain ⟨⟨submitted, gate⟩, created, executed⟩ := Runs.bind_ok executed
        cases executed
        have promotedValid := (find_slot_preserves submittable valid lookup).1
        obtain ⟨rows, row⟩ := create_gate_preserves submittable promotedValid created
        refine put_valid rows (anchor_valid (resubmit_valid row _ _) fun passed anchored => ?_)
        obtain ⟨wasPassed, sha⟩ := resubmit_anchored passed
        obtain ⟨prior, rfl, priorAnchored, priorStatus⟩ :=
          created_anchored (find_slot_again lookup) created wasPassed (sha ▸ anchored)
        rw [passed]
        by_contra withdrawn
        simp only [MergeEvidence.withdrawsAnchor, participation, lookup, Option.any_some, priorAnchored] at stands
        rcases priorStatus with status | ⟨status, policy⟩ <;> simp_all

end Evaluation

/-- The two outcomes that a human decision can ask of `transitionGate`. -/
inductive Decision where
  | approve | reject
  deriving DecidableEq, Repr

def Decision.status : Decision → GateStatus
  | .approve => .approved
  | .reject => .rejected

/-- The operations that write gate rows, each with the clock reading it takes. -/
inductive GateOperation where
  | create (request : CreateRequest) (disposition : Disposition) (now : Nat)
  | transition (drafts : Drafts) (orgId gateId : Uuid) (decision : Decision) (resolverId : Option Uuid)
      (note : Option String) (reviewedDraft : Option (Uuid × Nat)) (now : Nat)
  | undo (orgId gateId actorId : Uuid) (now : Nat)
  | hold (orgId gateId holderId : Uuid) (reason : Option String) (heldUntil : Option Nat) (now : Nat)
  | unhold (orgId gateId : Uuid) (now : Nat)
  | void (orgId gateId voiderId : Uuid) (reason : String) (now : Nat)
  | override (drafts : Drafts) (orgId gateId ownerId : Uuid) (decision : GateStatus) (reason : String) (now : Nat)
  | evaluateMerge (evidence : MergeEvidence) (now : Nat)
  | reopenIfNewSha (orgId gateId : Uuid) (newHeadSha : String) (prUpdatedAt : Option Nat) (now : Nat)

namespace GateOperation

def attempt (table : Table) : GateOperation → Except GateError Table
  | .create request disposition now => Prod.fst <$> createGate table request disposition now
  | .transition drafts orgId gateId decision resolverId note reviewedDraft now =>
    Prod.fst <$> transitionGate drafts table orgId gateId decision.status resolverId note reviewedDraft now
  | .undo orgId gateId actorId now => Prod.fst <$> undoGateResolution table orgId gateId actorId now
  | .hold orgId gateId holderId reason heldUntil now =>
    Prod.fst <$> holdGate table orgId gateId holderId reason heldUntil now
  | .unhold orgId gateId now => Prod.fst <$> unholdGate table orgId gateId now
  | .void orgId gateId voiderId reason now => Prod.fst <$> voidGate table orgId gateId voiderId reason now
  | .override drafts orgId gateId ownerId decision reason now =>
    Prod.fst <$> overrideGate drafts table orgId gateId ownerId decision reason now
  | .evaluateMerge evidence now => Prod.fst <$> evaluateMergeGate table evidence now
  | .reopenIfNewSha orgId gateId newHeadSha prUpdatedAt now =>
    Prod.fst <$> reopenGateIfNewSha table orgId gateId newHeadSha prUpdatedAt now

/-- A refused operation is rolled back. -/
def step : Table → GateOperation → Table := Runs.settle attempt

/-- The operation is not a merge evaluation that withdraws an anchored automatic pass. -/
def KeepsAnchor (table : Table) : GateOperation → Prop
  | .evaluateMerge evidence _ => evidence.withdrawsAnchor table = false
  | _ => True

theorem attempt_preserves {table after : Table} {operation : GateOperation} (valid : FieldsValid table)
    (kept : operation.KeepsAnchor table) (executed : operation.attempt table = .ok after) : FieldsValid after := by
  cases operation with
  | create request disposition now =>
    obtain ⟨⟨_, gate⟩, created, rfl⟩ := Runs.map_ok executed
    exact (create_gate_preserves submittable valid created).1
  | transition drafts orgId gateId decision resolverId note reviewedDraft now =>
    obtain ⟨_, transition, rfl⟩ := Runs.map_ok executed
    cases decision <;> exact transition_valid valid (by simp [Decision.status]) (by simp [Decision.status]) transition
  | undo orgId gateId actorId now =>
    obtain ⟨_, undone, rfl⟩ := Runs.map_ok executed
    exact undo_valid valid undone
  | hold orgId gateId holderId reason heldUntil now =>
    obtain ⟨_, held, rfl⟩ := Runs.map_ok executed
    exact hold_valid valid held
  | unhold orgId gateId now =>
    obtain ⟨_, resumed, rfl⟩ := Runs.map_ok executed
    exact unhold_valid valid resumed
  | void orgId gateId voiderId reason now =>
    obtain ⟨_, voided, rfl⟩ := Runs.map_ok executed
    exact void_valid valid voided
  | override drafts orgId gateId ownerId decision reason now =>
    obtain ⟨_, overridden, rfl⟩ := Runs.map_ok executed
    exact override_valid valid overridden
  | evaluateMerge evidence now =>
    obtain ⟨_, evaluated, rfl⟩ := Runs.map_ok executed
    exact evaluate_valid valid kept evaluated
  | reopenIfNewSha orgId gateId newHeadSha prUpdatedAt now =>
    obtain ⟨_, reopened, rfl⟩ := Runs.map_ok executed
    exact reopen_if_new_sha_valid valid reopened

theorem step_preserves (table : Table) (operation : GateOperation) (kept : operation.KeepsAnchor table)
    (valid : FieldsValid table) : FieldsValid (step table operation) :=
  Runs.settle_preserves valid fun _ executed => attempt_preserves valid kept executed

end GateOperation

/-- Every gate that waits for a decision has no resolver, no instant and no note. -/
def PendingUnresolved (table : Table) : Prop :=
  ∀ gate ∈ table, gate.status = .pending →
    gate.resolverId = none ∧ gate.resolvedAt = none ∧ gate.resolutionNote = none

/-- Every run of gate operations that never withdraws an anchored automatic pass
leaves the resolution fields of all pending gates null. -/
theorem pending_gate_unresolved (operations : List GateOperation)
    (kept : Runs.Throughout GateOperation.step (fun table operation => operation.KeepsAnchor table) [] operations) :
    PendingUnresolved (Runs.final GateOperation.step [] operations) := by
  intro gate member waiting
  have initial : FieldsValid [] := fun _ absent => absurd absent List.not_mem_nil
  have valid := kept.invariant GateOperation.step_preserves initial
  have open_ := (valid gate member).pending waiting
  exact ⟨open_.resolver, open_.resolvedAt, open_.note⟩

/-- A pull request with enough trusted outcomes under an automatic policy. -/
def sampleEvidence (ciResult : String) : MergeEvidence where
  orgId := 1
  storyId := 2
  prNumber := 7
  repo := ""
  ciResult := some ciResult
  prResult := some "pass"
  trustThreshold := 4 / 5
  headSha := some "c0ffee"
  participation := some 3
  disposition := .allowAuto
  explicitAsk := false
  outcome := ⟨20, 20, 0, some 1, 9 / 10, none⟩
  selfReportOnly := false
  observedFacts := []
  designatedApproverId := none
  newGateId := 4

/-- A run that meets the condition: red checks from the start, a hold and its release. -/
theorem pending_gate_unresolved_cycle :
    PendingUnresolved (Runs.final GateOperation.step []
      [.evaluateMerge (sampleEvidence "failure") 100, .hold 1 4 9 none none 150, .unhold 1 4 160]) :=
  pending_gate_unresolved _ ⟨rfl, True.intro, True.intro, True.intro⟩

/-- The automatic pass of a pull request stamps the instant; red checks on the
same commit then make the gate pending and leave the instant in place. -/
theorem withdrawn_pass_keeps_instant :
    ¬ PendingUnresolved (Runs.final GateOperation.step []
      [.evaluateMerge (sampleEvidence "success") 100, .evaluateMerge (sampleEvidence "failure") 200]) := by
  intro unresolved
  have left : (Runs.final GateOperation.step []
      [.evaluateMerge (sampleEvidence "success") 100, .evaluateMerge (sampleEvidence "failure") 200]).any
      (fun gate => gate.status == .pending && gate.resolvedAt == some 100) = true := by decide +kernel
  obtain ⟨gate, member, shape⟩ := List.any_eq_true.mp left
  simp only [Bool.and_eq_true, beq_iff_eq] at shape
  have instant := (unresolved gate member shape.1).2.1
  rw [shape.2] at instant
  cases instant

end Sprintable.Gates
