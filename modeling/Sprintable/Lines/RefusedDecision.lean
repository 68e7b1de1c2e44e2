import Sprintable.Lines.QuorumRuns

/-! What a refused decision of one approver leaves behind. The row is written and flushed before the
group is counted, and only then the gate is asked to move. -/

namespace Sprintable.Lines

open Gates

section Session
variable (desk : ApprovalDesk) (approvalId : Uuid) (decision : ApprovalStatus) (resolverId : Option Uuid)
  (note : Option String) (drafts : Drafts) (lookups : ResolutionLookups) (now : Nat)

/-- A decision with the approval rows that its session holds when the call returns or raises. There is
no savepoint around the row. -/
def decideInSession : List StepApproval × Except ApprovalError (ApprovalDesk × ParallelOutcome) :=
  if decision ∉ validDecisions then (desk.approvals, .error (.invalidDecision decision))
  else
    match Keyed.find StepApproval.id desk.approvals approvalId with
    | none => (desk.approvals, .error (.approvalNotFound approvalId))
    | some row =>
      if resolverId.any (· ≠ row.approverMemberId) then (desk.approvals, .error (.selfApproval resolverId))
      else if sodConflict resolverId [row.requestedByMemberId, row.implementationMemberId, row.originalApproverMemberId] then
        (desk.approvals, .error (.selfApproval resolverId))
      else
        let gate := row.gateId.bind (desk.gates.lookup row.orgId)
        match gate.filter fun gate => terminalGate.contains gate.status with
        | some decided =>
          (desk.approvals, .ok (desk, ⟨decided.status, true, tallyBlocking desk.approvals row.approvalGroupId⟩))
        | none =>
          let recorded := desk.decided row decision note now
          let tally := tallyBlocking recorded.approvals row.approvalGroupId
          match groupTarget tally (desk.policyOf row), gate with
          | some target, some gate =>
            (recorded.approvals, do
              let resolved ← recorded.transition drafts row.orgId gate.id target resolverId note lookups now
              return (resolved, ⟨target, false, tally⟩))
          | _, _ => (recorded.approvals, .ok (recorded, ⟨.pending, false, tally⟩))

theorem decide_in_session : (decideInSession desk approvalId decision resolverId note drafts lookups now).2 =
    recordParallelDecision desk approvalId decision resolverId note drafts lookups now := by
  unfold decideInSession recordParallelDecision
  by_cases valid : decision ∉ validDecisions
  · rw [if_pos valid, if_pos valid]
  · rw [if_neg valid, if_neg valid]
    cases Keyed.find StepApproval.id desk.approvals approvalId with
    | none => rfl
    | some row =>
      dsimp only
      split_ifs
      · rfl
      · rfl
      generalize row.gateId.bind (desk.gates.lookup row.orgId) = gate
      cases gate.filter fun gate => terminalGate.contains gate.status with
      | some decided => rfl
      | none =>
        dsimp only [ApprovalDesk.decided, ApprovalDesk.policyOf]
        generalize groupTarget _ _ = target
        cases target <;> cases gate <;> rfl

end Session

/-- The recipe gate shows a draft, and nobody says which version the approver saw. -/
def draftUnseen (drafts : Drafts) (gate : Gate) : Bool :=
  gate.gateType == .externalPublish && gate.scopeKey == "" && gate.isRecipeExternalPublish &&
    (drafts.recipeShown gate.orgId gate.workItemId gate.workItemType).any fun shown =>
      (drafts.versions shown.kind shown.draftId).getLast?.isSome

/-- `transition_gate` refuses the move: by the gate's status, for want of a reason, or of the version seen. -/
def gateRefuses (drafts : Drafts) (gate : Gate) (target : GateStatus) (note : Option String) : Bool :=
  !isValidTransition gate.status target || (target == .rejected && !PyText.notBlank note) ||
    (target == .approved && draftUnseen drafts gate)

/-- A call that refuses: by its own checks, or because the gate refuses its move. -/
def ApprovalError.refuses : ApprovalError → Bool
  | .invalidDecision _ | .approvalNotFound _ | .selfApproval _ | .item (.gate _) => true
  | _ => false

/-- The decision passes the checks of its row, and the group then calls for a move that the gate refuses. -/
structure Strands (desk : ApprovalDesk) (approvalId : Uuid) (decision : ApprovalStatus) (resolverId : Option Uuid)
    (note : Option String) (drafts : Drafts) (now : Nat) (row : StepApproval) (gate : Gate) (target : GateStatus) :
    Prop where
  decides : decision ∈ validDecisions
  found : Keyed.find StepApproval.id desk.approvals approvalId = some row
  own : ∀ resolver, resolverId = some resolver → resolver = row.approverMemberId
  apart : sodConflict resolverId row.parties = false
  gate_ : row.gateId.bind (desk.gates.lookup row.orgId) = some gate
  undecided : gate.status ∉ terminalGate
  called : groupTarget (tallyBlocking (desk.decided row decision note now).approvals row.approvalGroupId)
    (desk.policyOf row) = some target
  refused : gateRefuses drafts gate target note = true
  changed : ∃ old ∈ desk.approvals, old.id = approvalId ∧ row.decide decision note now ≠ old

section Gate
variable {drafts : Drafts} {table : Table} {gate : Gate} {orgId gateId : Uuid} {target : GateStatus}
  {resolverId : Option Uuid} {note : Option String} {now : Nat}

private theorem seal_refuses (drafts : Drafts) (gate : Gate) :
    (∃ error, sealRecipeApprovedDraft drafts gate none = .error error) ↔
      gate.isRecipeExternalPublish = true ∧
      ((drafts.recipeShown gate.orgId gate.workItemId gate.workItemType).any fun shown =>
        (drafts.versions shown.kind shown.draftId).getLast?.isSome) = true := by
  unfold sealRecipeApprovedDraft
  split
  next plain => simpa using fun recipe => absurd recipe (by simpa using plain)
  next recipe =>
    have recipe : gate.isRecipeExternalPublish = true := by simpa using recipe
    split
    next none_ => simp [none_]
    next shown shown_ =>
      split
      next empty => simp [shown_, empty]
      next version versionId last => simp [shown_, last, recipe]

private theorem approve_refuses (drafts : Drafts) (table : Table) (gate : Gate) (resolverId : Option Uuid) (now : Nat) :
    (∃ error, approveCascade drafts table gate resolverId none now = .error error) ↔ draftUnseen drafts gate = true := by
  unfold approveCascade draftUnseen
  split
  next recipe =>
    have sealing := seal_refuses drafts gate
    simp only [recipe.1, recipe.2, beq_self_eq_true, Bool.true_and, Bool.and_eq_true]
    rw [← sealing]
    cases sealed_ : sealRecipeApprovedDraft drafts gate none with
    | error failure => exact ⟨fun _ => ⟨failure, rfl⟩, fun _ => ⟨failure, rfl⟩⟩
    | ok marked =>
      obtain ⟨marked, sealedDraft⟩ := marked
      constructor
      · rintro ⟨error, executed⟩
        simp only [bind, Except.bind] at executed
        split at executed <;> cases executed
      · rintro ⟨error, executed⟩
        cases executed
  next plain =>
    constructor
    · rintro ⟨error, executed⟩
      cases executed
    · intro unseen
      simp only [Bool.and_eq_true, beq_iff_eq] at unseen
      exact absurd unseen.1.1 plain

private theorem draft_unseen_noted (drafts : Drafts) (gate : Gate) (newStatus : GateStatus) (resolverId : Option Uuid)
    (note : Option String) (now : Nat) :
    draftUnseen drafts (maybeCreateScheduledPublicationCommand drafts (gate.resolve newStatus resolverId note now)
      resolverId).1 = draftUnseen drafts gate := by
  have resolved : ∀ note', draftUnseen drafts { gate.setStatus newStatus now with
      resolverId := resolverId, resolvedAt := some now, resolutionNote := note' } = draftUnseen drafts gate := by
    intro note'
    unfold Gate.setStatus
    split <;> rfl
  rcases command_hook_cases drafts (gate.resolve newStatus resolverId note now) resolverId with same | ⟨_, noted⟩
  · rw [same]
    exact resolved _
  · rw [noted]
    exact resolved _

private theorem transition_gate_refuses (found : table.lookup orgId gateId = some gate)
    (target_ : target = .approved ∨ target = .rejected) :
    (∃ error, transitionGate drafts table orgId gateId target resolverId note none now = .error error) ↔
      gateRefuses drafts gate target note = true := by
  unfold transitionGate gateRefuses
  rw [found]
  dsimp only
  split
  next illegal => simp [illegal]
  next legal =>
    have legal : isValidTransition gate.status target = true := by simpa using legal
    split
    next unsaid => simp [unsaid]
    next said =>
      rcases target_ with rfl | rfl
      · have cascade := approve_refuses drafts (table.put (maybeCreateScheduledPublicationCommand drafts
          (gate.resolve .approved resolverId note now) resolverId).1)
          (maybeCreateScheduledPublicationCommand drafts (gate.resolve .approved resolverId note now) resolverId).1
          resolverId now
        rw [draft_unseen_noted] at cascade
        have refuses : (!isValidTransition gate.status .approved ||
            GateStatus.approved == .rejected && !PyText.notBlank note ||
            GateStatus.approved == .approved && draftUnseen drafts gate) = draftUnseen drafts gate := by
          simp [legal]
        rw [refuses, ← cascade]
        constructor
        · rintro ⟨error, executed⟩
          simp only [bind, Except.bind] at executed
          split at executed
          next failure stopped => exact ⟨failure, stopped⟩
          · cases executed
        · rintro ⟨error, executed⟩
          exact ⟨error, by simp only [executed]; rfl⟩
      · simp [legal] at said ⊢
        simp [said]

end Gate

section Resolution
variable {desk : ItemDesk} {run : StepRun} {now : Nat} {kind : ItemKind} {error : ItemError} {id orgId : Uuid} {toStatus : String}

/-- An error of a service of work items: no gate has raised it. -/
def ItemError.ofGate : ItemError → Bool
  | .gate _ => true
  | _ => false

private theorem native_not_gate {item : WorkItem} {call : TransitionCall}
    (raised : transitionNative desk item toStatus call = .error error) : error.ofGate = false := by
  unfold transitionNative at raised
  split at raised
  · cases raised
  · unfold transitionHypothesis at raised
    repeat' split at raised
    all_goals cases raised
    all_goals rfl
  · unfold transitionDoc at raised
    split at raised
    all_goals cases raised
    rfl
  · unfold transitionGoal at raised
    split at raised
    all_goals cases raised
    rfl
  · unfold transitionSprint activateSprint closeSprint at raised
    repeat' split at raised
    all_goals cases raised
    all_goals rfl

private theorem via_gate_not_gate {aliveHypothesis : Bool}
    (raised : transitionViaGate desk orgId kind id toStatus aliveHypothesis = .error error) : error.ofGate = false := by
  unfold transitionViaGate at raised
  cases owned : desk.ownItem orgId kind id with
  | error failure =>
    simp only [owned, bind, Except.bind] at raised
    cases raised
    unfold ItemDesk.ownItem at owned
    split at owned
    all_goals cases owned
    rfl
  | ok item =>
    simp only [owned, bind, Except.bind] at raised
    split at raised
    next failure illegal =>
      cases raised
      unfold ItemDesk.legal at illegal
      repeat' split at illegal
      all_goals cases illegal
      all_goals rfl
    · exact native_not_gate raised

private theorem resolve_item_not_gate {target : String} {expected : Option String} {excluded : WorkItem → Bool}
    {move : Except ItemError ItemDesk} {caught : ItemError → Bool}
    (moves : ∀ failure, move = .error failure → failure.ofGate = false)
    (raised : resolveItem desk run now kind target expected excluded move caught = .error error) : error.ofGate = false := by
  unfold resolveItem at raised
  split at raised
  · cases raised
  split at raised
  · cases raised
  split at raised
  · cases raised
  split at raised
  · cases raised
  split at raised
  · cases raised
  · split at raised
    · cases raised
    · cases raised
      exact moves _ rfl

/-- The resolution of a step run raises only errors of the item's service, or of an unreadable line. -/
private theorem resolution_not_gate {lookups : ResolutionLookups} {newStatus : GateStatus} {resolverId : Option Uuid}
    (raised : applyWorkflowLineResolution desk run now lookups newStatus resolverId = .error error) : error.ofGate = false := by
  unfold applyWorkflowLineResolution at raised
  split at raised
  · cases raised
  split at raised
  next failure unreadable =>
    cases raised
    unfold stepConfig at unreadable
    split at unreadable
    all_goals cases unreadable
    rfl
  split at raised
  · cases raised
  split at raised
  · cases raised
  split at raised
  · cases raised
  unfold applyTransition at raised
  split at raised
  · exact resolve_item_not_gate (fun _ => via_gate_not_gate) raised
  · exact resolve_item_not_gate (fun _ => via_gate_not_gate) raised
  · exact resolve_item_not_gate (fun _ => via_gate_not_gate) raised
  · exact resolve_item_not_gate (fun _ => via_gate_not_gate) raised
  · apply resolve_item_not_gate _ raised
    intro failure moved
    cases moved

private theorem gate_write_error {write : GateWrite} {lookups : ResolutionLookups}
    (raised : LineEvent.gateWrite desk write lookups = .error error) (ofGate : error.ofGate = true) :
    ∃ failure, write.attempt desk.gates = .error failure := by
  unfold LineEvent.gateWrite at raised
  split at raised
  · cases raised
  split at raised
  next failure attempted => exact ⟨failure, attempted⟩
  split at raised
  · rw [resolution_not_gate raised] at ofGate
    cases ofGate
  · cases raised

end Resolution

section Rows
variable {desk : ApprovalDesk} {approvalId : Uuid} {decision : ApprovalStatus} {resolverId : Option Uuid} {note : Option String}
  {drafts : Drafts} {lookups : ResolutionLookups} {now : Nat}

private theorem transition_refuses {orgId : Uuid} {gate : Gate} {target : GateStatus}
    (found : desk.gates.lookup orgId gate.id = some gate) (target_ : target = .approved ∨ target = .rejected) :
    (∃ error, desk.transition drafts orgId gate.id target resolverId note lookups now = .error error ∧
      error.refuses = true) ↔ gateRefuses drafts gate target note = true := by
  have refuses : (∃ error, transitionGate drafts desk.gates orgId gate.id target resolverId note none now = .error error) ↔
      gateRefuses drafts gate target note = true := transition_gate_refuses found target_
  rw [← refuses]
  unfold ApprovalDesk.transition
  constructor
  · rintro ⟨error, raised, refuses⟩
    split at raised
    · cases raised
    next failure stopped =>
      cases raised
      obtain ⟨refusal, attempted⟩ := gate_write_error stopped (by cases failure <;> first | rfl | cases refuses)
      cases moved : transitionGate drafts desk.gates orgId gate.id target resolverId note none now with
      | error failure => exact ⟨failure, rfl⟩
      | ok decided =>
        simp only [GateWrite.attempt, moved] at attempted
        cases attempted
  · rintro ⟨error, moved⟩
    refine ⟨.item (.gate error), ?_, rfl⟩
    simp only [LineEvent.gateWrite, GateWrite.attempt, moved]
    rfl

private theorem own_resolver {row : StepApproval} :
    ¬ resolverId.any (· ≠ row.approverMemberId) = true ↔
      ∀ resolver, resolverId = some resolver → resolver = row.approverMemberId := by
  cases resolverId with
  | none => simp
  | some resolver => simp

theorem row_gate {row : StepApproval} {gate : Gate} (gate_ : row.gateId.bind (desk.gates.lookup row.orgId) = some gate) :
    desk.gates.lookup row.orgId gate.id = some gate := by
  obtain ⟨gateId, -, found⟩ := Option.bind_eq_some_iff.mp gate_
  have key : gate.id = gateId := by
    have selected := List.find?_some found
    simp only [Bool.and_eq_true, beq_iff_eq] at selected
    exact selected.1
  rw [key]
  exact found

private theorem called_target {tally : Tally} {policy : QuorumPolicy} {target : GateStatus}
    (called : groupTarget tally policy = some target) : target = .approved ∨ target = .rejected := by
  rcases target_spec called with rejects | ⟨approves, -⟩
  · exact .inr rejects
  · exact .inl approves

private theorem decided_same (row : StepApproval) (same : row.id = approvalId) :
    (desk.decided row decision note now).approvals = desk.approvals ↔
      ¬ ∃ old ∈ desk.approvals, old.id = approvalId ∧ row.decide decision note now ≠ old := by
  have key : (row.decide decision note now).id = approvalId := same
  unfold ApprovalDesk.decided
  dsimp only
  rw [Keyed.put_same_iff, key]
  push Not
  rfl

private theorem traced_strands {rows : List StepApproval} {error : ApprovalError}
    (ended : decideInSession desk approvalId decision resolverId note drafts lookups now = (rows, .error error))
    (refuses : error.refuses = true) (trace : rows ≠ desk.approvals) :
    ∃ row gate target, Strands desk approvalId decision resolverId note drafts now row gate target := by
  unfold decideInSession at ended
  split at ended
  · cases ended
    exact absurd rfl trace
  next valid =>
    split at ended
    · cases ended
      exact absurd rfl trace
    next row found =>
      split at ended
      · cases ended
        exact absurd rfl trace
      next own =>
        split at ended
        · cases ended
          exact absurd rfl trace
        next apart =>
          dsimp only at ended
          split at ended
          · cases ended
          next waiting =>
            split at ended
            next target gate called gate_ =>
              obtain ⟨written, raised⟩ := Prod.mk.inj ended
              have refused : ∃ failure, (desk.decided row decision note now).transition drafts row.orgId gate.id target
                  resolverId note lookups now = .error failure ∧ failure.refuses = true := by
                cases moved : (desk.decided row decision note now).transition drafts row.orgId gate.id target resolverId
                    note lookups now with
                | error failure =>
                  rw [moved] at raised
                  cases raised
                  exact ⟨_, rfl, refuses⟩
                | ok resolved =>
                  rw [moved] at raised
                  cases raised
              have found_ : (desk.decided row decision note now).gates.lookup row.orgId gate.id = some gate := row_gate gate_
              refine ⟨row, gate, target, not_not.mp valid, found, own_resolver.mp own, (Bool.not_eq_true _).mp apart, gate_, ?_,
                called, (transition_refuses found_ (called_target called)).mp refused, ?_⟩
              · intro terminal
                rw [gate_] at waiting
                simp [Option.filter, terminal] at waiting
              · rw [← written] at trace
                exact not_not.mp (mt (decided_same row (Keyed.find_key found)).mpr trace)
            · cases ended

private theorem strands_traced {row : StepApproval} {gate : Gate} {target : GateStatus}
    (strands : Strands desk approvalId decision resolverId note drafts now row gate target) :
    ∃ error, decideInSession desk approvalId decision resolverId note drafts lookups now =
      ((desk.decided row decision note now).approvals, .error error) ∧ error.refuses = true ∧
      (desk.decided row decision note now).approvals ≠ desk.approvals := by
  have apart : ¬ sodConflict resolverId
      [row.requestedByMemberId, row.implementationMemberId, row.originalApproverMemberId] = true :=
    (Bool.not_eq_true _).mpr strands.apart
  have found_ : (desk.decided row decision note now).gates.lookup row.orgId gate.id = some gate := row_gate strands.gate_
  have refused : ∃ failure, (desk.decided row decision note now).transition drafts row.orgId gate.id target
      resolverId note lookups now = .error failure ∧ failure.refuses = true :=
    (transition_refuses found_ (called_target strands.called)).mpr strands.refused
  obtain ⟨error, raised, refuses⟩ := refused
  refine ⟨error, ?_, refuses, ?_⟩
  · have waiting : (some gate).filter (fun gate => terminalGate.contains gate.status) = none := by
      simp [Option.filter, strands.undecided]
    unfold decideInSession
    rw [if_neg (not_not.mpr strands.decides), strands.found]
    dsimp only
    rw [if_neg (own_resolver.mpr strands.own), if_neg apart, strands.gate_, waiting]
    dsimp only
    rw [strands.called]
    dsimp only
    rw [raised]
    rfl
  · exact mt (decided_same row (Keyed.find_key strands.found)).mp (not_not.mpr strands.changed)

/-- A refused decision leaves the approval rows as they were, unless the group calls for a move that
its gate refuses. -/
theorem refused_decision_leaves_rows (desk : ApprovalDesk) (approvalId : Uuid) (decision : ApprovalStatus)
    (resolverId : Option Uuid) (note : Option String) (drafts : Drafts) (lookups : ResolutionLookups) (now : Nat) :
    (∀ error, (decideInSession desk approvalId decision resolverId note drafts lookups now).2 = .error error →
      error.refuses = true →
      (decideInSession desk approvalId decision resolverId note drafts lookups now).1 = desk.approvals) ↔
    ¬ ∃ row gate target, Strands desk approvalId decision resolverId note drafts now row gate target := by
  constructor
  · rintro kept ⟨row, gate, target, strands⟩
    have traced : ∃ error, decideInSession desk approvalId decision resolverId note drafts lookups now =
        ((desk.decided row decision note now).approvals, .error error) ∧ error.refuses = true ∧
        (desk.decided row decision note now).approvals ≠ desk.approvals := strands_traced strands
    obtain ⟨error, ended, refuses, trace⟩ := traced
    rw [ended] at kept
    exact trace (kept error rfl refuses)
  · intro clear error raised refuses
    by_contra trace
    exact clear (traced_strands (Prod.ext rfl raised) refuses trace)

def ApprovalDesk.onHold : ApprovalDesk where
  gates := [{ id := 5, orgId := 1, workItemId := 4, workItemType := "story", gateType := .merge, status := .held }]
  runs := [{ id := 6, orgId := 1, projectId := 2, entityType := "story", entityId := 4, toStatus := "done",
             mode := .gatePending, gateId := some 5, approvalGroupId := some 7, quorumPolicy := some {} }]
  approvals := [{ id := 8, orgId := 1, projectId := 2, stepRunId := 6, gateId := some 5, approvalGroupId := 7,
                  approverMemberId := 9 }]

/-- The approver decides while the gate is on hold: the gate refuses, and the row is approved. -/
theorem held_gate_row_written :
    ¬ ∀ error, (decideInSession .onHold 8 .approved (some 9) none .empty {} 10).2 = .error error →
      error.refuses = true →
      (decideInSession .onHold 8 .approved (some 9) none .empty {} 10).1 = ApprovalDesk.onHold.approvals := by
  intro kept
  have same := kept (.item (.gate (.illegalTransition .held .approved))) rfl rfl
  have written : ((decideInSession .onHold 8 .approved (some 9) none .empty {} 10).1.map StepApproval.status) = [.approved] := by
    decide
  rw [same] at written
  cases written

end Rows

end Sprintable.Lines
