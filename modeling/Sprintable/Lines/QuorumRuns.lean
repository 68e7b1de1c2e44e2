import Sprintable.Gates.Frame
import Sprintable.Lines.Quorum

/-! Runs of the calls that decide a parallel gate. Its rows keep what its creation wrote of them, and
the unique index keeps two of them from one member. -/

namespace Sprintable.Lines

open Gates

section Decisions
variable {desk after : ApprovalDesk} {approvalId : Uuid} {decision : ApprovalStatus} {resolverId : Option Uuid}
  {note : Option String} {drafts : Drafts} {lookups : ResolutionLookups} {now : Nat}

def ApprovalDesk.decided (desk : ApprovalDesk) (row : StepApproval) (decision : ApprovalStatus) (note : Option String)
    (now : Nat) : ApprovalDesk :=
  { desk with approvals := Keyed.put StepApproval.id desk.approvals (row.decide decision note now) }

def ApprovalDesk.policyOf (desk : ApprovalDesk) (row : StepApproval) : QuorumPolicy :=
  ((Keyed.find StepRun.id desk.runs row.stepRunId).bind StepRun.quorumPolicy).getD {}

/-- What a decision can do: nothing, write its row, or write it and decide the gate. -/
inductive Decides (desk : ApprovalDesk) (approvalId : Uuid) (decision : ApprovalStatus) (resolverId : Option Uuid)
    (note : Option String) (drafts : Drafts) (lookups : ResolutionLookups) (now : Nat) : ApprovalDesk → Prop where
  | skipped : Decides desk approvalId decision resolverId note drafts lookups now desk
  | recorded {row} (found : Keyed.find StepApproval.id desk.approvals approvalId = some row) :
      Decides desk approvalId decision resolverId note drafts lookups now (desk.decided row decision note now)
  | closed {row gate target resolved} (found : Keyed.find StepApproval.id desk.approvals approvalId = some row)
      (gate_ : row.gateId.bind (desk.gates.lookup row.orgId) = some gate)
      (target_ : groupTarget (tallyBlocking (desk.decided row decision note now).approvals row.approvalGroupId)
        (desk.policyOf row) = some target)
      (transition : (desk.decided row decision note now).transition drafts row.orgId gate.id target resolverId note
        lookups now = .ok resolved) :
      Decides desk approvalId decision resolverId note drafts lookups now resolved

theorem decide_spec {outcome : ParallelOutcome}
    (executed : recordParallelDecision desk approvalId decision resolverId note drafts lookups now = .ok (after, outcome)) :
    Decides desk approvalId decision resolverId note drafts lookups now after := by
  unfold recordParallelDecision at executed
  split at executed
  · cases executed
  split at executed
  · cases executed
  next row found =>
    split at executed
    · cases executed
    split at executed
    · cases executed
    dsimp only at executed
    split at executed
    · cases executed
      exact .skipped
    split at executed
    next target gate target_ gate_ =>
      obtain ⟨resolved, transition, executed⟩ := Runs.bind_ok executed
      cases executed
      exact .closed found gate_ target_ transition
    · cases executed
      exact .recorded found

theorem target_spec {tally : Tally} {policy : QuorumPolicy} {target : GateStatus}
    (called : groupTarget tally policy = some target) :
    target = .rejected ∨ (target = .approved ∧ quorumMet tally policy = true) := by
  unfold groupTarget at called
  split at called
  · cases called
    exact .inl rfl
  split at called
  next met =>
    cases called
    exact .inr ⟨rfl, met⟩
  · cases called

theorem transition_runs {orgId gateId : Uuid} {newStatus : GateStatus}
    (executed : desk.transition drafts orgId gateId newStatus resolverId note lookups now = .ok after) :
    after.approvals = desk.approvals ∧
    (after.runs = desk.runs ∨
      ∃ run ∈ desk.runs, ∃ status moment, after.runs = Keyed.put StepRun.id desk.runs (run.resolve status moment)) := by
  obtain ⟨items, written, rfl⟩ := transition_spec executed
  refine ⟨rfl, ?_⟩
  have runs : (desk.withItems items).runs = items.runs := rfl
  rw [runs]
  cases handles : LineEvent.handled desk.toItemDesk
      (.gate (.transition drafts orgId gateId newStatus resolverId note none now) lookups) with
  | none =>
    simp only [LineEvent.attempt, LineEvent.gateWrite, handles] at written
    split at written
    · cases written
    · cases written
      exact .inl rfl
  | some handed =>
    obtain ⟨run, given⟩ := handed
    obtain ⟨gates, lookups, resolution⟩ := LineEvent.handled_resolution handles written
    obtain ⟨member, -⟩ := LineEvent.handled_spec handles
    cases ready : ItemKind.readiness? run.entityType with
    | none =>
      simp only [applyWorkflowLineResolution, ready] at resolution
      cases resolution
      exact .inl rfl
    | some kind =>
      have spec := resolution_spec ready resolution
      split at spec
      · obtain ⟨status, -, same⟩ := spec.closes
        exact .inr ⟨run, member, status, given.now, same⟩
      · rw [spec]
        exact .inl rfl

end Decisions

/-- What a row of the group keeps of its creation, whoever it is handed to. -/
structure ParallelRequest.Made (request : ParallelRequest) (stepRunId gateId : Uuid) (row : StepApproval) : Prop where
  stepRun : row.stepRunId = stepRunId
  gate : row.gateId = some gateId
  requested : row.requestedByMemberId = request.requestedByMemberId
  implemented : row.implementationMemberId = request.implementationMemberId
  apart : row.kind = .approver → row.blocking = true → sodConflict (some row.approverMemberId) row.parties = false

/-- What holds of the desk after every call about the parallel gate. -/
structure Quorate (request : ParallelRequest) (stepRunId gateId : Uuid) (desk : ApprovalDesk) : Prop where
  runs : (desk.runs.map StepRun.id).Nodup
  policy : ∃ run, Keyed.find StepRun.id desk.runs stepRunId = some run ∧ run.quorumPolicy = some request.quorum
  gates : desk.gates.Unique
  scope : ∀ gate ∈ desk.gates, gate.id = gateId → gate.scopeKey = ""
  keys : (desk.approvals.map StepApproval.id).Nodup
  index : Indexed desk.approvals
  group : ∀ row ∈ desk.approvals, row.approvalGroupId = request.groupId → request.Made stepRunId gateId row

section Steps
variable {request : ParallelRequest} {stepRunId gateId : Uuid} {desk after : ApprovalDesk} {row next : StepApproval}

/-- The rows of the group are of one step run, so that the index tells their members apart. -/
theorem Quorate.once (quorate : Quorate request stepRunId gateId desk) {first second : StepApproval}
    (left : first ∈ approvedRows desk.approvals request.groupId) (right : second ∈ approvedRows desk.approvals request.groupId)
    (same : first.approverMemberId = second.approverMemberId) : first.id = second.id := by
  obtain ⟨here, grouped, kind, -⟩ := mem_blocking.mp (mem_approved.mp left).1
  obtain ⟨there, shared, other, -⟩ := mem_blocking.mp (mem_approved.mp right).1
  have run : first.stepRunId = second.stepRunId :=
    (quorate.group first here grouped).stepRun.trans (quorate.group second there shared).stepRun.symm
  have key : first.indexKey = second.indexKey := by
    rw [StepApproval.indexKey, StepApproval.indexKey, run, same, kind, other]
  exact congrArg StepApproval.id (List.inj_on_of_nodup_map quorate.index here there key)

/-- A row is written in place, and this is what the write keeps of it. -/
structure Rewrites (request : ParallelRequest) (row next : StepApproval) : Prop where
  id : next.id = row.id
  group : next.approvalGroupId = row.approvalGroupId
  made : ∀ {stepRunId gateId}, row.approvalGroupId = request.groupId → request.Made stepRunId gateId row →
    request.Made stepRunId gateId next

theorem Quorate.rewrite (quorate : Quorate request stepRunId gateId desk) (member : row ∈ desk.approvals)
    (rewrites : Rewrites request row next) (same : after.toItemDesk = desk.toItemDesk)
    (rows : after.approvals = Keyed.put StepApproval.id desk.approvals next) (index : Indexed after.approvals) :
    Quorate request stepRunId gateId after where
  runs := same ▸ quorate.runs
  policy := same ▸ quorate.policy
  gates := same ▸ quorate.gates
  scope := same ▸ quorate.scope
  keys := by
    rw [rows, Keyed.map_key_put]
    exact quorate.keys
  index := index
  group := by
    rw [rows]
    intro other inside grouped
    rcases Keyed.mem_put inside with rfl | old
    · rw [rewrites.group] at grouped
      exact rewrites.made grouped (quorate.group row member grouped)
    · exact quorate.group other old.1 grouped

/-- A decision leaves the members of the rows as they are. -/
theorem decided_index {decision : ApprovalStatus} {note : Option String} {now : Nat} (index : Indexed desk.approvals)
    (keys : (desk.approvals.map StepApproval.id).Nodup) (member : row ∈ desk.approvals) :
    Indexed (desk.decided row decision note now).approvals := by
  have same : (desk.decided row decision note now).approvals.map StepApproval.indexKey =
      desk.approvals.map StepApproval.indexKey := by
    rw [ApprovalDesk.decided, Keyed.put, List.map_map]
    apply List.map_congr_left
    intro other present
    rw [Function.comp_apply]
    split
    next key =>
      obtain rfl : other = row := List.inj_on_of_nodup_map keys present member key
      rfl
    · rfl
  rw [Indexed, same]
  exact index

theorem Quorate.decided (quorate : Quorate request stepRunId gateId desk) {decision : ApprovalStatus} {note : Option String}
    {now : Nat} (member : row ∈ desk.approvals) :
    Quorate request stepRunId gateId (desk.decided row decision note now) := by
  have rewrites : Rewrites request row (row.decide decision note now) :=
    ⟨rfl, rfl, fun _ made => ⟨made.stepRun, made.gate, made.requested, made.implemented, made.apart⟩⟩
  exact quorate.rewrite member rewrites rfl rfl (decided_index quorate.index quorate.keys member)

def StepApproval.handedTo (row : StepApproval) (newApproverId : Uuid) : StepApproval :=
  { row with
    reassignedFromMemberId := some row.approverMemberId
    originalApproverMemberId := row.originalApproverMemberId.or (some row.approverMemberId)
    approverMemberId := newApproverId }

theorem handed_apart {newApproverId : Uuid} (other : newApproverId ≠ row.approverMemberId)
    (apart : sodConflict (some newApproverId) row.parties = false) :
    sodConflict (some newApproverId) (row.handedTo newApproverId).parties = false := by
  cases first : row.originalApproverMemberId with
  | none =>
    simp only [sodConflict, StepApproval.parties, first, Option.any_some] at apart
    simpa [sodConflict, StepApproval.parties, StepApproval.handedTo, first, other] using apart
  | some member =>
    have same : (row.handedTo newApproverId).parties = row.parties := by
      simp [StepApproval.parties, StepApproval.handedTo, first]
    exact same ▸ apart

theorem reassign_target_spec {orgId asked : Uuid} {oldApproverId : Option Uuid}
    (selected : reassignTarget desk.approvals orgId asked oldApproverId = .ok row) :
    row ∈ desk.approvals := by
  unfold reassignTarget at selected
  dsimp only at selected
  generalize listed : desk.approvals.filter _ = rows at selected
  have inside : row ∈ rows := by
    split at selected
    · cases selected
    · split at selected
      next found =>
        cases selected
        exact List.mem_of_find?_eq_some found
      · cases selected
    · cases selected
      exact List.mem_singleton.mpr rfl
    · cases selected
  rw [← listed] at inside
  exact List.mem_of_mem_filter inside

theorem reassign_spec (request : ParallelRequest) {orgId asked newApproverId reassignerId : Uuid} {oldApproverId : Option Uuid}
    {reason : Option String} {answers : ReassignAnswers}
    (executed : reassignApprover desk orgId asked newApproverId reassignerId oldApproverId reason answers = .ok after) :
    ∃ row ∈ desk.approvals, ∃ next, Rewrites request row next ∧ after.toItemDesk = desk.toItemDesk ∧
      after.approvals = Keyed.put StepApproval.id desk.approvals next ∧ Indexed after.approvals := by
  unfold reassignApprover at executed
  obtain ⟨row, selected, executed⟩ := Runs.bind_ok executed
  have member := reassign_target_spec selected
  split at executed
  · cases executed
  next other =>
    split at executed
    · cases executed
    split at executed
    · cases executed
    split at executed
    · cases executed
    next apart =>
      dsimp only at executed
      split at executed
      next index =>
        cases executed
        refine ⟨row, member, row.handedTo newApproverId, ⟨rfl, rfl, ?_⟩, rfl, rfl, index⟩
        intro stepRunId gateId _ made
        exact ⟨made.stepRun, made.gate, made.requested, made.implemented,
          fun _ _ => handed_apart other (Bool.eq_false_iff.mpr apart)⟩
      · cases executed

variable {drafts : Drafts} {orgId decidedId : Uuid} {newStatus : GateStatus} {resolverId : Option Uuid} {note : Option String}
  {lookups : ResolutionLookups} {now : Nat}

/-- The gate of a parallel approval names no destination. -/
def Unscoped (gateId : Uuid) (row : Gate) : Prop := row.id = gateId → row.scopeKey = ""

theorem Unscoped.core {row next : Gate} (unscoped : Unscoped gateId row) (same : next.core = row.core) :
    Unscoped gateId next := by
  intro key
  have scope : next.scopeKey = row.scopeKey := congrArg GateCore.scopeKey same
  exact scope.trans (unscoped ((id_of_core same).symm.trans key))

theorem unscoped_resolvable (gateId : Uuid) (newStatus : GateStatus) (now : Nat) :
    Resolvable newStatus now (Unscoped gateId) where
  resolve gate _ _ _ kept :=
    kept.core (show (gate.setStatus newStatus now).core = gate.core from setStatus_core gate newStatus now)
  note _ _ kept := kept.core rfl
  mark _ _ _ kept := kept.core rfl
  cascade target _ _ _ _ kept :=
    kept.core (show (target.setStatus newStatus now).core = target.core from setStatus_core target newStatus now)

theorem Quorate.transition (quorate : Quorate request stepRunId gateId desk)
    (executed : desk.transition drafts orgId decidedId newStatus resolverId note lookups now = .ok after) :
    Quorate request stepRunId gateId after := by
  obtain ⟨approvals, runs⟩ := transition_runs executed
  obtain ⟨decided, commands, decision⟩ := transition_gates executed
  have grown : desk.gates.Grown after.gates := by
    obtain ⟨items, written, rfl⟩ := transition_spec executed
    exact line_grown written
  refine ⟨?_, ?_, grown.unique quorate.gates, ?_, approvals ▸ quorate.keys, approvals ▸ quorate.index,
    approvals ▸ quorate.group⟩
  · rcases runs with same | ⟨run, _, status, moment, same⟩
    · exact same ▸ quorate.runs
    · rw [same, Keyed.map_key_put]
      exact quorate.runs
  · obtain ⟨run, found, policy⟩ := quorate.policy
    rcases runs with same | ⟨closed, member, status, moment, same⟩
    · exact ⟨run, same ▸ found, policy⟩
    · rw [same]
      by_cases key : closed.id = stepRunId
      · have standing := Keyed.find_of_mem quorate.runs member
        rw [key, found] at standing
        obtain rfl := Option.some.inj standing
        have named : (run.resolve status moment).id = stepRunId := key
        refine ⟨run.resolve status moment, ?_, policy⟩
        rw [Keyed.find_put, if_pos named, found, Option.map_some]
      · have other : (closed.resolve status moment).id ≠ stepRunId := key
        refine ⟨run, ?_, policy⟩
        rw [Keyed.find_put_other other]
        exact found
  · exact (transition_preserves (unscoped_resolvable gateId newStatus now) quorate.scope decision).1

theorem rejected_resolvable (gateId : Uuid) (now : Nat) :
    Resolvable .rejected now fun row => row.id = gateId → row.status ≠ .approved where
  resolve gate _ _ _ _ _ := by simp [Gate.resolve]
  note _ _ kept := kept
  mark _ _ _ kept := kept
  cascade target _ _ _ _ _ _ := by simp [Gate.cascadeFrom]

theorem not_approved {desk : ApprovalDesk} :
    gateApproved desk gateId = false ↔ ∀ row ∈ desk.gates, row.id = gateId → row.status ≠ .approved := by
  simp [gateApproved]

theorem transition_approves (quorate : Quorate request stepRunId gateId desk)
    (decides : newStatus = .approved ∨ newStatus = .rejected)
    (executed : desk.transition drafts orgId decidedId newStatus resolverId note lookups now = .ok after)
    (before : gateApproved desk gateId = false) (approved : gateApproved after gateId = true) :
    decidedId = gateId ∧ newStatus = .approved := by
  obtain ⟨decided, commands, decision⟩ := transition_gates executed
  rw [not_approved] at before
  refine ⟨?_, ?_⟩
  · apply Classical.byContradiction
    intro other
    obtain ⟨row, present, named⟩ := List.any_eq_true.mp approved
    rw [Bool.and_eq_true, beq_iff_eq, beq_iff_eq] at named
    have keys : row.id ∈ desk.gates.map Gate.id := by
      rw [← (transition_ids decision)]
      exact List.mem_map_of_mem present
    obtain ⟨old, standing, same⟩ := List.mem_map.mp keys
    have kept := transition_others quorate.gates decides decision standing
      (fun key => other (key.symm.trans (same.trans named.1))) (.inr (quorate.scope old standing (same.trans named.1)))
    have whole := row_of_id (quorate.transition executed).gates kept present same
    exact before old standing (same.trans named.1) (whole ▸ named.2)
  · rcases decides with rfl | rfl
    · rfl
    · have kept := (transition_preserves (rejected_resolvable gateId now) before decision).1
      rw [not_approved.mpr kept] at approved
      cases approved

theorem Quorate.decides (quorate : Quorate request stepRunId gateId desk) {approvalId : Uuid} {decision : ApprovalStatus}
    (own : OwnGroup request gateId desk (.decide approvalId decision resolverId note drafts lookups now))
    (decides : Decides desk approvalId decision resolverId note drafts lookups now after) :
    Quorate request stepRunId gateId after ∧
    (gateApproved desk gateId = false → gateApproved after gateId = true → QuorumSound request after) := by
  cases decides with
  | skipped => exact ⟨quorate, fun before approved => absurd (before.symm.trans approved) Bool.false_ne_true⟩
  | @recorded row found =>
    refine ⟨quorate.decided (Keyed.find_mem found), ?_⟩
    intro before approved
    have same : gateApproved (desk.decided row decision note now) gateId = gateApproved desk gateId := rfl
    exact absurd (before.symm.trans (same.symm.trans approved)) Bool.false_ne_true
  | @closed row gate target _ found gate_ target_ transition =>
    have recorded : Quorate request stepRunId gateId (desk.decided row decision note now) :=
      quorate.decided (Keyed.find_mem found)
    have resolved := recorded.transition transition
    refine ⟨resolved, fun before approved => ?_⟩
    have ends : target = .approved ∨ target = .rejected := by
      rcases target_spec target_ with rejects | ⟨approves, _⟩
      · exact .inr rejects
      · exact .inl approves
    obtain ⟨key, approves⟩ := transition_approves recorded ends transition before approved
    -- the gate is the parallel one, so that the row is one of its group
    obtain ⟨named, selected, looked⟩ := Option.bind_eq_some_iff.mp gate_
    have here : row.gateId = some gateId := by
      rw [selected, ← key]
      exact congrArg some (lookup_key looked).1.symm
    have grouped := own row (Keyed.find_mem found) (Keyed.find_key found) here
    have made := quorate.group row (Keyed.find_mem found) grouped
    have policy : desk.policyOf row = request.quorum := by
      obtain ⟨run, standing, policy⟩ := quorate.policy
      rw [ApprovalDesk.policyOf, made.stepRun, standing, Option.bind_some, policy, Option.getD_some]
    rw [policy, grouped] at target_
    obtain met : quorumMet _ request.quorum = true := by
      rcases target_spec target_ with rejects | ⟨_, met⟩
      · cases rejects.symm.trans approves
      · exact met
    rw [← (transition_runs transition).1] at met
    refine ⟨quorum_reached resolved.keys (fun _ left _ right => resolved.once left right) met, fun other inside => ?_, fun other inside => ?_⟩
    · obtain ⟨present, grouped, -⟩ := mem_blocking.mp (mem_approved.mp inside).1
      have other := resolved.group other present grouped
      exact ⟨other.requested, other.implemented⟩
    · obtain ⟨present, grouped, kind, blocking⟩ := mem_blocking.mp (mem_approved.mp inside).1
      exact (resolved.group other present grouped).apart kind blocking

theorem Quorate.step (quorate : Quorate request stepRunId gateId desk) {event : DeskEvent} (call : event.isApproval = true)
    (own : OwnGroup request gateId desk event) :
    Quorate request stepRunId gateId (event.step desk) ∧ (Approves gateId desk event → QuorumSound request (event.step desk)) := by
  cases attempted : event.attempt desk with
  | error error =>
    have same : event.step desk = desk := by rw [DeskEvent.step, Runs.settle, attempted]
    rw [Approves, same]
    exact ⟨quorate, fun approves => absurd (approves.1.symm.trans approves.2) Bool.false_ne_true⟩
  | ok after =>
    have same : event.step desk = after := by rw [DeskEvent.step, Runs.settle, attempted]
    rw [Approves, same]
    cases event with
    | reassign orgId asked newApproverId reassignerId oldApproverId reason answers =>
      obtain ⟨row, member, next, rewrites, items, rows, index⟩ := reassign_spec request attempted
      refine ⟨quorate.rewrite member rewrites items rows index, fun approves => ?_⟩
      have gates : gateApproved after gateId = gateApproved desk gateId := by rw [gateApproved, items, gateApproved]
      exact absurd (approves.1.symm.trans (gates.symm.trans approves.2)) Bool.false_ne_true
    | decide approvalId decision resolverId note drafts lookups now =>
      obtain ⟨⟨_, outcome⟩, executed, rfl⟩ := Runs.map_ok attempted
      obtain ⟨kept, sound⟩ := quorate.decides own (decide_spec executed)
      exact ⟨kept, fun approves => sound approves.1 approves.2⟩
    | _ => cases call

end Steps

def ApprovalDesk.stepGate (desk : ApprovalDesk) (stepRunId : Uuid) : Option Uuid :=
  (Keyed.find StepRun.id desk.runs stepRunId).bind StepRun.gateId

section Creation
variable {desk start : ApprovalDesk} {stepRunId gateId : Uuid} {request : ParallelRequest} {now : Nat}

theorem created_gate {table after : Table} {run : StepRun} {gate : Gate} (unique : table.Unique)
    (created : createGate table (request.create run) request.disposition now = .ok (after, gate)) :
    gate ∈ after ∧ gate.scopeKey = "" := by
  have answered : (SlotCall.answer table (.create (request.create run) request.disposition now)).1 = some gate := by
    rw [SlotCall.answer, created]
  have stepped : SlotCall.step table (.create (request.create run) request.disposition now) = after := by
    rw [SlotCall.step, SlotCall.answer, created]
  have selected := SlotCall.answer_exact unique answered
  rw [stepped] at selected
  refine ⟨List.mem_of_find?_eq_some selected, ?_⟩
  have holds := List.find?_some selected
  simp only [slotKey, SlotCall.prNumber, SlotCall.slot, ParallelRequest.create, Slot.holds, Bool.and_eq_true, beq_iff_eq] at holds
  exact holds.1.2

theorem Quorate.created (fresh : request.Fresh desk) (created : createParallelGate desk stepRunId request now = .ok start)
    (linked : start.stepGate stepRunId = some gateId) : Quorate request stepRunId gateId start := by
  unfold createParallelGate at created
  split at created
  · cases created
  next run found =>
    split at created
    · cases created
    next gates gate submission =>
      split at created
      · cases created
      next free =>
        dsimp only at created
        split at created
        case isFalse => cases created
        next index =>
        cases created
        have unique := (create_grown submission).unique fresh.gates
        obtain ⟨member, unscoped⟩ := created_gate fresh.gates submission
        obtain rfl := Keyed.find_key found
        have standing : Keyed.find StepRun.id (Keyed.put StepRun.id desk.runs { run with
            gateId := some gate.id, approvalGroupId := some request.groupId, quorumPolicy := some request.quorum }) run.id =
            some { run with
              gateId := some gate.id, approvalGroupId := some request.groupId, quorumPolicy := some request.quorum } := by
          rw [Keyed.find_put, if_pos rfl, found, Option.map_some]
        obtain rfl : gate.id = gateId := by
          have same : some gate.id = some gateId := by
            rw [← linked]
            unfold ApprovalDesk.stepGate
            exact (congrArg (fun found => found.bind StepRun.gateId) standing).symm
          exact Option.some.inj same
        have new (row : StepApproval) (inside : row ∈ desk.approvals ++ request.approvers.map (request.row run gate now))
            (grouped : row.approvalGroupId = request.groupId) :
            ∃ approver ∈ request.approvers, row = request.row run gate now approver := by
          rcases List.mem_append.mp inside with old | new
          · exact absurd grouped (fresh.group row old)
          · obtain ⟨approver, listed, same⟩ := List.mem_map.mp new
            exact ⟨approver, listed, same.symm⟩
        refine ⟨?_, ⟨_, standing, rfl⟩, unique, ?_, ?_, index, ?_⟩
        · have keys : (Keyed.put StepRun.id desk.runs { run with
              gateId := some gate.id, approvalGroupId := some request.groupId, quorumPolicy := some request.quorum }).map
              StepRun.id = desk.runs.map StepRun.id := Keyed.map_key_put _ _
          exact keys ▸ fresh.runs
        · intro other present key
          exact row_of_id unique present member key ▸ unscoped
        · have keys : (desk.approvals ++ request.approvers.map (request.row run gate now)).map StepApproval.id =
              desk.approvals.map StepApproval.id ++ request.approvers.map ApproverRequest.rowId := by
            rw [List.map_append, List.map_map]
            rfl
          rw [keys]
          exact fresh.rows
        · intro row inside grouped
          obtain ⟨approver, listed, rfl⟩ := new row inside grouped
          refine ⟨rfl, rfl, rfl, rfl, fun kind blocking => ?_⟩
          have apart := List.find?_eq_none.mp free approver listed
          have kind : approver.kind = .approver := kind
          have blocking : approver.blocks = true := blocking
          simp only [ParallelRequest.conflicts, kind, blocking, Bool.and_true, beq_self_eq_true] at apart
          exact Bool.eq_false_iff.mpr apart

end Creation

section Samples

end Samples

end Sprintable.Lines
