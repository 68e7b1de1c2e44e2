import Sprintable.Gates.StatusClock
import Sprintable.Lines.Sla

/-! Whole runs of the tables behind approvals: the events of the line, decisions
of single approvers, and items of SLA passes. -/

namespace Sprintable.Lines

open Gates

inductive DeskEvent where
  | line (event : LineEvent)
  | createParallel (stepRunId : Uuid) (request : ParallelRequest) (now : Nat)
  | reassign (orgId gateId newApproverId reassignerId : Uuid) (oldApproverId : Option Uuid) (reason : Option String)
      (answers : ReassignAnswers)
  | decide (approvalId : Uuid) (decision : ApprovalStatus) (resolverId : Option Uuid) (note : Option String)
      (drafts : Drafts) (lookups : ResolutionLookups) (now : Nat)
  | slaItem (stepRunId : Uuid) (answers : SlaAnswers) (now : Nat)

namespace DeskEvent

/-- A withdrawal reads the step runs and the approval rows of the desk itself. -/
def attempt (desk : ApprovalDesk) : DeskEvent → Except ApprovalError ApprovalDesk
  | .line (.gate (.withdraw _ _ orgId storyId stepRunId actorId actor reason now) _) =>
    .ok (desk.withdraw orgId storyId stepRunId actorId actor reason now).1
  | .line event =>
    match event.attempt desk.toItemDesk with
    | .ok items => .ok (desk.withItems items)
    | .error error => .error (.item error)
  | .createParallel stepRunId request now => createParallelGate desk stepRunId request now
  | .reassign orgId gateId newApproverId reassignerId oldApproverId reason answers =>
    reassignApprover desk orgId gateId newApproverId reassignerId oldApproverId reason answers
  | .decide approvalId decision resolverId note drafts lookups now =>
    Prod.fst <$> recordParallelDecision desk approvalId decision resolverId note drafts lookups now
  | .slaItem stepRunId answers now => Prod.fst <$> processSlaItem desk stepRunId answers now

def step : ApprovalDesk → DeskEvent → ApprovalDesk := Runs.settle attempt

/-- What an event of the lines leaves of the desk. -/
def lined (desk : ApprovalDesk) (event : LineEvent) : Except ApprovalError ApprovalDesk :=
  match event.attempt desk.toItemDesk with
  | .ok items => .ok (desk.withItems items)
  | .error error => .error (.item error)

theorem line_attempt {desk after : ApprovalDesk} {event : LineEvent}
    (other : ∀ write lookups, event = .gate write lookups → LineEvent.isWithdrawal write = false)
    (executed : (DeskEvent.line event).attempt desk = .ok after) :
    ∃ items, event.attempt desk.toItemDesk = .ok items ∧ after = desk.withItems items := by
  have shape : (DeskEvent.line event).attempt desk = lined desk event := by
    cases event with
    | gate write lookups =>
      cases write with
      | withdraw => cases other _ _ rfl
      | _ => rfl
    | _ => rfl
  rw [shape, lined] at executed
  split at executed
  next items attempted =>
    cases executed
    exact ⟨items, attempted, rfl⟩
  · cases executed

end DeskEvent

/-- A pass is the run of its items, each in a transaction of its own. -/
def processSla (desk : ApprovalDesk) (answers : Uuid → SlaAnswers) (now : Nat) : ApprovalDesk :=
  Runs.final DeskEvent.step desk ((slaBatch desk).map fun id => .slaItem id (answers id) now)

section Transitions
variable {desk after : ApprovalDesk} {drafts : Drafts} {orgId gateId : Uuid} {newStatus : GateStatus}
  {resolverId : Option Uuid} {note : Option String} {lookups : ResolutionLookups} {now : Nat}

theorem transition_spec (executed : desk.transition drafts orgId gateId newStatus resolverId note lookups now = .ok after) :
    ∃ items, (LineEvent.gate (.transition drafts orgId gateId newStatus resolverId note none now) lookups).attempt
      desk.toItemDesk = .ok items ∧ after = desk.withItems items := by
  unfold ApprovalDesk.transition at executed
  split at executed
  next items written =>
    cases executed
    exact ⟨items, written, rfl⟩
  · cases executed

theorem transition_writes (executed : desk.transition drafts orgId gateId newStatus resolverId note lookups now = .ok after) :
    OpenWrite desk.runs after.runs := by
  obtain ⟨items, written, rfl⟩ := transition_spec executed
  exact LineEvent.gate_writes written

theorem transition_gates (executed : desk.transition drafts orgId gateId newStatus resolverId note lookups now = .ok after) :
    ∃ decided commands, transitionGate drafts desk.gates orgId gateId newStatus resolverId note none now =
      .ok (after.gates, decided, commands) := by
  obtain ⟨items, written, rfl⟩ := transition_spec executed
  have gates := LineEvent.gate_write_gates rfl written
  obtain ⟨⟨_, decided, commands⟩, decision, rfl⟩ := Runs.map_ok gates
  exact ⟨decided, commands, decision⟩

end Transitions

section Settled
variable {drafts : Drafts} {table after : Table} {gate row : Gate} {now : Nat}

theorem lookup_key {orgId gateId : Uuid} (found : table.lookup orgId gateId = some gate) :
    gate.id = gateId ∧ gate.orgId = orgId := by
  have selected := List.find?_some found
  rw [Bool.and_eq_true, beq_iff_eq, beq_iff_eq] at selected
  exact selected

theorem mem_put_other (member : row ∈ table) (different : row.id ≠ gate.id) : row ∈ table.put gate :=
  List.mem_map.mpr ⟨row, member, if_neg different⟩

/-- No cascade decides the gate: it waits no more, or it names no destination. -/
def Spared (row : Gate) : Prop := row.status ≠ .pending ∨ row.scopeKey = ""

theorem spared_other (unique : table.Unique) (member : row ∈ table) (spared : Spared row) {orgId workItemId : Uuid}
    {workItemType : String}
    (sole : findSolePendingScopedExternalPublishGate table orgId workItemId workItemType = some gate) : row.id ≠ gate.id := by
  obtain ⟨present, named, waiting⟩ := sole_pending_spec sole
  intro same
  obtain rfl := row_of_id unique member present same
  rcases spared with settled | unnamed
  · exact settled waiting
  · simp [Gate.scopedExternalPublish, unnamed] at named

theorem approve_cascade_keeps (unique : table.Unique) (member : row ∈ table)
    (different : row.id ≠ gate.id) (spared : Spared row) {resolverId : Option Uuid}
    {reviewedDraft : Option (Uuid × Nat)} {marked : Gate} {commands : List CommandRequest}
    (executed : approveCascade drafts table gate resolverId reviewedDraft now = .ok (after, marked, commands)) :
    row ∈ after := by
  unfold approveCascade at executed
  split at executed
  · obtain ⟨⟨facts, sealedDraft⟩, sealed_, executed⟩ := Runs.bind_ok executed
    have key : facts.id = gate.id := by
      rcases seal_cases sealed_ with rfl | ⟨_, rfl⟩
      · rfl
      · rfl
    have kept : row ∈ table.put facts := mem_put_other member (key ▸ different)
    dsimp only at executed
    split at executed
    · cases executed
      exact kept
    next target selected =>
      cases executed
      obtain ⟨selected, -⟩ := Option.filter_eq_some_iff.mp selected
      obtain ⟨draft, -, selected⟩ := Option.bind_eq_some_iff.mp selected
      have other := spared_other (unique_put unique _) kept spared (cascade_target_spec selected).1
      apply mem_put_other kept
      rcases command_hook_cases drafts (target.cascadeFrom marked .approved recipeAutoSatisfiedNote now) resolverId with
        same | ⟨note, noted⟩
      · rw [same]
        simpa [Gate.cascadeFrom] using other
      · rw [noted]
        simpa [Gate.cascadeFrom, Gate.appendNote] using other
  · cases executed
    exact member

theorem transition_others (unique : table.Unique) {orgId gateId : Uuid} {newStatus : GateStatus}
    (decides : newStatus = .approved ∨ newStatus = .rejected) {resolverId : Option Uuid} {note : Option String}
    {reviewedDraft : Option (Uuid × Nat)} {commands : List CommandRequest} {decided : Gate}
    (executed : transitionGate drafts table orgId gateId newStatus resolverId note reviewedDraft now =
      .ok (after, decided, commands)) (member : row ∈ table) (different : row.id ≠ gateId) (spared : Spared row) :
    row ∈ after := by
  unfold transitionGate at executed
  split at executed
  · cases executed
  next selected found =>
    have different : row.id ≠ selected.id := fun same => different (same.trans (lookup_key found).1)
    split at executed
    · cases executed
    next legal =>
      have resolved (row : Gate) (status : GateStatus) : (row.resolve status resolverId note now).id = row.id := by
        simp [Gate.resolve]
      split at executed
      · cases executed
      dsimp only at executed
      split at executed
      · obtain ⟨⟨cascaded, marked, others⟩, cascade, executed⟩ := Runs.bind_ok executed
        cases executed
        have key : (maybeCreateScheduledPublicationCommand drafts
            (selected.resolve .approved resolverId note now) resolverId).1.id = selected.id := by
          rcases command_hook_cases drafts (selected.resolve .approved resolverId note now) resolverId with
            same | ⟨text, noted⟩
          · rw [same, resolved]
          · rw [noted]
            exact resolved selected .approved
        exact approve_cascade_keeps (unique_put unique _) (mem_put_other member (key ▸ different)) (key ▸ different) spared
          cascade
      · cases executed
        have kept := mem_put_other member ((resolved selected .rejected).symm ▸ different)
        unfold rejectCascade
        split
        · split
          · exact kept
          next target sole =>
            have other := spared_other (unique_put unique _) kept spared sole
            exact mem_put_other kept (by simpa [Gate.cascadeFrom] using other)
        · exact kept
      · cases executed
        exact mem_put_other member (by rw [resolved]; exact different)

theorem transition_pending {orgId gateId : Uuid} {newStatus : GateStatus}
    (decides : newStatus = .approved ∨ newStatus = .rejected) {resolverId : Option Uuid} {note : Option String}
    {reviewedDraft : Option (Uuid × Nat)} {commands : List CommandRequest} {decided : Gate}
    (executed : transitionGate drafts table orgId gateId newStatus resolverId note reviewedDraft now =
      .ok (after, decided, commands)) :
    ∃ selected, table.lookup orgId gateId = some selected ∧ selected.status = .pending := by
  unfold transitionGate at executed
  split at executed
  · cases executed
  next selected found =>
    split at executed
    · cases executed
    next legal =>
      refine ⟨selected, found, ?_⟩
      simp only [Bool.not_eq_true, Bool.not_eq_false'] at legal
      generalize selected.status = status at legal
      rcases decides with rfl | rfl
      · cases status <;> simp [isValidTransition, validTransitions] at legal
        rfl
      · cases status <;> simp [isValidTransition, validTransitions] at legal
        rfl

theorem transition_keeps (unique : table.Unique) {orgId gateId : Uuid} {newStatus : GateStatus}
    (decides : newStatus = .approved ∨ newStatus = .rejected) {resolverId : Option Uuid} {note : Option String}
    {reviewedDraft : Option (Uuid × Nat)} {commands : List CommandRequest} {decided : Gate}
    (executed : transitionGate drafts table orgId gateId newStatus resolverId note reviewedDraft now =
      .ok (after, decided, commands)) (member : row ∈ table) (settled : row.status ≠ .pending) : row ∈ after := by
  obtain ⟨selected, found, waiting⟩ := transition_pending decides executed
  have different : row.id ≠ gateId := by
    intro same
    have here := row_of_id unique member (Table.lookup_mem found) (same.trans (lookup_key found).1.symm)
    exact settled (here ▸ waiting)
  exact transition_others unique decides executed member different (.inl settled)

end Settled

section Keys
variable {desk after : LineDesk} {answers : LineAnswers} {request : LineRequest} {now : Nat}
  {outcome : Except Failure LineDecision}

theorem record_gates {definition : LineDefinition} {status : StepRunStatus} {gateId : Option Uuid} {given : LineDecision}
    (recorded : desk.record answers request now definition status gateId given = (after, outcome)) :
    after.gates = desk.gates := by
  unfold LineDesk.record at recorded
  split at recorded
  all_goals
    cases recorded
    rfl

theorem merge_gate_grown {definition : LineDefinition}
    (evaluated : mergeGateWrapper desk answers request now definition = (after, outcome)) :
    desk.gates.Grown after.gates := by
  have start : desk.gates.Grown desk.gates := .inl rfl
  unfold mergeGateWrapper at evaluated
  split at evaluated
  · cases evaluated
    exact start
  split at evaluated
  · cases evaluated
    exact start
  next evidence _ =>
    dsimp only at evaluated
    split at evaluated
    · cases evaluated
      exact start
    next gates verdict merged =>
      let report : MergeEvidence := { evidence with
        orgId := request.orgId, storyId := request.entityId, prNumber := 0, repo := ""
        ciResult := none, prResult := none, headSha := none }
      have executed : (GateOperation.evaluateMerge report now).attempt desk.gates = .ok gates := by
        rw [GateOperation.attempt, merged]
        rfl
      have grown : desk.gates.Grown gates := GateWrite.operation_grown executed
      split at evaluated
      all_goals
        have same : after.gates = gates := record_gates evaluated
        exact same ▸ grown

theorem decide_step_grown {line : GoverningLine} {step : Json}
    (decided : decideStep desk answers request now line step = (after, outcome)) : desk.gates.Grown after.gates := by
  have start : desk.gates.Grown desk.gates := .inl rfl
  unfold decideStep at decided
  split at decided
  · exact record_gates decided ▸ start
  split at decided
  · exact merge_gate_grown decided
  dsimp only at decided
  cases decided
  exact record_gates rfl ▸ start

theorem evaluate_line_grown (settings : EngineSettings) (desk : LineDesk) (answers : LineAnswers) (request : LineRequest)
    (now : Nat) : desk.gates.Grown (evaluateLineForTransition settings desk answers request now).1.gates := by
  have attempted : desk.gates.Grown (attemptEvaluation settings desk answers request now).1.gates := by
    unfold attemptEvaluation
    split
    · exact .inl rfl
    · exact .inl rfl
    · split
      · exact .inl rfl
      · exact decide_step_grown rfl
  unfold evaluateLineForTransition
  split
  next after decision same =>
    rw [same] at attempted
    exact attempted
  next after failure same =>
    rw [same] at attempted
    unfold degrade
    dsimp only
    split
    · exact attempted
    · exact attempted

theorem line_grown {desk after : ItemDesk} {event : LineEvent} (executed : event.attempt desk = .ok after) :
    desk.gates.Grown after.gates := by
  have start : desk.gates.Grown desk.gates := .inl rfl
  cases event with
  | editItem item =>
    cases executed
    exact start
  | dropItem kind id =>
    cases executed
    exact start
  | configure definitions versions =>
    cases executed
    exact start
  | request service =>
    obtain ⟨item, -, executed⟩ := Runs.bind_ok executed
    obtain ⟨_, -, executed⟩ := Runs.bind_ok executed
    split at executed
    · have grown := evaluate_line_grown service.settings desk.toLineDesk (desk.fresh service.answers) (service.line item)
        service.now
      dsimp only at executed
      split at executed
      · obtain ⟨moved, native, executed⟩ := Runs.bind_ok executed
        cases executed
        have relayed (id : Option Uuid) (dispatched : Bool) : (moved.relay id dispatched).gates = moved.gates := by
          unfold ItemDesk.relay
          repeat' split
          all_goals rfl
        rw [relayed, native_spec native]
        exact grown
      · cases executed
        exact grown
    · rw [native_spec executed]
      exact start
  | slaTick stepRunId escalates =>
    cases executed
    have same : (slaTick desk stepRunId escalates).gates = desk.gates := by
      unfold slaTick
      repeat' split
      all_goals rfl
    exact same ▸ start
  | reclaim orgId storyId now =>
    cases executed
    unfold reclaimStaleMergeGatesForStory
    generalize desk.gates.filter _ = gates
    have swept : ∀ reached : ItemDesk, desk.gates.Grown reached.gates →
        desk.gates.Grown (gates.foldl (fun reclaimed gate => reclaimGate reclaimed gate now) reached).gates := by
      induction gates with
      | nil => exact fun _ grown => grown
      | cons gate rest ih =>
        intro reached grown
        apply ih
        have same : (reclaimGate reached gate now).gates = reached.gates.put { gate.setStatus .voided now with
            resolverId := none, resolutionNote := some reclaimNote, resolvedAt := some now } :=
          LineEvent.mark_linked_gates ..
        rw [same]
        exact grown.put _
    exact swept desk start
  | gate write lookups =>
    cases withdrawal : LineEvent.isWithdrawal write with
    | false =>
      have grown := GateWrite.step_grown desk.gates write
      rw [GateWrite.step, Runs.settle, LineEvent.gate_write_gates withdrawal executed] at grown
      exact grown
    | true =>
      cases write with
      | withdraw runs approvals orgId storyId stepRunId actorId actor reason now =>
        cases executed
        exact GateWrite.step_grown desk.gates (.withdraw desk.runs approvals orgId storyId stepRunId actorId actor reason now)
      | _ => cases withdrawal

end Keys

end Sprintable.Lines
