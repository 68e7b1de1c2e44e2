import Sprintable.Gates.Writes
import Sprintable.Lines.LineResolution

/-! Whole runs of the line over its items: requests that the line may govern,
edits made beside it, decisions about gates with the resolution of their step
runs, and everything else that writes a step run. -/

namespace Sprintable.Lines

open Gates

namespace ItemDesk

def opened : ItemDesk where

def withLine (desk : ItemDesk) (line : LineDesk) : ItemDesk := { desk with toLineDesk := line }

def withGates (desk : ItemDesk) (gates : Table) : ItemDesk := { desk with gates }

/-- Rewrite the open run that the gate decides; without one nothing happens. -/
def markLinked (desk : ItemDesk) (orgId gateId : Uuid) (change : StepRun → StepRun) : ItemDesk :=
  match findActiveStepRunForGate desk.runs orgId gateId with
  | none => desk
  | some run => desk.putRun (change run)

/-- The insert of a step run fails when its key is taken. -/
def fresh (desk : ItemDesk) (answers : LineAnswers) : LineAnswers :=
  { answers with saved := answers.saved && !(desk.runs.any fun run => run.id == answers.stepRunId) }

/-- The relay of a story's hand-off to its next assignee, right after the move. -/
def relay (desk : ItemDesk) (stepRunId : Option Uuid) (dispatched : Bool) : ItemDesk :=
  match stepRunId.bind fun id => Keyed.find StepRun.id desk.runs id with
  | some run => if dispatched then desk.putRun { run with status := .dispatched } else desk
  | none => desk

end ItemDesk

/-- One call of a service, with everything that it reads outside the desk. -/
structure ServiceCall where
  settings : EngineSettings
  answers : LineAnswers
  orgId : Uuid
  kind : ItemKind
  itemId : Uuid
  toStatus : String
  call : TransitionCall
  dispatched : Bool := false
  now : Nat

def ServiceCall.line (service : ServiceCall) (item : WorkItem) : LineRequest where
  orgId := service.orgId
  projectId := some item.projectId
  entityType := service.kind.text
  entityId := item.id
  fromStatus := some item.status
  toStatus := service.toStatus

/-- The line is asked for the transitions that it may govern, and the move is
made when it lets the transition proceed. -/
def requestTransition (desk : ItemDesk) (service : ServiceCall) : Except ItemError ItemDesk := do
  let item ← desk.ownItem service.orgId service.kind service.itemId
  ItemDesk.legal service.kind item service.toStatus service.call
  if service.kind.asksLine item.status service.toStatus then
    let (line, decision) := evaluateLineForTransition service.settings desk.toLineDesk (desk.fresh service.answers)
      (service.line item) service.now
    let evaluated := desk.withLine line
    if decision.proceeds then
      let moved ← transitionNative evaluated item service.toStatus service.call
      return moved.relay decision.relayStepRunId service.dispatched
    else return evaluated
  else transitionNative desk item service.toStatus service.call

def slaStatuses : List StepRunStatus := [.gatePending, .waitingGate, .waitingParallel, .reminded, .escalated, .held]

/-- A reminder or an escalation of a run that still waits and is not on hold. -/
def slaTick (desk : ItemDesk) (stepRunId : Uuid) (escalates : Bool) : ItemDesk :=
  match Keyed.find StepRun.id desk.runs stepRunId with
  | none => desk
  | some run =>
    if run.status ∉ slaStatuses ∨ run.status = .held then desk
    else if escalates then desk.putRun { run with status := .escalated }
    else if run.status = .escalated then desk
    else desk.putRun { run with status := .reminded }

def reclaimNote : String :=
  "system_auto_reclaim: target story already done, merge gate never resolved (story #f2b66f32)"

/-- The recall of one pending merge gate of a story that is done. -/
def reclaimGate (desk : ItemDesk) (gate : Gate) (now : Nat) : ItemDesk :=
  let voided := { gate.setStatus .voided now with
    resolverId := none, resolutionNote := some reclaimNote, resolvedAt := some now }
  (desk.withGates (desk.gates.put voided)).markLinked gate.orgId gate.id fun run => run.resolve .skipped now

def reclaimStaleMergeGatesForStory (desk : ItemDesk) (orgId storyId : Uuid) (now : Nat) : ItemDesk :=
  (desk.gates.filter fun gate => gate.orgId == orgId && gate.workItemId == storyId && gate.workItemType == "story" &&
    gate.gateType == .merge && gate.status == .pending).foldl (fun reclaimed gate => reclaimGate reclaimed gate now) desk

inductive LineEvent where
  | editItem (item : WorkItem)
  | dropItem (kind : ItemKind) (id : Uuid)
  | configure (definitions : List LineDefinition) (versions : List LineVersion)
  | request (service : ServiceCall)
  | gate (write : GateWrite) (lookups : ResolutionLookups)
  | slaTick (stepRunId : Uuid) (escalates : Bool)
  | reclaim (orgId storyId : Uuid) (now : Nat)

/-- A decision about a gate: what its resolution is told. -/
structure GateVerdict where
  orgId : Uuid
  gateId : Uuid
  newStatus : GateStatus
  resolverId : Option Uuid
  now : Nat

namespace LineEvent

/-- The verdict of a gate write, whatever call brought it. -/
def verdict : GateWrite → Option GateVerdict
  | .transition _ orgId gateId newStatus resolverId _ _ now => some ⟨orgId, gateId, newStatus, resolverId, now⟩
  | .operation (.transition _ orgId gateId decision resolverId _ _ now) =>
    some ⟨orgId, gateId, decision.status, resolverId, now⟩
  | .operation (.override _ orgId gateId ownerId decision _ now) => some ⟨orgId, gateId, decision, some ownerId, now⟩
  | _ => none

/-- What a gate write that is no verdict does to step runs. -/
def followUp (desk : ItemDesk) : GateWrite → ItemDesk
  | .operation (.void orgId gateId _ _ now) => desk.markLinked orgId gateId fun run => run.resolve .skipped now
  | .operation (.hold orgId gateId _ _ _ _) => desk.markLinked orgId gateId fun run => { run with status := .held }
  | .operation (.unhold orgId gateId _) => desk.markLinked orgId gateId fun run => { run with status := .gatePending }
  | _ => desk

/-- The run to which a write hands its verdict. -/
def handled (desk : ItemDesk) : LineEvent → Option (StepRun × GateVerdict)
  | .gate write _ => (verdict write).bind fun given =>
    (findActiveStepRunForGate desk.runs given.orgId given.gateId).map fun run => (run, given)
  | _ => none

def gateWrite (desk : ItemDesk) (write : GateWrite) (lookups : ResolutionLookups) : Except ItemError ItemDesk :=
  match write with
  | .withdraw _ approvals orgId storyId stepRunId actorId actor reason now =>
    let withdrawn := (withdrawPendingRun ⟨desk.gates, desk.runs, approvals⟩ orgId storyId stepRunId actorId actor reason now).1
    .ok { desk with gates := withdrawn.gates, runs := withdrawn.runs }
  | _ =>
    match write.attempt desk.gates with
    | .error error => .error (.gate error)
    | .ok gates =>
      match handled desk (.gate write lookups) with
      | some (run, given) =>
        applyWorkflowLineResolution (desk.withGates gates) run given.now lookups given.newStatus given.resolverId
      | none => .ok (followUp (desk.withGates gates) write)

def attempt (desk : ItemDesk) : LineEvent → Except ItemError ItemDesk
  | .editItem item =>
    .ok { desk with items := desk.items.filter (fun old => !(old.kind == item.kind && old.id == item.id)) ++ [item] }
  | .dropItem kind id => .ok { desk with items := desk.items.filter fun old => !(old.kind == kind && old.id == id) }
  | .configure definitions versions => .ok { desk with definitions, versions }
  | .request service => requestTransition desk service
  | .gate write lookups => gateWrite desk write lookups
  | .slaTick stepRunId escalates => .ok (Lines.slaTick desk stepRunId escalates)
  | .reclaim orgId storyId now => .ok (reclaimStaleMergeGatesForStory desk orgId storyId now)

def step : ItemDesk → LineEvent → ItemDesk := Runs.settle attempt

/-- The step run whose resolution changed some item. -/
def moves (desk : ItemDesk) (event : LineEvent) : Option Uuid :=
  match handled desk event with
  | some (run, _) => if (step desk event).items = desk.items then none else some run.id
  | none => none

end LineEvent

/-- The columns of a run that only the SLA pass writes after its insert. -/
def StepRun.slaColumns (run : StepRun) : Json × Nat × Option Uuid × String :=
  (run.riskSnapshot, run.reminderCount, run.escalatedToMemberId, run.deliveryStatus)

/-- The columns with which every run is inserted: the engine records no risk. -/
def StepRun.unattended : Json × Nat × Option Uuid × String := (.obj [], 0, none, "not_required")

section Records
variable {settings : EngineSettings} {desk after : LineDesk} {answers : LineAnswers} {request : LineRequest} {now : Nat}
  {line : GoverningLine} {step : Json} {decision : LineDecision}

/-- A recording inserts no run, or one for the transition that was asked for. -/
def Recorded (answers : LineAnswers) (request : LineRequest) (before after : List StepRun) (status : StepRunStatus)
    (stepRunId : Option Uuid) : Prop :=
  (after = before ∧ stepRunId = none) ∨
    ∃ run : StepRun, after = before ++ [run] ∧ stepRunId = some run.id ∧ run.id = answers.stepRunId ∧
      answers.saved = true ∧ run.entityType = request.entityType ∧ run.fromStatus = request.fromStatus ∧
      run.toStatus = request.toStatus ∧ run.status = status ∧ run.slaColumns = StepRun.unattended

theorem record_step_run_spec {before rows : List StepRun} {definitionId gateId stepRunId : Option Uuid}
    {status : StepRunStatus} {mode : DecisionMode} {trustSnapshot : Json}
    (recorded : recordStepRun answers request now before definitionId status mode gateId trustSnapshot =
      .ok (rows, stepRunId)) :
    Recorded answers request before rows status stepRunId := by
  unfold recordStepRun at recorded
  split at recorded
  · cases recorded
    exact .inl ⟨rfl, rfl⟩
  split at recorded
  · cases recorded
  split at recorded
  · cases recorded
    exact .inl ⟨rfl, rfl⟩
  next saved =>
    cases recorded
    exact .inr ⟨_, rfl, rfl, rfl, by simpa using saved, rfl, rfl, rfl, rfl, rfl⟩

/-- What an evaluation leaves: at most one new run, and a run to relay only if
it is that one, still routing. -/
structure Evaluated (answers : LineAnswers) (request : LineRequest) (before after : List StepRun) (relay : Option Uuid) :
    Prop where
  recorded : ∃ status stepRunId, Recorded answers request before after status stepRunId ∧
    (relay = none ∨ relay = stepRunId ∧ status = .routingResolved)

theorem Evaluated.unchanged (before : List StepRun) : Evaluated answers request before before none :=
  ⟨.pending, none, .inl ⟨rfl, rfl⟩, .inl rfl⟩

/-- A failed attempt has inserted nothing. -/
def Attempted (answers : LineAnswers) (request : LineRequest) (before after : List StepRun) :
    Except Failure LineDecision → Prop
  | .ok decision => Evaluated answers request before after decision.relayStepRunId
  | .error _ => after = before

theorem record_evaluated {definition : LineDefinition} {status : StepRunStatus} {gateId : Option Uuid}
    {given : LineDecision} {outcome : Except Failure LineDecision} (plain : given.relayStepRunId = none)
    (recorded : desk.record answers request now definition status gateId given = (after, outcome)) :
    (∀ decision, outcome = .ok decision → Recorded answers request desk.runs after.runs status decision.stepRunId ∧
      decision.relayStepRunId = none) ∧ ∀ failure, outcome = .error failure → after = desk := by
  unfold LineDesk.record at recorded
  split at recorded
  next rows stepRunId inserted =>
    cases recorded
    refine ⟨fun decision same => ?_, fun failure same => ?_⟩
    · cases same
      exact ⟨record_step_run_spec inserted, plain⟩
    · cases same
  · cases recorded
    refine ⟨fun decision same => ?_, fun _ _ => rfl⟩
    cases same

theorem record_plain {definition : LineDefinition} {status : StepRunStatus} {gateId : Option Uuid}
    {given : LineDecision} {outcome : Except Failure LineDecision} {before : List StepRun}
    (recorded : desk.record answers request now definition status gateId given = (after, outcome))
    (start : desk.runs = before) (plain : given.relayStepRunId = none) :
    Attempted answers request before after.runs outcome := by
  subst start
  obtain ⟨inserts, fails⟩ := record_evaluated plain recorded
  cases outcome with
  | error failure => exact congrArg LineDesk.runs (fails failure rfl)
  | ok decision =>
    obtain ⟨inserted, nothing⟩ := inserts decision rfl
    exact ⟨status, decision.stepRunId, inserted, .inl nothing⟩

theorem merge_gate_evaluated {definition : LineDefinition} {outcome : Except Failure LineDecision}
    (evaluated : mergeGateWrapper desk answers request now definition = (after, outcome)) :
    Attempted answers request desk.runs after.runs outcome := by
  unfold mergeGateWrapper at evaluated
  split at evaluated
  · cases evaluated
    exact .unchanged desk.runs
  split at evaluated
  · cases evaluated
    rfl
  dsimp only at evaluated
  split at evaluated
  · cases evaluated
    rfl
  split at evaluated
  all_goals exact record_plain evaluated rfl rfl

theorem decide_step_evaluated {outcome : Except Failure LineDecision}
    (decided : decideStep desk answers request now line step = (after, outcome)) :
    Attempted answers request desk.runs after.runs outcome := by
  unfold decideStep at decided
  split at decided
  · exact record_plain decided rfl rfl
  split at decided
  · exact merge_gate_evaluated decided
  dsimp only at decided
  cases recorded : desk.record answers request now line.definition .routingResolved none
      { mode := .advisoryOnly, statusToApply := some request.toStatus } with
  | mk advised advisory =>
    obtain ⟨inserts, fails⟩ := record_evaluated rfl recorded
    rw [recorded] at decided
    cases advisory with
    | error failure =>
      cases decided
      exact congrArg LineDesk.runs (fails failure rfl)
    | ok decision =>
      cases decided
      refine ⟨.routingResolved, decision.stepRunId, (inserts decision rfl).1, ?_⟩
      dsimp only
      split
      · exact .inr ⟨rfl, rfl⟩
      · exact .inl rfl

theorem evaluate_line_evaluated (settings : EngineSettings) (desk : LineDesk) (answers : LineAnswers)
    (request : LineRequest) (now : Nat) :
    Evaluated answers request desk.runs (evaluateLineForTransition settings desk answers request now).1.runs
      (evaluateLineForTransition settings desk answers request now).2.relayStepRunId := by
  have attempted : Attempted answers request desk.runs (attemptEvaluation settings desk answers request now).1.runs
      (attemptEvaluation settings desk answers request now).2 := by
    unfold attemptEvaluation
    split
    · rfl
    · exact .unchanged desk.runs
    · split
      · rfl
      · exact decide_step_evaluated rfl
  unfold evaluateLineForTransition
  split
  next after decision same =>
    rw [same] at attempted
    exact attempted
  next after failure same =>
    rw [same] at attempted
    have kept : after.runs = desk.runs := attempted
    unfold degrade
    dsimp only
    split
    next rows stepRunId recorded =>
      rw [kept] at recorded
      exact ⟨.engineFailed, stepRunId, record_step_run_spec recorded, .inl rfl⟩
    · rw [kept]
      exact .unchanged desk.runs

end Records

section Following
variable {before middle after rows : List StepRun} {run next : StepRun}

/-- The transition that a run was opened for, which no writer changes. -/
def StepRun.route (run : StepRun) : Uuid × String × Uuid × Option String × String :=
  (run.id, run.entityType, run.entityId, run.fromStatus, run.toStatus)

/-- The run was opened for a transition that its service submits to the line. -/
def Routed (run : StepRun) : Prop :=
  ∃ (kind : ItemKind) (fromStatus : String), run.entityType = kind.text ∧ run.fromStatus = some fromStatus ∧
    kind.asksLine fromStatus run.toStatus = true

/-- Every row stems from an old one and stays closed if that was, or is new. -/
structure Follows (before after : List StepRun) : Prop where
  unique : (before.map StepRun.id).Nodup → (after.map StepRun.id).Nodup
  kept : ∀ id ∈ before.map StepRun.id, id ∈ after.map StepRun.id
  rows : ∀ row ∈ after,
    (∃ old ∈ before, row.route = old.route ∧ row.slaColumns = old.slaColumns ∧
      (old.isOpen = false → row.isOpen = false)) ∨
      Routed row ∧ row.slaColumns = StepRun.unattended ∧ row.id ∉ before.map StepRun.id

theorem Follows.refl (before : List StepRun) : Follows before before :=
  ⟨id, fun _ member => member, fun row member => .inl ⟨row, member, rfl, rfl, id⟩⟩

theorem route_id {old row : StepRun} (same : row.route = old.route) : row.id = old.id := congrArg Prod.fst same

theorem Routed.of_route (routed : Routed run) (same : next.route = run.route) : Routed next := by
  obtain ⟨kind, fromStatus, type, origin, asks⟩ := routed
  simp only [StepRun.route, Prod.mk.injEq] at same
  obtain ⟨-, sameType, -, sameOrigin, sameTarget⟩ := same
  exact ⟨kind, fromStatus, sameType.trans type, sameOrigin.trans origin, sameTarget ▸ asks⟩

theorem Follows.trans (first : Follows before middle) (second : Follows middle after) : Follows before after where
  unique distinct := second.unique (first.unique distinct)
  kept id member := second.kept id (first.kept id member)
  rows row member := by
    rcases second.rows row member with ⟨old, present, same, columns, closed⟩ | ⟨routed, columns, fresh⟩
    · rcases first.rows old present with ⟨origin, there, route, sla, shut⟩ | ⟨routed, sla, fresh⟩
      · exact .inl ⟨origin, there, same.trans route, columns.trans sla, fun done => closed (shut done)⟩
      · exact .inr ⟨routed.of_route same, columns.trans sla, route_id same ▸ fresh⟩
    · exact .inr ⟨routed, columns, fun old => fresh (first.kept row.id old)⟩

theorem Follows.put (unique : (before.map StepRun.id).Nodup) (member : run ∈ before) (route : next.route = run.route)
    (columns : next.slaColumns = run.slaColumns) (closed : run.isOpen = false → next.isOpen = false) :
    Follows before (Keyed.put StepRun.id before next) where
  unique := by rw [Keyed.map_key_put]; exact id
  kept id present := by rw [Keyed.map_key_put]; exact present
  rows row present := by
    obtain ⟨old, there, rfl⟩ := List.mem_map.mp present
    refine .inl ⟨old, there, ?_⟩
    split
    next same =>
      have found := Keyed.find_of_mem unique there
      rw [same, route_id route, Keyed.find_of_mem unique member] at found
      cases found
      exact ⟨route, columns, closed⟩
    · exact ⟨rfl, rfl, id⟩

theorem Follows.insert (routed : Routed next) (columns : next.slaColumns = StepRun.unattended)
    (fresh : ∀ old ∈ before, old.id ≠ next.id) :
    Follows before (before ++ [next]) where
  unique distinct := Keyed.nodup_append distinct fresh
  kept id member := by rw [List.map_append]; exact List.mem_append_left _ member
  rows row member := by
    rcases List.mem_append.mp member with old | new
    · exact .inl ⟨row, old, rfl, rfl, id⟩
    · rw [List.mem_singleton.mp new]
      refine .inr ⟨routed, columns, fun taken => ?_⟩
      obtain ⟨old, present, same⟩ := List.mem_map.mp taken
      exact fresh old present same

/-- A write of at most one run, an open one that keeps the transition it was opened for. -/
inductive OpenWrite (before : List StepRun) : List StepRun → Prop where
  | none : OpenWrite before before
  | put {run next : StepRun} (member : run ∈ before) (waits : run.isOpen = true) (route : next.route = run.route)
      (columns : next.slaColumns = run.slaColumns) : OpenWrite before (Keyed.put StepRun.id before next)

theorem OpenWrite.follows (writes : OpenWrite before after) (unique : (before.map StepRun.id).Nodup) :
    Follows before after := by
  cases writes with
  | none => exact .refl before
  | put member waits route columns =>
    exact .put unique member route columns fun closed => absurd (waits.symm.trans closed) Bool.noConfusion

theorem put_closed (unique : (before.map StepRun.id).Nodup) (member : run ∈ before) (waits : run.isOpen = true)
    (same : next.id = run.id) {row : StepRun} (present : row ∈ before) (shut : row.isOpen = false) :
    row ∈ Keyed.put StepRun.id before next := by
  refine List.mem_map.mpr ⟨row, present, if_neg fun equal => ?_⟩
  have found := Keyed.find_of_mem unique present
  rw [equal, same, Keyed.find_of_mem unique member] at found
  cases found
  exact Bool.noConfusion (waits.symm.trans shut)

theorem OpenWrite.closed (writes : OpenWrite before after) (unique : (before.map StepRun.id).Nodup) {row : StepRun}
    (present : row ∈ before) (shut : row.isOpen = false) : row ∈ after := by
  cases writes with
  | none => exact present
  | put member waits route columns => exact put_closed unique member waits (route_id route) present shut

end Following

section Steps
variable {desk after : ItemDesk} {run next : StepRun} {event : LineEvent}

/-- Run ids are unique, and every run was opened for a transition of its kind. -/
structure Lined (desk : ItemDesk) : Prop where
  unique : (desk.runs.map StepRun.id).Nodup
  routed : ∀ run ∈ desk.runs, Routed run

theorem Lined.follow (lined : Lined desk) (follows : Follows desk.runs after.runs) : Lined after where
  unique := follows.unique lined.unique
  routed row member := by
    rcases follows.rows row member with ⟨old, present, same, -, -⟩ | ⟨routed, -⟩
    · exact (lined.routed old present).of_route same
    · exact routed

/-- The run with this id stands and is closed. -/
def Spent (desk : ItemDesk) (id : Uuid) : Prop :=
  id ∈ desk.runs.map StepRun.id ∧ ∀ run ∈ desk.runs, run.id = id → run.isOpen = false

theorem Spent.follow {id : Uuid} (spent : Spent desk id) (follows : Follows desk.runs after.runs) : Spent after id := by
  refine ⟨follows.kept id spent.1, fun row member same => ?_⟩
  rcases follows.rows row member with ⟨old, present, route, -, closed⟩ | ⟨-, -, fresh⟩
  · exact closed (spent.2 old present ((route_id route).symm.trans same))
  · exact absurd (same ▸ spent.1) fresh

theorem mark_linked_writes (desk : ItemDesk) (orgId gateId : Uuid) {change : StepRun → StepRun}
    (route : ∀ run, (change run).route = run.route) (columns : ∀ run, (change run).slaColumns = run.slaColumns) :
    OpenWrite desk.runs (desk.markLinked orgId gateId change).runs := by
  unfold ItemDesk.markLinked
  split
  · exact .none
  next run found =>
    obtain ⟨member, waits⟩ := find_active_spec found
    exact .put member waits (route run) (columns run)

theorem native_runs {item : WorkItem} {toStatus : String} {call : TransitionCall}
    (executed : transitionNative desk item toStatus call = .ok after) : after.runs = desk.runs := by
  rw [native_spec executed]
  rfl

theorem evaluated_follows {service : ServiceCall} {item : WorkItem} {rows : List StepRun}
    {relay : Option Uuid} (asks : service.kind.asksLine item.status service.toStatus = true)
    (evaluated : Evaluated (desk.fresh service.answers) (service.line item) desk.runs rows relay) :
    Follows desk.runs rows ∧ ∀ id run, relay = some id → Keyed.find StepRun.id rows id = some run → run.isOpen = true := by
  obtain ⟨status, stepRunId, recorded, relays⟩ := evaluated
  rcases recorded with ⟨rfl, none⟩ | ⟨opened, rfl, key, id, saved, type, origin, target, begins, columns⟩
  · refine ⟨.refl desk.runs, fun id run given => ?_⟩
    rcases relays with nothing | ⟨same, -⟩
    · cases given.symm.trans nothing
    · cases given.symm.trans (same.trans none)
  · have fresh : ∀ old ∈ desk.runs, old.id ≠ opened.id := by
      intro old member same
      simp only [ItemDesk.fresh, Bool.and_eq_true, Bool.not_eq_true'] at saved
      have absent := List.any_eq_false.mp saved.2 old member
      exact absent (by simp [same, id, ItemDesk.fresh])
    refine ⟨.insert ⟨service.kind, item.status, type, origin, target ▸ asks⟩ columns fresh, fun wanted run given found => ?_⟩
    rcases relays with nothing | ⟨same, routing⟩
    · cases given.symm.trans nothing
    · have wanted : wanted = opened.id := Option.some.inj (given.symm.trans (same.trans key))
      subst wanted
      rw [Keyed.find_append_new (by simpa [Keyed.find] using fresh) rfl] at found
      cases found
      unfold StepRun.isOpen
      rw [begins, routing]
      decide

theorem relay_follows (lined : Lined desk) {relay : Option Uuid} {dispatched : Bool}
    (waits : ∀ id run, relay = some id → Keyed.find StepRun.id desk.runs id = some run → run.isOpen = true) :
    Follows desk.runs (desk.relay relay dispatched).runs := by
  unfold ItemDesk.relay
  split
  next run found =>
    obtain ⟨id, given, found⟩ := Option.bind_eq_some_iff.mp found
    split
    · exact .put lined.unique (Keyed.find_mem found) rfl rfl fun closed =>
        absurd ((waits id run given found).symm.trans closed) Bool.noConfusion
    · exact .refl desk.runs
  · exact .refl desk.runs

theorem request_follows (lined : Lined desk) {service : ServiceCall} (executed : requestTransition desk service = .ok after) :
    Follows desk.runs after.runs := by
  unfold requestTransition at executed
  obtain ⟨item, _, executed⟩ := Runs.bind_ok executed
  obtain ⟨_, _, executed⟩ := Runs.bind_ok executed
  split at executed
  next asks =>
    have evaluated := evaluate_line_evaluated service.settings desk.toLineDesk (desk.fresh service.answers)
      (service.line item) service.now
    obtain ⟨follows, waits⟩ := evaluated_follows asks evaluated
    dsimp only at executed
    split at executed
    · obtain ⟨moved, native, executed⟩ := Runs.bind_ok executed
      cases executed
      have kept : moved.runs = _ := native_runs native
      have same : Follows desk.runs moved.runs := kept ▸ follows
      exact same.trans (relay_follows (lined.follow same) fun id run given found => waits id run given (kept ▸ found))
    · cases executed
      exact follows
  · rw [native_runs executed]
    exact .refl desk.runs

theorem sla_open (waits : run.status ∈ slaStatuses) : run.isOpen = true := by
  unfold StepRun.isOpen
  generalize run.status = status at waits
  revert status
  decide

theorem sla_tick_writes (desk : ItemDesk) (stepRunId : Uuid) (escalates : Bool) :
    OpenWrite desk.runs (slaTick desk stepRunId escalates).runs := by
  unfold slaTick
  split
  · exact .none
  next run found =>
    split
    · exact .none
    next waits =>
      have waiting : run.isOpen = true := sla_open (by_contra fun missing => waits (.inl missing))
      have member := Keyed.find_mem found
      split
      · exact .put member waiting rfl rfl
      split
      · exact .none
      · exact .put member waiting rfl rfl

theorem reclaim_follows (lined : Lined desk) (orgId storyId : Uuid) (now : Nat) :
    Follows desk.runs (reclaimStaleMergeGatesForStory desk orgId storyId now).runs := by
  unfold reclaimStaleMergeGatesForStory
  generalize desk.gates.filter _ = gates
  induction gates generalizing desk with
  | nil => exact .refl desk.runs
  | cons gate rest ih =>
    have first : Follows desk.runs (reclaimGate desk gate now).runs := by
      unfold reclaimGate
      let voided := { gate.setStatus .voided now with
        resolverId := none, resolutionNote := some reclaimNote, resolvedAt := some now }
      have route : ∀ run : StepRun, (run.resolve .skipped now).route = run.route := fun _ => rfl
      have marked := mark_linked_writes (desk.withGates (desk.gates.put voided)) gate.orgId gate.id route fun _ => rfl
      exact marked.follows lined.unique
    exact first.trans (ih (lined.follow first))

theorem active_open (pending : run.status ∈ activePending) : run.isOpen = true := by
  unfold StepRun.isOpen
  generalize run.status = status at pending
  revert status
  decide

theorem withdraw_writes (desk : Desk) (orgId storyId stepRunId actorId : Uuid) (actor : Option TeamMember)
    (reason : Option String) (now : Nat) :
    OpenWrite desk.runs (withdrawPendingRun desk orgId storyId stepRunId actorId actor reason now).1.runs := by
  unfold withdrawPendingRun
  split
  · exact .none
  next run found =>
    unfold withdrawable at found
    split at found
    · cases found
    next selected first =>
      split at found
      · cases found
      next pending =>
        split at found
        · cases found
        · cases found
          have member := List.mem_of_find?_eq_some first
          let closed : StepRun := { run with
            status := .withdrawn, withdrawnByMemberId := some actorId, withdrawnAt := some now, withdrawReason := reason }
          have withdrawn : OpenWrite desk.runs (Keyed.put StepRun.id desk.runs closed) :=
            .put member (active_open (not_not.mp pending)) rfl rfl
          exact withdrawn

theorem follow_up_writes (desk : ItemDesk) (write : GateWrite) :
    OpenWrite desk.runs (LineEvent.followUp desk write).runs := by
  unfold LineEvent.followUp
  split
  · exact mark_linked_writes desk _ _ (fun _ => rfl) fun _ => rfl
  · exact mark_linked_writes desk _ _ (fun _ => rfl) fun _ => rfl
  · exact mark_linked_writes desk _ _ (fun _ => rfl) fun _ => rfl
  · exact .none

theorem resolution_writes {now : Nat} {lookups : ResolutionLookups} {newStatus : GateStatus} {resolverId : Option Uuid}
    (member : run ∈ desk.runs) (waits : run.isOpen = true)
    (executed : applyWorkflowLineResolution desk run now lookups newStatus resolverId = .ok after) :
    OpenWrite desk.runs after.runs := by
  cases ready : ItemKind.readiness? run.entityType with
  | none =>
    simp only [applyWorkflowLineResolution, ready] at executed
    cases executed
    exact .none
  | some kind =>
    have spec := resolution_spec ready executed
    split at spec
    · obtain ⟨status, -, same⟩ := spec.closes
      rw [same]
      exact .put member waits rfl rfl
    · rw [spec]
      exact .none

end Steps

namespace LineEvent
variable {desk after : ItemDesk} {run : StepRun} {given : GateVerdict} {event : LineEvent}

theorem handled_spec (handles : event.handled desk = some (run, given)) : run ∈ desk.runs ∧ run.isOpen = true := by
  cases event with
  | gate write lookups =>
    obtain ⟨verdict, _, found⟩ := Option.bind_eq_some_iff.mp handles
    obtain ⟨selected, active, same⟩ := Option.map_eq_some_iff.mp found
    cases same
    exact find_active_spec active
  | _ => cases handles

theorem handled_newest {write : GateWrite} {lookups : ResolutionLookups}
    (handles : handled desk (.gate write lookups) = some (run, given)) :
    verdict write = some given ∧ run.Newest desk.runs given.orgId given.gateId := by
  obtain ⟨said, spoken, found⟩ := Option.bind_eq_some_iff.mp handles
  obtain ⟨selected, active, same⟩ := Option.map_eq_some_iff.mp found
  cases same
  exact ⟨spoken, find_active_newest active⟩

theorem handled_resolution (handles : event.handled desk = some (run, given)) (executed : event.attempt desk = .ok after) :
    ∃ gates lookups, applyWorkflowLineResolution (desk.withGates gates) run given.now lookups given.newStatus
      given.resolverId = .ok after := by
  cases event with
  | gate write lookups =>
    simp only [attempt, gateWrite] at executed
    split at executed
    · cases handles
    · split at executed
      · cases executed
      next gates _ =>
        simp only [handles] at executed
        exact ⟨gates, lookups, executed⟩
  | _ => cases handles

/-- The resolution of a run that the line opened acts as the protocol of its
kind does, from the very status that the run was opened at. -/
theorem handled_resolves (lined : Lined desk) (handles : event.handled desk = some (run, given))
    (executed : event.attempt desk = .ok after) :
    ∃ kind : ItemKind, run.entityType = kind.text ∧
      if given.newStatus = .approved ∨ given.newStatus = .rejected then
        Resolves desk run kind run.toStatus run.fromStatus given.now after
      else after.items = desk.items ∧ after.runs = desk.runs := by
  obtain ⟨gates, lookups, resolution⟩ := handled_resolution handles executed
  obtain ⟨kind, fromStatus, type, origin, asks⟩ := lined.routed run (handled_spec handles).1
  have spec := resolution_spec (type ▸ kind.readiness_text) resolution
  refine ⟨kind, type, ?_⟩
  split at spec
  next decides =>
    rw [if_pos decides]
    have route : kind.move run = (run.fromStatus, run.toStatus) := by
      cases kind with
      | hypothesis =>
        simp only [ItemKind.asksLine, Bool.and_eq_true, beq_iff_eq] at asks
        simp only [ItemKind.move, origin, asks]
      | doc =>
        simp only [ItemKind.asksLine, Bool.and_eq_true, beq_iff_eq] at asks
        simp only [ItemKind.move, origin, asks]
      | _ => rfl
    rw [route] at spec
    exact ⟨spec.closes, spec.moves⟩
  next other =>
    rw [if_neg other, spec]
    exact ⟨rfl, rfl⟩

theorem gate_writes {write : GateWrite} {lookups : ResolutionLookups}
    (executed : (LineEvent.gate write lookups).attempt desk = .ok after) : OpenWrite desk.runs after.runs := by
  cases handles : handled desk (.gate write lookups) with
  | some handed =>
    obtain ⟨run, given⟩ := handed
    obtain ⟨gates, lookups, resolution⟩ := handled_resolution handles executed
    obtain ⟨member, waits⟩ := handled_spec handles
    have written : OpenWrite (desk.withGates gates).runs after.runs := resolution_writes member waits resolution
    exact written
  | none =>
    simp only [attempt, gateWrite] at executed
    split at executed
    next approvals orgId storyId stepRunId actorId actor reason now =>
      cases executed
      exact withdraw_writes ⟨desk.gates, desk.runs, approvals⟩ orgId storyId stepRunId actorId actor reason now
    · split at executed
      · cases executed
      next gates _ =>
        simp only [handles] at executed
        cases executed
        exact follow_up_writes (desk.withGates gates) write

theorem mark_linked_items (desk : ItemDesk) (orgId gateId : Uuid) (change : StepRun → StepRun) :
    (desk.markLinked orgId gateId change).items = desk.items := by
  unfold ItemDesk.markLinked
  split <;> rfl

/-- A gate write that no run waits for moves no item. -/
theorem unhandled_items {write : GateWrite} {lookups : ResolutionLookups} (idle : handled desk (.gate write lookups) = none)
    (executed : (LineEvent.gate write lookups).attempt desk = .ok after) : after.items = desk.items := by
  simp only [attempt, gateWrite] at executed
  split at executed
  · cases executed
    rfl
  · split at executed
    · cases executed
    next gates _ =>
      simp only [idle] at executed
      cases executed
      unfold followUp
      split
      · exact mark_linked_items ..
      · exact mark_linked_items ..
      · exact mark_linked_items ..
      · rfl

theorem rejected_keeps (handles : event.handled desk = some (run, given)) (rejects : given.newStatus = .rejected)
    (executed : event.attempt desk = .ok after) : after.items = desk.items := by
  obtain ⟨gates, lookups, resolution⟩ := handled_resolution handles executed
  rw [rejects] at resolution
  have kept : after.items = (desk.withGates gates).items := rejected_items resolution
  exact kept

theorem mark_linked_gates (desk : ItemDesk) (orgId gateId : Uuid) (change : StepRun → StepRun) :
    (desk.markLinked orgId gateId change).gates = desk.gates := by
  unfold ItemDesk.markLinked
  split <;> rfl

theorem follow_up_gates (desk : ItemDesk) (write : GateWrite) : (followUp desk write).gates = desk.gates := by
  unfold followUp
  split
  · exact mark_linked_gates ..
  · exact mark_linked_gates ..
  · exact mark_linked_gates ..
  · rfl

/-- A withdrawal writes its gates in bulk; every other write is an operation on gates. -/
def isWithdrawal : GateWrite → Bool
  | .withdraw .. => true
  | _ => false

theorem gate_write_gates {write : GateWrite} {lookups : ResolutionLookups} (other : isWithdrawal write = false)
    (executed : (LineEvent.gate write lookups).attempt desk = .ok after) : write.attempt desk.gates = .ok after.gates := by
  have shape : gateWrite desk write lookups =
      match write.attempt desk.gates with
      | .error error => .error (.gate error)
      | .ok gates =>
        match handled desk (.gate write lookups) with
        | some (run, given) =>
          applyWorkflowLineResolution (desk.withGates gates) run given.now lookups given.newStatus given.resolverId
        | none => .ok (followUp (desk.withGates gates) write) := by
    cases write with
    | withdraw => cases other
    | _ => rfl
  simp only [attempt, shape] at executed
  split at executed
  · cases executed
  next gates written =>
    rw [written]
    split at executed
    · rw [resolution_gates executed]
      rfl
    · cases executed
      rw [follow_up_gates]
      rfl

theorem attempt_follows (lined : Lined desk) (executed : event.attempt desk = .ok after) : Follows desk.runs after.runs := by
  cases event with
  | editItem item =>
    cases executed
    exact .refl desk.runs
  | dropItem kind id =>
    cases executed
    exact .refl desk.runs
  | configure definitions versions =>
    cases executed
    exact .refl desk.runs
  | request service => exact request_follows lined executed
  | slaTick stepRunId escalates =>
    cases executed
    exact (sla_tick_writes desk stepRunId escalates).follows lined.unique
  | reclaim orgId storyId now =>
    cases executed
    exact reclaim_follows lined orgId storyId now
  | gate write lookups => exact (gate_writes executed).follows lined.unique

theorem step_follows (lined : Lined desk) (event : LineEvent) : Follows desk.runs (step desk event).runs := by
  unfold step Runs.settle
  split
  next after executed => exact attempt_follows lined executed
  · exact .refl desk.runs

theorem step_lined (desk : ItemDesk) (event : LineEvent) (lined : Lined desk) : Lined (step desk event) :=
  lined.follow (step_follows lined event)

theorem handled_spends (lined : Lined desk) (handles : event.handled desk = some (run, given))
    (executed : event.attempt desk = .ok after) (decides : given.newStatus = .approved ∨ given.newStatus = .rejected) :
    ∃ row, Keyed.find StepRun.id after.runs run.id = some row ∧ row.status ∈ resolvedStatuses := by
  obtain ⟨kind, -, acts⟩ := handled_resolves lined handles executed
  rw [if_pos decides] at acts
  obtain ⟨status, ending, same⟩ := acts.closes
  have standing := Keyed.find_of_mem lined.unique (handled_spec handles).1
  refine ⟨run.resolve status given.now, ?_, ending⟩
  rw [same]
  have written : (run.resolve status given.now).id = run.id := rfl
  exact Keyed.find_put_same (written ▸ standing)

theorem spent_of_find (unique : (desk.runs.map StepRun.id).Nodup) {id : Uuid}
    (found : Keyed.find StepRun.id desk.runs id = some run) (ends : run.status ∈ resolvedStatuses) : Spent desk id := by
  have shut : ∀ status ∈ resolvedStatuses, openStepRunStatuses.contains status = false := by decide
  refine ⟨List.mem_map.mpr ⟨run, Keyed.find_mem found, Keyed.find_key found⟩, fun row member same => ?_⟩
  have again := Keyed.find_of_mem unique member
  rw [same, found] at again
  cases again
  exact shut _ ends

theorem moves_spec {id : Uuid} (moved : moves desk event = some id) :
    ∃ run given, event.handled desk = some (run, given) ∧ run.id = id ∧ event.attempt desk = .ok (step desk event) ∧
      (step desk event).items ≠ desk.items := by
  unfold moves at moved
  split at moved
  next run given handles =>
    split at moved
    · cases moved
    next changed =>
      cases moved
      refine ⟨run, given, handles, rfl, ?_, changed⟩
      unfold step Runs.settle at changed ⊢
      split at changed
      next after executed => rw [executed]
      · exact absurd rfl changed
  · cases moved

theorem moves_spends {id : Uuid} (lined : Lined desk) (moved : moves desk event = some id) : Spent (step desk event) id := by
  obtain ⟨run, given, handles, rfl, executed, changed⟩ := moves_spec moved
  by_cases decides : given.newStatus = .approved ∨ given.newStatus = .rejected
  · obtain ⟨row, found, ends⟩ := handled_spends lined handles executed decides
    exact spent_of_find (step_lined desk event lined).unique found ends
  · obtain ⟨kind, -, acts⟩ := handled_resolves lined handles executed
    rw [if_neg decides] at acts
    exact absurd acts.1 changed

theorem spent_unmoved {id : Uuid} (spent : Spent desk id) : moves desk event ≠ some id := by
  intro moved
  obtain ⟨run, given, handles, same, -, -⟩ := moves_spec moved
  obtain ⟨member, waits⟩ := handled_spec handles
  exact Bool.noConfusion (waits.symm.trans (spent.2 run member same))

end LineEvent

/-- What the resolution promises of one event. Where an item moves with a gate, the gate was approved, and the newest
open run that names it is one of the item, which moves from the run's status to its target. A decision on a gate that an
open run names leaves the newest of them in a final status, and final runs stay final. -/
structure ResolutionLaw (desk : ItemDesk) (event : LineEvent) : Prop where
  moves : ∀ write lookups after, event = .gate write lookups → event.attempt desk = .ok after →
    ∀ kind id, after.item kind id ≠ desk.item kind id →
      ∃ (given : GateVerdict) (run : StepRun), LineEvent.verdict write = some given ∧ given.newStatus = .approved ∧
        run.Newest desk.runs given.orgId given.gateId ∧ run.entityType = kind.text ∧ run.entityId = id ∧
        ∃ item, desk.item kind id = some item ∧ run.fromStatus = some item.status ∧
          after.item kind id = some { item with status := run.toStatus }
  closes : ∀ write lookups given after, event = .gate write lookups → event.attempt desk = .ok after →
    LineEvent.verdict write = some given → given.newStatus = .approved ∨ given.newStatus = .rejected →
    (∃ run ∈ desk.runs, run.Awaits given.orgId given.gateId) →
      ∃ run : StepRun, run.Newest desk.runs given.orgId given.gateId ∧
        ∃ row, Keyed.find StepRun.id after.runs run.id = some row ∧ row.status ∈ resolvedStatuses
  final : ∀ id, Spent desk id → Spent (event.step desk) id

theorem resolution_law (desk : ItemDesk) (event : LineEvent) (lined : Lined desk) : ResolutionLaw desk event where
  moves write lookups after same executed kind id moved := by
    subst same
    have item_of {left right : ItemDesk} (same : left.items = right.items) : left.item kind id = right.item kind id := by
      unfold ItemDesk.item
      rw [same]
    cases handles : LineEvent.handled desk (.gate write lookups) with
    | none => exact absurd (item_of (LineEvent.unhandled_items handles executed)) moved
    | some handed =>
      obtain ⟨run, given⟩ := handed
      obtain ⟨said, newest⟩ := LineEvent.handled_newest handles
      obtain ⟨own, type, acts⟩ := LineEvent.handled_resolves lined handles executed
      split at acts
      next decides =>
        have approves : given.newStatus = .approved := by
          refine decides.resolve_right fun rejects => ?_
          exact moved (item_of (LineEvent.rejected_keeps handles rejects executed))
        rcases acts.moves with same | ⟨item, found, expected, same, -⟩
        · exact absurd (item_of same) moved
        · rw [item_of same, set_item_status_spec found] at moved ⊢
          split at moved
          next target =>
            obtain ⟨rfl, rfl⟩ := target
            obtain ⟨kind', fromStatus, _, origin, _⟩ := lined.routed run newest.present
            refine ⟨given, run, said, approves, newest, type, rfl, item, found, ?_, if_pos ⟨rfl, rfl⟩⟩
            rw [origin, expected fromStatus origin]
          · exact absurd rfl moved
      next => exact absurd (item_of acts.1) moved
  closes write lookups given after same executed said decides awaited := by
    subst same
    obtain ⟨run, present, awaits⟩ := awaited
    obtain ⟨newest, found⟩ := find_active_exists present awaits
    have handles : LineEvent.handled desk (.gate write lookups) = some (newest, given) := by
      rw [LineEvent.handled, said, Option.bind_some, found, Option.map_some]
    exact ⟨newest, find_active_newest found, LineEvent.handled_spends lined handles executed decides⟩
  final _ spent := spent.follow (LineEvent.step_follows lined event)

/-- From the empty tables on, every event keeps the law of resolutions, and no
step run moves its item twice. -/
theorem line_resolution_once (events : List LineEvent) :
    Runs.Throughout LineEvent.step ResolutionLaw .opened events ∧
      (Runs.emitted LineEvent.step LineEvent.moves .opened events).Nodup := by
  have opened : Lined .opened := ⟨List.nodup_nil, fun _ member => absurd member List.not_mem_nil⟩
  have stable : ∀ desk event id, Lined desk → Spent desk id → Spent (LineEvent.step desk event) id :=
    fun _ event _ lined spent => spent.follow (LineEvent.step_follows lined event)
  constructor
  · have always : Runs.Throughout LineEvent.step (fun _ _ => True) ItemDesk.opened events :=
      .trivial (fun _ _ => True.intro) ItemDesk.opened events
    exact always.carry (fun desk event _ lined => LineEvent.step_lined desk event lined) opened
      fun desk event _ lined => resolution_law desk event lined
  · apply Runs.emitted_nodup LineEvent.step_lined stable ?_ ?_ opened events
    · exact fun desk event id _ spent => LineEvent.spent_unmoved spent
    · exact fun desk event id lined moved => LineEvent.moves_spends lined moved

end Sprintable.Lines
