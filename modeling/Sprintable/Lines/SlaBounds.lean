import Sprintable.Lines.ApprovalRuns
import Sprintable.Lines.Lint

/-! What SLA passes send for a step run. The audit events agree with the columns
of the run that the next pass reads, so the bounds hold whatever the schedule. -/

namespace Sprintable.Lines

open Gates

/-- The reminders and escalations of one step run; an unresolved escalation found nobody. -/
@[ext]
structure Sent where
  reminders : Nat := 0
  escalations : Nat := 0
  unresolved : Nat := 0
  deriving DecidableEq, Repr

namespace Sent

def add (first second : Sent) : Sent :=
  ⟨first.reminders + second.reminders, first.escalations + second.escalations, first.unresolved + second.unresolved⟩

@[simp] theorem add_nothing (sent : Sent) : sent.add {} = sent := rfl

end Sent

def StepRunEventKind.sent : StepRunEventKind → Sent
  | .reminded _ => { reminders := 1 }
  | .escalated (some _) => { escalations := 1 }
  | .escalated none => { unresolved := 1 }
  | _ => {}

def ApprovalDesk.sent (desk : ApprovalDesk) (stepRunId : Uuid) : Sent :=
  (desk.events.filter fun event => event.stepRunId == stepRunId).foldl (fun sent event => sent.add event.kind.sent) {}

def StepRun.sent (run : StepRun) : Sent where
  reminders := run.reminderCount
  escalations := if run.escalatedToMemberId.isSome then 1 else 0
  unresolved := if run.deliveryStatus = unresolvedAssignee then 1 else 0

section Counting
variable {desk after : ApprovalDesk} {old row : StepRun}

theorem sent_append {entry : StepRunEvent} (recorded : after.events = desk.events ++ [entry]) (stepRunId : Uuid) :
    after.sent stepRunId =
      if entry.stepRunId = stepRunId then (desk.sent stepRunId).add entry.kind.sent else desk.sent stepRunId := by
  unfold ApprovalDesk.sent
  rw [recorded, List.filter_append, List.foldl_append]
  by_cases same : entry.stepRunId = stepRunId
  · simp [same]
  · simp [same]

theorem sent_silent {entry : StepRunEvent} (recorded : after.events = desk.events ++ [entry])
    (silent : entry.kind.sent = {}) (stepRunId : Uuid) : after.sent stepRunId = desk.sent stepRunId := by
  rw [sent_append recorded, silent, Sent.add_nothing, ite_self]

theorem sent_of_columns (same : row.slaColumns = old.slaColumns) : row.sent = old.sent := by
  simp only [StepRun.slaColumns, Prod.mk.injEq] at same
  obtain ⟨-, count, target, delivery⟩ := same
  simp only [StepRun.sent, count, target, delivery]

theorem sent_unattended (begins : row.slaColumns = StepRun.unattended) : row.sent = {} := by
  simp only [StepRun.slaColumns, StepRun.unattended, Prod.mk.injEq] at begins
  obtain ⟨-, count, target, delivery⟩ := begins
  simp [StepRun.sent, count, target, delivery, unresolvedAssignee]

end Counting

/-- The audit events agree with the columns of the runs, and name only runs that exist. No run has a
recorded risk. -/
structure Metered (desk : ApprovalDesk) : Prop where
  lined : Lined desk.toItemDesk
  gates : desk.gates.Unique
  sent : ∀ run ∈ desk.runs, desk.sent run.id = run.sent
  risk : ∀ run ∈ desk.runs, run.riskSnapshot = .obj []
  silent : ∀ id ∉ desk.runs.map StepRun.id, desk.sent id = {}

/-- What an event does that is no item of a pass. -/
structure Quiet (desk after : ApprovalDesk) : Prop where
  follows : Lined desk.toItemDesk → Follows desk.runs after.runs
  grown : desk.gates.Grown after.gates
  sent : ∀ id, after.sent id = desk.sent id

section Steps
variable {desk tried after : ApprovalDesk} {run next : StepRun} {kind : StepRunEventKind} {answers : SlaAnswers} {now : Nat}

theorem Quiet.refl (desk : ApprovalDesk) : Quiet desk desk := ⟨fun _ => .refl desk.runs, .inl rfl, fun _ => rfl⟩

theorem Metered.quiet (metered : Metered desk) (quiet : Quiet desk after) : Metered after := by
  have follows := quiet.follows metered.lined
  refine ⟨metered.lined.follow follows, quiet.grown.unique metered.gates, fun row member => ?_, fun row member => ?_,
    fun id absent => ?_⟩
  · rw [quiet.sent]
    rcases follows.rows row member with ⟨old, present, route, columns, -⟩ | ⟨-, begins, fresh⟩
    · rw [route_id route, metered.sent old present, sent_of_columns columns]
    · rw [metered.silent row.id fresh, sent_unattended begins]
  · rcases follows.rows row member with ⟨old, present, -, columns, -⟩ | ⟨-, begins, -⟩
    · exact (congrArg Prod.fst columns).trans (metered.risk old present)
    · exact congrArg Prod.fst begins
  · rw [quiet.sent]
    exact metered.silent id fun old => absent (follows.kept id old)

theorem Metered.record (metered : Metered desk) (member : run ∈ desk.runs) (route : next.route = run.route)
    (risk : next.riskSnapshot = run.riskSnapshot) (adds : next.sent = run.sent.add kind.sent) : Metered ((desk.putRun next).recordEvent run kind) where
  lined :=
    { unique := by
        have ids : ((desk.putRun next).recordEvent run kind).runs.map StepRun.id = desk.runs.map StepRun.id :=
          Keyed.map_key_put desk.runs next
        rw [ids]
        exact metered.lined.unique
      routed := fun row present => by
        obtain ⟨old, there, rfl⟩ := List.mem_map.mp present
        split
        · exact (metered.lined.routed run member).of_route route
        · exact metered.lined.routed old there }
  gates := metered.gates
  sent row present := by
    have kept (id : Uuid) : (desk.putRun next).sent id = desk.sent id := rfl
    obtain ⟨old, there, rfl⟩ := List.mem_map.mp present
    split
    next same =>
      rw [route_id route, sent_append rfl, if_pos rfl, kept, metered.sent run member, adds]
    next different =>
      have other : run.id ≠ old.id := fun same => different (same.symm.trans (route_id route).symm)
      rw [sent_append rfl, if_neg other, kept]
      exact metered.sent old there
  risk row present := by
    rcases Keyed.mem_put present with rfl | old
    · exact risk.trans (metered.risk run member)
    · exact metered.risk row old.1
  silent id absent := by
    have ids : ((desk.putRun next).recordEvent run kind).runs.map StepRun.id = desk.runs.map StepRun.id :=
      Keyed.map_key_put desk.runs next
    rw [ids] at absent
    have other : run.id ≠ id := fun same => absent (same ▸ List.mem_map_of_mem member)
    rw [sent_append rfl, if_neg other]
    exact metered.silent id absent

theorem transition_quiet {drafts : Drafts} {orgId gateId : Uuid} {newStatus : GateStatus} {resolverId : Option Uuid}
    {note : Option String} {lookups : ResolutionLookups}
    (executed : desk.transition drafts orgId gateId newStatus resolverId note lookups now = .ok after) :
    Quiet desk after where
  follows lined := (transition_writes executed).follows lined.unique
  grown := by
    obtain ⟨decided, commands, decision⟩ := transition_gates executed
    exact .inl (transition_ids decision)
  sent id := by
    obtain ⟨items, -, rfl⟩ := transition_spec executed
    rfl

theorem Refused.quiet (refused : Refused desk run tried) : Quiet desk tried := by
  rcases refused with rfl | rfl
  · exact .refl _
  · exact ⟨fun _ => .refl desk.runs, .inl rfl, sent_silent rfl rfl⟩

theorem withdraw_quiet (desk : ApprovalDesk) (orgId storyId stepRunId actorId : Uuid) (actor : Option TeamMember)
    (reason : Option String) (now : Nat) : Quiet desk (desk.withdraw orgId storyId stepRunId actorId actor reason now).1 := by
  have runs := withdraw_writes ⟨desk.gates, desk.runs, desk.approvals⟩ orgId storyId stepRunId actorId actor reason now
  have gates := GateWrite.step_grown desk.gates
    (.withdraw desk.runs desk.approvals orgId storyId stepRunId actorId actor reason now)
  unfold ApprovalDesk.withdraw
  split
  next closed id same =>
    rw [same] at runs
    have closes : GateWrite.step desk.gates
        (.withdraw desk.runs desk.approvals orgId storyId stepRunId actorId actor reason now) = closed.gates :=
      congrArg (fun result => result.1.gates) same
    rw [closes] at gates
    exact ⟨fun lined => runs.follows lined.unique, gates, sent_silent rfl rfl⟩
  · exact .refl desk

theorem decide_quiet {approvalId : Uuid} {decision : ApprovalStatus} {resolverId : Option Uuid} {note : Option String}
    {drafts : Drafts} {lookups : ResolutionLookups} {outcome : ParallelOutcome}
    (executed : recordParallelDecision desk approvalId decision resolverId note drafts lookups now = .ok (after, outcome)) :
    Quiet desk after := by
  unfold recordParallelDecision at executed
  split at executed
  · cases executed
  split at executed
  · cases executed
  split at executed
  · cases executed
  split at executed
  · cases executed
  dsimp only at executed
  split at executed
  · cases executed
    exact .refl desk
  split at executed
  · obtain ⟨resolved, transition, executed⟩ := Runs.bind_ok executed
    cases executed
    have quiet := transition_quiet transition
    exact ⟨quiet.follows, quiet.grown, quiet.sent⟩
  · cases executed
    exact ⟨fun _ => .refl desk.runs, .inl rfl, fun _ => rfl⟩

theorem create_parallel_quiet {stepRunId : Uuid} {request : ParallelRequest}
    (executed : createParallelGate desk stepRunId request now = .ok after) : Quiet desk after := by
  unfold createParallelGate at executed
  split at executed
  · cases executed
  next run found =>
    split at executed
    · cases executed
    next gates gate created =>
      split at executed
      · cases executed
      dsimp only at executed
      split at executed
      · cases executed
        exact ⟨fun lined => .put lined.unique (Keyed.find_mem found) rfl rfl id, create_grown created, fun _ => rfl⟩
      · cases executed

theorem reassign_quiet {orgId gateId newApproverId reassignerId : Uuid} {oldApproverId : Option Uuid}
    {reason : Option String} {answers : ReassignAnswers}
    (executed : reassignApprover desk orgId gateId newApproverId reassignerId oldApproverId reason answers = .ok after) :
    Quiet desk after := by
  unfold reassignApprover at executed
  obtain ⟨row, _, executed⟩ := Runs.bind_ok executed
  split at executed
  · cases executed
  split at executed
  · cases executed
  split at executed
  · cases executed
  split at executed
  · cases executed
  dsimp only at executed
  split at executed
  · cases executed
    exact ⟨fun _ => .refl desk.runs, .inl rfl, sent_silent rfl rfl⟩
  · cases executed

end Steps

namespace DeskEvent
variable {desk after : ApprovalDesk} {event : DeskEvent}

/-- The item of a pass that the event is, with the run that it processes. -/
def item (desk : ApprovalDesk) : DeskEvent → Option (StepRun × SlaAnswers × Nat)
  | .slaItem stepRunId answers now => (slaRow desk stepRunId answers).map fun run => (run, answers, now)
  | _ => none

theorem attempt_cases (executed : event.attempt desk = .ok after) :
    Quiet desk after ∨ ∃ run answers now outcome, event.item desk = some (run, answers, now) ∧
      processOneStepRun desk run answers now = .ok (after, outcome) := by
  cases event with
  | line event =>
    by_cases withdrawal : ∃ write lookups, event = .gate write lookups ∧ LineEvent.isWithdrawal write = true
    · obtain ⟨write, lookups, rfl, withdrawal⟩ := withdrawal
      cases write with
      | withdraw runs approvals orgId storyId stepRunId actorId actor reason now =>
        cases executed
        exact .inl (withdraw_quiet desk orgId storyId stepRunId actorId actor reason now)
      | _ => cases withdrawal
    · have other : ∀ write lookups, event = .gate write lookups → LineEvent.isWithdrawal write = false := by
        intro write lookups same
        exact Bool.eq_false_iff.mpr fun withdraws => withdrawal ⟨write, lookups, same, withdraws⟩
      obtain ⟨items, attempted, rfl⟩ := line_attempt other executed
      exact .inl ⟨fun lined => LineEvent.attempt_follows lined attempted, line_grown attempted, fun _ => rfl⟩
  | createParallel stepRunId request now => exact .inl (create_parallel_quiet executed)
  | reassign orgId gateId newApproverId reassignerId oldApproverId reason answers => exact .inl (reassign_quiet executed)
  | decide approvalId decision resolverId note drafts lookups now =>
    obtain ⟨_, decided, rfl⟩ := Runs.map_ok executed
    exact .inl (decide_quiet decided)
  | slaItem stepRunId answers now =>
    obtain ⟨⟨after, outcome⟩, processed, rfl⟩ := Runs.map_ok executed
    unfold processSlaItem at processed
    split at processed
    · cases processed
      exact .inl (.refl desk)
    next run found =>
      refine .inr ⟨run, answers, now, outcome, ?_, processed⟩
      simp only [item, found, Option.map_some]

theorem item_spec {run : StepRun} {answers : SlaAnswers} {now : Nat} (processes : event.item desk = some (run, answers, now)) :
    run ∈ desk.runs ∧ run.status ∈ slaStatuses ∧
      event.attempt desk = Prod.fst <$> processOneStepRun desk run answers now := by
  cases event with
  | slaItem stepRunId given reading =>
    obtain ⟨found, selected, same⟩ := Option.map_eq_some_iff.mp processes
    cases same
    obtain ⟨member, -, waits⟩ := sla_row_spec selected
    refine ⟨member, waits, ?_⟩
    simp only [attempt, processSlaItem, selected]
  | _ => cases processes

theorem sla_step_metered {run : StepRun} {answers : SlaAnswers} {now : Nat} {outcome : SlaOutcome}
    (metered : Metered desk) (member : run ∈ desk.runs) (step : SlaStep desk run answers now after outcome) :
    Metered after := by
  have still {tried : ApprovalDesk} (refused : Refused desk run tried) : run ∈ tried.runs := by
    rcases refused with rfl | rfl
    · exact member
    · exact member
  cases step with
  | kept refused quiet => exact metered.quiet refused.quiet
  | escalated refused first =>
    refine (metered.quiet refused.quiet).record (still refused) (by rfl) (by rfl) ?_
    exact Sent.ext rfl (by simp [StepRun.sent, StepRun.escalateTo, Sent.add, StepRunEventKind.sent, first]) rfl
  | unresolved refused first unmarked =>
    refine (metered.quiet refused.quiet).record (still refused) (by rfl) (by rfl) ?_
    exact Sent.ext rfl rfl (by simp [StepRun.sent, StepRun.leaveUnassigned, Sent.add, StepRunEventKind.sent, unmarked])
  | reminded published bound room =>
    exact metered.record member (by rfl) (by rfl) rfl
  | approved asked taken =>
    obtain ⟨gate, -, -, -, transition⟩ := taken.taken
    have decided := metered.quiet (transition_quiet transition)
    exact decided.quiet ⟨fun _ => .refl _, .inl rfl, sent_silent rfl rfl⟩

theorem step_metered (desk : ApprovalDesk) (event : DeskEvent) (metered : Metered desk) : Metered (step desk event) := by
  apply Runs.settle_preserves metered
  intro after executed
  rcases attempt_cases executed with quiet | ⟨run, answers, now, outcome, processes, processed⟩
  · exact metered.quiet quiet
  · exact sla_step_metered metered (item_spec processes).1 (process_step processed)

end DeskEvent

/-- The snapshots that were recorded with the run say that its risk and its
trust are known, and that it is no risk. -/
structure SnapshotClears (run : StepRun) : Prop where
  risk : run.riskSnapshot.get "prod_touch" = .bool false
  highRisk : (run.riskSnapshot.get "high_risk").isTrue = false
  trust : run.trustSnapshot.get "cold_start" = .bool false
  resolved : (run.trustSnapshot.get "unresolved").isTrue = false

/-- The item approves the gate of its run by itself. -/
def DeskEvent.approves (desk : ApprovalDesk) (event : DeskEvent) (run : StepRun) : Prop :=
  ∃ answers now after, event.item desk = some (run, answers, now) ∧
    processOneStepRun desk run answers now = .ok (after, .autoApproved)

/-- What a pass promises for the item of one step run. A bound on reminders that
is no whole number counts as the next one. -/
structure SlaLaw (desk : ApprovalDesk) (event : DeskEvent) : Prop where
  reminders : ∀ id, ((event.step desk).sent id).reminders = (desk.sent id).reminders ∨
    ∃ run answers now policy maxReminders, event.item desk = some (run, answers, now) ∧ run.id = id ∧
      resolveSlaPolicy desk.versions run = .ok policy ∧
      policyNumber policy "max_reminders" (.int 0) = .ok maxReminders ∧
      ∀ bound : Nat, maxReminders ≤ bound → ((event.step desk).sent id).reminders ≤ bound
  escalations : ∀ id, ((event.step desk).sent id).escalations ≤ 1
  unresolved : ∀ id, ((event.step desk).sent id).unresolved ≤ 1
  heldRun : ∀ run answers now, event.item desk = some (run, answers, now) → run.status = .held → event.step desk = desk
  heldGate : ∀ run answers now, event.item desk = some (run, answers, now) →
    ∀ gate ∈ desk.gates, gate.status = .held → gate ∈ (event.step desk).gates
  gates : ∀ run answers now, event.item desk = some (run, answers, now) →
    (event.step desk).gates = desk.gates ∨ event.approves desk run
  approvals : ∀ run, event.approves desk run →
    (∃ now, PolicyApproves desk run now) ∧ SnapshotClears run

/-- No item approves by itself: the run of each is held, in time, or of a policy that asks for no
automatic approval, or its gate does not take one. -/
def DeskEvent.LeftToHumans (desk : ApprovalDesk) (event : DeskEvent) : Prop :=
  ∀ run answers now decided, event.item desk = some (run, answers, now) → PolicyApproves desk run now →
    ¬ GateApproves desk run answers now decided

section Law
variable {desk : ApprovalDesk} {event : DeskEvent} {run : StepRun} {answers : SlaAnswers} {now : Nat}

theorem sent_once (metered : Metered desk) (id : Uuid) : (desk.sent id).escalations ≤ 1 ∧ (desk.sent id).unresolved ≤ 1 := by
  by_cases present : id ∈ desk.runs.map StepRun.id
  · obtain ⟨run, member, rfl⟩ := List.mem_map.mp present
    rw [metered.sent run member]
    unfold StepRun.sent
    dsimp only
    constructor
    · split <;> omega
    · split <;> omega
  · rw [metered.silent id present]
    exact ⟨Nat.zero_le 1, Nat.zero_le 1⟩

theorem held_run_untouched (processes : event.item desk = some (run, answers, now)) (held : run.status = .held) :
    event.step desk = desk := by
  have skipped : processOneStepRun desk run answers now = .ok (desk, .skipped) := by
    unfold processOneStepRun
    rw [if_pos held]
  unfold DeskEvent.step Runs.settle
  rw [(DeskEvent.item_spec processes).2.2, skipped]
  rfl

theorem item_gates (processes : event.item desk = some (run, answers, now)) :
    (event.step desk).gates = desk.gates ∨ event.approves desk run := by
  unfold DeskEvent.step Runs.settle
  rw [(DeskEvent.item_spec processes).2.2]
  cases processed : processOneStepRun desk run answers now with
  | error error => exact .inl rfl
  | ok result =>
    obtain ⟨after, outcome⟩ := result
    have same {tried : ApprovalDesk} (refused : Refused desk run tried) : tried.gates = desk.gates := by
      rcases refused with rfl | rfl
      · rfl
      · rfl
    cases process_step processed with
    | kept refused quiet =>
      have kept := same refused
      exact .inl kept
    | escalated refused first =>
      have kept := same refused
      exact .inl kept
    | unresolved refused first unmarked =>
      have kept := same refused
      exact .inl kept
    | reminded published bound room => exact .inl rfl
    | approved asked taken => exact .inr ⟨answers, now, _, processes, processed⟩

theorem approves_spec (approves : event.approves desk run) :
    ∃ answers now decided, event.item desk = some (run, answers, now) ∧ PolicyApproves desk run now ∧
      GateApproves desk run answers now decided ∧ (event.step desk).gates = decided.gates := by
  obtain ⟨answers, now, after, processes, processed⟩ := approves
  have stepped : event.step desk = after := by
    unfold DeskEvent.step Runs.settle
    rw [(DeskEvent.item_spec processes).2.2, processed]
    rfl
  cases process_step processed with
  | kept refused quiet => simp at quiet
  | approved asked taken =>
    rw [stepped]
    exact ⟨answers, now, _, processes, asked, taken, rfl⟩

theorem held_gate_untouched (metered : Metered desk) (processes : event.item desk = some (run, answers, now)) {gate : Gate}
    (member : gate ∈ desk.gates) (held : gate.status = .held) : gate ∈ (event.step desk).gates := by
  rcases item_gates processes with same | approves
  · rw [same]
    exact member
  · obtain ⟨_, _, decided, -, -, taken, same⟩ := approves_spec approves
    obtain ⟨_, -, -, -, transition⟩ := taken.taken
    obtain ⟨_, _, decision⟩ := transition_gates transition
    rw [same]
    exact transition_keeps metered.gates (.inl rfl) decision member (by rw [held]; simp)

theorem reminders_bounded (metered : Metered desk) (event : DeskEvent) (id : Uuid) :
    ((event.step desk).sent id).reminders = (desk.sent id).reminders ∨
      ∃ run answers now policy maxReminders, event.item desk = some (run, answers, now) ∧ run.id = id ∧
        resolveSlaPolicy desk.versions run = .ok policy ∧
        policyNumber policy "max_reminders" (.int 0) = .ok maxReminders ∧
        ∀ bound : Nat, maxReminders ≤ bound → ((event.step desk).sent id).reminders ≤ bound := by
  unfold DeskEvent.step Runs.settle
  split
  next after executed =>
    rcases DeskEvent.attempt_cases executed with quiet | ⟨run, answers, now, outcome, processes, processed⟩
    · exact .inl (congrArg Sent.reminders (quiet.sent id))
    · have silent {base written : ApprovalDesk} {entry : StepRunEvent} (kept : base.sent id = desk.sent id)
          (recorded : written.events = base.events ++ [entry]) (other : entry.kind.sent.reminders = 0) :
          (written.sent id).reminders = (desk.sent id).reminders := by
        rw [sent_append recorded, ← kept]
        split
        · exact congrArg ((base.sent id).reminders + ·) other
        · rfl
      cases process_step processed with
      | kept refused quiet => exact .inl (congrArg Sent.reminders (refused.quiet.sent id))
      | escalated refused first => exact .inl (silent (refused.quiet.sent id) rfl rfl)
      | unresolved refused first unmarked => exact .inl (silent (refused.quiet.sent id) rfl rfl)
      | approved asked taken =>
        obtain ⟨_, -, -, -, transition⟩ := taken.taken
        exact .inl (silent ((transition_quiet transition).sent id) rfl rfl)
      | @reminded policy maxReminders next published bound room =>
        by_cases same : run.id = id
        · refine .inr ⟨run, answers, now, _, _, processes, same, published, bound, fun whole within => ?_⟩
          subst same
          have sent : (desk.sent run.id).reminders = run.reminderCount :=
            congrArg Sent.reminders (metered.sent run (DeskEvent.item_spec processes).1)
          have below : run.reminderCount < whole := Nat.cast_lt.mp (room.trans_le within)
          have kept : (desk.putRun (run.remind next)).sent run.id = desk.sent run.id := rfl
          rw [sent_append rfl, if_pos rfl, kept]
          simp only [Sent.add, StepRunEventKind.sent, sent]
          omega
        · left
          rw [sent_append rfl, if_neg same]
          rfl
  · exact .inl rfl

/-- No writer of a step run records a risk, so that no snapshot clears one. -/
theorem never_clears (metered : Metered desk) (member : run ∈ desk.runs) : ¬ SnapshotClears run := by
  intro clears
  have risk := clears.risk
  rw [metered.risk run member] at risk
  cases risk

theorem sla_law (metered : Metered desk) : SlaLaw desk event ↔ event.LeftToHumans desk := by
  constructor
  · intro law run answers now decided processes asked taken
    have approves : event.approves desk run := ⟨answers, now, _, processes, process_approves asked taken⟩
    exact never_clears metered (DeskEvent.item_spec processes).1 (law.approvals run approves).2
  · intro left
    have after := DeskEvent.step_metered desk event metered
    exact
      { reminders := reminders_bounded metered event
        escalations := fun id => (sent_once after id).1
        unresolved := fun id => (sent_once after id).2
        heldRun := fun _ _ _ processes held => held_run_untouched processes held
        heldGate := fun _ _ _ processes _ member held => held_gate_untouched metered processes member held
        gates := fun _ _ _ processes => item_gates processes
        approvals := fun run approves => by
          obtain ⟨answers, now, decided, processes, asked, taken, -⟩ := approves_spec approves
          exact absurd taken (left run answers now decided processes asked) }

end Law

theorem opened_metered : Metered .opened where
  lined := ⟨List.nodup_nil, fun _ member => absurd member List.not_mem_nil⟩
  gates := List.nodup_nil
  sent _ member := absurd member List.not_mem_nil
  risk _ member := absurd member List.not_mem_nil
  silent _ _ := rfl

/-- A whole pass is a run of items, and keeps the two bounds of every step run. -/
theorem pass_once (events : List DeskEvent) (answers : Uuid → SlaAnswers) (now : Nat) (id : Uuid) :
    ((processSla (Runs.final DeskEvent.step .opened events) answers now).sent id).escalations ≤ 1 ∧
      ((processSla (Runs.final DeskEvent.step .opened events) answers now).sent id).unresolved ≤ 1 := by
  have metered (events : List DeskEvent) : Metered (Runs.final DeskEvent.step .opened events) :=
    Runs.final_invariant DeskEvent.step_metered opened_metered events
  rw [processSla, ← Runs.final_append]
  exact sent_once (metered _) id

/-- In every run from the empty tables the passes keep their bounds exactly if no item approves by itself. -/
theorem sla_bounded (events : List DeskEvent) :
    Runs.Throughout DeskEvent.step SlaLaw .opened events ↔
      Runs.Throughout DeskEvent.step DeskEvent.LeftToHumans .opened events := by
  have opened := opened_metered
  exact Runs.Throughout.congr DeskEvent.step_metered (fun _ _ metered => sla_law metered) opened events

section Samples

/-- A merge gate that the pass approves an hour after the run was started, unless the risk is high. -/
def sampleSlaConfig : Json :=
  .obj [("rollout_mode", .str "enforcing"),
    ("steps", .arr [.obj [("step_type", .str "advisory"), ("gate_type", .str "merge"), ("to_status", .str "done"),
      ("sla_policy", .obj [("timeout_hours", .int 1), ("on_timeout", .str "auto_approve"),
        ("applies_to_high_risk", .bool false)])]])]

/-- The actor of the transition has a long record, so the guard finds no doubt in the trust snapshot. -/
def sampleOverdueRun : List DeskEvent :=
  [.line (.editItem { kind := .story, id := 6, orgId := 2, projectId := 5, status := "in-review" }),
    .line (.configure [{ id := 1, orgId := 2, entityType := "story" }]
      [{ id := 3, lineDefinitionId := some 1, orgId := 2, entityType := "story", version := 1, status := .published
         config := sampleSlaConfig, configHash := "h", createdByMemberId := 4 }]),
    .line (.request
      { settings := sampleLineSettings
        answers :=
          { sampleLineAnswers with
            mergeEvidence := .ok { sampleEvidence "pass" with disposition := .ask, explicitAsk := true }, stepRunId := 100
            trustScores := some ⟨.str "hypothesis_outcome", .float "0.9", 10, 9, 1⟩ }
        orgId := 2, kind := .story, itemId := 6, toStatus := "done", call := { human := true, viaGate := false }
        now := 100 }),
    .slaItem 100 { storyPoints := some 3 } (minutes 120)]

/-- The item approves a gate whose run records nothing about production risk. -/
def DeskEvent.approvesUnknown (desk : ApprovalDesk) (event : DeskEvent) : Bool :=
  match event.item desk with
  | some (run, answers, now) =>
    match processOneStepRun desk run answers now with
    | .ok (_, .autoApproved) => (run.riskSnapshot.get "prod_touch").isNull
    | _ => false
  | none => false

end Samples

theorem SlaLaw.known {desk : ApprovalDesk} {event : DeskEvent} (law : SlaLaw desk event) :
    event.approvesUnknown desk = false := by
  by_contra unknown
  rw [Bool.not_eq_false] at unknown
  unfold DeskEvent.approvesUnknown at unknown
  split at unknown
  next run answers now processes =>
    split at unknown
    next after processed =>
      have risk := (law.approvals run ⟨answers, now, after, processes, processed⟩).2.risk
      rw [risk] at unknown
      cases unknown
    · cases unknown
  · cases unknown

/-- The config may be published, and the pass approves a merge although the run's risk snapshot is empty. -/
theorem unknown_risk_approved :
    lintConfig sampleSlaConfig = .ok [] ∧ ¬ Runs.Throughout DeskEvent.step SlaLaw .opened sampleOverdueRun := by
  refine ⟨by rfl, fun kept => ?_⟩
  have known : DeskEvent.approvesUnknown (Runs.final DeskEvent.step .opened (sampleOverdueRun.take 3))
      (.slaItem 100 { storyPoints := some 3 } (minutes 120)) = false := kept.2.2.2.1.known
  have unknown : DeskEvent.approvesUnknown (Runs.final DeskEvent.step .opened (sampleOverdueRun.take 3))
      (.slaItem 100 { storyPoints := some 3 } (minutes 120)) = true := by decide +kernel
  rw [unknown] at known
  cases known

end Sprintable.Lines
