import Sprintable.Lines.ApprovalRuns

/-! A withdrawn step run stays withdrawn. Its gates were closed beside the gate
service, so what may still happen to them depends on the checks of every
operation that starts from a closed gate. -/

namespace Sprintable.Lines

open Gates

/-- The statuses of a gate that waits for nobody and was not approved. -/
def closedStatuses : List GateStatus := [.rejected, .autoPassed, .voided]

/-- The gate is the run's own: one of its two links, in its organisation. -/
def StepRun.owns (run : StepRun) (gate : Gate) : Prop := gate.orgId = run.orgId ∧ gate.id ∈ run.gateIds

def GatesClosed (run : StepRun) (table : Table) : Prop := ∀ gate ∈ table, run.owns gate → gate.status ∈ closedStatuses

/-- The row is one of the run's, of its current group or of an older one. -/
def StepRun.asks (run : StepRun) (row : StepApproval) : Prop :=
  row.stepRunId = run.id ∨ run.approvalGroupId = some row.approvalGroupId

def RowsClosed (run : StepRun) (approvals : List StepApproval) : Prop :=
  ∀ row ∈ approvals, run.asks row → row.status ≠ .pending

/-- The run is withdrawn, its gates are closed, and no approval of it is asked for. -/
structure Closed (desk : ApprovalDesk) (run : StepRun) : Prop where
  present : run ∈ desk.runs
  withdrawn : run.status = .withdrawn
  gates : GatesClosed run desk.gates
  approvals : RowsClosed run desk.approvals

/-- Every item whose status has changed is that of an open step run, which was applied. -/
def MovesOpen (desk after : ItemDesk) : Prop :=
  ∀ kind id, after.item kind id ≠ desk.item kind id → ∃ other ∈ desk.runs, other.isOpen = true ∧
    other.entityType = kind.text ∧ other.entityId = id ∧ ∃ now, other.resolve .applied now ∈ after.runs

/-- What an operation leaves alone of a withdrawn run. -/
structure Spares (run : StepRun) (desk after : ApprovalDesk) : Prop where
  unique : (after.runs.map StepRun.id).Nodup
  runs : ∀ row ∈ desk.runs, row.isOpen = false → row ∈ after.runs
  gates : GatesClosed run desk.gates → GatesClosed run after.gates
  approvals : RowsClosed run desk.approvals → RowsClosed run after.approvals
  moves : MovesOpen desk.toItemDesk after.toItemDesk

section Gates
variable {run : StepRun} {drafts : Drafts} {table after : Table} {gate decided : Gate} {orgId gateId : Uuid} {now : Nat}

private theorem owns_congr {left right : Gate} (own : run.owns left) (org : left.orgId = right.orgId) (key : left.id = right.id) :
    run.owns right := ⟨org ▸ own.1, key ▸ own.2⟩

private theorem closed_illegal {fromStatus toStatus : GateStatus} (closed : fromStatus ∈ closedStatuses) :
    isValidTransition fromStatus toStatus = false := by
  revert fromStatus
  cases toStatus <;> decide

private theorem closed_resolvable (run : StepRun) (newStatus : GateStatus) (now : Nat) :
    Resolvable newStatus now fun gate => run.owns gate → gate.status ∈ closedStatuses where
  resolve gate resolverId note legal closed own := by
    have before : run.owns gate := owns_congr own (by simp [Gate.resolve]) (by simp [Gate.resolve])
    rw [closed_illegal (closed before)] at legal
    cases legal
  note gate note closed := closed
  mark gate facts _ closed := closed
  cascade target recipe note _ waiting closed own := by
    have before : run.owns target := owns_congr own (by simp [Gate.cascadeFrom]) (by simp [Gate.cascadeFrom])
    have shut := closed before
    rw [waiting] at shut
    exact absurd shut (by decide)

private theorem transition_closed {newStatus : GateStatus} {resolverId : Option Uuid} {note : Option String}
    {reviewedDraft : Option (Uuid × Nat)} {commands : List CommandRequest}
    (executed : transitionGate drafts table orgId gateId newStatus resolverId note reviewedDraft now =
      .ok (after, decided, commands)) (closed : GatesClosed run table) : GatesClosed run after :=
  (transition_preserves (closed_resolvable run newStatus now) closed executed).1

private theorem put_closed_gates (closed : GatesClosed run table) (found : table.lookup orgId gateId = some gate)
    (waits : gate.status ∉ closedStatuses) (org : decided.orgId = gate.orgId) (key : decided.id = gate.id) :
    GatesClosed run (table.put decided) := by
  intro row member own
  rcases Table.mem_put member with rfl | old
  · exact absurd (closed gate (Table.lookup_mem found) (owns_congr own org key)) waits
  · exact closed row old own

private theorem hold_closed {holderId : Uuid} {reason : Option String} {heldUntil : Option Nat}
    (executed : holdGate table orgId gateId holderId reason heldUntil now = .ok (after, decided))
    (closed : GatesClosed run table) : GatesClosed run after := by
  unfold holdGate at executed
  split at executed
  · cases executed
  next row found =>
    split at executed
    · cases executed
    next legal =>
      cases executed
      have waits : row.status ∉ closedStatuses := fun shut => legal (by rw [closed_illegal shut]; rfl)
      exact put_closed_gates closed found waits (by simp) (by simp)

private theorem unhold_closed (executed : unholdGate table orgId gateId now = .ok (after, decided)) (closed : GatesClosed run table) :
    GatesClosed run after := by
  unfold unholdGate at executed
  split at executed
  · cases executed
  next row found =>
    split at executed
    · cases executed
    next legal =>
      cases executed
      have waits : row.status ∉ closedStatuses := fun shut => legal (by rw [closed_illegal shut]; rfl)
      exact put_closed_gates closed found waits (by simp) (by simp)

/-- The actor may still take back the decision of the gate. -/
structure Undoable (table : Table) (orgId gateId actorId : Uuid) (now : Nat) (gate : Gate) : Prop where
  found : table.lookup orgId gateId = some gate
  resolved : gate.status = .approved ∨ gate.status = .rejected
  own : gate.resolverId = some actorId
  recent : ∃ instant, gate.resolvedAt = some instant ∧ now ≤ instant + gateUndoWindow

def Gate.undone (gate : Gate) (now : Nat) : Gate :=
  { gate.setStatus .pending now with resolverId := none, resolvedAt := none, resolutionNote := none }

private theorem undo_spec {actorId : Uuid} :
    undoGateResolution table orgId gateId actorId now = .ok (after, decided) ↔
      ∃ gate, Undoable table orgId gateId actorId now gate ∧ decided = Gate.undone gate now ∧
        after = table.put (Gate.undone gate now) := by
  unfold undoGateResolution
  constructor
  · intro executed
    split at executed
    · cases executed
    next gate found =>
      split at executed
      · cases executed
      next resolved =>
        split at executed
        · cases executed
        next own =>
          split at executed
          · cases executed
          next instant at_ =>
            split at executed
            · cases executed
            next recent =>
              cases executed
              have decided : gate.status = .approved ∨ gate.status = .rejected := by
                by_contra other
                exact resolved (not_or.mp other)
              exact ⟨gate, ⟨found, decided, not_not.mp own, instant, at_, not_lt.mp recent⟩, rfl, rfl⟩
  · rintro ⟨gate, ⟨found, resolved, own, instant, at_, recent⟩, rfl, rfl⟩
    have live : ¬(gate.status ≠ .approved ∧ gate.status ≠ .rejected) := by
      rintro ⟨first, second⟩
      rcases resolved with same | same
      · exact first same
      · exact second same
    simp only [found, if_neg live, own, at_, not_lt.mpr recent, ne_eq, not_true_eq_false, if_false]
    rfl

end Gates

section Moves
variable {desk after : ItemDesk} {run : StepRun} {lookups : ResolutionLookups}

private theorem item_congr (same : after.items = desk.items) (kind : ItemKind) (id : Uuid) : after.item kind id = desk.item kind id := by
  unfold ItemDesk.item
  rw [same]

private theorem moves_none (same : after.items = desk.items) : MovesOpen desk after := fun kind id moved =>
  absurd (item_congr same kind id) moved

private theorem resolution_moves {now : Nat} {newStatus : GateStatus} {resolverId : Option Uuid} (member : run ∈ desk.runs)
    (waits : run.isOpen = true) (executed : applyWorkflowLineResolution desk run now lookups newStatus resolverId = .ok after) :
    MovesOpen desk after := by
  cases ready : ItemKind.readiness? run.entityType with
  | none =>
    simp only [applyWorkflowLineResolution, ready] at executed
    cases executed
    exact moves_none rfl
  | some own =>
    have spec := resolution_spec ready executed
    split at spec
    · rcases spec.moves with same | ⟨item, found, -, same, applied⟩
      · exact moves_none same
      · intro kind id moved
        have written : after.item kind id = (desk.setItemStatus own run.entityId (own.move run).2).item kind id :=
          item_congr same kind id
        rw [written, set_item_status_spec found] at moved
        split at moved
        next target =>
          obtain ⟨rfl, rfl⟩ := target
          refine ⟨run, member, waits, (ItemKind.readiness_spec ready).symm, rfl, now, ?_⟩
          rw [applied]
          exact List.mem_map.mpr ⟨run, member, if_pos rfl⟩
        · exact absurd rfl moved
    · rw [spec]
      exact moves_none rfl

private theorem gate_write_moves {write : GateWrite} (executed : (LineEvent.gate write lookups).attempt desk = .ok after) :
    MovesOpen desk after := by
  cases handles : LineEvent.handled desk (.gate write lookups) with
  | some handed =>
    obtain ⟨run, given⟩ := handed
    obtain ⟨gates, lookups, resolution⟩ := LineEvent.handled_resolution handles executed
    obtain ⟨member, waits⟩ := LineEvent.handled_spec handles
    have moves : MovesOpen (desk.withGates gates) after := resolution_moves member waits resolution
    exact moves
  | none =>
    have follow_up (items : ItemDesk) : (LineEvent.followUp items write).items = items.items := by
      have marked (orgId gateId : Uuid) (change : StepRun → StepRun) :
          (items.markLinked orgId gateId change).items = items.items := by
        unfold ItemDesk.markLinked
        split <;> rfl
      unfold LineEvent.followUp
      split
      · exact marked ..
      · exact marked ..
      · exact marked ..
      · rfl
    simp only [LineEvent.attempt, LineEvent.gateWrite] at executed
    split at executed
    · cases executed
      exact moves_none rfl
    · split at executed
      · cases executed
      · simp only [handles] at executed
        cases executed
        exact moves_none (follow_up _)

end Moves

section Operations
variable {desk tried after : ApprovalDesk} {run item : StepRun} {lookups : ResolutionLookups} {answers : SlaAnswers} {now : Nat}

theorem Spares.refl (unique : (desk.runs.map StepRun.id).Nodup) : Spares run desk desk :=
  ⟨unique, fun _ present _ => present, id, id, moves_none rfl⟩

private theorem gate_write_spares (unique : (desk.runs.map StepRun.id).Nodup) {write : GateWrite} {items : ItemDesk}
    (executed : (LineEvent.gate write lookups).attempt desk.toItemDesk = .ok items)
    (gates : GatesClosed run desk.gates → GatesClosed run items.gates) : Spares run desk (desk.withItems items) where
  unique := ((LineEvent.gate_writes executed).follows unique).unique unique
  runs _ present shut := (LineEvent.gate_writes executed).closed unique present shut
  gates := gates
  approvals := id
  moves := gate_write_moves executed

private theorem transition_spares (unique : (desk.runs.map StepRun.id).Nodup) {drafts : Drafts} {orgId gateId : Uuid}
    {newStatus : GateStatus} {resolverId : Option Uuid} {note : Option String}
    (executed : desk.transition drafts orgId gateId newStatus resolverId note lookups now = .ok after) :
    Spares run desk after := by
  obtain ⟨decided, commands, decision⟩ := transition_gates executed
  obtain ⟨items, written, rfl⟩ := transition_spec executed
  exact gate_write_spares unique written fun closed => transition_closed decision closed

private theorem withdraw_spares (unique : (desk.runs.map StepRun.id).Nodup) (orgId storyId stepRunId actorId : Uuid)
    (actor : Option TeamMember) (reason : Option String) (now : Nat) :
    Spares run desk (desk.withdraw orgId storyId stepRunId actorId actor reason now).1 := by
  have runs := withdraw_writes ⟨desk.gates, desk.runs, desk.approvals⟩ orgId storyId stepRunId actorId actor reason now
  have rows : RowsClosed run desk.approvals → RowsClosed run
      (withdrawPendingRun ⟨desk.gates, desk.runs, desk.approvals⟩ orgId storyId stepRunId actorId actor reason now).1.approvals := by
    intro closed
    unfold withdrawPendingRun
    split
    · exact closed
    · intro row member own
      obtain ⟨old, present, rfl⟩ := List.mem_map.mp member
      split at own
      next pending =>
        rw [if_pos pending]
        simp
      next kept =>
        rw [if_neg kept]
        exact closed old present own
  obtain ⟨closes, waits, gates⟩ := withdraw_gates ⟨desk.gates, desk.runs, desk.approvals⟩ orgId storyId stepRunId actorId
    actor reason now
  unfold ApprovalDesk.withdraw
  split
  next closed id same =>
    rw [same] at runs rows gates
    refine ⟨(runs.follows unique).unique unique, fun _ present shut => runs.closed unique present shut, fun shut => ?_,
      rows, moves_none rfl⟩
    have table : closed.gates = desk.gates.map fun gate => if closes gate then Gate.withdraw gate actorId now else gate :=
      gates
    intro gate member own
    rw [table] at member
    obtain ⟨old, present, rfl⟩ := List.mem_map.mp member
    split at own
    next pending =>
      rw [if_pos pending]
      exact (by decide : GateStatus.rejected ∈ closedStatuses)
    next kept =>
      rw [if_neg kept]
      exact shut old present own
  · exact .refl unique

private theorem decide_spares (unique : (desk.runs.map StepRun.id).Nodup) {approvalId : Uuid} {decision : ApprovalStatus}
    {resolverId : Option Uuid} {note : Option String} {drafts : Drafts} {outcome : ParallelOutcome}
    (executed : recordParallelDecision desk approvalId decision resolverId note drafts lookups now = .ok (after, outcome)) :
    Spares run desk after := by
  unfold recordParallelDecision at executed
  split at executed
  · cases executed
  next valid =>
    split at executed
    · cases executed
    next row found =>
      have decided : decision ≠ .pending := by
        rintro rfl
        exact valid (by decide)
      have rows (closed : RowsClosed run desk.approvals) :
          RowsClosed run (Keyed.put StepApproval.id desk.approvals (row.decide decision note now)) := by
        intro other member own
        obtain ⟨old, present, rfl⟩ := List.mem_map.mp member
        split at own
        next same =>
          rw [if_pos same]
          exact decided
        next kept =>
          rw [if_neg kept]
          exact closed old present own
      split at executed
      · cases executed
      split at executed
      · cases executed
      dsimp only at executed
      split at executed
      · cases executed
        exact .refl unique
      split at executed
      · obtain ⟨resolved, transition, executed⟩ := Runs.bind_ok executed
        cases executed
        have spares : Spares run
            { desk with approvals := Keyed.put StepApproval.id desk.approvals (row.decide decision note now) } after :=
          transition_spares unique transition
        exact ⟨spares.unique, spares.runs, spares.gates, fun closed => spares.approvals (rows closed), spares.moves⟩
      · cases executed
        exact ⟨unique, fun _ present _ => present, id, rows, moves_none rfl⟩

private theorem put_spares {next : StepRun} {kind : StepRunEventKind} (unique : (desk.runs.map StepRun.id).Nodup)
    (member : item ∈ desk.runs) (waits : item.isOpen = true) (same : next.id = item.id) :
    Spares run desk ((desk.putRun next).recordEvent item kind) where
  unique := by
    have ids : ((desk.putRun next).recordEvent item kind).runs.map StepRun.id = desk.runs.map StepRun.id :=
      Keyed.map_key_put desk.runs next
    rw [ids]
    exact unique
  runs _ present shut := put_closed unique member waits same present shut
  gates := id
  approvals := id
  moves := moves_none rfl

private theorem sla_spares (unique : (desk.runs.map StepRun.id).Nodup) (member : item ∈ desk.runs) (waits : item.isOpen = true)
    {outcome : SlaOutcome} (step : SlaStep desk item answers now after outcome) : Spares run desk after := by
  cases step with
  | kept refused quiet =>
    rcases refused with rfl | rfl
    · exact .refl unique
    · exact ⟨unique, fun _ present _ => present, id, id, moves_none rfl⟩
  | @escalated tried target refused first =>
    rcases refused with rfl | rfl
    · exact put_spares unique member waits rfl
    · have spares : Spares run desk ((desk.putRun (item.escalateTo target)).recordEvent item (.escalated (some target))) :=
        put_spares unique member waits rfl
      exact ⟨spares.unique, spares.runs, spares.gates, spares.approvals, spares.moves⟩
  | unresolved refused first unmarked =>
    rcases refused with rfl | rfl
    · exact put_spares unique member waits rfl
    · have spares : Spares run desk ((desk.putRun item.leaveUnassigned).recordEvent item (.escalated none)) :=
        put_spares unique member waits rfl
      exact ⟨spares.unique, spares.runs, spares.gates, spares.approvals, spares.moves⟩
  | reminded published bound room => exact put_spares unique member waits rfl
  | approved asked taken =>
    obtain ⟨_, -, -, -, transition⟩ := taken.taken
    have spares : Spares run desk _ := transition_spares unique transition
    exact ⟨spares.unique, spares.runs, spares.gates, spares.approvals, spares.moves⟩

end Operations

namespace DeskEvent

/-- The operations that decide about a step run and its gates once these exist. -/
def listed : DeskEvent → Bool
  | .line (.gate (.transition ..) _) => true
  | .line (.gate (.operation (.transition ..)) _) => true
  | .line (.gate (.operation (.undo ..)) _) => true
  | .line (.gate (.operation (.hold ..)) _) => true
  | .line (.gate (.operation (.unhold ..)) _) => true
  | .line (.gate (.withdraw ..) _) => true
  | .decide .. => true
  | .slaItem .. => true
  | _ => false

/-- The event takes back the decision of a gate of the run. -/
def reopens (run : StepRun) (desk : ApprovalDesk) : DeskEvent → Prop
  | .line (.gate (.operation (.undo orgId gateId actorId now)) _) =>
    orgId = run.orgId ∧ gateId ∈ run.gateIds ∧ ∃ gate, Undoable desk.gates orgId gateId actorId now gate
  | _ => False

variable {desk after : ApprovalDesk} {run : StepRun} {event : DeskEvent}

private theorem write_attempt {write : GateWrite} {lookups : ResolutionLookups} (other : LineEvent.isWithdrawal write = false)
    (executed : (DeskEvent.line (.gate write lookups)).attempt desk = .ok after) :
    ∃ items, (LineEvent.gate write lookups).attempt desk.toItemDesk = .ok items ∧ after = desk.withItems items := by
  apply line_attempt _ executed
  intro _ _ same
  cases same
  exact other

private theorem attempt_spares (unique : (desk.runs.map StepRun.id).Nodup) (allowed : event.listed = true)
    (stands : ¬ event.reopens run desk) (executed : event.attempt desk = .ok after) : Spares run desk after := by
  unfold listed at allowed
  split at allowed
  next drafts orgId gateId newStatus resolverId note reviewedDraft now lookups =>
    obtain ⟨items, attempted, rfl⟩ := write_attempt rfl executed
    obtain ⟨_, decision, same⟩ := Runs.map_ok (LineEvent.gate_write_gates rfl attempted)
    exact gate_write_spares unique attempted fun closed => same ▸ transition_closed decision closed
  next drafts orgId gateId decision resolverId note reviewedDraft now lookups =>
    obtain ⟨items, attempted, rfl⟩ := write_attempt rfl executed
    obtain ⟨_, decided, same⟩ := Runs.map_ok (LineEvent.gate_write_gates rfl attempted)
    exact gate_write_spares unique attempted fun closed => same ▸ transition_closed decided closed
  next orgId gateId actorId now lookups =>
    obtain ⟨items, attempted, rfl⟩ := write_attempt rfl executed
    obtain ⟨⟨table, decided⟩, undone, same⟩ := Runs.map_ok (LineEvent.gate_write_gates rfl attempted)
    refine gate_write_spares unique attempted fun closed => ?_
    obtain ⟨gate, undoable, rfl, rfl⟩ := undo_spec.mp undone
    rw [← same]
    intro row member own
    rcases Table.mem_put member with rfl | old
    · have shape := List.find?_some undoable.found
      simp only [Bool.and_eq_true, beq_iff_eq] at shape
      have org : run.orgId = orgId := by simpa [Gate.undone, shape.2] using own.1.symm
      have key : gateId ∈ run.gateIds := by simpa [Gate.undone, shape.1] using own.2
      exact absurd ⟨org.symm, key, gate, undoable⟩ stands
    · exact closed row old own
  next orgId gateId holderId reason heldUntil now lookups =>
    obtain ⟨items, attempted, rfl⟩ := write_attempt rfl executed
    obtain ⟨_, held, same⟩ := Runs.map_ok (LineEvent.gate_write_gates rfl attempted)
    exact gate_write_spares unique attempted fun closed => same ▸ hold_closed held closed
  next orgId gateId now lookups =>
    obtain ⟨items, attempted, rfl⟩ := write_attempt rfl executed
    obtain ⟨_, resumed, same⟩ := Runs.map_ok (LineEvent.gate_write_gates rfl attempted)
    exact gate_write_spares unique attempted fun closed => same ▸ unhold_closed resumed closed
  next runs approvals orgId storyId stepRunId actorId actor reason now lookups =>
    cases executed
    exact withdraw_spares unique orgId storyId stepRunId actorId actor reason now
  next approvalId decision resolverId note drafts lookups now =>
    obtain ⟨_, decided, rfl⟩ := Runs.map_ok executed
    exact decide_spares unique decided
  next stepRunId answers now =>
    obtain ⟨⟨after, outcome⟩, processed, rfl⟩ := Runs.map_ok executed
    unfold processSlaItem at processed
    split at processed
    · cases processed
      exact .refl unique
    next item found =>
      obtain ⟨member, -, waits⟩ := sla_row_spec found
      exact sla_spares unique member (sla_open waits) (process_step processed)
  · cases allowed

private theorem reopens_breaks (reopened : event.reopens run desk) : ¬ GatesClosed run (event.step desk).gates := by
  unfold reopens at reopened
  split at reopened
  next orgId gateId actorId now lookups =>
    obtain ⟨rfl, key, gate, undoable⟩ := reopened
    intro closed
    have undone : (GateWrite.operation (.undo run.orgId gateId actorId now)).attempt desk.gates =
        .ok (desk.gates.put (Gate.undone gate now)) := by
      have executed := undo_spec.mpr ⟨gate, undoable, rfl, rfl⟩
      simp only [GateWrite.attempt, GateOperation.attempt, executed]
      rfl
    have stepped : (DeskEvent.step desk (.line (.gate (.operation (.undo run.orgId gateId actorId now)) lookups))).gates =
        desk.gates.put (Gate.undone gate now) := by
      unfold DeskEvent.step Runs.settle DeskEvent.attempt
      simp only [LineEvent.attempt, LineEvent.gateWrite, undone]
      rfl
    rw [stepped] at closed
    have shape := List.find?_some undoable.found
    simp only [Bool.and_eq_true, beq_iff_eq] at shape
    have member : Gate.undone gate now ∈ desk.gates.put (Gate.undone gate now) :=
      List.mem_map.mpr ⟨gate, Table.lookup_mem undoable.found, if_pos (by simp [Gate.undone])⟩
    have shut := closed _ member ⟨by simp [Gate.undone, shape.2], by simpa [Gate.undone, shape.1] using key⟩
    have waits : (Gate.undone gate now).status = .pending := by simp [Gate.undone]
    rw [waits] at shut
    exact absurd shut (by decide)
  · exact reopened.elim

end DeskEvent

/-- What one event leaves of a withdrawn run: it is as closed as before, and
only other runs move an item. -/
structure ClosedLaw (run : StepRun) (desk : ApprovalDesk) (event : DeskEvent) : Prop where
  closed : Closed (event.step desk) run
  moves : ∀ kind id, (event.step desk).item kind id ≠ desk.item kind id → ∃ other ∈ desk.runs, other.id ≠ run.id ∧
    other.entityType = kind.text ∧ other.entityId = id ∧ ∃ now, other.resolve .applied now ∈ (event.step desk).runs

/-- What the withdrawal does not reach: gates that wait no more, and approvers of an older group. -/
structure NoneStanding (run : StepRun) (desk : ApprovalDesk) : Prop where
  gates : ∀ gate ∈ desk.gates, run.owns gate → gate.status ≠ .held ∧ gate.status ≠ .approved
  approvals : ∀ row ∈ desk.approvals, row.stepRunId = run.id → row.status = .pending →
    run.approvalGroupId = some row.approvalGroupId

section Law
variable {desk closed : ApprovalDesk} {run : StepRun} {event : DeskEvent} {now : Nat}

private theorem withdrawn_shut (withdrawn : run.status = .withdrawn) : run.isOpen = false := by
  unfold StepRun.isOpen
  rw [withdrawn]
  decide

private theorem step_spares (unique : (desk.runs.map StepRun.id).Nodup) (allowed : event.listed = true)
    (stands : ¬ event.reopens run desk) : Spares run desk (event.step desk) := by
  unfold DeskEvent.step Runs.settle
  split
  next after executed => exact DeskEvent.attempt_spares unique allowed stands executed
  · exact .refl unique

private theorem closed_law (unique : (desk.runs.map StepRun.id).Nodup) (closed : Closed desk run) (allowed : event.listed = true) :
    ¬ event.reopens run desk ↔ ClosedLaw run desk event := by
  constructor
  · intro stands
    have spares := step_spares unique allowed stands
    have shut := withdrawn_shut closed.withdrawn
    refine ⟨⟨spares.runs run closed.present shut, closed.withdrawn, spares.gates closed.gates,
      spares.approvals closed.approvals⟩, fun kind id moved => ?_⟩
    obtain ⟨other, member, waits, type, entity, now, applied⟩ := spares.moves kind id moved
    refine ⟨other, member, fun same => ?_, type, entity, now, applied⟩
    have found := Keyed.find_of_mem unique member
    rw [same, Keyed.find_of_mem unique closed.present] at found
    cases found
    exact Bool.noConfusion (waits.symm.trans shut)
  · exact fun law reopened => DeskEvent.reopens_breaks reopened law.closed.gates

private theorem withdrawable_refuses {desk : Desk} {orgId storyId stepRunId actorId id : Uuid} {actor : Option TeamMember} :
    withdrawable desk orgId storyId stepRunId actorId actor ≠ .error (.withdrawn id) := by
  unfold withdrawable
  split
  · simp
  · split
    · simp
    · split <;> simp

private theorem withdraw_spec {orgId storyId stepRunId actorId id : Uuid} {actor : Option TeamMember} {reason : Option String}
    {now : Nat} (withdrawn : desk.withdraw orgId storyId stepRunId actorId actor reason now = (closed, .withdrawn id)) :
    ∃ old ∈ desk.runs, old.id = stepRunId ∧ old.orgId = orgId ∧ old.entityType = "story" ∧ old.entityId = storyId ∧
      ∃ run ∈ closed.runs, run.status = .withdrawn ∧ run.route = old.route ∧ run.orgId = old.orgId ∧
        run.gateIds = old.gateIds ∧ run.approvalGroupId = old.approvalGroupId ∧
        closed.gates = desk.gates.map (fun gate => if old.closes orgId gate then Gate.withdraw gate actorId now else gate) ∧
        closed.approvals = desk.approvals.map fun row =>
          if run.approvalGroupId = some row.approvalGroupId ∧ row.status = .pending then
            { row with status := .withdrawn, resolvedAt := some now } else row := by
  unfold ApprovalDesk.withdraw at withdrawn
  split at withdrawn
  next after selected executed =>
    cases withdrawn
    unfold withdrawPendingRun at executed
    split at executed
    next result refused =>
      cases executed
      exact absurd refused withdrawable_refuses
    next run found =>
      cases executed
      unfold withdrawable at found
      split at found
      · cases found
      next old first =>
        split at found
        · cases found
        · split at found
          · cases found
          · cases found
            have shape := List.find?_some first
            simp only [Bool.and_eq_true, beq_iff_eq] at shape
            have member := List.mem_of_find?_eq_some first
            refine ⟨run, member, shape.1.1.1, shape.1.1.2, shape.1.2, shape.2, _,
              List.mem_map.mpr ⟨run, member, if_pos rfl⟩, rfl, rfl, rfl, rfl, rfl, rfl, rfl⟩
  next after refused other executed =>
    cases withdrawn
    exact absurd rfl (other id)

private theorem withdrawn_rows {approvals : List StepApproval} : RowsClosed run (approvals.map fun row =>
      if run.approvalGroupId = some row.approvalGroupId ∧ row.status = .pending then
        { row with status := .withdrawn, resolvedAt := some now } else row) ↔
    ∀ row ∈ approvals, row.stepRunId = run.id → row.status = .pending → run.approvalGroupId = some row.approvalGroupId := by
  constructor
  · intro shut row present own pending
    by_contra older
    exact shut row (List.mem_map.mpr ⟨row, present, if_neg fun both => older both.1⟩) (.inl own) pending
  · intro grouped row member own
    obtain ⟨before, there, rfl⟩ := List.mem_map.mp member
    split at own
    next closes =>
      rw [if_pos closes]
      simp
    next kept =>
      rw [if_neg kept]
      intro pending
      rcases own with own | group
      · exact kept ⟨grouped before there own pending, pending⟩
      · exact kept ⟨group, pending⟩

private theorem withdrawal_closed {orgId storyId stepRunId actorId id : Uuid} {actor : Option TeamMember} {reason : Option String}
    {now : Nat} (withdrawn : desk.withdraw orgId storyId stepRunId actorId actor reason now = (closed, .withdrawn id)) :
    ∃ run ∈ closed.runs, run.id = stepRunId ∧ run.entityType = "story" ∧ run.entityId = storyId ∧ run.status = .withdrawn ∧
      (NoneStanding run desk ↔ Closed closed run) := by
  obtain ⟨old, member, rfl, org, type, story, run, present, status, route, sameOrg, keys, group, gates, rows⟩ :=
    withdraw_spec withdrawn
  simp only [StepRun.route, Prod.mk.injEq] at route
  refine ⟨run, present, route.1, route.2.1.trans type, route.2.2.1.trans story, status, fun none => ?_, fun shut => ?_⟩
  · refine ⟨present, status, fun gate there own => ?_, rows ▸ withdrawn_rows.mpr none.approvals⟩
    rw [gates] at there
    obtain ⟨before, was, rfl⟩ := List.mem_map.mp there
    split at own
    next pending =>
      rw [if_pos pending]
      exact (by decide : GateStatus.rejected ∈ closedStatuses)
    next kept =>
      rw [if_neg kept]
      obtain ⟨notHeld, notApproved⟩ := none.gates before was own
      have notPending : before.status ≠ .pending := by
        intro pending
        apply kept
        simp only [StepRun.closes, Bool.and_eq_true, List.contains_iff_mem, beq_iff_eq]
        exact ⟨⟨keys ▸ own.2, own.1.trans (sameOrg.trans org)⟩, pending⟩
      generalize before.status = status at notHeld notApproved notPending
      cases status <;> simp_all [closedStatuses]
  · refine ⟨fun gate there own => ?_, withdrawn_rows.mp (rows ▸ shut.approvals)⟩
    have kept (standing : gate.status ≠ .pending) : gate.status ∈ closedStatuses := by
      apply shut.gates gate ?_ own
      rw [gates]
      refine List.mem_map.mpr ⟨gate, there, if_neg fun closes => ?_⟩
      simp only [StepRun.closes, Bool.and_eq_true, beq_iff_eq] at closes
      exact standing closes.2
    constructor
    · intro held
      exact absurd (kept (by rw [held]; simp)) (by rw [held]; decide)
    · intro approved
      exact absurd (kept (by rw [approved]; simp)) (by rw [approved]; decide)

end Law

/-- A run is closed for good by its withdrawal, exactly if none of its gates was on hold or approved
and no approver of an older group was asked then, and no decision about a gate is taken back later. -/
theorem withdrawal_final {desk closed : ApprovalDesk} {orgId storyId stepRunId actorId : Uuid} {actor : Option TeamMember}
    {reason : Option String} {now : Nat} (unique : (desk.runs.map StepRun.id).Nodup)
    (withdrawn : desk.withdraw orgId storyId stepRunId actorId actor reason now = (closed, .withdrawn stepRunId)) :
    ∃ run ∈ closed.runs, run.id = stepRunId ∧ run.entityType = "story" ∧ run.entityId = storyId ∧ run.status = .withdrawn ∧
      ∀ events : List DeskEvent, (∀ event ∈ events, event.listed = true) →
        (NoneStanding run desk ∧ Runs.Throughout DeskEvent.step (fun desk event => ¬ event.reopens run desk) closed events ↔
          Closed closed run ∧ Runs.Throughout DeskEvent.step (ClosedLaw run) closed events) := by
  obtain ⟨run, present, key, type, story, status, begins⟩ := withdrawal_closed withdrawn
  refine ⟨run, present, key, type, story, status, fun events all => ?_⟩
  have distinct : (closed.runs.map StepRun.id).Nodup := by
    have spares : Spares run desk _ := withdraw_spares unique orgId storyId stepRunId actorId actor reason now
    rw [withdrawn] at spares
    exact spares.unique
  rw [begins]
  refine and_congr_right fun shut => ?_
  have exactly_ (desk : ApprovalDesk) (event : DeskEvent) (allowed : event.listed = true)
      (valid : Closed desk run ∧ (desk.runs.map StepRun.id).Nodup) :
      ¬ event.reopens run desk ↔ ClosedLaw run desk event := closed_law valid.2 valid.1 allowed
  have kept (desk : ApprovalDesk) (event : DeskEvent) (allowed : event.listed = true)
      (valid : Closed desk run ∧ (desk.runs.map StepRun.id).Nodup) (law : ClosedLaw run desk event) :
      Closed (event.step desk) run ∧ ((event.step desk).runs.map StepRun.id).Nodup :=
    ⟨law.closed, (step_spares valid.2 allowed ((exactly_ desk event allowed valid).mpr law)).unique⟩
  exact Runs.Throughout.exactly exactly_ kept ⟨shut, distinct⟩ all

section Samples

/-- A story waits for its merge gate, and a product owner withdraws the step. -/
def sampleWaiting : ApprovalDesk where
  items := [{ kind := .story, id := 6, orgId := 2, projectId := 5, status := "in-review" }]
  runs := [{ id := 100, orgId := 2, projectId := 5, entityType := "story", entityId := 6, fromStatus := some "in-review"
             toStatus := "done", status := .waitingGate, mode := .gatePending, gateId := some 4, h1GateId := some 4 }]
  gates := [{ id := 4, orgId := 2, workItemId := 6, workItemType := "story", gateType := .merge }]

def sampleWithdrawn : ApprovalDesk := (sampleWaiting.withdraw 2 6 100 9 (some ⟨2, "product_owner"⟩) none (minutes 1)).1

def sampleWithdrawnRun : StepRun :=
  { id := 100, orgId := 2, projectId := 5, entityType := "story", entityId := 6, fromStatus := some "in-review"
    toStatus := "done", status := .withdrawn, mode := .gatePending, gateId := some 4, h1GateId := some 4
    withdrawnByMemberId := some 9, withdrawnAt := some (minutes 1) }

/-- A late approval of the withdrawn step's gate. -/
def sampleLateApproval : DeskEvent := .line (.gate (.transition .empty 2 4 .approved (some 8) none none (minutes 2)) {})

/-- The author takes the rejection back that the withdrawal wrote in the author's name. -/
def sampleUndo : DeskEvent := .line (.gate (.operation (.undo 2 4 9 (minutes 2))) {})

end Samples

theorem withdrawal_final_sample :
    ∃ run ∈ sampleWithdrawn.runs, Closed sampleWithdrawn run ∧
      Runs.Throughout DeskEvent.step (ClosedLaw run) sampleWithdrawn [sampleLateApproval] := by
  have withdrawn : sampleWaiting.withdraw 2 6 100 9 (some ⟨2, "product_owner"⟩) none (minutes 1) =
      (sampleWithdrawn, .withdrawn 100) := rfl
  obtain ⟨run, present, -, -, -, -, exactly_⟩ := withdrawal_final (by decide) withdrawn
  have same : run = sampleWithdrawnRun := List.mem_singleton.mp present
  subst same
  refine ⟨_, present, (exactly_ [sampleLateApproval] (by decide)).mp ⟨⟨fun gate member own => ?_, ?_⟩, ?_, True.intro⟩⟩
  · rw [List.mem_singleton.mp member]
    decide
  · exact fun _ none => absurd none List.not_mem_nil
  · exact id

/-- The withdrawal succeeds, and its author makes the gate pending again within the window. -/
theorem withdrawn_gate_reopened :
    sampleWaiting.withdraw 2 6 100 9 (some ⟨2, "product_owner"⟩) none (minutes 1) = (sampleWithdrawn, .withdrawn 100) ∧
      sampleUndo.listed = true ∧ sampleWithdrawnRun ∈ sampleWithdrawn.runs ∧
      ¬ Closed (sampleUndo.step sampleWithdrawn) sampleWithdrawnRun := by
  refine ⟨rfl, rfl, List.mem_singleton.mpr rfl, fun closed => ?_⟩
  have reopened : (sampleUndo.step sampleWithdrawn).gates =
      [{ id := 4, orgId := 2, workItemId := 6, workItemType := "story", gateType := .merge
         statusEnteredAt := some (minutes 2) }] := rfl
  have shut := closed.gates
  rw [reopened] at shut
  exact absurd (shut _ List.mem_cons_self ⟨rfl, by decide⟩) (by decide)

end Sprintable.Lines
