import Sprintable.Gates.StatusClock

/-! What no writer of gate rows touches: where a gate belongs, and the instant up
to which its head commit was observed, which only a head delivery moves. -/

namespace Sprintable.Gates

/-- The row has the core of a row of `before`, or joined it later and has not
been observed yet. -/
def Descends (before : Table) (row : Gate) : Prop :=
  (∃ old ∈ before, row.core = old.core) ∨ row.prHeadObservedAt = none ∧ ∀ old ∈ before, old.id ≠ row.id

theorem Descends.start {before : Table} : ∀ row ∈ before, Descends before row :=
  fun row member => .inl ⟨row, member, rfl⟩

theorem Descends.core {before : Table} {row next : Gate} (descends : Descends before row)
    (same : next.core = row.core) : Descends before next := by
  rcases descends with ⟨old, present, kept⟩ | ⟨unobserved, fresh⟩
  · exact .inl ⟨old, present, same.trans kept⟩
  · refine .inr ⟨(congrArg GateCore.prHeadObservedAt same).trans unobserved, fun old present key => ?_⟩
    exact fresh old present (key.trans (id_of_core same))

theorem Descends.trans {before middle : Table} (keys : middle.map Gate.id = before.map Gate.id)
    (first : ∀ row ∈ middle, Descends before row) {row : Gate} (second : Descends middle row) : Descends before row := by
  rcases second with ⟨between, member, same⟩ | ⟨unobserved, fresh⟩
  · exact (first between member).core same
  · refine .inr ⟨unobserved, fun old present key => ?_⟩
    have name : old.id ∈ middle.map Gate.id := keys ▸ List.mem_map_of_mem present
    obtain ⟨between, member, same⟩ := List.mem_map.mp name
    exact fresh between member (same.trans key)

section Writers
variable {drafts : Drafts} {table after : Table} {orgId gateId : Uuid} {gate : Gate} {now : Nat}

theorem put_descends (found : table.lookup orgId gateId = some gate) {row : Gate} (same : row.core = gate.core) :
    ∀ other ∈ table.put row, Descends table other :=
  put_preserves Descends.start ((Descends.start gate (Table.lookup_mem found)).core same)

theorem descends_resolvable (before : Table) (newStatus : GateStatus) (now : Nat) :
    Resolvable newStatus now (Descends before) where
  resolve gate _ _ _ kept :=
    kept.core (show (gate.setStatus newStatus now).core = gate.core from setStatus_core gate newStatus now)
  note _ _ kept := kept.core rfl
  mark _ _ _ kept := kept.core rfl
  cascade target _ _ _ _ kept :=
    kept.core (show (target.setStatus newStatus now).core = target.core from setStatus_core target newStatus now)

theorem transition_descends {newStatus : GateStatus} {resolverId : Option Uuid}
    {note : Option String} {reviewedDraft : Option (Uuid × Nat)} {commands : List CommandRequest}
    (executed : transitionGate drafts table orgId gateId newStatus resolverId note reviewedDraft now =
      .ok (after, gate, commands)) : (∀ row ∈ after, Descends table row) ∧ Descends table gate :=
  transition_preserves (descends_resolvable table newStatus now) Descends.start executed

theorem find_slot_descends {slot : Slot} {prNumber : Option Int} {repoFullName : Option String}
    {found : Option Gate} (lookup : findGateSlotWithPrFallback table slot prNumber repoFullName = (found, after)) :
    (∀ row ∈ after, Descends table row) ∧ ∀ gate, found = some gate → Descends table gate := by
  rcases find_slot_cases lookup with ⟨rfl, rfl⟩ | ⟨gate, member, rfl, rfl⟩ | ⟨gate, member, pr, repo, rfl, rfl⟩
  · exact ⟨Descends.start, by simp⟩
  · refine ⟨Descends.start, ?_⟩
    rintro _ ⟨⟩
    exact Descends.start gate member
  · have bound : Descends table { gate with prNumber := pr, repoFullName := repo } :=
      (Descends.start gate member).core rfl
    refine ⟨put_preserves Descends.start bound, ?_⟩
    rintro _ ⟨⟩
    exact bound

theorem reopened_core (promoted : Table) (existing : Gate) (request : CreateRequest) (disposition : Disposition)
    (now : Nat) : (reopenRejectedGate promoted existing request disposition now).2.core = existing.core :=
  setStatus_core existing (submissionStatus request.gateType disposition) now

theorem create_descends {request : CreateRequest} {disposition : Disposition}
    (created : createGate table request disposition now = .ok (after, gate)) :
    (∀ row ∈ after, Descends table row) ∧ Descends table gate := by
  rcases create_cases created with ⟨lookup, _⟩ | ⟨existing, promoted, lookup, _, rfl, rfl⟩ | ⟨_, fresh, rfl, rfl⟩
  · obtain ⟨rows, row⟩ := find_slot_descends lookup
    exact ⟨rows, row gate rfl⟩
  · obtain ⟨rows, row⟩ := find_slot_descends lookup
    have reopened := (row existing rfl).core (reopened_core promoted existing request disposition now)
    exact ⟨put_preserves rows reopened, reopened⟩
  · have new : Descends table (newGate request disposition now) := .inr ⟨rfl, fresh⟩
    refine ⟨fun row member => ?_, new⟩
    rcases List.mem_append.mp member with old | same
    · exact Descends.start row old
    · rw [List.mem_singleton.mp same]
      exact new

theorem evaluate_descends {evidence : MergeEvidence} {answer : MergeGateDecision}
    (executed : evaluateMergeGate table evidence now = .ok (after, answer)) : ∀ row ∈ after, Descends table row := by
  unfold evaluateMergeGate at executed
  split at executed
  · cases executed
    exact Descends.start
  next memberId _ =>
    split at executed
    · cases executed
      exact Descends.start
    · cases lookup : findGateSlotWithPrFallback table evidence.slot evidence.dbPrNumber evidence.dbRepoFullName with
      | mk existing promoted =>
        rw [lookup] at executed
        obtain ⟨⟨submitted, created⟩, submission, executed⟩ := Runs.bind_ok executed
        cases executed
        obtain ⟨rows, row⟩ := create_descends submission
        have written := row.core (resubmit_core created existing.isSome (evidence.facts memberId) now)
        intro other member
        refine Descends.trans (find_slot_ids lookup) (find_slot_descends lookup).1 ?_
        exact put_preserves rows (written.core (verdict_core _ _ _ evidence.headSha now)) other member

end Writers

namespace GateWrite

def delivers : GateWrite → Bool
  | .operation (.reopenIfNewSha ..) => true
  | _ => false

theorem operation_descends {table after : Table} {operation : GateOperation}
    (other : delivers (.operation operation) = false) (executed : operation.attempt table = .ok after) :
    ∀ row ∈ after, Descends table row := by
  cases operation with
  | create request disposition now =>
    obtain ⟨_, created, rfl⟩ := Runs.map_ok executed
    exact (create_descends created).1
  | transition drafts orgId gateId decision resolverId note reviewedDraft now =>
    obtain ⟨_, decided, rfl⟩ := Runs.map_ok executed
    exact (transition_descends decided).1
  | undo orgId gateId actorId now =>
    obtain ⟨_, undone, rfl⟩ := Runs.map_ok executed
    unfold undoGateResolution at undone
    split at undone
    · cases undone
    next row found =>
      repeat' split at undone
      all_goals cases undone
      exact put_descends found (setStatus_core row .pending now)
  | hold orgId gateId holderId reason heldUntil now =>
    obtain ⟨_, held, rfl⟩ := Runs.map_ok executed
    unfold holdGate at held
    split at held
    · cases held
    next row found =>
      split at held
      all_goals cases held
      exact put_descends found (setStatus_core row .held now)
  | unhold orgId gateId now =>
    obtain ⟨_, resumed, rfl⟩ := Runs.map_ok executed
    unfold unholdGate at resumed
    split at resumed
    · cases resumed
    next row found =>
      split at resumed
      all_goals cases resumed
      exact put_descends found (setStatus_core row .pending now)
  | void orgId gateId voiderId reason now =>
    obtain ⟨_, voided, rfl⟩ := Runs.map_ok executed
    unfold voidGate at voided
    split at voided
    · cases voided
    next row found =>
      repeat' split at voided
      all_goals cases voided
      exact put_descends found (setStatus_core row .voided now)
  | override drafts orgId gateId ownerId decision reason now =>
    obtain ⟨_, overridden, rfl⟩ := Runs.map_ok executed
    unfold overrideGate at overridden
    repeat' split at overridden
    all_goals try cases overridden
    obtain ⟨⟨cascaded, decided, others⟩, transition, overridden⟩ := Runs.bind_ok overridden
    cases overridden
    obtain ⟨rows, row⟩ := transition_descends transition
    exact put_preserves rows (row.core rfl)
  | evaluateMerge evidence now =>
    obtain ⟨_, evaluated, rfl⟩ := Runs.map_ok executed
    exact evaluate_descends evaluated
  | reopenIfNewSha orgId gateId newHeadSha prUpdatedAt now => cases other

theorem step_descends (table : Table) (write : GateWrite) (other : write.delivers = false) :
    ∀ row ∈ step table write, Descends table row := by
  unfold step Runs.settle
  split
  next after executed =>
    cases write with
    | operation single => exact operation_descends other executed
    | transition drafts orgId gateId newStatus resolverId note reviewedDraft now =>
      obtain ⟨_, decided, rfl⟩ := Runs.map_ok executed
      exact (transition_descends decided).1
    | submitDraft orgId gateId neutralFacts version scheduledAt =>
      obtain ⟨_, submitted, rfl⟩ := Runs.map_ok executed
      unfold sealSubmission at submitted
      split at submitted
      · cases submitted
      next row found =>
        cases submitted
        exact put_descends found rfl
    | withdraw runs approvals orgId storyId stepRunId actorId actor reason now =>
      obtain rfl := Except.ok.inj executed
      obtain ⟨closes, -, rows⟩ := withdraw_gates ⟨table, runs, approvals⟩ orgId storyId stepRunId actorId actor reason now
      rw [rows]
      intro row member
      obtain ⟨old, present, rfl⟩ := List.mem_map.mp member
      have kept := Descends.start old present
      split
      · exact kept.core rfl
      · exact kept
  · exact Descends.start

end GateWrite

end Sprintable.Gates
