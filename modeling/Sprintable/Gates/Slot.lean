import Sprintable.Gates.Model

/-! Finding the gate of a work item, and creating it or re-opening it after a
rejection. A slot is looked up by pull request first, then by its unbound row. -/

namespace Sprintable.Gates

structure Slot where
  orgId : Uuid
  workItemId : Uuid
  workItemType : String
  gateType : GateType
  scopeKey : String := ""

def Slot.holds (slot : Slot) (gate : Gate) : Bool :=
  gate.orgId == slot.orgId && gate.workItemId == slot.workItemId && gate.workItemType == slot.workItemType &&
    gate.gateType == slot.gateType && gate.scopeKey == slot.scopeKey

def normalizeRepo (repo : Option String) : String :=
  PyText.lower (PyText.strip (repo.getD ""))

/-- `normalize_repo(repo) or None`, applied only to a given name. -/
def repoKey (repo : Option String) : Option String :=
  (repo.map fun name => normalizeRepo (some name)).filter (· ≠ "")

def findGateSlotWithPrFallback (table : Table) (slot : Slot) (prNumber : Option Int) (repoFullName : Option String) :
    Option Gate × Table :=
  let repo := repoKey repoFullName
  match prNumber with
  | some number =>
    match table.find? (fun gate => slot.holds gate && gate.prNumber == some number && gate.repoFullName == repo) with
    | some exact => (some exact, table)
    | none =>
      let repoUnknown := if repo.isSome then
          table.find? (fun gate => slot.holds gate && gate.prNumber == some number && gate.repoFullName == none)
        else none
      match repoUnknown with
      | some unknown =>
        let promoted := { unknown with repoFullName := repo }
        (some promoted, table.put promoted)
      | none =>
        match table.find? (fun gate => slot.holds gate && gate.prNumber == none) with
        | some unbound =>
          let promoted := { unbound with prNumber := some number, repoFullName := repo }
          (some promoted, table.put promoted)
        | none => (none, table)
  | none => (table.find? (fun gate => slot.holds gate && gate.prNumber == none), table)

structure CreateRequest extends Slot where
  gateId : Uuid
  neutralFacts : Option Facts := none
  prNumber : Option Int := none
  repoFullName : Option String := none
  designatedApproverId : Option Uuid := none

/-- The status that the policy gives a new submission of this gate type. -/
def submissionStatus (gateType : GateType) (disposition : Disposition) : GateStatus :=
  if gateType ∈ alwaysManualGateTypes then .pending else dispositionToStatus disposition

/-- One entry of `decision_history`: the decision that a re-opening erases. -/
def Gate.historyEntry (gate : Gate) : List (String × Value) :=
  [("status", .text gate.status.text),
    ("resolver_id", .ofOption (fun id => .text (PyText.uuidText id)) gate.resolverId),
    ("resolved_at", .ofOption .instant gate.resolvedAt),
    ("resolution_note", .ofOption .text gate.resolutionNote)]

def reopenRejectedGate (table : Table) (gate : Gate) (request : CreateRequest) (disposition : Disposition)
    (now : Nat) : Table × Gate :=
  let entry := gate.historyEntry ++ [("neutral_facts", .ofOption .dict gate.neutralFacts)]
  let history := gate.facts.list "decision_history" ++ [.dict entry]
  let newStatus := submissionStatus request.gateType disposition
  let reopened := { gate.setStatus newStatus now with
    requiresHuman := newStatus == .pending
    resolverId := none
    resolutionNote := none
    resolvedAt := if newStatus = .pending then none else some now
    designatedApproverId := request.designatedApproverId
    neutralFacts := some (Facts.set (request.neutralFacts.getD []) "decision_history" (.list history)) }
  (table.put reopened, reopened)

section Reopen
variable (table : Table) (gate : Gate) (request : CreateRequest) (disposition : Disposition) (now : Nat)

@[simp] theorem reopenRejectedGate_status :
    (reopenRejectedGate table gate request disposition now).2.status =
      submissionStatus request.gateType disposition := by
  simp [reopenRejectedGate]

@[simp] theorem reopenRejectedGate_approvedHeadSha :
    (reopenRejectedGate table gate request disposition now).2.approvedHeadSha = gate.approvedHeadSha := by
  simp [reopenRejectedGate]

end Reopen

def newGate (request : CreateRequest) (disposition : Disposition) (now : Nat) : Gate :=
  let status := submissionStatus request.gateType disposition
  { id := request.gateId, orgId := request.orgId, workItemId := request.workItemId
    workItemType := request.workItemType, gateType := request.gateType
    prNumber := request.prNumber, repoFullName := repoKey request.repoFullName, scopeKey := request.scopeKey
    status, requiresHuman := status == .pending, statusEnteredAt := some now
    neutralFacts := request.neutralFacts
    resolvedAt := if status = .pending then none else some now
    designatedApproverId := request.designatedApproverId }

/-- Idempotent submission: a live slot is returned as it is, a rejected one is
re-opened, and only an empty slot gets a new row. `disposition` is what the
policy tables answer for the submitting member and role. -/
def createGate (table : Table) (request : CreateRequest) (disposition : Disposition) (now : Nat) :
    Except GateError (Table × Gate) :=
  match findGateSlotWithPrFallback table request.toSlot request.prNumber request.repoFullName with
  | (some existing, promoted) =>
    if existing.status ≠ .rejected then .ok (promoted, existing)
    else .ok (reopenRejectedGate promoted existing request disposition now)
  | (none, unchanged) =>
    if unchanged.any (fun gate => gate.id == request.gateId) then .error (.duplicateKey request.gateId)
    else
      let gate := newGate request disposition now
      .ok (unchanged ++ [gate], gate)

section Lookup
variable {table : Table} {slot : Slot} {prNumber : Option Int} {repoFullName : Option String}

/-- What a slot lookup can do: it returns a row of the table, possibly bound to
the pull request it was asked for, and changes nothing else. -/
theorem find_slot_cases {found : Option Gate} {after : Table}
    (lookup : findGateSlotWithPrFallback table slot prNumber repoFullName = (found, after)) :
    (found = none ∧ after = table) ∨
    (∃ gate ∈ table, found = some gate ∧ after = table) ∨
    ∃ gate ∈ table, ∃ pr repo,
      found = some { gate with prNumber := pr, repoFullName := repo } ∧
      after = table.put { gate with prNumber := pr, repoFullName := repo } := by
  unfold findGateSlotWithPrFallback at lookup
  cases prNumber with
  | none =>
    simp only [Prod.mk.injEq] at lookup
    obtain ⟨selected, rfl⟩ := lookup
    cases found with
    | none => exact .inl ⟨rfl, rfl⟩
    | some gate => exact .inr (.inl ⟨gate, List.mem_of_find?_eq_some selected, rfl, rfl⟩)
  | some number =>
    dsimp only at lookup
    split at lookup
    next exact selected =>
      cases lookup
      exact .inr (.inl ⟨exact, List.mem_of_find?_eq_some selected, rfl, rfl⟩)
    next =>
      split at lookup
      next unknown selected =>
        cases lookup
        split at selected
        · exact .inr (.inr ⟨unknown, List.mem_of_find?_eq_some selected, unknown.prNumber, _, rfl, rfl⟩)
        · cases selected
      next =>
        split at lookup
        next unbound selected =>
          cases lookup
          exact .inr (.inr ⟨unbound, List.mem_of_find?_eq_some selected, _, _, rfl, rfl⟩)
        next =>
          cases lookup
          exact .inl ⟨rfl, rfl⟩

theorem find_promoted (table : Table) (gate : Gate) (pr : Option Int) (repo : Option String)
    (selects : Gate → Bool) (absent : table.find? selects = none) (member : gate ∈ table)
    (selected : selects { gate with prNumber := pr, repoFullName := repo } = true) :
    (table.put { gate with prNumber := pr, repoFullName := repo }).find? selects =
      some { gate with prNumber := pr, repoFullName := repo } := by
  have present : { gate with prNumber := pr, repoFullName := repo } ∈
      table.put { gate with prNumber := pr, repoFullName := repo } :=
    List.mem_map.mpr ⟨gate, member, by simp⟩
  cases found : (table.put { gate with prNumber := pr, repoFullName := repo }).find? selects with
  | none => exact absurd selected (by simpa using List.find?_eq_none.mp found _ present)
  | some row =>
    rcases Table.mem_put (List.mem_of_find?_eq_some found) with rfl | old
    · rfl
    · exact absurd (List.find?_some found) (List.find?_eq_none.mp absent row old)

theorem find_slot_again {found : Option Gate} {after : Table}
    (lookup : findGateSlotWithPrFallback table slot prNumber repoFullName = (found, after)) :
    findGateSlotWithPrFallback after slot prNumber repoFullName = (found, after) := by
  cases prNumber with
  | none =>
    cases lookup
    rfl
  | some number =>
    have first := lookup
    unfold findGateSlotWithPrFallback at lookup
    dsimp only at lookup
    split at lookup
    · cases lookup
      exact first
    next absent =>
      split at lookup
      next unknown selected =>
        cases lookup
        split at selected
        · have matched := List.find?_some selected
          simp only [Bool.and_eq_true] at matched
          unfold findGateSlotWithPrFallback
          dsimp only
          rw [find_promoted table unknown _ _ _ absent (List.mem_of_find?_eq_some selected)]
          simp only [Bool.and_eq_true, matched.1.2, beq_self_eq_true, and_true]
          exact matched.1.1
        · cases selected
      next =>
        split at lookup
        next unbound selected =>
          cases lookup
          have matched := List.find?_some selected
          simp only [Bool.and_eq_true] at matched
          unfold findGateSlotWithPrFallback
          dsimp only
          rw [find_promoted table unbound _ _ _ absent (List.mem_of_find?_eq_some selected)]
          simp only [Bool.and_eq_true, beq_self_eq_true, and_true]
          exact matched.1
        next =>
          cases lookup
          exact first

end Lookup

/-- What a submission can do: return the live gate of the slot, re-open its
rejected gate, or fill the empty slot with a new row. -/
theorem create_cases {table after : Table} {gate : Gate} {request : CreateRequest} {disposition : Disposition}
    {now : Nat} (created : createGate table request disposition now = .ok (after, gate)) :
    (findGateSlotWithPrFallback table request.toSlot request.prNumber request.repoFullName = (some gate, after) ∧
      gate.status ≠ .rejected) ∨
    (∃ existing promoted,
      findGateSlotWithPrFallback table request.toSlot request.prNumber request.repoFullName =
        (some existing, promoted) ∧
      existing.status = .rejected ∧
      gate = (reopenRejectedGate promoted existing request disposition now).2 ∧ after = promoted.put gate) ∨
    (findGateSlotWithPrFallback table request.toSlot request.prNumber request.repoFullName = (none, table) ∧
      (∀ row ∈ table, row.id ≠ request.gateId) ∧ gate = newGate request disposition now ∧ after = table ++ [gate]) := by
  unfold createGate at created
  split at created
  next existing promoted lookup =>
    split at created
    next live =>
      cases created
      exact .inl ⟨lookup, live⟩
    next rejected =>
      cases created
      exact .inr (.inl ⟨existing, promoted, lookup, not_not.mp rejected, rfl, rfl⟩)
  next unchanged lookup =>
    obtain rfl : unchanged = table := by
      rcases find_slot_cases lookup with ⟨_, same⟩ | ⟨_, _, found, _⟩ | ⟨_, _, _, _, found, _⟩
      · exact same
      · cases found
      · cases found
    split at created
    · cases created
    next fresh =>
      cases created
      exact .inr (.inr ⟨lookup, by simpa using fresh, rfl, rfl⟩)

/-- A property of gate rows that neither a pull-request binding nor a
submission can break. -/
structure Submittable (valid : Gate → Prop) : Prop where
  bind : ∀ gate pr repo, valid gate → valid { gate with prNumber := pr, repoFullName := repo }
  submit : ∀ request disposition now, valid (newGate request disposition now)
  reopen : ∀ table gate request disposition now, valid gate →
    valid (reopenRejectedGate table gate request disposition now).2

section Preservation
variable {valid : Gate → Prop}

theorem put_preserves {table : Table} {gate : Gate} (kept : ∀ row ∈ table, valid row) (new : valid gate) :
    ∀ row ∈ table.put gate, valid row := by
  intro row member
  rcases Table.mem_put member with rfl | old
  · exact new
  · exact kept row old

theorem find_slot_preserves (stable : Submittable valid) {table after : Table} {slot : Slot}
    {prNumber : Option Int} {repoFullName : Option String} {found : Option Gate}
    (kept : ∀ row ∈ table, valid row)
    (lookup : findGateSlotWithPrFallback table slot prNumber repoFullName = (found, after)) :
    (∀ row ∈ after, valid row) ∧ ∀ gate, found = some gate → valid gate := by
  rcases find_slot_cases lookup with ⟨rfl, rfl⟩ | ⟨gate, member, rfl, rfl⟩ | ⟨gate, member, pr, repo, rfl, rfl⟩
  · exact ⟨kept, by simp⟩
  · refine ⟨kept, ?_⟩
    rintro _ ⟨⟩
    exact kept gate member
  · have bound := stable.bind gate pr repo (kept gate member)
    refine ⟨put_preserves kept bound, ?_⟩
    rintro _ ⟨⟩
    exact bound

/-- A submission keeps every submittable property of the rows, and the row it
returns has it too. -/
theorem create_gate_preserves (stable : Submittable valid) {table after : Table} {gate : Gate}
    {request : CreateRequest} {disposition : Disposition} {now : Nat} (kept : ∀ row ∈ table, valid row)
    (created : createGate table request disposition now = .ok (after, gate)) :
    (∀ row ∈ after, valid row) ∧ valid gate := by
  unfold createGate at created
  split at created
  next existing promoted lookup =>
    obtain ⟨rows, row⟩ := find_slot_preserves stable kept lookup
    split at created
    · cases created
      exact ⟨rows, row _ rfl⟩
    · cases created
      have reopened := stable.reopen promoted existing request disposition now (row existing rfl)
      exact ⟨put_preserves rows reopened, reopened⟩
  next unchanged lookup =>
    have rows := (find_slot_preserves stable kept lookup).1
    split at created
    · cases created
    · cases created
      have fresh := stable.submit request disposition now
      refine ⟨?_, fresh⟩
      intro row member
      rcases List.mem_append.mp member with old | new
      · exact rows row old
      · rw [List.mem_singleton.mp new]
        exact fresh

end Preservation

end Sprintable.Gates
