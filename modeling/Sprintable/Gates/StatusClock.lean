import Mathlib.Data.List.Nodup
import Sprintable.Logic.Keyed
import Sprintable.Gates.HumanFlag

/-! The instant at which a gate entered its status moves exactly when the status
does. One step is compared row by row with the table it started from, so the
rows must be told apart by their primary keys. -/

namespace Sprintable.Gates

def Table.Unique (table : Table) : Prop := (table.map Gate.id).Nodup

section Keys
variable {drafts : Drafts} {table after : Table} {orgId gateId : Uuid} {gate : Gate} {now : Nat}

theorem ids_put (table : Table) (gate : Gate) : (table.put gate).map Gate.id = table.map Gate.id :=
  Keyed.map_key_put table gate

theorem unique_put (unique : table.Unique) (gate : Gate) : (table.put gate).Unique := by
  unfold Table.Unique
  rw [ids_put]
  exact unique

theorem row_of_id (unique : table.Unique) {left right : Gate} (first : left ∈ table) (second : right ∈ table)
    (same : left.id = right.id) : left = right :=
  List.inj_on_of_nodup_map unique first second same

theorem find_slot_ids {slot : Slot} {prNumber : Option Int} {repoFullName : Option String} {found : Option Gate}
    (lookup : findGateSlotWithPrFallback table slot prNumber repoFullName = (found, after)) :
    after.map Gate.id = table.map Gate.id := by
  rcases find_slot_cases lookup with ⟨_, rfl⟩ | ⟨_, _, _, rfl⟩ | ⟨_, _, _, _, _, rfl⟩
  · rfl
  · rfl
  · exact ids_put _ _

/-- The rows keep their keys, and at most one row with a new key has joined them. -/
def Table.Grown (before after : Table) : Prop :=
  after.map Gate.id = before.map Gate.id ∨
    ∃ fresh ∉ before.map Gate.id, after.map Gate.id = before.map Gate.id ++ [fresh]

theorem Table.Grown.put {before : Table} (grown : before.Grown table) (gate : Gate) : before.Grown (table.put gate) := by
  unfold Table.Grown
  rw [ids_put]
  exact grown

theorem Table.Grown.congr {before : Table} (grown : before.Grown after) (keys : before.map Gate.id = table.map Gate.id) :
    table.Grown after := by
  unfold Table.Grown
  rw [← keys]
  exact grown

theorem Table.Grown.mem (grown : table.Grown after) {key : Uuid} (present : key ∈ table.map Gate.id) :
    key ∈ after.map Gate.id := by
  rcases grown with same | ⟨fresh, _, keys⟩
  · rw [same]
    exact present
  · rw [keys]
    exact List.mem_append_left [fresh] present

theorem Table.Grown.unique (grown : table.Grown after) (unique : table.Unique) : after.Unique := by
  unfold Table.Unique
  rcases grown with same | ⟨fresh, absent, keys⟩
  · rw [same]
    exact unique
  · rw [keys]
    exact List.nodup_append.mpr ⟨unique, List.nodup_singleton fresh, fun key member other same => by
      rw [List.mem_singleton.mp same]
      exact fun back => absent (back ▸ member)⟩

theorem create_grown {request : CreateRequest} {disposition : Disposition}
    (created : createGate table request disposition now = .ok (after, gate)) : table.Grown after := by
  rcases create_cases created with ⟨lookup, _⟩ | ⟨existing, promoted, lookup, _, _, rfl⟩ | ⟨_, fresh, rfl, rfl⟩
  · exact .inl (find_slot_ids lookup)
  · exact .inl ((ids_put _ _).trans (find_slot_ids lookup))
  · refine .inr ⟨request.gateId, ?_, List.map_append⟩
    intro member
    obtain ⟨old, present, key⟩ := List.mem_map.mp member
    exact fresh old present key

theorem transition_ids {newStatus : GateStatus} {resolverId : Option Uuid} {note : Option String}
    {reviewedDraft : Option (Uuid × Nat)} {commands : List CommandRequest}
    (executed : transitionGate drafts table orgId gateId newStatus resolverId note reviewedDraft now =
      .ok (after, gate, commands)) : after.map Gate.id = table.map Gate.id := by
  unfold transitionGate at executed
  split at executed
  · cases executed
  split at executed
  · cases executed
  split at executed
  · cases executed
  dsimp only at executed
  split at executed
  · obtain ⟨⟨cascaded, marked, others⟩, cascade, executed⟩ := Runs.bind_ok executed
    cases executed
    unfold approveCascade at cascade
    split at cascade
    · obtain ⟨⟨facts, sealedDraft⟩, _, cascade⟩ := Runs.bind_ok cascade
      dsimp only at cascade
      split at cascade
      all_goals
        cases cascade
        simp only [ids_put]
    · cases cascade
      exact ids_put _ _
  · cases executed
    unfold rejectCascade
    repeat' split
    all_goals simp only [ids_put]
  · cases executed
    exact ids_put _ _

end Keys

/-- The row keeps the status of `old` and the instant of its entry. -/
def SameClock (old row : Gate) : Prop :=
  row.status = old.status ∧ row.statusEnteredAt = old.statusEnteredAt

/-- The row keeps status and instant, or has changed both, the latter to `now`. -/
def Ticked (now : Nat) (old row : Gate) : Prop :=
  SameClock old row ∨ (row.status ≠ old.status ∧ row.statusEnteredAt = some now)

theorem SameClock.refl (gate : Gate) : SameClock gate gate := ⟨rfl, rfl⟩

theorem SameClock.setStatus {old gate : Gate} (same : SameClock old gate) (newStatus : GateStatus) (now : Nat) :
    Ticked now old (gate.setStatus newStatus now) := by
  unfold Gate.setStatus
  split
  · exact .inl same
  next changed => exact .inr ⟨fun back => changed (same.1.trans back.symm), rfl⟩

theorem Ticked.congr {now : Nat} {old gate row : Gate} (ticked : Ticked now old gate) (status : row.status = gate.status)
    (entered : row.statusEnteredAt = gate.statusEnteredAt) : Ticked now old row := by
  unfold Ticked SameClock
  rw [status, entered]
  exact ticked

/-- `relation` holds between every row and the row of `before` that has its key. -/
def FromRow (before : Table) (relation : Gate → Gate → Prop) (row : Gate) : Prop :=
  ∀ old ∈ before, old.id = row.id → relation old row

theorem FromRow.refl {before : Table} (unique : before.Unique) {relation : Gate → Gate → Prop}
    (reflexive : ∀ gate, relation gate gate) : ∀ row ∈ before, FromRow before relation row := by
  intro row member old present same
  rw [row_of_id unique present member same]
  exact reflexive row

theorem FromRow.imp {before : Table} {relation weaker : Gate → Gate → Prop} {row next : Gate} (same : next.id = row.id)
    (from_ : FromRow before relation row) (step : ∀ old, relation old row → weaker old next) :
    FromRow before weaker next :=
  fun old present key => step old (from_ old present (key.trans same))

section Clocks
variable {before table after : Table} {gate : Gate} {now : Nat}

/-- After a decision, a row is as before or has just entered the decided status. -/
def Decided (newStatus : GateStatus) (now : Nat) (old row : Gate) : Prop :=
  SameClock old row ∨ (row.status = newStatus ∧ old.status ≠ newStatus ∧ row.statusEnteredAt = some now)

theorem Decided.ticked {newStatus : GateStatus} {old row : Gate} (decided : Decided newStatus now old row) :
    Ticked now old row := by
  rcases decided with same | ⟨status, different, entered⟩
  · exact .inl same
  · exact .inr ⟨fun back => different (back.symm.trans status), entered⟩

theorem Decided.congr {newStatus : GateStatus} {old row next : Gate} (decided : Decided newStatus now old row)
    (status : next.status = row.status) (entered : next.statusEnteredAt = row.statusEnteredAt) :
    Decided newStatus now old next := by
  unfold Decided SameClock
  rw [status, entered]
  exact decided

theorem Decided.setStatus {newStatus : GateStatus} {old row : Gate} (decided : Decided newStatus now old row)
    (different : row.status ≠ newStatus) : Decided newStatus now old (row.setStatus newStatus now) := by
  unfold Gate.setStatus
  rw [if_neg different]
  rcases decided with same | ⟨status, _, _⟩
  · exact .inr ⟨rfl, same.1 ▸ different, rfl⟩
  · exact absurd status different

theorem legal_changes {fromStatus toStatus : GateStatus} (legal : isValidTransition fromStatus toStatus = true) :
    fromStatus ≠ toStatus := by
  rintro rfl
  cases fromStatus <;> simp [isValidTransition, validTransitions] at legal

theorem decided_resolvable (before : Table) (newStatus : GateStatus) (now : Nat) :
    Resolvable newStatus now (FromRow before (Decided newStatus now)) where
  resolve gate resolverId note legal from_ :=
    FromRow.imp (by simp [Gate.resolve]) from_ fun _ decided =>
      Decided.congr (Decided.setStatus decided (legal_changes legal)) rfl rfl
  note gate note from_ := FromRow.imp rfl from_ fun _ decided => Decided.congr decided rfl rfl
  mark gate facts _ from_ := FromRow.imp rfl from_ fun _ decided => Decided.congr decided rfl rfl
  cascade target recipe note closing waiting from_ := by
    have different : target.status ≠ newStatus := by
      rw [waiting]
      rcases closing with rfl | rfl <;> simp
    exact FromRow.imp (by simp [Gate.cascadeFrom]) from_ fun _ decided =>
      Decided.congr (Decided.setStatus decided different) rfl rfl

end Clocks

/-- In this step the instant of every gate moved exactly if its status did. -/
def StatusClock (before after : Table) : Prop :=
  ∀ old ∈ before, ∀ row ∈ after, row.id = old.id →
    (row.statusEnteredAt ≠ old.statusEnteredAt ↔ row.status ≠ old.status)

/-- The clock reading is not the instant of an earlier entry. -/
def freshReading (table : Table) (now : Nat) : Bool :=
  table.all fun gate => gate.statusEnteredAt != some now

theorem clock_of_ticked {before after : Table} {now : Nat} (fresh : freshReading before now = true)
    (ticked : ∀ row ∈ after, FromRow before (Ticked now) row) : StatusClock before after := by
  intro old present row member key
  have unread : old.statusEnteredAt ≠ some now := by
    have := List.all_eq_true.mp fresh old present
    simpa using this
  rcases ticked row member old present key.symm with ⟨status, entered⟩ | ⟨status, entered⟩
  · simp [status, entered]
  · rw [entered]
    exact ⟨fun _ => status, fun _ same => unread same.symm⟩

section Steps
variable {drafts : Drafts} {table after : Table} {orgId gateId : Uuid} {gate : Gate} {now : Nat}

theorem put_ticked (unique : table.Unique) (found : table.lookup orgId gateId = some gate) {row : Gate}
    (key : row.id = gate.id) (ticked : Ticked now gate row) :
    ∀ other ∈ table.put row, FromRow table (Ticked now) other := by
  have quiet : ∀ other ∈ table, FromRow table (Ticked now) other := FromRow.refl unique fun other => .inl (.refl other)
  apply put_preserves quiet
  intro old present same
  rw [row_of_id unique present (Table.lookup_mem found) (same.trans key)]
  exact ticked

theorem transition_ticked (unique : table.Unique) {newStatus : GateStatus} {resolverId : Option Uuid}
    {note : Option String} {reviewedDraft : Option (Uuid × Nat)} {commands : List CommandRequest}
    (executed : transitionGate drafts table orgId gateId newStatus resolverId note reviewedDraft now =
      .ok (after, gate, commands)) :
    (∀ row ∈ after, FromRow table (Ticked now) row) ∧ FromRow table (Ticked now) gate := by
  have start : ∀ row ∈ table, FromRow table (Decided newStatus now) row :=
    FromRow.refl unique fun other => .inl (.refl other)
  obtain ⟨rows, row⟩ := transition_preserves (decided_resolvable table newStatus now) start executed
  exact ⟨fun other member => FromRow.imp rfl (rows other member) fun _ => Decided.ticked,
    FromRow.imp rfl row fun _ => Decided.ticked⟩

theorem undo_ticked (unique : table.Unique) {actorId : Uuid}
    (executed : undoGateResolution table orgId gateId actorId now = .ok (after, gate)) :
    ∀ row ∈ after, FromRow table (Ticked now) row := by
  unfold undoGateResolution at executed
  split at executed
  · cases executed
  next row found =>
    repeat' split at executed
    all_goals cases executed
    exact put_ticked unique found (by simp) ((SameClock.refl row).setStatus .pending now)

theorem void_ticked (unique : table.Unique) {voiderId : Uuid} {reason : String}
    (executed : voidGate table orgId gateId voiderId reason now = .ok (after, gate)) :
    ∀ row ∈ after, FromRow table (Ticked now) row := by
  unfold voidGate at executed
  split at executed
  · cases executed
  next row found =>
    repeat' split at executed
    all_goals cases executed
    exact put_ticked unique found (by simp) ((SameClock.refl row).setStatus .voided now)

theorem hold_ticked (unique : table.Unique) {holderId : Uuid} {reason : Option String} {heldUntil : Option Nat}
    (executed : holdGate table orgId gateId holderId reason heldUntil now = .ok (after, gate)) :
    ∀ row ∈ after, FromRow table (Ticked now) row := by
  unfold holdGate at executed
  split at executed
  · cases executed
  next row found =>
    repeat' split at executed
    all_goals cases executed
    exact put_ticked unique found (by simp) ((SameClock.refl row).setStatus .held now)

theorem unhold_ticked (unique : table.Unique)
    (executed : unholdGate table orgId gateId now = .ok (after, gate)) :
    ∀ row ∈ after, FromRow table (Ticked now) row := by
  unfold unholdGate at executed
  split at executed
  · cases executed
  next row found =>
    repeat' split at executed
    all_goals cases executed
    exact put_ticked unique found (by simp) ((SameClock.refl row).setStatus .pending now)

theorem override_ticked (unique : table.Unique) {ownerId : Uuid} {decision : GateStatus} {reason : String}
    {commands : List CommandRequest}
    (executed : overrideGate drafts table orgId gateId ownerId decision reason now = .ok (after, gate, commands)) :
    ∀ row ∈ after, FromRow table (Ticked now) row := by
  unfold overrideGate at executed
  split at executed
  · cases executed
  split at executed
  · cases executed
  split at executed
  · cases executed
  split at executed
  · cases executed
  obtain ⟨⟨cascaded, decided, others⟩, transition, executed⟩ := Runs.bind_ok executed
  cases executed
  obtain ⟨rows, row⟩ := transition_ticked unique transition
  exact put_preserves rows (FromRow.imp rfl row fun _ ticked => Ticked.congr ticked rfl rfl)

theorem observe_head_clock (gate : Gate) (prUpdatedAt : Option Nat) :
    (gate.observeHead prUpdatedAt).1.id = gate.id ∧ SameClock gate (gate.observeHead prUpdatedAt).1 := by
  unfold Gate.observeHead
  split <;> exact ⟨rfl, rfl, rfl⟩

theorem reopen_if_new_sha_ticked (unique : table.Unique) {newHeadSha : String} {prUpdatedAt : Option Nat}
    {reopened : Bool}
    (executed : reopenGateIfNewSha table orgId gateId newHeadSha prUpdatedAt now = .ok (after, reopened)) :
    ∀ row ∈ after, FromRow table (Ticked now) row := by
  unfold reopenGateIfNewSha at executed
  split at executed
  · cases executed
  next row found =>
    obtain ⟨key, observed⟩ := observe_head_clock row prUpdatedAt
    dsimp only at executed
    repeat' split at executed
    all_goals cases executed
    · exact FromRow.refl unique fun other => .inl (.refl other)
    · exact put_ticked unique found key (.inl observed)
    · exact put_ticked unique found key (.inl observed)
    · exact put_ticked unique found key (.inl observed)
    · exact put_ticked unique found (by simpa using key) (Ticked.congr (observed.setStatus .pending now) rfl rfl)

theorem submit_draft_clock (unique : table.Unique) {neutralFacts : Facts} {version : Nat} {scheduledAt : Option Nat}
    (executed : sealSubmission table orgId gateId neutralFacts version scheduledAt = .ok (after, gate)) :
    ∀ row ∈ after, FromRow table SameClock row := by
  unfold sealSubmission at executed
  split at executed
  · cases executed
  next row found =>
    cases executed
    have quiet : ∀ other ∈ table, FromRow table SameClock other := FromRow.refl unique .refl
    exact put_preserves quiet (FromRow.imp rfl (quiet row (Table.lookup_mem found)) fun _ same => same)

end Steps

section Submissions
variable {table after : Table} {gate : Gate} {now : Nat}

theorem find_slot_clock (unique : table.Unique) {slot : Slot} {prNumber : Option Int} {repoFullName : Option String}
    {found : Option Gate} (lookup : findGateSlotWithPrFallback table slot prNumber repoFullName = (found, after)) :
    (∀ row ∈ after, FromRow table SameClock row) ∧ ∀ gate, found = some gate → FromRow table SameClock gate := by
  have start : ∀ row ∈ table, FromRow table SameClock row := FromRow.refl unique .refl
  rcases find_slot_cases lookup with ⟨rfl, rfl⟩ | ⟨gate, member, rfl, rfl⟩ | ⟨gate, member, pr, repo, rfl, rfl⟩
  · exact ⟨start, by simp⟩
  · refine ⟨start, ?_⟩
    rintro _ ⟨⟩
    exact start gate member
  · have bound : FromRow table SameClock { gate with prNumber := pr, repoFullName := repo } :=
      FromRow.imp rfl (start gate member) fun _ same => same
    refine ⟨put_preserves start bound, ?_⟩
    rintro _ ⟨⟩
    exact bound

/-- After a submission, a row is as before or was re-opened from a rejection. -/
def Submitted (now : Nat) (old row : Gate) : Prop :=
  SameClock old row ∨
    (old.status = .rejected ∧ (row.status = .pending ∨ row.status = .autoPassed) ∧ row.statusEnteredAt = some now)

theorem submission_status_cases (gateType : GateType) (disposition : Disposition) :
    submissionStatus gateType disposition = .pending ∨ submissionStatus gateType disposition = .autoPassed ∨
      submissionStatus gateType disposition = .rejected := by
  unfold submissionStatus
  split
  · exact .inl rfl
  · cases disposition <;> simp [dispositionToStatus]

theorem reopened_submitted (promoted : Table) {old existing : Gate} (request : CreateRequest) (disposition : Disposition)
    (rejected : existing.status = .rejected) (same : SameClock old existing) :
    Submitted now old (reopenRejectedGate promoted existing request disposition now).2 := by
  have was : old.status = .rejected := same.1.symm.trans rejected
  have open_ (waiting : submissionStatus request.gateType disposition ≠ .rejected) :
      (reopenRejectedGate promoted existing request disposition now).2.statusEnteredAt = some now := by
    simp only [reopenRejectedGate, Gate.setStatus]
    rw [if_neg (by rw [rejected]; exact waiting.symm)]
  rcases submission_status_cases request.gateType disposition with status | status | status
  · exact .inr ⟨was, .inl (by simp [status]), open_ (by simp [status])⟩
  · exact .inr ⟨was, .inr (by simp [status]), open_ (by simp [status])⟩
  · refine .inl ⟨by simp [status, was], ?_⟩
    simp only [reopenRejectedGate, Gate.setStatus]
    rw [if_pos (rejected.trans status.symm)]
    exact same.2

/-- A submission gives every row of the table, and the row it returns, a clock
that ticked with a re-opening. -/
theorem create_submitted (unique : table.Unique) {request : CreateRequest} {disposition : Disposition}
    (created : createGate table request disposition now = .ok (after, gate)) :
    (∀ row ∈ after, FromRow table (Submitted now) row) ∧ FromRow table (Submitted now) gate := by
  have quiet {row : Gate} (same : FromRow table SameClock row) : FromRow table (Submitted now) row :=
    FromRow.imp rfl same fun _ => .inl
  rcases create_cases created with ⟨lookup, _⟩ | ⟨existing, promoted, lookup, rejected, rfl, rfl⟩ | ⟨_, fresh, rfl, rfl⟩
  · obtain ⟨rows, row⟩ := find_slot_clock unique lookup
    exact ⟨fun other member => quiet (rows other member), quiet (row gate rfl)⟩
  · obtain ⟨rows, row⟩ := find_slot_clock unique lookup
    have reopened : FromRow table (Submitted now) (reopenRejectedGate promoted existing request disposition now).2 :=
      FromRow.imp (by simp [reopenRejectedGate]) (row existing rfl) fun _ same =>
        reopened_submitted promoted request disposition rejected same
    exact ⟨put_preserves (fun other member => quiet (rows other member)) reopened, reopened⟩
  · have new : FromRow table (Submitted now) (newGate request disposition now) :=
      fun old present key => absurd key (fresh old present)
    refine ⟨fun row member => ?_, new⟩
    rcases List.mem_append.mp member with old | same
    · exact quiet (FromRow.refl unique .refl row old)
    · rw [List.mem_singleton.mp same]
      exact new

theorem Submitted.ticked {old row : Gate} (submitted : Submitted now old row) : Ticked now old row := by
  rcases submitted with same | ⟨was, status, entered⟩
  · exact .inl same
  · refine .inr ⟨?_, entered⟩
    rw [was]
    rcases status with status | status <;> simp [status]

end Submissions

/-- The evidence withdraws a standing automatic pass: the gate of the slot is
auto-passed with an anchored head commit, and the verdict is not to merge. -/
def MergeEvidence.withdrawsPass (evidence : MergeEvidence) (table : Table) : Bool :=
  evidence.participation.isSome && !evidence.noSubstance && (evidence.verdict .autoPassed).1 != .autoMerge &&
    (findGateSlotWithPrFallback table evidence.slot evidence.dbPrNumber evidence.dbRepoFullName).1.any fun prior =>
      PyText.truthy prior.approvedHeadSha && prior.status == .autoPassed

section Evaluation
variable {table after : Table} {evidence : MergeEvidence} {gate : Gate} {now : Nat}

/-- After a resubmission, a row is as before or was re-opened from a closed state. -/
def Resubmitted (now : Nat) (old row : Gate) : Prop :=
  SameClock old row ∨ ((old.status = .rejected ∨ old.status = .voided) ∧
    (row.status = .pending ∨ row.status = .autoPassed) ∧ row.statusEnteredAt = some now)

theorem resubmit_resubmitted {old : Gate} (submitted : Submitted now old gate) (existed : Bool) (facts : Facts) :
    Resubmitted now old (gate.resubmit existed facts now) := by
  unfold Gate.resubmit
  split
  next closed =>
    rcases submitted with same | ⟨_, status, _⟩
    · refine .inr ⟨same.1 ▸ closed, .inl (by simp), ?_⟩
      have different : gate.status ≠ .pending := by rcases closed with status | status <;> simp [status]
      simp [Gate.setStatus, different]
    · rcases status with status | status <;> simp [status] at closed
  · have live : Resubmitted now old gate := by
      rcases submitted with same | ⟨was, status, entered⟩
      · exact .inl same
      · exact .inr ⟨.inl was, status, entered⟩
    split
    · exact live
    · exact live

/-- Moving the anchor of a row that was not auto-passed before ticks as a whole:
a pass that this evaluation granted itself may still be withdrawn by it. -/
theorem anchor_ticked {old : Gate} (resubmitted : Resubmitted now old gate) {decision : MergeDecision}
    {reason : DecisionReason} {headSha : Option String}
    (stands : SameClock old gate → gate.status = .autoPassed → PyText.truthy gate.approvedHeadSha →
      decision = .autoMerge) :
    Ticked now old ((gate.recordVerdict decision reason now).anchor decision headSha) := by
  obtain ⟨status, -, -, -, sha⟩ := set_evidence_status_fields gate decision.evidenceStatus now
  have entered : (gate.recordVerdict decision reason now).statusEnteredAt = gate.statusEnteredAt := by
    unfold Gate.recordVerdict Gate.setEvidenceStatus
    split <;> rfl
  have status : (gate.recordVerdict decision reason now).status = gate.status := status
  have sha : (gate.recordVerdict decision reason now).approvedHeadSha = gate.approvedHeadSha := sha
  have kept : Ticked now old gate := by
    rcases resubmitted with same | ⟨was, now_, instant⟩
    · exact .inl same
    · refine .inr ⟨?_, instant⟩
      rcases was with was | was <;> rcases now_ with now_ | now_ <;> simp [was, now_]
  unfold Gate.anchor
  split
  · split <;> exact Ticked.congr kept status entered
  next withdrawn =>
    split
    next anchored =>
      rw [status, sha] at anchored
      rcases resubmitted with same | ⟨was, -, instant⟩
      · exact absurd (stands same anchored.1 anchored.2) withdrawn
      · refine .inr ⟨?_, entered.trans instant⟩
        rcases was with was | was <;> simp [was]
    · exact Ticked.congr kept status entered

theorem created_standing {memberId : Uuid} {existing : Option Gate}
    (lookup : findGateSlotWithPrFallback table evidence.slot evidence.dbPrNumber evidence.dbRepoFullName = (existing, table))
    (created : createGate table (evidence.request memberId) evidence.disposition now = .ok (after, gate))
    (anchored : PyText.truthy gate.approvedHeadSha) {old : Gate} (present : old ∈ table) (key : old.id = gate.id)
    (passed : old.status = .autoPassed) (unique : table.Unique) :
    ∃ prior, existing = some prior ∧ PyText.truthy prior.approvedHeadSha ∧ prior.status = .autoPassed := by
  have lookup : findGateSlotWithPrFallback table (evidence.request memberId).toSlot (evidence.request memberId).prNumber
      (evidence.request memberId).repoFullName = (existing, table) := lookup
  rcases create_cases created with ⟨found, _⟩ | ⟨prior, promoted, found, rejected, rfl, rfl⟩ | ⟨_, fresh, rfl, rfl⟩
  · obtain ⟨rfl, rfl⟩ := Prod.mk.inj (lookup.symm.trans found)
    have same := (find_slot_clock unique found).2 gate rfl old present key
    exact ⟨gate, rfl, anchored, same.1.trans passed⟩
  · have same := (find_slot_clock unique found).2 prior rfl old present (key.trans (by simp [reopenRejectedGate]))
    rw [← same.1, rejected] at passed
    cases passed
  · exact absurd key (fresh old present)

theorem evaluate_ticked (unique : table.Unique) {answer : MergeGateDecision}
    (stands : evidence.withdrawsPass table = false)
    (executed : evaluateMergeGate table evidence now = .ok (after, answer)) :
    ∀ row ∈ after, FromRow table (Ticked now) row := by
  have quiet : ∀ row ∈ table, FromRow table (Ticked now) row := FromRow.refl unique fun other => .inl (.refl other)
  unfold evaluateMergeGate at executed
  cases participation : evidence.participation with
  | none =>
    rw [participation] at executed
    cases executed
    exact quiet
  | some memberId =>
    rw [participation] at executed
    dsimp only at executed
    split at executed
    · cases executed
      exact quiet
    next substance =>
      cases lookup : findGateSlotWithPrFallback table evidence.slot evidence.dbPrNumber evidence.dbRepoFullName with
      | mk existing promoted =>
        rw [lookup] at executed
        obtain ⟨⟨submitted, gate⟩, created, executed⟩ := Runs.bind_ok executed
        cases executed
        have promotedUnique : Table.Unique promoted := by
          unfold Table.Unique
          rw [find_slot_ids lookup]
          exact unique
        -- A row of the promoted table has the clock of its row in the first table.
        have origin := (find_slot_clock unique lookup).1
        have back {relation : Gate → Gate → Prop} {row : Gate} (from_ : FromRow promoted relation row)
            (clock : ∀ first middle, SameClock first middle → relation middle row → Ticked now first row) :
            FromRow table (Ticked now) row := by
          intro old present key
          have keys : old.id ∈ promoted.map Gate.id := by
            rw [find_slot_ids lookup]
            exact List.mem_map_of_mem present
          obtain ⟨middle, member, same⟩ := List.mem_map.mp keys
          exact clock old middle (origin middle member old present same.symm) (from_ middle member (same.trans key))
        have shift {first middle row : Gate} (same : SameClock first middle) (ticked : Ticked now middle row) :
            Ticked now first row := by
          unfold Ticked SameClock at ticked ⊢
          rw [← same.1, ← same.2]
          exact ticked
        obtain ⟨rows, row⟩ := create_submitted promotedUnique created
        apply put_preserves
        · exact fun other member => back (rows other member) fun _ _ same submitted => shift same submitted.ticked
        · intro old present key
          have name : old.id = gate.id := key.trans (id_of_core ((verdict_core _ _ _ _ now).trans (resubmit_core gate _ _ now)))
          have keys : old.id ∈ promoted.map Gate.id := by
            rw [find_slot_ids lookup]
            exact List.mem_map_of_mem present
          obtain ⟨middle, member, same⟩ := List.mem_map.mp keys
          have clock := origin middle member old present same.symm
          refine shift clock (anchor_ticked (resubmit_resubmitted (row middle member (same.trans name)) _ _) ?_)
          intro unchanged passed anchored
          obtain ⟨-, sha⟩ := resubmit_anchored passed
          have wasPassed : middle.status = .autoPassed := unchanged.1.symm.trans passed
          obtain ⟨prior, rfl, priorAnchored, priorPassed⟩ :=
            created_standing (find_slot_again lookup) created (sha ▸ anchored) member (same.trans name) wasPassed
              promotedUnique
          rw [passed]
          by_contra withdrawn
          simp only [MergeEvidence.withdrawsPass, participation, lookup, Option.any_some, priorAnchored,
            priorPassed] at stands
          simp_all

end Evaluation

namespace GateWrite

/-- The clock reading that an operation takes; the seal of a draft takes none. -/
def now : GateWrite → Option Nat
  | .operation (.create _ _ now) => some now
  | .operation (.transition _ _ _ _ _ _ _ now) => some now
  | .operation (.undo _ _ _ now) => some now
  | .operation (.hold _ _ _ _ _ now) => some now
  | .operation (.unhold _ _ now) => some now
  | .operation (.void _ _ _ _ now) => some now
  | .operation (.override _ _ _ _ _ _ now) => some now
  | .operation (.evaluateMerge _ now) => some now
  | .operation (.reopenIfNewSha _ _ _ _ now) => some now
  | .transition _ _ _ _ _ _ _ now => some now
  | .submitDraft _ _ _ _ _ => none
  | .withdraw _ _ _ _ _ _ _ _ now => some now

/-- The operation writes the status through `set_gate_status` only: it neither
withdraws a standing automatic pass nor closes a pending gate in bulk. -/
def setsStatus (table : Table) : GateWrite → Bool
  | .operation (.evaluateMerge evidence _) => !evidence.withdrawsPass table
  | .withdraw runs approvals orgId storyId stepRunId actorId actor _ _ =>
    match Lines.withdrawable ⟨table, runs, approvals⟩ orgId storyId stepRunId actorId actor with
    | .ok run => !table.any (run.closes orgId)
    | .error _ => true
  | _ => true

/-- The operation takes a reading that no gate carries, and sets the status by the rule. -/
def keepsClock (table : Table) (write : GateWrite) : Bool :=
  write.now.all (freshReading table) && write.setsStatus table

theorem operation_grown {table after : Table} {operation : GateOperation}
    (executed : operation.attempt table = .ok after) : table.Grown after := by
  have start : table.Grown table := .inl rfl
  cases operation with
  | create request disposition now =>
    obtain ⟨_, created, rfl⟩ := Runs.map_ok executed
    exact create_grown created
  | transition drafts orgId gateId decision resolverId note reviewedDraft now =>
    obtain ⟨_, decided, rfl⟩ := Runs.map_ok executed
    exact .inl (transition_ids decided)
  | undo orgId gateId actorId now =>
    obtain ⟨_, undone, rfl⟩ := Runs.map_ok executed
    unfold undoGateResolution at undone
    repeat' split at undone
    all_goals cases undone
    exact start.put _
  | hold orgId gateId holderId reason heldUntil now =>
    obtain ⟨_, held, rfl⟩ := Runs.map_ok executed
    unfold holdGate at held
    repeat' split at held
    all_goals cases held
    exact start.put _
  | unhold orgId gateId now =>
    obtain ⟨_, resumed, rfl⟩ := Runs.map_ok executed
    unfold unholdGate at resumed
    repeat' split at resumed
    all_goals cases resumed
    exact start.put _
  | void orgId gateId voiderId reason now =>
    obtain ⟨_, voided, rfl⟩ := Runs.map_ok executed
    unfold voidGate at voided
    repeat' split at voided
    all_goals cases voided
    exact start.put _
  | override drafts orgId gateId ownerId decision reason now =>
    obtain ⟨_, overridden, rfl⟩ := Runs.map_ok executed
    unfold overrideGate at overridden
    repeat' split at overridden
    all_goals try cases overridden
    obtain ⟨_, transition, overridden⟩ := Runs.bind_ok overridden
    cases overridden
    exact .inl ((ids_put _ _).trans (transition_ids transition))
  | evaluateMerge evidence now =>
    obtain ⟨_, evaluated, rfl⟩ := Runs.map_ok executed
    unfold evaluateMergeGate at evaluated
    split at evaluated
    · cases evaluated
      exact start
    split at evaluated
    · cases evaluated
      exact start
    cases lookup : findGateSlotWithPrFallback table evidence.slot evidence.dbPrNumber evidence.dbRepoFullName with
    | mk existing promoted =>
      rw [lookup] at evaluated
      obtain ⟨_, created, evaluated⟩ := Runs.bind_ok evaluated
      cases evaluated
      exact ((create_grown created).congr (find_slot_ids lookup)).put _
  | reopenIfNewSha orgId gateId newHeadSha prUpdatedAt now =>
    obtain ⟨_, reopened, rfl⟩ := Runs.map_ok executed
    unfold reopenGateIfNewSha at reopened
    dsimp only at reopened
    repeat' split at reopened
    all_goals cases reopened
    · exact start
    · exact start.put _
    · exact start.put _
    · exact start.put _
    · exact start.put _

theorem step_grown (table : Table) (write : GateWrite) : table.Grown (step table write) := by
  have start : table.Grown table := .inl rfl
  unfold step Runs.settle
  split
  next after executed =>
    cases write with
    | operation single => exact operation_grown executed
    | transition drafts orgId gateId newStatus resolverId note reviewedDraft now =>
      obtain ⟨_, decided, rfl⟩ := Runs.map_ok executed
      exact .inl (transition_ids decided)
    | submitDraft orgId gateId neutralFacts version scheduledAt =>
      obtain ⟨_, submitted, rfl⟩ := Runs.map_ok executed
      unfold sealSubmission at submitted
      split at submitted
      all_goals cases submitted
      exact start.put _
    | withdraw runs approvals orgId storyId stepRunId actorId actor reason now =>
      obtain rfl := Except.ok.inj executed
      obtain ⟨closes, -, rows⟩ := withdraw_gates ⟨table, runs, approvals⟩ orgId storyId stepRunId actorId actor reason now
      left
      rw [rows, List.map_map]
      apply List.map_congr_left
      intro gate _
      simp only [Function.comp_apply]
      split <;> rfl
  · exact start

theorem step_unique (table : Table) (write : GateWrite) (unique : table.Unique) : (step table write).Unique :=
  (step_grown table write).unique unique

theorem operation_ticked {table after : Table} {operation : GateOperation} (unique : table.Unique)
    (sets : setsStatus table (.operation operation) = true) (executed : operation.attempt table = .ok after) :
    ∃ reading, (GateWrite.operation operation).now = some reading ∧ ∀ row ∈ after, FromRow table (Ticked reading) row := by
  cases operation with
  | create request disposition now =>
    obtain ⟨_, created, rfl⟩ := Runs.map_ok executed
    exact ⟨now, rfl, fun row member => FromRow.imp rfl ((create_submitted unique created).1 row member) fun _ => Submitted.ticked⟩
  | transition drafts orgId gateId decision resolverId note reviewedDraft now =>
    obtain ⟨_, decided, rfl⟩ := Runs.map_ok executed
    exact ⟨now, rfl, (transition_ticked unique decided).1⟩
  | undo orgId gateId actorId now =>
    obtain ⟨_, undone, rfl⟩ := Runs.map_ok executed
    exact ⟨now, rfl, undo_ticked unique undone⟩
  | hold orgId gateId holderId reason heldUntil now =>
    obtain ⟨_, held, rfl⟩ := Runs.map_ok executed
    exact ⟨now, rfl, hold_ticked unique held⟩
  | unhold orgId gateId now =>
    obtain ⟨_, resumed, rfl⟩ := Runs.map_ok executed
    exact ⟨now, rfl, unhold_ticked unique resumed⟩
  | void orgId gateId voiderId reason now =>
    obtain ⟨_, voided, rfl⟩ := Runs.map_ok executed
    exact ⟨now, rfl, void_ticked unique voided⟩
  | override drafts orgId gateId ownerId decision reason now =>
    obtain ⟨_, overridden, rfl⟩ := Runs.map_ok executed
    exact ⟨now, rfl, override_ticked unique overridden⟩
  | evaluateMerge evidence now =>
    obtain ⟨_, evaluated, rfl⟩ := Runs.map_ok executed
    exact ⟨now, rfl, evaluate_ticked unique (by simpa [setsStatus] using sets) evaluated⟩
  | reopenIfNewSha orgId gateId newHeadSha prUpdatedAt now =>
    obtain ⟨_, reopened, rfl⟩ := Runs.map_ok executed
    exact ⟨now, rfl, reopen_if_new_sha_ticked unique reopened⟩

theorem step_clock (table : Table) (write : GateWrite) (kept : write.keepsClock table = true) (unique : table.Unique) :
    StatusClock table (step table write) := by
  simp only [keepsClock, Bool.and_eq_true] at kept
  obtain ⟨fresh, sets⟩ := kept
  have still : StatusClock table table := by
    intro old present row member key
    rw [row_of_id unique member present key]
    simp
  unfold step Runs.settle
  split
  next after executed =>
    cases write with
    | operation single =>
      obtain ⟨reading, taken, ticked⟩ := operation_ticked unique sets executed
      rw [taken] at fresh
      exact clock_of_ticked fresh ticked
    | transition drafts orgId gateId newStatus resolverId note reviewedDraft now =>
      obtain ⟨_, decided, rfl⟩ := Runs.map_ok executed
      exact clock_of_ticked fresh (transition_ticked unique decided).1
    | submitDraft orgId gateId neutralFacts version scheduledAt =>
      obtain ⟨_, submitted, rfl⟩ := Runs.map_ok executed
      intro old present row member key
      rcases submit_draft_clock unique submitted row member old present key.symm with ⟨status, entered⟩
      simp [status, entered]
    | withdraw runs approvals orgId storyId stepRunId actorId actor reason now =>
      obtain rfl := Except.ok.inj executed
      unfold Lines.withdrawPendingRun
      simp only [setsStatus] at sets
      split
      · exact still
      next run selected =>
        rw [selected] at sets
        have quiet : ∀ gate ∈ table, run.closes orgId gate = false := by simpa using sets
        have rows : (table.map fun gate => if run.closes orgId gate then Lines.Gate.withdraw gate actorId now else gate) =
            table := by
          conv_rhs => rw [← List.map_id table]
          apply List.map_congr_left
          intro gate member
          rw [quiet gate member]
          rfl
        dsimp only
        rw [rows]
        exact still
  · exact still

end GateWrite

/-- In every run that closes no pending gate in bulk, withdraws no standing
automatic pass and reads its clock afresh, the instant of each gate moves in a
step exactly if its status changes in that step. -/
theorem status_clock_ticks (writes : List GateWrite)
    (kept : Runs.Throughout GateWrite.step (fun table write => write.keepsClock table = true) [] writes) :
    Runs.Throughout GateWrite.step (fun table write => StatusClock table (GateWrite.step table write)) [] writes := by
  have initial : Table.Unique [] := List.nodup_nil
  exact kept.carry (fun table write _ unique => GateWrite.step_unique table write unique) initial
    fun table write guard unique => GateWrite.step_clock table write guard unique

/-- A run that meets the condition: a merge gate is evaluated, held and released. -/
theorem status_clock_ticks_hold :
    Runs.Throughout GateWrite.step (fun table write => StatusClock table (GateWrite.step table write)) []
      [.operation (.evaluateMerge (sampleEvidence "failure") 100), .operation (.hold 1 4 9 none none 150),
        .operation (.unhold 1 4 160)] := by
  apply status_clock_ticks
  decide +kernel

/-- The withdrawal of an anchored automatic pass changes the status alone. -/
theorem withdrawn_pass_keeps_clock :
    ¬ Runs.Throughout GateWrite.step (fun table write => StatusClock table (GateWrite.step table write)) []
      [.operation (.evaluateMerge (sampleEvidence "success") 100),
        .operation (.evaluateMerge (sampleEvidence "failure") 200)] := by
  rintro ⟨-, clock, -⟩
  have moved : (GateWrite.step [] (.operation (.evaluateMerge (sampleEvidence "success") 100))).any (fun old =>
      (GateWrite.step (GateWrite.step [] (.operation (.evaluateMerge (sampleEvidence "success") 100)))
        (.operation (.evaluateMerge (sampleEvidence "failure") 200))).any fun row =>
          row.id == old.id && row.statusEnteredAt == old.statusEnteredAt && row.status != old.status) = true := by
    decide +kernel
  obtain ⟨old, present, moved⟩ := List.any_eq_true.mp moved
  obtain ⟨row, member, shape⟩ := List.any_eq_true.mp moved
  simp only [Bool.and_eq_true, beq_iff_eq, bne_iff_ne] at shape
  exact (clock old present row member shape.1.1).mpr shape.2 shape.1.2

end Sprintable.Gates
