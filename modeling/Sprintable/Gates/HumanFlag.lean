import Sprintable.Gates.Writes

/-! Gates of an always-manual type wait for a human, and their flag says so as
long as they are open. The cascade that decides a destination gate clears the
flag, so the undo of such a decision is the one way back to pending without it. -/

namespace Sprintable.Gates

/-- An open gate of an always-manual type asks for a human. A held gate counts as
open: its release does not touch the flag. -/
def Gate.AsksHuman (gate : Gate) : Prop :=
  gate.gateType ∈ alwaysManualGateTypes → gate.status = .pending ∨ gate.status = .held → gate.requiresHuman = true

namespace Gate.AsksHuman

theorem of_closed {gate : Gate} (waiting : gate.status ≠ .pending) (paused : gate.status ≠ .held) : gate.AsksHuman := by
  rintro _ (open_ | open_)
  · exact absurd open_ waiting
  · exact absurd open_ paused

theorem congr {gate other : Gate} (asks : gate.AsksHuman) (type : other.gateType = gate.gateType)
    (status : other.status = gate.status) (flag : other.requiresHuman = gate.requiresHuman) : other.AsksHuman := by
  intro manual open_
  rw [flag]
  exact asks (type ▸ manual) (status ▸ open_)

theorem move {gate other : Gate} (asks : gate.AsksHuman) (type : other.gateType = gate.gateType)
    (wasOpen : gate.status = .pending ∨ gate.status = .held) (flag : other.requiresHuman = gate.requiresHuman) :
    other.AsksHuman := by
  intro manual _
  rw [flag]
  exact asks (type ▸ manual) wasOpen

end Gate.AsksHuman

@[simp] theorem setStatus_requiresHuman (gate : Gate) (newStatus : GateStatus) (now : Nat) :
    (gate.setStatus newStatus now).requiresHuman = gate.requiresHuman := by
  unfold Gate.setStatus
  split <;> rfl

@[simp] theorem setStatus_gateType (gate : Gate) (newStatus : GateStatus) (now : Nat) :
    (gate.setStatus newStatus now).gateType = gate.gateType := by
  unfold Gate.setStatus
  split <;> rfl

theorem legal_from_open {fromStatus toStatus : GateStatus} (legal : isValidTransition fromStatus toStatus = true) :
    fromStatus = .pending ∨ fromStatus = .held := by
  cases fromStatus <;> simp_all [isValidTransition, validTransitions]

theorem asks_human_submittable : Submittable Gate.AsksHuman where
  bind gate pr repo asks := asks.congr rfl rfl rfl
  submit request disposition now := by
    intro manual open_
    have waiting : submissionStatus request.gateType disposition = .pending := if_pos manual
    simp [newGate, waiting]
  reopen table gate request disposition now asks := by
    -- The flag follows the new status, and neither submission status is held.
    intro _ open_
    by_cases waiting : submissionStatus request.gateType disposition = .pending
    · simp [reopenRejectedGate, waiting]
    · have paused := submission_status_closed waiting
      rw [reopenRejectedGate_status] at open_
      exact absurd open_ (not_or.mpr ⟨waiting, paused⟩)

theorem asks_human_resolvable (newStatus : GateStatus) (now : Nat) : Resolvable newStatus now Gate.AsksHuman where
  resolve gate resolverId note legal asks :=
    asks.move (by simp [Gate.resolve]) (legal_from_open legal) (by simp [Gate.resolve])
  note gate note asks := asks.congr rfl rfl rfl
  mark gate facts _ asks := asks.congr rfl rfl rfl
  cascade target recipe note decided _ _ := by
    have status : (target.cascadeFrom recipe newStatus note now).status = newStatus := cascade_status target recipe newStatus note
    rcases decided with rfl | rfl
    · exact .of_closed (by simp [status]) (by simp [status])
    · exact .of_closed (by simp [status]) (by simp [status])

/-- What undo checks of the gate: it is decided, by the member who asks, and recently. -/
def Gate.undoable (gate : Gate) (actorId : Uuid) (now : Nat) : Bool :=
  (gate.status == .approved || gate.status == .rejected) && gate.resolverId == some actorId &&
    gate.resolvedAt.any fun resolved => now ≤ resolved + gateUndoWindow

section Steps
variable {drafts : Drafts} {table after : Table} {orgId gateId : Uuid} {gate : Gate} {now : Nat}

/-- The gate that an undo re-opens carries the flag if its type asks for a human. -/
def undoKeepsFlag (table : Table) (orgId gateId actorId : Uuid) (now : Nat) : Bool :=
  (table.lookup orgId gateId).all fun gate =>
    !(gate.undoable actorId now && alwaysManualGateTypes.contains gate.gateType) || gate.requiresHuman

theorem undo_asks_human (asks : ∀ row ∈ table, row.AsksHuman) {actorId : Uuid}
    (flagged : undoKeepsFlag table orgId gateId actorId now = true)
    (executed : undoGateResolution table orgId gateId actorId now = .ok (after, gate)) : ∀ row ∈ after, row.AsksHuman := by
  unfold undoGateResolution at executed
  split at executed
  · cases executed
  next decided found =>
    split at executed
    · cases executed
    next closed =>
      split at executed
      · cases executed
      next self =>
        split at executed
        · cases executed
        next resolved instant =>
          split at executed
          · cases executed
          next recent =>
            cases executed
            refine put_preserves asks fun manual _ => ?_
            have undoable : decided.undoable actorId now = true := by
              have decidedNow : decided.status = .approved ∨ decided.status = .rejected := by
                by_contra neither
                exact closed (not_or.mp neither)
              simp only [Gate.undoable, instant, Option.any_some, Bool.and_eq_true, Bool.or_eq_true, beq_iff_eq,
                decide_eq_true_eq]
              exact ⟨⟨decidedNow, not_not.mp self⟩, Nat.not_lt.mp recent⟩
            simp only [setStatus_gateType] at manual
            simpa [undoKeepsFlag, found, undoable, manual] using flagged

theorem void_asks_human (asks : ∀ row ∈ table, row.AsksHuman) {voiderId : Uuid} {reason : String}
    (executed : voidGate table orgId gateId voiderId reason now = .ok (after, gate)) : ∀ row ∈ after, row.AsksHuman := by
  unfold voidGate at executed
  repeat' split at executed
  all_goals cases executed
  exact put_preserves asks (.of_closed (by simp) (by simp))

theorem hold_asks_human (asks : ∀ row ∈ table, row.AsksHuman) {holderId : Uuid} {reason : Option String}
    {heldUntil : Option Nat} (executed : holdGate table orgId gateId holderId reason heldUntil now = .ok (after, gate)) :
    ∀ row ∈ after, row.AsksHuman := by
  unfold holdGate at executed
  split at executed
  · cases executed
  next row found =>
    split at executed
    · cases executed
    next legal =>
      cases executed
      have wasOpen := legal_from_open (by simpa using legal)
      exact put_preserves asks ((asks row (Table.lookup_mem found)).move (by simp) wasOpen (by simp))

theorem unhold_asks_human (asks : ∀ row ∈ table, row.AsksHuman)
    (executed : unholdGate table orgId gateId now = .ok (after, gate)) : ∀ row ∈ after, row.AsksHuman := by
  unfold unholdGate at executed
  split at executed
  · cases executed
  next row found =>
    split at executed
    · cases executed
    next legal =>
      cases executed
      have wasOpen := legal_from_open (by simpa using legal)
      exact put_preserves asks ((asks row (Table.lookup_mem found)).move (by simp) wasOpen (by simp))

theorem seal_asks_human (asks : ∀ row ∈ table, row.AsksHuman) {neutralFacts : Facts} {version : Nat}
    {scheduledAt : Option Nat}
    (executed : sealSubmission table orgId gateId neutralFacts version scheduledAt = .ok (after, gate)) :
    ∀ row ∈ after, row.AsksHuman := by
  unfold sealSubmission at executed
  split at executed
  · cases executed
  next row found =>
    cases executed
    exact put_preserves asks ((asks row (Table.lookup_mem found)).congr rfl rfl rfl)

theorem override_asks_human (asks : ∀ row ∈ table, row.AsksHuman) {ownerId : Uuid} {decision : GateStatus}
    {reason : String} {commands : List CommandRequest}
    (executed : overrideGate drafts table orgId gateId ownerId decision reason now = .ok (after, gate, commands)) :
    ∀ row ∈ after, row.AsksHuman := by
  unfold overrideGate at executed
  split at executed
  · cases executed
  split at executed
  · cases executed
  split at executed
  · cases executed
  split at executed
  · cases executed
  obtain ⟨⟨cascaded, decided, others⟩, transition, executed⟩ := Runs.bind_ok executed
  cases executed
  obtain ⟨rows, row⟩ := transition_preserves (asks_human_resolvable decision now) asks transition
  exact put_preserves rows (row.congr rfl rfl rfl)

theorem merge_asks_human (merge : gate.gateType = .merge) : gate.AsksHuman := by
  intro manual
  rw [merge] at manual
  simp [alwaysManualGateTypes] at manual

theorem found_type {slot : Slot} {prNumber : Option Int} {repoFullName : Option String}
    (lookup : findGateSlotWithPrFallback table slot prNumber repoFullName = (some gate, after)) :
    gate.gateType = slot.gateType := by
  have held : slot.holds gate = true := by
    unfold findGateSlotWithPrFallback at lookup
    cases prNumber with
    | none =>
      simp only [Prod.mk.injEq] at lookup
      have selected := List.find?_some lookup.1
      simp only [Bool.and_eq_true] at selected
      exact selected.1
    | some number =>
      dsimp only at lookup
      split at lookup
      next exact selected =>
        cases lookup
        have selected := List.find?_some selected
        simp only [Bool.and_eq_true] at selected
        exact selected.1.1
      next =>
        split at lookup
        next unknown selected =>
          cases lookup
          split at selected
          · have selected := List.find?_some selected
            simp only [Bool.and_eq_true] at selected
            exact selected.1.1
          · cases selected
        next =>
          split at lookup
          next unbound selected =>
            cases lookup
            have selected := List.find?_some selected
            simp only [Bool.and_eq_true] at selected
            exact selected.1
          · cases lookup
  simp only [Slot.holds, Bool.and_eq_true, beq_iff_eq] at held
  exact held.1.2

theorem created_type {request : CreateRequest} {disposition : Disposition}
    (created : createGate table request disposition now = .ok (after, gate)) : gate.gateType = request.gateType := by
  unfold createGate at created
  split at created
  next existing promoted lookup =>
    have type := found_type lookup
    split at created
    · cases created
      exact type
    · cases created
      simpa [reopenRejectedGate] using type
  next unchanged lookup =>
    split at created
    · cases created
    · cases created
      rfl

theorem evaluate_asks_human (asks : ∀ row ∈ table, row.AsksHuman) {evidence : MergeEvidence} {answer : MergeGateDecision}
    (executed : evaluateMergeGate table evidence now = .ok (after, answer)) : ∀ row ∈ after, row.AsksHuman := by
  unfold evaluateMergeGate at executed
  split at executed
  · cases executed
    exact asks
  next memberId _ =>
    split at executed
    · cases executed
      exact asks
    · cases lookup : findGateSlotWithPrFallback table evidence.slot evidence.dbPrNumber evidence.dbRepoFullName with
      | mk existing promoted =>
        rw [lookup] at executed
        obtain ⟨⟨submitted, created⟩, submission, executed⟩ := Runs.bind_ok executed
        cases executed
        have promotedAsks := (find_slot_preserves asks_human_submittable asks lookup).1
        obtain ⟨rows, -⟩ := create_gate_preserves asks_human_submittable promotedAsks submission
        refine put_preserves rows (merge_asks_human ?_)
        exact (congrArg GateCore.gateType ((verdict_core _ _ _ _ now).trans (resubmit_core _ _ _ now))).trans (created_type submission)

theorem reopen_if_new_sha_asks_human (asks : ∀ row ∈ table, row.AsksHuman) {newHeadSha : String}
    {prUpdatedAt : Option Nat} {reopened : Bool}
    (executed : reopenGateIfNewSha table orgId gateId newHeadSha prUpdatedAt now = .ok (after, reopened)) :
    ∀ row ∈ after, row.AsksHuman := by
  unfold reopenGateIfNewSha at executed
  split at executed
  · cases executed
  next row found =>
    split at executed
    · cases executed
      exact asks
    next merge =>
      have observed : (row.observeHead prUpdatedAt).1.gateType = .merge := by
        unfold Gate.observeHead
        split <;> exact not_not.mp merge
      dsimp only at executed
      repeat' split at executed
      all_goals
        cases executed
        exact put_preserves asks (merge_asks_human (by simpa using observed))

end Steps

namespace GateWrite

/-- The operation does not undo a decision that the cascade took for an
always-manual gate. -/
def keepsFlag (table : Table) : GateWrite → Bool
  | .operation (.undo orgId gateId actorId now) => undoKeepsFlag table orgId gateId actorId now
  | _ => true

theorem operation_asks_human {table after : Table} {operation : GateOperation} (asks : ∀ row ∈ table, row.AsksHuman)
    (kept : keepsFlag table (.operation operation) = true) (executed : operation.attempt table = .ok after) :
    ∀ row ∈ after, row.AsksHuman := by
  cases operation with
  | create request disposition now =>
    obtain ⟨_, created, rfl⟩ := Runs.map_ok executed
    exact (create_gate_preserves asks_human_submittable asks created).1
  | transition drafts orgId gateId decision resolverId note reviewedDraft now =>
    obtain ⟨_, decided, rfl⟩ := Runs.map_ok executed
    exact (transition_preserves (asks_human_resolvable _ now) asks decided).1
  | undo orgId gateId actorId now =>
    obtain ⟨_, undone, rfl⟩ := Runs.map_ok executed
    exact undo_asks_human asks kept undone
  | hold orgId gateId holderId reason heldUntil now =>
    obtain ⟨_, held, rfl⟩ := Runs.map_ok executed
    exact hold_asks_human asks held
  | unhold orgId gateId now =>
    obtain ⟨_, resumed, rfl⟩ := Runs.map_ok executed
    exact unhold_asks_human asks resumed
  | void orgId gateId voiderId reason now =>
    obtain ⟨_, voided, rfl⟩ := Runs.map_ok executed
    exact void_asks_human asks voided
  | override drafts orgId gateId ownerId decision reason now =>
    obtain ⟨_, overridden, rfl⟩ := Runs.map_ok executed
    exact override_asks_human asks overridden
  | evaluateMerge evidence now =>
    obtain ⟨_, evaluated, rfl⟩ := Runs.map_ok executed
    exact evaluate_asks_human asks evaluated
  | reopenIfNewSha orgId gateId newHeadSha prUpdatedAt now =>
    obtain ⟨_, reopened, rfl⟩ := Runs.map_ok executed
    exact reopen_if_new_sha_asks_human asks reopened

theorem step_asks_human (table : Table) (write : GateWrite) (kept : write.keepsFlag table = true)
    (asks : ∀ row ∈ table, row.AsksHuman) : ∀ row ∈ step table write, row.AsksHuman := by
  unfold step Runs.settle
  split
  next after executed =>
    cases write with
    | operation single => exact operation_asks_human asks kept executed
    | transition drafts orgId gateId newStatus resolverId note reviewedDraft now =>
      obtain ⟨_, decided, rfl⟩ := Runs.map_ok executed
      exact (transition_preserves (asks_human_resolvable newStatus now) asks decided).1
    | submitDraft orgId gateId neutralFacts version scheduledAt =>
      obtain ⟨_, submitted, rfl⟩ := Runs.map_ok executed
      exact seal_asks_human asks submitted
    | withdraw runs approvals orgId storyId stepRunId actorId actor reason now =>
      obtain rfl := Except.ok.inj executed
      obtain ⟨closes, -, rows⟩ := withdraw_gates ⟨table, runs, approvals⟩ orgId storyId stepRunId actorId actor reason now
      rw [rows]
      intro row member
      obtain ⟨old, present, rfl⟩ := List.mem_map.mp member
      split
      · exact .of_closed (by simp [Lines.Gate.withdraw]) (by simp [Lines.Gate.withdraw])
      · exact asks old present
  · exact asks

end GateWrite

/-- Every pending gate of an always-manual type requires a human. -/
def PendingManualAsksHuman (table : Table) : Prop :=
  ∀ gate ∈ table, gate.gateType ∈ alwaysManualGateTypes → gate.status = .pending → gate.requiresHuman = true

/-- Every run that undoes no cascaded decision of an always-manual gate leaves
every pending gate of such a type asking for a human. -/
theorem pending_manual_gate_asks_human (writes : List GateWrite)
    (kept : Runs.Throughout GateWrite.step (fun table write => write.keepsFlag table = true) [] writes) :
    PendingManualAsksHuman (Runs.final GateWrite.step [] writes) := by
  intro gate member manual waiting
  have initial : ∀ row ∈ ([] : Table), row.AsksHuman := fun _ absent => absurd absent List.not_mem_nil
  have asks := kept.invariant GateWrite.step_asks_human initial
  exact asks gate member manual (.inl waiting)

def recipeRequest : CreateRequest where
  orgId := 1
  workItemId := 2
  workItemType := "story"
  gateType := .externalPublish
  gateId := 10
  neutralFacts := some [("triggered_by_event", .text "stage"), ("stage", .text "publish")]

def destinationRequest : CreateRequest where
  orgId := 1
  workItemId := 2
  workItemType := "story"
  gateType := .externalPublish
  scopeKey := "channel"
  gateId := 11

/-- A recipe gate, and the gate of the only destination with its draft sealed. -/
def recipeAndDestination : List GateWrite :=
  [.operation (.create recipeRequest .ask 100), .operation (.create destinationRequest .ask 110),
    .submitDraft 1 11 [("destination", .text "x"), ("draft_id", .text (PyText.uuidText 20))] 3 none]

def recipeDrafts : Drafts := { Drafts.empty with
  recipeShown := fun _ _ _ => some ⟨.channelPost, 20⟩
  versions := fun _ _ => [(3, 21)] }

/-- A run that meets the condition: the recipe approval is undone, and the
destination gate that it decided is left alone. -/
theorem pending_manual_gate_asks_human_recipe :
    PendingManualAsksHuman (Runs.final GateWrite.step [] (recipeAndDestination ++
      [.operation (.transition recipeDrafts 1 10 .approve (some 5) none (some (20, 3)) 200),
        .operation (.undo 1 10 5 210)])) := by
  apply pending_manual_gate_asks_human
  decide +kernel

/-- The approver of the recipe takes the cascaded decision back: the gate of the
destination waits again, and its flag still says that no human is needed. -/
theorem undone_cascade_asks_nobody :
    ¬ PendingManualAsksHuman (Runs.final GateWrite.step [] (recipeAndDestination ++
      [.operation (.transition recipeDrafts 1 10 .approve (some 5) none (some (20, 3)) 200),
        .operation (.undo 1 11 5 210)])) := by
  intro asks
  have left : (Runs.final GateWrite.step [] (recipeAndDestination ++
      [.operation (.transition recipeDrafts 1 10 .approve (some 5) none (some (20, 3)) 200),
        .operation (.undo 1 11 5 210)])).any
      (fun gate => decide (gate.gateType ∈ alwaysManualGateTypes) && gate.status == .pending && !gate.requiresHuman) =
        true := by decide +kernel
  obtain ⟨gate, member, shape⟩ := List.any_eq_true.mp left
  simp only [Bool.and_eq_true, beq_iff_eq, decide_eq_true_eq, Bool.not_eq_true'] at shape
  have flagged := asks gate member shape.1.1 shape.1.2
  rw [shape.2] at flagged
  cases flagged

end Sprintable.Gates
