import Sprintable.Publications.Operators

/-! The state invariant of publication commands. A dozen writers share one row;
each of them keeps the statuses in which a command has ended, the instant at which
it was given up, and the mark that somebody has to look. -/

namespace Sprintable.Publications
open Interleave

/-- A given up command, and no other, has the instant of that and waits for no
attempt. The mark to look is on given up commands only. -/
structure Fit (command : Command) : Prop where
  deadLetter : command.status = .deadLetter ↔ command.deadLetterAt.isSome = true
  unscheduled : command.status = .deadLetter → command.nextAttemptAt = none
  needsCheck : command.failureKind = some .needsCheck → command.status = .deadLetter

def endedStatuses : List CommandStatus := [.completed, .voided, .cancelled]

/-- What a step may do to a row: an ended command stays as it ended, and the mark
to look goes only when a person has looked. -/
structure RowLaw (notes : List Note) (id : Uuid) (old new : Command) : Prop where
  ended : old.status ∈ endedStatuses → new.status = old.status
  needsCheck : old.failureKind = some .needsCheck → new.failureKind = some .needsCheck ∨ .humanRetry id ∈ notes

/-- Every row is still there and obeys the law, given what the step has noted. -/
def Lawful (before after : Store) : Prop :=
  ∃ notes, after.history = notes ++ before.history ∧ ∀ id old, before.find id = some old →
    ∃ new, after.find id = some new ∧ RowLaw notes id old new

def Fits (store : Store) : Prop := ∀ id command, store.find id = some command → Fit command

section Rows
variable {command : Command} {notes : List Note} {id : Uuid}

theorem Fit.undated (fit : Fit command) (going : command.status ≠ .deadLetter) : command.deadLetterAt = none := by
  cases dated : command.deadLetterAt with
  | none => rfl
  | some instant => exact absurd (fit.deadLetter.mpr (by rw [dated]; rfl)) going

theorem Fit.unmarked (fit : Fit command) (going : command.status ≠ .deadLetter) :
    command.failureKind ≠ some .needsCheck :=
  fun marked => going (fit.needsCheck marked)

/-- A row that was not given up is fit after every write that neither gives it up
nor dates it. -/
theorem Fit.of_going (going : command.status ≠ .deadLetter) (undated : command.deadLetterAt = none)
    (unmarked : command.failureKind ≠ some .needsCheck) : Fit command where
  deadLetter := by simp [going, undated]
  unscheduled given := absurd given going
  needsCheck marked := absurd marked unmarked

theorem RowLaw.human {new : Command} (going : command.status ∉ endedStatuses) (noted : .humanRetry id ∈ notes) :
    RowLaw notes id command new :=
  ⟨fun ended => absurd ended going, fun _ => .inr noted⟩

theorem RowLaw.going {new : Command} (fit : Fit command) (going : command.status ∉ endedStatuses)
    (kept : command.status ≠ .deadLetter) : RowLaw notes id command new :=
  ⟨fun ended => absurd ended going, fun marked => absurd marked (fit.unmarked kept)⟩

theorem RowLaw.trans {early late : List Note} {middle new : Command} (first : RowLaw early id command middle)
    (second : RowLaw late id middle new) : RowLaw (late ++ early) id command new where
  ended done := by
    have same := first.ended done
    exact (second.ended (same ▸ done)).trans same
  needsCheck marked := by
    rcases first.needsCheck marked with kept | noted
    · rcases second.needsCheck kept with kept | noted
      · exact .inl kept
      · exact .inr (List.mem_append_left _ noted)
    · exact .inr (List.mem_append_right _ noted)

theorem apply_failure_fit {errorCode lastError : Option String} {now : Nat} {retryAfterSeconds reasonResetAt : Option Nat}
    (undated : command.deadLetterAt = none ∨ classifyFailureKind errorCode = .needsCheck ∨
      classifyFailureKind errorCode = .notSent) :
    Fit (command.applyFailure errorCode lastError now retryAfterSeconds reasonResetAt) := by
  have given : ∀ row : Command, Fit (row.deadLetter now) := by
    intro row
    unfold Command.deadLetter Command.markStopNotice
    split <;> exact ⟨by simp, fun _ => rfl, fun _ => rfl⟩
  unfold Command.applyFailure
  cases kind : classifyFailureKind errorCode with
  | connection =>
    have undated : command.deadLetterAt = none := by simpa [kind] using undated
    dsimp only
    unfold Command.markStopNotice
    split <;> exact .of_going CommandStatus.noConfusion undated (by simp)
  | needsCheck => exact given _
  | notSent => exact given _
  | paused => exact given _
  | transient =>
    have undated : command.deadLetterAt = none := by simpa [kind] using undated
    dsimp only
    split
    · exact given _
    · exact .of_going CommandStatus.noConfusion undated (by simp)

end Rows

/-- What each transaction owes to the law. -/
def Kept (before after : Store) : Prop := Fits after ∧ Lawful before after

section Steps
variable {store : Store} {id : Uuid} {old row : Command} {notes : List Note}

theorem lawful_refl (store : Store) : Lawful store store :=
  ⟨[], rfl, fun _ old found => ⟨old, found, ⟨fun _ => rfl, .inl⟩⟩⟩

theorem Lawful.trans {first second third : Store} (early : Lawful first second) (late : Lawful second third) :
    Lawful first third := by
  obtain ⟨noted, history, rows⟩ := early
  obtain ⟨later, after, next⟩ := late
  refine ⟨later ++ noted, by rw [after, history, List.append_assoc], fun id old found => ?_⟩
  obtain ⟨middle, there, law⟩ := rows id old found
  obtain ⟨new, last, then_⟩ := next id middle there
  exact ⟨new, last, law.trans then_⟩

theorem kept_refl (fits : Fits store) : Kept store store := ⟨fits, lawful_refl store⟩

theorem Kept.trans {first second third : Store} (early : Kept first second) (late : Kept second third) :
    Kept first third :=
  ⟨late.1, early.2.trans late.2⟩

theorem kept_fold {γ : Type} {change : Store → γ → Store}
    (step : ∀ item {store}, Fits store → Kept store (change store item)) (items : List γ) (fits : Fits store) :
    Kept store (items.foldl change store) := by
  induction items generalizing store with
  | nil => exact kept_refl fits
  | cons item rest ih =>
    have first := step item fits
    exact first.trans (ih first.1)

theorem commit_kept (fits : Fits store) (found : store.find id = some old) (name : row.id = id) (fit : Fit row)
    (law : RowLaw notes id old row) : Kept store (store.commit row notes) := by
  constructor
  · intro other command present
    rw [find_commit] at present
    split at present
    · obtain ⟨_, _, rfl⟩ := Option.map_eq_some_iff.mp present
      exact ⟨fit.deadLetter, fit.unscheduled, fit.needsCheck⟩
    · exact fits other command present
  · refine ⟨notes, rfl, fun other command present => ?_⟩
    by_cases same : id = other
    · subst same
      rw [found] at present
      cases present
      exact ⟨_, find_commit_same found name notes, ⟨law.ended, law.needsCheck⟩⟩
    · refine ⟨command, ?_, ⟨fun _ => rfl, .inl⟩⟩
      rw [find_commit, if_neg (fun equal => same (name.symm.trans equal))]
      exact present

theorem create_kept (fits : Fits store) (command : Command) : Kept store (store.createOrGet command) := by
  unfold Store.createOrGet
  split
  · exact kept_refl fits
  · constructor
    · intro id row found
      rcases Keyed.find_append_cases found with present | ⟨-, rfl, -⟩
      · exact fits id row present
      · exact .of_going CommandStatus.noConfusion rfl (by simp)
    · exact ⟨[], rfl, fun id old found => ⟨old, Keyed.find_append_old found _, ⟨fun _ => rfl, .inl⟩⟩⟩

theorem sweep_kept (fits : Fits store) (stuck : List StuckContainer) (now : Nat) :
    Kept store (store.sweepStuckContainers stuck now) := by
  refine kept_fold (fun row store fits => ?_) stuck fits
  cases row.resolverId with
  | none => exact kept_refl fits
  | some resolver => exact create_kept fits _

theorem requeue_fit (command : Command) : Fit command.requeue :=
  .of_going CommandStatus.noConfusion rfl (by simp [Command.requeue])

theorem retry_kept (fits : Fits store) (id : Uuid) (onlyPaused : Bool) :
    Kept store (store.retryDeadLetter id onlyPaused) := by
  unfold Store.retryDeadLetter
  cases found : store.find id with
  | none => exact kept_refl fits
  | some command =>
    have name := find_row_id found
    dsimp only
    split
    · split
      next blocked =>
        simp only [Bool.and_eq_true, beq_iff_eq] at blocked
        apply commit_kept fits found
        · exact name
        · exact requeue_fit command
        · exact .going (fits id command found) (by rw [blocked.1]; decide) (by rw [blocked.1]; decide)
      · exact kept_refl fits
    · split
      next retryable =>
        apply commit_kept fits found
        · exact name
        · exact requeue_fit command
        · refine .human (fun ended => ?_) List.mem_cons_self
          simp only [endedStatuses, List.mem_cons, List.not_mem_nil, or_false] at ended
          rcases ended with status | status | status <;>
            simp [Command.humanRetryable, Command.newsletterRetryable, status] at retryable
      · exact kept_refl fits

theorem requeue_paused_kept (fits : Fits store) (ids : List Uuid) : Kept store (store.requeuePaused ids) :=
  kept_fold (fun id _ fits => retry_kept fits id true) ids fits

theorem human_publish_kept (fits : Fits store) (id : Uuid)
    (alive : ∀ command, store.find id = some command → command.status ≠ .cancelled) :
    Kept store (store.humanPublish id) := by
  unfold Store.humanPublish
  cases found : store.find id with
  | none => exact kept_refl fits
  | some command =>
    dsimp only
    split
    · exact kept_refl fits
    next waits =>
      have kept := alive command found
      have fit : Fit command.requeueForHumanPublish := by
        unfold Command.requeueForHumanPublish
        rw [if_neg waits]
        split
        · exact requeue_fit command
        next clean =>
          simp only [Bool.or_eq_true, not_or, Bool.not_eq_true, Option.isSome_eq_false_iff, Option.isNone_iff_eq_none] at clean
          exact .of_going CommandStatus.noConfusion clean.1.1 (by simp [clean.1.2])
      have name : command.requeueForHumanPublish.id = command.id := by
        unfold Command.requeueForHumanPublish
        rw [if_neg waits]
        split <;> rfl
      refine commit_kept fits found (name.trans (find_row_id found)) fit (.human (fun ended => ?_) List.mem_cons_self)
      simp only [Bool.or_eq_true, beq_iff_eq, not_or] at waits
      simp only [endedStatuses, List.mem_cons, List.not_mem_nil, or_false] at ended
      rcases ended with status | status | status
      · exact waits.1.1 status
      · exact waits.1.2 status
      · exact kept status

/-- Pending and running commands are neither ended nor given up. -/
def goingStatuses : List CommandStatus := [.pending, .inProgress, .blocked, .blockedUnapproved]

theorem going_spec {status : CommandStatus} (going : status ∈ goingStatuses) :
    status ∉ endedStatuses ∧ status ≠ .deadLetter := by
  revert status
  decide

theorem going_commit (fits : Fits store) (found : store.find id = some old) (going : old.status ∈ goingStatuses)
    (name : row.id = id) (fit : Fit row) : Kept store (store.commit row notes) :=
  commit_kept fits found name fit (.going (fits id old found) (going_spec going).1 (going_spec going).2)

theorem going_write (fits : Fits store) (found : store.find id = some old) (going : old.status ∈ goingStatuses)
    (name : row.id = id) (status : row.status ≠ .deadLetter) (dated : row.deadLetterAt = old.deadLetterAt)
    (kind : row.failureKind = some .needsCheck → old.failureKind = some .needsCheck) :
    Kept store (store.commit row notes) := by
  have fit := fits id old found
  have kept := (going_spec going).2
  refine going_commit fits found going name (.of_going status ?_ fun marked => fit.unmarked kept (kind marked))
  rw [dated]
  exact fit.undated kept

theorem going_fail (fits : Fits store) (found : store.find id = some old) (going : old.status ∈ goingStatuses)
    (errorCode lastError : Option String) (now : Nat) (retryAfterSeconds reasonResetAt : Option Nat) :
    Kept store (store.fail old errorCode lastError now retryAfterSeconds reasonResetAt) := by
  have undated := (fits id old found).undated (going_spec going).2
  have fit : Fit (old.applyFailure errorCode lastError now retryAfterSeconds reasonResetAt) := apply_failure_fit (.inl undated)
  apply going_commit fits found going
  · exact (Command.applyFailure_id old errorCode lastError now retryAfterSeconds reasonResetAt).trans (find_row_id found)
  · exact ⟨fit.deadLetter, fit.unscheduled, fit.needsCheck⟩

theorem running_going {status : CommandStatus} (running : status = .inProgress) : status ∈ goingStatuses :=
  running ▸ by decide

theorem conclude_kept (fits : Fits store) (found : store.find id = some old) (running : old.status = .inProgress)
    (claimNow : Nat) (outcome : Outcome) : Kept store (store.conclude id claimNow outcome) := by
  have going := running_going running
  have name := find_row_id found
  have unmarked := (fits id old found).unmarked (going_spec going).2
  cases outcome with
  | escaped _ => exact kept_refl fits
  | failed errorCode lastError retryAfterSeconds reasonResetAt =>
    simp only [Store.conclude, found]
    exact going_fail fits found going _ _ _ _ _
  | stoppedUnapproved reasonCode lastError =>
    simp only [Store.conclude, found]
    apply going_write fits found going
    · simpa using name
    · simp
    · unfold Command.markStopNotice
      split <;> rfl
    · simp
  | _ =>
    simp only [Store.conclude, found]
    apply going_write fits found going
    · exact name
    · exact CommandStatus.noConfusion
    · rfl
    · simp [Command.markBlockedUnapproved]

theorem record_failure_kept (fits : Fits store) (id : Uuid) (providerCalled : Bool) (claimNow : Nat) (answer : Answer) :
    Kept store (store.recordUnclassifiedBatchFailure id providerCalled claimNow answer) := by
  unfold Store.recordUnclassifiedBatchFailure
  split
  · exact kept_refl fits
  split
  · exact kept_refl fits
  next command found =>
    split
    · exact kept_refl fits
    next running => exact going_fail fits found (running_going (not_not.mp running)) _ _ _ _ _

theorem mark_kept (fits : Fits store) (found : store.find id = some old) (running : old.status = .inProgress) :
    Kept store (store.markProviderCallStarted id) := by
  have name := find_row_id found
  simp only [Store.markProviderCallStarted, found]
  apply going_write fits found (running_going running)
  · exact name
  · simp [running]
  · rfl
  · exact fun marked => marked

theorem recover_kept (fits : Fits store) (id : Uuid) (now : Nat) (answer : Answer)
    (permitted : ∀ note ∈ (store.recoverInterrupted id now answer).history, note.reclaims = false) :
    Kept store (store.recoverInterrupted id now answer) := by
  unfold Store.recoverInterrupted at permitted ⊢
  split
  · exact kept_refl fits
  next answered =>
    rw [if_neg answered] at permitted
    cases found : store.find id with
    | none => exact kept_refl fits
    | some command =>
      simp only [found] at permitted ⊢
      split
      · exact kept_refl fits
      next running =>
        rw [if_neg running] at permitted
        have going := running_going (not_not.mp running)
        have name := find_row_id found
        by_cases stale : Store.stuckSince now command
        · simp only [stale, if_true]
          split
          · apply going_write fits found going
            · exact name
            · exact CommandStatus.noConfusion
            · rfl
            · simp
          · exact going_fail fits found going _ _ _ _ _
        · simp only [stale, Bool.false_eq_true, if_false] at permitted
          split at permitted
          · exact absurd (permitted _ (reclaim_noted store id _ _)) (by simp [Note.reclaims])
          · exact absurd (permitted _ (reclaim_noted store id _ _)) (by simp [Note.reclaims])

theorem claim_kept {deployment : Deployment} (valid : StoreValid deployment store) (fits : Fits store) (worker : Worker)
    (claimNow budget : Nat) (overBudget : List Uuid) (answer : Answer) :
    Kept store (store.claim worker claimNow budget overBudget answer).2 := by
  unfold Store.claim
  split
  · exact kept_refl fits
  next command chosen =>
    obtain ⟨found, pending⟩ := claim_found valid chosen
    have going : command.status ∈ goingStatuses := by
      rw [pending]
      decide
    split
    · dsimp only
      split
      · exact kept_refl fits
      · apply going_write fits found going
        · rfl
        · simp [pending]
        · rfl
        · exact fun marked => marked
    · split
      · exact kept_refl fits
      · apply going_write fits found going
        · exact command.claim_id worker claimNow
        · exact CommandStatus.noConfusion
        · unfold Command.claim
          dsimp only
          split <;> rfl
        · unfold Command.claim
          dsimp only
          split <;> exact fun marked => marked

theorem void_kept (fits : Fits store) (gateId : Uuid) (reasonCode : String) :
    Kept store (store.voidPendingForGate gateId reasonCode) := by
  have lookup : ∀ id, (store.voidPendingForGate gateId reasonCode).find id = (store.find id).map _ := fun id =>
    Keyed.find_map _ fun row => by split <;> rfl
  constructor
  · intro id command found
    rw [lookup, Option.map_eq_some_iff] at found
    obtain ⟨old, present, rfl⟩ := found
    have fit := fits id old present
    split
    next pending =>
      have going : old.status ≠ .deadLetter := by simp [pending.2.1]
      exact .of_going CommandStatus.noConfusion (fit.undated going) (fit.unmarked going)
    · exact fit
  · refine ⟨[], rfl, fun id old found => ⟨_, by rw [lookup, found, Option.map_some], ?_⟩⟩
    split
    next pending => exact .going (fits id old found) (by simp [pending.2.1, endedStatuses]) (by simp [pending.2.1])
    · exact ⟨fun _ => rfl, .inl⟩

end Steps

end Sprintable.Publications
