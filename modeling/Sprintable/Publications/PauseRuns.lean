import Mathlib.Data.List.Dedup
import Sprintable.Publications.Pauses

/-! Runs of pauses, ends of pauses, sweeps, workers and people. A command that a pause stopped
waits as it is until one end of a pause or one sweep puts it back. -/

namespace Sprintable.Publications
open Interleave

section Calm
variable {deployment : Deployment} {store after last : Store} {row old : Command} {notes : List Note} {id : Uuid}

/-- How often the command has been stopped by a pause. -/
def Store.pauses (store : Store) (id : Uuid) : Nat := store.history.count (.pauseBlocked id)

/-- A step that no pause has to do with. -/
structure Calm (store after : Store) : Prop where
  pauses : ∀ id, after.pauses id = store.pauses id
  waits : ∀ id, store.PauseBlocked id → after.find id = store.find id
  quiet : ∀ id, after.PauseBlocked id → store.PauseBlocked id

private theorem calm_refl (store : Store) : Calm store store := ⟨fun _ => rfl, fun _ _ => rfl, fun _ blocked => blocked⟩

theorem Calm.trans (early : Calm store after) (late : Calm after last) : Calm store last := by
  refine ⟨fun id => (late.pauses id).trans (early.pauses id), fun id blocked => ?_, fun id blocked => early.quiet id (late.quiet id blocked)⟩
  have same := early.waits id blocked
  have still : after.PauseBlocked id := by
    unfold Store.PauseBlocked
    rw [same]
    exact blocked
  exact (late.waits id still).trans same

theorem PauseBlocked.of_same (same : after.find id = store.find id) : after.PauseBlocked id ↔ store.PauseBlocked id := by
  unfold Store.PauseBlocked
  rw [same]

private theorem pauseBlocked_found (found : store.find id = some old) : store.PauseBlocked id ↔ old.PauseBlocked := by
  simp [Store.PauseBlocked, found]

private theorem commit_calm (found : store.find row.id = some old) (before : ¬old.PauseBlocked) (later : ¬row.PauseBlocked)
    (others : ∀ id, notes.count (.pauseBlocked id) = 0) : Calm store (store.commit row notes) := by
  refine ⟨fun id => ?_, fun id blocked => ?_, fun id blocked => ?_⟩
  · simp [Store.pauses, Store.commit, others id]
  · have different : row.id ≠ id := by
      rintro rfl
      exact before ((pauseBlocked_found found).mp blocked)
    rw [find_commit, if_neg different]
  · by_cases same : row.id = id
    · subst same
      exact absurd ((pauseBlocked_found (find_commit_same found rfl notes)).mp blocked) later
    · have kept : (store.commit row notes).find id = store.find id := by rw [find_commit, if_neg same]
      exact (PauseBlocked.of_same kept).mp blocked

private theorem append_calm (free : ¬row.PauseBlocked) : Calm store { store with commands := store.commands ++ [row] } := by
  refine ⟨fun _ => rfl, fun id blocked => ?_, fun id blocked => ?_⟩
  · obtain ⟨command, found, _⟩ := blocked
    exact (Keyed.find_append_old found [row]).trans found.symm
  · obtain ⟨command, found, waiting⟩ := blocked
    rcases Keyed.find_append_cases found with kept | ⟨_, rfl, _⟩
    · exact ⟨command, kept, waiting⟩
    · exact absurd waiting free

private theorem create_calm (store : Store) (command : Command) : Calm store (store.createOrGet command) := by
  unfold Store.createOrGet
  split
  · exact calm_refl store
  · apply append_calm
    simp [Command.PauseBlocked]

private theorem sweep_stuck_calm (store : Store) (stuck : List StuckContainer) (now : Nat) : Calm store (store.sweepStuckContainers stuck now) := by
  unfold Store.sweepStuckContainers
  induction stuck generalizing store with
  | nil => exact calm_refl store
  | cons row rest ih =>
    rw [List.foldl_cons]
    refine Calm.trans ?_ (ih _)
    cases row.resolverId with
    | none => exact calm_refl store
    | some resolver => exact create_calm store _

private theorem human_retry_calm (store : Store) (id : Uuid) : Calm store (store.retryDeadLetter id false) := by
  unfold Store.retryDeadLetter
  cases found : store.find id with
  | none => exact calm_refl store
  | some command =>
    dsimp only
    split
    next same => exact absurd same (by simp)
    next =>
      split
      next retryable =>
        have name := find_row_id found
        apply commit_calm (name.symm ▸ found)
        · rintro ⟨status, kind⟩
          simp [Command.humanRetryable, status, kind] at retryable
        · simp [Command.PauseBlocked, Command.requeue]
        · simp
      next => exact calm_refl store

private theorem void_calm (store : Store) (gateId : Uuid) (reasonCode : String) : Calm store (store.voidPendingForGate gateId reasonCode) := by
  have lookup : ∀ id, (store.voidPendingForGate gateId reasonCode).find id = (store.find id).map _ := fun id =>
    Keyed.find_map _ fun row => by split <;> rfl
  refine ⟨fun _ => rfl, fun id blocked => ?_, fun id blocked => ?_⟩
  · obtain ⟨command, found, waiting⟩ := blocked
    rw [lookup, found, Option.map_some, if_neg (by simp [waiting.1])]
  · obtain ⟨command, found, waiting⟩ := blocked
    rw [lookup, Option.mem_def, Option.map_eq_some_iff] at found
    obtain ⟨old, present, rfl⟩ := found
    refine ⟨old, present, ?_⟩
    split at waiting
    next => cases waiting.1
    next => exact waiting

private theorem cancel_calm (store : Store) (id : Uuid) : Calm store (store.cancelPending id) := by
  unfold Store.cancelPending
  cases found : store.find id with
  | none => exact calm_refl store
  | some command =>
    dsimp only
    split
    next pending =>
      have name := find_row_id found
      apply commit_calm (name.symm ▸ found)
      · rintro ⟨status, _⟩
        simp [pending] at status
      · simp [Command.PauseBlocked]
      · simp
    next => exact calm_refl store

private theorem fail_calm (found : store.find old.id = some old) (running : old.status = .inProgress) (errorCode lastError : Option String)
    (now : Nat) (retryAfterSeconds reasonResetAt : Option Nat) :
    Calm store (store.fail old errorCode lastError now retryAfterSeconds reasonResetAt) := by
  obtain ⟨name, _, kind, _⟩ := old.applyFailure_cases errorCode lastError now retryAfterSeconds reasonResetAt
  apply commit_calm
  · exact name.symm ▸ found
  · simp [Command.PauseBlocked, running]
  · exact fun blocked => kind blocked.2
  · simp

private theorem recover_calm (store : Store) (id : Uuid) {now : Nat} (answer : Answer)
    (old : ∀ command, store.find id = some command → command.status = .inProgress → Store.stuckSince now command = true) :
    Calm store (store.recoverInterrupted id now answer) := by
  unfold Store.recoverInterrupted
  split
  · exact calm_refl store
  · cases found : store.find id with
    | none => exact calm_refl store
    | some command =>
      dsimp only
      split
      · exact calm_refl store
      next running =>
        simp only [ne_eq, not_not] at running
        have name := find_row_id found
        simp only [old command found running, if_true]
        split
        · apply commit_calm
          · exact name.symm ▸ found
          · simp [Command.PauseBlocked, running]
          · simp [Command.PauseBlocked]
          · simp
        · exact fail_calm (name.symm ▸ found) running _ _ _ _ _

private theorem record_failure_calm (store : Store) (id : Uuid) (providerCalled : Bool) (claimNow : Nat) (answer : Answer) :
    Calm store (store.recordUnclassifiedBatchFailure id providerCalled claimNow answer) := by
  unfold Store.recordUnclassifiedBatchFailure
  split
  · exact calm_refl store
  · cases found : store.find id with
    | none => exact calm_refl store
    | some command =>
      dsimp only
      split
      · exact calm_refl store
      next running =>
        simp only [ne_eq, not_not] at running
        exact fail_calm ((find_row_id found).symm ▸ found) running _ _ _ _ _

private theorem claim_calm (valid : StoreValid deployment store) (worker : Worker) (claimNow budget : Nat) (overBudget : List Uuid)
    (answer : Answer) : Calm store (store.claim worker claimNow budget overBudget answer).2 := by
  unfold Store.claim
  split
  · exact calm_refl store
  next command chosen =>
    obtain ⟨found, pending⟩ := claim_found valid chosen
    have free : ¬command.PauseBlocked := by simp [Command.PauseBlocked, pending]
    split
    · dsimp only
      split
      · exact calm_refl store
      · apply commit_calm
        · exact found
        · exact free
        · simp [Command.PauseBlocked, pending]
        · simp
    · split
      · exact calm_refl store
      · apply commit_calm ((command.claim_id worker claimNow).symm ▸ found) free
        · simp [Command.PauseBlocked, Command.claim]
        · simp

private theorem mark_calm (found : store.find id = some old) (running : old.status = .inProgress) :
    Calm store (store.markProviderCallStarted id) := by
  unfold Store.markProviderCallStarted
  rw [found]
  apply commit_calm
  · exact (find_row_id found).symm ▸ found
  · simp [Command.PauseBlocked, running]
  · simp [Command.PauseBlocked, running]
  · simp

private theorem conclude_calm (found : store.find id = some old) (running : old.status = .inProgress) {outcome : Outcome}
    (unpaused : ∀ reason, outcome ≠ .paused reason) (claimNow : Nat) : Calm store (store.conclude id claimNow outcome) := by
  have same : store.find old.id = some old := (find_row_id found).symm ▸ found
  have before : ¬old.PauseBlocked := by simp [Command.PauseBlocked, running]
  cases outcome with
  | escaped _ => exact calm_refl store
  | paused reason => exact absurd rfl (unpaused reason)
  | failed errorCode lastError retryAfterSeconds reasonResetAt =>
    simp only [Store.conclude, found]
    exact fail_calm same running _ _ _ _ _
  | completed clears =>
    simp only [Store.conclude, found]
    apply commit_calm
    · exact same
    · exact before
    · simp [Command.PauseBlocked]
    · simp
  | containerCreated =>
    simp only [Store.conclude, found]
    apply commit_calm
    · exact same
    · exact before
    · simp [Command.PauseBlocked]
    · simp
  | voided reasonCode lastError =>
    simp only [Store.conclude, found]
    apply commit_calm
    · exact same
    · exact before
    · simp [Command.PauseBlocked]
    · simp
  | blockedUnapproved reasonCode lastError =>
    simp only [Store.conclude, found]
    apply commit_calm
    · exact same
    · exact before
    · simp [Command.PauseBlocked, Command.markBlockedUnapproved]
    · simp
  | stoppedUnapproved reasonCode lastError =>
    simp only [Store.conclude, found]
    apply commit_calm
    · simpa using same
    · exact before
    · simp [Command.PauseBlocked]
    · simp

end Calm

section Requeues
variable {deployment : Deployment} {publishing : Publishing} {store : Store} {id : Uuid}

/-- Each stop by a pause has been ended by one end of a pause or sweep, or still lasts. -/
def Publishing.Once (publishing : Publishing) : Prop :=
  ∀ id, publishing.store.pauses id = publishing.revived.count id + if publishing.store.PauseBlocked id then 1 else 0

theorem Publishing.Once.calm (once : publishing.Once) {after : Store} (calm : Calm publishing.store after) :
    ({ publishing with store := after } : Publishing).Once := by
  intro id
  have same : after.PauseBlocked id ↔ publishing.store.PauseBlocked id :=
    ⟨calm.quiet id, fun blocked => (PauseBlocked.of_same (calm.waits id blocked)).mpr blocked⟩
  rw [calm.pauses id, once id]
  simp only [same]

private theorem retry_paused_found {command : Command} (found : store.find id = some command) (waiting : command.PauseBlocked) :
    store.retryDeadLetter id true = store.commit command.requeue [] := by
  unfold Store.retryDeadLetter
  rw [found]
  simp [waiting.1, waiting.2]

private theorem find_requeued {command : Command} (found : store.find id = some command) :
    (store.commit command.requeue []).find id = some { command.requeue with updatedAt := store.now } := by
  have name : command.id = id := find_row_id found
  apply find_commit_same found
  exact name

private theorem retry_paused_other (free : ¬store.PauseBlocked id) : store.retryDeadLetter id true = store := by
  unfold Store.retryDeadLetter
  cases found : store.find id with
  | none => rfl
  | some command =>
    dsimp only
    rw [if_pos rfl, if_neg]
    intro waiting
    apply free
    rw [pauseBlocked_found found]
    simpa [Command.PauseBlocked] using waiting

private theorem find_retry_paused_other {other : Uuid} (different : id ≠ other) : (store.retryDeadLetter id true).find other = store.find other := by
  by_cases waiting : store.PauseBlocked id
  · obtain ⟨command, found, blocked⟩ := waiting
    rw [retry_paused_found found blocked, find_commit, if_neg]
    have name : command.id = id := find_row_id found
    exact name.trans_ne different
  · rw [retry_paused_other waiting]

private theorem retry_paused_ends (store : Store) (id : Uuid) : ¬(store.retryDeadLetter id true).PauseBlocked id := by
  by_cases waiting : store.PauseBlocked id
  · obtain ⟨command, found, blocked⟩ := waiting
    rw [retry_paused_found found blocked, pauseBlocked_found (find_requeued found)]
    simp [Command.PauseBlocked, Command.requeue]
  · rwa [retry_paused_other waiting]

theorem Publishing.Once.revive (once : publishing.Once) (id : Uuid) : (publishing.revive id).Once := by
  intro other
  have history : (publishing.store.retryDeadLetter id true).history = publishing.store.history := by
    by_cases waiting : publishing.store.PauseBlocked id
    · obtain ⟨command, found, blocked⟩ := waiting
      rw [retry_paused_found found blocked]
      rfl
    · rw [retry_paused_other waiting]
  have before := once other
  unfold Publishing.revive Store.pauses
  dsimp only
  rw [history]
  by_cases same : id = other
  · subst same
    rw [if_neg (retry_paused_ends publishing.store id)]
    by_cases waiting : publishing.store.PauseBlocked id
    · rw [if_pos waiting] at before ⊢
      rw [List.count_cons_self]
      exact before
    · rw [if_neg waiting] at before ⊢
      exact before
  · have kept := @PauseBlocked.of_same publishing.store _ other (find_retry_paused_other same)
    have counted : (if publishing.store.PauseBlocked id then id :: publishing.revived else publishing.revived).count other =
        publishing.revived.count other := by
      split
      · exact List.count_cons_of_ne same
      · rfl
    rw [counted]
    simp only [kept]
    exact before

private theorem requeue_fold (ids : List Uuid) (publishing : Publishing) (id : Uuid) :
    ((ids.foldl Publishing.revive publishing).store.find id = publishing.store.find id ∧ (id ∈ ids → ¬publishing.store.PauseBlocked id)) ∨
      (publishing.store.PauseBlocked id ∧ id ∈ ids ∧ ¬(ids.foldl Publishing.revive publishing).store.PauseBlocked id ∧
        ∃ command, (ids.foldl Publishing.revive publishing).store.find id = some command ∧ command.status = .pending) := by
  induction ids generalizing publishing with
  | nil => exact .inl ⟨rfl, fun inside => absurd inside List.not_mem_nil⟩
  | cons first rest ih =>
    rw [List.foldl_cons]
    by_cases same : first = id
    · subst same
      have ended := retry_paused_ends publishing.store first
      rcases ih (publishing.revive first) with ⟨kept, -⟩ | ⟨waiting, -⟩
      · by_cases waiting : publishing.store.PauseBlocked first
        · right
          obtain ⟨command, found, blocked⟩ := waiting
          have found : publishing.store.find first = some command := found
          have pending : (publishing.revive first).store.find first = some { command.requeue with updatedAt := publishing.store.now } := by
            unfold Publishing.revive
            rw [retry_paused_found found blocked]
            exact find_requeued found
          refine ⟨⟨command, found, blocked⟩, List.mem_cons_self, ?_, _, kept.trans pending, rfl⟩
          exact fun still => ended ((PauseBlocked.of_same kept).mp still)
        · left
          refine ⟨?_, fun _ => waiting⟩
          rw [kept]
          exact congrArg (fun store : Store => store.find first) (retry_paused_other waiting)
      · exact absurd waiting ended
    · have kept : (publishing.revive first).store.find id = publishing.store.find id := find_retry_paused_other same
      have still := PauseBlocked.of_same kept
      rcases ih (publishing.revive first) with ⟨same_row, spared⟩ | ⟨waiting, inside, ended⟩
      · refine .inl ⟨same_row.trans kept, fun inside => ?_⟩
        rcases List.mem_cons.mp inside with rfl | later
        · exact absurd rfl same
        · exact fun waiting => spared later (still.mpr waiting)
      · exact .inr ⟨still.mp waiting, List.mem_cons_of_mem _ inside, ended⟩

private theorem requeue_store (ids : List Uuid) (publishing : Publishing) :
    (ids.foldl Publishing.revive publishing).store = publishing.store.requeuePaused ids := by
  unfold Store.requeuePaused
  induction ids generalizing publishing with
  | nil => rfl
  | cons first rest ih => exact ih (publishing.revive first)

theorem Publishing.Once.requeue (once : publishing.Once) (ids : List Uuid) : (ids.foldl Publishing.revive publishing).Once := by
  induction ids generalizing publishing with
  | nil => exact once
  | cons first rest ih => exact ih (once.revive first)

theorem Publishing.Once.block (once : publishing.Once) {command : Command} (found : publishing.store.find id = some command)
    (running : command.status = .inProgress) (reason : Option String) :
    ({ publishing with store := publishing.store.blockForExternalPublishPause command reason } : Publishing).Once := by
  have name := find_row_id found
  intro other
  have before := once other
  unfold Store.pauses at before ⊢
  by_cases same : id = other
  · subst same
    have free : ¬publishing.store.PauseBlocked id := by
      rw [pauseBlocked_found found]
      simp [Command.PauseBlocked, running]
    have stored : (publishing.store.blockForExternalPublishPause command reason).find id = some { command with
        status := .blocked, failureKind := some .paused, lastError := some (Store.pausedMessage reason), holder := none
        updatedAt := publishing.store.now } := by
      apply find_commit_same found
      exact name
    have blocked : (publishing.store.blockForExternalPublishPause command reason).PauseBlocked id := by
      rw [pauseBlocked_found stored]
      exact ⟨rfl, rfl⟩
    rw [if_neg free] at before
    rw [if_pos blocked]
    simp only [Store.blockForExternalPublishPause, Store.finish, Store.commit, name, List.singleton_append, List.count_cons_self]
    omega
  · have kept : (publishing.store.blockForExternalPublishPause command reason).find other = publishing.store.find other := by
      apply Keyed.find_put_other
      exact name.trans_ne same
    have still := PauseBlocked.of_same kept
    have counted : (publishing.store.blockForExternalPublishPause command reason).history.count (.pauseBlocked other) =
        publishing.store.history.count (.pauseBlocked other) := by
      simp only [Store.blockForExternalPublishPause, Store.finish, Store.commit, name, List.singleton_append]
      apply List.count_cons_of_ne
      exact fun equal => same (Note.pauseBlocked.inj equal)
    rw [counted]
    simp only [still]
    exact before

end Requeues

/-- What a worker knows of its command at a stage, while its request lives. -/
def Stage.Holds (deployment : Deployment) (worker : Worker) (store : Store) : Stage → Prop
  | .idle => True
  | .clock claimNow => claimNow ≤ store.now ∧ worker.deadline ≤ claimNow + deployment.requestTimeout
  | .claimed id claimNow | .cleared id claimNow => Claimed worker id claimNow store
  | .marked id claimNow | .ready id claimNow | .calling id claimNow | .returned id claimNow _ | .failing id claimNow _ =>
    Holding worker id claimNow store

/-- No pause has been read as active so far. -/
def Stage.unpaused : Stage → Bool
  | .claimed _ _ | .cleared _ _ | .marked _ _ | .ready _ _ | .calling _ _ => true
  | _ => false

namespace Publishing

structure Sound (deployment : Deployment) (publishing : Publishing) : Prop where
  valid : StoreValid deployment publishing.store
  own : ∀ (index : Nat) (attempt : Attempt), publishing.attempts[index]? = some attempt → attempt.worker.index = index
  started : ∀ (index : Nat) (attempt : Attempt), publishing.attempts[index]? = some attempt →
    Started deployment attempt.worker publishing.store
  holds : ∀ (index : Nat) (attempt : Attempt), publishing.attempts[index]? = some attempt →
    publishing.store.now ≤ attempt.worker.deadline → attempt.stage.Holds deployment attempt.worker publishing.store
  silent : ∀ attempt ∈ publishing.attempts, attempt.stage.unpaused = true → attempt.sawPause = false
  scanned : ∀ recovery ∈ publishing.recoveries, recovery.scannedAt ≤ publishing.store.now
  once : publishing.Once

section Rules
variable {deployment : Deployment} {publishing : Publishing} {after : Store} {index : Nat} {attempt next : Attempt}

theorem Stage.Holds.stays {stage : Stage} {worker : Worker} {store after : Store} (holds : stage.Holds deployment worker store)
    (relied : Rely worker.index store after) (alive : after.now ≤ worker.deadline) : stage.Holds deployment worker after := by
  have living : decide (after.now ≤ worker.deadline) = true := decide_eq_true alive
  cases stage with
  | idle => exact True.intro
  | clock claimNow => exact ⟨Nat.le_trans holds.1 relied.1, holds.2⟩
  | claimed id claimNow => exact Claimed.stays holds relied living
  | cleared id claimNow => exact Claimed.stays holds relied living
  | marked id claimNow => exact Holding.stays holds relied living
  | ready id claimNow => exact Holding.stays holds relied living
  | calling id claimNow => exact Holding.stays holds relied living
  | returned id claimNow outcome => exact Holding.stays holds relied living
  | failing id claimNow providerCalled => exact Holding.stays holds relied living

theorem Sound.move (sound : publishing.Sound deployment) (harmless : Harmless (rules deployment) publishing.store after)
    (once : ({ publishing with store := after } : Publishing).Once) : Sound deployment { publishing with store := after } where
  valid := harmless.1
  own := sound.own
  started index attempt found := (sound.started index attempt found).stays (harmless.2 index)
  holds index attempt found alive := by
    have relied := harmless.2 attempt.worker.index
    exact Stage.Holds.stays (sound.holds index attempt found (Nat.le_trans relied.1 alive)) relied alive
  silent := sound.silent
  scanned recovery inside := Nat.le_trans (sound.scanned recovery inside) (harmless.2 0).1
  once := once

theorem Sound.act (sound : publishing.Sound deployment) (found : publishing.attempts[index]? = some attempt)
    (valid : StoreValid deployment after) (relied : ∀ other, other ≠ attempt.worker.index → Rely other publishing.store after)
    (same : next.worker = attempt.worker) (holds : next.stage.Holds deployment next.worker after)
    (silent : next.stage.unpaused = true → next.sawPause = false)
    (once : ({ publishing with store := after } : Publishing).Once) :
    Sound deployment ({ publishing with store := after }.enter index next) := by
  have mine := sound.own index attempt found
  have later : publishing.store.now ≤ after.now := (relied (attempt.worker.index + 1) (by omega)).1
  have which : ∀ (position : Nat) (other : Attempt), (publishing.attempts.set index next)[position]? = some other →
      (position = index ∧ other = next) ∨ (position ≠ index ∧ publishing.attempts[position]? = some other) := by
    intro position other selected
    rw [List.getElem?_set] at selected
    by_cases at_index : index = position
    · rw [if_pos at_index] at selected
      split at selected
      · exact .inl ⟨at_index.symm, (Option.some.inj selected).symm⟩
      · cases selected
    · rw [if_neg at_index] at selected
      exact .inr ⟨fun equal => at_index equal.symm, selected⟩
  refine ⟨valid, ?_, ?_, ?_, ?_, fun recovery inside => Nat.le_trans (sound.scanned recovery inside) later, once⟩
  · intro position other selected
    rcases which position other selected with ⟨rfl, rfl⟩ | ⟨_, old⟩
    · rw [same]
      exact mine
    · exact sound.own position other old
  · intro position other selected
    have grown : ∀ {worker : Worker}, Started deployment worker publishing.store → Started deployment worker after := by
      intro worker before
      unfold Started at before ⊢
      omega
    rcases which position other selected with ⟨rfl, rfl⟩ | ⟨_, old⟩
    · rw [same]
      exact grown (sound.started position attempt found)
    · exact grown (sound.started position other old)
  · intro position other selected alive
    rcases which position other selected with ⟨rfl, rfl⟩ | ⟨different, old⟩
    · exact holds
    · have apart : other.worker.index ≠ attempt.worker.index := by
        rw [sound.own position other old, mine]
        exact different
      have kept := relied other.worker.index apart
      exact Stage.Holds.stays (sound.holds position other old (Nat.le_trans kept.1 alive)) kept alive
  · intro other inside calm
    obtain ⟨position, selected⟩ := List.mem_iff_getElem?.mp inside
    rcases which position other selected with ⟨_, rfl⟩ | ⟨_, old⟩
    · exact silent calm
    · exact sound.silent other (List.mem_of_getElem? old) calm

theorem Sound.goOn (sound : publishing.Sound deployment) (found : publishing.attempts[index]? = some attempt)
    (same : next.worker = attempt.worker) (holds : next.stage.Holds deployment next.worker publishing.store)
    (silent : next.stage.unpaused = true → next.sawPause = false) : Sound deployment (publishing.enter index next) :=
  sound.act found sound.valid (fun other _ => rely_refl other publishing.store) same holds silent sound.once

private theorem onWorker_sound (sound : publishing.Sound deployment) {body : Attempt → Publishing}
    (kept : ∀ attempt, publishing.attempts[index]? = some attempt → publishing.store.now ≤ attempt.worker.deadline →
      (body attempt).Sound deployment) : (publishing.onWorker index body).Sound deployment := by
  unfold onWorker
  split
  next attempt found =>
    split
    next alive => exact kept attempt found alive
    next => exact sound
  next => exact sound

end Rules

section Steps
variable {deployment : Deployment} {publishing : Publishing} {index : Nat} {attempt : Attempt} {id : Uuid} {claimNow : Nat}

theorem Sound.claim (sound : publishing.Sound deployment) (found : publishing.attempts[index]? = some attempt)
    (alive : publishing.store.now ≤ attempt.worker.deadline) (clock : attempt.stage = .clock claimNow) (overBudget : List Uuid)
    (answer : Answer) : (publishing.claim deployment index attempt claimNow overBudget answer).Sound deployment := by
  have read := sound.holds index attempt found alive
  rw [clock] at read
  have harmless := claim_harmless sound.valid read.2 deployment.tickBudget overBudget answer
  unfold Publishing.claim
  apply sound.act found harmless.1 fun other _ => harmless.2 other
  · rfl
  · dsimp only
    cases result : (publishing.store.claim attempt.worker claimNow deployment.tickBudget overBudget answer).1 with
    | claimed id => exact claim_claims sound.valid result
    | idle => exact True.intro
    | overBudget id => exact True.intro
    | deferred => exact True.intro
  · exact fun _ => rfl
  · exact sound.once.calm (claim_calm sound.valid attempt.worker claimNow deployment.tickBudget overBudget answer)

theorem Sound.readPause (sound : publishing.Sound deployment) (found : publishing.attempts[index]? = some attempt)
    (claimed : Claimed attempt.worker id claimNow publishing.store) (calm : attempt.sawPause = false) (answer : Answer) :
    (publishing.readPause index attempt id claimNow answer).Sound deployment := by
  unfold Publishing.readPause
  split
  next => exact sound.goOn found rfl claimed.holding (fun open_ => absurd open_ (by simp [Stage.unpaused]))
  next => exact sound.goOn found rfl claimed.holding (fun open_ => absurd open_ (by simp [Stage.unpaused]))
  next => exact sound.goOn found rfl claimed (fun _ => calm)

theorem Sound.mark (sound : publishing.Sound deployment) (found : publishing.attempts[index]? = some attempt)
    (claimed : Claimed attempt.worker id claimNow publishing.store) (calm : attempt.sawPause = false) (answer : Answer) :
    (publishing.mark index attempt id claimNow answer).Sound deployment := by
  obtain ⟨command, row, held, running, since, unmarked⟩ := claimed
  unfold Publishing.mark
  split
  next => exact sound.goOn found rfl ⟨command, row, held, running, since⟩ (fun open_ => absurd open_ (by simp [Stage.unpaused]))
  next =>
    have kept := mark_keeps sound.valid row held running unmarked
    apply sound.act found kept.1 kept.2
    · rfl
    · exact mark_holding row held running since
    · exact fun _ => calm
    · exact sound.once.calm (mark_calm row running)

theorem Sound.readAgain (sound : publishing.Sound deployment) (found : publishing.attempts[index]? = some attempt)
    (holding : Holding attempt.worker id claimNow publishing.store) (calm : attempt.sawPause = false) (answer : Answer) :
    (publishing.readAgain index attempt id claimNow answer).Sound deployment := by
  unfold Publishing.readAgain
  split
  next => exact sound.goOn found rfl holding (fun open_ => absurd open_ (by simp [Stage.unpaused]))
  next =>
    split
    next => exact sound.goOn found rfl holding (fun open_ => absurd open_ (by simp [Stage.unpaused]))
    next => exact sound.goOn found rfl holding (fun _ => calm)

theorem Sound.finish (sound : publishing.Sound deployment) (found : publishing.attempts[index]? = some attempt)
    (holding : Holding attempt.worker id claimNow publishing.store) (answer : Answer) :
    (publishing.finish index attempt id claimNow answer).Sound deployment := by
  unfold Publishing.finish
  split
  next => exact sound.goOn found rfl holding (fun open_ => absurd open_ (by simp [Stage.unpaused]))
  next => exact sound
  next => exact sound.goOn found rfl holding (fun open_ => absurd open_ (by simp [Stage.unpaused]))

theorem Sound.conclude (sound : publishing.Sound deployment) (found : publishing.attempts[index]? = some attempt)
    (holding : Holding attempt.worker id claimNow publishing.store) (outcome : Outcome) (answer : Answer) :
    (publishing.conclude index attempt id claimNow outcome answer).Sound deployment := by
  obtain ⟨command, row, held, running, since⟩ := holding
  unfold Publishing.conclude
  split
  next => exact sound.goOn found rfl ⟨command, row, held, running, since⟩ (fun open_ => absurd open_ (by simp [Stage.unpaused]))
  next =>
    have kept := conclude_keeps sound.valid row held claimNow outcome
    apply sound.act found kept.1 kept.2
    · rfl
    · exact True.intro
    · exact fun open_ => absurd open_ (by simp [Stage.unpaused])
    · by_cases paused : ∃ reason, outcome = .paused reason
      · obtain ⟨reason, rfl⟩ := paused
        simp only [Store.conclude, row]
        exact sound.once.block row running reason
      · apply sound.once.calm
        apply conclude_calm row running
        exact fun reason equal => paused ⟨reason, equal⟩

theorem Sound.recordFailure (sound : publishing.Sound deployment) (found : publishing.attempts[index]? = some attempt)
    (holding : Holding attempt.worker id claimNow publishing.store) (providerCalled : Bool) (answer : Answer) :
    Sound deployment ({ publishing with
        store := publishing.store.recordUnclassifiedBatchFailure id providerCalled claimNow answer }.enter index
      { attempt with stage := .idle }) := by
  obtain ⟨command, row, held, running, since⟩ := holding
  have kept := record_failure_keeps sound.valid row held providerCalled claimNow answer
  apply sound.act found kept.1 kept.2
  · rfl
  · exact True.intro
  · exact fun open_ => absurd open_ (by simp [Stage.unpaused])
  · exact sound.once.calm (record_failure_calm publishing.store id providerCalled claimNow answer)

theorem Sound.requeue (sound : publishing.Sound deployment) (requeue : Requeue) : (publishing.requeue requeue).Sound deployment := by
  have unpaused : Harmless (rules deployment) publishing.store { publishing.store with
      pausedOrgs := publishing.store.pausedOrgs.filter fun org => some org ≠ requeue.resumes } :=
    ⟨⟨sound.valid.keys, sound.valid.rows, sound.valid.absent, sound.valid.once⟩,
      fun _ => ⟨Nat.le_refl _, fun _ _ _ found _ _ => ⟨found, rfl⟩⟩⟩
  have harmless := unpaused.trans (requeue_paused_harmless unpaused.1 requeue.ids)
  have rest : ∀ (ids : List Uuid) (publishing : Publishing), (ids.foldl revive publishing).attempts = publishing.attempts ∧
      (ids.foldl revive publishing).recoveries = publishing.recoveries := by
    intro ids
    induction ids with
    | nil => exact fun _ => ⟨rfl, rfl⟩
    | cons first rest ih => exact fun publishing => ih (publishing.revive first)
  have moved : (publishing.requeue requeue).store = (Store.requeuePaused { publishing.store with
      pausedOrgs := publishing.store.pausedOrgs.filter fun org => some org ≠ requeue.resumes } requeue.ids) := requeue_store _ _
  have once : (publishing.requeue requeue).Once := by
    apply Once.requeue
    exact sound.once
  obtain ⟨attempts, recoveries⟩ := rest requeue.ids { publishing with store := { publishing.store with
    pausedOrgs := publishing.store.pausedOrgs.filter fun org => some org ≠ requeue.resumes } }
  rw [← moved] at harmless
  have later : publishing.store.now ≤ (publishing.requeue requeue).store.now := (harmless.2 0).1
  refine ⟨harmless.1, ?_, ?_, ?_, ?_, ?_, once⟩
  · intro position other found
    exact sound.own position other (attempts ▸ found)
  · intro position other found
    exact (sound.started position other (attempts ▸ found)).stays (harmless.2 position)
  · intro position other found alive
    have relied := harmless.2 other.worker.index
    exact Stage.Holds.stays (sound.holds position other (attempts ▸ found) (Nat.le_trans relied.1 alive)) relied alive
  · intro other inside
    exact sound.silent other (attempts ▸ inside)
  · intro recovery inside
    exact Nat.le_trans (sound.scanned recovery (recoveries ▸ inside)) later

end Steps

/-- A recovery reaches only commands whose claim was too old already when it looked for them. -/
def Timely (publishing : Publishing) : PublishingEvent → Prop
  | .recover index id _ => ∀ recovery ∈ publishing.recoveries[index]?, ∀ command ∈ publishing.store.find id,
    command.status = .inProgress → Store.stuckSince recovery.scannedAt command = true
  | _ => True

instance (publishing : Publishing) : DecidablePred publishing.Timely := fun event => by
  cases event <;> unfold Timely <;> infer_instance

section Run
variable {deployment : Deployment} {publishing : Publishing}

private theorem appended_cases {α : Type} {rows : List α} {row found : α} {index : Nat} (selected : (rows ++ [row])[index]? = some found) :
    rows[index]? = some found ∨ (index = rows.length ∧ found = row) := by
  rcases Nat.lt_or_ge index rows.length with inside | outside
  · rw [List.getElem?_append_left inside] at selected
    exact .inl selected
  · rw [List.getElem?_append_right outside, List.getElem?_singleton] at selected
    split at selected
    next last => exact .inr ⟨by omega, (Option.some.inj selected).symm⟩
    next => cases selected

theorem Sound.recover (sound : publishing.Sound deployment) {recovery : Recovery} (listed : recovery ∈ publishing.recoveries)
    (id : Uuid) (answer : Answer) (stale : ∀ command, publishing.store.find id = some command → command.status = .inProgress →
      Store.stuckSince recovery.scannedAt command = true) :
    Sound deployment { publishing with store := publishing.store.recoverInterrupted id recovery.scannedAt answer } :=
  sound.move (recover_stale_harmless sound.valid id (sound.scanned recovery listed) answer stale)
    (sound.once.calm (recover_calm publishing.store id answer stale))

theorem Sound.step (sound : publishing.Sound deployment) {event : PublishingEvent} (timely : publishing.Timely event) :
    (publishing.step deployment event).Sound deployment := by
  cases event with
  | elapse duration =>
    apply sound.move (outside_harmless sound.valid (.elapse duration))
    exact sound.once
  | create command =>
    apply sound.move (create_harmless sound.valid command)
    exact sound.once.calm (create_calm _ command)
  | pause orgId =>
    apply sound.move (outside_harmless sound.valid (.pause orgId))
    exact sound.once
  | humanRetry id =>
    apply sound.move (retry_harmless sound.valid id false)
    exact sound.once.calm (human_retry_calm _ id)
  | voidForGate gateId reasonCode =>
    apply sound.move (void_harmless sound.valid gateId reasonCode)
    exact sound.once.calm (void_calm _ gateId reasonCode)
  | cancel id =>
    apply sound.move (cancel_harmless sound.valid id)
    exact sound.once.calm (cancel_calm _ id)
  | resume orgId => exact ⟨sound.valid, sound.own, sound.started, sound.holds, sound.silent, sound.scanned, sound.once⟩
  | sweep => exact ⟨sound.valid, sound.own, sound.started, sound.holds, sound.silent, sound.scanned, sound.once⟩
  | scan index =>
    simp only [Publishing.step]
    split
    · exact ⟨sound.valid, sound.own, sound.started, sound.holds, sound.silent, sound.scanned, sound.once⟩
    · exact sound
  | commit index =>
    simp only [Publishing.step]
    split
    · apply Sound.requeue
      exact ⟨sound.valid, sound.own, sound.started, sound.holds, sound.silent, sound.scanned, sound.once⟩
    · exact sound
  | sweepStuck answer =>
    apply sound.move (sweep_harmless sound.valid answer.stuck publishing.store.now)
    exact sound.once.calm (sweep_stuck_calm _ answer.stuck _)
  | scanStuck =>
    refine ⟨sound.valid, sound.own, sound.started, sound.holds, sound.silent, ?_, sound.once⟩
    intro recovery inside
    rcases List.mem_append.mp inside with old | new
    · exact sound.scanned recovery old
    · rw [List.mem_singleton.mp new]
      exact Nat.le_refl _
  | recover index id answer =>
    simp only [Publishing.step]
    split
    next recovery found =>
      split
      · exact sound.recover (List.mem_of_getElem? found) id answer (timely recovery found)
      · exact sound
    next => exact sound
  | start =>
    refine ⟨sound.valid, ?_, ?_, ?_, ?_, sound.scanned, sound.once⟩
    all_goals simp only [Publishing.step]
    · intro position other found
      rcases appended_cases found with old | ⟨new, rfl⟩
      · exact sound.own position other old
      · exact new.symm
    · intro position other found
      rcases appended_cases found with old | ⟨_, rfl⟩
      · exact sound.started position other old
      · exact Nat.le_refl _
    · intro position other found alive
      rcases appended_cases found with old | ⟨_, rfl⟩
      · exact sound.holds position other old alive
      · exact True.intro
    · intro other inside open_
      rcases List.mem_append.mp inside with old | new
      · exact sound.silent other old open_
      · rw [List.mem_singleton.mp new]
  | clock index =>
    apply onWorker_sound sound
    intro attempt found alive
    split
    next =>
      apply sound.goOn found
      · rfl
      · exact ⟨Nat.le_refl _, sound.started index attempt found⟩
      · exact fun open_ => absurd open_ (by simp [Stage.unpaused])
    next => exact sound
  | claim index overBudget answer =>
    apply onWorker_sound sound
    intro attempt found alive
    split
    next claimNow clock => exact sound.claim found alive clock overBudget answer
    next => exact sound
  | readPause index answer =>
    apply onWorker_sound sound
    intro attempt found alive
    split
    next id claimNow claimed =>
      have holds := sound.holds index attempt found alive
      rw [claimed] at holds
      exact sound.readPause found holds (sound.silent attempt (List.mem_of_getElem? found) (by rw [claimed]; rfl)) answer
    next => exact sound
  | mark index answer =>
    apply onWorker_sound sound
    intro attempt found alive
    split
    next id claimNow cleared =>
      have holds := sound.holds index attempt found alive
      rw [cleared] at holds
      exact sound.mark found holds (sound.silent attempt (List.mem_of_getElem? found) (by rw [cleared]; rfl)) answer
    next => exact sound
  | readAgain index answer =>
    apply onWorker_sound sound
    intro attempt found alive
    split
    next id claimNow marked =>
      have holds := sound.holds index attempt found alive
      rw [marked] at holds
      exact sound.readAgain found holds (sound.silent attempt (List.mem_of_getElem? found) (by rw [marked]; rfl)) answer
    next => exact sound
  | call index =>
    apply onWorker_sound sound
    intro attempt found alive
    split
    next id claimNow ready =>
      have holds := sound.holds index attempt found alive
      rw [ready] at holds
      exact sound.goOn found rfl holds fun _ => sound.silent attempt (List.mem_of_getElem? found) (by rw [ready]; rfl)
    next => exact sound
  | finish index answer =>
    apply onWorker_sound sound
    intro attempt found alive
    have holds := sound.holds index attempt found alive
    split
    next id claimNow marked =>
      rw [marked] at holds
      split
      · exact sound.finish found holds answer
      · exact sound
    next id claimNow ready =>
      rw [ready] at holds
      exact sound.finish found holds answer
    next id claimNow calling =>
      rw [calling] at holds
      exact sound.finish found holds answer
    next => exact sound
  | conclude index answer =>
    apply onWorker_sound sound
    intro attempt found alive
    split
    next id claimNow outcome returned =>
      have holds := sound.holds index attempt found alive
      rw [returned] at holds
      exact sound.conclude found holds outcome answer
    next => exact sound
  | recordFailure index answer =>
    apply onWorker_sound sound
    intro attempt found alive
    split
    next id claimNow providerCalled failing =>
      have holds := sound.holds index attempt found alive
      rw [failing] at holds
      exact sound.recordFailure found holds providerCalled answer
    next => exact sound

/-- What an event does to the commands that wait for the end of a pause. -/
structure PausesKept (deployment : Deployment) (publishing : Publishing) (event : PublishingEvent) : Prop where
  /-- They wait as they are, until an end of a pause or a sweep puts them back. -/
  waits : ∀ id, publishing.store.PauseBlocked id →
    (publishing.step deployment event).store.find id = publishing.store.find id ∨
      ((∃ index, event = .commit index) ∧
        ∃ command, (publishing.step deployment event).store.find id = some command ∧ command.status = .pending)
  /-- A scan finds all of them in an organisation, and a sweep all organisations that have some. -/
  finds : ∀ index resumes org rest ids, event = .scan index → publishing.requeues[index]? = some ⟨resumes, org :: rest, ids⟩ →
    ∃ scanned, (publishing.step deployment event).requeues[index]? = some scanned ∧ scanned.orgs = rest ∧
      ∀ command ∈ publishing.store.commands, command.orgId = org → command.PauseBlocked → command.id ∈ scanned.ids
  sweeps : event = .sweep → ∃ swept ∈ (publishing.step deployment event).requeues,
    ∀ command ∈ publishing.store.commands, command.PauseBlocked → command.orgId ∉ publishing.store.pausedOrgs →
      command.orgId ∈ swept.orgs
  /-- None of those that were found waits on after the commit. -/
  revives : ∀ index resumes ids, event = .commit index → publishing.requeues[index]? = some ⟨resumes, [], ids⟩ →
    ∀ id ∈ ids, ¬(publishing.step deployment event).store.PauseBlocked id
  /-- An end of a pause and a sweep touch no other command. -/
  spares : ∀ index, event = .commit index → ∀ id, ¬publishing.store.PauseBlocked id →
    (publishing.step deployment event).store.find id = publishing.store.find id
  once : (publishing.step deployment event).Once
  /-- Whoever calls a provider has read no active pause. -/
  silent : ∀ attempt ∈ (publishing.step deployment event).attempts, ∀ id claimNow, attempt.stage = .calling id claimNow →
    attempt.sawPause = false

private theorem onWorker_waits {index : Nat} {body : Attempt → Publishing} {id : Uuid}
    (kept : ∀ attempt, publishing.attempts[index]? = some attempt → publishing.store.now ≤ attempt.worker.deadline →
      (body attempt).store.find id = publishing.store.find id) :
    (publishing.onWorker index body).store.find id = publishing.store.find id := by
  unfold onWorker
  split
  next attempt found =>
    split
    next alive => exact kept attempt found alive
    next => rfl
  next => rfl

private theorem conclude_waits {index : Nat} {attempt : Attempt} {other id : Uuid} {claimNow : Nat}
    (holding : Holding attempt.worker other claimNow publishing.store) (outcome : Outcome) (answer : Answer)
    (waiting : publishing.store.PauseBlocked id) :
    (publishing.conclude index attempt other claimNow outcome answer).store.find id = publishing.store.find id := by
  obtain ⟨command, row, _, running, _⟩ := holding
  unfold Publishing.conclude
  split
  next => rfl
  next =>
    by_cases paused : ∃ reason, outcome = .paused reason
    · obtain ⟨reason, rfl⟩ := paused
      have different : other ≠ id := by
        rintro rfl
        have blocked := (pauseBlocked_found row).mp waiting
        rw [Command.PauseBlocked, running] at blocked
        cases blocked.1
      simp only [Store.conclude, row]
      apply Keyed.find_put_other
      exact (find_row_id row).trans_ne different
    · exact (conclude_calm row running (fun reason equal => paused ⟨reason, equal⟩) claimNow).waits id waiting

theorem Sound.waits (sound : publishing.Sound deployment) {event : PublishingEvent} (timely : publishing.Timely event) {id : Uuid}
    (waiting : publishing.store.PauseBlocked id) :
    (publishing.step deployment event).store.find id = publishing.store.find id ∨
      ((∃ index, event = .commit index) ∧
        ∃ command, (publishing.step deployment event).store.find id = some command ∧ command.status = .pending) := by
  cases event with
  | elapse duration => exact .inl rfl
  | create command => exact .inl ((create_calm _ command).waits id waiting)
  | pause orgId => exact .inl rfl
  | humanRetry other => exact .inl ((human_retry_calm _ other).waits id waiting)
  | voidForGate gateId reasonCode => exact .inl ((void_calm _ gateId reasonCode).waits id waiting)
  | cancel other => exact .inl ((cancel_calm _ other).waits id waiting)
  | resume orgId => exact .inl rfl
  | sweep => exact .inl rfl
  | scan index =>
    left
    simp only [Publishing.step]
    split <;> rfl
  | commit index =>
    simp only [Publishing.step]
    split
    next resumes ids found =>
      rcases requeue_fold ids _ id with ⟨same, _⟩ | ⟨_, _, _, pending⟩
      · exact .inl same
      · exact .inr ⟨⟨index, rfl⟩, pending⟩
    next => exact .inl rfl
  | sweepStuck answer => exact .inl ((sweep_stuck_calm _ answer.stuck _).waits id waiting)
  | scanStuck => exact .inl rfl
  | recover index other answer =>
    left
    simp only [Publishing.step]
    split
    next recovery found =>
      split
      · exact (recover_calm publishing.store other answer (timely recovery found)).waits id waiting
      · rfl
    next => rfl
  | start => exact .inl rfl
  | clock index =>
    left
    apply onWorker_waits
    intro attempt found alive
    split <;> rfl
  | claim index overBudget answer =>
    left
    apply onWorker_waits
    intro attempt found alive
    split
    next claimNow clock => exact (claim_calm sound.valid _ _ _ overBudget answer).waits id waiting
    next => rfl
  | readPause index answer =>
    left
    apply onWorker_waits
    intro attempt found alive
    split
    next =>
      unfold Publishing.readPause
      split <;> rfl
    next => rfl
  | mark index answer =>
    left
    apply onWorker_waits
    intro attempt found alive
    split
    next other claimNow cleared =>
      have holds := sound.holds index attempt found alive
      rw [cleared] at holds
      obtain ⟨command, row, _, running, _⟩ := holds
      unfold Publishing.mark
      split
      next => rfl
      next => exact (mark_calm row running).waits id waiting
    next => rfl
  | readAgain index answer =>
    left
    apply onWorker_waits
    intro attempt found alive
    split
    next =>
      unfold Publishing.readAgain
      split
      · rfl
      · split <;> rfl
    next => rfl
  | call index =>
    left
    apply onWorker_waits
    intro attempt found alive
    split <;> rfl
  | finish index answer =>
    left
    have kept : ∀ attempt other claimNow, (publishing.finish index attempt other claimNow answer).store = publishing.store := by
      intro attempt other claimNow
      unfold Publishing.finish
      split <;> rfl
    apply onWorker_waits
    intro attempt found alive
    split
    next =>
      split
      · rw [kept]
      · rfl
    next => rw [kept]
    next => rw [kept]
    next => rfl
  | conclude index answer =>
    left
    apply onWorker_waits
    intro attempt found alive
    split
    next other claimNow outcome returned =>
      have holds := sound.holds index attempt found alive
      rw [returned] at holds
      exact conclude_waits holds outcome answer waiting
    next => rfl
  | recordFailure index answer =>
    left
    apply onWorker_waits
    intro attempt found alive
    split
    next other claimNow providerCalled failing =>
      exact (record_failure_calm publishing.store other providerCalled claimNow answer).waits id waiting
    next => rfl

theorem Sound.kept (sound : publishing.Sound deployment) (event : PublishingEvent) (timely : publishing.Timely event) :
    PausesKept deployment publishing event := by
  have after := sound.step timely
  refine ⟨fun id waiting => sound.waits timely waiting, ?_, ?_, ?_, ?_, after.once, ?_⟩
  · rintro index resumes org rest ids rfl found
    have inside : index < publishing.requeues.length := (List.getElem?_eq_some_iff.mp found).1
    simp only [Publishing.step, found]
    refine ⟨_, List.getElem?_set_self inside, rfl, fun command listed owner waiting => ?_⟩
    apply List.mem_append_right
    apply List.mem_map_of_mem
    exact List.mem_filter.mpr ⟨listed, by simp [owner, waiting]⟩
  · rintro rfl
    refine ⟨_, List.mem_append_right _ List.mem_cons_self, fun command listed waiting open_ => ?_⟩
    apply List.mem_dedup.mpr
    apply List.mem_map_of_mem
    exact List.mem_filter.mpr ⟨listed, by simp [waiting, open_]⟩
  · rintro index resumes ids rfl found id inside
    simp only [Publishing.step, found]
    rcases requeue_fold ids _ id with ⟨same, spared⟩ | ⟨_, _, ended, _⟩
    · exact fun still => spared inside ((PauseBlocked.of_same same).mp still)
    · exact ended
  · rintro index rfl id free
    simp only [Publishing.step]
    split
    next resumes ids found =>
      rcases requeue_fold ids _ id with ⟨same, _⟩ | ⟨waiting, _⟩
      · exact same
      · exact absurd waiting free
    next => rfl
  · intro attempt inside id claimNow calling
    exact after.silent attempt inside (by rw [calling]; rfl)

def initial (now : Nat) : Publishing := { store := { now := now } }

/-- In every run of pauses, ends of pauses, sweeps, overlapping workers and people whose recoveries
are timely, each event keeps the commands that wait for the end of a pause. -/
theorem pauses_lose_nothing (deployment : Deployment) (now : Nat) (events : List PublishingEvent)
    (timely : Runs.Throughout (step deployment) Timely (initial now) events) :
    Runs.Throughout (step deployment) (PausesKept deployment) (initial now) events := by
  have start : (initial now).Sound deployment := by
    refine ⟨empty_store_valid deployment now, ?_, ?_, ?_, ?_, ?_, ?_⟩
    · exact fun index attempt found => by simp [initial] at found
    · exact fun index attempt found => by simp [initial] at found
    · exact fun index attempt found => by simp [initial] at found
    · exact fun attempt inside => absurd inside List.not_mem_nil
    · exact fun recovery inside => absurd inside List.not_mem_nil
    · intro id
      simp [initial, Store.pauses, Store.PauseBlocked, Store.find, Keyed.find]
  apply timely.carry
  · exact fun _ _ calm sound => Sound.step sound calm
  · exact start
  · exact fun _ event calm sound => Sound.kept sound event calm

end Run

section Scenarios

/-- A worker takes a command through to its end. -/
def wholeAttempt (worker : Nat) : List PublishingEvent :=
  [.clock worker, .claim worker [] {}, .readPause worker {}, .mark worker {}, .readAgain worker {}, .call worker, .finish worker {},
    .conclude worker {}]

/-- A command is stopped by a pause, put back at its end, and published. -/
def pausedRun : List PublishingEvent :=
  [.create queued, .pause 1, .start] ++ wholeAttempt 0 ++ [.resume 1, .scan 0, .commit 0] ++ wholeAttempt 0

theorem pauses_lose_nothing_resumed :
    Runs.Throughout (step production) (PausesKept production) (initial 0) pausedRun :=
  pauses_lose_nothing production 0 pausedRun (by decide +kernel)

/-- A recovery comes to a command that another one has recovered since, and that a worker has
claimed again; the organisation pauses, and the next worker to claim it stops it. -/
def recoveredTwice : List PublishingEvent :=
  [.create queued, .start, .clock 0, .claim 0 [] {}, .elapse (minutes 91), .scanStuck, .scanStuck, .recover 0 0 {},
    .elapse (minutes 2), .start, .clock 1, .claim 1 [] {}, .readPause 1 {}, .recover 1 0 {}, .mark 1 {}, .readAgain 1 {}, .call 1,
    .elapse (minutes 2), .pause 1, .start, .clock 2, .claim 2 [] {}, .readPause 2 {}, .conclude 2 {}, .finish 1 {}]

/-- The first of the two workers ends the command that waits for the end of the pause. -/
theorem waiting_command_lost :
    ¬Runs.Throughout (step production) (PausesKept production) (initial 0) (recoveredTwice ++ [.conclude 1 {}]) := by
  intro kept
  have last := (Runs.Throughout.append.mp kept).2.1
  have waiting : (Runs.final (step production) (initial 0) recoveredTwice).store.PauseBlocked 0 := by decide +kernel
  have ended : ((step production (Runs.final (step production) (initial 0) recoveredTwice) (.conclude 1 {})).store.find 0).map
      Command.status = some .completed := by decide +kernel
  rcases last.waits 0 waiting with same | ⟨⟨index, commit⟩, _⟩
  · rw [same] at ended
    obtain ⟨command, found, blocked, _⟩ := waiting
    rw [show _ = some command from found, Option.map_some, blocked] at ended
    cases ended
  · cases commit

end Scenarios

end Publishing

end Sprintable.Publications
