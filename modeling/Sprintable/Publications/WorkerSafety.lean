import Sprintable.Publications.Contract

/-! Everything else that touches the queue: the sweep, the requeue after a pause,
the recovery of abandoned commands, the claim, and people. None of it disturbs a
row that a live worker holds, so a whole run never sends a command twice. -/

namespace Sprintable.Publications
open Interleave

section Harmless
variable {deployment : Deployment} {store : Store}

theorem StoreValid.fresh (valid : StoreValid deployment store) : store.find store.commands.length = none := by
  rw [Option.eq_none_iff_forall_ne_some]
  intro command found
  have listed : store.commands.length ∈ store.commands.map Command.id :=
    find_row_id found ▸ List.mem_map_of_mem (Keyed.find_mem found)
  rw [valid.keys, List.mem_range] at listed
  omega

theorem append_harmless (valid : StoreValid deployment store) {row : Command} (key : row.id = store.commands.length)
    (pending : row.status = .pending) (free : row.holder = none) :
    Harmless (rules deployment) store { store with commands := store.commands ++ [row] } := by
  have unsent : openCall row.id store.history = false := by
    rw [key]
    exact valid.absent _ valid.fresh
  refine ⟨⟨?_, fun id command found => ?_, fun id missing => ?_, valid.once⟩, fun index => ⟨Nat.le_refl _, ?_⟩⟩
  · simp [valid.keys, key, List.range_succ]
  · rcases Keyed.find_append_cases found with old | ⟨_, rfl, _⟩
    · exact valid.rows id command old
    · refine ⟨fun _ => unsent, ?_, ?_, ?_, fun _ => free⟩
      all_goals
        intro status
        rw [pending] at status
        cases status
  · apply valid.absent
    rw [Option.eq_none_iff_forall_ne_some]
    intro command old
    have kept : Keyed.find Command.id (store.commands ++ [row]) id = some command := Keyed.find_append_old old [row]
    exact absurd (kept.symm.trans missing) (by simp)
  · intro id command deadline found _ _
    exact ⟨Keyed.find_append_old found [row], rfl⟩

theorem create_harmless (valid : StoreValid deployment store) (command : Command) :
    Harmless (rules deployment) store (store.createOrGet command) := by
  unfold Store.createOrGet
  split
  · exact harmless_refl valid
  · exact append_harmless valid rfl rfl rfl

theorem sweep_harmless (valid : StoreValid deployment store) (stuck : List StuckContainer) (now : Nat) :
    Harmless (rules deployment) store (store.sweepStuckContainers stuck now) := by
  refine harmless_fold (fun row store valid => ?_) stuck valid
  cases row.resolverId with
  | none => exact harmless_refl valid
  | some resolver => exact create_harmless valid _

section Rows
variable {id : Uuid} {old row : Command}

theorem unclaimed_rely (valid : StoreValid deployment store) (found : store.find id = some old)
    (stopped : old.status ≠ .inProgress) (name : row.id = id) {notes : List Note}
    (about : ∀ note ∈ notes, note.command = row.id) (index : Nat) : Rely index store (store.commit row notes) := by
  refine commit_rely (name.symm ▸ found) (fun deadline held => ?_) about
  rw [(valid.rows id old found).free stopped] at held
  cases held

theorem requeue_harmless (valid : StoreValid deployment store) (found : store.find id = some old)
    (stopped : old.status ≠ .inProgress) (name : row.id = id) (pending : row.status = .pending)
    (free : row.holder = none) (unsent : openCall id store.history = false) :
    Harmless (rules deployment) store (store.commit row []) := by
  refine ⟨commit_valid valid (name.symm ▸ found) ⟨fun _ => name.symm ▸ unsent, ?_, ?_, ?_, fun _ => free⟩ (by simp)
    valid.once, unclaimed_rely valid found stopped name (by simp)⟩
  all_goals
    intro status
    rw [pending] at status
    cases status

theorem human_commit_harmless (valid : StoreValid deployment store) (found : store.find id = some old)
    (stopped : old.status ≠ .inProgress) (name : row.id = id) (rests : row.status ≠ .inProgress)
    (free : row.holder = none) : Harmless (rules deployment) store (store.commit row [.humanRetry id]) := by
  have closed : openCall row.id (.humanRetry id :: store.history) = false := by
    rw [name]
    exact openCall_released rfl rfl
  refine ⟨commit_valid valid (name.symm ▸ found)
    ⟨fun _ => closed, fun _ _ => closed, fun running => absurd running rests, fun running => absurd running rests,
      fun _ => free⟩ (by simp [Note.command, name]) ⟨by simp [Note.opens], valid.once⟩,
    unclaimed_rely valid found stopped name (by simp [Note.command, name])⟩

theorem stop_harmless (valid : StoreValid deployment store) (found : store.find id = some old)
    (stopped : old.status ≠ .inProgress) (name : row.id = id)
    (ends : row.status = .voided ∨ row.status = .blockedUnapproved ∨ row.status = .cancelled) (free : row.holder = none) :
    Harmless (rules deployment) store (store.commit row []) :=
  ⟨stop_valid valid found name ends free, unclaimed_rely valid found stopped name (by simp)⟩

end Rows

theorem retry_harmless (valid : StoreValid deployment store) (id : Uuid) (onlyPaused : Bool) :
    Harmless (rules deployment) store (store.retryDeadLetter id onlyPaused) := by
  unfold Store.retryDeadLetter
  cases found : store.find id with
  | none => exact harmless_refl valid
  | some command =>
    have row := valid.rows id command found
    have name := find_row_id found
    dsimp only
    split
    · split
      next blocked =>
        simp only [Bool.and_eq_true, beq_iff_eq] at blocked
        have stopped : command.status ≠ .inProgress := by simp [blocked.1]
        apply requeue_harmless valid found stopped
        · exact name
        · rfl
        · exact row.free stopped
        · exact name ▸ row.paused blocked.1 blocked.2
      · exact harmless_refl valid
    · split
      next retryable =>
        have stopped : command.status ≠ .inProgress := by
          intro running
          simp [Command.humanRetryable, Command.newsletterRetryable, running] at retryable
        apply human_commit_harmless valid found stopped
        · exact name
        · exact CommandStatus.noConfusion
        · exact row.free stopped
      · exact harmless_refl valid

theorem requeue_paused_harmless (valid : StoreValid deployment store) (ids : List Uuid) :
    Harmless (rules deployment) store (store.requeuePaused ids) :=
  harmless_fold (fun id _ valid => retry_harmless valid id true) ids valid

theorem human_publish_harmless (valid : StoreValid deployment store) (id : Uuid) :
    Harmless (rules deployment) store (store.humanPublish id) := by
  unfold Store.humanPublish
  cases found : store.find id with
  | none => exact harmless_refl valid
  | some command =>
    dsimp only
    split
    · exact harmless_refl valid
    next open_ =>
      have stopped : command.status ≠ .inProgress := by
        intro running
        simp [running] at open_
      have free := (valid.rows id command found).free stopped
      have name := find_row_id found
      have requeued : command.requeueForHumanPublish.id = command.id ∧
          command.requeueForHumanPublish.status = .pending ∧
          command.requeueForHumanPublish.holder = command.holder := by
        unfold Command.requeueForHumanPublish
        rw [if_neg open_]
        split <;> simp [Command.requeue]
      have rests : command.requeueForHumanPublish.status ≠ .inProgress := by simp [requeued.2.1]
      exact human_commit_harmless valid found stopped (requeued.1.trans name) rests (requeued.2.2.trans free)

theorem cancel_harmless (valid : StoreValid deployment store) (id : Uuid) :
    Harmless (rules deployment) store (store.cancelPending id) := by
  unfold Store.cancelPending
  cases found : store.find id with
  | none => exact harmless_refl valid
  | some command =>
    dsimp only
    split
    next pending =>
      have name := find_row_id found
      have stopped : command.status ≠ .inProgress := by simp [pending]
      apply stop_harmless valid found stopped
      · exact name
      · exact .inr (.inr rfl)
      · exact (valid.rows id command found).free stopped
    · exact harmless_refl valid

theorem void_harmless (valid : StoreValid deployment store) (gateId : Uuid) (reasonCode : String) :
    Harmless (rules deployment) store (store.voidPendingForGate gateId reasonCode) := by
  have lookup : ∀ id, (store.voidPendingForGate gateId reasonCode).find id = (store.find id).map _ := fun id =>
    Keyed.find_map _ fun row => by split <;> rfl
  refine ⟨⟨?_, fun id command found => ?_, fun id missing => ?_, valid.once⟩, fun index => ⟨Nat.le_refl _, ?_⟩⟩
  · have kept : (store.voidPendingForGate gateId reasonCode).commands.map Command.id = store.commands.map Command.id := by
      simp only [Store.voidPendingForGate, List.map_map]
      apply List.map_congr_left
      intro row _
      simp only [Function.comp_apply]
      split <;> rfl
    rw [kept, valid.keys]
    simp [Store.voidPendingForGate]
  · rw [lookup, Option.map_eq_some_iff] at found
    obtain ⟨old, present, rfl⟩ := found
    have row := valid.rows id old present
    split
    next pending =>
      refine ⟨?_, ?_, ?_, ?_, fun _ => row.free (by simp [pending.2.1])⟩
      all_goals
        intro status
        cases status
    · exact row
  · rw [lookup, Option.map_eq_none_iff] at missing
    exact valid.absent id missing
  · intro id command deadline found held _
    refine ⟨?_, rfl⟩
    have running : command.status = .inProgress := by
      by_contra stopped
      rw [(valid.rows id command found).free stopped] at held
      cases held
    rw [lookup, found, Option.map_some, if_neg (by simp [running])]

theorem stale_claim_expired (valid : StoreValid deployment store) {id : Uuid} {command : Command}
    (found : store.find id = some command) (running : command.status = .inProgress) {now : Nat} (past : now ≤ store.now)
    (stale : Store.stuckSince now command = true) (index deadline : Nat)
    (held : command.holder = some ⟨index, deadline⟩) : deadline < store.now := by
  obtain ⟨claimed, worker, claimedAt, holder, cut⟩ := (valid.rows id command found).held running
  rw [held] at holder
  cases holder
  have shorter := deployment.shorter
  have early : deadline ≤ claimed + deployment.requestTimeout := cut
  simp only [Store.stuckSince, claimedAt, Option.getD_some, decide_eq_true_eq] at stale
  omega

theorem reclaim_noted (store : Store) (id : Uuid) (command : Command) (note : Note) :
    Note.reclaimRecovered id ∈
      (Store.finish { store with history := .reclaimRecovered id :: store.history } command note).history := by
  simp [Store.finish, Store.commit]

theorem recover_stale_harmless (valid : StoreValid deployment store) (id : Uuid) {now : Nat} (past : now ≤ store.now)
    (answer : Answer) (old : ∀ command, store.find id = some command → command.status = .inProgress →
      Store.stuckSince now command = true) :
    Harmless (rules deployment) store (store.recoverInterrupted id now answer) := by
  unfold Store.recoverInterrupted
  split
  · exact harmless_refl valid
  · cases found : store.find id with
    | none => exact harmless_refl valid
    | some command =>
      dsimp only
      split
      · exact harmless_refl valid
      next running =>
        simp only [ne_eq, not_not] at running
        have stale := old command found running
        simp only [stale, if_true]
        have name := find_row_id found
        have expired := stale_claim_expired valid found running past stale
        split
        · constructor
          · apply finish_valid valid found
            all_goals simp [Note.command, Note.opens, name]
          · intro index
            apply commit_rely
            · exact name ▸ found
            · exact expired index
            · simp [Note.command, name]
        · exact ⟨fail_valid valid found name _ _ _ _ _, fun index => fail_rely found (expired index) _ _ _ _ _⟩

theorem recover_harmless (valid : StoreValid deployment store) (id : Uuid) {now : Nat} (past : now ≤ store.now)
    (answer : Answer)
    (permitted : ∀ note ∈ (store.recoverInterrupted id now answer).history, note.reclaims = false) :
    Harmless (rules deployment) store (store.recoverInterrupted id now answer) := by
  by_cases answered : (answer.raises || answer.locked.contains id) = true
  · unfold Store.recoverInterrupted
    rw [if_pos answered]
    exact harmless_refl valid
  · apply recover_stale_harmless valid id past answer
    intro command found running
    by_contra fresh
    have late : ∀ note ∈ (store.recoverInterrupted id now answer).history, note.reclaims = false := permitted
    unfold Store.recoverInterrupted at late
    rw [if_neg answered] at late
    simp only [found, running, fresh, ne_eq, not_true_eq_false, if_false] at late
    split at late
    · exact absurd (late _ (reclaim_noted store id _ _)) (by simp [Note.reclaims])
    · exact absurd (late _ (reclaim_noted store id _ _)) (by simp [Note.reclaims])

end Harmless

section Ticks
variable {deployment : Deployment} {worker : Worker} {store : Store}

theorem claim_harmless (valid : StoreValid deployment store) {claimNow : Nat}
    (started : worker.deadline ≤ claimNow + deployment.requestTimeout) (budget : Nat) (overBudget : List Uuid)
    (answer : Answer) : Harmless (rules deployment) store (store.claim worker claimNow budget overBudget answer).2 := by
  unfold Store.claim
  split
  · exact harmless_refl valid
  next command chosen =>
    obtain ⟨found, pending⟩ := claim_found valid chosen
    have row := valid.rows command.id command found
    have stopped : command.status ≠ .inProgress := by simp [pending]
    split
    · dsimp only
      split
      · exact harmless_refl valid
      · apply requeue_harmless valid found stopped
        · rfl
        · exact pending
        · exact row.free stopped
        · exact row.pending pending
    · split
      · exact harmless_refl valid
      · have name : (command.claim worker claimNow).id = command.id := command.claim_id worker claimNow
        constructor
        · apply commit_valid valid (name.symm ▸ found)
          · refine ⟨by simp [Command.claim], by simp [Command.claim], fun _ _ => ?_, fun _ => ?_, by simp [Command.claim]⟩
            · rw [name]
              exact row.pending pending
            · exact ⟨claimNow, worker, rfl, rfl, started⟩
          · simp
          · exact valid.once
        · exact unclaimed_rely valid found stopped name (by simp)

theorem rules_contract (deployment : Deployment) : Contract deployment (rules deployment) where
  stored valid := valid
  relied relied := relied
  recordFailure _ _ _ valid found held _ := record_failure_keeps valid found held _ _ _
  conclude _ _ _ valid found held _ := conclude_keeps valid found held _ _
  mark valid found held status unmarked := mark_keeps valid found held status unmarked
  sweep stuck now valid := sweep_harmless valid stuck now
  requeue ids valid := requeue_paused_harmless valid ids
  recover id _ answer past valid permitted := recover_harmless valid id past answer permitted
  claim budget overBudget answer _ valid started := claim_harmless valid started budget overBudget answer

end Ticks

theorem outside_harmless {deployment : Deployment} {store : Store} (valid : StoreValid deployment store)
    (event : Outside) : Harmless (rules deployment) store (event.act store) := by
  cases event with
  | elapse duration =>
    exact ⟨⟨valid.keys, valid.rows, valid.absent, valid.once⟩,
      fun _ => ⟨Nat.le_add_right _ _, fun _ _ _ found _ _ => ⟨found, rfl⟩⟩⟩
  | pause orgId =>
    exact ⟨⟨valid.keys, valid.rows, valid.absent, valid.once⟩,
      fun _ => ⟨Nat.le_refl _, fun _ _ _ found _ _ => ⟨found, rfl⟩⟩⟩
  | resume orgId =>
    have resumed : Harmless (rules deployment) store { store with pausedOrgs := store.pausedOrgs.filter (· ≠ orgId) } :=
      ⟨⟨valid.keys, valid.rows, valid.absent, valid.once⟩,
        fun _ => ⟨Nat.le_refl _, fun _ _ _ found _ _ => ⟨found, rfl⟩⟩⟩
    exact resumed.trans (requeue_paused_harmless resumed.1 _)
  | create command => exact create_harmless valid command
  | humanRetry id => exact retry_harmless valid id false
  | humanPublish id => exact human_publish_harmless valid id
  | voidForGate gateId reasonCode => exact void_harmless valid gateId reasonCode
  | cancel id => exact cancel_harmless valid id

theorem worker_disciplined (deployment : Deployment) : Disciplined (workerHost deployment) (rules deployment) where
  launch index fuel state _ := tick_keeps (rules_contract deployment) index fuel state
  outside event _ valid _ := outside_harmless valid event

theorem empty_store_valid (deployment : Deployment) (now : Nat) : StoreValid deployment { now := now } where
  keys := rfl
  rows := by simp [Store.find, Keyed.find]
  absent := fun _ _ => rfl
  once := True.intro

/-- No run of overlapping ticks, crashes, people and pauses starts a second
provider call of a command before its first one was settled. -/
theorem no_automatic_resend (deployment : Deployment) (now : Nat) (events : List (Event Answer Nat Outside))
    (considered : Runs.Throughout (step (workerHost deployment)) (Considered (workerHost deployment) (rules deployment))
      ⟨{ now := now }, []⟩ events) :
    ¬ Resent Note.releases (Runs.final (step (workerHost deployment)) ⟨{ now := now }, []⟩ events).shared.history :=
  never_reopened_not_resent ((worker_disciplined deployment).run (empty_store_valid deployment now) considered).once

section Scenarios

instance (deployment : Deployment) (system : System Answer Store) (event : Event Answer Nat Outside) :
    Decidable (Considered (workerHost deployment) (rules deployment) system event) :=
  inferInstanceAs (Decidable (∀ note ∈ _, _))

def production : Deployment where
  requestTimeout := minutes 5
  shorter := by decide
  tickBudget := 240

def queued : Command :=
  { id := 0, orgId := 1, gateId := 2, destination := 3, approvedVersion := 4, requestedByMemberId := 5, updatedAt := 0 }

/-- One whole tick of a worker that finds at most one command to send. -/
def tick (thread : Nat) (answer : Answer) : List (Event Answer Nat Outside) :=
  .start 5 :: List.replicate 16 (.run thread answer)

/-- A container is not ready at the first tick, and published at the second one. -/
def containerRun : List (Event Answer Nat Outside) :=
  .outside (.create queued) :: tick 0 { channelPost := .notYetPublished } ++
    .outside (.elapse (seconds 30)) :: tick 1 {}

/-- The organisation is paused after the call was recorded, and resumed. -/
def pausedRun : List (Event Answer Nat Outside) :=
  .outside (.create queued) :: .start 5 :: List.replicate 8 (.run 0 { channelPost := .paused none }) ++
    .outside (.pause 1) :: List.replicate 8 (.run 0 { channelPost := .paused none }) ++
    .outside (.resume 1) :: tick 1 {}

/-- The second call follows a recorded call that was neither completed, nor failed,
nor retried by a person: it asks for the container that the first one created, or
a pause had kept the first one from its adapter. -/
theorem container_called_again :
    Resent Note.settles (Runs.final (step (workerHost production)) ⟨{ now := 0 }, []⟩ containerRun).shared.history ∧
      Resent Note.settles (Runs.final (step (workerHost production)) ⟨{ now := 0 }, []⟩ pausedRun).shared.history :=
  ⟨⟨0, [.completed 0], [.containerCreated 0], [], by decide +kernel, by decide⟩,
    ⟨0, [.completed 0], [.pauseBlocked 0], [], by decide +kernel, by decide⟩⟩

theorem no_automatic_resend_container :
    ¬ Resent Note.releases
      (Runs.final (step (workerHost production)) ⟨{ now := 0 }, []⟩ containerRun).shared.history :=
  no_automatic_resend production 0 containerRun (by decide +kernel)

end Scenarios

end Sprintable.Publications
