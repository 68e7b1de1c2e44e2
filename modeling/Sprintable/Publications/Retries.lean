import Sprintable.Publications.Counters

/-! Runs of the worker, as far as the counters of its attempts go. -/

namespace Sprintable.Publications
open Interleave

def countRules (deployment : Deployment) : Discipline Store :=
  (rules deployment).strengthen AllCounted CountsGrow countsGrow_refl CountsGrow.trans

section Runs
variable {deployment : Deployment} {store after : Store}

theorem harmless_counted (harmless : Harmless (rules deployment) store after) (counted : StaysCounted store after) :
    Harmless (countRules deployment) store after :=
  ⟨⟨harmless.1, counted.1⟩, fun index => ⟨harmless.2 index, counted.2⟩⟩

theorem holder_counted {worker : Worker} (holder : HolderStep (rules deployment) worker store after)
    (counted : StaysCounted store after) : HolderStep (countRules deployment) worker store after :=
  ⟨⟨holder.1, counted.1⟩, fun other different => ⟨holder.2 other different, counted.2⟩⟩

theorem create_harmless_counted (valid : (countRules deployment).valid store) (command : Command) :
    Harmless (countRules deployment) store (store.createOrGet command) :=
  harmless_counted (create_harmless valid.1 command) (create_counted valid.1 valid.2 command)

theorem requeue_paused_counted (valid : (countRules deployment).valid store) (ids : List Uuid) :
    Harmless (countRules deployment) store (store.requeuePaused ids) := by
  apply harmless_fold _ ids valid
  exact fun id _ valid => harmless_counted (retry_harmless valid.1 id true) (retry_counted valid.2 id true)

theorem count_contract (deployment : Deployment) : Contract deployment (countRules deployment) where
  stored valid := valid.1
  relied relied := relied.1
  recordFailure providerCalled _ answer valid found held since :=
    holder_counted (record_failure_keeps valid.1 found held _ _ _) (record_failure_counted valid.2 found since providerCalled answer)
  conclude _ outcome hinted valid found held since := by
    apply holder_counted (conclude_keeps valid.1 found held _ outcome)
    apply conclude_counted valid.2 found _ since hinted
    by_contra stopped
    rw [(valid.1.rows _ _ found).free stopped] at held
    cases held
  mark valid found held status unmarked :=
    holder_counted (mark_keeps valid.1 found held status unmarked) (mark_counted valid.2 found status unmarked)
  sweep stuck now valid := by
    refine harmless_fold (fun row store valid => ?_) stuck valid
    cases row.resolverId with
    | none => exact harmless_refl valid
    | some resolver => exact create_harmless_counted valid _
  requeue ids valid := requeue_paused_counted valid ids
  recover id _ answer past valid permitted :=
    harmless_counted (recover_harmless valid.1 id past answer permitted) (recover_counted valid.1 valid.2 id past answer permitted)
  claim budget overBudget answer past valid started :=
    harmless_counted (claim_harmless valid.1 started budget overBudget answer) (claim_counted valid.1 valid.2 _ past budget overBudget answer)

theorem outside_counted (valid : (countRules deployment).valid store) (event : Outside) :
    Harmless (countRules deployment) store (event.act store) := by
  cases event with
  | elapse duration =>
    apply harmless_counted (outside_harmless valid.1 (.elapse duration))
    have past : store.now ≤ store.now + duration := Nat.le_add_right _ _
    refine ⟨⟨fun id command found => ?_, fun id command claimed found since => ?_, valid.2.named⟩, countsGrow_refl store⟩
    · exact (valid.2.rows id command found).later past
    · exact Nat.le_trans (valid.2.past id command claimed found since) past
  | pause orgId =>
    apply harmless_counted (outside_harmless valid.1 (.pause orgId))
    exact ⟨⟨valid.2.rows, valid.2.past, valid.2.named⟩, countsGrow_refl store⟩
  | resume orgId =>
    have resumed : Harmless (countRules deployment) store { store with pausedOrgs := store.pausedOrgs.filter (· ≠ orgId) } := by
      apply harmless_counted
      · exact ⟨⟨valid.1.keys, valid.1.rows, valid.1.absent, valid.1.once⟩,
          fun _ => ⟨Nat.le_refl _, fun _ _ _ found _ _ => ⟨found, rfl⟩⟩⟩
      · exact ⟨⟨valid.2.rows, valid.2.past, valid.2.named⟩, countsGrow_refl store⟩
    exact resumed.trans (requeue_paused_counted resumed.1 _)
  | create command => exact create_harmless_counted valid command
  | humanRetry id => exact harmless_counted (retry_harmless valid.1 id false) (retry_counted valid.2 id false)
  | humanPublish id => exact harmless_counted (human_publish_harmless valid.1 id) (human_publish_counted valid.2 id)
  | voidForGate gateId reasonCode =>
    exact harmless_counted (void_harmless valid.1 gateId reasonCode) (void_counted valid.2 gateId reasonCode)
  | cancel id => exact harmless_counted (cancel_harmless valid.1 id) (cancel_counted valid.2 id)

theorem worker_counted (deployment : Deployment) : Disciplined (workerHost deployment) (countRules deployment) where
  launch index fuel state _ := tick_keeps (count_contract deployment) index fuel state
  outside event _ valid _ := outside_counted valid event

/-- What an event finds and leaves: a claimed command is its claimer's while that
request lives; between two decisions of people a command fails and is called so
often at most; and the failure that queued it put it off. -/
structure AttemptsBounded (deployment : Deployment) (system : System Answer Store) (event : Event Answer Nat Outside) : Prop where
  claimed : ∀ id command, system.shared.find id = some command → command.status = .inProgress →
    ∃ worker, command.holder = some worker ∧
      ((step (workerHost deployment) system event).shared.now ≤ worker.deadline →
        (∀ answer, event ≠ .run worker.index answer) →
          (step (workerHost deployment) system event).shared.find id = some command)
  attempts : ∀ id command, (step (workerHost deployment) system event).shared.find id = some command →
    failures id (step (workerHost deployment) system event).shared.history ≤ maxRetries ∧
      calls id (step (workerHost deployment) system event).shared.history ≤
        maxRetries + 1 + deferrals id (step (workerHost deployment) system event).shared.history
  putOff : ∀ id command errorCode, (step (workerHost deployment) system event).shared.find id = some command →
    command.status = .pending → lastFailure id (step (workerHost deployment) system event).shared.history = some errorCode →
      PutOff (step (workerHost deployment) system event).shared.now errorCode command
  grows : CountsGrow system.shared (step (workerHost deployment) system event).shared

/-- In every run of overlapping ticks, crashes, pauses and people, one request at a
time works at a command, its attempts are bounded, and its delays only grow. -/
theorem attempts_bounded (deployment : Deployment) (now : Nat) (first last : List (Event Answer Nat Outside))
    (considered : Runs.Throughout (step (workerHost deployment)) (Considered (workerHost deployment) (rules deployment))
      ⟨{ now := now }, []⟩ (first ++ last)) :
    Runs.Throughout (step (workerHost deployment)) (AttemptsBounded deployment) ⟨{ now := now }, []⟩ (first ++ last) ∧
      ∀ id earlier, (Runs.final (step (workerHost deployment)) ⟨{ now := now }, []⟩ first).shared.find id = some earlier →
        ∃ later, (Runs.final (step (workerHost deployment)) ⟨{ now := now }, []⟩ (first ++ last)).shared.find id = some later ∧
          earlier.backoff ≤ later.backoff := by
  have initial : (countRules deployment).valid { now := now } := by
    refine ⟨empty_store_valid deployment now, fun id command found => ?_, fun id command claimed found => ?_, fun note listed => ?_⟩
    · simp [Store.find, Keyed.find] at found
    · simp [Store.find, Keyed.find] at found
    · cases listed
  have bounded := (worker_counted deployment).under.concludes initial
    (considered.weaken fun system event met => ⟨by cases event <;> exact True.intro, met⟩)
    fun system event met permitted sound => (show AttemptsBounded deployment system event from ?_)
  · refine ⟨bounded, fun id earlier found => ?_⟩
    have grown := (Runs.Throughout.append.mp bounded).2.weaken fun _ _ (known : AttemptsBounded deployment _ _) => known.grows
    have related := @Runs.Throughout.related _ _ (step (workerHost deployment))
      (fun before after => CountsGrow before.shared after.shared) (fun system => countsGrow_refl system.shared) CountsGrow.trans
    obtain ⟨later, present, more⟩ := related grown id earlier found
    rw [Runs.final_append]
    refine ⟨later, present, ?_⟩
    exact Nat.mul_le_mul_right _ (Nat.mul_le_mul_left _ (Nat.pow_le_pow_right (by decide) more))
  · have kept := Sound.step_under (worker_counted deployment).under system event met permitted sound
    refine ⟨fun id command found running => ?_, fun id command found => ?_, fun id command errorCode found pending last => ?_, ?_⟩
    · obtain ⟨_, worker, _, held, _⟩ := (sound.valid.1.rows id command found).held running
      refine ⟨worker, held, fun alive other => ?_⟩
      have relied := Sound.undisturbed (worker_counted deployment).under event met permitted sound other
      exact (relied.1.2 id command worker.deadline found held alive).1
    · have counted := kept.valid.2.rows id command found
      have failed := counted.failed
      have called := counted.called
      rw [find_row_id found] at failed called
      exact ⟨failed, by omega⟩
    · exact (kept.valid.2.rows id command found).putOff errorCode ((find_row_id found).symm ▸ last) pending
    · exact (Sound.observed (worker_counted deployment).under event met permitted sound (Nat.le_refl _)).2

end Runs

section Scenarios

/-- For how long the last failure put the command off, from its claim on. -/
def Store.waited (store : Store) (id : Uuid) : Option Nat :=
  (store.find id).bind fun command =>
    if command.status = .pending ∧ (lastFailure id store.history).isSome then
      command.nextAttemptAt.bind fun next => command.claimedAt.map fun claimed => next - claimed
    else none

def failingRun : List (Event Answer Nat Outside) :=
  .outside (.create queued) :: tick 0 { channelPost := .providerError (some "CHANNEL_PUBLISH_PROVIDER_ERROR") }

/-- A provider that says when to come back. -/
def limitedRun : List (Event Answer Nat Outside) :=
  .outside (.elapse (seconds 120)) :: tick 1 { channelPost := .rateLimited (seconds 130) }

/-- The provider asks for less than the failure before it had put the command off. -/
theorem retry_after_shortens : ¬ ∀ (first last : List (Event Answer Nat Outside)) (earlier later : Nat),
    (Runs.final (step (workerHost production)) ⟨{ now := 0 }, []⟩ first).shared.waited 0 = some earlier →
      (Runs.final (step (workerHost production)) ⟨{ now := 0 }, []⟩ (first ++ last)).shared.waited 0 = some later →
        earlier ≤ later := by
  intro grows
  have shorter := grows failingRun limitedRun (seconds 120) (seconds 10) (by decide +kernel) (by decide +kernel)
  exact absurd shorter (by decide)

theorem attempts_bounded_limited :
    Runs.Throughout (step (workerHost production)) (AttemptsBounded production) ⟨{ now := 0 }, []⟩ (failingRun ++ limitedRun) ∧
      ∀ id earlier, (Runs.final (step (workerHost production)) ⟨{ now := 0 }, []⟩ failingRun).shared.find id = some earlier →
        ∃ later, (Runs.final (step (workerHost production)) ⟨{ now := 0 }, []⟩ (failingRun ++ limitedRun)).shared.find id = some later ∧
          earlier.backoff ≤ later.backoff :=
  attempts_bounded production 0 failingRun limitedRun (by decide +kernel)

end Scenarios

end Sprintable.Publications
