import Sprintable.Publications.Resend

/-! The worker under any discipline that strengthens the one of its rows: a tick
is safe as soon as each of its transactions is. -/

namespace Sprintable.Publications
open Interleave

/-- A step that anyone may take at any time. -/
def Harmless (rules : Discipline Store) (before after : Store) : Prop :=
  rules.valid after ∧ ∀ index, rules.rely index before after

def HolderStep (rules : Discipline Store) (worker : Worker) (before after : Store) : Prop :=
  rules.valid after ∧ ∀ other, other ≠ worker.index → rules.rely other before after

/-- What a discipline grants to the transactions of a tick. -/
structure Contract (deployment : Deployment) (rules : Discipline Store) : Prop where
  stored : ∀ {store}, rules.valid store → StoreValid deployment store
  relied : ∀ {index before after}, rules.rely index before after → Rely index before after
  recordFailure : ∀ {store : Store} {id command} {worker : Worker} (providerCalled claimNow answer), rules.valid store →
    store.find id = some command → command.holder = some worker → command.claimedAt = some claimNow →
      HolderStep rules worker store (store.recordUnclassifiedBatchFailure id providerCalled claimNow answer)
  conclude : ∀ {store : Store} {id command} {worker : Worker} (claimNow outcome), outcome.Hinted → rules.valid store →
    store.find id = some command → command.holder = some worker → command.claimedAt = some claimNow →
      HolderStep rules worker store (store.conclude id claimNow outcome)
  mark : ∀ {store : Store} {id command} {worker : Worker}, rules.valid store → store.find id = some command →
    command.holder = some worker → command.status = .inProgress → command.providerCallStartedAt = none →
      HolderStep rules worker store (store.markProviderCallStarted id)
  sweep : ∀ {store : Store} (stuck now), rules.valid store → Harmless rules store (store.sweepStuckContainers stuck now)
  requeue : ∀ {store : Store} (ids), rules.valid store → Harmless rules store (store.requeuePaused ids)
  recover : ∀ {store : Store} (id now answer), now ≤ store.now → rules.valid store →
    rules.allowed store (store.recoverInterrupted id now answer) →
      Harmless rules store (store.recoverInterrupted id now answer)
  claim : ∀ {store : Store} {worker : Worker} {claimNow} (budget overBudget answer), claimNow ≤ store.now → rules.valid store →
    worker.deadline ≤ claimNow + deployment.requestTimeout →
      Harmless rules store (store.claim worker claimNow budget overBudget answer).2

section Harmless
variable {rules : Discipline Store} {store : Store}

theorem harmless_refl (valid : rules.valid store) : Harmless rules store store :=
  ⟨valid, fun index => rules.refl index store⟩

theorem Harmless.trans {first second third : Store} (early : Harmless rules first second)
    (late : Harmless rules second third) : Harmless rules first third :=
  ⟨late.1, fun index => rules.trans index (early.2 index) (late.2 index)⟩

theorem harmless_fold {γ : Type} {change : Store → γ → Store}
    (step : ∀ item {store}, rules.valid store → Harmless rules store (change store item))
    (items : List γ) (valid : rules.valid store) : Harmless rules store (items.foldl change store) := by
  induction items generalizing store with
  | nil => exact harmless_refl valid
  | cons item rest ih =>
    have first := step item valid
    exact first.trans (ih first.1)

end Harmless

section Requests
variable {deployment : Deployment} {rules : Discipline Store} {worker : Worker} {id : Uuid} {before store : Store}
  {claimNow : Nat}

/-- A request of this worker, run under the rules and until its deadline. -/
abbrev Keeps (rules : Discipline Store) (worker : Worker) (program : Request Unit) (start : Store) : Prop :=
  Safe rules worker.index (fun later => decide (later.now ≤ worker.deadline) = true) (fun _ _ => True) program start

theorem keeps_done (start : Store) : Keeps rules worker (pure ()) start := fun _ _ _ => True.intro

theorem contract_record_failure (contract : Contract deployment rules) (holding : Holding worker id claimNow before)
    (providerCalled : Bool) : Keeps rules worker (recordFailure id providerCalled claimNow) before := by
  intro store valid relied alive answer _
  obtain ⟨command, found, held, -, since⟩ := holding.stays (contract.relied relied) alive
  obtain ⟨kept, others⟩ := contract.recordFailure providerCalled claimNow answer valid found held since
  exact ⟨kept, others, keeps_done _⟩

theorem process_one_command_keeps (contract : Contract deployment rules) (claimed : Claimed worker id claimNow before) :
    Keeps rules worker (processOneCommand id claimNow) before := by
  refine Safe.observe ?_
  intro store valid relied alive answer
  replace claimed := claimed.stays (contract.relied relied) alive
  cases store.externalPublishPaused id answer with
  | none => exact contract_record_failure contract claimed.holding false
  | some paused =>
    cases paused with
    | true =>
      refine Safe.act ?_
      intro store valid relied alive answer _
      obtain ⟨command, found, held, status, since, mark⟩ := claimed.stays (contract.relied relied) alive
      simp only [found, committed]
      by_cases raised : answer.raises
      · simp only [raised, if_true]
        have holding : Holding worker id claimNow store := ⟨command, found, held, status, since⟩
        exact ⟨valid, fun other _ => rules.refl other store, contract_record_failure contract holding false⟩
      · obtain ⟨kept, others⟩ := contract.conclude claimNow (.paused (some answer.message)) True.intro valid found held since
        simp only [Store.conclude, found] at kept others
        simp only [raised]
        exact ⟨kept, others, keeps_done _⟩
    | false =>
      refine Safe.act ?_
      intro store valid relied alive answer _
      obtain ⟨command, found, held, status, since, mark⟩ := claimed.stays (contract.relied relied) alive
      simp only [committed]
      by_cases raised : answer.raises
      · simp only [raised, if_true]
        have holding : Holding worker id claimNow store := ⟨command, found, held, status, since⟩
        exact ⟨valid, fun other _ => rules.refl other store, contract_record_failure contract holding false⟩
      · obtain ⟨kept, others⟩ := contract.mark valid found held status mark
        have holding := mark_holding found held status since
        simp only [raised]
        refine ⟨kept, others, ?_⟩
        refine Safe.observe ?_
        intro store valid relied alive answer
        replace holding := holding.stays (contract.relied relied) alive
        have concludes : ∀ outcome : Outcome, outcome.Hinted → Keeps rules worker (do
            let written ← Prog.atomically fun answer store => committed answer store (store.conclude id claimNow outcome)
            let providerCalled ← Prog.ask Answer.providerCallMarked
            if written then pure () else recordFailure id providerCalled claimNow) store := by
          intro outcome hinted
          refine Safe.act ?_
          intro store valid relied alive answer _
          obtain ⟨command, found, held, status, since⟩ := holding.stays (contract.relied relied) alive
          simp only [committed]
          by_cases raised : answer.raises
          · simp only [raised, if_true]
            refine ⟨valid, fun other _ => rules.refl other store, ?_⟩
            refine Safe.observe ?_
            intro later _ relied alive answer
            have holding : Holding worker id claimNow store := ⟨command, found, held, status, since⟩
            exact contract_record_failure contract (holding.stays (contract.relied relied) alive) _
          · obtain ⟨kept, others⟩ := contract.conclude claimNow outcome hinted valid found held since
            simp only [raised]
            refine ⟨kept, others, ?_⟩
            refine Safe.observe ?_
            intro later _ _ _ _
            exact keeps_done later
        have hinted := provider_outcome_hinted store id claimNow answer
        cases outcome : store.providerOutcome id claimNow answer with
        | escaped providerCalled => exact contract_record_failure contract holding providerCalled
        | _ => exact concludes _ (outcome ▸ hinted)

end Requests

section Ticks
variable {deployment : Deployment} {rules : Discipline Store} {worker : Worker} {store : Store}

/-- The worker's request was started no later than now. -/
def Started (deployment : Deployment) (worker : Worker) (store : Store) : Prop :=
  worker.deadline ≤ store.now + deployment.requestTimeout

theorem Started.stays {before after : Store} {index : Nat} (started : Started deployment worker before)
    (relied : Rely index before after) : Started deployment worker after := by
  have later := relied.1
  unfold Started at started ⊢
  omega

theorem drain_keeps (contract : Contract deployment rules) (fuel : Nat) :
    ∀ (processed : Nat) (overBudget : List Uuid) {start : Store}, rules.valid start → Started deployment worker start →
      Keeps rules worker (drain deployment worker fuel processed overBudget) start := by
  induction fuel with
  | zero => exact fun _ _ start _ _ => keeps_done start
  | succ fuel ih =>
    intro processed overBudget start _ started
    unfold drain
    split
    · exact keeps_done start
    · refine Safe.observe fun before valid relied _ _ => ?_
      have beforeStarted := started.stays (contract.relied relied)
      refine Safe.act fun store valid relied alive answer _ => ?_
      have onTime : worker.deadline ≤ before.now + deployment.requestTimeout := beforeStarted
      have harmless := contract.claim deployment.tickBudget overBudget answer (contract.relied relied).1 valid onTime
      have storeStarted := (beforeStarted.stays (contract.relied relied)).stays (contract.relied (harmless.2 worker.index))
      refine ⟨harmless.1, fun other _ => harmless.2 other, ?_⟩
      cases outcome : (store.claim worker before.now deployment.tickBudget overBudget answer).1 with
      | idle => exact keeps_done _
      | deferred => exact keeps_done _
      | overBudget id => exact ih processed (id :: overBudget) harmless.1 storeStarted
      | claimed id =>
        have claimed := claim_claims (contract.stored valid) outcome
        have processing : Keeps rules worker (processOneCommand id before.now) _ :=
          process_one_command_keeps contract claimed
        have remembered := processing.remember storeStarted
          (fun held relied => Started.stays held (contract.relied relied))
          (fun held others => held.stays (contract.relied (others (worker.index + 1) (by omega))))
        exact Safe.bind harmless.1 remembered fun _ later valid held => ih _ _ valid held.2

/-- Time has not gone back behind the scan, nor behind the start of the request. -/
def Scanned (deployment : Deployment) (worker : Worker) (now : Nat) (store : Store) : Prop :=
  now ≤ store.now ∧ Started deployment worker store

theorem Scanned.stays {now index : Nat} {before after : Store} (scanned : Scanned deployment worker now before)
    (relied : Rely index before after) : Scanned deployment worker now after :=
  ⟨Nat.le_trans scanned.1 relied.1, scanned.2.stays relied⟩

theorem recovery_keeps (contract : Contract deployment rules) {now : Nat} (stuck : List Uuid) (valid : rules.valid store)
    (scanned : Scanned deployment worker now store) :
    Safe rules worker.index (fun later => decide (later.now ≤ worker.deadline) = true)
      (fun _ => Scanned deployment worker now)
      (Prog.forEach stuck fun id => Prog.atomically fun answer store => ((), store.recoverInterrupted id now answer))
      store := by
  refine Safe.forEach valid scanned (fun held relied => Scanned.stays held (contract.relied relied)) ?_
  intro id _ start _ held state valid relied _ answer permitted
  have current := Scanned.stays held (contract.relied relied)
  have harmless := contract.recover id now answer current.1 valid permitted
  refine ⟨harmless.1, fun other _ => harmless.2 other, ?_⟩
  exact fun last _ later => (current.stays (contract.relied (harmless.2 worker.index))).stays (contract.relied later)

theorem process_due_publication_commands_keeps (contract : Contract deployment rules) (fuel : Nat) {start : Store}
    (started : Started deployment worker start) :
    Keeps rules worker (processDuePublicationCommands deployment worker fuel) start := by
  refine Safe.observe fun scan _ relied _ _ => ?_
  have scanned : Scanned deployment worker scan.now scan := ⟨Nat.le_refl _, started.stays (contract.relied relied)⟩
  refine Safe.act fun store valid relied _ answer _ => ?_
  have swept := contract.sweep answer.stuck scan.now valid
  refine ⟨swept.1, fun other _ => swept.2 other, ?_⟩
  replace scanned := (scanned.stays (contract.relied relied)).stays (contract.relied (swept.2 worker.index))
  refine Safe.observe fun read _ relied _ _ => ?_
  replace scanned := scanned.stays (contract.relied relied)
  refine Safe.act fun store valid relied _ _ _ => ?_
  have requeued := contract.requeue read.pausedOfUnpausedOrgs valid
  refine ⟨requeued.1, fun other _ => requeued.2 other, ?_⟩
  replace scanned := (scanned.stays (contract.relied relied)).stays (contract.relied (requeued.2 worker.index))
  refine Safe.observe fun read valid relied _ _ => ?_
  replace scanned := scanned.stays (contract.relied relied)
  refine Safe.bind valid (recovery_keeps contract _ valid scanned) fun _ later valid held => ?_
  exact drain_keeps contract fuel 0 [] valid held.2

theorem tick_keeps (contract : Contract deployment rules) (index fuel : Nat) (start : Store) :
    Safe rules index (fun later => ((workerHost deployment).launch index fuel start).live later = true) (fun _ _ => True)
      ((workerHost deployment).launch index fuel start).program start := by
  have started : Started deployment ⟨index, start.now + deployment.requestTimeout⟩ start := Nat.le_refl _
  exact process_due_publication_commands_keeps contract fuel started

end Ticks

end Sprintable.Publications
