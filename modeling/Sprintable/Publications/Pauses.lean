import Sprintable.Publications.WorkerSafety

/-! The pause of an organisation's publishing: the end of a pause, the sweep of each tick, the
attempts of the workers and the retries of people, each transaction a step of its own. An end
of a pause and a sweep look for rows first, and lock them one by one; what they write is
there when they commit. -/

namespace Sprintable.Publications

namespace Command

/-- The row waits for the end of a pause. -/
def PauseBlocked (command : Command) : Prop := command.status = .blocked ∧ command.failureKind = some .paused

instance (command : Command) : Decidable command.PauseBlocked := inferInstanceAs (Decidable (_ ∧ _))

end Command

namespace Store
variable (store : Store)

def PauseBlocked (id : Uuid) : Prop := ∃ command ∈ store.find id, command.PauseBlocked

instance (id : Uuid) : Decidable (store.PauseBlocked id) := inferInstanceAs (Decidable (∃ _ ∈ _, _))

/-- `_requeue_paused_commands`, its scan. -/
def pauseBlockedOf (orgId : Uuid) : List Uuid :=
  (store.commands.filter fun command => command.orgId == orgId && decide command.PauseBlocked).map Command.id

/-- `requeue_paused_commands_of_unpaused_orgs`, its scan. -/
def pausedUnpausedOrgs : List Uuid :=
  ((store.commands.filter fun command => decide command.PauseBlocked && !store.pausedOrgs.contains command.orgId).map
    Command.orgId).dedup

end Store

/-- How far a worker is with its command. The pause is read on the way in, and for a channel
post once more before its provider is called. -/
inductive Stage where
  | idle
  | clock (claimNow : Nat)
  | claimed (id : Uuid) (claimNow : Nat)
  | cleared (id : Uuid) (claimNow : Nat)
  | marked (id : Uuid) (claimNow : Nat)
  | ready (id : Uuid) (claimNow : Nat)
  | calling (id : Uuid) (claimNow : Nat)
  | returned (id : Uuid) (claimNow : Nat) (outcome : Outcome)
  | failing (id : Uuid) (claimNow : Nat) (providerCalled : Bool)
  deriving DecidableEq, Repr

/-- A worker and its attempt. The last field is a record: the attempt has read an active pause. -/
structure Attempt where
  worker : Worker
  stage : Stage := .idle
  sawPause : Bool := false
  deriving DecidableEq, Repr

structure Requeue where
  resumes : Option Uuid
  orgs : List Uuid
  ids : List Uuid := []
  deriving DecidableEq, Repr

structure Recovery where
  scannedAt : Nat
  ids : List Uuid
  deriving DecidableEq, Repr

/-- `revived` lists the commands that ends of pauses and sweeps have put back, newest first;
it is a record of the run. -/
structure Publishing where
  store : Store
  attempts : List Attempt := []
  requeues : List Requeue := []
  recoveries : List Recovery := []
  revived : List Uuid := []

inductive PublishingEvent where
  | elapse (duration : Nat)
  | create (command : Command)
  | pause (orgId : Uuid)
  | humanRetry (id : Uuid)
  | voidForGate (gateId : Uuid) (reasonCode : String)
  | cancel (id : Uuid)
  | resume (orgId : Uuid)
  | sweep
  | scan (requeue : Nat)
  | commit (requeue : Nat)
  | sweepStuck (answer : Answer)
  | scanStuck
  | recover (recovery : Nat) (id : Uuid) (answer : Answer)
  | start
  | clock (worker : Nat)
  | claim (worker : Nat) (overBudget : List Uuid) (answer : Answer)
  | readPause (worker : Nat) (answer : Answer)
  | mark (worker : Nat) (answer : Answer)
  | readAgain (worker : Nat) (answer : Answer)
  | call (worker : Nat)
  | finish (worker : Nat) (answer : Answer)
  | conclude (worker : Nat) (answer : Answer)
  | recordFailure (worker : Nat) (answer : Answer)

namespace Publishing
variable (deployment : Deployment) (publishing : Publishing)

/-- Put one command back, if it still waits for the end of a pause. -/
def revive (publishing : Publishing) (id : Uuid) : Publishing :=
  { publishing with
    store := publishing.store.retryDeadLetter id true
    revived := if publishing.store.PauseBlocked id then id :: publishing.revived else publishing.revived }

def requeue (requeue : Requeue) : Publishing :=
  requeue.ids.foldl revive { publishing with
    store := { publishing.store with pausedOrgs := publishing.store.pausedOrgs.filter fun org => some org ≠ requeue.resumes } }

def enter (index : Nat) (attempt : Attempt) : Publishing := { publishing with attempts := publishing.attempts.set index attempt }

/-- A worker acts while its request lives. -/
def onWorker (index : Nat) (body : Attempt → Publishing) : Publishing :=
  match publishing.attempts[index]? with
  | some attempt => if publishing.store.now ≤ attempt.worker.deadline then body attempt else publishing
  | none => publishing

def claim (index : Nat) (attempt : Attempt) (claimNow : Nat) (overBudget : List Uuid) (answer : Answer) : Publishing :=
  let claimed := publishing.store.claim attempt.worker claimNow deployment.tickBudget overBudget answer
  { publishing with store := claimed.2 }.enter index
    { attempt with stage := match claimed.1 with | .claimed id => .claimed id claimNow | _ => .idle, sawPause := false }

def readPause (index : Nat) (attempt : Attempt) (id : Uuid) (claimNow : Nat) (answer : Answer) : Publishing :=
  match publishing.store.externalPublishPaused id answer with
  | none => publishing.enter index { attempt with stage := .failing id claimNow false }
  | some true =>
    publishing.enter index { attempt with stage := .returned id claimNow (.paused (some answer.message)), sawPause := true }
  | some false => publishing.enter index { attempt with stage := .cleared id claimNow }

def mark (index : Nat) (attempt : Attempt) (id : Uuid) (claimNow : Nat) (answer : Answer) : Publishing :=
  if answer.raises then publishing.enter index { attempt with stage := .failing id claimNow false }
  else { publishing with store := publishing.store.markProviderCallStarted id }.enter index { attempt with stage := .marked id claimNow }

/-- `publish_channel_post_draft` reads the pause before anything else but its draft. -/
def readAgain (index : Nat) (attempt : Attempt) (id : Uuid) (claimNow : Nat) (answer : Answer) : Publishing :=
  match publishing.store.find id with
  | none => publishing.enter index { attempt with stage := .failing id claimNow answer.providerCallMarked }
  | some command =>
    if command.contentKind = .channelPost ∧ publishing.store.pausedOrgs.contains command.orgId then
      publishing.enter index { attempt with stage := .returned id claimNow (.paused (some answer.message)), sawPause := true }
    else publishing.enter index { attempt with stage := .ready id claimNow }

/-- The processor has an outcome, before its provider was called or from the provider. That a
pause is active it has read above. -/
def finish (index : Nat) (attempt : Attempt) (id : Uuid) (claimNow : Nat) (answer : Answer) : Publishing :=
  match publishing.store.providerOutcome id claimNow answer with
  | .escaped providerCalled => publishing.enter index { attempt with stage := .failing id claimNow providerCalled }
  | .paused _ => publishing
  | outcome => publishing.enter index { attempt with stage := .returned id claimNow outcome }

def conclude (index : Nat) (attempt : Attempt) (id : Uuid) (claimNow : Nat) (outcome : Outcome) (answer : Answer) : Publishing :=
  if answer.raises then publishing.enter index { attempt with stage := .failing id claimNow answer.providerCallMarked }
  else { publishing with store := publishing.store.conclude id claimNow outcome }.enter index { attempt with stage := .idle }

def step (publishing : Publishing) : PublishingEvent → Publishing
  | .elapse duration => { publishing with store := { publishing.store with now := publishing.store.now + duration } }
  | .create command => { publishing with store := publishing.store.createOrGet command }
  | .pause orgId =>
    { publishing with store := { publishing.store with pausedOrgs := orgId :: publishing.store.pausedOrgs } }
  | .humanRetry id => { publishing with store := publishing.store.retryDeadLetter id false }
  | .voidForGate gateId reasonCode => { publishing with store := publishing.store.voidPendingForGate gateId reasonCode }
  | .cancel id => { publishing with store := publishing.store.cancelPending id }
  | .resume orgId => { publishing with requeues := publishing.requeues ++ [{ resumes := some orgId, orgs := [orgId] }] }
  | .sweep =>
    { publishing with requeues := publishing.requeues ++ [{ resumes := none, orgs := publishing.store.pausedUnpausedOrgs }] }
  | .scan index =>
    match publishing.requeues[index]? with
    | some { resumes, orgs := org :: rest, ids } =>
      { publishing with
        requeues := publishing.requeues.set index { resumes, orgs := rest, ids := ids ++ publishing.store.pauseBlockedOf org } }
    | _ => publishing
  | .commit index =>
    match publishing.requeues[index]? with
    | some { resumes, orgs := [], ids } =>
      { publishing with requeues := publishing.requeues.eraseIdx index }.requeue { resumes, orgs := [], ids }
    | _ => publishing
  | .sweepStuck answer => { publishing with store := publishing.store.sweepStuckContainers answer.stuck publishing.store.now }
  | .scanStuck =>
    { publishing with recoveries := publishing.recoveries ++
      [{ scannedAt := publishing.store.now, ids := publishing.store.stuckInProgress publishing.store.now }] }
  | .recover index id answer =>
    match publishing.recoveries[index]? with
    | some recovery =>
      if id ∈ recovery.ids then
        { publishing with store := publishing.store.recoverInterrupted id recovery.scannedAt answer }
      else publishing
    | none => publishing
  | .start =>
    { publishing with attempts := publishing.attempts ++
      [{ worker := ⟨publishing.attempts.length, publishing.store.now + deployment.requestTimeout⟩ }] }
  | .clock index => publishing.onWorker index fun attempt =>
    if attempt.stage = .idle then publishing.enter index { attempt with stage := .clock publishing.store.now } else publishing
  | .claim index overBudget answer => publishing.onWorker index fun attempt =>
    match attempt.stage with
    | .clock claimNow => publishing.claim deployment index attempt claimNow overBudget answer
    | _ => publishing
  | .readPause index answer => publishing.onWorker index fun attempt =>
    match attempt.stage with
    | .claimed id claimNow => publishing.readPause index attempt id claimNow answer
    | _ => publishing
  | .mark index answer => publishing.onWorker index fun attempt =>
    match attempt.stage with
    | .cleared id claimNow => publishing.mark index attempt id claimNow answer
    | _ => publishing
  | .readAgain index answer => publishing.onWorker index fun attempt =>
    match attempt.stage with
    | .marked id claimNow => publishing.readAgain index attempt id claimNow answer
    | _ => publishing
  | .call index => publishing.onWorker index fun attempt =>
    match attempt.stage with
    | .ready id claimNow => publishing.enter index { attempt with stage := .calling id claimNow }
    | _ => publishing
  | .finish index answer => publishing.onWorker index fun attempt =>
    match attempt.stage with
    | .marked id claimNow =>
      -- Before the pause is read again, the draft may be missing or the database may fail.
      if answer.channelPost = .draftNotFound ∨ answer.channelPost = .other answer.providerCallMarked then
        publishing.finish index attempt id claimNow answer
      else publishing
    | .ready id claimNow | .calling id claimNow => publishing.finish index attempt id claimNow answer
    | _ => publishing
  | .conclude index answer => publishing.onWorker index fun attempt =>
    match attempt.stage with
    | .returned id claimNow outcome => publishing.conclude index attempt id claimNow outcome answer
    | _ => publishing
  | .recordFailure index answer => publishing.onWorker index fun attempt =>
    match attempt.stage with
    | .failing id claimNow providerCalled =>
      { publishing with store := publishing.store.recordUnclassifiedBatchFailure id providerCalled claimNow answer }.enter index
        { attempt with stage := .idle }
    | _ => publishing

end Publishing

end Sprintable.Publications
