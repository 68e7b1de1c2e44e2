import Sprintable.Logic.Interleave
import Sprintable.Logic.Keyed
import Sprintable.Publications.Outcomes

/-! The publication worker. A tick sweeps, requeues, recovers and then drains the
queue; every action below is one committed transaction of it, and ticks overlap. -/

namespace Sprintable.Publications
open Interleave

/-- What a run did with commands. -/
inductive Note where
  | callStarted (command : Uuid)
  | completed (command : Uuid)
  | failed (command : Uuid) (errorCode : Option String)
  | containerCreated (command : Uuid)
  | pauseBlocked (command : Uuid)
  | humanRetry (command : Uuid)
  | reclaimRecovered (command : Uuid)
  deriving DecidableEq, Repr

def Note.command : Note → Uuid
  | .callStarted command | .completed command | .failed command _ | .containerCreated command
  | .pauseBlocked command | .humanRetry command | .reclaimRecovered command => command

/-- The tables of the worker. `history` lists the notes of all commits, newest
first; it is a record of the run that no function reads. -/
structure Store where
  now : Nat
  pausedOrgs : List Uuid := []
  commands : List Command := []
  history : List Note := []

def stuckInProgressThreshold : Nat := minutes 90

def batchSize : Nat := 50

def overTickBudgetCode : String := "WORKER_TICK_BUDGET_TOO_SMALL"

def workerInterruptedErrorCode : String := "PUBLICATION_WORKER_INTERRUPTED"

def unclassifiedErrorCode : String := "PUBLICATION_COMMAND_UNCLASSIFIED_ERROR"

/-- The hosting of the worker. A request is cut at its timeout, which must be
shorter than the age at which a claimed command counts as abandoned. -/
structure Deployment where
  requestTimeout : Nat
  shorter : requestTimeout < stuckInProgressThreshold
  tickBudget : Nat

/-- A publication whose container waits longer than the sweep allows, with the
resolver of its gate. -/
structure StuckContainer where
  orgId : Uuid
  gateId : Uuid
  connectionId : Uuid
  versionId : Uuid
  resolverId : Option Uuid

/-- What the environment answers to one action: a failing database, the rows that
other transactions lock, other tables, the clock's progress and the provider. -/
structure Answer where
  raises : Bool := false
  providerCallMarked : Bool := false
  locked : List Uuid := []
  stuck : List StuckContainer := []
  localPublicationComplete : Bool := false
  worstCaseSeconds : Nat := 80
  elapsedSeconds : Nat := 0
  message : String := ""
  channelPost : ChannelPostResult := .published
  sitePost : SitePostResult := .done
  commentReply : CommentReplyResult := .sent
  adsBoost : AdsBoostResult := .done
  newsletter : NewsletterResult := .sent

abbrev Request := Prog Answer Store

/-- The row after a claim; the note that it did not fit into a tick is cleared. -/
def Command.claim (command : Command) (worker : Worker) (claimNow : Nat) : Command :=
  let cleared := if command.reasonCode = some overTickBudgetCode then
      { command with reasonCode := none, lastError := none }
    else command
  { cleared with
    status := .inProgress
    claimedAt := some claimNow
    providerCallStartedAt := none
    holder := some worker }

@[simp] theorem Command.claim_id (command : Command) (worker : Worker) (claimNow : Nat) :
    (command.claim worker claimNow).id = command.id := by
  unfold claim
  dsimp only
  split <;> rfl

namespace Store

def find (store : Store) (id : Uuid) : Option Command := Keyed.find Command.id store.commands id

/-- Commit one changed row, with the notes of what happened. -/
def commit (store : Store) (command : Command) (notes : List Note) : Store :=
  { store with
    commands := Keyed.put Command.id store.commands { command with updatedAt := store.now }
    history := notes ++ store.history }

def sameTarget (command : Command) (orgId destination approvedVersion : Uuid) (operation : String) (toggleSeq : Nat) :
    Bool :=
  command.orgId == orgId && command.destination == destination && command.approvedVersion == approvedVersion &&
    command.operation == operation && command.toggleSeq == toggleSeq

/-- Insert a pending command unless one with the same idempotency key exists. -/
def createOrGet (store : Store) (command : Command) : Store :=
  if store.commands.any fun row =>
      sameTarget row command.orgId command.destination command.approvedVersion command.operation command.toggleSeq then
    store
  else { store with commands := store.commands ++
    [{ command with id := store.commands.length, status := .pending, attemptCount := 0, claimedAt := none
                    providerCallStartedAt := none, failureKind := none, reasonCode := none, reasonResetAt := none
                    lastError := none, deadLetterAt := none, stopNoticeState := none, holder := none
                    updatedAt := store.now }] }

def sweepStuckContainers (store : Store) (stuck : List StuckContainer) (now : Nat) : Store :=
  stuck.foldl (fun store row =>
    match row.resolverId with
    | none => store
    | some resolver => store.createOrGet
        { id := 0, orgId := row.orgId, gateId := row.gateId, destination := row.connectionId
          approvedVersion := row.versionId, requestedByMemberId := resolver, updatedAt := store.now
          nextAttemptAt := some (now + seconds 30) }) store

/-- The pause-blocked commands of organisations that are not paused any more. -/
def pausedOfUnpausedOrgs (store : Store) : List Uuid :=
  (store.commands.filter fun command => command.status == .blocked && command.failureKind == some .paused &&
    !store.pausedOrgs.contains command.orgId).map Command.id

/-- `retry_dead_letter_command`. With `onlyPaused` it serves the end of a pause,
otherwise a person's retry. -/
def retryDeadLetter (store : Store) (id : Uuid) (onlyPaused : Bool) : Store :=
  match store.find id with
  | none => store
  | some command =>
    if onlyPaused then
      if command.status == .blocked && command.failureKind == some .paused then store.commit command.requeue [] else store
    else if command.humanRetryable then store.commit command.requeue [.humanRetry id]
    else store

def requeuePaused (store : Store) (ids : List Uuid) : Store :=
  ids.foldl (fun store id => store.retryDeadLetter id true) store

/-- A publish press that passes its check. The endpoint commits between its read and
its write; here nothing comes between the two. -/
def humanPublish (store : Store) (id : Uuid) : Store :=
  match store.find id with
  | none => store
  | some command =>
    if command.status == .completed || command.status == .voided || command.status == .inProgress then store
    else store.commit command.requeueForHumanPublish [.humanRetry id]

def stuckSince (now : Nat) (command : Command) : Bool :=
  command.claimedAt.getD command.updatedAt + stuckInProgressThreshold < now

def stuckInProgress (store : Store) (now : Nat) : List Uuid :=
  ((store.commands.filter fun command => command.status == .inProgress && stuckSince now command).take batchSize).map
    Command.id

def finish (store : Store) (command : Command) (note : Note) : Store :=
  store.commit { command with holder := none } [note]

def fail (store : Store) (command : Command) (errorCode lastError : Option String) (now : Nat)
    (retryAfterSeconds : Option Nat) (reasonResetAt : Option Nat) : Store :=
  store.finish (command.applyFailure errorCode lastError now retryAfterSeconds reasonResetAt)
    (.failed command.id errorCode)

/-- Recover one command of the scan. The row is read again under its lock, for its
status only: a command that another tick recovered and a third one claimed since
the scan is recovered a second time, which the history notes. -/
def recoverInterrupted (store : Store) (id : Uuid) (now : Nat) (answer : Answer) : Store :=
  if answer.raises || answer.locked.contains id then store
  else
    match store.find id with
    | none => store
    | some command =>
      if command.status ≠ .inProgress then store
      else
        let noted := if stuckSince now command then store
          else { store with history := .reclaimRecovered id :: store.history }
        let callMayHaveStarted := command.providerCallStartedAt.isSome || command.claimedAt.isNone
        if callMayHaveStarted && answer.localPublicationComplete && command.contentKind == .channelPost &&
            command.operation == "publish" then
          noted.finish { command with status := .completed, lastError := none, failureKind := none } (.completed id)
        else
          let errorCode := if callMayHaveStarted then workerInterruptedErrorCode else preCallErrorCode
          noted.fail command (some errorCode) (some errorCode) now none none

def due (claimNow : Nat) (command : Command) : Bool :=
  command.status == .pending && command.scheduledAt.all (· ≤ claimNow) && command.nextAttemptAt.all (· ≤ claimNow)

inductive Claim where
  | idle
  | overBudget (id : Uuid)
  | deferred
  | claimed (id : Uuid)

/-- Take the oldest due command that no other transaction locks, if its worst case
fits into what is left of the tick. -/
def claim (store : Store) (worker : Worker) (claimNow : Nat) (budget : Nat) (overBudget : List Uuid) (answer : Answer) :
    Claim × Store :=
  match store.commands.find? fun command =>
      due claimNow command && !overBudget.contains command.id && !answer.locked.contains command.id with
  | none => (.idle, store)
  | some command =>
    if budget < answer.worstCaseSeconds then
      (.overBudget command.id, if command.reasonCode = some overTickBudgetCode then store
        else store.commit { command with reasonCode := some overTickBudgetCode, lastError := some answer.message } [])
    else if budget < answer.worstCaseSeconds + answer.elapsedSeconds then (.deferred, store)
    else
      (.claimed command.id, store.commit (command.claim worker claimNow) [])

/-- The first action on a claimed command: whether its organisation is paused.
A failing database is `none`. -/
def externalPublishPaused (store : Store) (id : Uuid) (answer : Answer) : Option Bool :=
  if answer.raises then none
  else (store.find id).map fun command => store.pausedOrgs.contains command.orgId

def pausedMessage (reason : Option String) : String :=
  if PyText.truthy reason then "EXTERNAL_PUBLISH_PAUSED: " ++ reason.getD "" else "EXTERNAL_PUBLISH_PAUSED"

def blockForExternalPublishPause (store : Store) (command : Command) (reason : Option String) : Store :=
  store.finish { command with status := .blocked, failureKind := some .paused, lastError := some (pausedMessage reason) }
    (.pauseBlocked command.id)

/-- The persistent mark, committed right before the provider is called. -/
def markProviderCallStarted (store : Store) (id : Uuid) : Store :=
  match store.find id with
  | none => store
  | some command => store.commit { command with providerCallStartedAt := some store.now } [.callStarted id]

def conclude (store : Store) (id : Uuid) (claimNow : Nat) : Outcome → Store
  | .escaped _ => store
  | outcome =>
    match store.find id with
    | none => store
    | some command =>
      match outcome with
      | .completed clears =>
        store.finish { command with
          status := .completed
          lastError := if clears then none else command.lastError
          failureKind := if clears then none else command.failureKind } (.completed id)
      | .containerCreated =>
        store.finish { command with
          status := .pending
          nextAttemptAt := some (claimNow + seconds 30)
          lastError := none
          failureKind := none } (.containerCreated id)
      | .voided reasonCode lastError =>
        store.commit { command with
          status := .voided
          reasonCode := some reasonCode
          lastError := (lastError.map clip).orElse fun _ => command.lastError
          holder := none } []
      | .blockedUnapproved reasonCode lastError =>
        store.commit { command.markBlockedUnapproved reasonCode lastError with holder := none } []
      | .stoppedUnapproved reasonCode lastError =>
        store.commit { { command with
            status := .blockedUnapproved
            reasonCode := some reasonCode
            lastError := some (clip lastError) }.markStopNotice with holder := none } []
      | .paused reason => store.blockForExternalPublishPause command reason
      | .failed errorCode lastError retryAfterSeconds reasonResetAt =>
        store.fail command errorCode lastError claimNow retryAfterSeconds reasonResetAt
      | .escaped _ => store

/-- After an exception escaped a batch item: the row is failed only while it is
still in progress, as not sent when no provider write was marked. -/
def recordUnclassifiedBatchFailure (store : Store) (id : Uuid) (providerCalled : Bool) (claimNow : Nat)
    (answer : Answer) : Store :=
  if answer.raises then store
  else
    match store.find id with
    | none => store
    | some command =>
      if command.status ≠ .inProgress then store
      else
        let errorCode := if providerCalled then unclassifiedErrorCode else preCallErrorCode
        store.fail command (some errorCode) (some errorCode) claimNow none none

end Store

def Answer.outcome (answer : Answer) (claimNow : Nat) : ContentKind → Outcome
  | .channelPost => channelPostOutcome claimNow answer.message answer.channelPost
  | .sitePost => sitePostOutcome answer.message answer.sitePost
  | .commentReply => commentReplyOutcome answer.message answer.commentReply
  | .adsBoost => adsBoostOutcome answer.message answer.adsBoost
  | .newsletterSend => newsletterOutcome answer.message answer.newsletter

/-- The provider's answer to a call for this command. -/
def Store.providerOutcome (store : Store) (id : Uuid) (claimNow : Nat) (answer : Answer) : Outcome :=
  match store.find id with
  | none => .escaped answer.providerCallMarked
  | some command => if answer.raises then .escaped answer.providerCallMarked else answer.outcome claimNow command.contentKind

theorem provider_outcome_hinted (store : Store) (id : Uuid) (claimNow : Nat) (answer : Answer) :
    (store.providerOutcome id claimNow answer).Hinted := by
  unfold Store.providerOutcome
  cases store.find id with
  | none => exact True.intro
  | some command =>
    dsimp only
    split
    · exact True.intro
    · unfold Answer.outcome
      cases command.contentKind with
      | channelPost => exact channel_post_hinted claimNow answer.message answer.channelPost
      | sitePost => exact site_post_hinted answer.message answer.sitePost
      | commentReply => exact comment_reply_hinted answer.message answer.commentReply
      | adsBoost => exact ads_boost_hinted answer.message answer.adsBoost
      | newsletterSend => exact newsletter_hinted answer.message answer.newsletter

/-- The result of a commit: nothing is written when the database raises. -/
def committed (answer : Answer) (store after : Store) : Bool × Store :=
  if answer.raises then (false, store) else (true, after)

def recordFailure (id : Uuid) (providerCalled : Bool) (claimNow : Nat) : Request Unit :=
  Prog.atomically fun answer store => ((), store.recordUnclassifiedBatchFailure id providerCalled claimNow answer)

/-- `_process_one_command` inside the batch loop's `try`. -/
def processOneCommand (id : Uuid) (claimNow : Nat) : Request Unit := do
  let paused ← Prog.atomically fun answer store => (store.externalPublishPaused id answer, store)
  match paused with
  | none => recordFailure id false claimNow
  | some true => do
    let written ← Prog.atomically fun answer store =>
      match store.find id with
      | none => (true, store)
      | some command => committed answer store (store.blockForExternalPublishPause command (some answer.message))
    if written then pure () else recordFailure id false claimNow
  | some false => do
    let marked ← Prog.atomically fun answer store => committed answer store (store.markProviderCallStarted id)
    if marked then do
      let outcome ← Prog.atomically fun answer store => (store.providerOutcome id claimNow answer, store)
      match outcome with
      | .escaped providerCalled => recordFailure id providerCalled claimNow
      | _ => do
        let written ← Prog.atomically fun answer store => committed answer store (store.conclude id claimNow outcome)
        let providerCalled ← Prog.ask Answer.providerCallMarked
        if written then pure () else recordFailure id providerCalled claimNow
    else recordFailure id false claimNow

/-- The queue loop: at most `batchSize` claims, with `fuel` bounding its passes. -/
def drain (deployment : Deployment) (worker : Worker) : Nat → Nat → List Uuid → Request Unit
  | 0, _, _ => pure ()
  | fuel + 1, processed, overBudget =>
    if batchSize ≤ processed then pure ()
    else do
      let claimNow ← Prog.read Store.now
      let claim ← Prog.atomically fun answer store =>
        store.claim worker claimNow deployment.tickBudget overBudget answer
      match claim with
      | .idle | .deferred => pure ()
      | .overBudget id => drain deployment worker fuel processed (id :: overBudget)
      | .claimed id => do
        processOneCommand id claimNow
        drain deployment worker fuel (processed + 1) overBudget

def processDuePublicationCommands (deployment : Deployment) (worker : Worker) (fuel : Nat) : Request Unit := do
  let now ← Prog.read Store.now
  Prog.atomically fun answer store => ((), store.sweepStuckContainers answer.stuck now)
  let paused ← Prog.read Store.pausedOfUnpausedOrgs
  Prog.write fun store => store.requeuePaused paused
  let stuck ← Prog.read fun store => store.stuckInProgress now
  Prog.forEach stuck fun id => Prog.atomically fun answer store => ((), store.recoverInterrupted id now answer)
  drain deployment worker fuel 0 []

/-- What happens outside the worker: time, the pause switch of an organisation,
new commands, and the people who retry, publish, void or cancel. -/
inductive Outside where
  | elapse (duration : Nat)
  | pause (orgId : Uuid)
  | resume (orgId : Uuid)
  | create (command : Command)
  | humanRetry (id : Uuid)
  | humanPublish (id : Uuid)
  | voidForGate (gateId : Uuid) (reasonCode : String)
  | cancel (id : Uuid)

/-- Pending commands of a gate stop when its approval is gone; a command that
stops spending does not. -/
def Store.voidPendingForGate (store : Store) (gateId : Uuid) (reasonCode : String) : Store :=
  { store with commands := store.commands.map fun command =>
      if command.gateId = gateId ∧ command.status = .pending ∧ command.operation ≠ "pause" then
        { command with status := .voided, reasonCode := some reasonCode }
      else command }

def Store.cancelPending (store : Store) (id : Uuid) : Store :=
  match store.find id with
  | none => store
  | some command =>
    if command.status = .pending then
      store.commit { command with status := .cancelled, reasonCode := some "CANCELLED_BY_HUMAN" } []
    else store

def Outside.act (store : Store) : Outside → Store
  | .elapse duration => { store with now := store.now + duration }
  | .pause orgId => { store with pausedOrgs := orgId :: store.pausedOrgs }
  | .resume orgId =>
    let resumed := { store with pausedOrgs := store.pausedOrgs.filter (· ≠ orgId) }
    resumed.requeuePaused ((store.commands.filter fun command => command.orgId == orgId).map Command.id)
  | .create command => store.createOrGet command
  | .humanRetry id => store.retryDeadLetter id false
  | .humanPublish id => store.humanPublish id
  | .voidForGate gateId reasonCode => store.voidPendingForGate gateId reasonCode
  | .cancel id => store.cancelPending id

/-- Ticks start at any time and overlap; each runs until its request is cut. -/
def workerHost (deployment : Deployment) : Host Answer Store Nat Outside where
  launch index fuel store :=
    let worker : Worker := ⟨index, store.now + deployment.requestTimeout⟩
    { live := fun later => decide (later.now ≤ worker.deadline)
      program := processDuePublicationCommands deployment worker fuel }
  outside event store := event.act store

end Sprintable.Publications
