import Sprintable.Boosts.Model
import Sprintable.Logic.Runs

/-! The requests of people and of the scheduler: sealing the terms, starting,
pausing and resuming, retrying a stopped command, cancelling. Each definition is
one committed transaction; a request that raises leaves the tables as they were. -/

namespace Sprintable.Boosts

open Gates (GateStatus)

def hours (n : Nat) : Nat := minutes (n * 60)

def createOutcomeUnknownCode : String := "ADS_BOOST_CREATE_OUTCOME_UNKNOWN"

def termsChangedCode : String := "ADS_BOOST_TERMS_CHANGED"

def cancelVoidReasonCode : String := "ADS_BOOST_CANCELLED"

/-- The moves of the gate's status by decisions, holds, voids and undone decisions. -/
def gateMoves : List (GateStatus × GateStatus) :=
  Gates.validTransitions ++ [(.approved, .pending), (.rejected, .pending)]

def BoostRun.reset (run : BoostRun) : BoostRun where
  cycleStartedAt := run.cycleStartedAt
  cycleNo := run.cycleNo + 1

/-- What the screens call live: running or, under a cancel, made and not confirmed off. -/
def BoostRun.live (run : BoostRun) : Bool :=
  (run.status == .running || (run.status == .pending && run.cancelRequestedAt.isSome)) && run.campaignId.isSome

namespace Desk
variable (desk : Desk)

/-- `_schedule_capture_now`: a waiting capture is brought forward, otherwise one is added. -/
def scheduleCaptureNow (due : Nat) : Except BoostError Desk :=
  if !(desk.run.any BoostRun.live) then .ok desk
  else
    match desk.pendingPaid.foldl (fun first row => if first.all (row.dueAt < ·.dueAt) then some row else first) none with
    | none => .ok (desk.insertSnapshot due)
    | some waiting =>
      if waiting.dueAt ≤ due then .ok desk
      else if desk.snapshots.any fun row => row.dueAt == due then .error .duplicateDueAt
      else .ok { desk with
        snapshots := Keyed.modify (·.id) desk.snapshots waiting.id fun row => { row with dueAt := due } }

/-- The hook before a flush: the gate has left the approved status. -/
def leaveApproved (before : GateStatus) (now : Nat) : Except BoostError Desk :=
  if before = .approved ∧ desk.gate.status ≠ .approved then desk.scheduleCaptureNow now else .ok desk

def voidPendingCommands (reasonCode : String) : Desk :=
  { desk with
    commands := desk.commands.map fun command =>
      if command.status = .pending ∧ command.boost ∉ moneyStoppingOps then
        { command with status := .voided, reasonCode := some reasonCode }
      else command }

def voidBlockedStarts : Desk :=
  { desk with
    commands := desk.commands.map fun command =>
      if command.status = .blocked ∧ command.boost ∈ [Operation.boostStart, .resume] then
        { command with status := .voided, reasonCode := some cancelVoidReasonCode }
      else command }

def sealTerms (terms : Terms) (requesterMemberId : Uuid) : Desk :=
  { desk with
    gate := { desk.gate with
      status := .pending
      resolverId := if desk.gate.status = .pending then desk.gate.resolverId else none
      requestedByMemberId := some requesterMemberId
      reapprovalRequired := desk.gate.status == .approved
      sealedAds := some { terms with versionId := desk.sealings } }
    sealings := desk.sealings + 1 }

/-- A request for the post: the terms are sealed anew and wait for an approval. Within
a cycle the budget is never raised; after a finished cancel a new cycle begins. -/
def requestAdsBoost (terms : Terms) (requesterMemberId : Uuid) (now : Nat) : Except BoostError Desk :=
  if desk.gate.status = .voided ∧ desk.run.any (·.cancelRequestedAt.isSome) then .error .cancelInProgress
  else
    let cycled := if desk.gate.status = .voided then
        { desk with run := desk.run.map fun run => { run with cycleStartedAt := some now } }
      else desk
    let old := if desk.gate.status = .voided then none else desk.gate.sealedAds
    if old.any (·.budgetMinor < terms.budgetMinor) then
      .error (.budgetExceedsSeal ((old.map (·.budgetMinor)).getD 0) terms.budgetMinor)
    else if desk.gate.status = .approved then
      ((cycled.voidPendingCommands termsChangedCode).sealTerms terms requesterMemberId).leaveApproved .approved now
    else .ok (cycled.sealTerms terms requesterMemberId)

def moveGate (newStatus : GateStatus) (resolverId : Option Uuid) (now : Nat) : Except BoostError Desk :=
  if gateMoves.contains (desk.gate.status, newStatus) then
    { desk with gate := { desk.gate with status := newStatus, resolverId } }.leaveApproved desk.gate.status now
  else .error (.gateMove desk.gate.status newStatus)

/-- The idempotency key of a command: destination, version, operation and toggle number. -/
def sameCommand (seal_ : Seal) (operation : Operation) (toggleSeq : Nat) (command : BoostCommand) : Bool :=
  command.destination == seal_.connectionId && command.approvedVersion == seal_.versionId &&
    command.boost == operation && command.toggleSeq == toggleSeq

def newCommand (seal_ : Seal) (operation : Operation) (toggleSeq : Nat) (requesterMemberId : Uuid)
    (initiatedBy : Option Initiator) (now : Nat) : BoostCommand where
  id := desk.commands.length
  orgId := desk.gate.orgId
  gateId := desk.gate.id
  destination := seal_.connectionId
  approvedVersion := seal_.versionId
  operation := operation.text
  toggleSeq
  contentKind := .adsBoost
  requestedByMemberId := requesterMemberId
  updatedAt := now
  boost := operation
  initiatedBy
  adsBoostCycle := desk.cycle

def createOrGet (operation : Operation) (toggleSeq : Nat) (requesterMemberId : Uuid) (initiatedBy : Option Initiator)
    (now : Nat) : Except BoostError Desk :=
  match desk.gate.sealedAds with
  | none => .error .unsealed
  | some seal_ =>
    if desk.commands.any (sameCommand seal_ operation toggleSeq) then .ok desk
    else .ok { desk with
      commands := desk.commands ++ [desk.newCommand seal_ operation toggleSeq requesterMemberId initiatedBy now] }

def requestAdsBoostStart (requesterMemberId : Uuid) (initiatedBy : Initiator) (now : Nat) : Except BoostError Desk :=
  if desk.gate.status ≠ .approved then .error (.gateNotApproved desk.gate.status)
  else if initiatedBy = .human ∧ desk.run.any (·.capReachedAt.isSome) then .error (.capReached .boostStart)
  else desk.createOrGet .boostStart 0 requesterMemberId (some initiatedBy) now

def toggles : List BoostCommand := desk.commands.filter BoostCommand.isToggle

def startedIn (cycle : Nat) : Bool :=
  desk.commands.any fun command => command.boost == .boostStart && command.adsBoostCycle == cycle

/-- The toggles of a cycle with the highest number. A new seal may give one number
to two rows, and the query then returns either. -/
def latestToggles (cycle : Nat) : List BoostCommand :=
  let own := desk.toggles.filter fun command => command.adsBoostCycle == cycle
  own.filter fun command => own.all fun other => other.toggleSeq ≤ command.toggleSeq

/-- The row the database returns first among equals is named by `preferred`. -/
def latestToggle (cycle : Nat) (preferred : Uuid) : Option BoostCommand :=
  ((desk.latestToggles cycle).find? (·.id == preferred)).or (desk.latestToggles cycle).head?

def lastToggleSeq : Nat := (desk.toggles.map (·.toggleSeq)).max?.getD 0

/-- The row after a person's retry; a row that nobody may retry stays as it is. -/
def retryDeadLetter (command : BoostCommand) : Desk :=
  if command.humanRetryable then desk.putCommand { command with toCommand := command.requeue } else desk

/-- Pause or resume. `usable` is whether the campaign's connection is active. -/
def requestToggle (operation : Operation) (requesterMemberId : Uuid) (initiatedBy : Option Initiator) (usable : Bool)
    (preferred : Uuid) (now : Nat) : Except BoostError Desk :=
  if desk.gate.status ≠ .approved ∧ operation ∉ moneyStoppingOps then .error (.gateNotApproved desk.gate.status)
  else if !desk.startedIn desk.cycle then .error .notStarted
  else if operation = .resume ∧ desk.run.any (·.capReachedAt.isSome) then .error (.capReached .resume)
  else if operation = .resume ∧ desk.run.any (·.spendBlockedAt.isSome) then
    .error (.spendBlocked (desk.run.bind (·.spendBlockedCode)))
  else
    match desk.latestToggle desk.cycle preferred with
    | none =>
      if operation = .resume then .error .notPaused
      else desk.createOrGet operation (desk.lastToggleSeq + 1) requesterMemberId initiatedBy now
    | some latest =>
      if latest.boost ≠ operation then desk.createOrGet operation (latest.toggleSeq + 1) requesterMemberId initiatedBy now
      else
        match latest.status with
        | .blocked => if initiatedBy = some .scheduler ∧ usable = false then .ok desk else .ok (desk.retryDeadLetter latest)
        | .pending | .inProgress => desk.createOrGet operation latest.toggleSeq requesterMemberId initiatedBy now
        | .completed => .error (.alreadyInState operation)
        | _ => desk.createOrGet operation (latest.toggleSeq + 1) requesterMemberId initiatedBy now

/-- A person's retry. The start of a campaign whose creation got no definite answer
needs the confirmation that no campaign exists, and only then loses its mark. -/
def retryCommand (id : Uuid) (confirmedNoCampaign : Bool) : Except BoostError Desk :=
  match desk.command id with
  | none => .error .notFound
  | some command =>
    if !command.humanRetryable then .error .notRetryable
    else if command.reasonCode ≠ some createOutcomeUnknownCode then .ok (desk.retryDeadLetter command)
    else if !confirmedNoCampaign then .error .campaignCheckRequired
    else
      .ok ({ desk with
        run := desk.run.map fun (run : BoostRun) =>
          if run.ids.complete then run
          else { run with createClaimedAt := none, createCallStartedAt := none, createHolder := none } }.retryDeadLetter
            command)

/-- The commands that the pause of the organisation blocked are queued again after it. -/
def requeuePaused : Desk :=
  if desk.publishPaused then desk
  else { desk with
    commands := desk.commands.map fun command =>
      if command.status = .blocked ∧ command.failureKind = some .paused then
        { command with toCommand := command.requeue }
      else command }

/-- The run is marked as cancelled, and a capture follows soon; a run that nothing can
be out for is reset at once. -/
def markCancelled (actorMemberId : Uuid) (now : Nat) : Except BoostError Desk :=
  match desk.run with
  | none => .ok desk
  | some run =>
    if run.campaignId.isSome || run.adsetId.isSome || run.adId.isSome || run.createCallStartedAt.isSome || desk.commandOut then
      let marked := desk.putRun { run with cancelRequestedAt := some now, cancelRequestedBy := some actorMemberId }
      if run.cancelRequestedAt.isSome then .ok marked else marked.scheduleCaptureNow now
    else .ok (desk.putRun run.reset)

/-- The committed part of a cancel: the gate is voided, and queued and blocked spending
commands with it. -/
def cancelAdsBoost (actorMemberId : Uuid) (actorIsAdmin : Bool) (now : Nat) : Except BoostError Desk :=
  if !actorIsAdmin && desk.gate.requestedByMemberId != some actorMemberId then .error .cancelForbidden
  else if desk.gate.status = .voided then
    if desk.run.any (·.cancelRequestedAt.isSome) then .ok desk else .error .alreadyCancelled
  else if desk.gate.status = .autoPassed then .error (.gateMove .autoPassed .voided)
  else do
    let left ← { desk with gate := { desk.gate with status := .voided, resolverId := some actorMemberId } }.leaveApproved
      desk.gate.status now
    ((left.voidPendingCommands cancelVoidReasonCode).voidBlockedStarts).markCancelled actorMemberId now

/-- The one place a cancel finishes: the run is paused or was never switched on, and
no command of the gate is out. -/
def cancelFinishes (run : BoostRun) : Bool :=
  run.cancelRequestedAt.isSome && (run.status == .paused || (run.status == .pending && run.campaignId.isNone)) &&
    !desk.commandOut

def endCycle (run : BoostRun) (now : Nat) : EndedCycle where
  ids := run.ids
  createdBudgetMinor := run.createdBudgetMinor
  createdForVersionId := run.createdForVersionId
  createdConnectionId := run.createdConnectionId
  currency := desk.gate.sealedAds.map (·.currency)
  spendMinor := desk.capturedSpendMinor run.cycleNo
  endedAt := now
  endedByMemberId := run.cancelRequestedBy

def finishCancelIfStopped (now : Nat) : Desk :=
  match desk.run with
  | none => desk
  | some run =>
    if desk.cancelFinishes run then { desk.putRun run.reset with cycles := desk.cycles ++ [desk.endCycle run now] }
    else desk

/-- A campaign of a cancelled boost that is not known to be off is paused, once. -/
def pauseLeftCampaign (preferred : Uuid) (now : Nat) : Except BoostError Desk :=
  match desk.run with
  | none => .ok desk
  | some run =>
    match run.cancelRequestedBy with
    | none => .ok desk
    | some requester =>
      if run.cancelRequestedAt.isNone || (run.status != .pending && run.status != .running) || run.campaignId.isNone ||
          desk.commandOut then .ok desk
      else if (desk.latestToggle run.cycleNo preferred).any (·.boost == .pause) then .ok desk
      else desk.requestToggle .pause requester (some .scheduler) true preferred now

def failedPausesThisCycle (cycle : Nat) : Nat :=
  (desk.commands.filter fun command =>
    command.boost == .pause && command.status == .deadLetter && command.adsBoostCycle == cycle).length

def cancelPauseRetryDelays : List Nat := [minutes 5, minutes 20, minutes 80]

/-- After a cancel's pause failed at the provider, a capture soon makes the scheduler
pause again: after the first, second and third failure of the cycle. -/
def captureAfterFailedCancelPause (id : Uuid) (now : Nat) : Except BoostError Desk :=
  match desk.command id, desk.run with
  | some command, some run =>
    if command.boost ≠ .pause ∨ command.status ≠ .deadLetter ∨ run.cancelRequestedAt.isNone ∨
        (run.status ≠ .running ∧ run.status ≠ .pending) ∨ run.campaignId.isNone ∨ command.adsBoostCycle ≠ run.cycleNo then
      .ok desk
    else
      match desk.failedPausesThisCycle run.cycleNo with
      | 0 => .ok desk
      | failed + 1 =>
        match cancelPauseRetryDelays[failed]? with
        | none => .ok desk
        | some delay => desk.scheduleCaptureNow (now + delay)
  | _, _ => .ok desk

end Desk

end Sprintable.Boosts
