import Mathlib.Data.List.Sort
import Sprintable.Boosts.Executor

/-! The spend captures: a tick claims the due captures, reads the campaign's spend,
compares what was captured with the sealed budget and schedules the next capture.
Each stage of a capture ends with a commit or with the call of the provider. -/

namespace Sprintable.Boosts

def spendContextLostCode : String := "ADS_SPEND_CONTEXT_LOST"

def spendReadFailedRepeatedlyCode : String := "ADS_SPEND_READ_FAILED_REPEATEDLY"

def spendNotStartedCode : String := "ADS_SPEND_NOT_STARTED"

def spendConnectionMissingCode : String := "ADS_SPEND_CONNECTION_MISSING"

def spendIsBlockedCode : String := "ADS_SPEND_BLOCKED"

def spendReadFailuresBeforeStop : Nat := 3

def spendReadRetryBackoff (streak : Nat) : Nat := if streak ≤ 1 then hours 1 else hours 3

def blockFollowUp : Nat := hours 1

def recurringSnapshotInterval : Nat := hours 24

def spendRefreshMinInterval : Nat := minutes 5

/-- Where a capture stands after its last commit or before its call. -/
inductive CaptureStage where
  | claimed
  | resolved
  | reading
  | captured
  | capFollow (newlyReached : Bool)
  | scheduling
  | notStarted
  | failedRead
  | blocking (code : String)
  | blockFollow
  deriving DecidableEq, Repr

/-- One capture under way. `gate` and `run` are the rows as its session holds them;
a capture without a snapshot is the one that a person asks for at once. -/
structure Capture where
  id : Nat
  snapshotId : Option Nat
  dueAt : Nat
  now : Nat
  stage : CaptureStage := .claimed
  dead : Bool := false
  gate : BoostGate
  run : BoostRun := {}
  deriving DecidableEq, Repr

inductive SpendAnswer where
  | read (spendMinor : Nat)
  | currencyUnreadable (code : String)
  | failed (code : String)
  deriving DecidableEq, Repr

structure CaptureAnswer where
  connectionFound : Bool := true
  usable : Bool := true
  preferred : Uuid := 0
  spend : SpendAnswer := .read 0
  notified : Bool := true

structure Boost extends World where
  captures : List Capture := []
  captureCount : Nat := 0

namespace Desk
variable (desk : Desk)

def pauseRequester (resolverId : Option Uuid) : Option Uuid :=
  resolverId.or
    ((desk.commands.filter fun command => command.boost == .boostStart).getLast?.map fun command => command.requestedByMemberId)

def pauseByScheduler (resolverId : Option Uuid) (answer : CaptureAnswer) (now : Nat) : Desk :=
  match desk.pauseRequester resolverId with
  | none => desk
  | some requester =>
    match desk.requestToggle .pause requester (some .scheduler) answer.usable answer.preferred now with
    | .ok paused => paused
    | .error _ => desk

/-- The failures since the last captured reading, three at most. -/
def consecutiveFailures : Nat :=
  let ended := desk.snapshots.filter fun row => row.paid && (row.status == .captured || row.status == .failed)
  (((ended.insertionSort fun first second => second.dueAt ≤ first.dueAt).take spendReadFailuresBeforeStop).takeWhile
    fun row => row.status == .failed).length

def setSnapshot (id : Option Nat) (change : Snapshot → Snapshot) : Desk :=
  match id with
  | some id => { desk with snapshots := Keyed.modify (·.id) desk.snapshots id change }
  | none => desk

def failSnapshot (id : Option Nat) (code : String) (now : Nat) : Desk :=
  desk.setSnapshot id fun row => { row with status := .failed, errorCode := some code, capturedAt := some now }

end Desk

namespace Boost
variable (boost : Boost) (capture : Capture)

def putCapture (capture : Capture) : Boost := { boost with captures := Keyed.put Capture.id boost.captures capture }

def endCapture : Boost := { boost with captures := boost.captures.filter fun other => other.id ≠ capture.id }

def onDesk (change : Desk → Desk) : Boost := { boost with toDesk := change boost.toDesk }

/-- The snapshot is marked failed, and the capture goes on to what follows a failure. -/
def failCapture (code : String) (stage : CaptureStage) : Boost :=
  (boost.onDesk (·.failSnapshot capture.snapshotId code capture.now)).putCapture { capture with stage }

/-- `_resolve_spend_context` and `_pause_if_off_approved`. -/
def resolveSpendContext (answer : CaptureAnswer) : Boost :=
  match boost.run with
  | none => boost.failCapture capture spendNotStartedCode .notStarted
  | some run =>
    if run.campaignId.isNone then boost.failCapture capture spendNotStartedCode .notStarted
    else if !answer.connectionFound then
      boost.failCapture capture spendConnectionMissingCode (.blocking spendContextLostCode)
    else
      let loaded := { capture with gate := boost.gate, run, stage := .resolved }
      if boost.gate.status ≠ .approved && run.live then
        (boost.onDesk (·.pauseByScheduler boost.gate.resolverId answer capture.now)).putCapture loaded
      else boost.putCapture loaded

def checkBlocked : Boost :=
  if capture.run.spendBlockedAt.isSome then boost.failCapture capture spendIsBlockedCode .blockFollow
  else boost.putCapture { capture with stage := .reading }

/-- The row of a reading; an immediate capture inserts it with the reading. -/
def storeReading (spendMinor : Nat) : Boost :=
  let read (row : Snapshot) : Snapshot :=
    { row with
      status := .captured
      spendMinor := some spendMinor
      adsBoostCycle := some capture.run.cycleNo
      capturedAt := some capture.now
      errorCode := none }
  match capture.snapshotId with
  | some _ => (boost.onDesk (·.setSnapshot capture.snapshotId read)).putCapture { capture with stage := .captured }
  | none =>
    if boost.snapshots.any fun row => row.dueAt == capture.dueAt then boost.endCapture capture
    else
      let stored := read { id := boost.snapshots.length, dueAt := capture.dueAt }
      { boost with snapshots := boost.snapshots ++ [stored] }.putCapture { capture with stage := .captured }

def readSpend : SpendAnswer → Boost
  | .read spendMinor => boost.storeReading capture spendMinor
  | .currencyUnreadable code => boost.failCapture capture code (.blocking code)
  | .failed code => if capture.snapshotId.isNone then boost.endCapture capture else boost.failCapture capture code .failedRead

def comparedSpendMinor : Nat := boost.capturedSpendMinor capture.run.cycleNo

def reachesCap : Bool :=
  capture.gate.sealedAds.any fun seal_ => decide (seal_.budgetMinor ≤ boost.comparedSpendMinor capture)

/-- `_enforce_spend_cap` up to the commit that records the cap. -/
def enforceSpendCap : Boost :=
  if capture.run.capReachedAt.isSome then boost.putCapture { capture with stage := .capFollow false }
  else if boost.reachesCap capture then
    { boost with run := boost.run.map fun (stored : BoostRun) => { stored with capReachedAt := some capture.now } }.putCapture
      { capture with run := { capture.run with capReachedAt := some capture.now }, stage := .capFollow true }
  else boost.putCapture { capture with stage := .scheduling }

/-- A capped boost is paused and followed up until it is. -/
def followThroughCap (newlyReached : Bool) (answer : CaptureAnswer) : Boost :=
  let status := (boost.run.map BoostRun.status).getD capture.run.status
  let followed :=
    if status = .paused then
      if newlyReached then boost.onDesk (·.insertSnapshot (capture.now + blockFollowUp)) else boost
    else
      let paused := if status = .pausePending then boost
        else boost.onDesk (·.pauseByScheduler capture.gate.resolverId answer capture.now)
      paused.onDesk (·.insertSnapshot (capture.now + blockFollowUp))
  followed.putCapture { capture with run := { capture.run with status }, stage := .scheduling }

/-- The next capture of a running boost below its cap, unless the period ends before. -/
def scheduleNext : Boost :=
  let ended := boost.endCapture capture
  if capture.snapshotId.isSome ∧ capture.run.status = .running ∧ capture.run.capReachedAt.isNone then
    match capture.gate.sealedAds with
    | some seal_ =>
      if capture.dueAt + recurringSnapshotInterval ≤ seal_.endsAt then
        ended.onDesk (·.insertSnapshot (capture.dueAt + recurringSnapshotInterval))
      else ended
    | none => ended
  else ended

def rescheduleNotStarted : Boost :=
  let ended := boost.endCapture capture
  if boost.gate.sealedAds.all (capture.now < ·.endsAt) then
    ended.onDesk (·.insertSnapshot (capture.now + spendReadRetryBackoff 1))
  else ended

/-- `_after_failed_spend_read` once the failure is committed. -/
def afterFailedSpendRead : Boost :=
  let streak := boost.consecutiveFailures
  if spendReadFailuresBeforeStop ≤ streak then
    boost.putCapture { capture with stage := .blocking spendReadFailedRepeatedlyCode }
  else if boost.run.any fun run => run.status == .running && run.spendBlockedAt.isNone then
    (boost.endCapture capture).onDesk (·.insertSnapshot (capture.now + spendReadRetryBackoff streak))
  else boost.endCapture capture

/-- `_block_unreadable_spend` up to the commit that records the block. -/
def blockUnreadableSpend (code : String) : Boost :=
  match boost.run with
  | none => boost.endCapture capture
  | some run =>
    let loaded := { capture with gate := boost.gate, run, stage := .blockFollow }
    if run.spendBlockedAt.isSome then boost.putCapture loaded
    else
      let blocked := { run with spendBlockedAt := some capture.now, spendBlockedCode := some code }
      { boost with run := some blocked }.putCapture { loaded with run := blocked }

def followThroughBlock (answer : CaptureAnswer) : Boost :=
  let stopped := capture.run.spendBlockedCode == some spendContextLostCode || capture.run.status == .paused ||
    capture.run.status == .pausePending
  let paused := if stopped then boost
    else boost.onDesk (·.pauseByScheduler capture.gate.resolverId answer capture.now)
  let told := capture.run.spendBlockedNotifiedAt.isNone && answer.notified
  let noted := if told then
      { paused with
        run := paused.run.map fun (stored : BoostRun) => { stored with spendBlockedNotifiedAt := some capture.now } }
    else paused
  let untold := capture.run.spendBlockedNotifiedAt.isNone && noted.run.all fun stored => stored.spendBlockedNotifiedAt.isNone
  let followed := if !stopped || untold then
      noted.onDesk (·.insertSnapshot (capture.now + blockFollowUp))
    else noted
  followed.endCapture capture

def advanceCapture (answer : CaptureAnswer) : Boost :=
  match capture.stage with
  | .claimed => boost.resolveSpendContext capture answer
  | .resolved => boost.checkBlocked capture
  | .reading => boost.readSpend capture answer.spend
  | .captured => boost.enforceSpendCap capture
  | .capFollow newlyReached => boost.followThroughCap capture newlyReached answer
  | .scheduling => boost.scheduleNext capture
  | .notStarted => boost.rescheduleNotStarted capture
  | .failedRead => boost.afterFailedSpendRead capture
  | .blocking code => boost.blockUnreadableSpend capture code
  | .blockFollow => boost.followThroughBlock capture answer

def claimCapture (snapshotId now : Nat) : Boost :=
  match Keyed.find Snapshot.id boost.snapshots snapshotId with
  | none => boost
  | some row =>
    if row.paid ∧ row.status = .pending ∧ row.dueAt ≤ now then
      { boost with
        snapshots := Keyed.modify Snapshot.id boost.snapshots snapshotId fun row => { row with status := .inProgress }
        captures := boost.captures ++
          [{ id := boost.captureCount, snapshotId := some snapshotId, dueAt := row.dueAt, now, gate := boost.gate }]
        captureCount := boost.captureCount + 1 }
    else boost

/-- `refresh_ads_boost_spend_now` up to its reading: refused without an approval, soon
after the last reading and before there is a campaign. -/
def refreshSpendNow (answer : CaptureAnswer) (now : Nat) : Boost :=
  let lately := boost.snapshots.any fun row =>
    row.spendMinor.isSome && row.capturedAt.any fun capturedAt => now < capturedAt + spendRefreshMinInterval
  if boost.gate.status ≠ .approved ∨ lately ∨ !answer.connectionFound then boost
  else
    match boost.run with
    | none => boost
    | some run =>
      if run.campaignId.isNone ∨ boost.snapshots.any (fun row => row.dueAt == now) then boost
      else
        { boost with
          captures := boost.captures ++
            [{ id := boost.captureCount, snapshotId := none, dueAt := now, now, stage := .reading, gate := boost.gate, run }]
          captureCount := boost.captureCount + 1 }

/-- An unexpected error: the snapshot is marked failed, the reading it may have held is
dropped from the count, and the follow-up of a failed read begins. An error in what
already follows a failure ends the capture. -/
def escapeCapture (code : String) : Boost :=
  match capture.stage with
  | .notStarted | .failedRead | .blocking _ => boost.endCapture capture
  | _ => if capture.snapshotId.isNone then boost.endCapture capture else boost.failCapture capture code .failedRead

def crashCapture : Boost := boost.putCapture { capture with dead := true }

end Boost

end Sprintable.Boosts
