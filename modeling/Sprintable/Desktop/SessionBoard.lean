import Mathlib.Data.Prod.Lex
import Sprintable.Desktop.Pairings
import Sprintable.Logic.Keyed

/-! The board of sessions that a desktop device reports. The reports are numbered, and the server
keeps no number of its own: the latest one is read off the rows that the device has left. -/

namespace Sprintable.Desktop

def INT32_MAX : Nat := 2147483647

def SESSION_ROWS_PER_DEVICE : Nat := 200

/-- Seconds, as every time of this module. -/
def ENDED_SESSION_RETENTION : Nat := 7 * 24 * 3600

def REPORT_CLOCK_SKEW : Nat := 5 * 60

def WIDENED_MAX_AHEAD : Nat := 5 * 60

inductive SessionRuntime where
  | claude | codex
  deriving DecidableEq, Repr

inductive SessionState where
  | starting | working | idle | waitingPermission | waitingInput | error | pausedLimit | waitingSystem | stopped
  deriving DecidableEq, Repr

structure SessionLimit where
  resetsAt : Option Nat := none
  again : Option Bool := none
  selfResume : Option String := none
  held : Option String := none
  looks : Option Bool := none
  deriving DecidableEq, Repr

structure SessionRun where
  model : Option String := none
  modelSet : Option Bool := none
  effort : Option String := none
  account : Option String := none
  deriving DecidableEq, Repr

/-- A widening that a person made at the terminal; its three columns come together. -/
structure Widening where
  madeAt : Nat
  source : String
  target : String
  deriving DecidableEq, Repr

structure SessionReport where
  agentMemberId : Nat
  runtime : SessionRuntime := .claude
  state : SessionState
  reportedAt : Nat
  limit : Option SessionLimit := none
  run : Option SessionRun := none
  system : Option (Option String) := none
  inbox : Option String := none
  firstScreen : Option String := none
  workHold : Option String := none
  permissionWidened : Option Widening := none
  instructNow : Option Bool := none
  deriving DecidableEq, Repr

structure DesktopSession where
  sessionKey : String
  agentMemberId : Nat
  runtime : SessionRuntime
  state : SessionState
  lastReportSeq : Nat
  stateAt : Nat
  createdAt : Nat
  endedAt : Option Nat
  limit : Option SessionLimit
  run : Option SessionRun
  inbox : Option String
  systemFolder : Option String
  firstScreenAsk : Option String
  workHoldWhy : Option String
  permissionWidened : Option Widening
  instructNow : Option Bool
  deriving DecidableEq, Repr

/-- A refusal of a report. A stale one is told the latest number of the device. -/
structure ReportRefusal extends DesktopRelayError where
  latest : Option Nat := none
  deriving DecidableEq, Repr

/-- What the server reads beside a report: the agents the device was set up with, the clock, and
how the database orders rows that its `ORDER BY` leaves tied. -/
structure Reading where
  setupAgents : List Nat
  now : Nat
  tied : DesktopSession → Nat

/-- `_reported_at`: a time too far ahead is not believed. -/
def reportedAt (said now : Nat) : Nat := if now + REPORT_CLOCK_SKEW < said then now else said

def FIRST_SCREEN_STATES : List SessionState := [.starting, .working, .idle]

/-- `_set_widened`: only a newer widening takes the place of the one that stands. -/
def setWidened (standing : Option Widening) (report : SessionReport) (now : Nat) (wasStopped : Bool) : Option Widening :=
  if report.state = .starting ∨ (wasStopped ∧ report.state ≠ .stopped) then none
  else match report.permissionWidened with
  | none => standing
  | some widening =>
    if now + WIDENED_MAX_AHEAD < widening.madeAt then standing
    else if standing.any fun earlier => widening.madeAt ≤ earlier.madeAt then standing
    else some widening

namespace DesktopSession

def stopped (row : DesktopSession) : Bool := row.state = .stopped

/-- The row that a report leaves for its session, whose row so far is `old`. -/
def reported (sessionKey : String) (old : Option DesktopSession) (report : SessionReport) (reportSeq now : Nat) :
    DesktopSession where
  sessionKey
  agentMemberId := report.agentMemberId
  runtime := report.runtime
  state := report.state
  lastReportSeq := reportSeq
  stateAt := reportedAt report.reportedAt now
  createdAt := (old.map (·.createdAt)).getD now
  endedAt := if report.state = .stopped then some (reportedAt report.reportedAt now) else none
  limit := report.limit
  run := report.run
  inbox := if report.state = .stopped then none else report.inbox
  systemFolder := if report.state = .waitingSystem then report.system.getD none else none
  firstScreenAsk := if report.state ∈ FIRST_SCREEN_STATES then report.firstScreen else none
  workHoldWhy := if report.state = .stopped then none else report.workHold
  permissionWidened := setWidened (old.bind (·.permissionWidened)) report now (old.any stopped)
  instructNow := report.instructNow

def unlisted (row : DesktopSession) (reportSeq now : Nat) : DesktopSession :=
  if row.stopped then { row with lastReportSeq := reportSeq }
  else
    { row with
      lastReportSeq := reportSeq, state := .stopped, stateAt := now, endedAt := some now
      limit := none, run := none, inbox := none, systemFolder := none, firstScreenAsk := none, workHoldWhy := none
      instructNow := none }

def expired (row : DesktopSession) (now : Nat) : Bool :=
  row.stopped && row.endedAt.any fun ended => ended + ENDED_SESSION_RETENTION < now

end DesktopSession

/-- `coalesce(max(last_report_seq), 0)` over the rows of the device. -/
def latestSeq (rows : List DesktopSession) : Nat := (rows.map (·.lastReportSeq)).max?.getD 0

def sessionKeys (rows : List DesktopSession) : List String := rows.map (·.sessionKey)

def pruneExpired (rows : List DesktopSession) (now : Nat) : List DesktopSession :=
  rows.filter fun row => !row.expired now

/-- `ORDER BY ended_at ASC NULLS FIRST, created_at ASC`. -/
def endsBefore (tied : DesktopSession → Nat) (first second : DesktopSession) : Prop :=
  toLex (first.endedAt.isSome, toLex (first.endedAt.getD 0, toLex (first.createdAt, tied first))) ≤
    toLex (second.endedAt.isSome, toLex (second.endedAt.getD 0, toLex (second.createdAt, tied second)))

instance (tied : DesktopSession → Nat) : DecidableRel (endsBefore tied) :=
  fun first second => by unfold endsBefore; infer_instance

def excess (rows : List DesktopSession) (newRows : Nat) : Nat := rows.length + newRows - SESSION_ROWS_PER_DEVICE

/-- The ended rows that `_make_room` drops, the oldest first. -/
def oldestEnded (tied : DesktopSession → Nat) (rows : List DesktopSession) (newRows : Nat) : List DesktopSession :=
  ((rows.filter (·.stopped)).insertionSort (endsBefore tied)).take (excess rows newRows)

def makeRoom (tied : DesktopSession → Nat) (rows : List DesktopSession) (newRows : Nat) :
    Except ReportRefusal (List DesktopSession) :=
  let oldest := oldestEnded tied rows newRows
  if oldest.length < excess rows newRows then
    .error { status := 422, code := "too_many_sessions", message := s!"a device keeps at most {SESSION_ROWS_PER_DEVICE} sessions" }
  else .ok (rows.filter fun row => row.sessionKey ∉ sessionKeys oldest)

def checkAgent (setupAgents : List Nat) (agentMemberId : Nat) : Except ReportRefusal Unit :=
  if agentMemberId ∈ setupAgents then .ok ()
  else .error
    { status := 422, code := "agent_not_on_device", message := "the agent is not one this device was set up with" }

def checkSeqRange (reportSeq : Nat) : Except ReportRefusal Unit :=
  if INT32_MAX < reportSeq then
    .error { status := 422, code := "report_seq_out_of_range", message := s!"report_seq must be at most {INT32_MAX}" }
  else .ok ()

/-- Both operations lock the device's row, read its latest number and refuse one that is not after it. -/
def checkLatest (rows : List DesktopSession) (reportSeq : Nat) : Except ReportRefusal Unit :=
  let latest := latestSeq rows
  if reportSeq ≤ latest then
    .error
      { status := 409, code := "stale_report", message := s!"report_seq {reportSeq} is not after {latest}"
        latest := some latest }
  else .ok ()

/-- The session's row takes the report, or a new row does. -/
def writeReport (rows : List DesktopSession) (sessionKey : String) (report : SessionReport) (reportSeq now : Nat) :
    List DesktopSession :=
  match Keyed.find DesktopSession.sessionKey rows sessionKey with
  | some old => Keyed.put DesktopSession.sessionKey rows (.reported sessionKey (some old) report reportSeq now)
  | none => rows ++ [.reported sessionKey none report reportSeq now]

/-- The report of one session, once its number is known to be the latest. -/
def applyState (rows : List DesktopSession) (sessionKey : String) (report : SessionReport) (reportSeq : Nat) (reading : Reading) :
    Except ReportRefusal (List DesktopSession) := do
  let kept := pruneExpired rows reading.now
  let roomy ← (if sessionKey ∈ sessionKeys kept then .ok kept else makeRoom reading.tied kept 1)
  return writeReport roomy sessionKey report reportSeq reading.now

def recordSessionState (rows : List DesktopSession) (sessionKey : String) (report : SessionReport) (reportSeq : Nat)
    (reading : Reading) : Except ReportRefusal (List DesktopSession) := do
  checkAgent reading.setupAgents report.agentMemberId
  checkSeqRange reportSeq
  checkLatest rows reportSeq
  applyState rows sessionKey report reportSeq reading

structure SnapshotSession extends SessionReport where
  sessionKey : String
  deriving DecidableEq, Repr

def newSessions (rows : List DesktopSession) (sessions : List SnapshotSession) : List SnapshotSession :=
  sessions.filter fun session => session.sessionKey ∉ sessionKeys rows

/-- The rows that the list names take its reports; every other row is of a session that it leaves out. -/
def writeList (rows : List DesktopSession) (sessions : List SnapshotSession) (reportSeq now : Nat) : List DesktopSession :=
  let written := sessions.foldl
    (fun rows session => writeReport rows session.sessionKey session.toSessionReport reportSeq now) rows
  written.map fun row =>
    if row.sessionKey ∈ sessions.map (·.sessionKey) then row else row.unlisted reportSeq now

/-- The whole list, once its number is known to be the latest. -/
def applyList (rows : List DesktopSession) (sessions : List SnapshotSession) (reportSeq : Nat) (reading : Reading) :
    Except ReportRefusal (List DesktopSession) := do
  let kept := pruneExpired rows reading.now
  let roomy ← makeRoom reading.tied kept (newSessions kept sessions).length
  return writeList roomy sessions reportSeq reading.now

def replaceSessions (rows : List DesktopSession) (sessions : List SnapshotSession) (reportSeq : Nat) (reading : Reading) :
    Except ReportRefusal (List DesktopSession) := do
  sessions.forM fun session => checkAgent reading.setupAgents session.agentMemberId
  checkSeqRange reportSeq
  if (sessions.map (·.sessionKey)).Nodup then .ok ()
  else .error { status := 422, code := "duplicate_session_key", message := "a session key appears twice" }
  checkLatest rows reportSeq
  applyList rows sessions reportSeq reading

/-- What `issue_device_token` does to the board: a new token may count from one again. -/
def restartCount (rows : List DesktopSession) : List DesktopSession :=
  rows.map fun row => { row with lastReportSeq := 0 }

inductive BoardReport where
  | state (sessionKey : String) (report : SessionReport)
  | list (sessions : List SnapshotSession)
  deriving DecidableEq, Repr

/-- A report as it reaches the server, with what the server reads beside it. -/
structure Delivery where
  report : BoardReport
  reportSeq : Nat
  reading : Reading

namespace Delivery

def apply (rows : List DesktopSession) (delivery : Delivery) : Except ReportRefusal (List DesktopSession) :=
  match delivery.report with
  | .state sessionKey report => applyState rows sessionKey report delivery.reportSeq delivery.reading
  | .list sessions => applyList rows sessions delivery.reportSeq delivery.reading

def receive (rows : List DesktopSession) (delivery : Delivery) : Except ReportRefusal (List DesktopSession) :=
  match delivery.report with
  | .state sessionKey report => recordSessionState rows sessionKey report delivery.reportSeq delivery.reading
  | .list sessions => replaceSessions rows sessions delivery.reportSeq delivery.reading

end Delivery

/-- The rows of a device. The rows at the issue of its token and the reports accepted since then
are a record of the run, which the server does not have. -/
structure DeviceBoard where
  rows : List DesktopSession := []
  issued : List DesktopSession := []
  accepted : List Delivery := []

inductive BoardEvent where
  | issueToken
  | deliver (delivery : Delivery)

/-- One request. A refused report is rolled back. -/
def DeviceBoard.step (board : DeviceBoard) : BoardEvent → DeviceBoard
  | .issueToken => { rows := restartCount board.rows, issued := restartCount board.rows, accepted := [] }
  | .deliver delivery =>
    match delivery.receive board.rows with
    | .ok rows => { board with rows, accepted := board.accepted ++ [delivery] }
    | .error _ => board

end Sprintable.Desktop
