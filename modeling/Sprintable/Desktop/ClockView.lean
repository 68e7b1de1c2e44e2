import Mathlib.Algebra.Group.Nat.Defs
import Sprintable.Desktop.Pairings

/-! The clock view that a computer reports: the drafts of its clock-out, as the phone is shown them.
A finished clock-out takes the draft lines off and raises the number below which reports are late. -/

namespace Sprintable.Desktop

def IN_FLIGHT_FLOOR : Nat := 1000

def SEQ_MAX : Nat := 2 ^ 62

/-- Seconds. -/
def FLOW_TTL : Nat := 30 * 60

def RESTING_OUT_TTL : Nat := 36 * 3600

inductive ClockAction where
  | outOpen | outSubmit | outCancel | clockIn | outEdit
  deriving DecidableEq, Repr

inductive ClockMode where
  | none | panel | out | clockIn
  deriving DecidableEq, Repr

inductive ClockScope where
  | computer | one
  deriving DecidableEq, Repr

inductive ClockRowState where
  | drafting | ready | needsYou | saving | saved | ended | notEnded | failed
  deriving DecidableEq, Repr

inductive MissingPart where
  | done | plan | blockers
  deriving DecidableEq, Repr

structure ClockRow where
  agentMemberId : Nat
  state : ClockRowState
  missing : List MissingPart := []
  firstLine : Option String := none
  idle : Bool := false
  rev : Nat := 0
  edited : Bool := false
  deriving DecidableEq, Repr

def ClockRow.withoutLine (row : ClockRow) : ClockRow := { row with firstLine := none }

/-- An agent that has clocked out on its own. -/
structure ClockOne where
  agentMemberId : Nat
  clockedOutAt : Nat
  deriving DecidableEq, Repr

/-- A numbered report, within the range that its schema allows. -/
structure ClockViewReport where
  seq : Nat
  mode : ClockMode
  scope : Option ClockScope := none
  rows : List ClockRow := []
  outs : List ClockOne := []
  positive : 1 ≤ seq
  inRange : seq ≤ SEQ_MAX
  deriving DecidableEq, Repr

structure ClockView where
  mode : ClockMode
  scope : Option ClockScope
  rows : List ClockRow
  outs : List ClockOne
  reportedAt : Nat
  expiresAt : Nat
  deriving DecidableEq, Repr

/-- What `apply_clock_view` reads under the lock of the device's row, beside the number. -/
structure ClockReading where
  now : Nat
  revoked : Bool := false
  remoteControl : Bool := true
  setupAgents : List Nat
  siblingAgents : List Nat := []
  deriving DecidableEq, Repr

/-- The clock columns of a device's row and its view. How often a token was issued and what was
applied since then is a record of the run, which the server does not have. -/
structure ClockDesk where
  clockViewSeq : Option Nat := none
  clockSeenAt : Option Nat := none
  view : Option ClockView := none
  tokens : Nat := 0
  applied : List ClockViewReport := []
  deriving DecidableEq, Repr

/-- What a report is answered: if it was applied, the number held after it, and the rows dropped. -/
structure ClockAnswer where
  applied : Bool
  held : Option Nat
  dropped : Nat
  deriving DecidableEq, Repr

namespace ClockViewReport
variable (report : ClockViewReport) (reading : ClockReading)

def named : List Nat := report.rows.map (·.agentMemberId) ++ report.outs.map (·.agentMemberId)

/-- The agents whose rows are kept: the device's own, and for a report of more than one agent that
names others also those of the computer's other setups. -/
def agents : List Nat :=
  if report.scope ≠ some .one ∧ report.named.any fun agent => agent ∉ reading.setupAgents then
    reading.setupAgents ++ reading.siblingAgents
  else reading.setupAgents

def keptRows : List ClockRow := report.rows.filter fun row => row.agentMemberId ∈ report.agents reading

def keptOuts : List ClockOne := report.outs.filter fun one => one.agentMemberId ∈ report.agents reading

def dropped : Nat :=
  report.rows.length - (report.keptRows reading).length + (report.outs.length - (report.keptOuts reading).length)

def expiresAfter : Nat :=
  match report.mode with
  | .out | .none => RESTING_OUT_TTL
  | .panel | .clockIn => FLOW_TTL

/-- The view that the report leaves; a `none` that names nobody leaves none. -/
def view : Option ClockView :=
  if report.mode = .none ∧ report.keptOuts reading = [] then none
  else some
    { mode := report.mode, scope := report.scope, rows := report.keptRows reading, outs := report.keptOuts reading
      reportedAt := reading.now, expiresAt := reading.now + report.expiresAfter }

end ClockViewReport

def DISCONNECTED_CODE : String := "device_disconnected"

namespace ClockDesk
variable (desk : ClockDesk)

def standing (now : Nat) : Option ClockView := desk.view.filter fun view => now < view.expiresAt

/-- The guard of the conditional update. -/
def takes (seq : Nat) : Bool := desk.clockViewSeq.all fun held => held < seq

def applyClockView (report : ClockViewReport) (reading : ClockReading) : Except DesktopRelayError (ClockDesk × ClockAnswer) :=
  if reading.revoked then .error ⟨409, DISCONNECTED_CODE, "this computer was disconnected"⟩
  else if !reading.remoteControl then
    .error ⟨409, OFF_CODE, "remote control is off for this organization"⟩
  else if desk.takes report.seq then
    .ok
      ({ desk with
          clockViewSeq := some report.seq, clockSeenAt := some reading.now, view := report.view reading
          applied := desk.applied ++ [report] },
        { applied := true, held := some report.seq, dropped := report.dropped reading })
  else
    .ok
      ({ desk with clockSeenAt := some reading.now, view := desk.standing reading.now },
        { applied := false, held := desk.clockViewSeq, dropped := 0 })

/-- `_drop_first_lines`: for one agent only its line. -/
def dropFirstLines (agent : Option Nat) : ClockDesk :=
  { desk with
    view := desk.view.map fun view =>
      { view with
        rows := view.rows.map fun row => if agent.all (· = row.agentMemberId) then row.withoutLine else row }
    clockViewSeq := desk.clockViewSeq.map fun held => min (held + IN_FLIGHT_FLOOR) SEQ_MAX }

def ends (action : ClockAction) : Bool := action = .outSubmit || action = .outCancel

/-- `on_clock_result`, for a command that is recorded as done. -/
def onClockResult (action : ClockAction) (agent : Option Nat) : ClockDesk :=
  if ends action then desk.dropFirstLines agent else desk

def forget : ClockDesk := { desk with view := none }

/-- What `issue_device_token` does to the clock. -/
def issueToken : ClockDesk :=
  { desk with clockViewSeq := none, clockSeenAt := none, view := none, tokens := desk.tokens + 1, applied := [] }

end ClockDesk

/-- One operation on the clock of a device; each holds the lock of the device's row until it commits.
A report carries the count of tokens at the time that its own token was let in. -/
inductive ClockEvent where
  | report (token : Nat) (report : ClockViewReport) (reading : ClockReading)
  | result (action : ClockAction) (agent : Option Nat)
  | forget
  | issueToken
  deriving DecidableEq, Repr

def ClockDesk.step (desk : ClockDesk) : ClockEvent → ClockDesk
  | .report token report reading =>
    if desk.tokens < token then desk
    else match desk.applyClockView report reading with
    | .ok (after, _) => after
    | .error _ => desk
  | .result action agent => desk.onClockResult action agent
  | .forget => desk.forget
  | .issueToken => desk.issueToken

end Sprintable.Desktop
