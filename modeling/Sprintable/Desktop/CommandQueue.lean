import Sprintable.Desktop.Permissions
import Sprintable.Logic.RowLocks

/-! The commands of one device, as the statements of overlapping transactions read and write them.
A number is taken under the lock of the device's row; a result is recorded under the lock of the
command's row. A stream reads the open commands without a lock and writes them back later. -/

namespace Sprintable.Desktop

inductive CommandKind where
  | startSession | sendPrompt | answerApproval | stopSession | endSession | clock
  deriving DecidableEq, Repr

structure RelayCommand where
  deviceSeq : Nat
  kind : CommandKind
  sessionKey : Option String
  idempotencyKey : String
  requestedBy : Nat
  state : CommandState := .queued
  resultCode : Option String := none
  deliveredAt : Option Nat := none
  ackedAt : Option Nat := none
  finishedAt : Option Nat := none
  deriving DecidableEq, Repr

/-- `queued` or `delivered`. -/
def RelayCommand.isOpen (command : RelayCommand) : Bool := command.state = .queued || command.state = .delivered

/-- `done`, `failed` or `rejected`. -/
def RelayCommand.finished (command : RelayCommand) : Bool :=
  command.state = .done || command.state = .failed || command.state = .rejected

/-- A call of `enqueue_command`, with what its checks read: the organisation's switch, what the
payload's schema says, and if the agent that it names is one of the device. -/
structure CommandOrder where
  kind : CommandKind
  sessionKey : Option String := none
  idempotencyKey : String
  requestedBy : Nat
  remoteControl : Bool := true
  payloadError : Option String := none
  agentOnDevice : Bool := true
  deriving DecidableEq, Repr

def CommandOrder.check (order : CommandOrder) : Except DesktopRelayError Unit :=
  if !order.remoteControl then .error ⟨409, OFF_CODE, "remote control is off for this organization"⟩
  else match order.payloadError with
  | some message => .error ⟨422, "invalid_payload", message⟩
  | none =>
    if !order.agentOnDevice then
      .error ⟨422, "agent_not_on_device", "the agent is not one this device was set up with"⟩
    else if order.idempotencyKey.length < 1 ∨ 128 < order.idempotencyKey.length then
      .error ⟨422, "invalid_idempotency_key", "an idempotency key of 1 to 128 characters"⟩
    else .ok ()

def CommandOrder.command (order : CommandOrder) (deviceSeq : Nat) : RelayCommand :=
  { deviceSeq, kind := order.kind, sessionKey := order.sessionKey, idempotencyKey := order.idempotencyKey
    requestedBy := order.requestedBy }

/-- The rows after `afterSeq` that are not acknowledged yet, as `commands_to_send` selects them. -/
def openCommands (rows : List RelayCommand) (afterSeq : Nat) : List RelayCommand :=
  ((rows.filter fun row => afterSeq < row.deviceSeq && row.isOpen).insertionSort
    fun first second => first.deviceSeq ≤ second.deviceSeq).take 100

inductive ResultState where
  | acked | done | failed | rejected
  deriving DecidableEq, Repr

def ResultState.state : ResultState → CommandState
  | .acked => .acked
  | .done => .done
  | .failed => .failed
  | .rejected => .rejected

structure CommandResult where
  state : ResultState
  resultCode : Option String := none
  deriving DecidableEq, Repr

def CLOCK_DONE_CODES : List String :=
  ["ok", "already", "nothing_running", "not_open", "not_ready", "needs_hands", "not_clocked_out", "unknown_agent",
    "already_running", "stale", "not_editable"]

namespace RelayCommand
variable (command : RelayCommand)

def checkResult (result : CommandResult) : Except DesktopRelayError Unit :=
  if result.state.state.order ≤ command.state.order then
    .error ⟨409, "state_not_forward", s!"{command.state.name} → {result.state.state.name} does not move forward"⟩
  else if command.kind = .clock ∧ result.state = .done ∧ ∀ code ∈ CLOCK_DONE_CODES, result.resultCode ≠ some code then
    .error ⟨422, "invalid_result_code", "a finished clock command ends in one of the clock words"⟩
  else .ok ()

def record (result : CommandResult) (now : Nat) : RelayCommand :=
  if result.state = .acked then
    { command with state := .acked, resultCode := result.resultCode, ackedAt := some now }
  else
    { command with
      state := result.state.state, resultCode := result.resultCode, ackedAt := command.ackedAt.or (some now)
      finishedAt := some now }

def deliver (now : Nat) : RelayCommand := { command with state := .delivered, deliveredAt := some now }

def reject (resultCode : String) (now : Nat) : RelayCommand :=
  { command with state := .rejected, resultCode := some resultCode, finishedAt := some now }

end RelayCommand

/-- Where a transaction is in the one operation that it runs. -/
inductive Work where
  | idle
  /-- `enqueue_command` has found no command of its key. -/
  | ordering (order : CommandOrder)
  /-- It has taken the device's next number, and holds the device's row. -/
  | numbered (order : CommandOrder) (deviceSeq : Nat)
  | inserted (command : RelayCommand)
  /-- `commands_to_send` has read; these queued rows are still to be written back. -/
  | sending (unsent : List Nat)
  /-- `record_command_result` has locked the command. -/
  | locked (deviceSeq : Nat)
  | recorded
  /-- `reject_open_commands` runs over the open rows that its statement has found. -/
  | rejecting (found : List Nat) (resultCode : String)
  deriving DecidableEq, Repr

structure Relay where
  /-- `relay_command_seq` of the device. -/
  commandSeq : Nat := 0
  commands : RowLocks.Table RelayCommand Nat := {}
  work : Nat → Work := fun _ => .idle
  /-- The transaction that has locked the device's row. -/
  numbering : Option Nat := none

/-- One statement of a transaction, or its end. -/
inductive RelayEvent where
  | order (transaction : Nat) (order : CommandOrder)
  | takeNumber (transaction : Nat)
  | insert (transaction : Nat)
  | select (transaction afterSeq : Nat)
  | deliver (transaction deviceSeq now : Nat)
  | lock (transaction deviceSeq : Nat)
  | record (transaction : Nat) (result : CommandResult) (now : Nat)
  | findOpen (transaction : Nat) (resultCode : String)
  | reject (transaction deviceSeq now : Nat)
  | commit (transaction : Nat)
  | rollback (transaction : Nat)
  deriving DecidableEq, Repr

namespace Relay
variable (relay : Relay) (transaction : Nat)

def turn (work : Work) : Relay := { relay with work := Function.update relay.work transaction work }

def command (deviceSeq : Nat) : Option RelayCommand := Keyed.find RelayCommand.deviceSeq relay.commands.rows deviceSeq

def hasKey (idempotencyKey : String) : Bool := relay.commands.rows.any (·.idempotencyKey == idempotencyKey)

/-- The row can be locked now: the transaction need not wait for another one. -/
def available (deviceSeq : Nat) : Bool := relay.commands.free RelayCommand.deviceSeq transaction deviceSeq

def write (version : RelayCommand) : Relay :=
  { relay with commands := relay.commands.hold RelayCommand.deviceSeq transaction version }

def rollback : Relay :=
  { relay with
    commands := relay.commands.rollback transaction
    work := Function.update relay.work transaction .idle
    numbering := if relay.numbering = some transaction then none else relay.numbering }

def commit : Relay :=
  match relay.work transaction with
  | .inserted command =>
    { relay.rollback transaction with
      commandSeq := command.deviceSeq, commands := (relay.commands.rollback transaction).insert command }
  | .sending [] | .recorded | .rejecting [] _ =>
    { relay.rollback transaction with commands := relay.commands.commit RelayCommand.deviceSeq transaction }
  | _ => relay

/-- A statement that has to wait, or that the transaction does not run now, changes nothing. -/
def step : RelayEvent → Relay
  | .order transaction order =>
    match relay.work transaction, order.check with
    | .idle, .ok () => if relay.hasKey order.idempotencyKey then relay else relay.turn transaction (.ordering order)
    | _, _ => relay
  | .takeNumber transaction =>
    match relay.work transaction, relay.numbering with
    | .ordering order, none =>
      { relay.turn transaction (.numbered order (relay.commandSeq + 1)) with numbering := some transaction }
    | _, _ => relay
  | .insert transaction =>
    match relay.work transaction with
    | .numbered order deviceSeq =>
      -- the unique key of the device's commands
      if relay.hasKey order.idempotencyKey then relay.rollback transaction
      else relay.turn transaction (.inserted (order.command deviceSeq))
    | _ => relay
  | .select transaction afterSeq =>
    match relay.work transaction with
    | .idle => relay.turn transaction
        (.sending (((openCommands relay.commands.rows afterSeq).filter (·.state = .queued)).map (·.deviceSeq)))
    | _ => relay
  | .deliver transaction deviceSeq now =>
    match relay.work transaction, relay.command deviceSeq with
    | .sending unsent, some row =>
      -- the flush updates by the primary key alone
      if deviceSeq ∈ unsent ∧ relay.available transaction deviceSeq then
        (relay.write transaction (row.deliver now)).turn transaction (.sending (unsent.erase deviceSeq))
      else relay
    | _, _ => relay
  | .lock transaction deviceSeq =>
    match relay.work transaction, relay.command deviceSeq with
    | .idle, some row =>
      if relay.available transaction deviceSeq then (relay.write transaction row).turn transaction (.locked deviceSeq)
      else relay
    | _, _ => relay
  | .record transaction result now =>
    match relay.work transaction with
    | .locked deviceSeq =>
      match relay.command deviceSeq with
      | some row =>
        match row.checkResult result with
        | .ok () => (relay.write transaction (row.record result now)).turn transaction .recorded
        | .error _ => relay.rollback transaction
      | none => relay.rollback transaction
    | _ => relay
  | .findOpen transaction resultCode =>
    match relay.work transaction with
    | .idle => relay.turn transaction
        (.rejecting ((relay.commands.rows.filter (·.isOpen)).map (·.deviceSeq)) resultCode)
    | _ => relay
  | .reject transaction deviceSeq now =>
    match relay.work transaction, relay.command deviceSeq with
    | .rejecting found resultCode, some row =>
      if deviceSeq ∈ found ∧ relay.available transaction deviceSeq then
        -- the row as it is now has to meet the condition too
        (if row.isOpen then relay.write transaction (row.reject resultCode now) else relay).turn transaction
          (.rejecting (found.erase deviceSeq) resultCode)
      else relay
    | _, _ => relay
  | .commit transaction => relay.commit transaction
  | .rollback transaction => relay.rollback transaction

end Relay

end Sprintable.Desktop
