import Sprintable.Desktop.Pairings

/-! The permission requests of one device. A request is answered by a phone whose key is paired
with the device; the answer goes down as a command, and the device's verdict on it comes back. A
network question is asked a second time, with the host that the device has read. -/

namespace Sprintable.Desktop

def MAX_WINDOW : Nat := 3600

def SANDBOX_NET_TOOL : String := "SandboxNetwork"

inductive Runtime where
  | claude | codex
  deriving DecidableEq, Repr

inductive PermissionState where
  | pending | answered | withdrawn | expired | rejected
  deriving DecidableEq, Repr

inductive Decision where
  | allow | deny
  deriving DecidableEq, Repr

inductive Stage where
  | ask | confirm
  deriving DecidableEq, Repr

inductive WithdrawReason where
  | answeredLocally | sessionEnded | expired | hostUnread | terminalOnly
  deriving DecidableEq, Repr

def WithdrawReason.code : WithdrawReason → String
  | .answeredLocally => "answered_locally"
  | .sessionEnded => "session_ended"
  | .expired => "expired"
  | .hostUnread => "host_unread"
  | .terminalOnly => "terminal_only"

structure AgentPermissionRequest where
  requestId : Nat
  sessionKey : String
  agentMemberId : Nat
  runtime : Runtime
  tool : Option String
  expiresAt : Nat
  terminalOnly : Bool
  recipientMemberId : Option Nat
  recipientReason : String
  state : PermissionState := .pending
  answeredBy : Option Nat := none
  answeredPhoneKeyId : Option String := none
  decision : Option Decision := none
  answeredAt : Option Nat := none
  resultCode : Option String := none
  stage : Stage := .ask
  host : Option String := none
  deriving DecidableEq, Repr

inductive CommandState where
  | queued | delivered | acked | done | failed | rejected
  deriving DecidableEq, Repr

def CommandState.name : CommandState → String
  | .queued => "queued"
  | .delivered => "delivered"
  | .acked => "acked"
  | .done => "done"
  | .failed => "failed"
  | .rejected => "rejected"

/-- `COMMAND_STATE_ORDER`. -/
def CommandState.order : CommandState → Nat
  | .queued => 0
  | .delivered => 1
  | .acked => 2
  | .done | .failed | .rejected => 3

/-- An `answer_approval` command. Its idempotency key names the request and the stage. -/
structure DesktopCommand where
  requestId : Nat
  stage : Stage
  host : Option String
  sessionKey : String
  decision : Decision
  signed : String
  requestedBy : Nat
  state : CommandState := .queued
  resultCode : Option String := none
  deriving DecidableEq, Repr

def DesktopCommand.idempotencyKey (command : DesktopCommand) : Nat × Stage := (command.requestId, command.stage)

structure AgentAllowedHost where
  memberId : Nat
  host : String
  addedBy : Option Nat
  requestId : Nat
  deriving DecidableEq, Repr

/-! `clean_host`. -/

/-- Python's lower case, for the characters whose lower case is an ASCII letter or digit. -/
def lowerChar (c : Char) : Char := if c = '\u212a' then 'k' else c.toLower

def alphanumeric (c : Char) : Bool := ('a' ≤ c && c ≤ 'z') || ('0' ≤ c && c ≤ '9')

def isLabel (label : List Char) : Bool :=
  label.length ≤ 63 && label.head?.any alphanumeric && label.getLast?.any alphanumeric &&
    label.all fun c => alphanumeric c || c = '-'

def labels (host : List Char) : List (List Char) := host.splitOn '.'

def cleanHost (value : String) : Option String :=
  let host := value.toList.map lowerChar
  let parts := labels host
  if host.length ≤ 253 ∧ 2 ≤ parts.length ∧ parts.all isLabel ∧
      parts.getLast?.any (fun last => last.head?.any (fun c => 'a' ≤ c && c ≤ 'z') && last ≠ "localhost".toList) then
    some (String.ofList host)
  else none

/-- A report of the device, with what `report_request` looks up: if the agent is one of the device,
the agent of the session, and whom the request goes to. -/
structure PermissionRequestReport where
  requestId : Nat
  sessionKey : String
  agentMemberId : Nat
  runtime : Runtime
  tool : Option String
  expiresAt : Nat
  terminalOnly : Bool
  ownAgent : Bool
  sessionAgent : Option Nat
  recipient : Option Nat
  recipientReason : String
  deriving DecidableEq, Repr

/-- An answer of a person, with what `answer_request` looks up beside the tables here: if the device
is connected and not revoked, and what `enqueue_command` refuses, if it does. -/
structure PhoneAnswer where
  memberId : Nat
  orgId : Nat
  decision : Decision
  signed : String
  phoneKeyId : String
  reachable : Bool
  setupRevoked : Bool := false
  refusal : Option DesktopRelayError := none
  deriving DecidableEq, Repr

structure Desk where
  setup : DesktopSetup
  phones : Phones := {}
  requests : List AgentPermissionRequest := []
  commands : List DesktopCommand := []
  allowedHosts : List AgentAllowedHost := []
  deriving DecidableEq, Repr

namespace Desk
variable (desk : Desk)

def pairedPhone (memberId : Nat) (fingerprint : String) : Bool :=
  desk.phones.phones.any (fun phone =>
    phone.fingerprint == fingerprint && phone.memberId == memberId && phone.revokedAt.isNone) &&
  desk.phones.pairings.any fun pair => decide (pair.key = (fingerprint, desk.setup.id)) && pair.active

def place (requestId : Nat) : Option Nat := desk.requests.findIdx? (·.requestId == requestId)

def put (position : Nat) (row : AgentPermissionRequest) : Desk :=
  { desk with requests := desk.requests.set position row }

/-- `_own_row`, and what is done with it. -/
def onRow (requestId : Nat) (body : Nat → AgentPermissionRequest → Except DesktopRelayError Desk) :
    Except DesktopRelayError Desk :=
  match desk.place requestId with
  | some position =>
    match desk.requests[position]? with
    | some row => body position row
    | none => .error ⟨404, "request_not_found", "no such permission request on this device"⟩
  | none => .error ⟨404, "request_not_found", "no such permission request on this device"⟩

def reportRequest (body : PermissionRequestReport) (now : Nat) : Except DesktopRelayError Desk :=
  if body.ownAgent = false then .error ⟨422, "unknown_agent", "no such agent on this device"⟩
  else if ¬ (now < body.expiresAt ∧ body.expiresAt ≤ now + MAX_WINDOW) then
    .error ⟨422, "invalid_expiry", "expires_at must be in the next 3600 seconds"⟩
  else if (desk.place body.requestId).isSome then .ok desk
  else match body.sessionAgent with
  | none => .error ⟨422, "unknown_session", "no such session on this device"⟩
  | some agent =>
    if agent ≠ body.agentMemberId then
      .error ⟨422, "session_agent_mismatch", "the session belongs to another agent of this device"⟩
    else .ok
      { desk with
        requests := desk.requests ++
          [{ requestId := body.requestId, sessionKey := body.sessionKey, agentMemberId := body.agentMemberId
             runtime := body.runtime, tool := body.tool, expiresAt := body.expiresAt, terminalOnly := body.terminalOnly
             recipientMemberId := body.recipient, recipientReason := body.recipientReason }] }

def withdrawRequest (requestId : Nat) (reason : WithdrawReason) : Except DesktopRelayError Desk :=
  desk.onRow requestId fun position row =>
    if reason = .hostUnread then
      if row.runtime ≠ .claude ∨ row.tool ≠ some SANDBOX_NET_TOOL ∨ row.stage ≠ .ask ∨ row.state ≠ .answered ∨
          row.decision ≠ some .allow then
        .error ⟨409, "not_allowed_yet", "only a network question answered «allow…» can end with its host unread"⟩
      else .ok (desk.put position { row with state := .withdrawn, resultCode := some reason.code })
    else if row.state = .pending then
      .ok (desk.put position { row with state := .withdrawn, resultCode := some reason.code })
    else .ok desk

def confirmHost (requestId : Nat) (host : String) (expiresAt now : Nat) : Except DesktopRelayError Desk :=
  desk.onRow requestId fun position row =>
    if row.runtime ≠ .claude ∨ row.tool ≠ some SANDBOX_NET_TOOL then
      .error ⟨409, "not_a_network_request", "only a network question has a second answer"⟩
    else match cleanHost host with
    | none => .error ⟨422, "invalid_host", "a DNS name only (no IP, wildcard, port or path)"⟩
    | some host =>
      if row.stage = .confirm then
        if row.host ≠ some host then .error ⟨409, "host_mismatch", "this request already carries another host"⟩
        else .ok desk
      else if row.state ≠ .answered ∨ row.decision ≠ some .allow then
        .error ⟨409, "not_allowed_yet", "the first answer was not «allow»"⟩
      else if ¬ (now < expiresAt ∧ expiresAt ≤ now + MAX_WINDOW) then
        .error ⟨422, "invalid_expiry", "expires_at must be in the next 3600 seconds"⟩
      else .ok <| desk.put position
        { row with
          stage := .confirm, host := some host, state := .pending, expiresAt, decision := none, answeredBy := none
          answeredPhoneKeyId := none, answeredAt := none, resultCode := none }

def hostAdded (requestId : Nat) (host : String) : Except DesktopRelayError Desk :=
  desk.onRow requestId fun _ row =>
    match row.host with
    | none => .error ⟨409, "not_confirmed", "no signed «allow» on this request's host"⟩
    | some own =>
      if row.stage ≠ .confirm ∨ row.state ≠ .answered ∨ row.decision ≠ some .allow then
        .error ⟨409, "not_confirmed", "no signed «allow» on this request's host"⟩
      else if cleanHost host ≠ some own then
        .error ⟨409, "host_mismatch", "not the host this request was answered for"⟩
      else if desk.allowedHosts.any fun entry => entry.memberId == row.agentMemberId && entry.host == own then .ok desk
      else .ok
        { desk with
          allowedHosts := desk.allowedHosts ++
            [{ memberId := row.agentMemberId, host := own, addedBy := row.answeredBy, requestId := row.requestId }] }

/-- The command of an answer. The same idempotency key again gives the first one. -/
def enqueueCommand (row : AgentPermissionRequest) (answer : PhoneAnswer) : Desk :=
  if desk.commands.any fun command => decide (command.idempotencyKey = (row.requestId, row.stage)) then desk
  else
    { desk with
      commands := desk.commands ++
        [{ requestId := row.requestId, stage := row.stage, host := if row.stage = .confirm then row.host else none
           sessionKey := row.sessionKey, decision := answer.decision, signed := answer.signed
           requestedBy := answer.memberId }] }

/-- `answer_request`; the request is known by its place. -/
def answerRequest (position : Nat) (answer : PhoneAnswer) (now : Nat) : Except DesktopRelayError Desk :=
  match desk.requests[position]?.filter fun row =>
    row.recipientMemberId == some answer.memberId && desk.setup.orgId == answer.orgId with
  | none => .error ⟨404, "request_not_found", "no such permission request for you"⟩
  | some row =>
    if row.state = .answered ∨ row.state = .rejected then .error ⟨409, "already_answered", "this request was answered"⟩
    else if row.state = .withdrawn then .error ⟨410, "withdrawn", "the agent no longer waits for this answer"⟩
    else if row.terminalOnly then
      .error ⟨409, "terminal_only", "this question can only be answered in that computer's terminal"⟩
    else if row.state = .expired ∨ row.expiresAt ≤ now then .error ⟨410, "expired", "the permission window has passed"⟩
    else if ¬ (desk.pairedPhone answer.memberId answer.phoneKeyId ∧ answer.setupRevoked = false) then
      .error ⟨409, "phone_not_paired", "this phone is not paired with that computer"⟩
    else if answer.reachable = false then
      .error ⟨409, "device_unreachable", "that computer has not been heard from"⟩
    else match answer.refusal with
    | some refusal => .error refusal
    | none => .ok <| (desk.enqueueCommand row answer).put position
      { row with
        state := .answered, answeredBy := some answer.memberId, answeredPhoneKeyId := some answer.phoneKeyId
        decision := some answer.decision, answeredAt := some now }

def onAnswerResult (requestId : Nat) (state : CommandState) (resultCode : Option String) (stage : Stage) : Desk :=
  if state = .rejected ∨ state = .failed then
    { desk with
      requests := desk.requests.map fun row =>
        if row.requestId = requestId ∧ row.state = .answered ∧ row.stage = stage then
          { row with state := .rejected, resultCode := some (resultCode.getD state.name) }
        else row }
  else desk

/-- `record_command_result`; the command is known by its place. -/
def recordCommandResult (position : Nat) (state : CommandState) (resultCode : Option String) : Except DesktopRelayError Desk :=
  match desk.commands[position]? with
  | none => .error ⟨404, "command_not_found", "no such command on this device"⟩
  | some command =>
    if state.order ≤ command.state.order then
      .error ⟨409, "state_not_forward", command.state.name ++ " → " ++ state.name ++ " does not move forward"⟩
    else .ok <| { desk with commands := desk.commands.set position { command with state, resultCode } }.onAnswerResult
      command.requestId state resultCode command.stage

def isOpen (command : DesktopCommand) : Bool := command.state = .queued || command.state = .delivered

def rejectOpenCommands (resultCode : String) : Desk :=
  (desk.commands.filter isOpen).foldl (fun desk command =>
      desk.onAnswerResult command.requestId .rejected (some resultCode) command.stage)
    { desk with
      commands := desk.commands.map fun command =>
        if isOpen command then { command with state := .rejected, resultCode := some resultCode } else command }

/-- `commands_to_send`, with the places of the commands that it sends. -/
def commandsToSend (places : List Nat) : Desk :=
  { desk with
    commands := desk.commands.mapIdx fun position command =>
      if position ∈ places ∧ command.state = .queued then { command with state := .delivered } else command }

end Desk

inductive DeskEvent where
  | pairing (event : PairingEvent)
  | report (body : PermissionRequestReport) (now : Nat)
  | answer (position : Nat) (answer : PhoneAnswer) (now : Nat)
  | withdraw (requestId : Nat) (reason : WithdrawReason)
  | confirmHost (requestId : Nat) (host : String) (expiresAt now : Nat)
  | hostAdded (requestId : Nat) (host : String)
  | result (position : Nat) (state : CommandState) (resultCode : Option String)
  | rejectOpen (resultCode : String)
  | send (places : List Nat)
  deriving DecidableEq, Repr

namespace Desk

def attempt (desk : Desk) : DeskEvent → Except DesktopRelayError Desk
  | .pairing event => (fun phones => { desk with phones }) <$> desk.phones.attempt event
  | .report body now => desk.reportRequest body now
  | .answer position answer now => desk.answerRequest position answer now
  | .withdraw requestId reason => desk.withdrawRequest requestId reason
  | .confirmHost requestId host expiresAt now => desk.confirmHost requestId host expiresAt now
  | .hostAdded requestId host => desk.hostAdded requestId host
  | .result position state resultCode => desk.recordCommandResult position state resultCode
  | .rejectOpen resultCode => .ok (desk.rejectOpenCommands resultCode)
  | .send places => .ok (desk.commandsToSend places)

/-- A refused operation changes nothing. -/
def step : Desk → DeskEvent → Desk := Runs.settle attempt

end Desk

end Sprintable.Desktop
