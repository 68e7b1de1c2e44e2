import Sprintable.Desktop.Permissions
import Sprintable.Logic.History

/-! What a permission request goes through. One row serves both rounds of a network question, so
every operation is checked for the round that it may touch. -/

namespace Sprintable.Desktop
open Runs

/-- The event tells how the command ended: its result, or that it never reached the device. -/
def Ends (desk : Desk) (event : DeskEvent) (command : DesktopCommand) : Prop :=
  (∃ position state code, event = .result position state code ∧ desk.commands[position]? = some command) ∨
    ∃ code, event = .rejectOpen code ∧ command ∈ desk.commands ∧ Desk.isOpen command = true

/-- What an event does to a request. A rejection is told of by a command of the request's round. -/
inductive Moves (desk : Desk) (event : DeskEvent) (row : AgentPermissionRequest) : AgentPermissionRequest → Prop where
  | stays : Moves desk event row row
  | answered {position now : Nat} {answer : PhoneAnswer} (same : event = .answer position answer now)
      (held : desk.requests[position]? = some row) (pending : row.state = .pending)
      (recipient : row.recipientMemberId = some answer.memberId)
      (paired : desk.pairedPhone answer.memberId answer.phoneKeyId = true) :
      Moves desk event row
        { row with
          state := .answered, answeredBy := some answer.memberId, answeredPhoneKeyId := some answer.phoneKeyId
          decision := some answer.decision, answeredAt := some now }
  | withdrawn (code : String) (waits : row.state = .pending ∨ row.state = .answered) (told : ∃ requestId reason, event = .withdraw requestId reason) :
      Moves desk event row { row with state := .withdrawn, resultCode := some code }
  | confirmed {host : String} {expiresAt : Nat} (stage : row.stage = .ask) (answered : row.state = .answered)
      (told : ∃ requestId given now, event = .confirmHost requestId given expiresAt now) :
      Moves desk event row
        { row with
          stage := .confirm, host := some host, state := .pending, expiresAt, decision := none, answeredBy := none
          answeredPhoneKeyId := none, answeredAt := none, resultCode := none }
  | rejected {command : DesktopCommand} (code : String) (answered : row.state = .answered) (ends : Ends desk event command)
      (own : command.requestId = row.requestId) (round : command.stage = row.stage) :
      Moves desk event row { row with state := .rejected, resultCode := some code }

/-- What an event does to the tables: it moves the requests, puts new ones at their end in the first
round, adds a command only for a round that has none, and a host only of an allowed second round. -/
structure Follows (desk : Desk) (event : DeskEvent) (after : Desk) : Prop where
  rows : ∀ (position : Nat) (row : AgentPermissionRequest), desk.requests[position]? = some row →
    ∃ next, after.requests[position]? = some next ∧ Moves desk event row next
  fresh : ∀ (position : Nat) (row : AgentPermissionRequest), after.requests[position]? = some row →
    desk.requests.length ≤ position → row.stage = .ask ∧ row.host = none
  keys : (after.commands.map DesktopCommand.idempotencyKey) = desk.commands.map DesktopCommand.idempotencyKey ∨
    ∃ key, key ∉ desk.commands.map DesktopCommand.idempotencyKey ∧
      after.commands.map DesktopCommand.idempotencyKey = desk.commands.map DesktopCommand.idempotencyKey ++ [key]
  hosts : ∀ entry ∈ after.allowedHosts, entry ∈ desk.allowedHosts ∨
    (∃ requestId host, event = .hostAdded requestId host) ∧ ∃ (position : Nat) (row : AgentPermissionRequest),
      desk.requests[position]? = some row ∧ row.requestId = entry.requestId ∧ row.agentMemberId = entry.memberId ∧
        row.stage = .confirm ∧ row.state = .answered ∧ row.decision = some .allow ∧ row.host = some entry.host

section Rows
variable {desk after : Desk} {event : DeskEvent} {position : Nat} {row : AgentPermissionRequest}

theorem no_fresh (length : after.requests.length = desk.requests.length) (held : after.requests[position]? = some row)
    (beyond : desk.requests.length ≤ position) : row.stage = .ask ∧ row.host = none := by
  have inside := (List.getElem?_eq_some_iff.mp held).1
  omega

theorem follows_same (same : after.requests = desk.requests)
    (keys : after.commands.map DesktopCommand.idempotencyKey = desk.commands.map DesktopCommand.idempotencyKey)
    (hosts : after.allowedHosts = desk.allowedHosts) : Follows desk event after := by
  refine ⟨?_, ?_, .inl keys, ?_⟩
  · intro position row held
    exact ⟨row, by rw [same]; exact held, .stays⟩
  · intro position row held beyond
    exact no_fresh (congrArg List.length same) held beyond
  · intro entry inside
    exact .inl (hosts ▸ inside)

theorem put_rows {next : AgentPermissionRequest} (held : desk.requests[position]? = some row)
    (same : after.requests = desk.requests.set position next) (moves : Moves desk event row next) :
    ∀ (other : Nat) (found : AgentPermissionRequest), desk.requests[other]? = some found →
      ∃ next, after.requests[other]? = some next ∧ Moves desk event found next := by
  intro other found there
  by_cases here : other = position
  · rw [here] at there ⊢
    cases held.symm.trans there
    refine ⟨next, ?_, moves⟩
    rw [same, List.getElem?_set_self (List.getElem?_eq_some_iff.mp held).1]
  · refine ⟨found, ?_, .stays⟩
    rw [same, List.getElem?_set_ne (Ne.symm here)]
    exact there

theorem follows_put {next : AgentPermissionRequest} (held : desk.requests[position]? = some row)
    (moves : Moves desk event row next) : Follows desk event (desk.put position next) := by
  refine ⟨put_rows held rfl moves, ?_, .inl rfl, fun _ inside => .inl inside⟩
  intro other row held beyond
  exact no_fresh List.length_set held beyond

theorem onRow_ok {requestId : Nat} {body : Nat → AgentPermissionRequest → Except DesktopRelayError Desk}
    (executed : desk.onRow requestId body = .ok after) :
    ∃ position row, desk.requests[position]? = some row ∧ row.requestId = requestId ∧ body position row = .ok after := by
  unfold Desk.onRow at executed
  split at executed
  next position found =>
    split at executed
    next row held =>
      obtain ⟨inside, named, _⟩ := List.findIdx?_eq_some_iff_getElem.mp found
      rw [List.getElem?_eq_getElem inside] at held
      cases held
      exact ⟨position, _, List.getElem?_eq_getElem inside, by simpa using named, executed⟩
    next => cases executed
  next => cases executed

theorem withdraw_follows {requestId : Nat} {reason : WithdrawReason} (executed : desk.withdrawRequest requestId reason = .ok after) :
    Follows desk (.withdraw requestId reason) after := by
  obtain ⟨position, row, held, _, body⟩ := onRow_ok executed
  split at body
  · split at body
    · cases body
    next open_ =>
      cases body
      simp only [not_or, ne_eq, not_not] at open_
      exact follows_put held (.withdrawn _ (.inr open_.2.2.2.1) ⟨_, _, rfl⟩)
  · split at body
    next pending =>
      cases body
      exact follows_put held (.withdrawn _ (.inl pending) ⟨_, _, rfl⟩)
    next =>
      cases body
      exact follows_same rfl rfl rfl

theorem confirm_follows {requestId expiresAt now : Nat} {host : String}
    (executed : desk.confirmHost requestId host expiresAt now = .ok after) :
    Follows desk (.confirmHost requestId host expiresAt now) after := by
  obtain ⟨position, row, held, _, body⟩ := onRow_ok executed
  split at body
  · cases body
  split at body
  · cases body
  split at body
  · split at body
    · cases body
    · cases body
      exact follows_same rfl rfl rfl
  next first =>
    split at body
    · cases body
    next allowed =>
      split at body
      · cases body
      · cases body
        simp only [not_or, ne_eq, not_not] at allowed
        have ask : row.stage = .ask := by
          cases stage : row.stage with
          | ask => rfl
          | confirm => exact absurd stage first
        exact follows_put held (.confirmed ask allowed.1 ⟨_, _, _, rfl⟩)

theorem answer_ok {answer : PhoneAnswer} {now : Nat} (executed : desk.answerRequest position answer now = .ok after) :
    ∃ row, desk.requests[position]? = some row ∧ row.state = .pending ∧ row.recipientMemberId = some answer.memberId ∧
      desk.pairedPhone answer.memberId answer.phoneKeyId = true ∧
      after = (desk.enqueueCommand row answer).put position
        { row with
          state := .answered, answeredBy := some answer.memberId, answeredPhoneKeyId := some answer.phoneKeyId
          decision := some answer.decision, answeredAt := some now } := by
  unfold Desk.answerRequest at executed
  split at executed
  · cases executed
  next row found =>
    obtain ⟨held, meets⟩ := Option.filter_eq_some_iff.mp found
    simp only [Bool.and_eq_true, beq_iff_eq] at meets
    split at executed
    · cases executed
    next unanswered =>
      split at executed
      · cases executed
      next open_ =>
        split at executed
        · cases executed
        split at executed
        · cases executed
        next unexpired =>
          split at executed
          · cases executed
          next paired =>
            split at executed
            · cases executed
            split at executed
            · cases executed
            · cases executed
              simp only [not_or] at unanswered unexpired
              refine ⟨row, held, ?_, meets.1, ?_, rfl⟩
              · cases state : row.state with
                | pending => rfl
                | answered => exact absurd state unanswered.1
                | withdrawn => exact absurd state open_
                | expired => exact absurd state unexpired.1
                | rejected => exact absurd state unanswered.2
              · exact (not_not.mp paired).1

theorem enqueue_requests (answer : PhoneAnswer) : (desk.enqueueCommand row answer).requests = desk.requests := by
  unfold Desk.enqueueCommand
  split
  · rfl
  · rfl

/-- The verdict of the device on an answer rejects the answered request of that round, or nothing. -/
theorem onAnswerResult_get {requestId : Nat} {state : CommandState} {code : Option String} {stage : Stage}
    (held : desk.requests[position]? = some row) :
    (desk.onAnswerResult requestId state code stage).requests[position]? = some row ∨
    row.requestId = requestId ∧ row.state = .answered ∧ row.stage = stage ∧ ∃ told,
      (desk.onAnswerResult requestId state code stage).requests[position]? =
        some { row with state := .rejected, resultCode := some told } := by
  unfold Desk.onAnswerResult
  split
  · rw [List.getElem?_map, held, Option.map_some]
    by_cases meets : row.requestId = requestId ∧ row.state = .answered ∧ row.stage = stage
    · rw [if_pos meets]
      exact .inr ⟨meets.1, meets.2.1, meets.2.2, _, rfl⟩
    · rw [if_neg meets]
      exact .inl rfl
  · exact .inl held

theorem onAnswerResult_rest (requestId : Nat) (state : CommandState) (code : Option String) (stage : Stage) :
    (desk.onAnswerResult requestId state code stage).requests.length = desk.requests.length ∧
      (desk.onAnswerResult requestId state code stage).commands = desk.commands ∧
      (desk.onAnswerResult requestId state code stage).allowedHosts = desk.allowedHosts := by
  unfold Desk.onAnswerResult
  split
  · exact ⟨List.length_map _, rfl, rfl⟩
  · exact ⟨rfl, rfl, rfl⟩

theorem set_keys {commands : List DesktopCommand} {place : Nat} {command next : DesktopCommand} (sent : commands[place]? = some command)
    (key : next.idempotencyKey = command.idempotencyKey) :
    (commands.set place next).map DesktopCommand.idempotencyKey = commands.map DesktopCommand.idempotencyKey := by
  obtain ⟨inside, rfl⟩ := List.getElem?_eq_some_iff.mp sent
  rw [List.map_set, key]
  apply List.ext_getElem?
  intro other
  by_cases here : other = place
  · rw [here, List.getElem?_set_self (by simpa using inside), List.getElem?_map, List.getElem?_eq_getElem inside, Option.map_some]
  · rw [List.getElem?_set_ne (Ne.symm here)]

theorem result_follows {state : CommandState} {code : Option String}
    (executed : desk.recordCommandResult position state code = .ok after) : Follows desk (.result position state code) after := by
  unfold Desk.recordCommandResult at executed
  split at executed
  · cases executed
  next command sent =>
    split at executed
    · cases executed
    · cases executed
      obtain ⟨length, commands, hosts⟩ := @onAnswerResult_rest
        { desk with commands := desk.commands.set position { command with state, resultCode := code } }
        command.requestId state code command.stage
      refine ⟨?_, ?_, .inl ?_, ?_⟩
      · intro place row held
        rcases @onAnswerResult_get { desk with commands := desk.commands.set position { command with state, resultCode := code } }
          place row command.requestId state code command.stage held with kept | ⟨own, answered, round, told, rejected⟩
        · exact ⟨row, kept, .stays⟩
        · exact ⟨_, rejected, .rejected told answered (.inl ⟨_, _, _, rfl, sent⟩) own.symm round.symm⟩
      · intro place row held beyond
        exact no_fresh length held beyond
      · rw [commands]
        exact set_keys sent rfl
      · intro entry inside
        rw [hosts] at inside
        exact .inl inside

theorem rejections_get (commands : List DesktopCommand) (code : String) (held : desk.requests[position]? = some row) :
    let rejected := commands.foldl (fun desk command => desk.onAnswerResult command.requestId .rejected (some code) command.stage) desk
    rejected.requests[position]? = some row ∨
      row.state = .answered ∧ (∃ command ∈ commands, command.requestId = row.requestId ∧ command.stage = row.stage) ∧
        ∃ told, rejected.requests[position]? = some { row with state := .rejected, resultCode := some told } := by
  induction commands generalizing desk row with
  | nil => exact .inl held
  | cons command rest ih =>
    rw [List.foldl_cons]
    rcases @onAnswerResult_get desk position row command.requestId .rejected (some code) command.stage held with
      kept | ⟨own, answered, round, told, rejected⟩
    · rcases ih kept with still | ⟨answered, ⟨other, inside, own, round⟩, told, rejected⟩
      · exact .inl still
      · exact .inr ⟨answered, ⟨other, List.mem_cons_of_mem _ inside, own, round⟩, told, rejected⟩
    · rcases ih rejected with still | ⟨again, _⟩
      · exact .inr ⟨answered, ⟨command, List.mem_cons_self, own.symm, round.symm⟩, told, still⟩
      · cases again

theorem rejections_rest (commands : List DesktopCommand) (code : String) :
    let rejected := commands.foldl (fun desk command => desk.onAnswerResult command.requestId .rejected (some code) command.stage) desk
    rejected.requests.length = desk.requests.length ∧ rejected.commands = desk.commands ∧
      rejected.allowedHosts = desk.allowedHosts := by
  induction commands generalizing desk with
  | nil => exact ⟨rfl, rfl, rfl⟩
  | cons command rest ih =>
    rw [List.foldl_cons]
    obtain ⟨length, kept, hosts⟩ := @onAnswerResult_rest desk command.requestId .rejected (some code) command.stage
    obtain ⟨length', kept', hosts'⟩ := @ih (desk.onAnswerResult command.requestId .rejected (some code) command.stage)
    exact ⟨length'.trans length, kept'.trans kept, hosts'.trans hosts⟩

theorem rejectOpen_follows (code : String) : Follows desk (.rejectOpen code) (desk.rejectOpenCommands code) := by
  unfold Desk.rejectOpenCommands
  obtain ⟨length, commands, hosts⟩ := @rejections_rest
    { desk with
      commands := desk.commands.map fun command =>
        if Desk.isOpen command then { command with state := .rejected, resultCode := some code } else command }
    (desk.commands.filter Desk.isOpen) code
  refine ⟨?_, ?_, .inl ?_, ?_⟩
  · intro place row held
    rcases @rejections_get
      { desk with
        commands := desk.commands.map fun command =>
          if Desk.isOpen command then { command with state := .rejected, resultCode := some code } else command }
      place row (desk.commands.filter Desk.isOpen) code held with
      kept | ⟨answered, ⟨command, inside, own, round⟩, told, rejected⟩
    · exact ⟨row, kept, .stays⟩
    · obtain ⟨sent, waits⟩ := List.mem_filter.mp inside
      exact ⟨_, rejected, .rejected told answered (.inr ⟨code, rfl, sent, waits⟩) own round⟩
  · intro place row held beyond
    exact no_fresh length held beyond
  · rw [commands, List.map_map]
    apply List.map_congr_left
    intro command _
    dsimp only [Function.comp_apply]
    split
    · rfl
    · rfl
  · intro entry inside
    rw [hosts] at inside
    exact .inl inside

theorem report_follows {body : PermissionRequestReport} {now : Nat} (executed : desk.reportRequest body now = .ok after) :
    Follows desk (.report body now) after := by
  unfold Desk.reportRequest at executed
  split at executed
  · cases executed
  split at executed
  · cases executed
  split at executed
  · cases executed
    exact follows_same rfl rfl rfl
  split at executed
  · cases executed
  split at executed
  · cases executed
  · cases executed
    refine ⟨?_, ?_, .inl rfl, fun _ inside => .inl inside⟩
    · intro place row held
      refine ⟨row, ?_, .stays⟩
      rw [List.getElem?_append_left (List.getElem?_eq_some_iff.mp held).1]
      exact held
    · intro place row held beyond
      rw [List.getElem?_append_right beyond] at held
      cases List.mem_singleton.mp (List.mem_of_getElem? held)
      exact ⟨rfl, rfl⟩

theorem hostAdded_ok {requestId : Nat} {host : String} (executed : desk.hostAdded requestId host = .ok after) :
    after = desk ∨ ∃ (position : Nat) (row : AgentPermissionRequest) (own : String), desk.requests[position]? = some row ∧ row.requestId = requestId ∧
      row.stage = .confirm ∧ row.state = .answered ∧ row.decision = some .allow ∧ row.host = some own ∧
      after = { desk with
        allowedHosts := desk.allowedHosts ++
          [{ memberId := row.agentMemberId, host := own, addedBy := row.answeredBy, requestId := row.requestId }] } := by
  obtain ⟨position, row, held, named, body⟩ := onRow_ok executed
  split at body
  · cases body
  next own host =>
    split at body
    · cases body
    next confirmed =>
      split at body
      · cases body
      split at body
      · cases body
        exact .inl rfl
      · cases body
        simp only [not_or, ne_eq, not_not] at confirmed
        exact .inr ⟨position, row, own, held, named, confirmed.1, confirmed.2.1, confirmed.2.2, host, rfl⟩

theorem enqueue_keys (answer : PhoneAnswer) :
    (desk.enqueueCommand row answer).commands = desk.commands ∨
    (row.requestId, row.stage) ∉ desk.commands.map DesktopCommand.idempotencyKey ∧
      (desk.enqueueCommand row answer).commands.map DesktopCommand.idempotencyKey =
        desk.commands.map DesktopCommand.idempotencyKey ++ [(row.requestId, row.stage)] := by
  unfold Desk.enqueueCommand
  split
  · exact .inl rfl
  next first =>
    refine .inr ⟨?_, ?_⟩
    · intro known
      obtain ⟨command, inside, key⟩ := List.mem_map.mp known
      exact first (List.any_eq_true.mpr ⟨command, inside, decide_eq_true key⟩)
    · rw [List.map_append]
      rfl

theorem enqueue_hosts (answer : PhoneAnswer) : (desk.enqueueCommand row answer).allowedHosts = desk.allowedHosts := by
  unfold Desk.enqueueCommand
  split
  · rfl
  · rfl

theorem answer_follows {answer : PhoneAnswer} {now : Nat} (executed : desk.answerRequest position answer now = .ok after) :
    Follows desk (.answer position answer now) after := by
  obtain ⟨row, held, pending, recipient, paired, rfl⟩ := answer_ok executed
  refine ⟨?_, ?_, ?_, ?_⟩
  · apply put_rows held _ (.answered rfl held pending recipient paired)
    unfold Desk.put
    rw [enqueue_requests]
  · intro other row held beyond
    apply no_fresh _ held beyond
    unfold Desk.put
    rw [List.length_set, enqueue_requests]
  · rcases @enqueue_keys desk row answer with same | ⟨fresh, appended⟩
    · exact .inl (congrArg (List.map DesktopCommand.idempotencyKey) same)
    · exact .inr ⟨_, fresh, appended⟩
  · intro entry inside
    have earlier : entry ∈ (desk.enqueueCommand row answer).allowedHosts := inside
    rw [enqueue_hosts] at earlier
    exact .inl earlier

theorem hostAdded_follows {requestId : Nat} {host : String} (executed : desk.hostAdded requestId host = .ok after) :
    Follows desk (.hostAdded requestId host) after := by
  rcases hostAdded_ok executed with rfl | ⟨position, row, own, held, named, confirm, answered, allow, host, rfl⟩
  · exact follows_same rfl rfl rfl
  · refine ⟨fun _ row held => ⟨row, held, .stays⟩, ?_, .inl rfl, ?_⟩
    · intro other row held beyond
      exact no_fresh rfl held beyond
    · intro entry inside
      rcases List.mem_append.mp inside with earlier | added
      · exact .inl earlier
      · cases List.mem_singleton.mp added
        exact .inr ⟨⟨_, _, rfl⟩, position, row, held, rfl, rfl, confirm, answered, allow, host⟩

theorem send_follows (places : List Nat) : Follows desk (.send places) (desk.commandsToSend places) := by
  refine follows_same rfl ?_ rfl
  unfold Desk.commandsToSend
  apply List.ext_getElem?
  intro other
  rw [List.getElem?_map, List.getElem?_map, List.getElem?_mapIdx, Option.map_map]
  congr 1
  funext command
  dsimp only [Function.comp_apply]
  split
  · rfl
  · rfl

theorem attempt_follows (executed : desk.attempt event = .ok after) : Follows desk event after := by
  cases event with
  | pairing event =>
    obtain ⟨phones, _, rfl⟩ := map_ok executed
    exact follows_same rfl rfl rfl
  | report body now => exact report_follows executed
  | answer position answer now => exact answer_follows executed
  | withdraw requestId reason => exact withdraw_follows executed
  | confirmHost requestId host expiresAt now => exact confirm_follows executed
  | hostAdded requestId host => exact hostAdded_follows executed
  | result position state code => exact result_follows executed
  | rejectOpen code =>
    cases executed
    exact rejectOpen_follows code
  | send places =>
    cases executed
    exact send_follows places

theorem step_follows (desk : Desk) (event : DeskEvent) : Follows desk event (desk.step event) := by
  unfold Desk.step settle
  split
  next after executed => exact attempt_follows executed
  next => exact follows_same rfl rfl rfl

end Rows

/-! What is claimed of the runs. -/

/-- The event is an answer that is taken, and it allows this host at the second round: the recipient
of the request gives it with a phone that is paired with the device. -/
def Allows (requestId agentMemberId : Nat) (host : String) (desk : Desk) (event : DeskEvent) : Prop :=
  ∃ (position : Nat) (answer : PhoneAnswer) (now : Nat) (row : AgentPermissionRequest), event = .answer position answer now ∧
    (∃ after, desk.attempt event = .ok after) ∧ desk.requests[position]? = some row ∧ row.requestId = requestId ∧
    row.agentMemberId = agentMemberId ∧ row.stage = .confirm ∧ row.host = some host ∧
    row.recipientMemberId = some answer.memberId ∧ answer.decision = .allow ∧
    desk.pairedPhone answer.memberId answer.phoneKeyId = true

/-- What one event may do to a request: the stage goes from the first round to the second only, and
the host stays otherwise; a withdrawn or rejected request stays as it is; and a verdict on a command
touches only the round of that command. -/
structure KeepsRound (desk : Desk) (event : DeskEvent) (row next : AgentPermissionRequest) : Prop where
  request : next.requestId = row.requestId ∧ next.agentMemberId = row.agentMemberId
  stage : next.stage = row.stage ∧ next.host = row.host ∨ row.stage = .ask ∧ next.stage = .confirm
  closed : row.state = .withdrawn ∨ row.state = .rejected → next = row
  verdict : ((∃ position state code, event = .result position state code) ∨ ∃ code, event = .rejectOpen code) →
    next = row ∨ ∃ command, Ends desk event command ∧ command.requestId = row.requestId ∧ command.stage = row.stage

structure KeepsRounds (desk : Desk) (event : DeskEvent) : Prop where
  rows : ∀ (position : Nat) (row : AgentPermissionRequest), desk.requests[position]? = some row →
    ∃ next, (desk.step event).requests[position]? = some next ∧ KeepsRound desk event row next
  hosts : ∀ entry ∈ (desk.step event).allowedHosts, entry ∉ desk.allowedHosts → ∃ requestId host, event = .hostAdded requestId host

theorem Moves.keepsRound {desk : Desk} {event : DeskEvent} {row next : AgentPermissionRequest} (moves : Moves desk event row next) :
    KeepsRound desk event row next := by
  cases moves with
  | stays => exact ⟨⟨rfl, rfl⟩, .inl ⟨rfl, rfl⟩, fun _ => rfl, fun _ => .inl rfl⟩
  | answered same held pending recipient paired =>
    refine ⟨⟨rfl, rfl⟩, .inl ⟨rfl, rfl⟩, ?_, ?_⟩
    · simp [pending]
    · rintro (⟨_, _, _, other⟩ | ⟨_, other⟩)
      · cases same.symm.trans other
      · cases same.symm.trans other
  | withdrawn code waits told =>
    obtain ⟨_, _, told⟩ := told
    refine ⟨⟨rfl, rfl⟩, .inl ⟨rfl, rfl⟩, ?_, ?_⟩
    · rcases waits with pending | answered
      · simp [pending]
      · simp [answered]
    · rintro (⟨_, _, _, other⟩ | ⟨_, other⟩)
      · cases told.symm.trans other
      · cases told.symm.trans other
  | confirmed stage answered told =>
    obtain ⟨_, _, _, told⟩ := told
    refine ⟨⟨rfl, rfl⟩, .inr ⟨stage, rfl⟩, ?_, ?_⟩
    · simp [answered]
    · rintro (⟨_, _, _, other⟩ | ⟨_, other⟩)
      · cases told.symm.trans other
      · cases told.symm.trans other
  | rejected code answered ends own round =>
    refine ⟨⟨rfl, rfl⟩, .inl ⟨rfl, rfl⟩, ?_, fun _ => .inr ⟨_, ends, own, round⟩⟩
    simp [answered]

theorem step_keepsRounds (desk : Desk) (event : DeskEvent) : KeepsRounds desk event := by
  have follows := step_follows desk event
  constructor
  · intro position row held
    obtain ⟨next, written, moves⟩ := follows.rows position row held
    exact ⟨next, written, moves.keepsRound⟩
  · intro entry inside fresh
    rcases follows.hosts entry inside with earlier | ⟨told, _⟩
    · exact absurd earlier fresh
    · exact told

/-- What a run leaves on record: an allowed second round was answered so, and so was the one of each
allowed host; and no round has a second command. -/
structure Recorded (setup : DesktopSetup) (events : List DeskEvent) (desk : Desk) : Prop where
  rounds : ∀ (position : Nat) (row : AgentPermissionRequest), desk.requests[position]? = some row → row.stage = .confirm →
    row.state = .answered → row.decision = some .allow → ∀ host, row.host = some host →
      Happened Desk.step { setup } events (Allows row.requestId row.agentMemberId host)
  hosts : ∀ entry ∈ desk.allowedHosts, Happened Desk.step { setup } events (Allows entry.requestId entry.memberId entry.host)
  once : (desk.commands.map DesktopCommand.idempotencyKey).Nodup

section Records
variable {setup : DesktopSetup} {events : List DeskEvent} {event : DeskEvent}

theorem Moves.allowed {after : Desk} {row next : AgentPermissionRequest} {host : String}
    (executed : (final Desk.step { setup } events).attempt event = .ok after)
    (moves : Moves (final Desk.step { setup } events) event row next) (confirm : next.stage = .confirm)
    (answered : next.state = .answered) (allow : next.decision = some .allow) (named : next.host = some host)
    (before : row.stage = .confirm → row.state = .answered → row.decision = some .allow → row.host = some host →
      Happened Desk.step { setup } events (Allows row.requestId row.agentMemberId host)) :
    Happened Desk.step { setup } (events ++ [event]) (Allows next.requestId next.agentMemberId host) := by
  cases moves with
  | stays => exact (before confirm answered allow named).later event
  | answered same held pending recipient paired =>
    exact .last ⟨_, _, _, row, same, ⟨after, executed⟩, held, rfl, rfl, confirm, named, recipient, Option.some.inj allow, paired⟩
  | withdrawn code waits told => cases answered
  | confirmed stage answered told => cases answered
  | rejected code answered ends own round => cases answered

theorem Recorded.kept {after : Desk} (known : Recorded setup events (final Desk.step { setup } events))
    (executed : (final Desk.step { setup } events).attempt event = .ok after) : Recorded setup (events ++ [event]) after := by
  have follows := attempt_follows executed
  refine ⟨?_, ?_, ?_⟩
  · intro position next written confirm answered allow host named
    by_cases inside : position < (final Desk.step { setup } events).requests.length
    · obtain ⟨found, there, moves⟩ := follows.rows position _ (List.getElem?_eq_getElem inside)
      cases there.symm.trans written
      exact moves.allowed executed confirm answered allow named fun confirm answered allow named =>
        known.rounds position _ (List.getElem?_eq_getElem inside) confirm answered allow host named
    · obtain ⟨ask, _⟩ := follows.fresh position next written (Nat.le_of_not_lt inside)
      cases ask.symm.trans confirm
  · intro entry inside
    rcases follows.hosts entry inside with earlier | ⟨_, position, row, held, own, agent, confirm, answered, allow, host⟩
    · exact (known.hosts entry earlier).later event
    · rw [← own, ← agent]
      exact (known.rounds position row held confirm answered allow entry.host host).later event
  · rcases follows.keys with same | ⟨key, fresh, appended⟩
    · rw [same]
      exact known.once
    · rw [appended]
      exact List.nodup_append.mpr ⟨known.once, List.nodup_singleton key, fun other member added same =>
        fun both => fresh (List.mem_singleton.mp same ▸ both ▸ member)⟩

theorem recorded_run (setup : DesktopSetup) (events : List DeskEvent) :
    Recorded setup events (final Desk.step { setup } events) := by
  apply recorded
  · refine ⟨?_, ?_, List.nodup_nil⟩
    · intro position row held
      cases held
    · intro entry inside
      cases inside
  · intro events event known
    unfold Desk.step settle
    split
    next after executed => exact known.kept executed
    next =>
      exact ⟨fun position row held confirm answered allow host named =>
          (known.rounds position row held confirm answered allow host named).later event,
        fun entry inside => (known.hosts entry inside).later event, known.once⟩

end Records

/-- In every run on a device: a host is on the list of an agent only by an answer that allowed exactly
that host at the second round, no round has two commands, and every event keeps the rounds. -/
theorem permission_rounds (setup : DesktopSetup) (events : List DeskEvent) :
    (∀ entry ∈ (final Desk.step { setup } events).allowedHosts,
      Happened Desk.step { setup } events (Allows entry.requestId entry.memberId entry.host)) ∧
    ((final Desk.step { setup } events).commands.map DesktopCommand.idempotencyKey).Nodup ∧
    Throughout Desk.step KeepsRounds { setup } events :=
  ⟨(recorded_run setup events).hosts, (recorded_run setup events).once, Throughout.trivial step_keepsRounds { setup } events⟩

end Sprintable.Desktop
