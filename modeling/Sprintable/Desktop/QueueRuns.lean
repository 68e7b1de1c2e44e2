import Sprintable.Desktop.CommandQueue

/-! What overlapping transactions leave of a device's commands. Numbers and keys are right in every
run; the states move forward exactly as long as no stream writes back over a later state. -/

namespace Sprintable.Desktop
open Runs

/-- The transaction has not locked the device's row. -/
def Work.calm : Work → Bool
  | .numbered _ _ | .inserted _ => false
  | _ => true

/-- The version may take the place of the row, except for a `delivered` that comes too late. -/
structure Succeeds (row version : RelayCommand) : Prop where
  key : version.idempotencyKey = row.idempotencyKey
  forward : version.state ≠ .delivered → row.state.order ≤ version.state.order

namespace Relay
variable {relay after : Relay} {event : RelayEvent} {transaction deviceSeq : Nat} {row : RelayCommand}

/-- The commit publishes what the transaction has written. -/
def publishes (relay : Relay) (transaction : Nat) : Prop :=
  relay.work transaction = .sending [] ∨ relay.work transaction = .recorded ∨
    ∃ resultCode, relay.work transaction = .rejecting [] resultCode

/-- All that a statement can do. -/
inductive Moves (relay : Relay) (event : RelayEvent) : Relay → Prop where
  | same : Moves relay event relay
  | turned (transaction : Nat) (work : Work) (calm : work.calm) : Moves relay event (relay.turn transaction work)
  | numbered (transaction : Nat) (order : CommandOrder) (free : relay.numbering = none) :
      Moves relay event
        { relay.turn transaction (.numbered order (relay.commandSeq + 1)) with numbering := some transaction }
  | inserted (transaction : Nat) (order : CommandOrder) (deviceSeq : Nat)
      (was : relay.work transaction = .numbered order deviceSeq) (fresh : relay.hasKey order.idempotencyKey = false) :
      Moves relay event (relay.turn transaction (.inserted (order.command deviceSeq)))
  | wrote (transaction : Nat) (work : Work) (row version : RelayCommand) (calm : work.calm)
      (found : relay.command version.deviceSeq = some row) (succeeds : Succeeds row version) :
      Moves relay event ((relay.write transaction version).turn transaction work)
  | rolledBack (transaction : Nat) : Moves relay event (relay.rollback transaction)
  | placed (transaction : Nat) (command : RelayCommand) (was : relay.work transaction = .inserted command) :
      Moves relay event
        { relay.rollback transaction with
          commandSeq := command.deviceSeq, commands := (relay.commands.rollback transaction).insert command }
  | published (transaction : Nat) (ends : event = .commit transaction) (publishes : relay.publishes transaction) :
      Moves relay event
        { relay.rollback transaction with commands := relay.commands.commit RelayCommand.deviceSeq transaction }

theorem command_seq (found : relay.command deviceSeq = some row) : row.deviceSeq = deviceSeq := by
  unfold command at found
  exact Keyed.find_key found

theorem record_succeeds {result : CommandResult} (now : Nat) (checked : row.checkResult result = .ok ()) :
    Succeeds row (row.record result now) ∧ (row.record result now).deviceSeq = row.deviceSeq := by
  have later : row.state.order < result.state.state.order := by
    unfold RelayCommand.checkResult at checked
    split at checked
    · cases checked
    · omega
  unfold RelayCommand.record
  split
  next acked =>
    rw [acked] at later
    exact ⟨⟨rfl, fun _ => later.le⟩, rfl⟩
  next => exact ⟨⟨rfl, fun _ => later.le⟩, rfl⟩

theorem commit_moves (relay : Relay) (transaction : Nat) : Moves relay (.commit transaction) (relay.commit transaction) := by
  unfold commit
  split
  next command was => exact .placed transaction command was
  next was => exact .published transaction rfl (.inl was)
  next was => exact .published transaction rfl (.inr (.inl was))
  next resultCode was => exact .published transaction rfl (.inr (.inr ⟨resultCode, was⟩))
  next => exact .same

theorem step_moves (relay : Relay) (event : RelayEvent) : Moves relay event (relay.step event) := by
  cases event with
  | order transaction order =>
    simp only [step]
    split
    · split
      · exact .same
      · exact .turned transaction _ rfl
    · exact .same
  | takeNumber transaction =>
    simp only [step]
    split
    next order was free => exact .numbered transaction order free
    next => exact .same
  | insert transaction =>
    simp only [step]
    split
    next order deviceSeq was =>
      split
      · exact .rolledBack transaction
      next fresh => exact .inserted transaction order deviceSeq was (by simpa using fresh)
    next => exact .same
  | select transaction afterSeq =>
    simp only [step]
    split
    · exact .turned transaction _ rfl
    · exact .same
  | deliver transaction deviceSeq now =>
    simp only [step]
    split
    next unsent row was found =>
      split
      · refine .wrote transaction _ row _ rfl ?_ ⟨rfl, fun other => absurd rfl other⟩
        exact (congrArg relay.command (command_seq found)).trans found
      · exact .same
    next => exact .same
  | lock transaction deviceSeq =>
    simp only [step]
    split
    next row was found =>
      split
      · refine .wrote transaction _ row _ rfl ?_ ⟨rfl, fun _ => Nat.le_refl _⟩
        exact (congrArg relay.command (command_seq found)).trans found
      · exact .same
    next => exact .same
  | record transaction result now =>
    simp only [step]
    split
    next deviceSeq was =>
      split
      next row found =>
        split
        next checked =>
          obtain ⟨succeeds, named⟩ := record_succeeds now checked
          refine .wrote transaction _ row _ rfl ?_ succeeds
          exact (congrArg relay.command (named.trans (command_seq found))).trans found
        next => exact .rolledBack transaction
      next => exact .rolledBack transaction
    next => exact .same
  | findOpen transaction resultCode =>
    simp only [step]
    split
    · exact .turned transaction _ rfl
    · exact .same
  | reject transaction deviceSeq now =>
    simp only [step]
    split
    next foundSeqs resultCode row was found =>
      split
      · split
        next unfinished =>
          refine .wrote transaction _ row _ rfl ?_ ⟨rfl, fun _ => ?_⟩
          · exact (congrArg relay.command (command_seq found)).trans found
          · show row.state.order ≤ 3
            cases row.state <;> decide
        · exact .turned transaction _ rfl
      · exact .same
    next => exact .same
  | commit transaction => exact commit_moves relay transaction
  | rollback transaction => exact .rolledBack transaction

/-- What a transaction that has locked the device's row knows. -/
def Fits (relay : Relay) (transaction : Nat) : Work → Prop
  | .numbered _ deviceSeq => relay.numbering = some transaction ∧ deviceSeq = relay.commandSeq + 1
  | .inserted command =>
    relay.numbering = some transaction ∧ command.deviceSeq = relay.commandSeq + 1 ∧
      command.idempotencyKey ∉ relay.commands.rows.map (·.idempotencyKey)
  | _ => True

structure Sound (relay : Relay) : Prop where
  numbers : relay.commands.rows.map (·.deviceSeq) = List.range' 1 relay.commandSeq
  keys : (relay.commands.rows.map (·.idempotencyKey)).Nodup
  exclusive : relay.commands.Exclusive RelayCommand.deviceSeq
  based : relay.commands.Based RelayCommand.deviceSeq Succeeds
  works : ∀ transaction, relay.Fits transaction (relay.work transaction)

theorem fits_calm {work : Work} (calm : work.calm) : relay.Fits transaction work := by
  cases work <;> first | exact True.intro | cases calm

theorem Fits.holds {work : Work} (fits : relay.Fits transaction work) (locked : work.calm = false) :
    relay.numbering = some transaction := by
  cases work <;> first | exact fits.1 | cases locked

theorem Sound.calm (sound : relay.Sound) (free : relay.numbering ≠ some transaction) : (relay.work transaction).calm := by
  cases calm : (relay.work transaction).calm with
  | true => rfl
  | false => exact absurd ((sound.works transaction).holds calm) free

theorem Sound.unique (sound : relay.Sound) : (relay.commands.rows.map (·.deviceSeq)).Nodup := by
  rw [sound.numbers]
  exact List.nodup_range'

theorem Fits.carry {work : Work} (fits : relay.Fits transaction work) (numbering : after.numbering = relay.numbering)
    (commandSeq : after.commandSeq = relay.commandSeq)
    (keys : after.commands.rows.map (·.idempotencyKey) = relay.commands.rows.map (·.idempotencyKey)) :
    after.Fits transaction work := by
  cases work with
  | numbered order deviceSeq => exact ⟨numbering.trans fits.1, commandSeq ▸ fits.2⟩
  | inserted command => exact ⟨numbering.trans fits.1, commandSeq ▸ fits.2.1, keys ▸ fits.2.2⟩
  | _ => exact True.intro

theorem Sound.turn (sound : relay.Sound) {work : Work} (fits : relay.Fits transaction work) :
    (relay.turn transaction work).Sound := by
  refine ⟨sound.numbers, sound.keys, sound.exclusive, sound.based, ?_⟩
  intro other
  simp only [Relay.turn]
  by_cases same : other = transaction
  · rw [same, Function.update_self]
    exact fits.carry rfl rfl rfl
  · rw [Function.update_of_ne same]
    exact (sound.works other).carry rfl rfl rfl

theorem Sound.write (sound : relay.Sound) {version : RelayCommand} (found : relay.command version.deviceSeq = some row)
    (succeeds : Succeeds row version) : (relay.write transaction version).Sound := by
  refine ⟨sound.numbers, sound.keys, RowLocks.Table.hold_exclusive sound.exclusive, ?_, ?_⟩
  · exact RowLocks.Table.hold_based sound.based (Keyed.find_mem found) (command_seq found) succeeds
  · exact fun other => (sound.works other).carry rfl rfl rfl

theorem Sound.ended (sound : relay.Sound) (work : after.work = Function.update relay.work transaction .idle)
    (numbering : after.numbering = if relay.numbering = some transaction then none else relay.numbering)
    (commandSeq : relay.numbering ≠ some transaction → after.commandSeq = relay.commandSeq)
    (keys : relay.numbering ≠ some transaction →
      after.commands.rows.map (·.idempotencyKey) = relay.commands.rows.map (·.idempotencyKey)) (other : Nat) :
    after.Fits other (after.work other) := by
  rw [work]
  by_cases same : other = transaction
  · rw [same, Function.update_self]
    exact True.intro
  · rw [Function.update_of_ne same]
    by_cases mine : relay.numbering = some transaction
    · apply fits_calm
      apply sound.calm
      rw [mine]
      exact fun equal => same (Option.some.inj equal).symm
    · rw [if_neg mine] at numbering
      exact (sound.works other).carry numbering (commandSeq mine) (keys mine)

theorem Sound.rollback (sound : relay.Sound) (transaction : Nat) : (relay.rollback transaction).Sound := by
  refine ⟨sound.numbers, sound.keys, RowLocks.Table.rollback_exclusive sound.exclusive,
    RowLocks.Table.rollback_based sound.based, ?_⟩
  exact sound.ended rfl rfl (fun _ => rfl) fun _ => rfl

theorem Sound.place (sound : relay.Sound) {command : RelayCommand} (was : relay.work transaction = .inserted command) :
    Sound
      { relay.rollback transaction with
        commandSeq := command.deviceSeq, commands := (relay.commands.rollback transaction).insert command } := by
  have fits := sound.works transaction
  rw [was] at fits
  obtain ⟨mine, next, fresh⟩ := fits
  refine ⟨?_, ?_, RowLocks.Table.rollback_exclusive sound.exclusive,
    RowLocks.Table.insert_based (RowLocks.Table.rollback_based sound.based), ?_⟩
  · show (relay.commands.rows ++ [command]).map (·.deviceSeq) = _
    rw [List.map_append, sound.numbers, List.map_singleton, next, List.range'_concat, Nat.one_mul, Nat.add_comm 1]
  · show ((relay.commands.rows ++ [command]).map (·.idempotencyKey)).Nodup
    apply Keyed.nodup_append sound.keys
    intro old present same
    exact fresh (same ▸ List.mem_map_of_mem present)
  · exact sound.ended rfl rfl (fun free => absurd mine free) fun free => absurd mine free

theorem Sound.publish_key (sound : relay.Sound) (member : row ∈ relay.commands.rows) :
    (relay.commands.publish RelayCommand.deviceSeq transaction row).idempotencyKey = row.idempotencyKey := by
  have sameKey := fun row (_ : row ∈ relay.commands.rows) version (_ : (transaction, version) ∈ relay.commands.held)
    (_ : row.deviceSeq = version.deviceSeq) (succeeds : Succeeds row version) => succeeds.key
  apply RowLocks.Table.commit_related sound.unique sound.based _ sameKey member
  exact fun _ => rfl

theorem Sound.publish (sound : relay.Sound) (transaction : Nat) :
    Sound { relay.rollback transaction with commands := relay.commands.commit RelayCommand.deviceSeq transaction } := by
  have keys : (relay.commands.commit RelayCommand.deviceSeq transaction).rows.map (·.idempotencyKey) =
      relay.commands.rows.map (·.idempotencyKey) := by
    simp only [RowLocks.Table.commit, List.map_map]
    apply List.map_congr_left
    intro row member
    exact sound.publish_key member
  refine ⟨?_, ?_, RowLocks.Table.commit_exclusive sound.exclusive, RowLocks.Table.commit_based sound.exclusive sound.based, ?_⟩
  · exact RowLocks.Table.commit_keys.trans sound.numbers
  · exact keys ▸ sound.keys
  · exact sound.ended rfl rfl (fun _ => rfl) fun _ => keys

theorem Sound.step (sound : relay.Sound) (event : RelayEvent) : (relay.step event).Sound := by
  have moves := step_moves relay event
  generalize relay.step event = after at moves
  cases moves with
  | same => exact sound
  | turned transaction work calm => exact sound.turn (fits_calm calm)
  | numbered transaction order free =>
    refine ⟨sound.numbers, sound.keys, sound.exclusive, sound.based, ?_⟩
    intro other
    simp only [Relay.turn]
    by_cases same : other = transaction
    · rw [same, Function.update_self]
      exact ⟨rfl, rfl⟩
    · rw [Function.update_of_ne same]
      apply fits_calm
      apply sound.calm
      rw [free]
      exact (Option.some_ne_none other).symm
  | inserted transaction order deviceSeq was fresh =>
    have fits := sound.works transaction
    rw [was] at fits
    refine sound.turn ⟨fits.1, fits.2, ?_⟩
    intro present
    obtain ⟨row, member, same⟩ := List.mem_map.mp present
    have missing := List.any_eq_false.mp fresh row member
    exact missing (beq_iff_eq.mpr same)
  | wrote transaction work row version calm found succeeds => exact (sound.write found succeeds).turn (fits_calm calm)
  | rolledBack transaction => exact sound.rollback transaction
  | placed transaction command was => exact sound.place was
  | published transaction _ _ => exact sound.publish transaction

theorem sound_initial : Sound {} := by
  refine ⟨rfl, List.nodup_nil, List.nodup_nil, ?_, fun _ => True.intro⟩
  intro entry held
  cases held

theorem sound_run (events : List RelayEvent) : (final step {} events).Sound :=
  final_invariant (fun _ event sound => sound.step event) sound_initial events

/-- No command's rank falls between the two states. -/
def Forward (relay after : Relay) : Prop :=
  ∀ row ∈ relay.commands.rows, ∃ next ∈ after.commands.rows,
    next.deviceSeq = row.deviceSeq ∧ row.state.order ≤ next.state.order

theorem Forward.refl (relay : Relay) : relay.Forward relay := fun row member => ⟨row, member, rfl, Nat.le_refl _⟩

theorem Forward.trans {middle : Relay} (first : relay.Forward middle) (second : middle.Forward after) : relay.Forward after := by
  intro row member
  obtain ⟨next, present, same, rises⟩ := first row member
  obtain ⟨last, found, equal, goesOn⟩ := second next present
  exact ⟨last, found, equal.trans same, rises.trans goesOn⟩

/-- A transaction that has written `delivered` onto a command commits while the command is still open. -/
def Spares (relay : Relay) (event : RelayEvent) : Prop :=
  ∀ transaction, event = .commit transaction → relay.publishes transaction → ∀ row ∈ relay.commands.rows,
    ∀ version, (transaction, version) ∈ relay.commands.held → version.deviceSeq = row.deviceSeq →
      version.state = .delivered → row.isOpen

theorem open_iff : row.isOpen ↔ row.state.order ≤ 1 := by
  unfold RelayCommand.isOpen
  cases row.state <;> decide

theorem forward_of_rows (same : ∀ row ∈ relay.commands.rows, row ∈ after.commands.rows) : relay.Forward after :=
  fun row member => ⟨row, same row member, rfl, Nat.le_refl _⟩

theorem Sound.forward (sound : relay.Sound) (spares : relay.Spares event) : relay.Forward (relay.step event) := by
  have moves := step_moves relay event
  generalize relay.step event = after at moves
  cases moves with
  | same => exact Forward.refl relay
  | turned transaction work calm => exact forward_of_rows fun _ member => member
  | numbered transaction order free => exact forward_of_rows fun _ member => member
  | inserted transaction order deviceSeq was fresh => exact forward_of_rows fun _ member => member
  | wrote transaction work row version calm found succeeds => exact forward_of_rows fun _ member => member
  | rolledBack transaction => exact forward_of_rows fun _ member => member
  | placed transaction command was => exact forward_of_rows fun _ member => List.mem_append_left _ member
  | published transaction ends publishes =>
    intro row member
    refine ⟨_, List.mem_map_of_mem member, RowLocks.Table.publish_key row, ?_⟩
    rcases RowLocks.Table.publish_cases RelayCommand.deviceSeq relay.commands transaction row with unchanged | ⟨mine, named⟩
    · rw [unchanged]
    · obtain ⟨base, present, same, succeeds⟩ := sound.based _ mine
      have equal : base = row := List.inj_on_of_nodup_map sound.unique present member (same.trans named)
      rw [equal] at succeeds
      by_cases late : (relay.commands.publish RelayCommand.deviceSeq transaction row).state = .delivered
      · rw [late]
        exact open_iff.mp (spares transaction ends publishes row member _ mine named late)
      · exact succeeds.forward late

theorem commit_publishes (publishes : relay.publishes transaction) :
    relay.commit transaction =
      { relay.rollback transaction with commands := relay.commands.commit RelayCommand.deviceSeq transaction } := by
  unfold commit
  rcases publishes with was | was | ⟨resultCode, was⟩ <;> rw [was]

theorem Sound.spares (sound : relay.Sound) (forward : relay.Forward (relay.step event)) : relay.Spares event := by
  rintro transaction rfl publishes row member version held same late
  obtain ⟨next, present, named, rises⟩ := forward row member
  rw [Relay.step, commit_publishes publishes] at present
  obtain ⟨base, old, rfl⟩ := List.mem_map.mp present
  have equal : base = row :=
    List.inj_on_of_nodup_map sound.unique old member ((RowLocks.Table.publish_key base).symm.trans named)
  rw [equal, RowLocks.Table.publish_mine sound.exclusive held same.symm, late] at rises
  exact open_iff.mpr rises

theorem not_open_of_finished (finished : row.finished) : ¬row.isOpen := by
  unfold RelayCommand.finished at finished
  unfold RelayCommand.isOpen
  revert finished
  cases row.state <;> decide

theorem finished_of_le {next : RelayCommand} (finished : row.finished) (rises : row.state.order ≤ next.state.order) :
    next.finished := by
  unfold RelayCommand.finished at finished ⊢
  revert finished rises
  cases row.state <;> cases next.state <;> decide

/-- What holds of a device's commands in a run. -/
structure MovesForward (events : List RelayEvent) : Prop where
  consecutive : (final step {} events).commands.rows.map (·.deviceSeq) =
    List.range' 1 (final step {} events).commands.rows.length
  once : ((final step {} events).commands.rows.map (·.idempotencyKey)).Nodup
  forward : Throughout step (fun relay event => relay.Forward (relay.step event)) {} events
  never : ∀ first middle last, events = first ++ middle ++ last →
    ∀ row ∈ (final step {} first).commands.rows, row.finished →
      ∀ afterSeq, ∀ handed ∈ openCommands (final step {} (first ++ middle)).commands.rows afterSeq,
        handed.deviceSeq ≠ row.deviceSeq

theorem forward_run {start : Relay} {events : List RelayEvent}
    (forward : Throughout step (fun relay event => relay.Forward (relay.step event)) start events) :
    start.Forward (final step start events) :=
  forward.related Forward.refl fun first second => first.trans second

theorem Sound.never_handed (sound : after.Sound) (forward : relay.Forward after) (member : row ∈ relay.commands.rows)
    (finished : row.finished) {afterSeq : Nat} {handed : RelayCommand}
    (listed : handed ∈ openCommands after.commands.rows afterSeq) : handed.deviceSeq ≠ row.deviceSeq := by
  intro same
  obtain ⟨next, present, named, rises⟩ := forward row member
  obtain ⟨found, selected⟩ := List.mem_filter.mp ((List.mem_insertionSort _).mp (List.mem_of_mem_take listed))
  have equal : handed = next := List.inj_on_of_nodup_map sound.unique found present (same.trans named.symm)
  rw [equal] at selected
  exact not_open_of_finished (finished_of_le finished rises) (Bool.and_eq_true_iff.mp selected).2

/-- The commands of a device are numbered without gaps and once a key, and move forward only, in
exactly the runs in which no stream writes `delivered` back onto a command that has gone on. -/
theorem commands_move_forward_iff (events : List RelayEvent) :
    Throughout step Spares {} events ↔ MovesForward events := by
  have steps : Throughout step Spares {} events ↔
      Throughout step (fun relay event => relay.Forward (relay.step event)) {} events :=
    Throughout.congr (fun _ event sound => sound.step event)
      (fun _ _ sound => ⟨sound.forward, sound.spares⟩) sound_initial events
  constructor
  · intro spared
    have sound := sound_run events
    have forward := steps.mp spared
    refine ⟨?_, sound.keys, forward, ?_⟩
    · have length := congrArg List.length sound.numbers
      rw [List.length_map, List.length_range'] at length
      rw [length]
      exact sound.numbers
    · rintro first middle last rfl row member finished afterSeq handed listed
      have between := (Throughout.append.mp (Throughout.append.mp forward).1).2
      have reached := forward_run between
      rw [← final_append] at reached
      exact (sound_run (first ++ middle)).never_handed reached member finished listed
  · intro moves
    exact steps.mpr moves.forward

def stopOrder : CommandOrder := { kind := .stopSession, sessionKey := some "s-1", idempotencyKey := "stop-1", requestedBy := 7 }

def stopRejected : RelayCommand := (stopOrder.command 1).reject OFF_CODE 100

/-- A stream has read a command as queued when the commands of the device are rejected. -/
def rejectedMeanwhile : List RelayEvent :=
  [.order 1 stopOrder, .takeNumber 1, .insert 1, .commit 1, .select 2 0, .findOpen 3 OFF_CODE, .reject 3 1 100, .commit 3]

def writesBack : List RelayEvent := [.deliver 2 1 101, .commit 2]

/-- The stream's commit makes the rejected command `delivered` again, and the next read hands it out. -/
theorem rejected_command_delivered : ¬MovesForward (rejectedMeanwhile ++ writesBack) := by
  intro moves
  have apart := moves.never rejectedMeanwhile writesBack [] (List.append_nil _).symm stopRejected
    (by decide +kernel) (by decide) 0 (stopRejected.deliver 101) (by decide +kernel)
  exact apart rfl

end Relay

end Sprintable.Desktop
