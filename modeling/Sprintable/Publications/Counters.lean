import Sprintable.Publications.WorkerSafety

/-! How often a command is attempted and when: the counter of its failures only
grows, a queued command has failures left, and every failure that queues a command
again puts it off for as long as its counter says, or its provider. -/

namespace Sprintable.Publications
open Interleave

/-- The notes of a command since a person last decided, newest first. -/
def sinceHuman (id : Uuid) : List Note → List Note
  | [] => []
  | note :: older =>
    if note = .humanRetry id then [] else if note.command = id then note :: sinceHuman id older else sinceHuman id older

def Note.fails : Note → Bool
  | .failed _ _ => true
  | _ => false

/-- The attempt is put off and does not count. -/
def Note.defers : Note → Bool
  | .containerCreated _ | .pauseBlocked _ => true
  | _ => false

def failures (id : Uuid) (history : List Note) : Nat := (sinceHuman id history).countP Note.fails

def calls (id : Uuid) (history : List Note) : Nat := (sinceHuman id history).countP Note.opens

def deferrals (id : Uuid) (history : List Note) : Nat := (sinceHuman id history).countP Note.defers

def lastFailure (id : Uuid) (history : List Note) : Option (Option String) :=
  match (sinceHuman id history).head? with
  | some (.failed _ errorCode) => some errorCode
  | _ => none

namespace Command

/-- The worker will come back to the command by itself. -/
def comesBack (command : Command) : Bool :=
  command.status == .pending || command.status == .inProgress || (command.status == .blocked && command.failureKind == some .paused)

/-- No call of the current attempt has started. -/
def uncalled (command : Command) : Bool :=
  command.status == .pending || (command.status == .inProgress && command.providerCallStartedAt.isNone) ||
    (command.status == .blocked && command.failureKind == some .paused)

def backoff (command : Command) : Nat := seconds (60 * 2 ^ command.attemptCount)

end Command

/-- A failure that queued the command again dated its next attempt from the instant
of the claim, or of the recovery that found the claim abandoned. -/
def PutOff (now : Nat) (errorCode : Option String) (command : Command) : Prop :=
  ∃ claimed since wait, command.claimedAt = some claimed ∧ claimed ≤ since ∧ since ≤ now ∧
    command.nextAttemptAt = some (since + wait) ∧ 0 < wait ∧ (errorCode ≠ some rateLimitedCode → wait = command.backoff)

/-- What the history and a row say of each other. -/
structure Counted (history : List Note) (now : Nat) (command : Command) : Prop where
  failed : failures command.id history ≤ maxRetries
  left : command.comesBack = true → failures command.id history ≤ command.attemptCount ∧
    (failures command.id history = 0 ∨ command.attemptCount < maxRetries)
  called : calls command.id history ≤ failures command.id history + deferrals command.id history + 1
  uncalled : command.uncalled = true → calls command.id history ≤ failures command.id history + deferrals command.id history
  putOff : ∀ errorCode, lastFailure command.id history = some errorCode → command.status = .pending → PutOff now errorCode command
  paused : command.status = .blocked → command.failureKind = some .paused → lastFailure command.id history = none

structure AllCounted (store : Store) : Prop where
  rows : ∀ id command, store.find id = some command → Counted store.history store.now command
  past : ∀ id command claimed, store.find id = some command → command.claimedAt = some claimed → claimed ≤ store.now
  named : ∀ note ∈ store.history, (store.find note.command).isSome = true

/-- Every row is still there, with no fewer failures. -/
def CountsGrow (before after : Store) : Prop :=
  ∀ id old, before.find id = some old → ∃ new, after.find id = some new ∧ old.attemptCount ≤ new.attemptCount

def StaysCounted (before after : Store) : Prop := AllCounted after ∧ CountsGrow before after

section History
variable {id : Uuid} {note : Note} {notes history : List Note}

theorem sinceHuman_cons (own : note.command = id) (human : note ≠ .humanRetry id) :
    sinceHuman id (note :: history) = note :: sinceHuman id history := by
  rw [sinceHuman, if_neg human, if_pos own]

theorem sinceHuman_human (id : Uuid) (history : List Note) : sinceHuman id (.humanRetry id :: history) = [] := if_pos rfl

theorem sinceHuman_others (others : ∀ note ∈ notes, note.command ≠ id) :
    sinceHuman id (notes ++ history) = sinceHuman id history := by
  induction notes with
  | nil => rfl
  | cons note rest ih =>
    have different := others note List.mem_cons_self
    rw [List.cons_append, sinceHuman, if_neg, if_neg different]
    · exact ih fun other member => others other (List.mem_cons_of_mem note member)
    · rintro rfl
      exact different rfl

theorem Counted.later {now later : Nat} {command : Command} (counted : Counted history now command) (past : now ≤ later) :
    Counted history later command := by
  refine ⟨counted.failed, counted.left, counted.called, counted.uncalled, fun errorCode last pending => ?_, counted.paused⟩
  obtain ⟨claimed, since, wait, row, before, upTo, next, positive, told⟩ := counted.putOff errorCode last pending
  exact ⟨claimed, since, wait, row, before, Nat.le_trans upTo past, next, positive, told⟩

theorem Counted.same {now : Nat} {command : Command} {other : List Note} (counted : Counted history now command)
    (same : sinceHuman command.id other = sinceHuman command.id history) : Counted other now command := by
  have failed : failures command.id other = failures command.id history := by rw [failures, same, failures]
  have called : calls command.id other = calls command.id history := by rw [calls, same, calls]
  have deferred : deferrals command.id other = deferrals command.id history := by rw [deferrals, same, deferrals]
  have last : lastFailure command.id other = lastFailure command.id history := by rw [lastFailure, same, lastFailure]
  refine ⟨?_, ?_, ?_, ?_, ?_, ?_⟩
  · rw [failed]
    exact counted.failed
  · rw [failed]
    exact counted.left
  · rw [failed, called, deferred]
    exact counted.called
  · rw [failed, called, deferred]
    exact counted.uncalled
  · rw [last]
    exact counted.putOff
  · rw [last]
    exact counted.paused

theorem counted_fresh {now : Nat} {command : Command} (fresh : sinceHuman command.id history = []) : Counted history now command := by
  have failed : failures command.id history = 0 := by rw [failures, fresh, List.countP_nil]
  have called : calls command.id history = 0 := by rw [calls, fresh, List.countP_nil]
  have last : lastFailure command.id history = none := by rw [lastFailure, fresh, List.head?_nil]
  refine ⟨?_, fun _ => ⟨?_, .inl failed⟩, ?_, fun _ => ?_, fun _ failure => ?_, fun _ _ => last⟩
  · rw [failed]
    exact Nat.zero_le _
  · rw [failed]
    exact Nat.zero_le _
  · rw [called]
    exact Nat.zero_le _
  · rw [called]
    exact Nat.zero_le _
  · rw [last] at failure
    cases failure

end History

section Rows
variable {history : List Note} {now : Nat} {old row : Command} {note : Note}

theorem Counted.stopped (counted : Counted history now old) (name : row.id = old.id) (rests : row.comesBack = false) :
    Counted history now row := by
  simp only [Command.comesBack, Bool.or_eq_false_iff, Bool.and_eq_false_iff, beq_eq_false_iff_ne, ne_eq] at rests
  obtain ⟨⟨waits, runs⟩, pauses⟩ := rests
  refine ⟨name ▸ counted.failed, fun back => ?_, name ▸ counted.called, fun uncalled => ?_, fun _ _ pending => absurd pending waits,
    fun blocked kind => ?_⟩
  · simp [Command.comesBack, waits, runs] at back
    exact absurd back.2 (pauses.resolve_left (not_not.mpr back.1))
  · simp [Command.uncalled, waits, runs] at uncalled
    exact absurd uncalled.2 (pauses.resolve_left (not_not.mpr uncalled.1))
  · exact absurd kind (pauses.resolve_left (not_not.mpr blocked))

theorem counts_cons (history : List Note) (own : note.command = row.id) (human : note ≠ .humanRetry row.id) :
    failures row.id (note :: history) = failures row.id history + (if note.fails then 1 else 0) ∧
      calls row.id (note :: history) = calls row.id history + (if note.opens then 1 else 0) ∧
      deferrals row.id (note :: history) = deferrals row.id history + (if note.defers then 1 else 0) := by
  rw [failures, calls, deferrals, sinceHuman_cons own human, List.countP_cons, List.countP_cons, List.countP_cons]
  exact ⟨rfl, rfl, rfl⟩

theorem Counted.ended (counted : Counted history now old) (running : old.comesBack = true) (name : row.id = old.id)
    (own : note.command = row.id) (kept : row.attemptCount = old.attemptCount)
    (noted : note = .completed row.id ∧ row.comesBack = false ∨ note.defers = true) :
    Counted (note :: history) now row := by
  have human : note ≠ .humanRetry row.id := by
    rintro rfl
    rcases noted with ⟨noted, _⟩ | noted <;> cases noted
  have quiet : note.fails = false ∧ note.opens = false := by
    rcases noted with ⟨rfl, _⟩ | deferred
    · exact ⟨rfl, rfl⟩
    · cases note <;> first | exact ⟨rfl, rfl⟩ | cases deferred
  obtain ⟨failed, called, deferred⟩ := counts_cons history own human
  have last : lastFailure row.id (note :: history) = none := by
    rw [lastFailure, sinceHuman_cons own human, List.head?_cons]
    cases note <;> first | rfl | cases quiet.1
  rw [quiet.1, if_neg Bool.false_ne_true, Nat.add_zero, name] at failed
  rw [quiet.2, if_neg Bool.false_ne_true, Nat.add_zero, name] at called
  rw [name] at deferred
  have before := counted.called
  have left := counted.left running
  refine ⟨?_, fun _ => ?_, ?_, fun uncalled => ?_, fun _ failure => ?_, fun _ _ => last⟩
  · rw [name, failed]
    exact counted.failed
  · rw [name, failed, kept]
    exact left
  · rw [name, failed, called, deferred]
    omega
  · rw [name, failed, called, deferred]
    rcases noted with ⟨_, rests⟩ | puts
    · have stays : row.comesBack = true := by
        simp only [Command.uncalled, Bool.or_eq_true, Bool.and_eq_true] at uncalled
        simp only [Command.comesBack, Bool.or_eq_true, Bool.and_eq_true]
        rcases uncalled with (waits | runs) | pauses
        · exact .inl (.inl waits)
        · exact .inl (.inr runs.1)
        · exact .inr pauses
      rw [rests] at stays
      cases stays
    · rw [puts, if_pos rfl]
      omega
  · rw [last] at failure
    cases failure

theorem Counted.moved (counted : Counted history now old) (name : row.id = old.id) (kept : row.attemptCount = old.attemptCount)
    (back : old.comesBack = true) (uncalled : old.uncalled = true) (going : row.status ≠ .blocked)
    (putOff : ∀ errorCode, lastFailure old.id history = some errorCode → row.status = .pending → PutOff now errorCode row) :
    Counted history now row := by
  refine ⟨?_, fun _ => ?_, ?_, fun _ => ?_, ?_, fun blocked => absurd blocked going⟩
  · rw [name]
    exact counted.failed
  · rw [name, kept]
    exact counted.left back
  · rw [name]
    exact counted.called
  · rw [name]
    exact counted.uncalled uncalled
  · rw [name]
    exact putOff

theorem Counted.starts (counted : Counted history now old) (running : old.status = .inProgress)
    (unmarked : old.providerCallStartedAt = none) (instant : Nat) :
    Counted (.callStarted old.id :: history) now { old with providerCallStartedAt := some instant } := by
  have human : Note.callStarted old.id ≠ .humanRetry old.id := nofun
  obtain ⟨failed, called, deferred⟩ := counts_cons history (rfl : (Note.callStarted old.id).command = old.id) human
  simp only [Note.fails, Note.opens, Note.defers, Bool.false_eq_true, if_false, if_true, Nat.add_zero] at failed called deferred
  have before := counted.uncalled (by simp [Command.uncalled, running, unmarked])
  refine ⟨?_, fun _ => ?_, ?_, fun uncalled => ?_, fun _ _ pending => ?_, fun blocked => ?_⟩
  · exact failed ▸ counted.failed
  · exact failed ▸ counted.left (by simp [Command.comesBack, running])
  · rw [failed, called, deferred]
    exact Nat.add_le_add_right before 1
  · simp [Command.uncalled, running] at uncalled
  · rw [running] at pending
    cases pending
  · rw [running] at blocked
    cases blocked

end Rows

section Failures
variable {history : List Note} {now since : Nat} {command : Command} {errorCode lastError : Option String}
  {retryAfterSeconds reasonResetAt : Option Nat}

theorem compute_next_attempt_spec (attemptCount since : Nat) (retryAfterSeconds : Option Nat) :
    ∃ wait, computeNextAttemptAt attemptCount since retryAfterSeconds = since + wait ∧ 0 < wait ∧
      (retryAfterSeconds = none → wait = seconds (60 * 2 ^ attemptCount)) := by
  have positive : 0 < seconds (60 * 2 ^ attemptCount) :=
    Nat.mul_pos (Nat.mul_pos (by decide) (Nat.two_pow_pos _)) (by decide)
  unfold computeNextAttemptAt
  cases retryAfterSeconds with
  | none => exact ⟨_, rfl, positive, fun _ => rfl⟩
  | some wait =>
    dsimp only
    split
    next told => exact ⟨seconds wait, rfl, Nat.mul_pos told (by decide), nofun⟩
    next => exact ⟨_, rfl, positive, nofun⟩

theorem apply_failure_counts (command : Command) (errorCode lastError : Option String) (since : Nat)
    (retryAfterSeconds reasonResetAt : Option Nat) :
    let failed := command.applyFailure errorCode lastError since retryAfterSeconds reasonResetAt
    failed.claimedAt = command.claimedAt ∧ command.attemptCount ≤ failed.attemptCount ∧
      (failed.comesBack = true → failed.status = .pending ∧ failed.attemptCount = command.attemptCount + 1 ∧
        failed.attemptCount < maxRetries ∧
        failed.nextAttemptAt = some (computeNextAttemptAt failed.attemptCount since retryAfterSeconds)) := by
  have given : ∀ row : Command, (row.deadLetter since).claimedAt = row.claimedAt ∧
      (row.deadLetter since).attemptCount = row.attemptCount ∧ (row.deadLetter since).comesBack = false := by
    intro row
    unfold Command.deadLetter Command.markStopNotice
    split <;> exact ⟨rfl, rfl, rfl⟩
  unfold Command.applyFailure
  cases classifyFailureKind errorCode with
  | connection =>
    dsimp only
    unfold Command.markStopNotice
    split <;> exact ⟨rfl, Nat.le_refl _, fun back => absurd back (by simp [Command.comesBack])⟩
  | needsCheck | notSent | paused =>
    dsimp only
    rw [(given _).1, (given _).2.1, (given _).2.2]
    exact ⟨rfl, Nat.le_succ _, fun back => absurd back Bool.false_ne_true⟩
  | transient =>
    dsimp only
    split
    · rw [(given _).1, (given _).2.1, (given _).2.2]
      exact ⟨rfl, Nat.le_succ _, fun back => absurd back Bool.false_ne_true⟩
    next left => exact ⟨rfl, Nat.le_succ _, fun _ => ⟨rfl, rfl, Nat.lt_of_not_le left, rfl⟩⟩

theorem Counted.fails {claimed : Nat} (counted : Counted history now command) (back : command.comesBack = true)
    (row : command.claimedAt = some claimed) (before : claimed ≤ since) (upTo : since ≤ now)
    (hinted : (Outcome.failed errorCode lastError retryAfterSeconds reasonResetAt).Hinted) :
    Counted (.failed command.id errorCode :: history) now
      (command.applyFailure errorCode lastError since retryAfterSeconds reasonResetAt) := by
  have name := Command.applyFailure_id command errorCode lastError since retryAfterSeconds reasonResetAt
  have kind := (Command.applyFailure_cases command errorCode lastError since retryAfterSeconds reasonResetAt).2.2.1
  obtain ⟨stays, _, waits⟩ := apply_failure_counts command errorCode lastError since retryAfterSeconds reasonResetAt
  generalize command.applyFailure errorCode lastError since retryAfterSeconds reasonResetAt = failedRow at name kind stays waits
  have human : Note.failed command.id errorCode ≠ .humanRetry command.id := nofun
  have own : (Note.failed command.id errorCode).command = command.id := rfl
  obtain ⟨failed, called, deferred⟩ := counts_cons history own human
  simp only [Note.fails, Note.opens, Note.defers, Bool.false_eq_true, if_false, if_true, Nat.add_zero] at failed called deferred
  have last : lastFailure command.id (.failed command.id errorCode :: history) = some errorCode := by
    rw [lastFailure, sinceHuman_cons own human, List.head?_cons]
  have left := counted.left back
  have some : maxRetries = 5 := rfl
  have calledBefore := counted.called
  refine ⟨?_, fun comes => ?_, ?_, fun _ => ?_, fun code failure pending => ?_, fun _ paused => absurd paused kind⟩
  · rw [name, failed]
    omega
  · obtain ⟨_, counts, few, _⟩ := waits comes
    rw [name, failed]
    omega
  · rw [name, failed, called, deferred]
    omega
  · rw [name, failed, called, deferred]
    omega
  · rw [name, last] at failure
    obtain rfl := Option.some.inj failure
    obtain ⟨_, _, _, next⟩ := waits (by simp [Command.comesBack, pending])
    obtain ⟨wait, dated, positive, told⟩ := compute_next_attempt_spec failedRow.attemptCount since retryAfterSeconds
    refine ⟨claimed, since, wait, stays.trans row, before, upTo, next.trans (congrArg _ dated), positive, fun other => told ?_⟩
    cases retryAfterSeconds with
    | none => rfl
    | some seconds => exact absurd hinted other

end Failures

section Steps
variable {deployment : Deployment} {store : Store} {id : Uuid} {old row : Command} {notes : List Note}

theorem countsGrow_refl (store : Store) : CountsGrow store store := fun _ old found => ⟨old, found, Nat.le_refl _⟩

theorem CountsGrow.trans {first second third : Store} (early : CountsGrow first second) (late : CountsGrow second third) :
    CountsGrow first third := by
  intro id old found
  obtain ⟨middle, there, more⟩ := early id old found
  obtain ⟨new, last, most⟩ := late id middle there
  exact ⟨new, last, Nat.le_trans more most⟩

theorem staysCounted_refl (counted : AllCounted store) : StaysCounted store store := ⟨counted, countsGrow_refl store⟩

theorem commit_counted (counted : AllCounted store) (found : store.find id = some old) (name : row.id = id)
    (about : ∀ note ∈ notes, note.command = id) (new : Counted (notes ++ store.history) store.now row)
    (past : ∀ claimed, row.claimedAt = some claimed → claimed ≤ store.now) (more : old.attemptCount ≤ row.attemptCount) :
    StaysCounted store (store.commit row notes) := by
  have others : ∀ other, id ≠ other → (store.commit row notes).find other = store.find other := by
    intro other different
    rw [find_commit, if_neg (fun same => different (name.symm.trans same))]
  refine ⟨⟨fun other command present => ?_, fun other command claimed present since => ?_, fun note listed => ?_⟩,
    fun other command present => ?_⟩
  · by_cases same : id = other
    · subst same
      rw [find_commit_same found name] at present
      cases present
      exact ⟨new.failed, new.left, new.called, new.uncalled, new.putOff, new.paused⟩
    · rw [others other same] at present
      apply (counted.rows other command present).same
      apply sinceHuman_others
      intro note member own
      exact same ((about note member).symm.trans (own.trans (find_row_id present)))
  · by_cases same : id = other
    · subst same
      rw [find_commit_same found name] at present
      cases present
      exact past claimed since
    · rw [others other same] at present
      exact counted.past other command claimed present since
  · by_cases same : id = note.command
    · rw [← same, find_commit_same found name]
      rfl
    · rw [others _ same]
      rcases List.mem_append.mp listed with member | older
      · exact absurd (about note member).symm same
      · exact counted.named note older
  · by_cases same : id = other
    · subst same
      rw [found] at present
      cases present
      exact ⟨_, find_commit_same found name notes, more⟩
    · exact ⟨command, (others other same).trans present, Nat.le_refl _⟩

theorem stop_counted (counted : AllCounted store) (found : store.find id = some old) (name : row.id = old.id)
    (rests : row.comesBack = false) (claimed : row.claimedAt = old.claimedAt) (kept : row.attemptCount = old.attemptCount) :
    StaysCounted store (store.commit row []) := by
  refine commit_counted counted found (name.trans (find_row_id found)) ?_ ((counted.rows id old found).stopped name rests) ?_ ?_
  · exact fun _ listed => absurd listed List.not_mem_nil
  · rw [claimed]
    exact fun instant since => counted.past id old instant found since
  · exact Nat.le_of_eq kept.symm

theorem human_counted (counted : AllCounted store) (found : store.find id = some old) (name : row.id = old.id)
    (claimed : row.claimedAt = old.claimedAt) (kept : row.attemptCount = old.attemptCount) :
    StaysCounted store (store.commit row [.humanRetry id]) := by
  have own := name.trans (find_row_id found)
  refine commit_counted counted found own ?_ (counted_fresh ?_) ?_ (Nat.le_of_eq kept.symm)
  · intro note listed
    rw [List.mem_singleton.mp listed]
    rfl
  · rw [own]
    exact sinceHuman_human id store.history
  · rw [claimed]
    exact fun instant since => counted.past id old instant found since

theorem end_counted (counted : AllCounted store) (found : store.find id = some old) (running : old.status = .inProgress)
    (name : row.id = old.id) (claimed : row.claimedAt = old.claimedAt) (kept : row.attemptCount = old.attemptCount)
    {note : Note} (own : note.command = row.id)
    (noted : note = .completed row.id ∧ row.comesBack = false ∨ note.defers = true) :
    StaysCounted store (store.finish row note) := by
  have back : old.comesBack = true := by simp [Command.comesBack, running]
  have ended := (counted.rows id old found).ended back name own kept noted
  refine commit_counted counted found (name.trans (find_row_id found)) ?_ ?_ ?_ (Nat.le_of_eq kept.symm)
  · intro other listed
    rw [List.mem_singleton.mp listed]
    exact own.trans (name.trans (find_row_id found))
  · exact ⟨ended.failed, ended.left, ended.called, ended.uncalled, ended.putOff, ended.paused⟩
  · change ∀ instant, row.claimedAt = some instant → _
    rw [claimed]
    exact fun instant since => counted.past id old instant found since

theorem fail_counted (counted : AllCounted store) (found : store.find id = some old) (running : old.status = .inProgress)
    {claimed since : Nat} (row : old.claimedAt = some claimed) (before : claimed ≤ since) (upTo : since ≤ store.now)
    {errorCode lastError : Option String} {retryAfterSeconds reasonResetAt : Option Nat}
    (hinted : (Outcome.failed errorCode lastError retryAfterSeconds reasonResetAt).Hinted) :
    StaysCounted store (store.fail old errorCode lastError since retryAfterSeconds reasonResetAt) := by
  have back : old.comesBack = true := by simp [Command.comesBack, running]
  have failed := (counted.rows id old found).fails back row before upTo hinted
  have name := Command.applyFailure_id old errorCode lastError since retryAfterSeconds reasonResetAt
  obtain ⟨stays, more, _⟩ := apply_failure_counts old errorCode lastError since retryAfterSeconds reasonResetAt
  refine commit_counted counted found (name.trans (find_row_id found)) ?_ ?_ ?_ more
  · intro note listed
    rw [List.mem_singleton.mp listed]
    exact find_row_id found
  · exact ⟨failed.failed, failed.left, failed.called, failed.uncalled, failed.putOff, failed.paused⟩
  · change ∀ instant, (old.applyFailure errorCode lastError since retryAfterSeconds reasonResetAt).claimedAt = some instant → _
    rw [stays]
    exact fun instant since => counted.past id old instant found since

theorem create_counted (valid : StoreValid deployment store) (counted : AllCounted store) (command : Command) :
    StaysCounted store (store.createOrGet command) := by
  unfold Store.createOrGet
  split
  · exact staysCounted_refl counted
  · have unnamed : ∀ note ∈ store.history, note.command ≠ store.commands.length := by
      intro note member same
      have named := counted.named note member
      rw [same, valid.fresh] at named
      cases named
    refine ⟨⟨fun id row found => ?_, fun id row claimed found since => ?_, fun note member => ?_⟩,
      fun id old found => ⟨old, Keyed.find_append_old found _, Nat.le_refl _⟩⟩
    · rcases Keyed.find_append_cases found with present | ⟨-, rfl, -⟩
      · exact counted.rows id row present
      · apply counted_fresh
        rw [← List.append_nil store.history, sinceHuman_others unnamed]
        rfl
    · rcases Keyed.find_append_cases found with present | ⟨-, rfl, -⟩
      · exact counted.past id row claimed present since
      · cases since
    · obtain ⟨row, present⟩ := Option.isSome_iff_exists.mp (counted.named note member)
      exact Option.isSome_iff_exists.mpr ⟨row, Keyed.find_append_old present _⟩

theorem retry_counted (counted : AllCounted store) (id : Uuid) (onlyPaused : Bool) :
    StaysCounted store (store.retryDeadLetter id onlyPaused) := by
  unfold Store.retryDeadLetter
  cases found : store.find id with
  | none => exact staysCounted_refl counted
  | some command =>
    have before := counted.rows id command found
    dsimp only
    split
    · split
      next blocked =>
        simp only [Bool.and_eq_true, beq_iff_eq] at blocked
        have name : command.id = id := find_row_id found
        refine commit_counted counted found name ?_ (before.moved rfl rfl ?_ ?_ nofun fun errorCode last => ?_) ?_ (Nat.le_refl _)
        · exact fun _ listed => absurd listed List.not_mem_nil
        · simp [Command.comesBack, blocked]
        · simp [Command.uncalled, blocked]
        · rw [before.paused blocked.1 blocked.2] at last
          cases last
        · exact fun claimed since => counted.past id command claimed found since
      next => exact staysCounted_refl counted
    · split
      · exact human_counted counted found rfl rfl rfl
      · exact staysCounted_refl counted

theorem human_publish_counted (counted : AllCounted store) (id : Uuid) : StaysCounted store (store.humanPublish id) := by
  unfold Store.humanPublish
  cases found : store.find id with
  | none => exact staysCounted_refl counted
  | some command =>
    dsimp only
    split
    · exact staysCounted_refl counted
    next waits =>
      have kept : command.requeueForHumanPublish.id = command.id ∧
          command.requeueForHumanPublish.claimedAt = command.claimedAt ∧
          command.requeueForHumanPublish.attemptCount = command.attemptCount := by
        unfold Command.requeueForHumanPublish
        rw [if_neg waits]
        split <;> exact ⟨rfl, rfl, rfl⟩
      exact human_counted counted found kept.1 kept.2.1 kept.2.2

theorem conclude_counted (counted : AllCounted store) (found : store.find id = some old) (running : old.status = .inProgress)
    {claimNow : Nat} (since : old.claimedAt = some claimNow) {outcome : Outcome} (hinted : outcome.Hinted) :
    StaysCounted store (store.conclude id claimNow outcome) := by
  have name := find_row_id found
  cases outcome with
  | escaped _ => exact staysCounted_refl counted
  | completed clears =>
    simp only [Store.conclude, found]
    apply end_counted counted found running
    · rfl
    · rfl
    · rfl
    · exact name.symm
    · exact .inl ⟨congrArg Note.completed name.symm, rfl⟩
  | containerCreated =>
    simp only [Store.conclude, found]
    apply end_counted counted found running
    · rfl
    · rfl
    · rfl
    · exact name.symm
    · exact .inr rfl
  | voided reasonCode lastError =>
    simp only [Store.conclude, found]
    apply stop_counted counted found <;> rfl
  | blockedUnapproved reasonCode lastError =>
    simp only [Store.conclude, found]
    apply stop_counted counted found <;> rfl
  | stoppedUnapproved reasonCode lastError =>
    simp only [Store.conclude, found]
    unfold Command.markStopNotice
    split <;> (apply stop_counted counted found <;> rfl)
  | paused reason =>
    simp only [Store.conclude, found]
    apply end_counted counted found running
    · rfl
    · rfl
    · rfl
    · exact rfl
    · exact .inr rfl
  | failed errorCode lastError retryAfterSeconds reasonResetAt =>
    simp only [Store.conclude, found]
    exact fail_counted counted found running since (Nat.le_refl _) (counted.past id old _ found since) hinted

theorem record_failure_counted (counted : AllCounted store) (found : store.find id = some old) {claimNow : Nat}
    (since : old.claimedAt = some claimNow) (providerCalled : Bool) (answer : Answer) :
    StaysCounted store (store.recordUnclassifiedBatchFailure id providerCalled claimNow answer) := by
  unfold Store.recordUnclassifiedBatchFailure
  split
  · exact staysCounted_refl counted
  simp only [found]
  split
  · exact staysCounted_refl counted
  next running =>
    exact fail_counted counted found (not_not.mp running) since (Nat.le_refl _) (counted.past id old _ found since) True.intro

theorem mark_counted (counted : AllCounted store) (found : store.find id = some old) (running : old.status = .inProgress)
    (unmarked : old.providerCallStartedAt = none) : StaysCounted store (store.markProviderCallStarted id) := by
  have name := find_row_id found
  subst name
  simp only [Store.markProviderCallStarted, found]
  refine commit_counted counted found rfl ?_ ((counted.rows _ old found).starts running unmarked store.now) ?_ (Nat.le_refl _)
  · intro note listed
    rw [List.mem_singleton.mp listed]
    rfl
  · exact fun claimed since => counted.past _ old claimed found since

theorem recover_counted (valid : StoreValid deployment store) (counted : AllCounted store) (id : Uuid) {now : Nat}
    (past : now ≤ store.now) (answer : Answer)
    (permitted : ∀ note ∈ (store.recoverInterrupted id now answer).history, note.reclaims = false) :
    StaysCounted store (store.recoverInterrupted id now answer) := by
  unfold Store.recoverInterrupted at permitted ⊢
  split
  · exact staysCounted_refl counted
  next answered =>
    rw [if_neg answered] at permitted
    cases found : store.find id with
    | none => exact staysCounted_refl counted
    | some command =>
      simp only [found] at permitted ⊢
      split
      · exact staysCounted_refl counted
      next running =>
        rw [if_neg running] at permitted
        have runs := not_not.mp running
        have name := find_row_id found
        by_cases stale : Store.stuckSince now command
        · obtain ⟨claimed, _, since, _⟩ := (valid.rows id command found).held runs
          have before : claimed ≤ now := by
            simp only [Store.stuckSince, since, Option.getD_some, decide_eq_true_eq] at stale
            omega
          simp only [stale, if_true]
          split
          · apply end_counted counted found runs
            · rfl
            · rfl
            · rfl
            · exact name.symm
            · exact .inl ⟨congrArg Note.completed name.symm, rfl⟩
          · exact fail_counted counted found runs since before past True.intro
        · simp only [stale, Bool.false_eq_true, if_false] at permitted
          split at permitted
          · exact absurd (permitted _ (reclaim_noted store id _ _)) (by simp [Note.reclaims])
          · exact absurd (permitted _ (reclaim_noted store id _ _)) (by simp [Note.reclaims])

theorem claim_counted (valid : StoreValid deployment store) (counted : AllCounted store) (worker : Worker) {claimNow : Nat}
    (past : claimNow ≤ store.now) (budget : Nat) (overBudget : List Uuid) (answer : Answer) :
    StaysCounted store (store.claim worker claimNow budget overBudget answer).2 := by
  unfold Store.claim
  split
  · exact staysCounted_refl counted
  next command chosen =>
    obtain ⟨found, pending⟩ := claim_found valid chosen
    have before := counted.rows command.id command found
    have back : command.comesBack = true := by simp [Command.comesBack, pending]
    have uncalled : command.uncalled = true := by simp [Command.uncalled, pending]
    have quiet : ∀ note ∈ ([] : List Note), note.command = command.id := fun _ listed => absurd listed List.not_mem_nil
    split
    · dsimp only
      split
      · exact staysCounted_refl counted
      · refine commit_counted counted found rfl quiet (before.moved rfl rfl back uncalled ?_ fun errorCode last _ => ?_) ?_ (Nat.le_refl _)
        · rw [pending]
          nofun
        · exact before.putOff errorCode last pending
        · exact fun claimed since => counted.past _ command claimed found since
    · split
      · exact staysCounted_refl counted
      · have kept : (command.claim worker claimNow).id = command.id ∧ (command.claim worker claimNow).attemptCount = command.attemptCount ∧
            (command.claim worker claimNow).status = .inProgress ∧ (command.claim worker claimNow).claimedAt = some claimNow := by
          unfold Command.claim
          dsimp only
          split <;> exact ⟨rfl, rfl, rfl, rfl⟩
        obtain ⟨name, counts, running, claimed⟩ := kept
        refine commit_counted counted found name quiet (before.moved name counts back uncalled ?_ fun _ _ waits => ?_) ?_ (Nat.le_of_eq counts.symm)
        · rw [running]
          nofun
        · rw [running] at waits
          cases waits
        · rw [claimed]
          rintro _ ⟨⟩
          exact past

theorem cancel_counted (counted : AllCounted store) (id : Uuid) : StaysCounted store (store.cancelPending id) := by
  unfold Store.cancelPending
  cases found : store.find id with
  | none => exact staysCounted_refl counted
  | some command =>
    dsimp only
    split
    · apply stop_counted counted found <;> rfl
    · exact staysCounted_refl counted

theorem void_counted (counted : AllCounted store) (gateId : Uuid) (reasonCode : String) :
    StaysCounted store (store.voidPendingForGate gateId reasonCode) := by
  have lookup : ∀ id, (store.voidPendingForGate gateId reasonCode).find id = (store.find id).map _ := fun id =>
    Keyed.find_map _ fun row => by split <;> rfl
  refine ⟨⟨fun id command found => ?_, fun id command claimed found since => ?_, fun note listed => ?_⟩, fun id old found => ?_⟩
  · rw [lookup, Option.map_eq_some_iff] at found
    obtain ⟨old, present, rfl⟩ := found
    split
    · exact (counted.rows id old present).stopped rfl rfl
    · exact counted.rows id old present
  · rw [lookup, Option.map_eq_some_iff] at found
    obtain ⟨old, present, rfl⟩ := found
    apply counted.past id old claimed present
    split at since <;> exact since
  · rw [lookup, Option.isSome_map]
    exact counted.named note listed
  · refine ⟨_, by rw [lookup, found, Option.map_some], ?_⟩
    split <;> exact Nat.le_refl _

end Steps

end Sprintable.Publications
