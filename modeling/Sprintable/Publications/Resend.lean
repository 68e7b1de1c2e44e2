import Sprintable.Publications.Worker

/-! No command is sent a second time while nobody knows whether its first call went
out. A claimed row belongs to its worker as long as that worker's request lives;
every way back to the queue first settles what became of the call. -/

namespace Sprintable.Publications
open Interleave

def Note.opens : Note → Bool
  | .callStarted _ => true
  | _ => false

/-- The call is finished or failed with a retry-safe code, or a person decided. -/
def Note.settles : Note → Bool
  | .completed _ | .humanRetry _ => true
  | .failed _ errorCode => classifyFailureKind errorCode == .transient
  | .callStarted _ | .containerCreated _ | .pauseBlocked _ | .reclaimRecovered _ => false

/-- Notes after which another automatic call is in order. Two of them do not settle
the call: the provider still builds a container, which the next call asks for, and
a pause stopped the attempt before its adapter ran. -/
def Note.releases (note : Note) : Bool :=
  match note with
  | .containerCreated _ | .pauseBlocked _ => true
  | _ => note.settles

/-- A recovery that reached a command claimed again after the recovery's scan. -/
def Note.reclaims : Note → Bool
  | .reclaimRecovered _ => true
  | _ => false

/-- A call of the command has started and nothing released it since. The newest
note comes first. -/
def openCall (id : Uuid) : List Note → Bool
  | [] => false
  | note :: older =>
    if note.command = id then note.opens || (openCall id older && !note.releases) else openCall id older

def NeverReopened : List Note → Prop
  | [] => True
  | note :: older => (note.opens = true → openCall note.command older = false) ∧ NeverReopened older

/-- Two calls of one command with no release in between. -/
def Resent (releases : Note → Bool) (history : List Note) : Prop :=
  ∃ id last middle first, history = last ++ .callStarted id :: (middle ++ .callStarted id :: first) ∧
    ∀ note ∈ middle, note.command = id → releases note = false

theorem openCall_unreleased {id : Uuid} {middle first : List Note}
    (kept : ∀ note ∈ middle, note.command = id → note.releases = false) :
    openCall id (middle ++ .callStarted id :: first) = true := by
  induction middle with
  | nil => simp [openCall, Note.command, Note.opens]
  | cons note rest ih =>
    have later := ih fun other member => kept other (List.mem_cons_of_mem note member)
    simp only [List.cons_append, openCall]
    split
    next same => simp [later, kept note List.mem_cons_self same]
    next => exact later

theorem never_reopened_not_resent {history : List Note} (once : NeverReopened history) :
    ¬ Resent Note.releases history := by
  rintro ⟨id, last, middle, first, rfl, kept⟩
  induction last with
  | nil =>
    have closed := once.1 rfl
    rw [Note.command, openCall_unreleased kept] at closed
    cases closed
  | cons note rest ih => exact ih once.2

theorem openCall_other {id : Uuid} {notes history : List Note} (others : ∀ note ∈ notes, note.command ≠ id) :
    openCall id (notes ++ history) = openCall id history := by
  induction notes with
  | nil => rfl
  | cons note rest ih =>
    simp only [List.cons_append, openCall, others note List.mem_cons_self, if_false]
    exact ih fun other member => others other (List.mem_cons_of_mem note member)

theorem openCall_released {note : Note} {history : List Note} (quiet : note.opens = false)
    (released : note.releases = true) : openCall note.command (note :: history) = false := by
  simp [openCall, quiet, released]

/-- What a row promises: a queued or pause-blocked command has no open call, nor
has a claimed one before its mark; a claimed row has a claimer whose request ends
before the row counts as abandoned. -/
structure RowValid (deployment : Deployment) (history : List Note) (command : Command) : Prop where
  pending : command.status = .pending → openCall command.id history = false
  paused : command.status = .blocked → command.failureKind = some .paused → openCall command.id history = false
  unmarked : command.status = .inProgress → command.providerCallStartedAt = none →
    openCall command.id history = false
  held : command.status = .inProgress → ∃ claimed worker, command.claimedAt = some claimed ∧
    command.holder = some worker ∧ worker.deadline ≤ claimed + deployment.requestTimeout
  free : command.status ≠ .inProgress → command.holder = none

structure StoreValid (deployment : Deployment) (store : Store) : Prop where
  keys : store.commands.map Command.id = List.range store.commands.length
  rows : ∀ id command, store.find id = some command → RowValid deployment store.history command
  absent : ∀ id, store.find id = none → openCall id store.history = false
  once : NeverReopened store.history

/-- A worker may rely on the rows it holds, and on their history, while it lives. -/
def Rely (self : Nat) (before after : Store) : Prop :=
  before.now ≤ after.now ∧ ∀ id command deadline, before.find id = some command →
    command.holder = some ⟨self, deadline⟩ → after.now ≤ deadline →
    after.find id = some command ∧ openCall id after.history = openCall id before.history

theorem rely_refl (self : Nat) (store : Store) : Rely self store store :=
  ⟨Nat.le_refl _, fun _ _ _ found _ _ => ⟨found, rfl⟩⟩

theorem rely_trans (self : Nat) {first second third : Store} (early : Rely self first second)
    (late : Rely self second third) : Rely self first third := by
  refine ⟨Nat.le_trans early.1 late.1, fun id command deadline found held alive => ?_⟩
  obtain ⟨middle, same⟩ := early.2 id command deadline found held (Nat.le_trans late.1 alive)
  obtain ⟨last, kept⟩ := late.2 id command deadline middle held alive
  exact ⟨last, kept.trans same⟩

/-- The runs considered are those in which no recovery reaches a command that was
claimed again after the recovery's scan. -/
def rules (deployment : Deployment) : Discipline Store where
  valid := StoreValid deployment
  rely := Rely
  allowed _ after := ∀ note ∈ after.history, note.reclaims = false
  refl := rely_refl
  trans := rely_trans

section Commit
variable {deployment : Deployment} {store : Store} {row old : Command} {notes : List Note}

theorem find_row_id {id : Uuid} {command : Command} (found : store.find id = some command) : command.id = id :=
  Keyed.find_key found

theorem find_commit (store : Store) (row : Command) (notes : List Note) (id : Uuid) :
    (store.commit row notes).find id =
      if row.id = id then (store.find id).map fun _ => { row with updatedAt := store.now } else store.find id :=
  Keyed.find_put _ _ _

theorem find_commit_same {id : Uuid} (found : store.find id = some old) (name : row.id = id) (notes : List Note) :
    (store.commit row notes).find id = some { row with updatedAt := store.now } := by
  rw [find_commit, if_pos name, found, Option.map_some]

theorem commit_rely {other : Nat} (found : store.find row.id = some old)
    (free : ∀ deadline, old.holder = some ⟨other, deadline⟩ → deadline < store.now)
    (about : ∀ note ∈ notes, note.command = row.id) : Rely other store (store.commit row notes) := by
  refine ⟨Nat.le_refl _, fun id command deadline present held alive => ?_⟩
  have different : row.id ≠ id := by
    rintro rfl
    rw [found] at present
    cases present
    have late := free deadline held
    have early : store.now ≤ deadline := alive
    omega
  refine ⟨?_, openCall_other fun note member => (about note member).trans_ne different⟩
  rw [find_commit, if_neg different]
  exact present

theorem commit_valid (valid : StoreValid deployment store) (found : store.find row.id = some old)
    (new : RowValid deployment (notes ++ store.history) row) (about : ∀ note ∈ notes, note.command = row.id)
    (once : NeverReopened (notes ++ store.history)) : StoreValid deployment (store.commit row notes) := by
  have others : ∀ id, row.id ≠ id → openCall id (notes ++ store.history) = openCall id store.history :=
    fun id different => openCall_other fun note member => (about note member).trans_ne different
  refine ⟨?_, fun id command present => ?_, fun id missing => ?_, once⟩
  · simp only [Store.commit, Keyed.map_key_put]
    simpa [Keyed.put] using valid.keys
  · rw [find_commit] at present
    split at present
    · obtain ⟨_, _, rfl⟩ := Option.map_eq_some_iff.mp present
      exact ⟨new.pending, new.paused, new.unmarked, new.held, new.free⟩
    next different =>
      have before := valid.rows id command present
      have name := find_row_id present
      have unchanged := others command.id (name.symm ▸ different)
      exact ⟨fun status => unchanged.trans (before.pending status),
        fun status kind => unchanged.trans (before.paused status kind),
        fun status mark => unchanged.trans (before.unmarked status mark), before.held, before.free⟩
  · rw [find_commit] at missing
    split at missing
    next same =>
      subst same
      rw [found] at missing
      cases missing
    next different => exact (others id different).trans (valid.absent id missing)

end Commit

section Settle
variable {deployment : Deployment} {store : Store} {row old : Command} {note : Note} {id : Uuid}

/-- Ending a command keeps the store valid when a row that goes back to the queue,
or waits for a pause to end, is noted as released. -/
theorem finish_valid (valid : StoreValid deployment store) (found : store.find id = some old) (name : row.id = id)
    (stopped : row.status ≠ .inProgress)
    (settled : row.status = .pending ∨ (row.status = .blocked ∧ row.failureKind = some .paused) → note.releases = true)
    (about : note.command = row.id) (quiet : note.opens = false) : StoreValid deployment (store.finish row note) := by
  have closed : note.releases = true → openCall row.id (note :: store.history) = false := fun released =>
    about ▸ openCall_released quiet released
  refine commit_valid valid (name.symm ▸ found) ⟨?_, ?_, ?_, ?_, fun _ => rfl⟩ (by simpa using about) ⟨by simp [quiet], valid.once⟩
  · exact fun status => closed (settled (.inl status))
  · exact fun status kind => closed (settled (.inr ⟨status, kind⟩))
  · exact fun status => absurd status stopped
  · exact fun status => absurd status stopped

theorem stop_valid (valid : StoreValid deployment store) (found : store.find id = some old) (name : row.id = id)
    (stopped : row.status = .voided ∨ row.status = .blockedUnapproved ∨ row.status = .cancelled)
    (free : row.holder = none) : StoreValid deployment (store.commit row []) := by
  refine commit_valid valid (name.symm ▸ found) ⟨?_, ?_, ?_, ?_, fun _ => free⟩ (by simp) valid.once
  all_goals
    intro status
    rcases stopped with stopped | stopped | stopped <;> rw [stopped] at status <;> cases status

theorem fail_valid (valid : StoreValid deployment store) (found : store.find id = some old) (same : row.id = id)
    (errorCode lastError : Option String) (now : Nat) (retryAfterSeconds : Option Nat) (reasonResetAt : Option Nat) :
    StoreValid deployment (store.fail row errorCode lastError now retryAfterSeconds reasonResetAt) := by
  obtain ⟨name, _, kind, status⟩ := row.applyFailure_cases errorCode lastError now retryAfterSeconds reasonResetAt
  refine finish_valid valid found (name.trans same) ?_ ?_ name.symm rfl
  · rcases status with status | status | ⟨status, _⟩ <;> simp [status]
  · rintro (waiting | ⟨_, paused⟩)
    · rcases status with status | status | ⟨_, transient⟩
      · rw [status] at waiting
        cases waiting
      · rw [status] at waiting
        cases waiting
      · simp [Note.releases, Note.settles, transient]
    · exact absurd paused kind

theorem fail_rely {other : Nat} (found : store.find id = some row)
    (free : ∀ deadline, row.holder = some ⟨other, deadline⟩ → deadline < store.now)
    (errorCode lastError : Option String) (now : Nat) (retryAfterSeconds reasonResetAt : Option Nat) :
    Rely other store (store.fail row errorCode lastError now retryAfterSeconds reasonResetAt) := by
  have name := find_row_id found
  apply commit_rely
  · simpa [name] using found
  · exact free
  · simp [Note.command]

end Settle

/-- The worker holds the command since `claimNow`, and has not marked its provider call. -/
def Claimed (worker : Worker) (id : Uuid) (claimNow : Nat) (store : Store) : Prop :=
  ∃ command, store.find id = some command ∧ command.holder = some worker ∧ command.status = .inProgress ∧
    command.claimedAt = some claimNow ∧ command.providerCallStartedAt = none

/-- The worker holds the command since `claimNow`. -/
def Holding (worker : Worker) (id : Uuid) (claimNow : Nat) (store : Store) : Prop :=
  ∃ command, store.find id = some command ∧ command.holder = some worker ∧ command.status = .inProgress ∧
    command.claimedAt = some claimNow

theorem Claimed.holding {worker : Worker} {id : Uuid} {claimNow : Nat} {store : Store}
    (claimed : Claimed worker id claimNow store) : Holding worker id claimNow store := by
  obtain ⟨command, found, held, status, since, _⟩ := claimed
  exact ⟨command, found, held, status, since⟩

section Requests
variable {deployment : Deployment} {worker : Worker} {id : Uuid} {before store : Store} {claimNow : Nat}

theorem commit_holding {row old : Command} {notes : List Note} (found : store.find id = some old) (name : row.id = id)
    (held : row.holder = some worker) (status : row.status = .inProgress) (since : row.claimedAt = some claimNow) :
    Holding worker id claimNow (store.commit row notes) :=
  ⟨_, find_commit_same found name notes, held, status, since⟩

theorem commit_claimed {row old : Command} {notes : List Note} (found : store.find id = some old) (name : row.id = id)
    (held : row.holder = some worker) (status : row.status = .inProgress) (since : row.claimedAt = some claimNow)
    (unmarked : row.providerCallStartedAt = none) : Claimed worker id claimNow (store.commit row notes) :=
  ⟨_, find_commit_same found name notes, held, status, since, unmarked⟩

theorem Claimed.stays (claimed : Claimed worker id claimNow before) (relied : Rely worker.index before store)
    (alive : decide (store.now ≤ worker.deadline) = true) : Claimed worker id claimNow store := by
  obtain ⟨command, found, held, status, since, mark⟩ := claimed
  exact ⟨command, (relied.2 id command worker.deadline found held (of_decide_eq_true alive)).1, held, status, since, mark⟩

theorem Holding.stays (holding : Holding worker id claimNow before) (relied : Rely worker.index before store)
    (alive : decide (store.now ≤ worker.deadline) = true) : Holding worker id claimNow store := by
  obtain ⟨command, found, held, status, since⟩ := holding
  exact ⟨command, (relied.2 id command worker.deadline found held (of_decide_eq_true alive)).1, held, status, since⟩

theorem held_elsewhere {command : Command} (held : command.holder = some worker) {other : Nat}
    (different : other ≠ worker.index) (deadline : Nat) (claimed : command.holder = some ⟨other, deadline⟩) :
    deadline < store.now := by
  rw [held] at claimed
  cases claimed
  exact absurd rfl different

/-- The rule for the actions of a worker on the row it holds: whatever a commit
writes there, the others keep what they rely on. -/
theorem holder_commit {command row : Command} {notes : List Note} (found : store.find id = some command)
    (held : command.holder = some worker) (name : row.id = id) (about : ∀ note ∈ notes, note.command = row.id)
    (other : Nat) (different : other ≠ worker.index) : Rely other store (store.commit row notes) :=
  commit_rely (name.symm ▸ found) (fun deadline => held_elsewhere held different deadline) about

theorem record_failure_keeps {command : Command} (valid : StoreValid deployment store)
    (found : store.find id = some command) (held : command.holder = some worker) (providerCalled : Bool)
    (claimNow : Nat) (answer : Answer) :
    StoreValid deployment (store.recordUnclassifiedBatchFailure id providerCalled claimNow answer) ∧
      ∀ other, other ≠ worker.index →
        Rely other store (store.recordUnclassifiedBatchFailure id providerCalled claimNow answer) := by
  unfold Store.recordUnclassifiedBatchFailure
  simp only [found]
  split
  · exact ⟨valid, fun other _ => rely_refl other store⟩
  split
  · exact ⟨valid, fun other _ => rely_refl other store⟩
  · exact ⟨fail_valid valid found (find_row_id found) _ _ _ _ _, fun _ different =>
      fail_rely found (held_elsewhere held different) _ _ _ _ _⟩

theorem conclude_keeps {command : Command} (valid : StoreValid deployment store) (found : store.find id = some command)
    (held : command.holder = some worker) (claimNow : Nat) (outcome : Outcome) :
    StoreValid deployment (store.conclude id claimNow outcome) ∧
      ∀ other, other ≠ worker.index → Rely other store (store.conclude id claimNow outcome) := by
  cases outcome with
  | escaped _ => exact ⟨valid, fun other _ => rely_refl other store⟩
  | completed clears =>
    simp only [Store.conclude, found]
    constructor
    · apply finish_valid valid found
      all_goals simp [Note.command, Note.opens, find_row_id found]
    · apply holder_commit found held
      all_goals simp [Note.command, find_row_id found]
  | containerCreated =>
    simp only [Store.conclude, found]
    constructor
    · apply finish_valid valid found
      all_goals simp [Note.command, Note.opens, Note.releases, find_row_id found]
    · apply holder_commit found held
      all_goals simp [Note.command, find_row_id found]
  | voided reasonCode lastError =>
    simp only [Store.conclude, found]
    constructor
    · apply stop_valid valid found
      all_goals simp [find_row_id found]
    · apply holder_commit found held
      all_goals simp [find_row_id found]
  | blockedUnapproved reasonCode lastError =>
    simp only [Store.conclude, found]
    constructor
    · apply stop_valid valid found
      all_goals simp [Command.markBlockedUnapproved, find_row_id found]
    · apply holder_commit found held
      all_goals simp [Command.markBlockedUnapproved, find_row_id found]
  | stoppedUnapproved reasonCode lastError =>
    simp only [Store.conclude, found]
    constructor
    · apply stop_valid valid found
      all_goals simp [find_row_id found]
    · apply holder_commit found held
      all_goals simp [find_row_id found]
  | paused reason =>
    simp only [Store.conclude, found]
    constructor
    · apply finish_valid valid found
      all_goals simp [Note.command, Note.opens, Note.releases, find_row_id found]
    · apply holder_commit found held
      all_goals simp [Note.command, find_row_id found]
  | failed errorCode lastError retryAfterSeconds reasonResetAt =>
    simp only [Store.conclude, found]
    exact ⟨fail_valid valid found (find_row_id found) _ _ _ _ _, fun _ different => fail_rely found (held_elsewhere held different) _ _ _ _ _⟩

theorem mark_keeps {command : Command} (valid : StoreValid deployment store) (found : store.find id = some command)
    (held : command.holder = some worker) (status : command.status = .inProgress)
    (unmarked : command.providerCallStartedAt = none) :
    StoreValid deployment (store.markProviderCallStarted id) ∧
      ∀ other, other ≠ worker.index → Rely other store (store.markProviderCallStarted id) := by
  have name := find_row_id found
  have row := valid.rows id command found
  simp only [Store.markProviderCallStarted, found]
  refine ⟨?_, holder_commit found held name (by simp [Note.command, name])⟩
  refine commit_valid valid (name.symm ▸ found) ⟨?_, ?_, ?_, fun _ => row.held status, row.free⟩
    (by simp [Note.command, name]) ⟨fun _ => ?_, valid.once⟩
  · exact fun queued => absurd (status.symm.trans queued) (by simp)
  · exact fun blocked => absurd (status.symm.trans blocked) (by simp)
  · exact fun _ mark => absurd mark (by simp)
  · exact name ▸ row.unmarked status unmarked

theorem mark_holding {command : Command} (found : store.find id = some command) (held : command.holder = some worker)
    (status : command.status = .inProgress) (since : command.claimedAt = some claimNow) :
    Holding worker id claimNow (store.markProviderCallStarted id) := by
  simp only [Store.markProviderCallStarted, found]
  have name := find_row_id found
  apply commit_holding found
  · exact name
  · exact held
  · exact status
  · exact since

theorem StoreValid.nodup (valid : StoreValid deployment store) : (store.commands.map Command.id).Nodup := by
  rw [valid.keys]
  exact List.nodup_range

theorem StoreValid.find_of_mem (valid : StoreValid deployment store) {command : Command}
    (member : command ∈ store.commands) : store.find command.id = some command :=
  Keyed.find_of_mem valid.nodup member

theorem claim_found (valid : StoreValid deployment store) {claimNow : Nat} {overBudget : List Uuid} {answer : Answer}
    {command : Command}
    (chosen : (store.commands.find? fun command =>
      Store.due claimNow command && !overBudget.contains command.id && !answer.locked.contains command.id) =
        some command) :
    store.find command.id = some command ∧ command.status = .pending := by
  refine ⟨valid.find_of_mem (List.mem_of_find?_eq_some chosen), ?_⟩
  have met := List.find?_some chosen
  simp only [Bool.and_eq_true, Store.due, beq_iff_eq] at met
  exact met.1.1.1.1

theorem claim_claims {budget : Nat} {overBudget : List Uuid} {answer : Answer} (valid : StoreValid deployment store)
    (claimed : (store.claim worker claimNow budget overBudget answer).1 = .claimed id) :
    Claimed worker id claimNow (store.claim worker claimNow budget overBudget answer).2 := by
  unfold Store.claim at claimed ⊢
  split at claimed
  · cases claimed
  next command chosen =>
    split at claimed
    · cases claimed
    next fits =>
      split at claimed
      · cases claimed
      next inTime =>
        cases claimed
        simp only [if_neg fits, if_neg inTime]
        exact commit_claimed (claim_found valid chosen).1 (command.claim_id worker claimNow) rfl rfl rfl rfl

end Requests

end Sprintable.Publications
