import Sprintable.Jobs.Attempts
import Sprintable.Logic.History

/-! One open job for each request key. The index of open jobs settles which of two inserts
is the first; what a call returns is the job it inserted or one that it has found open. -/

namespace Sprintable.Jobs
open Runs

namespace Queue

/-- A row of the table, committed or not, with an open job of the key. -/
def Entry (queue : Queue) (position : Nat) (key : DedupKey) : Prop :=
  ∃ row, queue.rows[position]? = some row ∧ row.insertion ≠ .rolledBack ∧ row.job.openKey = some key

def Unique (queue : Queue) : Prop :=
  ∀ key first second, queue.Entry first key → queue.Entry second key → first = second

end Queue

section Entries
variable {queue after : Queue} {key : DedupKey}

theorem taken_of_entry {position : Nat} {row : Row} (held : queue.rows[position]? = some row) (committed : row.insertion = .committed)
    (open_ : row.job.openKey = some key) : queue.taken key = true := by
  apply List.any_eq_true.mpr
  refine ⟨row, List.mem_of_getElem? held, ?_⟩
  simp [committed, open_]

theorem free_key (untaken : queue.taken key = false) (undisputed : queue.disputed key = false) (position : Nat) :
    ¬ queue.Entry position key := by
  rintro ⟨row, held, live, open_⟩
  cases insertion : row.insertion with
  | committed =>
    rw [taken_of_entry held insertion open_] at untaken
    cases untaken
  | running call =>
    have other := List.any_eq_false.mp undisputed row (List.mem_of_getElem? held)
    simp [insertion, open_] at other
  | rolledBack => exact live insertion

theorem Queue.Unique.same (unique : queue.Unique) (rows : after.rows = queue.rows) : after.Unique := by
  unfold Queue.Unique Queue.Entry
  rw [rows]
  exact unique

theorem Queue.Unique.append (unique : queue.Unique) {row : Row} (rows : after.rows = queue.rows ++ [row])
    (free : ∀ key, row.job.openKey = some key → ∀ position, ¬ queue.Entry position key) : after.Unique := by
  have cases_ : ∀ position key, after.Entry position key → queue.Entry position key ∨
      (position = queue.rows.length ∧ row.job.openKey = some key) := by
    rintro position key ⟨other, held, live, open_⟩
    rw [rows] at held
    by_cases old : position < queue.rows.length
    · rw [List.getElem?_append_left old] at held
      exact .inl ⟨other, held, live, open_⟩
    · rw [List.getElem?_append_right (by omega)] at held
      obtain ⟨inside, same⟩ := List.getElem?_eq_some_iff.mp held
      have last : position = queue.rows.length := by
        rw [List.length_singleton] at inside
        omega
      have new : other = row := by simpa using same.symm
      exact .inr ⟨last, new ▸ open_⟩
  intro key first second firstEntry secondEntry
  rcases cases_ first key firstEntry with old | ⟨last, new⟩
  · rcases cases_ second key secondEntry with other | ⟨_, open_⟩
    · exact unique key first second old other
    · exact absurd old (free key open_ first)
  · rcases cases_ second key secondEntry with old | ⟨same, _⟩
    · exact absurd old (free key new second)
    · exact last.trans same.symm

theorem Queue.Unique.rewrite (unique : queue.Unique) {target : Nat} {row : Row} {job : BackgroundJob}
    (held : queue.rows[target]? = some row) (rows : after.rows = queue.rows.set target { row with job })
    (free : ∀ key, job.openKey = some key → job.openKey = row.job.openKey ∨ ∀ position, ¬ queue.Entry position key) :
    after.Unique := by
  have inside : target < queue.rows.length := (List.getElem?_eq_some_iff.mp held).1
  have cases_ : ∀ position key, after.Entry position key → queue.Entry position key ∨
      (position = target ∧ ∀ other, ¬ queue.Entry other key) := by
    rintro position key ⟨other, there, live, open_⟩
    rw [rows] at there
    by_cases same : position = target
    · rw [same, List.getElem?_set_self inside] at there
      cases there
      rcases free key open_ with keeps | new
      · exact .inl ⟨row, same ▸ held, live, keeps ▸ open_⟩
      · exact .inr ⟨same, new⟩
    · rw [List.getElem?_set_ne (Ne.symm same)] at there
      exact .inl ⟨other, there, live, open_⟩
  intro key first second firstEntry secondEntry
  rcases cases_ first key firstEntry with old | ⟨same, new⟩
  · rcases cases_ second key secondEntry with other | ⟨_, new⟩
    · exact unique key first second old other
    · exact absurd old (new first)
  · rcases cases_ second key secondEntry with old | ⟨other, _⟩
    · exact absurd old (new second)
    · exact same.trans other.symm

theorem Queue.Unique.close (unique : queue.Unique) (position : Nat) (call : EnqueueCall) {insertion : Insertion} :
    (queue.close position call insertion).Unique := by
  have before : ∀ other key, (queue.close position call insertion).Entry other key → queue.Entry other key := by
    rintro other key ⟨row, held, live, open_⟩
    unfold Queue.close at held
    rw [List.getElem?_map] at held
    obtain ⟨old, there, same⟩ := Option.map_eq_some_iff.mp held
    refine ⟨old, there, ?_, ?_⟩
    · intro gone
      rw [gone] at same
      simp at same
      exact live (same ▸ gone)
    · split at same
      · rw [← same] at open_
        exact open_
      · rw [← same] at open_
        exact open_
  intro key first second firstEntry secondEntry
  exact unique key first second (before first key firstEntry) (before second key secondEntry)

end Entries

section Keys
variable {job : BackgroundJob}

theorem openKey_claim {now : Nat} (due : job.due now = true) : (job.claim now).openKey = job.openKey := by
  have open_ : job.isOpen = true := by
    simp only [BackgroundJob.due, Bool.or_eq_true, Bool.and_eq_true, decide_eq_true_eq] at due
    rcases due with ⟨pending, _⟩ | ⟨progress, _⟩
    · simp [BackgroundJob.isOpen, pending]
    · simp [BackgroundJob.isOpen, progress]
  have still : (job.claim now).isOpen = true := rfl
  unfold BackgroundJob.openKey
  rw [open_, still]
  rfl

theorem openKey_complete (loaded : BackgroundJob) (result : String) (now : Nat) {key : DedupKey}
    (open_ : (job.flush loaded (loaded.complete result now)).openKey = some key) :
    (job.flush loaded (loaded.complete result now)).openKey = job.openKey := by
  by_cases same : JobStatus.completed = loaded.status
  · simp [BackgroundJob.openKey, BackgroundJob.isOpen, BackgroundJob.flush, BackgroundJob.complete, same]
  · simp [BackgroundJob.openKey, BackgroundJob.isOpen, BackgroundJob.flush, BackgroundJob.complete, same] at open_

end Keys

section Uniqueness
variable {queue : Queue}

theorem Queue.Unique.addRow (unique : queue.Unique) (position : Nat) (call : EnqueueCall)
    (free : ∀ key, call.job.openKey = some key → ∀ other, ¬ queue.Entry other key) : (queue.addRow position call).Unique := by
  have rows : (queue.addRow position call).rows = queue.rows ++ [{ job := call.job, insertion := .running position }] := rfl
  exact unique.append rows free

theorem Queue.Unique.insert (unique : queue.Unique) (position : Nat) (call : EnqueueCall) (tries : Nat) :
    (queue.insert position call tries).Unique := by
  unfold Queue.insert
  split
  next none_ =>
    apply unique.addRow
    intro key some_
    cases none_.symm.trans some_
  next key some_ =>
    split
    · exact unique.same rfl
    split
    · exact unique
    · next untaken undisputed =>
      apply unique.addRow
      intro other same
      cases some_.symm.trans same
      exact free_key (by simpa using untaken) (by simpa using undisputed)

theorem Queue.Unique.settle (unique : queue.Unique) {position : Nat} {worker : Worker} {row : Row}
    (held : queue.rows[worker.job]? = some row) (changed : BackgroundJob) : (queue.settle position worker row changed).Unique := by
  unfold Queue.settle
  dsimp only
  split
  next same => exact unique.rewrite held rfl fun _ _ => .inl same
  split
  next none_ =>
    apply unique.rewrite held rfl
    intro key some_
    cases none_.symm.trans some_
  next key some_ =>
    split
    · exact unique.same rfl
    split
    · exact unique
    · next untaken undisputed =>
      apply unique.rewrite held rfl
      intro other same
      cases some_.symm.trans same
      exact .inr (free_key (by simpa using untaken) (by simpa using undisputed))

theorem Queue.Unique.step (unique : queue.Unique) (event : QueueEvent) : (queue.step event).Unique := by
  cases event with
  | enqueue orgId kind member key => exact unique.same rfl
  | insert position =>
    simp only [Queue.step]
    split
    · split
      · exact unique.insert position _ _
      · exact unique
    · exact unique
  | look position =>
    simp only [Queue.step]
    split
    · split
      · unfold Queue.look
        split
        · exact unique.same rfl
        · exact unique.same rfl
      · exact unique
    · exact unique
  | read position =>
    simp only [Queue.step]
    split
    · split
      · exact unique.same rfl
      · exact unique
    · exact unique
  | commit position =>
    simp only [Queue.step]
    split
    · split
      · exact unique.close position _
      · exact unique
    · exact unique
  | rollBack position =>
    simp only [Queue.step]
    split
    · split
      · exact unique
      · exact unique.close position _
    · exact unique
  | claim position now =>
    simp only [Queue.step]
    split
    next row found =>
      obtain ⟨held, meets⟩ := Option.filter_eq_some_iff.mp found
      simp only [Bool.and_eq_true] at meets
      exact unique.rewrite held rfl fun _ _ => .inl (openKey_claim meets.1.2)
    · exact unique
  | handled position result now =>
    simp only [Queue.step]
    split
    next worker row found =>
      obtain ⟨_, _, held⟩ := working_spec found
      exact unique.rewrite held rfl fun _ open_ => .inl (openKey_complete worker.loaded result now open_)
    · exact unique
  | raised position =>
    simp only [Queue.step]
    split
    · exact unique.same rfl
    · exact unique
  | settle position errorBody raised now =>
    simp only [Queue.step]
    split
    next worker row found => exact unique.settle (working_spec found).2.2 _
    · exact unique
  | crash position =>
    simp only [Queue.step]
    split
    · exact unique.same rfl
    · exact unique

end Uniqueness

/-! What the calls have met. -/

/-- A try of the call found an open job of its key in the way of the insert. -/
def Blocked (events : List QueueEvent) (position : Nat) (key : DedupKey) (tries : Nat) : Prop :=
  Sometime Queue.step {} events fun queue =>
    (∃ call, queue.calls[position]? = some call ∧ call.phase = .inserting tries) ∧ queue.taken key = true

/-- The lookup of the try found no open job of the key. -/
def Missed (events : List QueueEvent) (position : Nat) (key : DedupKey) (tries : Nat) : Prop :=
  Sometime Queue.step {} events fun queue =>
    (∃ call, queue.calls[position]? = some call ∧ call.phase = .looking tries) ∧ queue.openJob key = none

def FoundOpen (events : List QueueEvent) (position : Nat) (key : DedupKey) (job : Nat) : Prop :=
  Sometime Queue.step {} events fun queue =>
    (∃ call tries, queue.calls[position]? = some call ∧ call.phase = .looking tries) ∧
    ∃ row, queue.rows[job]? = some row ∧ row.insertion = .committed ∧ row.job.openKey = some key

/-- What has led a call to its phase. -/
def Led (events : List QueueEvent) (position : Nat) (call : EnqueueCall) : Prop :=
  match call.phase with
  | .inserting tries => tries = 2 ∨ tries = 1 ∧ ∃ key, call.job.openKey = some key ∧ Blocked events position key 2 ∧ Missed events position key 2
  | .looking tries => ∃ key, call.job.openKey = some key ∧ Blocked events position key tries ∧
      (tries = 2 ∨ tries = 1 ∧ Blocked events position key 2 ∧ Missed events position key 2)
  | .found job | .returned job => call.inserted = some job ∨ ∃ key, call.job.openKey = some key ∧ FoundOpen events position key job
  | .raised => call.kind ∉ HANDLERS ∨
      ∃ key, call.job.openKey = some key ∧ ∀ tries ∈ [2, 1], Blocked events position key tries ∧ Missed events position key tries

section Histories
variable {events : List QueueEvent} {position : Nat} {call : EnqueueCall}

theorem Led.later (led : Led events position call) (event : QueueEvent) : Led (events ++ [event]) position call := by
  unfold Led at led ⊢
  cases phase : call.phase with
  | inserting tries =>
    rw [phase] at led
    rcases led with fresh | ⟨last, key, own, blocked, missed⟩
    · exact .inl fresh
    · exact .inr ⟨last, key, own, blocked.later event, missed.later event⟩
  | looking tries =>
    rw [phase] at led
    obtain ⟨key, own, blocked, fresh | ⟨last, early, missed⟩⟩ := led
    · exact ⟨key, own, blocked.later event, .inl fresh⟩
    · exact ⟨key, own, blocked.later event, .inr ⟨last, early.later event, missed.later event⟩⟩
  | found job =>
    rw [phase] at led
    rcases led with inserted | ⟨key, own, open_⟩
    · exact .inl inserted
    · exact .inr ⟨key, own, open_.later event⟩
  | returned job =>
    rw [phase] at led
    rcases led with inserted | ⟨key, own, open_⟩
    · exact .inl inserted
    · exact .inr ⟨key, own, open_.later event⟩
  | raised =>
    rw [phase] at led
    rcases led with unknown | ⟨key, own, tried⟩
    · exact .inl unknown
    · refine .inr ⟨key, own, ?_⟩
      intro tries member
      obtain ⟨blocked, missed⟩ := tried tries member
      exact ⟨blocked.later event, missed.later event⟩

end Histories

/-- Every call was led to its phase. -/
def Told (events : List QueueEvent) (queue : Queue) : Prop :=
  ∀ (position : Nat) (call : EnqueueCall), queue.calls[position]? = some call → Led events position call

section Calls
variable {events : List QueueEvent} {queue after : Queue} {event : QueueEvent} {position tries : Nat} {call : EnqueueCall}

theorem Told.same (told : Told events queue) (calls : after.calls = queue.calls) : Told (events ++ [event]) after := by
  intro position call held
  rw [calls] at held
  exact (told position call held).later event

theorem Told.set (told : Told events queue) {changed : EnqueueCall} (calls : after.calls = queue.calls.set position changed)
    (led : Led (events ++ [event]) position changed) : Told (events ++ [event]) after := by
  intro other call held
  rw [calls] at held
  by_cases same : other = position
  · rw [same] at held ⊢
    by_cases inside : position < queue.calls.length
    · rw [List.getElem?_set_self inside] at held
      cases held
      exact led
    · rw [List.getElem?_eq_none (by simpa using inside)] at held
      cases held
  · rw [List.getElem?_set_ne (Ne.symm same)] at held
    exact (told other call held).later event

theorem openJob_spec {key : DedupKey} {job : Nat} (found : queue.openJob key = some job) :
    ∃ row, queue.rows[job]? = some row ∧ row.insertion = .committed ∧ row.job.openKey = some key := by
  obtain ⟨inside, meets, _⟩ := List.findIdx?_eq_some_iff_getElem.mp found
  simp only [Bool.and_eq_true, decide_eq_true_eq] at meets
  exact ⟨queue.rows[job], List.getElem?_eq_getElem inside, meets.1, meets.2⟩

theorem Told.addRow (told : Told events queue) : Told (events ++ [event]) (queue.addRow position call) := by
  apply told.set rfl
  exact .inl rfl

theorem Told.insert (told : Told events (final Queue.step {} events))
    (held : (final Queue.step {} events).calls[position]? = some call) (phase : call.phase = .inserting tries) :
    Told (events ++ [event]) ((final Queue.step {} events).insert position call tries) := by
  have led := told position call held
  unfold Led at led
  rw [phase] at led
  unfold Queue.insert
  split
  · exact told.addRow
  next key own =>
    split
    · next taken =>
      apply told.set rfl
      have blocked : Blocked events position key tries := Sometime.now ⟨⟨call, held, phase⟩, taken⟩
      refine ⟨key, own, blocked.later event, ?_⟩
      rcases led with fresh | ⟨last, other, same, early, missed⟩
      · exact .inl fresh
      · cases own.symm.trans same
        exact .inr ⟨last, early.later event, missed.later event⟩
    split
    · exact told.same rfl
    · exact told.addRow

theorem Told.look (told : Told events (final Queue.step {} events))
    (held : (final Queue.step {} events).calls[position]? = some call) (phase : call.phase = .looking tries) :
    Told (events ++ [event]) ((final Queue.step {} events).look position call tries) := by
  have led := told position call held
  unfold Led at led
  rw [phase] at led
  obtain ⟨key, own, blocked, before⟩ := led
  unfold Queue.look
  rw [own, Option.bind_some]
  split
  next job found =>
    apply told.set rfl
    obtain ⟨row, there, committed, open_⟩ := openJob_spec found
    have seen : FoundOpen events position key job := Sometime.now ⟨⟨call, tries, held, phase⟩, row, there, committed, open_⟩
    exact .inr ⟨key, own, seen.later event⟩
  next none_ =>
    have missed : Missed events position key tries := Sometime.now ⟨⟨call, held, phase⟩, none_⟩
    apply told.set rfl
    rcases before with rfl | ⟨rfl, early, gone⟩
    · exact .inr ⟨rfl, key, own, blocked.later event, missed.later event⟩
    · refine .inr ⟨key, own, ?_⟩
      intro tries member
      simp only [List.mem_cons, List.not_mem_nil, or_false] at member
      rcases member with rfl | rfl
      · exact ⟨early.later event, gone.later event⟩
      · exact ⟨blocked.later event, missed.later event⟩

theorem Told.close (told : Told events queue) (held : queue.calls[position]? = some call) (insertion : Insertion) :
    Told (events ++ [event]) (queue.close position call insertion) := by
  apply told.set rfl
  exact (told position call held).later event

theorem Told.enqueue (told : Told events queue) (orgId : Nat) (kind : String) (member : Nat) (key : Option String) :
    Told (events ++ [event]) (queue.enqueue orgId kind member key) := by
  intro position call held
  simp only [Queue.enqueue] at held
  by_cases old : position < queue.calls.length
  · rw [List.getElem?_append_left old] at held
    exact (told position call held).later event
  · rw [List.getElem?_append_right (by omega)] at held
    obtain ⟨_, same⟩ := List.getElem?_eq_some_iff.mp held
    simp only [List.getElem_singleton] at same
    rw [← same]
    by_cases known : kind ∈ HANDLERS
    · rw [if_pos known]
      exact .inl rfl
    · rw [if_neg known]
      exact .inl known

theorem Told.step (events : List QueueEvent) (event : QueueEvent) (told : Told events (final Queue.step {} events)) :
    Told (events ++ [event]) ((final Queue.step {} events).step event) := by
  cases event with
  | enqueue orgId kind member key => exact told.enqueue orgId kind member key
  | insert position =>
    simp only [Queue.step]
    split
    next call held =>
      split
      next phase => exact told.insert held phase
      next => exact told.same rfl
    next => exact told.same rfl
  | look position =>
    simp only [Queue.step]
    split
    next call held =>
      split
      next phase => exact told.look held phase
      next => exact told.same rfl
    next => exact told.same rfl
  | read position =>
    simp only [Queue.step]
    split
    next call held =>
      split
      next job open_ phase =>
        have led := (told position call held).later (.read position)
        unfold Led at led
        rw [phase] at led
        apply told.set rfl
        exact led
      next => exact told.same rfl
    next => exact told.same rfl
  | commit position =>
    simp only [Queue.step]
    split
    next call held =>
      split
      next => exact told.close held _
      next => exact told.same rfl
    next => exact told.same rfl
  | rollBack position =>
    simp only [Queue.step]
    split
    next call held =>
      split
      next => exact told.same rfl
      next => exact told.close held _
    next => exact told.same rfl
  | claim position now =>
    simp only [Queue.step]
    split
    · exact told.same rfl
    · exact told.same rfl
  | handled position result now =>
    simp only [Queue.step]
    split
    · exact told.same rfl
    · exact told.same rfl
  | raised position =>
    simp only [Queue.step]
    split
    · exact told.same rfl
    · exact told.same rfl
  | settle position errorBody raised now =>
    simp only [Queue.step]
    split
    · apply told.same
      unfold Queue.settle
      dsimp only
      repeat' split
      all_goals rfl
    · exact told.same rfl
  | crash position =>
    simp only [Queue.step]
    split
    · exact told.same rfl
    · exact told.same rfl

end Calls

/-- What holds of the request keys after a run: at most one job of a key is pending or in progress;
a call returns the job that it inserted, or one of its key that was open during the call; and a
call for a known kind fails only if at each of its two tries an open job stood in the way of its
insert and was no longer open for its lookup. -/
structure OneOpenJob (events : List QueueEvent) (queue : Queue) : Prop where
  unique : ∀ key first second, queue.Entry first key → queue.Entry second key → first = second
  returns : ∀ (position : Nat) (call : EnqueueCall) (job : Nat), queue.calls[position]? = some call →
    call.phase = .returned job →
    call.inserted = some job ∨ ∃ key, call.job.openKey = some key ∧ FoundOpen events position key job
  fails : ∀ (position : Nat) (call : EnqueueCall), queue.calls[position]? = some call → call.phase = .raised →
    call.kind ∉ HANDLERS ∨
      ∃ key, call.job.openKey = some key ∧ ∀ tries ∈ [2, 1], Blocked events position key tries ∧ Missed events position key tries

theorem one_open_job (events : List QueueEvent) : OneOpenJob events (final Queue.step {} events) := by
  have unique : (final Queue.step {} events).Unique := by
    apply recorded fun (_ : List QueueEvent) queue => Queue.Unique queue
    · rintro key first second ⟨row, held, _⟩
      cases held
    · intro events event unique
      exact unique.step event
  have told : Told events (final Queue.step {} events) := by
    apply recorded Told
    · intro position call held
      cases held
    · exact Told.step
  refine ⟨unique, ?_, ?_⟩
  · intro position call job held phase
    have led := told position call held
    unfold Led at led
    rw [phase] at led
    exact led
  · intro position call held phase
    have led := told position call held
    unfold Led at led
    rw [phase] at led
    exact led

/-- Twice the open job ends between the insert and the lookup, and the call fails. -/
theorem both_tries_lost :
    ¬ ∀ events : List QueueEvent, ∀ call ∈ (final Queue.step {} events).calls, call.kind ∈ HANDLERS → call.phase ≠ .raised := by
  intro returns
  have lost := returns
    [.enqueue 1 "retro_synthesis" 7 (some "retro:3:synthesize"), .insert 0, .read 0, .commit 0,
      .enqueue 1 "retro_synthesis" 7 (some "retro:3:synthesize"), .insert 1, .claim 0 100, .handled 0 "done" 110, .look 1,
      .enqueue 1 "retro_synthesis" 7 (some "retro:3:synthesize"), .insert 2, .read 2, .commit 2,
      .insert 1, .claim 1 120, .handled 1 "done" 130, .look 1]
  exact absurd lost (by decide)

end Sprintable.Jobs
