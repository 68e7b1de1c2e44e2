import Sprintable.Jobs.Queue

/-! How often a job is worked on. The lease of a worker may lapse while it still runs, and it
writes the end of its attempt by the job's id; where no such write finds the job at its end, and
no worker takes a job that has had all of its attempts, a job takes effect once and for all. -/

namespace Sprintable.Jobs
open Runs

def BackgroundJob.ended (job : BackgroundJob) : Bool := job.status = .completed || job.status = .failed

namespace Queue

def jobs (queue : Queue) : List BackgroundJob := queue.rows.map Row.job

/-- A worker takes a job only while it has attempts left, and writes the end of an attempt only
to a job that nobody has completed or failed meanwhile. -/
def Orderly (queue : Queue) : QueueEvent → Prop
  | .claim position now => ∀ row ∈ queue.claimable position now, row.job.attemptCount < MAX_ATTEMPTS
  | .handled position _ _ => ∀ found ∈ queue.working position .handling, found.2.job.ended = false
  | .settle position _ _ _ => ∀ found ∈ queue.working position .failing, found.2.job.ended = false
  | .enqueue .. | .insert _ | .look _ | .read _ | .commit _ | .rollBack _ | .raised _ | .crash _ => True

instance (queue : Queue) (event : QueueEvent) : Decidable (queue.Orderly event) := by
  cases event <;> unfold Orderly <;> infer_instance

/-- A job that has ended keeps its status, its result and its error. -/
def KeepsEnds (before after : Queue) : Prop :=
  ∀ (position : Nat) (job : BackgroundJob), before.jobs[position]? = some job → job.ended = true →
    ∃ later, after.jobs[position]? = some later ∧
      later.status = job.status ∧ later.result = job.result ∧ later.error = job.error

/-- The effects of a handler are committed at most once, it is started at most `MAX_ATTEMPTS`
times, and the end of a job is final. -/
structure OnceAndForAll (before after : Queue) : Prop where
  effects : ∀ job : Nat, after.effects.count job ≤ 1
  starts : ∀ job : Nat, after.started.count job ≤ MAX_ATTEMPTS
  ends : before.KeepsEnds after

end Queue

/-! What the events leave of the jobs. -/

section Lookups
variable {queue : Queue} {position now : Nat} {row : Row} {worker : Worker} {phase : WorkerPhase}

theorem jobs_get (found : queue.rows[position]? = some row) : queue.jobs[position]? = some row.job := by
  unfold Queue.jobs
  rw [List.getElem?_map, found]
  rfl

theorem jobs_set (row : Row) (job : BackgroundJob) :
    (queue.setJob position row job).jobs = queue.jobs.set position job := by
  unfold Queue.jobs Queue.setJob
  rw [List.map_set]

theorem claimable_spec (found : queue.claimable position now = some row) :
    queue.rows[position]? = some row ∧ row.insertion = .committed ∧ row.job.due now = true := by
  obtain ⟨held, meets⟩ := Option.filter_eq_some_iff.mp found
  simp only [Bool.and_eq_true, decide_eq_true_eq] at meets
  exact ⟨held, meets.1.1, meets.1.2⟩

theorem working_spec (found : queue.working position phase = some (worker, row)) :
    queue.workers[position]? = some worker ∧ worker.phase = phase ∧ queue.rows[worker.job]? = some row := by
  unfold Queue.working at found
  obtain ⟨other, held, rest⟩ := Option.bind_eq_some_iff.mp found
  obtain ⟨there, same, pair⟩ := Option.bind_eq_some_iff.mp rest
  cases pair
  obtain ⟨present, meets⟩ := Option.filter_eq_some_iff.mp held
  exact ⟨present, by simpa using meets, same⟩

theorem due_open {job : BackgroundJob} (due : job.due now = true) : job.status = .pending ∨ job.status = .inProgress := by
  unfold BackgroundJob.due at due
  simp only [Bool.or_eq_true, Bool.and_eq_true, decide_eq_true_eq] at due
  exact due.imp And.left And.left

end Lookups

/-- The records of a job agree with its row. -/
structure Recorded (queue : Queue) (position : Nat) (job : BackgroundJob) : Prop where
  starts : queue.started.count position = job.attemptCount
  attempts : job.attemptCount ≤ MAX_ATTEMPTS
  effects : queue.effects.count position = if job.status = .completed then 1 else 0

structure Sound (queue : Queue) : Prop where
  recorded : ∀ (position : Nat) (job : BackgroundJob), queue.jobs[position]? = some job → Recorded queue position job
  unused : ∀ position, queue.jobs.length ≤ position → position ∉ queue.started ∧ position ∉ queue.effects
  handling : ∀ worker ∈ queue.workers, worker.phase = .handling → worker.loaded.status = .inProgress

/-- A step keeps the records in order, and the ends of the jobs. -/
structure Advance (queue after : Queue) : Prop where
  sound : Sound after
  ends : queue.KeepsEnds after

theorem Sound.stays {queue : Queue} (sound : Sound queue) : Advance queue queue :=
  ⟨sound, fun _ job held _ => ⟨job, held, rfl, rfl, rfl⟩⟩

section Steps
variable {queue after : Queue}

theorem Sound.quiet (sound : Sound queue) (jobs : after.jobs = queue.jobs) (started : after.started = queue.started)
    (effects : after.effects = queue.effects)
    (workers : ∀ worker ∈ after.workers, worker.phase = .handling → worker ∈ queue.workers) : Advance queue after := by
  refine ⟨?_, fun position job held _ => ⟨job, jobs ▸ held, rfl, rfl, rfl⟩⟩
  constructor
  · intro position job held
    rw [jobs] at held
    obtain ⟨starts, attempts, taken⟩ := sound.recorded position job held
    exact ⟨by rw [started]; exact starts, attempts, by rw [effects]; exact taken⟩
  · intro position beyond
    rw [jobs] at beyond
    rw [started, effects]
    exact sound.unused position beyond
  · intro worker inside handling
    exact sound.handling worker (workers worker inside handling) handling

theorem Sound.add (sound : Sound queue) {job : BackgroundJob} (fresh : job.attemptCount = 0) (pending : job.status = .pending)
    (jobs : after.jobs = queue.jobs ++ [job]) (started : after.started = queue.started)
    (effects : after.effects = queue.effects) (workers : after.workers = queue.workers) : Advance queue after := by
  refine ⟨?_, fun position other held _ => ⟨other, ?_, rfl, rfl, rfl⟩⟩
  · constructor
    · intro position other held
      rw [jobs] at held
      by_cases old : position < queue.jobs.length
      · rw [List.getElem?_append_left old] at held
        obtain ⟨starts, attempts, taken⟩ := sound.recorded position other held
        exact ⟨by rw [started]; exact starts, attempts, by rw [effects]; exact taken⟩
      · rw [List.getElem?_append_right (by omega)] at held
        obtain ⟨_, same⟩ := List.getElem?_eq_some_iff.mp held
        have new : other = job := by simpa using same.symm
        obtain ⟨unstarted, uncommitted⟩ := sound.unused position (by omega)
        rw [new]
        refine ⟨?_, by omega, ?_⟩
        · rw [started, fresh]
          exact List.count_eq_zero.mpr unstarted
        · rw [effects, pending]
          exact List.count_eq_zero.mpr uncommitted
    · intro position beyond
      rw [jobs, List.length_append] at beyond
      rw [started, effects]
      exact sound.unused position (by omega)
    · intro worker inside handling
      rw [workers] at inside
      exact sound.handling worker inside handling
  · have inside := (List.getElem?_eq_some_iff.mp held).1
    rw [jobs, List.getElem?_append_left inside]
    exact held

theorem Sound.rewrite (sound : Sound queue) {target : Nat} {job : BackgroundJob} (jobs : after.jobs = queue.jobs.set target job)
    (recorded : Recorded after target job)
    (others : ∀ position, position ≠ target → after.started.count position = queue.started.count position ∧
      after.effects.count position = queue.effects.count position)
    {before : BackgroundJob} (there : queue.jobs[target]? = some before) (running : before.ended = false)
    (workers : ∀ worker ∈ after.workers, worker.phase = .handling → worker.loaded.status = .inProgress) : Advance queue after := by
  have inside : target < queue.jobs.length := (List.getElem?_eq_some_iff.mp there).1
  refine ⟨?_, fun position other held ended => ⟨other, ?_, rfl, rfl, rfl⟩⟩
  · constructor
    · intro position other held
      by_cases same : position = target
      · rw [jobs, same, List.getElem?_set_self inside] at held
        cases held
        rw [same]
        exact recorded
      · rw [jobs, List.getElem?_set_ne (Ne.symm same)] at held
        obtain ⟨starts, attempts, taken⟩ := sound.recorded position other held
        obtain ⟨startsSame, effectsSame⟩ := others position same
        exact ⟨startsSame.trans starts, attempts, effectsSame.trans taken⟩
    · intro position beyond
      rw [jobs, List.length_set] at beyond
      have other : position ≠ target := by omega
      obtain ⟨unstarted, uncommitted⟩ := sound.unused position beyond
      obtain ⟨startsSame, effectsSame⟩ := others position other
      constructor
      · apply List.count_eq_zero.mp
        rw [startsSame]
        exact List.count_eq_zero.mpr unstarted
      · apply List.count_eq_zero.mp
        rw [effectsSame]
        exact List.count_eq_zero.mpr uncommitted
    · exact workers
  · have different : target ≠ position := by
      rintro rfl
      cases there.symm.trans held
      rw [running] at ended
      cases ended
    rw [jobs, List.getElem?_set_ne different]
    exact held

end Steps

section Events
variable {queue : Queue}

theorem Sound.setCall (sound : Sound queue) (position : Nat) (call : EnqueueCall) :
    Advance queue (queue.setCall position call) :=
  sound.quiet rfl rfl rfl fun _ inside _ => inside

theorem Sound.setWorker (sound : Sound queue) (position : Nat) {worker : Worker} (idle : worker.phase ≠ .handling) :
    Advance queue (queue.setWorker position worker) := by
  refine (sound.quiet rfl rfl rfl ?_ : Advance queue (queue.setWorker position worker))
  intro other inside handling
  rcases List.mem_or_eq_of_mem_set inside with held | rfl
  · exact held
  · exact absurd handling idle

theorem Sound.addRow (sound : Sound queue) (position : Nat) (call : EnqueueCall) :
    Advance queue (queue.addRow position call) := by
  have jobs : (queue.addRow position call).jobs = queue.jobs ++ [call.job] := by
    unfold Queue.jobs Queue.addRow
    rw [List.map_append]
    rfl
  exact sound.add rfl rfl jobs rfl rfl rfl

theorem close_jobs (position : Nat) (call : EnqueueCall) (insertion : Insertion) :
    (queue.close position call insertion).jobs = queue.jobs := by
  unfold Queue.jobs Queue.close
  rw [List.map_map]
  apply List.map_congr_left
  intro row _
  simp only [Function.comp_apply]
  split
  · rfl
  · rfl

theorem Sound.insert (sound : Sound queue) (position : Nat) (call : EnqueueCall) (tries : Nat) :
    Advance queue (queue.insert position call tries) := by
  unfold Queue.insert
  split
  · exact sound.addRow position call
  split
  · exact sound.setCall position _
  split
  · exact sound.stays
  · exact sound.addRow position call

theorem Sound.claim (sound : Sound queue) {position now : Nat} {row : Row} (found : queue.claimable position now = some row)
    (left_ : row.job.attemptCount < MAX_ATTEMPTS) : Advance queue (queue.claim position row now) := by
  obtain ⟨held, -, due⟩ := claimable_spec found
  have recorded := sound.recorded position row.job (jobs_get held)
  have jobs : (queue.claim position row now).jobs = queue.jobs.set position (row.job.claim now) := jobs_set _ _
  apply sound.rewrite jobs
  · constructor
    · change (queue.started ++ [position]).count position = row.job.attemptCount + 1
      rw [List.count_append, recorded.starts, List.count_singleton_self]
    · exact left_
    · have uncommitted : row.job.status ≠ .completed := by
        rcases due_open due with pending | progress
        · simp [pending]
        · simp [progress]
      change queue.effects.count position = _
      rw [recorded.effects, if_neg uncommitted]
      rfl
  · intro other different
    constructor
    · change (queue.started ++ [position]).count other = _
      rw [List.count_append, List.count_singleton, if_neg (by simpa using Ne.symm different)]
      rfl
    · rfl
  · exact jobs_get held
  · rcases due_open due with pending | progress
    · simp [BackgroundJob.ended, pending]
    · simp [BackgroundJob.ended, progress]
  · intro worker member handling
    rcases List.mem_append.mp member with old | new
    · exact sound.handling worker old handling
    · rw [List.mem_singleton.mp new]
      rfl

theorem Sound.handled (sound : Sound queue) {position : Nat} {worker : Worker} {row : Row}
    (found : queue.working position .handling = some (worker, row)) (running : row.job.ended = false)
    (result : String) (now : Nat) : Advance queue (queue.handled position worker row result now) := by
  obtain ⟨there, phase, held⟩ := working_spec found
  have recorded := sound.recorded worker.job row.job (jobs_get held)
  have loaded := sound.handling worker (List.mem_of_getElem? there) phase
  have status : (row.job.flush worker.loaded (worker.loaded.complete result now)).status = .completed := by
    simp [BackgroundJob.flush, BackgroundJob.complete, loaded]
  have jobs : (queue.handled position worker row result now).jobs =
      queue.jobs.set worker.job (row.job.flush worker.loaded (worker.loaded.complete result now)) := jobs_set _ _
  apply sound.rewrite jobs
  · constructor
    · exact recorded.starts
    · exact recorded.attempts
    · have uncommitted : row.job.status ≠ .completed := by
        intro completed
        simp [BackgroundJob.ended, completed] at running
      change (queue.effects ++ [worker.job]).count worker.job = _
      rw [List.count_append, recorded.effects, List.count_singleton_self, if_neg uncommitted, if_pos status]
  · intro other different
    constructor
    · rfl
    · change (queue.effects ++ [worker.job]).count other = _
      rw [List.count_append, List.count_singleton, if_neg (by simpa using Ne.symm different)]
      rfl
  · exact jobs_get held
  · exact running
  · intro other member handling
    rcases List.mem_or_eq_of_mem_set member with old | rfl
    · exact sound.handling other old handling
    · cases handling

theorem giveBack_status (job : BackgroundJob) (attempt : Nat) (errorBody : Option String) (raised : String) (now : Nat) :
    (job.giveBack attempt errorBody raised now).status ≠ .completed := by
  unfold BackgroundJob.giveBack
  split
  · simp
  split
  · simp
  · simp

theorem Sound.written (sound : Sound queue) {position : Nat} {worker : Worker} {row : Row}
    (held : queue.rows[worker.job]? = some row) (running : row.job.ended = false) {changed : BackgroundJob}
    (open_ : changed.status ≠ .completed) :
    Advance queue ((queue.setJob worker.job row (row.job.flush worker.loaded changed)).setWorker position { worker with phase := .gone }) := by
  have recorded := sound.recorded worker.job row.job (jobs_get held)
  have uncommitted : row.job.status ≠ .completed := by
    intro completed
    simp [BackgroundJob.ended, completed] at running
  have status : (row.job.flush worker.loaded changed).status ≠ .completed := by
    simp only [BackgroundJob.flush]
    split
    · exact uncommitted
    · exact open_
  have jobs : ((queue.setJob worker.job row (row.job.flush worker.loaded changed)).setWorker position
      { worker with phase := .gone }).jobs = queue.jobs.set worker.job (row.job.flush worker.loaded changed) := jobs_set _ _
  apply sound.rewrite jobs
  · constructor
    · exact recorded.starts
    · exact recorded.attempts
    · change queue.effects.count worker.job = _
      rw [recorded.effects, if_neg uncommitted, if_neg status]
  · intro other different
    exact ⟨rfl, rfl⟩
  · exact jobs_get held
  · exact running
  · intro other member handling
    rcases List.mem_or_eq_of_mem_set member with old | rfl
    · exact sound.handling other old handling
    · cases handling

theorem Sound.settle (sound : Sound queue) {position : Nat} {worker : Worker} {row : Row}
    (found : queue.working position .failing = some (worker, row)) (running : row.job.ended = false)
    {changed : BackgroundJob} (open_ : changed.status ≠ .completed) : Advance queue (queue.settle position worker row changed) := by
  obtain ⟨there, phase, held⟩ := working_spec found
  unfold Queue.settle
  dsimp only
  split
  · exact sound.written held running open_
  split
  · exact sound.written held running open_
  split
  · exact sound.setWorker position (by simp)
  split
  · exact sound.stays
  · exact sound.written held running open_

theorem Sound.step (queue : Queue) (event : QueueEvent) (orderly : queue.Orderly event) (sound : Sound queue) :
    Advance queue (queue.step event) := by
  cases event with
  | enqueue orgId kind member key => exact sound.quiet rfl rfl rfl fun _ inside _ => inside
  | insert position =>
    simp only [Queue.step]
    split
    · split
      · exact sound.insert position _ _
      · exact sound.stays
    · exact sound.stays
  | look position =>
    simp only [Queue.step]
    split
    · split
      · unfold Queue.look
        split
        · exact sound.setCall position _
        · exact sound.setCall position _
      · exact sound.stays
    · exact sound.stays
  | read position =>
    simp only [Queue.step]
    split
    · split
      · exact sound.setCall position _
      · exact sound.stays
    · exact sound.stays
  | commit position =>
    simp only [Queue.step]
    split
    · split
      · exact sound.quiet (close_jobs position _ _) rfl rfl fun _ inside _ => inside
      · exact sound.stays
    · exact sound.stays
  | rollBack position =>
    simp only [Queue.step]
    split
    · split
      · exact sound.stays
      · exact sound.quiet (close_jobs position _ _) rfl rfl fun _ inside _ => inside
    · exact sound.stays
  | claim position now =>
    simp only [Queue.step]
    split
    next row found => exact sound.claim found (orderly row found)
    next => exact sound.stays
  | handled position result now =>
    simp only [Queue.step]
    split
    next worker row found => exact sound.handled found (orderly (worker, row) found) result now
    next => exact sound.stays
  | raised position =>
    simp only [Queue.step]
    split
    · exact sound.setWorker position (by simp)
    · exact sound.stays
  | settle position errorBody raised now =>
    simp only [Queue.step]
    split
    next worker row found =>
      apply sound.settle found (orderly (worker, row) found)
      apply giveBack_status
    next => exact sound.stays
  | crash position =>
    simp only [Queue.step]
    split
    · exact sound.setWorker position (by simp)
    · exact sound.stays

theorem Sound.concludes (queue : Queue) (event : QueueEvent) (orderly : queue.Orderly event) (sound : Sound queue) :
    queue.OnceAndForAll (queue.step event) := by
  obtain ⟨kept, ends⟩ := sound.step queue event orderly
  refine ⟨?_, ?_, ends⟩
  · intro job
    by_cases inside : job < (queue.step event).jobs.length
    · have recorded := kept.recorded job _ (List.getElem?_eq_getElem inside)
      rw [recorded.effects]
      split
      · exact Nat.le_refl 1
      · exact Nat.zero_le 1
    · rw [List.count_eq_zero.mpr (kept.unused job (by omega)).2]
      exact Nat.zero_le 1
  · intro job
    by_cases inside : job < (queue.step event).jobs.length
    · have recorded := kept.recorded job _ (List.getElem?_eq_getElem inside)
      rw [recorded.starts]
      exact recorded.attempts
    · rw [List.count_eq_zero.mpr (kept.unused job (by omega)).1]
      exact Nat.zero_le _

end Events

theorem Sound.empty : Sound {} := by
  constructor
  · intro position job held
    cases held
  · intro position _
    exact ⟨List.not_mem_nil, List.not_mem_nil⟩
  · intro worker inside
    cases inside

/-- Orderly runs of overlapping ticks: each job takes effect at most once, is started at most
`MAX_ATTEMPTS` times, and keeps its end. -/
theorem jobs_orderly (events : List QueueEvent) (orderly : Throughout Queue.step Queue.Orderly {} events) :
    Throughout Queue.step (fun queue event => queue.OnceAndForAll (queue.step event)) {} events := by
  apply orderly.carry
  · intro queue event
    exact fun met sound => (Sound.step queue event met sound).sound
  · exact Sound.empty
  · exact Sound.concludes

def videoTaken : List QueueEvent :=
  [.enqueue 1 "channel_video_confirm" 7 none, .insert 0, .read 0, .commit 0, .claim 0 100]

/-- The first worker dies, and the second completes the job after the lease. -/
theorem jobs_orderly_reclaimed :
    let events := videoTaken ++ [.crash 0, .claim 0 1001, .handled 1 "version 1" 1100]
    Throughout Queue.step Queue.Orderly {} events ∧
      Throughout Queue.step (fun queue event => queue.OnceAndForAll (queue.step event)) {} events := by
  have orderly : Throughout Queue.step Queue.Orderly {}
      (videoTaken ++ [.crash 0, .claim 0 1001, .handled 1 "version 1" 1100]) := by decide
  exact ⟨orderly, jobs_orderly _ orderly⟩

/-- The first worker is only slow: both complete the job, and the video has two versions. -/
theorem video_confirmed_twice :
    ¬ ∀ events : List QueueEvent, Throughout Queue.step (fun queue event => queue.OnceAndForAll (queue.step event)) {} events := by
  intro always
  have met := always (videoTaken ++ [.claim 0 1001, .handled 1 "version 1" 1100] ++ [.handled 0 "version 2" 1200])
  have last := (Throughout.append.mp met).2.1
  exact absurd (last.effects 0) (by decide)

end Sprintable.Jobs
