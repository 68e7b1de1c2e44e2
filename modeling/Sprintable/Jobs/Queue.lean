import Mathlib.Algebra.Group.Nat.Defs
import Sprintable.Logic.Runs

/-! The table of background jobs: requests put jobs into it, and the workers of overlapping ticks
take them out, one at a time. Every event is one statement or one commit. -/

namespace Sprintable.Jobs

inductive JobStatus where
  | pending | inProgress | completed | failed
  deriving DecidableEq, Repr

def MAX_ATTEMPTS : Nat := 3
def LEASE_SECONDS : Nat := 15 * 60
def BACKOFF_BASE_SECONDS : Nat := 60
def FAILED_CODE : String := "BACKGROUND_JOB_FAILED"

def HANDLERS : List String := ["channel_video_confirm", "attachment_convert", "loop_context_pack", "retro_synthesis"]

/-- What the open jobs of one request have in common. -/
structure DedupKey where
  orgId : Nat
  kind : String
  requestedByMemberId : Nat
  dedupKey : String
  deriving DecidableEq, Repr

/-- The body of an error: a refusal that the request would have had, or the code of a failure. -/
inductive JobError where
  | refused (body : String)
  | failed (code : String) (message : String)
  deriving DecidableEq, Repr

structure BackgroundJob where
  orgId : Nat
  kind : String
  requestedByMemberId : Nat
  dedupKey : Option String := none
  status : JobStatus := .pending
  result : Option String := none
  error : Option JobError := none
  attemptCount : Nat := 0
  nextAttemptAt : Option Nat := none
  claimedAt : Option Nat := none
  finishedAt : Option Nat := none
  deriving DecidableEq, Repr

namespace BackgroundJob
variable (job : BackgroundJob)

def isOpen : Bool := job.status = .pending || job.status = .inProgress

/-- The entry of the job in `uq_background_jobs_open_dedup`. -/
def openKey : Option DedupKey :=
  if job.isOpen then job.dedupKey.map fun dedupKey =>
    { orgId := job.orgId, kind := job.kind, requestedByMemberId := job.requestedByMemberId, dedupKey }
  else none

/-- `_due_filter`. -/
def due (now : Nat) : Bool :=
  (job.status = .pending && job.nextAttemptAt.all (· ≤ now)) ||
    (job.status = .inProgress && job.claimedAt.any (· + LEASE_SECONDS < now))

/-- A session writes the columns in which the new values differ from those that it has loaded. -/
def flush (loaded changed : BackgroundJob) : BackgroundJob :=
  { job with
    status := if changed.status = loaded.status then job.status else changed.status
    result := if changed.result = loaded.result then job.result else changed.result
    error := if changed.error = loaded.error then job.error else changed.error
    nextAttemptAt := if changed.nextAttemptAt = loaded.nextAttemptAt then job.nextAttemptAt else changed.nextAttemptAt
    claimedAt := if changed.claimedAt = loaded.claimedAt then job.claimedAt else changed.claimedAt
    finishedAt := if changed.finishedAt = loaded.finishedAt then job.finishedAt else changed.finishedAt }

def claim (now : Nat) : BackgroundJob :=
  { job with status := .inProgress, claimedAt := some now, attemptCount := job.attemptCount + 1 }

def complete (result : String) (now : Nat) : BackgroundJob :=
  { job with status := .completed, result := some result, error := none, finishedAt := some now }

/-- How `_process_loop` ends an attempt that raised: a known refusal, the last attempt, or one more. -/
def giveBack (attempt : Nat) (errorBody : Option String) (raised : String) (now : Nat) : BackgroundJob :=
  match errorBody with
  | some body => { job with status := .failed, error := some (.refused body), finishedAt := some now }
  | none =>
    if MAX_ATTEMPTS ≤ attempt then
      { job with status := .failed, error := some (.failed FAILED_CODE raised), finishedAt := some now }
    else
      { job with
        status := .pending, claimedAt := none
        nextAttemptAt := some (now + BACKOFF_BASE_SECONDS * 2 ^ (attempt - 1)) }

end BackgroundJob

inductive Insertion where
  | running (call : Nat)
  | committed
  | rolledBack
  deriving DecidableEq, Repr

/-- A row of the table. A job is known by its place in it. -/
structure Row where
  job : BackgroundJob
  insertion : Insertion
  deriving DecidableEq, Repr

/-- How far a call of `enqueue_background_job` has come, with the tries that it has left. -/
inductive CallPhase where
  | inserting (tries : Nat)
  | looking (tries : Nat)
  | found (job : Nat)
  | returned (job : Nat)
  | raised
  deriving DecidableEq, Repr

/-- A call of `enqueue_background_job`, and the transaction of its caller. -/
structure EnqueueCall where
  orgId : Nat
  kind : String
  requestedByMemberId : Nat
  dedupKey : Option String
  phase : CallPhase
  inserted : Option Nat := none
  closed : Bool := false
  deriving DecidableEq, Repr

namespace EnqueueCall

def job (call : EnqueueCall) : BackgroundJob :=
  { orgId := call.orgId, kind := call.kind, requestedByMemberId := call.requestedByMemberId, dedupKey := call.dedupKey }

end EnqueueCall

inductive WorkerPhase where
  | handling | failing | gone
  deriving DecidableEq, Repr

/-- A worker with the job that it took, as its session has loaded it. -/
structure Worker where
  job : Nat
  attempt : Nat
  loaded : BackgroundJob
  phase : WorkerPhase := .handling
  deriving DecidableEq, Repr

/-- The table with all calls and workers. `started` and `effects` are records: the jobs whose
handler was started, and those whose handler's effects were committed. -/
structure Queue where
  rows : List Row := []
  calls : List EnqueueCall := []
  workers : List Worker := []
  started : List Nat := []
  effects : List Nat := []
  deriving DecidableEq, Repr

/-- Calls, workers and jobs are known by their positions. Which of the due jobs a worker takes
depends on the locks, on the budget of its tick and on their age. -/
inductive QueueEvent where
  | enqueue (orgId : Nat) (kind : String) (requestedByMemberId : Nat) (dedupKey : Option String)
  | insert (call : Nat)
  | look (call : Nat)
  | read (call : Nat)
  | commit (call : Nat)
  | rollBack (call : Nat)
  | claim (job : Nat) (now : Nat)
  | handled (worker : Nat) (result : String) (now : Nat)
  | raised (worker : Nat)
  | settle (worker : Nat) (errorBody : Option String) (raised : String) (now : Nat)
  | crash (worker : Nat)
  deriving DecidableEq, Repr

namespace Queue
variable (queue : Queue)

/-- A committed row of the open key stands in the way. -/
def taken (key : DedupKey) : Bool := queue.rows.any fun row => row.insertion = .committed && row.job.openKey = some key

/-- A row of the open key may still be committed by another transaction. -/
def disputed (key : DedupKey) : Bool :=
  queue.rows.any fun row => row.job.openKey = some key && match row.insertion with
    | .running _ => true
    | .committed | .rolledBack => false

def openJob (key : DedupKey) : Option Nat :=
  queue.rows.findIdx? fun row => row.insertion = .committed && row.job.openKey = some key

def setCall (position : Nat) (call : EnqueueCall) : Queue := { queue with calls := queue.calls.set position call }

def setWorker (position : Nat) (worker : Worker) : Queue := { queue with workers := queue.workers.set position worker }

def setJob (position : Nat) (row : Row) (job : BackgroundJob) : Queue :=
  { queue with rows := queue.rows.set position { row with job } }

/-- The new row of a call, which its transaction has not committed yet. -/
def addRow (position : Nat) (call : EnqueueCall) : Queue :=
  { queue with
    rows := queue.rows ++ [{ job := call.job, insertion := .running position }]
    calls := queue.calls.set position
      { call with phase := .found queue.rows.length, inserted := some queue.rows.length } }

/-- `enqueue_background_job`, at its start. -/
def enqueue (orgId : Nat) (kind : String) (requestedByMemberId : Nat) (dedupKey : Option String) : Queue :=
  let phase := if kind ∈ HANDLERS then .inserting 2 else .raised
  { queue with calls := queue.calls ++ [{ orgId, kind, requestedByMemberId, dedupKey, phase }] }

/-- The insert of one try. It waits while another transaction holds the key. -/
def insert (position : Nat) (call : EnqueueCall) (tries : Nat) : Queue :=
  match call.job.openKey with
  | none => queue.addRow position call
  | some key =>
    if queue.taken key then queue.setCall position { call with phase := .looking tries }
    else if queue.disputed key then queue
    else queue.addRow position call

def look (position : Nat) (call : EnqueueCall) (tries : Nat) : Queue :=
  match call.job.openKey.bind queue.openJob with
  | some job => queue.setCall position { call with phase := .found job }
  | none => queue.setCall position { call with phase := if tries ≤ 1 then .raised else .inserting (tries - 1) }

/-- The transaction of a call ends, and its row with it. -/
def close (position : Nat) (call : EnqueueCall) (insertion : Insertion) : Queue :=
  { queue with
    rows := queue.rows.map fun row => if row.insertion = .running position then { row with insertion } else row
    calls := queue.calls.set position { call with closed := true } }

/-- `_claim_next` takes the job, and `_process_loop` starts its handler. -/
def claim (position : Nat) (row : Row) (now : Nat) : Queue :=
  let job := row.job.claim now
  { queue.setJob position row job with
    workers := queue.workers ++ [{ job := position, attempt := job.attemptCount, loaded := job }]
    started := queue.started ++ [position] }

def claimable (position : Nat) (now : Nat) : Option Row :=
  queue.rows[position]?.filter fun row => row.insertion = .committed && row.job.due now && decide (row.job.kind ∈ HANDLERS)

/-- `_finish` after the handler, with the handler's own effects in the same commit. -/
def handled (position : Nat) (worker : Worker) (row : Row) (result : String) (now : Nat) : Queue :=
  { (queue.setJob worker.job row (row.job.flush worker.loaded (worker.loaded.complete result now))).setWorker position
      { worker with phase := .gone } with
    effects := queue.effects ++ [worker.job] }

/-- `_finish` after an exception. Only the index of open jobs can refuse it, and the tick ends then. -/
def settle (position : Nat) (worker : Worker) (row : Row) (changed : BackgroundJob) : Queue :=
  let job := row.job.flush worker.loaded changed
  let written := (queue.setJob worker.job row job).setWorker position { worker with phase := .gone }
  if job.openKey = row.job.openKey then written
  else match job.openKey with
  | none => written
  | some key =>
    if queue.taken key then queue.setWorker position { worker with phase := .gone }
    else if queue.disputed key then queue
    else written

def working (position : Nat) (phase : WorkerPhase) : Option (Worker × Row) := do
  let worker ← queue.workers[position]?.filter (·.phase = phase)
  let row ← queue.rows[worker.job]?
  return (worker, row)

def step (queue : Queue) : QueueEvent → Queue
  | .enqueue orgId kind requestedByMemberId dedupKey => queue.enqueue orgId kind requestedByMemberId dedupKey
  | .insert position =>
    match queue.calls[position]? with
    | some call =>
      match call.closed, call.phase with
      | false, .inserting tries => queue.insert position call tries
      | _, _ => queue
    | none => queue
  | .look position =>
    match queue.calls[position]? with
    | some call =>
      match call.closed, call.phase with
      | false, .looking tries => queue.look position call tries
      | _, _ => queue
    | none => queue
  | .read position =>
    match queue.calls[position]? with
    | some call =>
      match call.closed, call.phase with
      | false, .found job => queue.setCall position { call with phase := .returned job }
      | _, _ => queue
    | none => queue
  | .commit position =>
    match queue.calls[position]? with
    | some call =>
      match call.closed, call.phase with
      | false, .returned _ => queue.close position call .committed
      | _, _ => queue
    | none => queue
  | .rollBack position =>
    match queue.calls[position]? with
    | some call => if call.closed then queue else queue.close position call .rolledBack
    | none => queue
  | .claim position now =>
    match queue.claimable position now with
    | some row => queue.claim position row now
    | none => queue
  | .handled position result now =>
    match queue.working position .handling with
    | some (worker, row) => queue.handled position worker row result now
    | none => queue
  | .raised position =>
    match queue.working position .handling with
    | some (worker, row) => queue.setWorker position { worker with loaded := row.job, phase := .failing }
    | none => queue
  | .settle position errorBody raised now =>
    match queue.working position .failing with
    | some (worker, row) => queue.settle position worker row (worker.loaded.giveBack worker.attempt errorBody raised now)
    | none => queue
  | .crash position =>
    match queue.workers[position]? with
    | some worker => queue.setWorker position { worker with phase := .gone }
    | none => queue

end Queue

end Sprintable.Jobs
