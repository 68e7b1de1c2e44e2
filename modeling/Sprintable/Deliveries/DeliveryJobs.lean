import Mathlib.Data.List.Sort
import Sprintable.Basic
import Sprintable.Logic.Runs

/-! The table of delivery jobs, and the dispatchers of several instances that take jobs out of it.
Every event is one committed statement, or one step of a delivery between two of them. -/

namespace Sprintable.Deliveries

inductive JobStatus where
  | pending | claimed | delivered | failed
  deriving DecidableEq, Repr

def batchSize : Nat := 20
def maxAttempts : Nat := 5
def claimTimeout : Nat := seconds 45

structure DeliveryJob where
  id : Uuid
  createdAt : Nat
  status : JobStatus := .pending
  attempts : Nat := 0
  lastError : Option String := none
  deliveredAt : Option Nat := none
  claimedAt : Option Nat := none
  deriving DecidableEq, Repr

namespace DeliveryJob
variable (job : DeliveryJob) (now : Nat)

def claim : DeliveryJob := { job with status := .claimed, claimedAt := some now, attempts := job.attempts + 1 }

def expired : Bool := job.status = .claimed && job.claimedAt.any (· + claimTimeout < now)

def reap : DeliveryJob := if job.expired now then { job with status := .pending, claimedAt := none } else job

def deliver : DeliveryJob := { job with status := .delivered, deliveredAt := some now }

/-- After a delivery that raised: once more, or never again. -/
def giveBack (attempts : Nat) (error : String) : DeliveryJob :=
  { job with
    status := if attempts < maxAttempts then .pending else .failed
    lastError := some (String.ofList (error.toList.take 1000))
    claimedAt := none }

def closed : Bool := job.status = .delivered || job.status = .failed

end DeliveryJob

inductive Phase where
  | sending
  | sent
  | failing (error : String)
  deriving DecidableEq, Repr

/-- A call of `_deliver_one` on its way, with the attempts that it counts. -/
structure Delivery where
  attempts : Nat
  phase : Phase := .sending
  deriving DecidableEq, Repr

/-- What a delivery does next: send to all targets, fail, write how it went, or be lost with its worker. -/
inductive Act where
  | send
  | raises (error : String)
  | record
  | drop
  deriving DecidableEq, Repr

namespace Delivery
variable (delivery : Delivery)

def can : Act → Bool
  | .send => delivery.phase = .sending
  | .raises _ => delivery.phase = .sending || delivery.phase = .sent
  | .record => delivery.phase ≠ .sending
  | .drop => true

def after : Act → List Delivery
  | .send => [{ delivery with phase := .sent }]
  | .raises error => [{ delivery with phase := .failing error }]
  | .record | .drop => []

/-- The statement that ends a delivery, by how it went. -/
def ends (now : Nat) (job : DeliveryJob) : DeliveryJob :=
  match delivery.phase with
  | .sending => job
  | .sent => job.deliver now
  | .failing error => job.giveBack delivery.attempts error

end Delivery

/-- A row of the table, and the deliveries of it in all instances. `claims` and `sends` record how often it
was claimed, and its targets were sent to without an error. -/
structure Tracked where
  job : DeliveryJob
  live : List Delivery := []
  claims : Nat := 0
  sends : Nat := 0
  deriving DecidableEq, Repr

namespace Tracked
variable (tracked : Tracked) (now : Nat)

/-- The delivery that a claim begins counts one attempt more than the claimed row. -/
def claim : Tracked :=
  { tracked with
    job := tracked.job.claim now
    live := tracked.live ++ [{ attempts := tracked.job.attempts + 1 + 1 }]
    claims := tracked.claims + 1 }

def goOn (position : Nat) (act : Act) : Tracked :=
  match tracked.live[position]? with
  | some delivery =>
    if delivery.can act then
      { tracked with
        job := if act = .record then delivery.ends now tracked.job else tracked.job
        live := tracked.live.take position ++ delivery.after act ++ tracked.live.drop (position + 1)
        sends := if act = .send then tracked.sends + 1 else tracked.sends }
    else tracked
  | none => tracked

end Tracked

structure Dispatch where
  now : Nat := 0
  jobs : List Tracked := []
  deriving DecidableEq, Repr

/-- A delivery is known by its job and its place. The rows that another transaction has locked are skipped. -/
inductive DispatchEvent where
  | wait (elapsed : Nat)
  | enqueue (id : Uuid)
  | reap
  | claim (locked : List Uuid)
  | act (id : Uuid) (position : Nat) (act : Act)
  deriving DecidableEq, Repr

namespace Dispatch
variable (dispatch : Dispatch)

def candidates (locked : List Uuid) : List Tracked :=
  ((dispatch.jobs.filter fun tracked => tracked.job.status = .pending && tracked.job.id ∉ locked).insertionSort
    fun first second => first.job.createdAt ≤ second.job.createdAt).take batchSize

def moved (tracked : Tracked) : DispatchEvent → Tracked
  | .reap => { tracked with job := tracked.job.reap dispatch.now }
  | .claim locked => if tracked ∈ dispatch.candidates locked then tracked.claim dispatch.now else tracked
  | .act id position act => if tracked.job.id = id then tracked.goOn dispatch.now position act else tracked
  | .wait _ | .enqueue _ => tracked

def step (event : DispatchEvent) : Dispatch :=
  match event with
  | .wait elapsed => { dispatch with now := dispatch.now + elapsed }
  | .enqueue id =>
    if id ∈ dispatch.jobs.map (·.job.id) then dispatch
    else { dispatch with jobs := dispatch.jobs ++ [{ job := { id, createdAt := dispatch.now } }] }
  | _ => { dispatch with jobs := dispatch.jobs.map fun tracked => dispatch.moved tracked event }

end Dispatch

end Sprintable.Deliveries
