import Sprintable.Logic.Expiring
import Sprintable.Logic.Runs

/-! The lease of one scope, once as a sorted set and a mark in Redis and once as rows in
Postgres. Times are milliseconds; a statement is executed at one instant, and so is a call that
nothing comes between. -/

namespace Sprintable.Leases

open Expiring

universe u

/-- The time to live of a lease is three heartbeats, that of the whole set four times as long. -/
structure Timing where
  heartbeat : Nat
  positive : 0 < heartbeat

namespace Timing
variable (timing : Timing)

def ttl : Nat := timing.heartbeat * 3

def keyTtl : Nat := timing.ttl * 4

theorem ttl_positive : 0 < timing.ttl := by
  have := timing.positive
  unfold ttl
  omega

end Timing

/-- When Redis takes a key with a time to live for gone: never before its deadline and
always after it. -/
structure KeyExpiry where
  gone : Nat → Nat → Bool
  before : ∀ {now deadline}, now < deadline → gone now deadline = false
  after : ∀ {now deadline}, deadline < now → gone now deadline = true

/-- The server compares with a strict sign, so that a key is still there at its deadline. -/
def KeyExpiry.strict : KeyExpiry where
  gone now deadline := decide (deadline < now)
  before earlier := decide_eq_false (Nat.not_lt_of_lt earlier)
  after later := decide_eq_true later

inductive Call (μ : Type u) where
  | acquire (limit : Int) (member : μ) (sweeps : Bool)
  | refresh (member : μ)
  | release (member : μ)
  | members
  | count
  | markTaken (member : μ)
  | takenBy
  | clearTaken (member : μ)
  | earliestExpiry
  deriving DecidableEq, Repr

/-- What a statement of an acquire comes to: another one follows, or the acquire is answered. -/
inductive Progress (σ : Type u) where
  | goesOn (stage : σ)
  | answered (granted : Bool)
  deriving DecidableEq, Repr

inductive Answer (μ : Type u) where
  | granted (place : Bool)
  | done
  | members (names : List μ)
  | count (places : Nat)
  | takenBy (member : Option μ)
  | expiry (deadline : Option Nat)
  deriving DecidableEq, Repr

variable {μ : Type u} [LinearOrder μ] (timing : Timing) (now : Nat)

/-- A lease that has just been renewed says nothing about when a place becomes free. -/
def trusted (deadline : Nat) : Option Nat := if timing.ttl - timing.heartbeat < deadline - now then none else some deadline

structure RedisScope (μ : Type u) where
  zset : List (Entry μ) := []
  keyDeadline : Nat := 0
  taken : Option (Entry μ) := none

namespace RedisScope
variable (scope : RedisScope μ)

/-- The scope as a command finds it: a key that is gone is empty. -/
def opened (expiry : KeyExpiry) : RedisScope μ where
  zset := if expiry.gone now scope.keyDeadline then [] else scope.zset
  keyDeadline := scope.keyDeadline
  taken := scope.taken.filter fun mark => !expiry.gone now mark.deadline

/-- `ZREMRANGEBYSCORE` up to now. -/
def evict : RedisScope μ := { scope with zset := live now scope.zset }

/-- `ZADD` and `EXPIRE`. -/
def place (member : μ) : RedisScope μ :=
  { scope with zset := upsert scope.zset member (now + timing.ttl), keyDeadline := now + timing.keyTtl }

/-- `_ACQUIRE_LUA`. -/
def acquire (limit : Int) (member : μ) : RedisScope μ × Answer μ :=
  let evicted := scope.evict now
  if evicted.zset.any fun entry => entry.key == member then (evicted.place timing now member, .granted true)
  else if (evicted.zset.length : Int) < limit then (evicted.place timing now member, .granted true)
  else (evicted, .granted false)

def call : Call μ → RedisScope μ × Answer μ
  | .acquire limit member _ => scope.acquire timing now limit member
  | .refresh member => (scope.place timing now member, .done)
  | .release member => ({ scope with zset := remove scope.zset member }, .done)
  | .members => (scope.evict now, .members ((sorted (scope.evict now).zset).map Entry.key))
  | .count => (scope.evict now, .count (scope.evict now).zset.length)
  | .markTaken member => ({ scope with taken := some ⟨member, now + timing.ttl⟩ }, .done)
  | .takenBy => (scope, .takenBy (scope.taken.map Entry.key))
  | .clearTaken member => ({ scope with taken := scope.taken.filter fun mark => mark.key ≠ member }, .done)
  | .earliestExpiry =>
    (scope.evict now, .expiry (((sorted (scope.evict now).zset).head?.map Entry.deadline).bind (trusted timing now)))

def liveMembers (expiry : KeyExpiry) : List μ := (live now (scope.opened now expiry).zset).map Entry.key

end RedisScope

/-- The rows of `sse_leases` and `sse_lease_taken` for the scope. -/
structure RowScope (μ : Type u) where
  leases : List (Entry μ) := []
  taken : Option (Entry μ) := none

/-- How long a row that has lapsed may stay. -/
def sweepAfter : Nat := 3600000

namespace RowScope
variable (scope : RowScope μ)

def place (member : μ) : RowScope μ := { scope with leases := upsert scope.leases member (now + timing.ttl) }

/-- The rows that lapsed long ago go, of all scopes and now and then. -/
def sweep : RowScope μ where
  leases := scope.leases.filter fun entry => now ≤ entry.deadline + sweepAfter
  taken := scope.taken.filter fun mark => now ≤ mark.deadline + sweepAfter

def acquire (limit : Int) (member : μ) : RowScope μ × Answer μ :=
  let evicted : RowScope μ := { scope with leases := live now scope.leases }
  if evicted.leases.any fun entry => entry.key == member then (evicted.place timing now member, .granted true)
  else if ((evicted.leases.filter fun entry => entry.key ≠ member).length : Int) < limit then
    (evicted.place timing now member, .granted true)
  else (evicted, .granted false)

end RowScope

/-- The statements of an acquire under its advisory lock. -/
inductive Statement where
  | evict
  | renew
  | count
  | insert
  deriving DecidableEq, Repr

/-- The statement that is next, and the members whose rows the acquire has deleted: an insert of
such a row waits for its commit. -/
structure RowStage (μ : Type u) where
  next : Statement := .evict
  evicted : List μ := []
  deriving DecidableEq, Repr

namespace RowScope
variable (scope : RowScope μ)

def placeAndSweep (member : μ) (sweeps : Bool) : RowScope μ :=
  if sweeps then (scope.place timing now member).sweep now else scope.place timing now member

def others (member : μ) : List μ := (scope.leases.filter fun entry => entry.key ≠ member).map Entry.key

def holds (member : μ) : Bool := scope.leases.any fun entry => entry.key == member

/-- One statement of `acquire`, the last one with the commit. The advisory lock keeps off other
acquires only: what else is committed between two statements, the later one sees. -/
def advance (limit : Int) (member : μ) (sweeps : Bool) (stage : RowStage μ) : RowScope μ × Progress (RowStage μ) :=
  match stage.next with
  | .evict =>
    ({ scope with leases := live now scope.leases },
      .goesOn { next := .renew, evicted := (scope.leases.filter fun entry => entry.deadline ≤ now).map Entry.key })
  | .renew =>
    if scope.holds member then (scope.placeAndSweep timing now member sweeps, .answered true)
    else (scope, .goesOn { stage with next := .count })
  | .count =>
    if ((scope.others member).length : Int) < limit then (scope, .goesOn { stage with next := .insert })
    else (if sweeps then scope.sweep now else scope, .answered false)
  | .insert => (scope.placeAndSweep timing now member sweeps, .answered true)

def call : Call μ → RowScope μ × Answer μ
  | .acquire limit member sweeps =>
    let (acquired, answer) := scope.acquire timing now limit member
    (if sweeps then acquired.sweep now else acquired, answer)
  | .refresh member => (scope.place timing now member, .done)
  | .release member => ({ scope with leases := remove scope.leases member }, .done)
  | .members => (scope, .members ((sorted (live now scope.leases)).map Entry.key))
  | .count => (scope, .count (live now scope.leases).length)
  | .markTaken member => ({ scope with taken := some ⟨member, now + timing.ttl⟩ }, .done)
  | .takenBy => (scope, .takenBy ((scope.taken.filter fun mark => now < mark.deadline).map Entry.key))
  | .clearTaken member => ({ scope with taken := scope.taken.filter fun mark => mark.key ≠ member }, .done)
  | .earliestExpiry =>
    (scope, .expiry (((live now scope.leases).map Entry.deadline).min?.bind fun deadline =>
      (trusted timing now deadline).map fun _ => now + (deadline - now)))

def liveMembers : List μ := (live now scope.leases).map Entry.key

end RowScope

end Sprintable.Leases
