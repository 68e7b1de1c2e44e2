import Mathlib.Data.List.Sort
import Mathlib.Data.Rat.Floor
import Sprintable.Logic.Runs

/-! The two rate limiters on one key: a deque of the allowed calls, and a sorted set in Redis into which
every call is put before it is counted. Times are seconds. -/

namespace Sprintable.Limits

def WINDOW_SECS : ℚ := 60

structure Answer where
  allowed : Bool
  remaining : Int
  retryAfter : Int
  deriving DecidableEq, Repr

/-- `int(x)`. -/
def pyInt (x : ℚ) : ℤ := if 0 ≤ x then ⌊x⌋ else ⌈x⌉

/-- What a refused call is told, from the oldest call that counts. -/
def retryAfter (oldest cutoff : ℚ) : ℤ := max 1 (pyInt (oldest - cutoff) + 1)

namespace InMemory

/-- The limit is positive, so that a deque that is full has an oldest entry. -/
def check (limit : Nat) (now : ℚ) (window : List ℚ) : List ℚ × Answer :=
  let cutoff := now - WINDOW_SECS
  let dq := window.dropWhile (· ≤ cutoff)
  if limit ≤ dq.length then (dq, ⟨false, 0, retryAfter (dq.headD now) cutoff⟩)
  else (dq ++ [now], ⟨true, limit - (dq ++ [now]).length, 0⟩)

end InMemory

namespace Redis

/-- A sorted set whose members are the texts of their own scores, in the order of the scores. -/
structure SortedSet where
  members : List ℚ := []
  expiresAt : Option ℚ := none
  deriving DecidableEq

namespace SortedSet

def live (set : SortedSet) (now : ℚ) : List ℚ := if set.expiresAt.any (· ≤ now) then [] else set.members

end SortedSet

/-- A member that is there already only gets its score again. -/
def zadd (members : List ℚ) (now : ℚ) : List ℚ := if now ∈ members then members else members.orderedInsert (· ≤ ·) now

def check (limit : Nat) (now : ℚ) (set : SortedSet) : SortedSet × Answer :=
  let cutoff := now - WINDOW_SECS
  let members := zadd ((set.live now).filter (cutoff < ·)) now
  let expiresAt := some (now + (WINDOW_SECS + 5))
  let count := members.length
  if limit < count then
    let retry := match members.head? with
      | some oldest => retryAfter oldest cutoff
      | none => 1
    (⟨members.erase now, expiresAt⟩, ⟨false, 0, retry⟩)
  else (⟨members, expiresAt⟩, ⟨true, limit - count, 0⟩)

end Redis

/-- Both limiters, each with the calls that it has allowed. -/
structure Limiters where
  window : List ℚ := []
  set : Redis.SortedSet := {}
  admittedInMemory : List ℚ := []
  admittedByRedis : List ℚ := []

namespace Limiters
variable (limit : Nat) (limiters : Limiters) (now : ℚ)

def inMemory : List ℚ × Answer := InMemory.check limit now limiters.window

def redis : Redis.SortedSet × Answer := Redis.check limit now limiters.set

def check : Limiters where
  window := (limiters.inMemory limit now).1
  set := (limiters.redis limit now).1
  admittedInMemory := limiters.admittedInMemory ++ if (limiters.inMemory limit now).2.allowed then [now] else []
  admittedByRedis := limiters.admittedByRedis ++ if (limiters.redis limit now).2.allowed then [now] else []

end Limiters

/-- At most `limit` of the calls lie in a window, whichever of its ends belongs to it. -/
def Spread (limit : Nat) (admitted : List ℚ) : Prop :=
  ∀ start, (admitted.filter fun time => start ≤ time ∧ time < start + WINDOW_SECS).length ≤ limit ∧
    (admitted.filter fun time => start < time ∧ time ≤ start + WINDOW_SECS).length ≤ limit

/-- What the limiters owe to one call: the same answer, windows that are kept, and a retry that is allowed. -/
structure CallLaw (limit : Nat) (limiters : Limiters) (now : ℚ) : Prop where
  allowed : (limiters.inMemory limit now).2.allowed = (limiters.redis limit now).2.allowed
  remaining : (limiters.inMemory limit now).2.remaining = (limiters.redis limit now).2.remaining
  spreadInMemory : Spread limit (limiters.check limit now).admittedInMemory
  spreadByRedis : Spread limit (limiters.check limit now).admittedByRedis
  retryInMemory : (limiters.inMemory limit now).2.allowed = false →
    ((limiters.check limit now).inMemory limit (now + (limiters.inMemory limit now).2.retryAfter)).2.allowed = true
  retryByRedis : (limiters.redis limit now).2.allowed = false →
    ((limiters.check limit now).redis limit (now + (limiters.redis limit now).2.retryAfter)).2.allowed = true

/-- The key holds no entry under the time of the call. -/
def Fresh (limiters : Limiters) (now : ℚ) : Prop := now ∉ limiters.set.members

section Parts
variable {limit : Nat} {now cutoff : ℚ} {times : List ℚ}

theorem dropWhile_ascending (ascending : times.Pairwise (· < ·)) :
    times.dropWhile (· ≤ cutoff) = times.filter (cutoff < ·) := by
  induction times with
  | nil => rfl
  | cons time times ih =>
    obtain ⟨first, rest⟩ := List.pairwise_cons.mp ascending
    by_cases old : time ≤ cutoff
    · rw [List.dropWhile_cons_of_pos (by simpa using old), List.filter_cons_of_neg (by simpa using old), ih rest]
    · have all : ∀ other ∈ time :: times, decide (cutoff < other) = true := by
        intro other member
        apply decide_eq_true
        rcases List.mem_cons.mp member with rfl | later
        · exact lt_of_not_ge old
        · exact (lt_of_not_ge old).trans (first other later)
      rw [List.dropWhile_cons_of_neg (by simpa using old), List.filter_eq_self.mpr all]

theorem zadd_last (past : ∀ time ∈ times, time ≤ now) (fresh : now ∉ times) : Redis.zadd times now = times ++ [now] := by
  unfold Redis.zadd
  rw [if_neg fresh]
  induction times with
  | nil => rfl
  | cons time times ih =>
    have earlier : ¬ now ≤ time := by
      intro later
      exact fresh (le_antisymm (past time List.mem_cons_self) later ▸ List.mem_cons_self)
    rw [List.orderedInsert_cons, if_neg earlier, ih (fun other member => past other (List.mem_cons_of_mem time member))
      (fun member => fresh (List.mem_cons_of_mem time member))]
    rfl

theorem retry_enough (oldest cutoff : ℚ) (counts : cutoff < oldest) : oldest ≤ cutoff + retryAfter oldest cutoff := by
  have positive : 0 ≤ oldest - cutoff := by linarith
  have below : oldest - cutoff < ⌊oldest - cutoff⌋ + 1 := Int.lt_floor_add_one _
  have told : ⌊oldest - cutoff⌋ + 1 ≤ retryAfter oldest cutoff := by
    unfold retryAfter pyInt
    rw [if_pos positive]
    exact le_max_right _ _
  have told : ((⌊oldest - cutoff⌋ + 1 : ℤ) : ℚ) ≤ retryAfter oldest cutoff := Int.cast_le.mpr told
  push_cast at told
  linarith

theorem retry_positive (oldest cutoff : ℚ) : (1 : ℚ) ≤ retryAfter oldest cutoff := by
  have one : (1 : ℤ) ≤ retryAfter oldest cutoff := le_max_left _ _
  exact_mod_cast one

end Parts

end Sprintable.Limits
