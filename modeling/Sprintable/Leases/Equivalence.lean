import Mathlib.Data.String.Basic
import Sprintable.Leases.Lease

/-! The rows are the sorted set. Both stores have the same live leases and, before its
deadline, the same mark; what has lapsed is left behind by one and not by the other, and
no answer shows it, but for the mark at the very instant of its deadline. -/

namespace Sprintable.Leases

open Expiring

universe u
variable {μ : Type u} [LinearOrder μ]

/-- A call some time after the one before it. -/
structure Event (μ : Type u) where
  elapsed : Nat
  call : Call μ
  deriving DecidableEq, Repr

/-- The two stores, asked the same at the same times. -/
structure Both (μ : Type u) where
  redis : RedisScope μ := {}
  rows : RowScope μ := {}
  clock : Nat := 0

section Runs
variable (expiry : KeyExpiry) (timing : Timing)

namespace Both
variable (both : Both μ) (event : Event μ)

def now : Nat := both.clock + event.elapsed

def answers : Answer μ × Answer μ :=
  (((both.redis.opened (both.now event) expiry).call timing (both.now event) event.call).2,
    (both.rows.call timing (both.now event) event.call).2)

def step (both : Both μ) (event : Event μ) : Both μ where
  redis := ((both.redis.opened (both.now event) expiry).call timing (both.now event) event.call).1
  rows := (both.rows.call timing (both.now event) event.call).1
  clock := both.now event

/-- The same answer, and the same live members from then on. -/
def Agree : Prop :=
  (both.answers expiry timing event).1 = (both.answers expiry timing event).2 ∧
    ∀ later, both.now event ≤ later → ∀ member,
      member ∈ (both.step expiry timing event).redis.liveMembers later expiry ↔
        member ∈ (both.step expiry timing event).rows.liveMembers later

/-- Who took the scope over is not asked at the instant at which the mark lapses, unless
Redis counts the key as gone by then. -/
def offDeadline : Bool :=
  match event.call with
  | .takenBy => both.redis.taken.all fun mark => mark.deadline != both.now event || expiry.gone (both.now event) mark.deadline
  | _ => true

end Both

/-- The stores after a call at a time. -/
structure Related (redis : RedisScope μ) (rows : RowScope μ) (clock : Nat) : Prop where
  alike : (live clock redis.zset).Perm (live clock rows.leases)
  keyed : ∀ entry ∈ redis.zset, entry.deadline ≤ redis.keyDeadline
  bounded : redis.keyDeadline ≤ clock + timing.keyTtl
  mark : ∀ mark : Entry μ, clock < mark.deadline → (redis.taken = some mark ↔ rows.taken = some mark)

namespace Related
variable {timing} {redis : RedisScope μ} {rows : RowScope μ} {clock now : Nat}

omit [LinearOrder μ] in
theorem initial (clock : Nat) : Related timing ({} : RedisScope μ) {} clock where
  alike := .nil
  keyed _ member := by cases member
  bounded := Nat.zero_le _
  mark _ _ := Iff.rfl

omit [LinearOrder μ] in
theorem opened (related : Related timing redis rows clock) (after : clock ≤ now) : Related timing (redis.opened now expiry) rows now where
  alike := by
    have later := live_later related.alike after
    unfold RedisScope.opened
    dsimp only
    split
    next gone =>
      have none_live : live now redis.zset = [] := by
        apply List.filter_eq_nil_iff.mpr
        intro entry member alive
        have below := related.keyed entry member
        have still := expiry.before (Nat.lt_of_lt_of_le (of_decide_eq_true alive) below)
        rw [gone] at still
        cases still
      rw [none_live] at later
      exact later
    next => exact later
  keyed entry member := by
    unfold RedisScope.opened at member ⊢
    dsimp only at member ⊢
    split at member
    · cases member
    · exact related.keyed entry member
  bounded := Nat.le_trans related.bounded (Nat.add_le_add_right after _)
  mark mark alive := by
    refine Iff.trans ?_ (related.mark mark (Nat.lt_of_le_of_lt after alive))
    unfold RedisScope.opened
    dsimp only
    rw [Option.filter_eq_some_iff, expiry.before alive]
    exact and_iff_left rfl

theorem place (related : Related timing redis rows now) (member : μ) :
    Related timing (redis.place timing now member) (rows.place timing now member) now where
  alike := upsert_alike related.alike member (Nat.lt_add_of_pos_right timing.ttl_positive)
  keyed entry present := by
    unfold RedisScope.place at present ⊢
    dsimp only at present ⊢
    rcases mem_upsert present with old | rfl
    · exact Nat.le_trans (related.keyed entry old) related.bounded
    · have longer : timing.ttl ≤ timing.keyTtl := Nat.le_mul_of_pos_right _ (by decide)
      exact Nat.add_le_add_left longer now
  bounded := Nat.le_refl _
  mark := related.mark

omit [LinearOrder μ] in
theorem evict (related : Related timing redis rows now) : Related timing (redis.evict now) rows now where
  alike := by
    unfold RedisScope.evict
    dsimp only
    rw [live_live (Nat.le_refl now)]
    exact related.alike
  keyed entry member := related.keyed entry (List.mem_filter.mp member).1
  bounded := related.bounded
  mark := related.mark

omit [LinearOrder μ] in
theorem evicted (related : Related timing redis rows now) : Related timing (redis.evict now) { rows with leases := live now rows.leases } now where
  alike := by
    have same : live now (live now rows.leases) = live now rows.leases := live_live (Nat.le_refl now)
    rw [same]
    exact related.evict.alike
  keyed := related.evict.keyed
  bounded := related.bounded
  mark := related.mark

omit [LinearOrder μ] in
theorem sweep (related : Related timing redis rows now) : Related timing redis (rows.sweep now) now where
  alike := by
    have same : live now (rows.sweep now).leases = live now rows.leases := by
      unfold RowScope.sweep live
      rw [List.filter_filter]
      apply List.filter_congr
      intro entry _
      by_cases alive : now < entry.deadline
      · have kept : now ≤ entry.deadline + sweepAfter := by omega
        simp [alive, kept]
      · simp [alive]
    rw [same]
    exact related.alike
  keyed := related.keyed
  bounded := related.bounded
  mark mark alive := by
    refine (related.mark mark alive).trans ?_
    unfold RowScope.sweep
    dsimp only
    rw [Option.filter_eq_some_iff]
    exact (and_iff_left (decide_eq_true (by omega))).symm

theorem holds (related : Related timing redis rows now) (member : μ) :
    ((redis.evict now).zset.any fun entry => entry.key == member) = (live now rows.leases).any fun entry => entry.key == member :=
  related.alike.any_eq

theorem acquire (related : Related timing redis rows now) (limit : Int) (member : μ) :
    Related timing (redis.acquire timing now limit member).1 (rows.acquire timing now limit member).1 now ∧
      (redis.acquire timing now limit member).2 = (rows.acquire timing now limit member).2 := by
  unfold RedisScope.acquire RowScope.acquire
  dsimp only
  rw [related.holds member]
  cases own : (live now rows.leases).any fun entry => entry.key == member with
  | true => exact ⟨related.evicted.place member, rfl⟩
  | false =>
    have others : ((live now rows.leases).filter fun entry => entry.key ≠ member) = live now rows.leases := by
      apply List.filter_eq_self.mpr
      intro entry present
      have other := List.any_eq_false.mp own entry present
      simpa using other
    have counted : (redis.evict now).zset.length = (live now rows.leases).length := related.alike.length_eq
    rw [others, counted]
    simp only [Bool.false_eq_true, if_false]
    split
    · exact ⟨related.evicted.place member, rfl⟩
    · exact ⟨related.evicted, rfl⟩

theorem call (related : Related timing redis rows now) (asked : Call μ) :
    Related timing (redis.call timing now asked).1 (rows.call timing now asked).1 now := by
  cases asked with
  | acquire limit member sweeps =>
    have acquired := (related.acquire limit member).1
    cases sweeps with
    | true => exact acquired.sweep
    | false => exact acquired
  | refresh member => exact related.place member
  | release member =>
    refine ⟨remove_alike related.alike member, ?_, related.bounded, related.mark⟩
    exact fun entry present => related.keyed entry (List.mem_filter.mp present).1
  | members => exact related.evict
  | count => exact related.evict
  | markTaken member => exact ⟨related.alike, related.keyed, related.bounded, fun _ _ => Iff.rfl⟩
  | takenBy => exact related
  | clearTaken member =>
    refine ⟨related.alike, related.keyed, related.bounded, fun mark alive => ?_⟩
    change redis.taken.filter _ = _ ↔ rows.taken.filter _ = _
    rw [Option.filter_eq_some_iff, Option.filter_eq_some_iff, related.mark mark alive]
  | earliestExpiry => exact related.evict

omit [LinearOrder μ] in
theorem liveMembers (related : Related timing redis rows clock) {later : Nat} (after : clock ≤ later) (member : μ) :
    member ∈ redis.liveMembers later expiry ↔ member ∈ rows.liveMembers later :=
  ((related.opened expiry after).alike.map Entry.key).mem_iff

theorem answer (related : Related timing redis rows now) {asked : Call μ} (other : asked ≠ .takenBy) :
    (redis.call timing now asked).2 = (rows.call timing now asked).2 := by
  cases asked with
  | acquire limit member sweeps => exact (related.acquire limit member).2
  | members =>
    change Answer.members ((sorted (redis.evict now).zset).map Entry.key) = .members ((sorted (live now rows.leases)).map Entry.key)
    rw [show sorted (redis.evict now).zset = sorted (live now rows.leases) from sorted_eq related.alike]
  | count => exact congrArg Answer.count related.alike.length_eq
  | takenBy => exact absurd rfl other
  | earliestExpiry =>
    change Answer.expiry (((sorted (live now redis.zset)).head?.map Entry.deadline).bind _) = .expiry _
    rw [sorted_eq related.alike, sorted_head]
    cases first : ((live now rows.leases).map Entry.deadline).min? with
    | none => rfl
    | some deadline =>
      have member : deadline ∈ (live now rows.leases).map Entry.deadline := List.min?_mem first
      obtain ⟨entry, present, rfl⟩ := List.mem_map.mp member
      have alive : now < entry.deadline := of_decide_eq_true (List.mem_filter.mp present).2
      have same : now + (entry.deadline - now) = entry.deadline := by omega
      simp only [Option.bind_some, same]
      unfold trusted
      split <;> rfl
  | _ => rfl

end Related

namespace Both

def Matched (both : Both μ) : Prop := Related timing both.redis both.rows both.clock

variable {expiry timing} {both : Both μ}

theorem related_step (related : Related timing both.redis both.rows both.clock) (event : Event μ) :
    Related timing (both.step expiry timing event).redis (both.step expiry timing event).rows (both.step expiry timing event).clock :=
  (related.opened expiry (Nat.le_add_right _ _)).call event.call

omit [LinearOrder μ] in
theorem takenBy_iff (related : Related timing both.redis both.rows both.clock) (event : Event μ) :
    ((both.redis.opened (both.now event) expiry).taken.map Entry.key =
        (both.rows.taken.filter fun mark => both.now event < mark.deadline).map Entry.key) ↔
      (both.redis.taken.all fun mark => mark.deadline != both.now event || expiry.gone (both.now event) mark.deadline) = true := by
  have later := related.opened expiry (Nat.le_add_right both.clock event.elapsed)
  have present : ∀ mark : Entry μ, both.now event < mark.deadline →
      ((both.redis.opened (both.now event) expiry).taken = some mark ↔ both.rows.taken = some mark) := later.mark
  generalize both.now event = now at *
  have absent : (∀ mark, both.redis.taken = some mark → ¬now < mark.deadline) →
      (both.rows.taken.filter fun mark => now < mark.deadline) = none := by
    intro none_alive
    apply Option.filter_eq_none_iff.mpr
    intro mark marked alive
    have opened := (present mark (of_decide_eq_true alive)).mpr marked
    exact none_alive mark (Option.filter_eq_some_iff.mp opened).1 (of_decide_eq_true alive)
  cases marked : both.redis.taken with
  | none =>
    have nothing : (both.redis.opened now expiry).taken = none := by
      unfold RedisScope.opened
      rw [marked]
      rfl
    rw [nothing, absent (fun mark impossible => by rw [marked] at impossible; cases impossible)]
    exact ⟨fun _ => rfl, fun _ => rfl⟩
  | some mark =>
    have opened : (both.redis.opened now expiry).taken = if expiry.gone now mark.deadline then none else some mark := by
      unfold RedisScope.opened
      rw [marked, Option.filter_some]
      cases expiry.gone now mark.deadline with
      | true => rfl
      | false => rfl
    rw [Option.all_some, Bool.or_eq_true, bne_iff_ne]
    by_cases alive : now < mark.deadline
    · have still := expiry.before alive
      rw [still] at opened
      have stored : (both.rows.taken.filter fun mark => now < mark.deadline) = some mark :=
        Option.filter_eq_some_iff.mpr ⟨(present mark alive).mp opened, decide_eq_true alive⟩
      rw [opened, stored]
      exact ⟨fun _ => .inl (Nat.ne_of_gt alive), fun _ => rfl⟩
    · rw [absent (fun other same => by rw [marked] at same; cases same; exact alive), opened]
      by_cases lapsing : mark.deadline = now
      · cases gone : expiry.gone now mark.deadline with
        | true => exact ⟨fun _ => .inr rfl, fun _ => rfl⟩
        | false =>
          constructor
          · intro impossible
            cases impossible
          · rintro (impossible | impossible)
            · exact absurd lapsing impossible
            · cases impossible
      · have gone := expiry.after (Nat.lt_of_le_of_ne (Nat.le_of_not_lt alive) lapsing)
        rw [gone]
        exact ⟨fun _ => .inr rfl, fun _ => rfl⟩

theorem agree_iff (related : Related timing both.redis both.rows both.clock) (event : Event μ) :
    both.offDeadline expiry event = true ↔ both.Agree expiry timing event := by
  have after := @related_step _ _ expiry timing both related event
  have members : ∀ later, both.now event ≤ later → ∀ member,
      member ∈ (both.step expiry timing event).redis.liveMembers later expiry ↔
        member ∈ (both.step expiry timing event).rows.liveMembers later := fun later passed => after.liveMembers expiry passed
  unfold Agree offDeadline
  rw [and_iff_left members]
  by_cases asked : event.call = .takenBy
  · unfold answers
    rw [asked]
    refine (takenBy_iff related event).symm.trans ⟨fun same => congrArg Answer.takenBy same, fun same => ?_⟩
    injection same
  · have same := (related.opened expiry (Nat.le_add_right both.clock event.elapsed)).answer asked
    constructor
    · exact fun _ => same
    · intro _
      cases call : event.call with
      | takenBy => exact absurd call asked
      | _ => rfl

end Both

end Runs

/-- The two stores give the same answers and have the same live members along exactly the
runs in which nobody asks who took over at the instant at which the mark lapses. -/
theorem stores_agree_off_the_deadline (expiry : KeyExpiry) (timing : Timing) (clock : Nat) (events : List (Event μ)) :
    Runs.Throughout (Both.step expiry timing) (fun both event => both.offDeadline expiry event = true) { clock } events ↔
      Runs.Throughout (Both.step expiry timing) (fun both event => both.Agree expiry timing event) { clock } events := by
  have start : Both.Matched timing ({ clock } : Both μ) := Related.initial clock
  have kept : ∀ (both : Both μ) event, both.Matched timing → (both.step expiry timing event).Matched timing :=
    fun both event related => Both.related_step related event
  exact Runs.Throughout.congr kept (fun both event related => Both.agree_iff related event) start events

/-- A minute and a half after a take-over the mark is still there in Redis and gone from the rows. -/
theorem mark_outlives_the_row : ¬∀ (timing : Timing) (events : List (Event String)),
    Runs.Throughout (Both.step .strict timing) (fun both event => both.Agree .strict timing event) {} events := by
  intro agree
  have last := (agree ⟨30000, by decide⟩ [⟨0, .markTaken "rcv:mac"⟩, ⟨90000, .takenBy⟩]).2.1.1
  revert last
  decide

end Sprintable.Leases
