import Sprintable.Leases.Lease

/-! What the streams rely on of a lease store, whichever it is: a lease lapses by itself, only
an acquire and a refresh place one, and the statement that assures an acquire of a place has found
the member's own or has counted that there is room. -/

namespace Sprintable.Leases

open Expiring

universe u
variable {μ : Type u}

def Call.placed (answer : Answer μ) : Call μ → Option μ
  | .acquire _ member _ => if answer matches .granted true then some member else none
  | .refresh member => some member
  | _ => none

/-- The acquire is answered, or one that is to be answered so. -/
def Progress.assures {σ : Type u} (assured : σ → Bool) : Progress σ → Bool
  | .goesOn stage => assured stage
  | .answered granted => granted

/-- A store of one scope. An acquire is a number of statements: `assured` says that it has found
its place before the next one, `renews` and `counted` what the next one goes by, and `waits` that
an insert of the member waits for its commit. -/
structure LeaseStore (μ : Type u) where
  State : Type u
  Stage : Type u
  empty : State
  call : State → Nat → Call μ → State × Answer μ
  live : State → Nat → List μ
  first : Stage
  advance : State → Nat → Int → μ → Bool → Stage → State × Progress Stage
  assured : Stage → Bool
  renews : State → Nat → μ → Stage → Bool
  counted : State → Nat → μ → Stage → List μ
  waits : Stage → μ → Bool
  vacant : ∀ now, live empty now = []
  lapses : ∀ {state now later member}, now ≤ later → member ∈ live state later → member ∈ live state now
  frame : ∀ {state now asked member}, member ∈ live (call state now asked).1 now →
    member ∈ live state now ∨ Call.placed (call state now asked).2 asked = some member
  unassured : assured first = false
  places : ∀ {state now limit member sweeps stage other},
    other ∈ live (advance state now limit member sweeps stage).1 now → other ∈ live state now ∨
      ((advance state now limit member sweeps stage).2 = .answered true ∧ other = member)
  room : ∀ {state now limit member sweeps stage},
    (advance state now limit member sweeps stage).2.assures assured = true → assured stage = false →
      renews state now member stage = true ∨ (((counted state now member stage).length : Int) < limit ∧
        ∀ other ∈ live state now, other ≠ member → other ∈ counted state now member stage)
  full : ∀ {state now limit member sweeps stage}, (advance state now limit member sweeps stage).2 = .answered false →
    renews state now member stage = false ∧ limit ≤ (counted state now member stage).length

/-- The acquire runs to its answer with nothing between its statements. -/
inductive LeaseStore.Completes (store : LeaseStore μ) (now : Nat) (limit : Int) (member : μ) (sweeps : Bool) :
    store.State → store.Stage → store.State → Bool → Prop where
  | answered {state stage} {after : store.State} {granted : Bool}
      (last : store.advance state now limit member sweeps stage = (after, .answered granted)) :
      Completes store now limit member sweeps state stage after granted
  | goesOn {state stage} {between : store.State} {next : store.Stage} {after : store.State} {granted : Bool}
      (statement : store.advance state now limit member sweeps stage = (between, .goesOn next))
      (rest : Completes store now limit member sweeps between next after granted) :
      Completes store now limit member sweeps state stage after granted

section Instances
variable [LinearOrder μ] (timing : Timing) {now : Nat} {asked : Call μ} {entry : Entry μ}

omit [LinearOrder μ] in
theorem mem_live {rows : List (Entry μ)} {member : μ} :
    member ∈ (live now rows).map Entry.key ↔ ∃ entry ∈ rows, now < entry.deadline ∧ entry.key = member := by
  simp [live, and_assoc]

theorem any_key {rows : List (Entry μ)} {member : μ} :
    (rows.any fun entry => entry.key == member) = true ↔ member ∈ rows.map Entry.key := by
  simp

theorem RowScope.mem_place {scope : RowScope μ} {member : μ} (inside : entry ∈ (scope.place timing now member).leases) :
    entry ∈ scope.leases ∨ member = entry.key := by
  apply (mem_upsert inside).imp id
  rintro rfl
  rfl

theorem RowScope.mem_acquire {scope : RowScope μ} {limit : Int} {member : μ}
    (inside : entry ∈ (scope.acquire timing now limit member).1.leases) :
    entry ∈ scope.leases ∨ ((scope.acquire timing now limit member).2 = .granted true ∧ member = entry.key) := by
  unfold RowScope.acquire at inside ⊢
  dsimp only at inside ⊢
  split at inside
  next own =>
    rw [if_pos own]
    exact (RowScope.mem_place timing inside).imp (fun old => (List.mem_filter.mp old).1) fun same => ⟨rfl, same⟩
  next other =>
    rw [if_neg other]
    split at inside
    next room =>
      rw [if_pos room]
      exact (RowScope.mem_place timing inside).imp (fun old => (List.mem_filter.mp old).1) fun same => ⟨rfl, same⟩
    next => exact .inl (List.mem_filter.mp inside).1

theorem RowScope.mem_call {scope : RowScope μ} (inside : entry ∈ (scope.call timing now asked).1.leases) :
    entry ∈ scope.leases ∨ Call.placed (scope.call timing now asked).2 asked = some entry.key := by
  cases asked with
  | acquire limit member sweeps =>
    have acquired : entry ∈ (scope.acquire timing now limit member).1.leases := by
      cases sweeps with
      | false => exact inside
      | true => exact (List.mem_filter.mp inside).1
    apply (RowScope.mem_acquire timing acquired).imp id
    rintro ⟨granted, rfl⟩
    simp only [RowScope.call, Call.placed, granted, if_true]
  | refresh member => exact (RowScope.mem_place timing inside).imp id (congrArg some)
  | release member => exact .inl (List.mem_filter.mp inside).1
  | members => exact .inl inside
  | count => exact .inl inside
  | markTaken member => exact .inl inside
  | takenBy => exact .inl inside
  | clearTaken member => exact .inl inside
  | earliestExpiry => exact .inl inside

theorem RowScope.mem_placeAndSweep {scope : RowScope μ} {member : μ} {sweeps : Bool}
    (inside : entry ∈ (scope.placeAndSweep timing now member sweeps).leases) : entry ∈ scope.leases ∨ member = entry.key := by
  apply RowScope.mem_place timing
  unfold RowScope.placeAndSweep at inside
  split at inside
  · exact (List.mem_filter.mp inside).1
  · exact inside

theorem RowScope.mem_advance {scope : RowScope μ} {limit : Int} {member : μ} {sweeps : Bool} {stage : RowStage μ}
    (inside : entry ∈ (scope.advance timing now limit member sweeps stage).1.leases) :
    entry ∈ scope.leases ∨ ((scope.advance timing now limit member sweeps stage).2 = .answered true ∧ member = entry.key) := by
  unfold RowScope.advance at inside ⊢
  cases statement : stage.next with
  | evict =>
    rw [statement] at inside
    exact .inl (List.mem_filter.mp inside).1
  | renew =>
    simp only [statement] at inside ⊢
    split at inside
    next own =>
      rw [if_pos own]
      exact (RowScope.mem_placeAndSweep timing inside).imp_right fun same => ⟨rfl, same⟩
    next => exact .inl inside
  | count =>
    simp only [statement] at inside
    split at inside
    next => exact .inl inside
    next =>
      split at inside
      · exact .inl (List.mem_filter.mp inside).1
      · exact .inl inside
  | insert =>
    simp only [statement] at inside
    exact (RowScope.mem_placeAndSweep timing inside).imp_right fun same => ⟨rfl, same⟩

/-- The statement updates the member's own row. -/
def RowScope.renews (scope : RowScope μ) (member : μ) (stage : RowStage μ) : Bool :=
  match stage.next with
  | .renew => scope.holds member
  | _ => false

def RowScope.counted (scope : RowScope μ) (member : μ) (stage : RowStage μ) : List μ :=
  match stage.next with
  | .count => scope.others member
  | _ => []

theorem RowScope.mem_others {scope : RowScope μ} {member other : μ} (held : other ∈ scope.liveMembers now)
    (different : other ≠ member) : other ∈ scope.others member := by
  obtain ⟨entry, inside, _, rfl⟩ := mem_live.mp held
  exact List.mem_map_of_mem (List.mem_filter.mpr ⟨inside, decide_eq_true different⟩)

/-- The rows of Postgres. -/
def rowStore : LeaseStore μ where
  State := RowScope μ
  Stage := RowStage μ
  empty := {}
  call scope now asked := scope.call timing now asked
  live scope now := scope.liveMembers now
  first := {}
  advance scope now := scope.advance timing now
  assured stage := stage.next = .insert
  renews scope _ := scope.renews
  counted scope _ := scope.counted
  waits stage member := stage.evicted.contains member
  vacant _ := rfl
  lapses {state now later member} passed held := by
    obtain ⟨entry, inside, alive, same⟩ := mem_live.mp held
    exact mem_live.mpr ⟨entry, inside, by omega, same⟩
  frame {state now asked member} held := by
    obtain ⟨entry, inside, alive, rfl⟩ := mem_live.mp held
    exact (RowScope.mem_call timing inside).imp_left fun old => mem_live.mpr ⟨entry, old, alive, rfl⟩
  unassured := rfl
  places {state now limit member sweeps stage other} held := by
    obtain ⟨entry, inside, alive, rfl⟩ := mem_live.mp held
    apply (RowScope.mem_advance timing inside).imp
    · exact fun old => mem_live.mpr ⟨entry, old, alive, rfl⟩
    · exact fun ⟨granted, same⟩ => ⟨granted, same.symm⟩
  room {state now limit member sweeps stage} assures unassured := by
    unfold RowScope.advance at assures
    unfold RowScope.renews RowScope.counted
    cases statement : stage.next with
    | evict => simp [statement, Progress.assures] at assures
    | renew =>
      left
      simp only [statement] at assures
      split at assures
      next own => exact own
      next => simp [Progress.assures] at assures
    | count =>
      right
      simp only [statement] at assures
      split at assures
      next free => exact ⟨free, fun other held different => RowScope.mem_others held different⟩
      next => simp [Progress.assures] at assures
    | insert => simp [statement] at unassured
  full {state now limit member sweeps stage} refused := by
    unfold RowScope.advance at refused
    unfold RowScope.renews RowScope.counted
    cases statement : stage.next with
    | evict => simp [statement] at refused
    | renew =>
      simp only [statement] at refused
      split at refused
      next => simp at refused
      next => cases refused
    | count =>
      simp only [statement] at refused
      split at refused
      next => cases refused
      next taken => exact ⟨rfl, Int.not_lt.mp taken⟩
    | insert => simp [statement] at refused

theorem rowStore_acquire_alone (scope : RowScope μ) (limit : Int) (member : μ) (sweeps : Bool) :
    ∃ granted, (scope.call timing now (.acquire limit member sweeps)).2 = .granted granted ∧
      (rowStore timing).Completes now limit member sweeps scope (rowStore (μ := μ) timing).first
        (scope.call timing now (.acquire limit member sweeps)).1 granted := by
  let evicted : RowScope μ := { scope with leases := live now scope.leases }
  have acquired : scope.acquire timing now limit member =
      if evicted.holds member then (evicted.place timing now member, .granted true)
      else if ((evicted.others member).length : Int) < limit then (evicted.place timing now member, .granted true)
      else (evicted, .granted false) := by
    unfold RowScope.others
    rw [List.length_map]
    rfl
  simp only [RowScope.call, acquired]
  by_cases own : evicted.holds member = true
  · rw [if_pos own]
    exact ⟨true, rfl, .goesOn rfl (.answered (if_pos own))⟩
  · rw [if_neg own]
    by_cases free : ((evicted.others member).length : Int) < limit
    · rw [if_pos free]
      exact ⟨true, rfl, .goesOn rfl (.goesOn (if_neg own) (.goesOn (if_pos free) (.answered rfl)))⟩
    · rw [if_neg free]
      exact ⟨false, rfl, .goesOn rfl (.goesOn (if_neg own) (.answered (if_neg free)))⟩

section Redis
variable (expiry : KeyExpiry) {scope : RedisScope μ}

theorem RedisScope.mem_place {member : μ} (inside : entry ∈ (scope.place timing now member).zset) :
    entry ∈ scope.zset ∨ member = entry.key := by
  apply (mem_upsert inside).imp id
  rintro rfl
  rfl

theorem RedisScope.mem_acquire {limit : Int} {member : μ} (inside : entry ∈ (scope.acquire timing now limit member).1.zset) :
    entry ∈ scope.zset ∨ ((scope.acquire timing now limit member).2 = .granted true ∧ member = entry.key) := by
  unfold RedisScope.acquire at inside ⊢
  dsimp only at inside ⊢
  split at inside
  next own =>
    rw [if_pos own]
    exact (RedisScope.mem_place timing inside).imp (fun old => (List.mem_filter.mp old).1) fun same => ⟨rfl, same⟩
  next other =>
    rw [if_neg other]
    split at inside
    next room =>
      rw [if_pos room]
      exact (RedisScope.mem_place timing inside).imp (fun old => (List.mem_filter.mp old).1) fun same => ⟨rfl, same⟩
    next => exact .inl (List.mem_filter.mp inside).1

theorem RedisScope.mem_call (inside : entry ∈ (scope.call timing now asked).1.zset) :
    entry ∈ scope.zset ∨ Call.placed (scope.call timing now asked).2 asked = some entry.key := by
  cases asked with
  | acquire limit member sweeps =>
    apply (RedisScope.mem_acquire timing inside).imp id
    rintro ⟨granted, rfl⟩
    simp only [RedisScope.call, Call.placed, granted, if_true]
  | refresh member => exact (RedisScope.mem_place timing inside).imp id (congrArg some)
  | release member => exact .inl (List.mem_filter.mp inside).1
  | members => exact .inl (List.mem_filter.mp inside).1
  | count => exact .inl (List.mem_filter.mp inside).1
  | markTaken member => exact .inl inside
  | takenBy => exact .inl inside
  | clearTaken member => exact .inl inside
  | earliestExpiry => exact .inl (List.mem_filter.mp inside).1

omit [LinearOrder μ] in
theorem RedisScope.mem_liveMembers {member : μ} : member ∈ scope.liveMembers now expiry ↔
    expiry.gone now scope.keyDeadline = false ∧ ∃ entry ∈ scope.zset, now < entry.deadline ∧ entry.key = member := by
  cases gone : expiry.gone now scope.keyDeadline <;> simp [RedisScope.liveMembers, RedisScope.opened, gone, live, and_assoc]

theorem RedisScope.acquire_granted {limit : Int} {member : μ} :
    ((scope.opened now expiry).acquire timing now limit member).2 = .granted true ↔
      member ∈ scope.liveMembers now expiry ∨ ((scope.liveMembers now expiry).length : Int) < limit := by
  simp only [RedisScope.acquire, any_key]
  change _ ↔ member ∈ ((scope.opened now expiry).evict now).zset.map Entry.key ∨
    ((((scope.opened now expiry).evict now).zset.map Entry.key).length : Int) < limit
  rw [List.length_map]
  by_cases own : member ∈ ((scope.opened now expiry).evict now).zset.map Entry.key
  · simp [own]
  · rw [if_neg own]
    split <;> simp [*]

/-- The script, which is the one statement of an acquire. -/
def RedisScope.advance (scope : RedisScope μ) (now : Nat) (limit : Int) (member : μ) : RedisScope μ × Progress PUnit.{u + 1} :=
  let acquired := (scope.opened now expiry).acquire timing now limit member
  (acquired.1, .answered (acquired.2 = .granted true))

/-- The sorted set and the mark of Redis. -/
def redisStore : LeaseStore μ where
  State := RedisScope μ
  Stage := PUnit
  empty := {}
  call scope now asked := (scope.opened now expiry).call timing now asked
  live scope now := scope.liveMembers now expiry
  first := ⟨⟩
  advance scope now limit member _ _ := scope.advance timing expiry now limit member
  assured _ := false
  renews scope now member _ := (scope.liveMembers now expiry).contains member
  counted scope now _ _ := scope.liveMembers now expiry
  waits _ _ := false
  vacant now := by simp [RedisScope.liveMembers, RedisScope.opened, live]
  lapses {state now later member} passed held := by
    obtain ⟨present, entry, inside, alive, same⟩ := (RedisScope.mem_liveMembers expiry).mp held
    refine (RedisScope.mem_liveMembers expiry).mpr ⟨?_, entry, inside, by omega, same⟩
    rcases Nat.lt_or_ge now state.keyDeadline with before | after
    · exact expiry.before before
    · rcases Nat.lt_or_eq_of_le passed with further | rfl
      · rw [expiry.after (Nat.lt_of_le_of_lt after further)] at present
        cases present
      · exact present
  frame {state now asked member} held := by
    obtain ⟨_, entry, inside, alive, rfl⟩ := (RedisScope.mem_liveMembers expiry).mp held
    apply (RedisScope.mem_call timing inside).imp_left
    intro old
    exact mem_live.mpr ⟨entry, old, alive, rfl⟩
  unassured := rfl
  places {state now limit member sweeps stage other} held := by
    obtain ⟨_, entry, inside, alive, rfl⟩ := (RedisScope.mem_liveMembers expiry).mp held
    apply (RedisScope.mem_acquire timing inside).imp
    · exact fun old => mem_live.mpr ⟨entry, old, alive, rfl⟩
    · exact fun ⟨granted, same⟩ => ⟨by simp [RedisScope.advance, granted], same.symm⟩
  room {state now limit member sweeps stage} assures _ := by
    have granted : ((state.opened now expiry).acquire timing now limit member).2 = .granted true := by
      simpa [RedisScope.advance, Progress.assures] using assures
    exact ((RedisScope.acquire_granted timing expiry).mp granted).imp (by simp) fun free => ⟨free, fun _ held _ => held⟩
  full {state now limit member sweeps stage} refused := by
    have taken : ¬((state.opened now expiry).acquire timing now limit member).2 = .granted true := by
      simpa [RedisScope.advance] using refused
    rw [RedisScope.acquire_granted, not_or] at taken
    exact ⟨by simpa using taken.1, Int.not_lt.mp taken.2⟩

theorem redisStore_acquire_alone (state : RedisScope μ) (limit : Int) (member : μ) (sweeps : Bool) :
    ∃ granted, ((state.opened now expiry).call timing now (.acquire limit member sweeps)).2 = .granted granted ∧
      (redisStore timing expiry).Completes now limit member sweeps state (redisStore (μ := μ) timing expiry).first
        ((state.opened now expiry).call timing now (.acquire limit member sweeps)).1 granted := by
  have answered : ∃ granted, ((state.opened now expiry).acquire timing now limit member).2 = .granted granted := by
    unfold RedisScope.acquire
    dsimp only
    split
    · exact ⟨true, rfl⟩
    · split
      · exact ⟨true, rfl⟩
      · exact ⟨false, rfl⟩
  obtain ⟨granted, same⟩ := answered
  refine ⟨granted, same, .answered ?_⟩
  change ((_, .answered (decide (_ = _))) : RedisScope μ × Progress PUnit) = _
  cases granted with
  | true => rw [decide_eq_true same]; rfl
  | false => rw [decide_eq_false (by simp [same])]; rfl

end Redis

end Instances

end Sprintable.Leases
