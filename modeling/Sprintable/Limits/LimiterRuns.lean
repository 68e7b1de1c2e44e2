import Sprintable.Limits.RateLimiter

/-! Runs of calls on one key. The two limiters hold the same times as long as no call finds an entry under
its own time; then they answer alike, keep the window and let a call that waited pass. -/

namespace Sprintable.Limits

/-- The entries that still count at a call. -/
def counted (now : ℚ) (window : List ℚ) : List ℚ := window.filter (now - WINDOW_SECS < ·)

/-- After a call at `clock` the limiters agree, and the window holds what was allowed of late. -/
structure Synced (limit : Nat) (clock : ℚ) (limiters : Limiters) : Prop where
  same : limiters.set.members = limiters.window
  alike : limiters.admittedByRedis = limiters.admittedInMemory
  ascending : limiters.window.Pairwise (· < ·)
  bounded : limiters.window.length ≤ limit
  past : ∀ time ∈ limiters.admittedInMemory, time ≤ clock
  recent : ∃ cutoff ≤ clock - WINDOW_SECS, limiters.window = limiters.admittedInMemory.filter (cutoff < ·)
  spread : Spread limit limiters.admittedInMemory
  lasting : ∀ deadline, limiters.set.expiresAt = some deadline → ∀ time ∈ limiters.window, time + (WINDOW_SECS + 5) ≤ deadline

section Calls
variable {limit : Nat} {clock now : ℚ} {limiters : Limiters}

theorem Synced.start (limit : Nat) (clock : ℚ) : Synced limit clock {} where
  same := rfl
  alike := rfl
  ascending := List.Pairwise.nil
  bounded := Nat.zero_le _
  past _ member := absurd member List.not_mem_nil
  recent := ⟨clock - WINDOW_SECS, le_rfl, rfl⟩
  spread _ := ⟨Nat.zero_le _, Nat.zero_le _⟩
  lasting _ _ _ member := absurd member List.not_mem_nil

theorem Synced.window_past (synced : Synced limit clock limiters) : ∀ time ∈ limiters.window, time ≤ clock := by
  obtain ⟨cutoff, -, shape⟩ := synced.recent
  rw [shape]
  exact fun time member => synced.past time (List.mem_of_mem_filter member)

theorem Synced.counted (synced : Synced limit clock limiters) (later : clock ≤ now) :
    counted now limiters.window = limiters.admittedInMemory.filter (now - WINDOW_SECS < ·) := by
  obtain ⟨cutoff, old, shape⟩ := synced.recent
  rw [Limits.counted, shape, List.filter_filter]
  apply List.filter_congr
  intro time _
  apply Bool.eq_iff_iff.mpr
  simp only [Bool.and_eq_true, decide_eq_true_eq, and_iff_left_iff_imp]
  intro counts
  linarith

theorem counted_length (now : ℚ) (window : List ℚ) : (counted now window).length ≤ window.length := List.length_filter_le _ _

theorem inMemory_spec (synced : Synced limit clock limiters) : limiters.inMemory limit now =
    if limit ≤ (counted now limiters.window).length then
      (counted now limiters.window,
        ⟨false, 0, retryAfter ((counted now limiters.window).headD now) (now - WINDOW_SECS)⟩)
    else (counted now limiters.window ++ [now], ⟨true, limit - ((counted now limiters.window).length + 1), 0⟩) := by
  have pops : limiters.window.dropWhile (· ≤ now - WINDOW_SECS) = counted now limiters.window :=
    dropWhile_ascending synced.ascending
  unfold Limiters.inMemory InMemory.check
  dsimp only
  rw [pops, List.length_append, List.length_singleton, Nat.cast_add, Nat.cast_one]

theorem live_counted (synced : Synced limit clock limiters) :
    (limiters.set.live now).filter (now - WINDOW_SECS < ·) = counted now limiters.window := by
  unfold Redis.SortedSet.live
  split
  next expired =>
    obtain ⟨deadline, ends, over_⟩ := Option.any_eq_true _ _ |>.mp expired
    symm
    apply List.filter_eq_nil_iff.mpr
    intro time member counts
    have long := synced.lasting deadline ends time member
    have over_ := of_decide_eq_true over_
    have counts := of_decide_eq_true counts
    linarith
  next => rw [synced.same, counted]

theorem redis_spec (synced : Synced limit clock limiters) (positive : 0 < limit) (later : clock ≤ now)
    (fresh : Fresh limiters now) : limiters.redis limit now =
      (⟨(limiters.inMemory limit now).1, some (now + (WINDOW_SECS + 5))⟩, (limiters.inMemory limit now).2) := by
  rw [Fresh, synced.same] at fresh
  have absent : now ∉ counted now limiters.window := fun member => fresh (List.mem_of_mem_filter member)
  have added : Redis.zadd (counted now limiters.window) now = counted now limiters.window ++ [now] :=
    zadd_last (fun time member => (synced.window_past time (List.mem_of_mem_filter member)).trans later) absent
  rw [inMemory_spec synced]
  unfold Limiters.redis Redis.check
  dsimp only
  rw [live_counted synced, added, List.length_append, List.length_singleton]
  by_cases full : limit ≤ (counted now limiters.window).length
  · rw [if_pos full, if_pos (Nat.lt_succ_of_le full)]
    cases shape : counted now limiters.window with
    | nil =>
      rw [shape] at full
      exact absurd positive (Nat.not_lt.mpr full)
    | cons oldest rest =>
      rw [shape] at absent
      rw [List.erase_append_right _ absent, List.erase_cons_head, List.append_nil]
      rfl
  · rw [if_neg full, if_neg fun count => full (Nat.le_of_lt_succ count), Nat.cast_add, Nat.cast_one]

theorem coincidence_differs (synced : Synced limit clock limiters) (stale : ¬ Fresh limiters now) :
    (limiters.inMemory limit now).2.allowed = (limiters.redis limit now).2.allowed →
      (limiters.inMemory limit now).2.remaining ≠ (limiters.redis limit now).2.remaining := by
  have member : now ∈ limiters.window := synced.same ▸ not_not.mp stale
  have own : now - WINDOW_SECS < now := by
    unfold WINDOW_SECS
    linarith
  have present : now ∈ counted now limiters.window := List.mem_filter.mpr ⟨member, decide_eq_true own⟩
  have kept : Redis.zadd (counted now limiters.window) now = counted now limiters.window := if_pos present
  have few : ¬ limit < (counted now limiters.window).length :=
    Nat.not_lt.mpr ((counted_length now limiters.window).trans synced.bounded)
  rw [inMemory_spec synced]
  unfold Limiters.redis Redis.check
  dsimp only
  rw [live_counted synced, kept, if_neg few]
  split
  · intro differ
    cases differ
  · intro _ same
    dsimp only at same
    omega

end Calls

section Windows
variable {limit : Nat} {now : ℚ} {admitted : List ℚ}

/-- Another call in a window that ends at it, or later, leaves the windows as full as the last one is. -/
theorem Spread.snoc (spread : Spread limit admitted) (few : (admitted.filter (now - WINDOW_SECS < ·)).length < limit) :
    Spread limit (admitted ++ [now]) := by
  have one (within : ℚ → Bool) (before : (admitted.filter within).length ≤ limit)
      (near : within now = true → ∀ time, within time = true → now - WINDOW_SECS < time) :
      ((admitted ++ [now]).filter within).length ≤ limit := by
    rw [List.filter_append, List.length_append]
    by_cases holds : within now = true
    · have sub : (admitted.filter within).length ≤ (admitted.filter (now - WINDOW_SECS < ·)).length :=
        (List.monotone_filter_right admitted fun time inside => decide_eq_true (near holds time inside)).length_le
      have single : ([now].filter within).length ≤ 1 := List.length_filter_le _ _
      omega
    · rw [List.filter_cons_of_neg holds, List.filter_nil]
      exact before
  intro start
  refine ⟨one _ (spread start).1 ?_, one _ (spread start).2 ?_⟩
  · intro inside time within
    have inside := of_decide_eq_true inside
    have within := of_decide_eq_true within
    linarith [inside.2, within.1]
  · intro inside time within
    have inside := of_decide_eq_true inside
    have within := of_decide_eq_true within
    linarith [inside.2, within.1]

end Windows

section Steps
variable {limit : Nat} {clock now : ℚ} {limiters : Limiters}

theorem Synced.check (synced : Synced limit clock limiters) (positive : 0 < limit) (later : clock ≤ now)
    (fresh : Fresh limiters now) : Synced limit now (limiters.check limit now) := by
  have counts := synced.counted later
  have sorted : (Limits.counted now limiters.window).Pairwise (· < ·) := synced.ascending.filter _
  have short := (counted_length now limiters.window).trans synced.bounded
  have behind : ∀ time ∈ Limits.counted now limiters.window, time < now := by
    intro time member
    have inside := List.mem_of_mem_filter member
    rw [Fresh, synced.same] at fresh
    exact lt_of_le_of_ne ((synced.window_past time inside).trans later) fun same => fresh (same ▸ inside)
  have answers := redis_spec synced positive later fresh
  have memory := @inMemory_spec limit clock now limiters synced
  unfold Limiters.check
  rw [answers, synced.alike]
  by_cases full : limit ≤ (Limits.counted now limiters.window).length
  · rw [if_pos full] at memory
    rw [memory]
    refine ⟨rfl, rfl, sorted, short, ?_, ⟨now - WINDOW_SECS, le_rfl, ?_⟩, ?_, ?_⟩
    · simpa using fun time member => (synced.past time member).trans later
    · simpa using counts
    · simpa using synced.spread
    · rintro deadline ⟨⟩ time member
      exact add_le_add_left (behind time member).le _
  · rw [if_neg full] at memory
    rw [memory]
    have few := lt_of_not_ge full
    refine ⟨rfl, rfl, ?_, ?_, ?_, ⟨now - WINDOW_SECS, le_rfl, ?_⟩, ?_, ?_⟩
    · apply List.pairwise_append.mpr
      exact ⟨sorted, List.pairwise_singleton _ _, fun time member _ last => List.mem_singleton.mp last ▸ behind time member⟩
    · rw [List.length_append, List.length_singleton]
      exact few
    · intro time member
      rcases List.mem_append.mp member with earlier | last
      · exact (synced.past time earlier).trans later
      · exact (List.mem_singleton.mp last).le
    · have own : now - WINDOW_SECS < now := by
        unfold WINDOW_SECS
        linarith
      have last : [now].filter (now - WINDOW_SECS < ·) = [now] := List.filter_cons_of_pos (by simpa using own)
      dsimp only
      rw [List.filter_append, counts, if_pos rfl, last]
    · exact synced.spread.snoc (counts ▸ few)
    · rintro deadline ⟨⟩ time member
      rcases List.mem_append.mp member with earlier | last
      · exact add_le_add_left (behind time earlier).le _
      · rw [List.mem_singleton.mp last]

theorem Synced.retry (synced : Synced limit clock limiters) (positive : 0 < limit) (later : clock ≤ now)
    (fresh : Fresh limiters now) (refused : (limiters.inMemory limit now).2.allowed = false) :
    ((limiters.check limit now).inMemory limit (now + (limiters.inMemory limit now).2.retryAfter)).2.allowed = true := by
  have next := synced.check positive later fresh
  have memory := @inMemory_spec limit clock now limiters synced
  by_cases full : limit ≤ (Limits.counted now limiters.window).length
  · rw [if_pos full] at memory
    have window : (limiters.check limit now).window = Limits.counted now limiters.window := congrArg Prod.fst memory
    have told : (limiters.inMemory limit now).2.retryAfter =
        retryAfter ((Limits.counted now limiters.window).headD now) (now - WINDOW_SECS) := congrArg (fun answer => answer.2.retryAfter) memory
    cases shape : Limits.counted now limiters.window with
    | nil =>
      rw [shape] at full
      exact absurd positive (Nat.not_lt.mpr full)
    | cons oldest rest =>
      have counts : now - WINDOW_SECS < oldest := by
        have member : oldest ∈ Limits.counted now limiters.window := shape ▸ List.mem_cons_self
        exact of_decide_eq_true (List.mem_filter.mp member).2
      have waits := retry_enough oldest (now - WINDOW_SECS) counts
      have bound := next.bounded
      rw [window, shape] at bound
      rw [told, shape, List.headD_cons, inMemory_spec next, window, shape]
      have gone : ¬ now + retryAfter oldest (now - WINDOW_SECS) - WINDOW_SECS < oldest := by linarith
      have room : ¬ limit ≤ (Limits.counted (now + retryAfter oldest (now - WINDOW_SECS)) (oldest :: rest)).length := by
        rw [Limits.counted, List.filter_cons_of_neg (by simpa using gone)]
        have fewer := List.length_filter_le (fun time => decide (now + retryAfter oldest (now - WINDOW_SECS) - WINDOW_SECS < time)) rest
        rw [List.length_cons] at bound
        omega
      rw [if_neg room]
  · rw [if_neg full] at memory
    rw [memory] at refused
    cases refused

theorem Synced.law (synced : Synced limit clock limiters) (positive : 0 < limit) (later : clock ≤ now)
    (fresh : Fresh limiters now) : CallLaw limit limiters now := by
  have answers := redis_spec synced positive later fresh
  have next := synced.check positive later fresh
  have same : (limiters.redis limit now).2 = (limiters.inMemory limit now).2 := congrArg Prod.snd answers
  refine ⟨congrArg Answer.allowed same.symm, congrArg Answer.remaining same.symm, next.spread, next.alike ▸ next.spread, ?_, ?_⟩
  · exact synced.retry positive later fresh
  · rw [same]
    intro refused
    have told : (1 : ℚ) ≤ (limiters.inMemory limit now).2.retryAfter := by
      have memory := @inMemory_spec limit clock now limiters synced
      split at memory
      · rw [memory]
        exact retry_positive _ _
      · rw [memory] at refused
        cases refused
    have ahead : Fresh (limiters.check limit now) (now + (limiters.inMemory limit now).2.retryAfter) := by
      intro member
      rw [next.same] at member
      have past := next.window_past _ member
      linarith
    rw [redis_spec next positive (by linarith) ahead]
    exact synced.retry positive later fresh refused

end Steps

/-- In every run of calls at times that do not decrease, the limiters keep their law exactly as long as no
call finds an entry under its own time. -/
theorem limiters_agree_iff (limit : Nat) (positive : 0 < limit) (times : List ℚ) (ordered : times.Pairwise (· ≤ ·)) :
    Runs.Throughout (Limiters.check limit) Fresh {} times ↔ Runs.Throughout (Limiters.check limit) (CallLaw limit) {} times := by
  have along (limiters : Limiters) (clock : ℚ) (synced : Synced limit clock limiters) (ahead : ∀ time ∈ times, clock ≤ time) :
      Runs.Throughout (Limiters.check limit) Fresh limiters times ↔
        Runs.Throughout (Limiters.check limit) (CallLaw limit) limiters times := by
    induction times generalizing limiters clock with
    | nil => exact Iff.rfl
    | cons now times ih =>
      obtain ⟨first, rest⟩ := List.pairwise_cons.mp ordered
      have later := ahead now List.mem_cons_self
      by_cases fresh : Fresh limiters now
      · have next := ih rest (Limiters.check limit limiters now) now (synced.check positive later fresh) first
        exact and_congr (iff_of_true fresh (synced.law positive later fresh)) next
      · refine iff_of_false (fun met => fresh met.1) fun met => ?_
        exact coincidence_differs synced fresh met.1.allowed met.1.remaining
  cases times with
  | nil => exact Iff.rfl
  | cons now times =>
    obtain ⟨first, -⟩ := List.pairwise_cons.mp ordered
    refine along {} now (Synced.start limit now) fun time member => ?_
    rcases List.mem_cons.mp member with rfl | behind
    · exact le_rfl
    · exact first time behind

/-- Three calls a second apart under a limit of two: the third is refused by both, and told to wait. -/
theorem limiters_agree_three :
    Runs.Throughout (Limiters.check 2) Fresh {} [0, 1, 2] ∧ Runs.Throughout (Limiters.check 2) (CallLaw 2) {} [0, 1, 2] := by
  have fresh : Runs.Throughout (Limiters.check 2) Fresh {} [0, 1, 2] := by
    refine ⟨?_, ?_, ?_, trivial⟩ <;> (unfold Fresh; decide +kernel)
  exact ⟨fresh, (limiters_agree_iff 2 (by decide) [0, 1, 2] (by decide)).mp fresh⟩

/-- Of two calls at one instant Redis allows both under a limit of one. -/
theorem same_instant_allowed_twice : ¬ Runs.Throughout (Limiters.check 1) (CallLaw 1) {} [0, 0] := by
  intro law
  have differ : ((Limiters.check 1 {} 0).inMemory 1 0).2.allowed ≠ ((Limiters.check 1 {} 0).redis 1 0).2.allowed := by
    decide +kernel
  exact differ law.2.1.allowed

end Sprintable.Limits
