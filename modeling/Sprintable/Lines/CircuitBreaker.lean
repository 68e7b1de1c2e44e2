import Sprintable.Logic.SlidingWindow
import Sprintable.Lines.Engine

/-! What the circuit breaker of an organisation is for, and when the search through the recent engine
failures answers it. -/

namespace Sprintable.Lines

open SlidingWindow

def allFailures (runs : List StepRun) (orgId : Uuid) : List Nat :=
  (runs.filter fun run => run.orgId == orgId && run.status == .engineFailed).map StepRun.startedAt

/-- Some window holds as many failures as the threshold, and its last one lies in the cool-down that
ends now. -/
def BreakerDue (failures : List Nat) (now : Nat) : Prop :=
  ∃ stop last, cbThreshold ≤ (inside cbWindow stop failures).length ∧ last ∈ inside cbWindow stop failures ∧
    (∀ time ∈ inside cbWindow stop failures, time ≤ last) ∧ last ≤ now ∧ now ≤ last + cbDegrade

def Trips (failures : List Nat) (last : Nat) : Prop :=
  last ∈ failures ∧ cbThreshold ≤ (inside cbWindow last failures).length

def withinLookback (failures : List Nat) (now : Nat) : List Nat :=
  failures.filter fun time => now < time + (cbWindow + cbDegrade)

/-- A trip among the failures that the query finds lies in the cool-down. Where there is none, one that
ends just when the cool-down began and one that ends after now are both there, or neither is. -/
def EdgesAgree (failures : List Nat) (now : Nat) : Prop :=
  (∃ last, Trips (withinLookback failures now) last ∧ last ≤ now ∧ now ≤ last + cbDegrade) ∨
    ((∃ last, Trips failures last ∧ now = last + cbDegrade) ↔ ∃ last, Trips failures last ∧ now < last)

section Search
variable {failures : List Nat} {now last : Nat}

theorem engine_failures_sorted (runs : List StepRun) (orgId : Uuid) (now : Nat) :
    engineFailures runs orgId now = (withinLookback (allFailures runs orgId) now).insertionSort (· ≤ ·) := by
  have rows : (runs.filter fun run => run.orgId == orgId && run.status == .engineFailed &&
      decide (now < run.startedAt + (cbWindow + cbDegrade))).map StepRun.startedAt =
        withinLookback (allFailures runs orgId) now := by
    rw [withinLookback, allFailures, List.filter_map, List.filter_filter]
    congr 1
    apply List.filter_congr
    intro run _
    rw [Bool.and_comm, Function.comp_apply]
  rw [engineFailures, rows]

theorem circuit_open_iff : circuitOpen ((withinLookback failures now).insertionSort (· ≤ ·)) now = true ↔
    ∃ last, Trips (withinLookback failures now) last ∧ now ≤ last + cbDegrade := by
  have sorted := List.pairwise_insertionSort (· ≤ ·) (withinLookback failures now)
  have same := List.perm_insertionSort (· ≤ ·) (withinLookback failures now)
  have crowd (last : Nat) : (inside cbWindow last ((withinLookback failures now).insertionSort (· ≤ ·))).length =
      (inside cbWindow last (withinLookback failures now)).length := (same.filter _).length_eq
  have search := @crowded_iff _ cbWindow sorted cbThreshold (by decide) fun last => now ≤ last + cbDegrade
  constructor
  · intro found
    unfold circuitOpen at found
    split at found
    · cases found
    obtain ⟨index, -, pair⟩ := List.any_eq_true.mp found
    split at pair
    next first last starts stops =>
      obtain ⟨near, recent⟩ := Bool.and_eq_true_iff.mp pair
      obtain ⟨last, member, enough, fits⟩ := search.mp
        ⟨index, first, last, starts, stops, of_decide_eq_true near, of_decide_eq_true recent⟩
      exact ⟨last, ⟨same.mem_iff.mp member, crowd last ▸ enough⟩, fits⟩
    · cases pair
  · intro ⟨last, ⟨member, enough⟩, fits⟩
    obtain ⟨index, first, final, starts, stops, near, recent⟩ := search.mpr
      ⟨last, same.mem_iff.mpr member, (crowd last).symm ▸ enough, fits⟩
    have many : ¬ ((withinLookback failures now).insertionSort (· ≤ ·)).length < cbThreshold := by
      rw [same.length_eq]
      exact Nat.not_lt.mpr (Nat.le_trans enough (List.length_filter_le _ _))
    obtain ⟨valid, -⟩ := List.getElem?_eq_some_iff.mp starts
    unfold circuitOpen
    rw [if_neg many]
    apply List.any_eq_true.mpr
    refine ⟨index, List.mem_range.mpr valid, ?_⟩
    rw [Nat.add_sub_assoc (show 1 ≤ cbThreshold by decide), starts, stops]
    exact Bool.and_eq_true_iff.mpr ⟨decide_eq_true near, decide_eq_true recent⟩

theorem trips_withinLookback (recent : now < last + cbDegrade) :
    Trips (withinLookback failures now) last ↔ Trips failures last := by
  have window : inside cbWindow last (withinLookback failures now) = inside cbWindow last failures := by
    unfold inside withinLookback
    rw [List.filter_filter]
    apply List.filter_congr
    intro time _
    apply Bool.eq_iff_iff.mpr
    simp only [Bool.and_eq_true, decide_eq_true_eq]
    constructor
    · exact fun both => both.1
    · intro within
      exact ⟨within, by omega⟩
  unfold Trips
  rw [window]
  apply and_congr_left
  intro _
  unfold withinLookback
  rw [List.mem_filter]
  constructor
  · exact fun both => both.1
  · intro member
    refine ⟨member, decide_eq_true ?_⟩
    omega

theorem Trips.of_withinLookback (trip : Trips (withinLookback failures now) last) : Trips failures last := by
  obtain ⟨member, enough⟩ := trip
  refine ⟨List.mem_of_mem_filter member, Nat.le_trans enough ?_⟩
  exact (List.filter_sublist.filter _).length_le

theorem breaker_due_iff : BreakerDue failures now ↔ ∃ last, Trips failures last ∧ last ≤ now ∧ now ≤ last + cbDegrade := by
  constructor
  · intro ⟨stop, last, enough, within, latest, past, recent⟩
    refine ⟨last, ⟨List.mem_of_mem_filter within, Nat.le_trans enough ?_⟩, past, recent⟩
    have ends : last ≤ stop := (of_decide_eq_true (List.mem_filter.mp within).2).1
    rw [inside, inside, ← List.countP_eq_length_filter, ← List.countP_eq_length_filter]
    apply List.countP_mono_left
    intro time member held
    have bounds := of_decide_eq_true held
    exact decide_eq_true ⟨latest time (List.mem_filter.mpr ⟨member, held⟩), Nat.le_trans ends bounds.2⟩
  · intro ⟨last, ⟨member, enough⟩, past, recent⟩
    have self : last ∈ inside cbWindow last failures :=
      List.mem_filter.mpr ⟨member, decide_eq_true ⟨Nat.le_refl last, Nat.le_add_right last cbWindow⟩⟩
    refine ⟨last, last, enough, self, ?_, past, recent⟩
    exact fun time within => (of_decide_eq_true (List.mem_filter.mp within).2).1

end Search

/-- The breaker is open exactly when it is due, as long as the edges of the look-back and of the present
agree: a trip whose first failure is as old as the look-back is not found, and one that lies ahead is. -/
theorem circuit_open_iff_due (runs : List StepRun) (orgId : Uuid) (now : Nat) :
    (circuitOpen (engineFailures runs orgId now) now = true ↔ BreakerDue (allFailures runs orgId) now) ↔
      EdgesAgree (allFailures runs orgId) now := by
  rw [engine_failures_sorted, circuit_open_iff, breaker_due_iff, EdgesAgree]
  by_cases regular : ∃ last, Trips (withinLookback (allFailures runs orgId) now) last ∧ last ≤ now ∧ now ≤ last + cbDegrade
  · obtain ⟨last, trip, past, recent⟩ := regular
    refine iff_of_true (iff_of_true ⟨last, trip, recent⟩ ⟨last, trip.of_withinLookback, past, recent⟩) ?_
    exact .inl ⟨last, trip, past, recent⟩
  · rw [or_iff_right regular]
    have ahead : (∃ last, Trips (withinLookback (allFailures runs orgId) now) last ∧ now ≤ last + cbDegrade) ↔
        ∃ last, Trips (allFailures runs orgId) last ∧ now < last := by
      constructor
      · intro ⟨last, trip, recent⟩
        exact ⟨last, trip.of_withinLookback, Nat.lt_of_not_le fun past => regular ⟨last, trip, past, recent⟩⟩
      · intro ⟨last, trip, later⟩
        have recent : now < last + cbDegrade := Nat.lt_add_right cbDegrade later
        exact ⟨last, (trips_withinLookback recent).mpr trip, Nat.le_of_lt recent⟩
    have edge : (∃ last, Trips (allFailures runs orgId) last ∧ last ≤ now ∧ now ≤ last + cbDegrade) ↔
        ∃ last, Trips (allFailures runs orgId) last ∧ now = last + cbDegrade := by
      constructor
      · intro ⟨last, trip, past, recent⟩
        refine ⟨last, trip, Nat.le_antisymm recent (Nat.le_of_not_lt fun inner => ?_)⟩
        exact regular ⟨last, (trips_withinLookback inner).mpr trip, past, recent⟩
      · intro ⟨last, trip, exactly⟩
        exact ⟨last, trip, exactly ▸ Nat.le_add_right last cbDegrade, Nat.le_of_eq exactly⟩
    rw [ahead, edge]
    exact Iff.comm

/-- A failure that is exactly as old as the look-back, and four that end the window just when the
cool-down began. -/
def edgeFailures : List StepRun :=
  (minutes 5 :: List.replicate 4 (minutes 10)).map fun started =>
    { id := 1, orgId := 2, projectId := 3, entityType := "story", entityId := 4, toStatus := "done", status := .engineFailed
      mode := .engineFailed, startedAt := started }

theorem edge_window_missed :
    ¬ (circuitOpen (engineFailures edgeFailures 2 (minutes 25)) (minutes 25) = true ↔
      BreakerDue (allFailures edgeFailures 2) (minutes 25)) := by
  have closed : circuitOpen (engineFailures edgeFailures 2 (minutes 25)) (minutes 25) = false := by decide +kernel
  intro agree
  have due : BreakerDue (allFailures edgeFailures 2) (minutes 25) :=
    ⟨minutes 10, minutes 10, by decide +kernel, by decide +kernel, by decide +kernel, by decide +kernel, by decide +kernel⟩
  rw [agree.mpr due] at closed
  cases closed

end Sprintable.Lines
