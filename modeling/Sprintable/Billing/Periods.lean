import Mathlib.Tactic.IntervalCases
import Sprintable.Billing.Amounts
import Sprintable.Logic.Runs

/-! The billing periods of a subscription, on dates as they are written: what one renewal makes of the end
of the period before it, and what many of them make of the first day. -/

namespace Sprintable.Billing

inductive PeriodError where
  | billingCycle (name : String)
  | dateRange
  deriving DecidableEq, Repr

/-- `calendar.monthrange(year, month)[1]`. -/
def monthrange (year month : Nat) : Nat :=
  if month = 2 then if Calendar.isLeap year then 29 else 28
  else if month ∈ [4, 6, 9, 11] then 30
  else 31

/-- A moment in UTC; the time of day is in microseconds. -/
structure DateTime where
  year : Nat
  month : Nat
  day : Nat
  time : Nat
  years : 1 ≤ year ∧ year ≤ 9999
  months : 1 ≤ month ∧ month ≤ 12
  days : 1 ≤ day ∧ day ≤ monthrange year month
  clock : time < Calendar.microsPerDay
  deriving DecidableEq

namespace DateTime

def replace (dt : DateTime) (year month day : Nat) : Except PeriodError DateTime :=
  if valid : (1 ≤ year ∧ year ≤ 9999) ∧ (1 ≤ month ∧ month ≤ 12) ∧ 1 ≤ day ∧ day ≤ monthrange year month then
    .ok ⟨year, month, day, dt.time, valid.1, valid.2.1, valid.2.2, dt.clock⟩
  else .error .dateRange

def addMonths (dt : DateTime) (months : Nat) : Except PeriodError DateTime :=
  let totalMonthIndex := dt.month - 1 + months
  let year := dt.year + totalMonthIndex / 12
  let month := totalMonthIndex % 12 + 1
  dt.replace year month (min dt.day (monthrange year month))

def computePeriodEnd (periodStart : DateTime) (billingCycle : String) : Except PeriodError DateTime :=
  if billingCycle = "monthly" then periodStart.addMonths 1
  else if billingCycle = "annual" then periodStart.addMonths 12
  else .error (.billingCycle billingCycle)

def Before (first second : DateTime) : Prop :=
  first.year < second.year ∨ (first.year = second.year ∧ (first.month < second.month ∨ (first.month = second.month ∧
    (first.day < second.day ∨ (first.day = second.day ∧ first.time < second.time)))))

/-- The year and the month that lie so many months on. -/
def monthOn (dt : DateTime) (months : Nat) : Nat × Nat :=
  (dt.year + (dt.month - 1 + months) / 12, (dt.month - 1 + months) % 12 + 1)

def lengthOn (dt : DateTime) (months : Nat) : Nat := monthrange (dt.monthOn months).1 (dt.monthOn months).2

end DateTime

structure Period where
  start : DateTime
  finish : DateTime
  deriving DecidableEq

/-- `new_subscription_period`, monthly. -/
def newPeriod (now : DateTime) : Except PeriodError Period := do
  let finish ← now.computePeriodEnd "monthly"
  return ⟨now, finish⟩

/-- What `trigger_due_charges` writes after a confirmed charge. -/
def renewPeriod (period : Period) : Except PeriodError Period := do
  let finish ← period.finish.computePeriodEnd "monthly"
  return ⟨period.finish, finish⟩

def renewals (now : DateTime) : Nat → Except PeriodError Period
  | 0 => newPeriod now
  | n + 1 => do renewPeriod (← renewals now n)

section Months
variable {dt : DateTime} {months : Nat}

theorem monthrange_bounds (year month : Nat) : 28 ≤ monthrange year month ∧ monthrange year month ≤ 31 := by
  unfold monthrange
  split
  · split <;> omega
  · split <;> omega

theorem monthOn_add {later : DateTime} (at_ : (later.year, later.month) = dt.monthOn months) (more : Nat) :
    later.monthOn more = dt.monthOn (months + more) := by
  obtain ⟨year, month⟩ := Prod.mk.inj at_
  simp only [DateTime.monthOn, Prod.mk.injEq]
  have first := dt.months
  rw [year, month]
  omega

theorem monthOn_later {more : Nat} (later : months < more) :
    (dt.monthOn months).1 < (dt.monthOn more).1 ∨
      ((dt.monthOn months).1 = (dt.monthOn more).1 ∧ (dt.monthOn months).2 < (dt.monthOn more).2) := by
  simp only [DateTime.monthOn]
  omega

/-- Adding months succeeds up to the last year there is; the day is cut to the length of the month. -/
theorem addMonths_spec (dt : DateTime) (months : Nat) :
    if (dt.monthOn months).1 ≤ 9999 then
      ∃ after, dt.addMonths months = .ok after ∧ (after.year, after.month) = dt.monthOn months ∧
        after.day = min dt.day (dt.lengthOn months) ∧ after.time = dt.time
    else dt.addMonths months = .error .dateRange := by
  have long := (monthrange_bounds (dt.monthOn months).1 (dt.monthOn months).2).1
  have day := dt.days
  have year := dt.years
  split
  next inside =>
    have valid : (1 ≤ (dt.monthOn months).1 ∧ (dt.monthOn months).1 ≤ 9999) ∧
        (1 ≤ (dt.monthOn months).2 ∧ (dt.monthOn months).2 ≤ 12) ∧
        1 ≤ min dt.day (dt.lengthOn months) ∧ min dt.day (dt.lengthOn months) ≤ monthrange (dt.monthOn months).1 (dt.monthOn months).2 := by
      refine ⟨⟨?_, inside⟩, ⟨?_, ?_⟩, ?_, Nat.min_le_right _ _⟩
      · simp only [DateTime.monthOn]
        omega
      · simp only [DateTime.monthOn]
        omega
      · simp only [DateTime.monthOn]
        omega
      · unfold DateTime.lengthOn
        omega
    exact ⟨_, dif_pos valid, rfl, rfl, rfl⟩
  next outside => exact dif_neg fun valid => outside valid.1.2

end Months

section Instants
variable {dt after : DateTime} {months : Nat}

/-- The months from January 1970 on. -/
def DateTime.monthIndex (dt : DateTime) : Nat := (dt.year - 1970) * 12 + (dt.month - 1)

def DateTime.instant (dt : DateTime) : Nat :=
  (Calendar.firstDay dt.monthIndex + (dt.day - 1)) * Calendar.microsPerDay + dt.time

theorem monthrange_eq (epoch : 1970 ≤ dt.year) : Calendar.monthLength dt.monthIndex = monthrange dt.year dt.month := by
  have months := dt.months
  have year : 1970 + dt.monthIndex / 12 = dt.year := by
    unfold DateTime.monthIndex
    omega
  have month : dt.monthIndex % 12 = dt.month - 1 := by
    unfold DateTime.monthIndex
    omega
  unfold Calendar.monthLength monthrange
  rw [year, month]
  obtain ⟨least, most⟩ := months
  interval_cases dt.month <;> rfl

theorem instant_addMonths (epoch : 1970 ≤ dt.year) (added : dt.addMonths months = .ok after) :
    after.instant = Calendar.addMonths dt.instant months := by
  have spec := addMonths_spec dt months
  split at spec
  next =>
    obtain ⟨_, same, month, day, time⟩ := spec
    rw [added] at same
    cases same
    have days := dt.days
    have long := (monthrange_bounds dt.year dt.month).1
    have first := dt.months
    have date : Calendar.date dt.instant = Calendar.firstDay dt.monthIndex + (dt.day - 1) := by
      rw [Calendar.date, DateTime.instant, Nat.mul_comm, Nat.mul_add_div (by decide), Nat.div_eq_of_lt dt.clock, Nat.add_zero]
    have clock : dt.instant % Calendar.microsPerDay = dt.time := by
      rw [DateTime.instant, Nat.mul_comm, Nat.mul_add_mod, Nat.mod_eq_of_lt dt.clock]
    have civil : Calendar.civil (Calendar.date dt.instant) = (dt.monthIndex, dt.day - 1) := by
      rw [date]
      apply Calendar.civil_eq
      rw [monthrange_eq epoch]
      omega
    obtain ⟨year, month⟩ := Prod.mk.inj month
    have target : after.monthIndex = dt.monthIndex + months := by
      unfold DateTime.monthIndex
      rw [year, month]
      omega
    have later : 1970 ≤ after.year := by
      rw [year]
      exact Nat.le_trans epoch (Nat.le_add_right _ _)
    have length : Calendar.monthLength (dt.monthIndex + months) = dt.lengthOn months := by
      rw [← target, monthrange_eq later, year, month]
      rfl
    rw [Calendar.addMonths, civil, clock, length, DateTime.instant, target, day, time]
    congr 3
    omega
  next =>
    rw [added] at spec
    cases spec

theorem epoch_addMonths (epoch : 1970 ≤ dt.year) (added : dt.addMonths months = .ok after) : 1970 ≤ after.year := by
  have spec := addMonths_spec dt months
  rw [added] at spec
  split at spec
  · obtain ⟨_, same, month, -⟩ := spec
    cases same
    exact (Prod.mk.inj month).1 ▸ Nat.le_trans epoch (Nat.le_add_right _ _)
  · cases spec

end Instants

/-- The day of the boundary after so many renewals: every month that is reached may cut it. -/
def dayOn (first : DateTime) : Nat → Nat
  | 0 => first.day
  | n + 1 => min (dayOn first n) (first.lengthOn (n + 1))

/-- The moment is the boundary after so many renewals. -/
structure Bounds (first : DateTime) (n : Nat) (moment : DateTime) : Prop where
  month : (moment.year, moment.month) = first.monthOn n
  day : moment.day = dayOn first n
  time : moment.time = first.time

section Runs
variable {first moment : DateTime} {n : Nat}

theorem Bounds.start (first : DateTime) : Bounds first 0 first where
  month := by
    have months := first.months
    simp only [DateTime.monthOn, Prod.mk.injEq]
    omega
  day := rfl
  time := rfl

theorem Bounds.next (bounds : Bounds first n moment) :
    if (first.monthOn (n + 1)).1 ≤ 9999 then
      ∃ after, moment.computePeriodEnd "monthly" = .ok after ∧ Bounds first (n + 1) after ∧ moment.Before after
    else moment.computePeriodEnd "monthly" = .error .dateRange := by
  have on := monthOn_add bounds.month 1
  have moved := addMonths_spec moment 1
  have call : moment.computePeriodEnd "monthly" = moment.addMonths 1 := if_pos rfl
  rw [on] at moved
  rw [call]
  split
  next inside =>
    rw [if_pos inside] at moved
    obtain ⟨after, added, month, day, time⟩ := moved
    refine ⟨after, added, ⟨month, ?_, time.trans bounds.time⟩, ?_⟩
    · rw [day, bounds.day, dayOn, DateTime.lengthOn, on]
      rfl
    · rcases @monthOn_later first n (n + 1) (Nat.lt_succ_self n) with year | ⟨year, later⟩
      · rw [← bounds.month, ← month] at year
        exact .inl year
      · rw [← bounds.month, ← month] at year later
        exact .inr ⟨year, .inl later⟩
  next outside =>
    rw [if_neg outside] at moved
    exact moved

theorem renewals_succ {period : Period} (renewed : renewals first n = .ok period) :
    renewals first (n + 1) = renewPeriod period := by
  rw [renewals, renewed]
  rfl

theorem renewPeriod_start {period next : Period} (renewed : renewPeriod period = .ok next) : next.start = period.finish := by
  unfold renewPeriod at renewed
  obtain ⟨finish, -, made⟩ := Runs.bind_ok renewed
  cases made
  rfl

theorem renewals_spec (first : DateTime) (n : Nat) :
    if (first.monthOn (n + 1)).1 ≤ 9999 then
      ∃ period, renewals first n = .ok period ∧ Bounds first n period.start ∧ Bounds first (n + 1) period.finish ∧
        period.start.Before period.finish
    else renewals first n = .error .dateRange := by
  induction n with
  | zero =>
    have next := (Bounds.start first).next
    unfold renewals newPeriod
    split
    next inside =>
      rw [if_pos inside] at next
      obtain ⟨after, ends, bounds, later⟩ := next
      rw [ends]
      exact ⟨⟨first, after⟩, rfl, Bounds.start first, bounds, later⟩
    next outside =>
      rw [if_neg outside] at next
      rw [next]
      rfl
  | succ n ih =>
    have year : (first.monthOn (n + 1)).1 ≤ (first.monthOn (n + 2)).1 := by
      rcases @monthOn_later first (n + 1) (n + 2) (Nat.lt_succ_self _) with later | ⟨same, _⟩
      · exact Nat.le_of_lt later
      · exact Nat.le_of_eq same
    by_cases reached : (first.monthOn (n + 1)).1 ≤ 9999
    · rw [if_pos reached] at ih
      obtain ⟨period, before, -, bounds, -⟩ := ih
      have next := bounds.next
      rw [renewals_succ before, renewPeriod]
      split
      next inside =>
        rw [if_pos inside] at next
        obtain ⟨after, ends, later, grows⟩ := next
        rw [ends]
        exact ⟨⟨period.finish, after⟩, rfl, bounds, later, grows⟩
      next outside =>
        rw [if_neg outside] at next
        rw [next]
        rfl
    · rw [if_neg reached] at ih
      rw [if_neg fun inside => reached (Nat.le_trans year inside), renewals, ih]
      rfl

/-- The day of a boundary is the least of the first day and the lengths of the months up to it. -/
theorem dayOn_least (first : DateTime) (n : Nat) : dayOn first n ≤ first.day ∧
    (∀ months, 1 ≤ months → months ≤ n → dayOn first n ≤ first.lengthOn months) ∧
    (dayOn first n = first.day ∨ ∃ months, 1 ≤ months ∧ months ≤ n ∧ dayOn first n = first.lengthOn months) := by
  induction n with
  | zero => exact ⟨Nat.le_refl _, fun months some_ none_ => by omega, .inl rfl⟩
  | succ n ih =>
    obtain ⟨below, cut, reached⟩ := ih
    unfold dayOn
    refine ⟨Nat.le_trans (Nat.min_le_left _ _) below, ?_, ?_⟩
    · intro months some_ upTo
      rcases Nat.lt_or_eq_of_le upTo with earlier | rfl
      · exact Nat.le_trans (Nat.min_le_left _ _) (cut months some_ (by omega))
      · exact Nat.min_le_right _ _
    · rcases Nat.le_total (dayOn first n) (first.lengthOn (n + 1)) with stays | shorter
      · rw [Nat.min_eq_left stays]
        rcases reached with same | ⟨months, some_, upTo, cutThere⟩
        · exact .inl same
        · exact .inr ⟨months, some_, by omega, cutThere⟩
      · rw [Nat.min_eq_right shorter]
        exact .inr ⟨n + 1, by omega, Nat.le_refl _, rfl⟩

end Runs

/-- The period after `n` renewals: it follows on the one before, its end is later than its start and lies
`n + 1` months after the first day, and the day of that end is the least of the first day and the lengths
of all the months that were reached on the way. -/
structure Tiles (first : DateTime) (n : Nat) (period : Period) : Prop where
  opens : n = 0 → period.start = first
  abuts : ∀ next, renewals first (n + 1) = .ok next → next.start = period.finish
  grows : period.start.Before period.finish
  month : (period.finish.year, period.finish.month) = first.monthOn (n + 1)
  time : period.finish.time = first.time
  below : period.finish.day ≤ first.day ∧
    ∀ months, 1 ≤ months → months ≤ n + 1 → period.finish.day ≤ first.lengthOn months
  reached : period.finish.day = first.day ∨
    ∃ months, 1 ≤ months ∧ months ≤ n + 1 ∧ period.finish.day = first.lengthOn months

/-- Renewals go on until the years end, and their periods tile the time. -/
theorem renewals_tile (first : DateTime) (n : Nat) :
    if (first.monthOn (n + 1)).1 ≤ 9999 then ∃ period, renewals first n = .ok period ∧ Tiles first n period
    else renewals first n = .error .dateRange := by
  have spec := renewals_spec first n
  split
  next inside =>
    rw [if_pos inside] at spec
    obtain ⟨period, renewed, starts, ends, grows⟩ := spec
    obtain ⟨below, cut, reached⟩ := dayOn_least first (n + 1)
    refine ⟨period, renewed, ?_, ?_, grows, ends.month, ends.time, ?_, ?_⟩
    · rintro rfl
      unfold renewals newPeriod at renewed
      obtain ⟨finish, -, made⟩ := Runs.bind_ok renewed
      cases made
      rfl
    · intro next after
      exact renewPeriod_start ((renewals_succ renewed).symm.trans after)
    · rw [ends.day]
      exact ⟨below, cut⟩
    · rw [ends.day]
      exact reached
  next outside =>
    rw [if_neg outside] at spec
    exact spec

/-- From the last of January the third period ends on the twenty-ninth of March, although March is longer. -/
def lastOfJanuary : DateTime where
  year := 2024
  month := 1
  day := 31
  time := 0
  years := by decide
  months := by decide
  days := by decide
  clock := by decide

theorem anchor_lost : ¬ ∀ (first : DateTime) (n : Nat) (period : Period), renewals first n = .ok period →
    (period.finish.year, period.finish.month) = first.monthOn (n + 1) ∧
      period.finish.day = min first.day (first.lengthOn (n + 1)) := by
  intro anchored
  have shifted : (renewals lastOfJanuary 1).toOption.any fun period =>
      period.finish.day != min lastOfJanuary.day (lastOfJanuary.lengthOn 2) := by decide
  cases renewed : renewals lastOfJanuary 1 with
  | error failure =>
    rw [renewed] at shifted
    cases shifted
  | ok period =>
    rw [renewed] at shifted
    have same := (anchored lastOfJanuary 1 period renewed).2
    simp [Except.toOption, same] at shifted

/-- The renewals of written dates and those of the instants that a charge counts with keep together. -/
theorem renewals_keep_instants {first : DateTime} (epoch : 1970 ≤ first.year) {n : Nat} {period : Period}
    (renewed : renewals first n = .ok period) :
    1970 ≤ period.finish.year ∧ period.finish.instant = (fun periodStart => computePeriodEnd periodStart .monthly)^[n + 1] first.instant := by
  induction n generalizing period with
  | zero =>
    obtain ⟨finish, ends, made⟩ := Runs.bind_ok renewed
    cases made
    exact ⟨epoch_addMonths epoch ends, instant_addMonths epoch ends⟩
  | succ n ih =>
    obtain ⟨before, earlier, again⟩ := Runs.bind_ok renewed
    obtain ⟨finish, ends, made⟩ := Runs.bind_ok again
    cases made
    obtain ⟨late, same⟩ := ih earlier
    refine ⟨epoch_addMonths late ends, ?_⟩
    rw [Function.iterate_succ_apply', ← same]
    exact instant_addMonths late ends

theorem renewals_keep_instants_january : ∃ period, renewals lastOfJanuary 1 = .ok period ∧ 1970 ≤ period.finish.year ∧
    period.finish.instant = (fun periodStart => computePeriodEnd periodStart .monthly)^[2] lastOfJanuary.instant :=
  ⟨_, rfl, renewals_keep_instants (by decide) rfl⟩

end Sprintable.Billing
