import Mathlib.Order.Basic
import Mathlib.Tactic.Common

/-! Civil dates in UTC. An instant counts microseconds from the first of January
1970, a date counts days from there, and months are numbered from that January. -/

namespace Calendar

def microsPerDay : Nat := 86400000000

def date (instant : Nat) : Nat := instant / microsPerDay

def isLeap (year : Nat) : Bool := year % 4 == 0 && (year % 100 != 0 || year % 400 == 0)

def monthLength (month : Nat) : Nat :=
  match month % 12 with
  | 1 => if isLeap (1970 + month / 12) then 29 else 28
  | 3 | 5 | 8 | 10 => 30
  | _ => 31

def firstDay : Nat → Nat
  | 0 => 0
  | month + 1 => firstDay month + monthLength month

/-- Walk from the start of `month` over `days` days; every month that is passed
takes one unit of fuel. -/
def walk : Nat → Nat → Nat → Nat × Nat
  | 0, month, days => (month, days)
  | fuel + 1, month, days =>
    if days < monthLength month then (month, days) else walk fuel (month + 1) (days - monthLength month)

/-- The month of a date and the days before it in that month. -/
def civil (day : Nat) : Nat × Nat := walk (day / 28 + 1) 0 day

/-- The same time of day, `months` later; a day that the target month does not
have becomes its last one. -/
def addMonths (instant months : Nat) : Nat :=
  let target := (civil (date instant)).1 + months
  (firstDay target + min (civil (date instant)).2 (monthLength target - 1)) * microsPerDay + instant % microsPerDay

theorem monthLength_bounds (month : Nat) : 28 ≤ monthLength month ∧ monthLength month ≤ 31 := by
  unfold monthLength
  split
  · split <;> omega
  all_goals omega

theorem firstDay_mono {first last : Nat} (later : first ≤ last) : firstDay first ≤ firstDay last := by
  induction later with
  | refl => exact Nat.le_refl _
  | step _ ih => exact Nat.le_trans ih (Nat.le_add_right _ _)

theorem walk_spec (fuel : Nat) : ∀ month days : Nat, days < 28 * fuel →
    firstDay (walk fuel month days).1 + (walk fuel month days).2 = firstDay month + days ∧
      (walk fuel month days).2 < monthLength (walk fuel month days).1 := by
  induction fuel with
  | zero =>
    intro month days enough
    omega
  | succ fuel ih =>
    intro month days enough
    unfold walk
    split
    next inside => exact ⟨rfl, inside⟩
    next outside =>
      have long := (monthLength_bounds month).1
      obtain ⟨total, inside⟩ := ih (month + 1) (days - monthLength month) (by omega)
      refine ⟨?_, inside⟩
      rw [total, firstDay]
      omega

theorem civil_spec (day : Nat) :
    firstDay (civil day).1 + (civil day).2 = day ∧ (civil day).2 < monthLength (civil day).1 := by
  have spec := walk_spec (day / 28 + 1) 0 day (by omega)
  rw [firstDay, Nat.zero_add] at spec
  exact spec

theorem civil_eq {month days : Nat} (inside : days < monthLength month) : civil (firstDay month + days) = (month, days) := by
  obtain ⟨total, within⟩ := civil_spec (firstDay month + days)
  rcases Nat.lt_trichotomy (civil (firstDay month + days)).1 month with earlier | same | later
  · have next := firstDay_mono earlier
    rw [Nat.succ_eq_add_one, firstDay] at next
    omega
  · apply Prod.ext same
    rw [same] at total
    omega
  · have next := firstDay_mono later
    rw [Nat.succ_eq_add_one, firstDay] at next
    omega

theorem date_lt_addMonths (instant : Nat) {months : Nat} (some : 0 < months) :
    date instant < date (addMonths instant months) := by
  obtain ⟨total, inside⟩ := civil_spec (date instant)
  have next : firstDay ((civil (date instant)).1 + 1) ≤ firstDay ((civil (date instant)).1 + months) :=
    firstDay_mono (by omega)
  rw [firstDay] at next
  have time : instant % microsPerDay < microsPerDay := Nat.mod_lt _ (by decide)
  have later : date (addMonths instant months) = firstDay ((civil (date instant)).1 + months) +
      min (civil (date instant)).2 (monthLength ((civil (date instant)).1 + months) - 1) := by
    rw [date, addMonths, Nat.mul_comm, Nat.mul_add_div (by decide), Nat.div_eq_of_lt time, Nat.add_zero]
  omega

end Calendar
