import DatasetGate.Calendar.Date
import Mathlib

/-!
# Days of the civil calendar

The day count of a date is what the calendar says: the days of the years before its year, of the
months before its month, and of its month before it. A later date has a greater count.
-/

set_option autoImplicit false

namespace DatasetGate.Calendar

def yearLength (year : Int) : Nat :=
  if isLeapYear year then 366 else 365

/-- The days of the years from the year zero on that lie before a year. -/
def daysBeforeYear (year : Nat) : Nat :=
  ∑ earlier ∈ Finset.range year, yearLength earlier

/-- The days of a year that lie before one of its months. -/
def daysBeforeMonth (year : Int) (month : Nat) : Nat :=
  ∑ earlier ∈ Finset.range (month - 1), daysInMonth year (earlier + 1)

theorem daysBeforeMonth_succ (year : Int) {month : Nat} (low : 1 ≤ month) :
    daysBeforeMonth year (month + 1) = daysBeforeMonth year month + daysInMonth year month := by
  obtain ⟨earlier, rfl⟩ := Nat.exists_eq_add_of_le' low
  simp only [daysBeforeMonth, Nat.add_sub_cancel, Finset.sum_range_succ]

theorem daysBeforeMonth_mono (year : Int) {month month' : Nat} (ordered : month ≤ month') :
    daysBeforeMonth year month ≤ daysBeforeMonth year month' := by
  apply Finset.sum_le_sum_of_subset
  apply Finset.range_subset_range.mpr
  omega

theorem daysBeforeMonth_end (year : Int) : daysBeforeMonth year 13 = yearLength year := by
  cases leap : isLeapYear year with
  | true => simp [daysBeforeMonth, Finset.sum_range_succ, daysInMonth, yearLength, leap]
  | false => simp [daysBeforeMonth, Finset.sum_range_succ, daysInMonth, yearLength, leap]

namespace Date

/-- The days from 1970-01-01 to a date, added up by years and months. -/
def civilDays (date : Date) : Int :=
  (daysBeforeYear date.year.toNat : Int) + daysBeforeMonth date.year date.month + date.day - 1 -
    daysBeforeYear 1970

section NewYear

theorem toDays_newYear (year : Int) :
    toDays ⟨year, 1, 1⟩ =
      365 * (year - 1) + (year - 1) / 4 - (year - 1) / 100 + (year - 1) / 400 - 719162 := by
  simp only [toDays, daysInCycle, epochOffset]
  norm_num
  omega

theorem toDays_newYear_succ (year : Int) :
    toDays ⟨year + 1, 1, 1⟩ = toDays ⟨year, 1, 1⟩ + yearLength year := by
  rw [toDays_newYear, toDays_newYear, yearLength, isLeapYear, Int.add_sub_cancel]
  split
  · rename_i leap
    rw [decide_eq_true_eq] at leap
    push_cast
    omega
  · rename_i common
    rw [decide_eq_true_eq] at common
    push_cast
    omega

theorem toDays_newYear_eq (year : Nat) :
    toDays ⟨year, 1, 1⟩ = toDays ⟨0, 1, 1⟩ + daysBeforeYear year := by
  induction year with
  | zero => rfl
  | succ year year_ih =>
      rw [Nat.cast_add_one, toDays_newYear_succ, year_ih, daysBeforeYear, daysBeforeYear,
        Finset.sum_range_succ]
      push_cast
      ring

theorem toDays_newYear_mono {year year' : Int} (ordered : year ≤ year') :
    toDays ⟨year, 1, 1⟩ ≤ toDays ⟨year', 1, 1⟩ := by
  rw [toDays_newYear, toDays_newYear]
  omega

end NewYear

/-- From March on the years of the day count begin two months late, before March one year early. -/
theorem toDays_eq_newYear_add {date : Date} (low : 1 ≤ date.month) (high : date.month ≤ 12) :
    date.toDays =
      toDays ⟨date.year, 1, 1⟩ + daysBeforeMonth date.year date.month + date.day - 1 := by
  obtain ⟨year, month, day⟩ := date
  dsimp only at low high ⊢
  rw [toDays_newYear, daysBeforeMonth]
  cases leap : isLeapYear year with
  | true =>
      have divisible := leap
      simp only [isLeapYear, decide_eq_true_eq] at divisible
      interval_cases month
      all_goals simp [toDays, daysInCycle, epochOffset, Finset.sum_range_succ, daysInMonth, leap]
      all_goals omega
  | false =>
      have indivisible := leap
      simp only [isLeapYear, decide_eq_false_iff_not] at indivisible
      interval_cases month
      all_goals simp [toDays, daysInCycle, epochOffset, Finset.sum_range_succ, daysInMonth, leap]
      all_goals omega

theorem toDays_eq_civilDays {date : Date} (valid : date.Valid) (natural : 0 ≤ date.year) :
    date.toDays = date.civilDays := by
  obtain ⟨-, -, low, high, -⟩ := valid
  have epoch : toDays ⟨(1970 : Nat), 1, 1⟩ = 0 := by decide
  rw [toDays_newYear_eq] at epoch
  rw [toDays_eq_newYear_add low high, civilDays, ← Int.toNat_of_nonneg natural, toDays_newYear_eq,
    Int.toNat_natCast]
  linarith

/-- A date lies before another one in the calendar. -/
def Before (date date' : Date) : Prop :=
  date.year < date'.year ∨ date.year = date'.year ∧
    (date.month < date'.month ∨ date.month = date'.month ∧ date.day < date'.day)

theorem toDays_lt_toDays {date date' : Date} (valid : date.Valid) (valid' : date'.Valid)
    (before : date.Before date') : date.toDays < date'.toDays := by
  obtain ⟨-, -, low, high, -, day_le⟩ := valid
  obtain ⟨-, -, low', high', day_pos, -⟩ := valid'
  rw [toDays_eq_newYear_add low high, toDays_eq_newYear_add low' high']
  have monthEnd := daysBeforeMonth_succ date.year low
  rcases before with year | ⟨year, month | ⟨month, day⟩⟩
  · have yearEnd := daysBeforeMonth_mono date.year (show date.month + 1 ≤ 13 by omega)
    have newYear := toDays_newYear_mono (show date.year + 1 ≤ date'.year from year)
    rw [daysBeforeMonth_end] at yearEnd
    rw [toDays_newYear_succ] at newYear
    omega
  · have laterMonth := daysBeforeMonth_mono date.year (show date.month + 1 ≤ date'.month from month)
    rw [← year]
    omega
  · rw [← year, ← month]
    omega

end Date
end DatasetGate.Calendar
