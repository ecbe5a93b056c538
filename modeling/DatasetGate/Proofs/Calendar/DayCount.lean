import DatasetGate.Calendar.Date
import Mathlib

/-!
# Day counts and dates

Every day count is the count of the date it is turned into, and that date is one of the calendar. A
cycle of four hundred years is cut into centuries, groups of four years, years and days; the last
century of a cycle and the last year of a group may be one day longer.
-/

set_option autoImplicit false

namespace DatasetGate.Calendar

/-- A day of a cycle, placed in its century, group of four years, and year. Only the last year of a
group has a day `365`, and the last group of a century only if the century ends the cycle. -/
structure PlacedDay (dayOfCycle century group year dayOfYear : Int) : Prop where
  century_mem : 0 ≤ century ∧ century ≤ 3
  group_mem : 0 ≤ group ∧ group ≤ 24
  year_mem : 0 ≤ year ∧ year ≤ 3
  day_mem : 0 ≤ dayOfYear ∧ dayOfYear ≤ 365
  day_eq : dayOfCycle = 36524 * century + 1461 * group + 365 * year + dayOfYear
  leap : dayOfYear = 365 → year = 3 ∧ (group < 24 ∨ century = 3)

theorem exists_placedDay (dayOfCycle : Int) (low : 0 ≤ dayOfCycle)
    (high : dayOfCycle < 146097) :
    ∃ century group year dayOfYear, PlacedDay dayOfCycle century group year dayOfYear := by
  obtain ⟨century, centuryEq⟩ : ∃ n, n = min 3 (dayOfCycle / 36524) := ⟨_, rfl⟩
  obtain ⟨inCentury, inCenturyEq⟩ : ∃ n, n = dayOfCycle - 36524 * century := ⟨_, rfl⟩
  obtain ⟨group, groupEq⟩ : ∃ n, n = inCentury / 1461 := ⟨_, rfl⟩
  obtain ⟨year, yearEq⟩ : ∃ n, n = min 3 ((inCentury - 1461 * group) / 365) := ⟨_, rfl⟩
  have century_mem : 0 ≤ century ∧ century ≤ 3 := by omega
  have bounds : 0 ≤ inCentury ∧ inCentury ≤ 36524 ∧ (inCentury = 36524 → century = 3) := by
    omega
  exact ⟨century, group, year, inCentury - 1461 * group - 365 * year, century_mem, by omega,
    by omega, by omega, by omega, by omega⟩

theorem PlacedDay.yearOfCycle_eq {dayOfCycle century group year dayOfYear : Int}
    (placed : PlacedDay dayOfCycle century group year dayOfYear) :
    (dayOfCycle - dayOfCycle / 1460 + dayOfCycle / 36524 - dayOfCycle / 146096) / 365 =
      100 * century + 4 * group + year := by
  obtain ⟨century_mem, group_mem, year_mem, day_mem, day_eq, leap⟩ := placed
  obtain ⟨surplus, surplusEq⟩ :
      ∃ n, n = (24 * century + group + 365 * year + dayOfYear) / 1460 := ⟨_, rfl⟩
  have groups : dayOfCycle / 1460 = 25 * century + group + surplus := by omega
  have centuries : dayOfCycle / 36524 - dayOfCycle / 146096 = century := by
    by_cases last : dayOfCycle = 146096
    · have ends : century = 3 := by omega
      norm_num [last, ends]
    · have short : 1461 * group + 365 * year + dayOfYear < 36525 := by omega
      omega
  have surplus_le : surplus ≤ dayOfYear := by omega
  have rest_le : dayOfYear - surplus ≤ 364 := by omega
  omega

private theorem leapDays_eq {century group year : Int} (group_mem : 0 ≤ group ∧ group ≤ 24)
    (year_mem : 0 ≤ year ∧ year ≤ 3) :
    (100 * century + 4 * group + year) / 4 = 25 * century + group ∧
      (100 * century + 4 * group + year) / 100 = century := by
  omega

theorem PlacedDay.dayOfYear_eq {dayOfCycle century group year dayOfYear : Int}
    (placed : PlacedDay dayOfCycle century group year dayOfYear) :
    dayOfCycle - (365 * (100 * century + 4 * group + year) +
      (100 * century + 4 * group + year) / 4 - (100 * century + 4 * group + year) / 100) =
        dayOfYear := by
  obtain ⟨fourths, hundredths⟩ := leapDays_eq placed.group_mem placed.year_mem
  rw [fourths, hundredths, placed.day_eq]
  ring

/-- The year of a day `365` ends in the civil year after it, which has a leap day. -/
theorem PlacedDay.isLeapYear {dayOfCycle century group year dayOfYear : Int}
    (placed : PlacedDay dayOfCycle century group year dayOfYear) (last : dayOfYear = 365)
    (cycle : Int) :
    isLeapYear (100 * century + 4 * group + year + cycle * 400 + 1) = true := by
  obtain ⟨lastYear, lastGroup⟩ := placed.leap last
  have group_mem := placed.group_mem
  rw [Calendar.isLeapYear, decide_eq_true_eq, lastYear]
  rcases lastGroup with early | late
  · clear placed lastYear last
    omega
  · rw [late]
    clear placed lastYear last late
    omega

namespace Date

/-- Where a day count lies: in a year from March on, and at a day of it. -/
theorem ofDays_spec (days : Int) : ∃ cycle year dayOfYear : Int,
    days + 719468 =
      146097 * cycle + (year * 365 + year / 4 - year / 100 + dayOfYear) ∧
    (0 ≤ year ∧ year < 400) ∧ (0 ≤ dayOfYear ∧ dayOfYear ≤ 365) ∧
    (dayOfYear = 365 → isLeapYear (year + cycle * 400 + 1) = true) ∧
    ofDays days =
      if (5 * dayOfYear + 2) / 153 < 10 then
        ⟨year + cycle * 400, ((5 * dayOfYear + 2) / 153 + 3).toNat,
          (dayOfYear - (153 * ((5 * dayOfYear + 2) / 153) + 2) / 5 + 1).toNat⟩
      else
        ⟨year + cycle * 400 + 1, ((5 * dayOfYear + 2) / 153 - 9).toNat,
          (dayOfYear - (153 * ((5 * dayOfYear + 2) / 153) + 2) / 5 + 1).toNat⟩ := by
  obtain ⟨dayOfCycle, dayOfCycleEq⟩ : ∃ n, n = (days + 719468) % 146097 := ⟨_, rfl⟩
  obtain ⟨century, group, year, dayOfYear, placed⟩ :=
    exists_placedDay dayOfCycle (by omega) (by omega)
  have readDay := placed.dayOfYear_eq
  have century_mem := placed.century_mem
  have group_mem := placed.group_mem
  have year_mem := placed.year_mem
  refine ⟨(days + 719468) / 146097, 100 * century + 4 * group + year, dayOfYear, ?_, by omega,
    placed.day_mem, fun last => placed.isLeapYear last _, ?_⟩
  · have whole := Int.mul_ediv_add_emod (days + 719468) 146097
    rw [← readDay, dayOfCycleEq]
    linarith only [whole]
  · simp only [ofDays, epochOffset, daysInCycle, ← dayOfCycleEq, placed.yearOfCycle_eq, readDay]

private theorem monthStart_le {dayOfYear month : Int} (monthEq : month = (5 * dayOfYear + 2) / 153) :
    (153 * month + 2) / 5 ≤ dayOfYear := by
  omega

private theorem civilYear_parts {year : Int} (cycle : Int) (bounds : 0 ≤ year ∧ year < 400) :
    (year + cycle * 400) / 400 = cycle ∧ (year + cycle * 400) % 400 = year := by
  omega

theorem toDays_ofDays (days : Int) : (ofDays days).toDays = days := by
  obtain ⟨cycle, year, dayOfYear, daysEq, year_mem, day_mem, -, dateEq⟩ := ofDays_spec days
  obtain ⟨month, monthEq⟩ : ∃ n, n = (5 * dayOfYear + 2) / 153 := ⟨_, rfl⟩
  have month_mem : 0 ≤ month ∧ month ≤ 11 := by omega
  have started := monthStart_le monthEq
  obtain ⟨yearQuotient, yearRest⟩ := civilYear_parts cycle year_mem
  rw [dateEq, ← monthEq]
  split
  · rename_i early
    have late : ¬ (month + 3).toNat ≤ 2 := by omega
    simp only [toDays, if_neg late, yearQuotient, yearRest, daysInCycle, epochOffset]
    rw [Int.toNat_of_nonneg (by omega), Int.toNat_of_nonneg (by omega), Int.add_sub_cancel]
    linarith only [daysEq]
  · rename_i late
    have early : (month - 9).toNat ≤ 2 := by omega
    simp only [toDays, if_pos early, Int.add_sub_cancel, yearQuotient, yearRest, daysInCycle,
      epochOffset]
    rw [Int.toNat_of_nonneg (by omega), Int.toNat_of_nonneg (by omega), Int.sub_add_cancel]
    linarith only [daysEq]

/-- The date of a day count is a day of the calendar. Only its year may be one that cannot be read. -/
theorem ofDays_calendar (days : Int) :
    1 ≤ (ofDays days).month ∧ (ofDays days).month ≤ 12 ∧ 1 ≤ (ofDays days).day ∧
      (ofDays days).day ≤ daysInMonth (ofDays days).year (ofDays days).month := by
  obtain ⟨cycle, year, dayOfYear, -, -, day_mem, leap, dateEq⟩ := ofDays_spec days
  obtain ⟨month, monthEq⟩ : ∃ n, n = (5 * dayOfYear + 2) / 153 := ⟨_, rfl⟩
  have month_mem : 0 ≤ month ∧ month ≤ 11 := by omega
  rw [dateEq, ← monthEq]
  clear dateEq
  by_cases february : month = 11
  · subst february
    by_cases last : dayOfYear = 365
    · simp [last, daysInMonth, leap last]
    · have bound : 28 ≤ daysInMonth (year + cycle * 400 + 1) 2 := by
        simp only [daysInMonth, if_true]
        split <;> norm_num
      have second : (11 - 9 : Int).toNat = 2 := rfl
      rw [if_neg (by norm_num), second]
      dsimp only
      clear leap
      omega
  · obtain ⟨low, high⟩ := month_mem
    clear leap
    interval_cases month
    all_goals simp [daysInMonth] at february ⊢
    all_goals omega

end Date
end DatasetGate.Calendar
