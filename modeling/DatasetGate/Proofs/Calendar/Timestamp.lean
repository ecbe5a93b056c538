import DatasetGate.Proofs.Calendar.Fields
import DatasetGate.Proofs.Calendar.Instants

/-!
# Timestamps read back

The text of an instant is a timestamp in the strict form, and reading it gives the instant again:
without a fraction or with three, six or nine digits of one, and within a leap second too. The year
must be one of four digits.
-/

set_option autoImplicit false

namespace DatasetGate.Calendar

open DatasetGate.Text

namespace Reader

/-- The digits of the fraction of a second as text. -/
def fractionDigits (nanos : Nat) : List Char :=
  if nanos = 0 then []
  else if nanos % 1000000 = 0 then (zeroPadded 3 (nanos / 1000000)).toList
  else if nanos % 1000 = 0 then (zeroPadded 6 (nanos / 1000)).toList
  else (zeroPadded 9 nanos).toList

/-- The fields of a time of day, without a date. -/
def clockOf (time : TimeOfDay) : Fields :=
  ⟨0, 0, 0, time.hour, time.minute, time.second, fractionDigits time.nanos⟩

theorem fractionText_clockOf (time : TimeOfDay) :
    (clockOf time).fractionText = fractionText time.nanos := by
  have filled (width n : Nat) : (zeroPadded width n).toList.isEmpty = false :=
    List.isEmpty_eq_false_iff.mpr (zeroPadded_ne_nil width n)
  unfold Fields.fractionText clockOf fractionDigits fractionText
  dsimp only
  split
  · rfl
  · split
    · rw [filled, String.ofList_toList]
      rfl
    · split
      · rw [filled, String.ofList_toList]
        rfl
      · rw [filled, String.ofList_toList]
        rfl

theorem clockText_clockOf (time : TimeOfDay) : (clockOf time).clockText = time.text := by
  rw [Fields.clockText, fractionText_clockOf]
  rfl

theorem nanos_clockOf {time : TimeOfDay} (small : time.nanos < nanosPerSecond) :
    (clockOf time).nanos = time.nanos := by
  have scaled {width n : Nat} (positive : 0 < width) (fits : n < 10 ^ width) :
      Nat.ofDigitChars 10 (zeroPadded width n).toList 0 * nanosPerSecond /
        10 ^ (zeroPadded width n).toList.length = n * nanosPerSecond / 10 ^ width := by
    rw [ofDigitChars_zeroPadded, length_zeroPadded positive fits]
  unfold nanosPerSecond at small scaled
  unfold Fields.nanos clockOf fractionDigits nanosPerSecond
  dsimp only
  split
  · rename_i none_left
    rw [none_left]
    rfl
  · split
    · rw [scaled (by decide) (by omega)]
      omega
    · split
      · rw [scaled (by decide) (by omega)]
        omega
      · rw [scaled (by decide) (by omega)]
        omega

theorem fit_clockOf {time : TimeOfDay} (ranged : time.InRange) : (clockOf time).Fit := by
  obtain ⟨hour_le, minute_le, second_le, -⟩ := ranged
  have digit : ∀ c ∈ fractionDigits time.nanos, isDigit c = true := by
    intro c member
    unfold fractionDigits at member
    split at member
    · cases member
    · split at member
      · exact isDigit_of_mem_zeroPadded member
      · split at member
        · exact isDigit_of_mem_zeroPadded member
        · exact isDigit_of_mem_zeroPadded member
  have widths : time.hour < 10 ^ 2 ∧ time.minute < 10 ^ 2 ∧ time.second < 10 ^ 2 := by omega
  have zero (width : Nat) : 0 < 10 ^ width := Nat.pow_pos (by decide)
  exact ⟨zero 4, zero 2, zero 2, widths.1, widths.2.1, widths.2.2, digit⟩

theorem strictTime_text {time : TimeOfDay} (ranged : time.InRange) (rest : List Char) :
    strictTime (time.text.toList ++ '+' :: rest) = some (time, '+' :: rest) := by
  have ends : EndsFraction ('+' :: rest) := endsFraction_cons (by decide) rest
  have inRange : time.hour ≤ 23 ∧ time.minute ≤ 59 ∧ time.second ≤ 60 :=
    ⟨ranged.hour_le, ranged.minute_le, ranged.second_le⟩
  have checked : checkTime (clockOf time).hour (clockOf time).minute (clockOf time).second
      (clockOf time).nanos = some time := by
    rw [nanos_clockOf ranged.nanos_lt]
    exact if_pos inRange
  rw [← clockText_clockOf, strictTime_fields (fit_clockOf ranged) ends, checked]
  rfl

/-- The fields of a date, at midnight. -/
def fieldsOf (date : Date) : Fields :=
  ⟨date.year.toNat, date.month, date.day, 0, 0, 0, []⟩

theorem text_eq_dateText {date : Date} (year : 0 ≤ date.year ∧ date.year ≤ 9999) :
    date.text = (fieldsOf date).dateText := by
  simp only [Date.text, Date.yearText, if_pos year, Fields.dateText, fieldsOf]

theorem fit_fieldsOf {date : Date} (valid : date.Valid)
    (year : 0 ≤ date.year ∧ date.year ≤ 9999) : (fieldsOf date).Fit := by
  have days := daysInMonth_le date.year date.month
  obtain ⟨-, -, -, month_le, -, day_le⟩ := valid
  constructor
  all_goals simp only [fieldsOf]
  all_goals try omega
  simp

theorem strictDate_text {date : Date} (valid : date.Valid)
    (year : 0 ≤ date.year ∧ date.year ≤ 9999) (rest : List Char) :
    strictDate (date.text.toList ++ rest) = some (date, rest) := by
  have natural : (date.year.toNat : Int) = date.year := Int.toNat_of_nonneg year.1
  have checked : checkDate (fieldsOf date).year (fieldsOf date).month (fieldsOf date).day =
      some date := by
    simp only [fieldsOf, natural, checkDate, if_pos valid]
  rw [text_eq_dateText year, strictDate_fields (fit_fieldsOf valid year), checked]
  rfl

end Reader

namespace Instant

/-- The date of an instant is valid once its year has four digits. -/
theorem date_valid {instant : Instant} (year : 0 ≤ instant.date.year ∧ instant.date.year ≤ 9999) :
    instant.date.Valid := by
  refine ⟨?_, ?_, Date.ofDays_calendar _⟩
  · unfold Date.minYear
    omega
  · unfold Date.maxYear
    omega

theorem strictTimestamp_timestamp {instant : Instant} (formed : instant.WellFormed)
    (year : 0 ≤ instant.date.year ∧ instant.date.year ≤ 9999) :
    Reader.strictTimestamp instant.timestamp.toList = some (instant, []) := by
  have dateRead := Reader.strictDate_text (date_valid year) year
  have timeRead := Reader.strictTime_text formed.time_inRange
  have letter : "T".toList = ['T'] := rfl
  have zero : "+00:00".toList = '+' :: ['0', '0', ':', '0', '0'] := rfl
  have offsetRead : Reader.offset ('+' :: ['0', '0', ':', '0', '0']) = some (0, []) := by decide
  simp only [Reader.strictTimestamp, timestamp, String.toList_append, letter, zero,
    List.append_assoc, List.cons_append, List.nil_append, Option.bind_eq_bind, Option.bind_some,
    dateRead, Reader.separator, true_or, if_true, timeRead, offsetRead, formed.ofCivil_eq,
    Int.sub_zero]
  rfl

theorem trim_timestamp {instant : Instant}
    (year : 0 ≤ instant.date.year ∧ instant.date.year ≤ 9999) :
    trim instant.timestamp.toList = instant.timestamp.toList := by
  have zero : "+00:00".toList = ['+', '0', '0', ':', '0', '0'] := rfl
  apply trim_eq_self
  · cases digits : (zeroPadded 4 instant.date.year.toNat).toList with
    | nil => exact absurd digits (zeroPadded_ne_nil _ _)
    | cons c rest =>
        have digit : isDigit c = true := by
          apply isDigit_of_mem_zeroPadded
          rw [digits]
          exact List.mem_cons_self
        simpa [timestamp, Date.text, Date.yearText, year, digits] using isBlank_of_isDigit digit
  · simp only [timestamp, String.toList_append, zero, List.getLast?_append]
    intro c member
    cases member
    decide

/-- An instant that can be read is read back from its timestamp. -/
theorem parseTimestamp?_timestamp {instant : Instant} (formed : instant.WellFormed)
    (year : 0 ≤ instant.date.year ∧ instant.date.year ≤ 9999) :
    parseTimestamp? instant.timestamp = some instant := by
  have strict := Reader.whole_eq_some_iff.mpr (strictTimestamp_timestamp formed year)
  rw [parseTimestamp?, trim_timestamp year, strict]
  rfl

end Instant

end DatasetGate.Calendar
