import DatasetGate.Proofs.Calendar.Forms
import DatasetGate.Proofs.Calendar.SignedYears

/-!
# Dates and times as they are shown

The text of a date, and that of a date and a time with a blank between them, are timestamps in the
loose forms: years with a sign and fractions of three, six or nine digits included. So both are read
back as what they show.
-/

set_option autoImplicit false

namespace DatasetGate.Calendar

open DatasetGate.Text

section Date

variable {date : Date}

theorem dateText_text (valid : date.Valid) : DateText 1 date.text.toList date := by
  have checked : checkDate date.year date.month date.day = some date := if_pos valid
  apply dateText_of_looseDate
  by_cases plain : 0 ≤ date.year ∧ date.year ≤ 9999
  · have natural : (date.year.toNat : Int) = date.year := Int.toNat_of_nonneg plain.1
    have read := Reader.looseDate_fields (Reader.fit_fieldsOf valid plain) []
    rw [List.append_nil, ← Reader.text_eq_dateText plain, Reader.fieldsOf, natural, checked] at read
    exact read
  · have days := daysInMonth_le date.year date.month
    obtain ⟨-, -, -, month_le, -, day_le⟩ := valid
    have read := Reader.looseDate_signed plain (by omega) (by omega) []
    rw [List.append_nil, checked] at read
    exact read

theorem isBlank_of_mem_yearText {year : Int} {c : Char} (member : c ∈ (Date.yearText year).toList) :
    isBlank c = false := by
  by_cases plain : 0 ≤ year ∧ year ≤ 9999
  · rw [Date.yearText, if_pos plain] at member
    exact isBlank_of_isDigit (isDigit_of_mem_zeroPadded member)
  · obtain ⟨sign, signed, -, shown⟩ := Reader.toList_yearText plain
    rw [shown, List.mem_cons] at member
    cases member with
    | inl own =>
        rw [own]
        cases signed with
        | inl plus => rw [plus]; decide
        | inr minus => rw [minus]; decide
    | inr digit => exact isBlank_of_isDigit (isDigit_of_mem_zeroPadded digit)

theorem isBlank_of_mem_text {c : Char} (member : c ∈ date.text.toList) : isBlank c = false := by
  have hyphen : "-".toList = ['-'] := rfl
  simp only [Date.text, String.toList_append, hyphen, List.mem_append, List.mem_singleton] at member
  rcases member with (((year | rfl) | month) | rfl) | day
  · exact isBlank_of_mem_yearText year
  · decide
  · exact isBlank_of_isDigit (isDigit_of_mem_zeroPadded month)
  · decide
  · exact isBlank_of_isDigit (isDigit_of_mem_zeroPadded day)

theorem text_ne_nil (date : Date) : date.text.toList ≠ [] := by
  rw [Date.text, String.toList_append]
  exact List.append_ne_nil_of_right_ne_nil _ (zeroPadded_ne_nil 2 date.day)

/-- A date alone is read back as its midnight. -/
theorem parseTimestamp?_text (valid : date.Valid) :
    parseTimestamp? date.text = some (.ofCivil date ⟨0, 0, 0, 0⟩) := by
  have trimmed : trim date.text.toList = date.text.toList := by
    apply trim_eq_self
    · exact fun c first => isBlank_of_mem_text (List.mem_of_mem_head? first)
    · exact fun c last => isBlank_of_mem_text (List.mem_of_getLast? last)
  rw [parseTimestamp?_eq_some_iff, trimmed]
  exact .bare (dateText_text valid)

end Date

section Time

variable {time : TimeOfDay} (ranged : time.InRange)

theorem TimeText.after_blank {cs : List Char} (shown : TimeText cs time) {blank : Char}
    (blanked : isBlank blank = true) : TimeText (blank :: cs) time := by
  rw [← Reader.looseTime_eq_some_iff, Reader.looseTime_blank blanked]
  exact Reader.looseTime_eq_some_iff.mpr shown

include ranged

theorem timeText_text : TimeText time.text.toList time := by
  have checked : checkTime time.hour time.minute time.second time.nanos = some time :=
    if_pos ⟨ranged.hour_le, ranged.minute_le, ranged.second_le⟩
  have read := Reader.looseTime_fields (Reader.fit_clockOf ranged) Reader.endsFraction_nil
  rw [List.append_nil, Reader.clockText_clockOf, Reader.nanos_clockOf ranged.nanos_lt] at read
  rw [← Reader.looseTime_eq_some_iff, read]
  exact congrArg (Option.map fun found => (found, [])) checked

/-- A date and a time with a blank between them are read back. -/
theorem parseTimestamp?_spaced {date : Date} (valid : date.Valid) :
    parseTimestamp? (date.text ++ " " ++ time.text) = some (.ofCivil date time) := by
  have blank : " ".toList = [' '] := rfl
  have split : (date.text ++ " " ++ time.text).toList =
      date.text.toList ++ ' ' :: time.text.toList := by
    rw [String.toList_append, String.toList_append, blank, List.append_assoc, List.singleton_append]
  have fit := Reader.fit_clockOf ranged
  have trimmed : trim (date.text.toList ++ ' ' :: time.text.toList) =
      date.text.toList ++ ' ' :: time.text.toList := by
    rw [← Reader.clockText_clockOf, ← List.singleton_append]
    exact trim_between (fun _ => isBlank_of_mem_text) (text_ne_nil date)
      (fun _ => fit.isBlank_of_mem_clockText) (Reader.clockOf time).clockText_ne_nil
  rw [parseTimestamp?_eq_some_iff, split, trimmed]
  exact .apart (dateText_text valid) (by decide) ((timeText_text ranged).after_blank (by decide))

end Time

end DatasetGate.Calendar
