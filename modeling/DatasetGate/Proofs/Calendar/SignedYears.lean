import DatasetGate.Proofs.Calendar.Spellings

/-!
# Timestamps of years with a sign

A year outside 0 to 9999 is written with a sign, which the strict form does not know, and the offset
behind the time belongs to no loose form. So no form reads the text of an instant in such a year.
-/

set_option autoImplicit false

namespace DatasetGate.Calendar

open DatasetGate.Text

/-- The year of an instant in universal time has four digits and no sign. -/
def Instant.HasPlainYear (instant : Instant) : Prop :=
  0 ≤ instant.date.year ∧ instant.date.year ≤ 9999

instance (instant : Instant) : Decidable instant.HasPlainYear := by
  unfold Instant.HasPlainYear; infer_instance

namespace Reader

theorem longNumber_zeroPadded {n : Nat} (rest : List Char) :
    longNumber ((zeroPadded 4 n).toList ++ '-' :: rest) = some (n, '-' :: rest) := by
  have digit : ∀ c ∈ (zeroPadded 4 n).toList, isDigit c = true :=
    fun c member => isDigit_of_mem_zeroPadded member
  have stopped : ∀ c ∈ ('-' :: rest).head?, isDigit c = false := by
    intro c first
    cases first
    decide
  rw [longNumber, number_digits digit (zeroPadded_ne_nil 4 n)
    (List.length_pos_of_ne_nil (zeroPadded_ne_nil 4 n)) (by simp) (.inr stopped),
    ofDigitChars_zeroPadded]

section Year

variable {year : Int} (signed : ¬ (0 ≤ year ∧ year ≤ 9999))

include signed

theorem toList_yearText : ∃ sign, (sign = '+' ∨ sign = '-') ∧
    year = (if sign = '+' then (year.natAbs : Int) else -(year.natAbs : Int)) ∧
    (Date.yearText year).toList = sign :: (zeroPadded 4 year.natAbs).toList := by
  rw [Date.yearText, if_neg signed]
  by_cases negative : year < 0
  · rw [if_pos negative]
    refine ⟨'-', .inr rfl, ?_, String.toList_append⟩
    rw [if_neg (by decide)]
    omega
  · rw [if_neg negative]
    refine ⟨'+', .inl rfl, ?_, String.toList_append⟩
    rw [if_pos rfl]
    omega

theorem looseYear_yearText (rest : List Char) :
    looseYear ((Date.yearText year).toList ++ '-' :: rest) = some (year, '-' :: rest) := by
  obtain ⟨sign, marked, value, shown⟩ := toList_yearText signed
  have read := @longNumber_zeroPadded year.natAbs rest
  rw [shown, List.cons_append]
  rcases marked with rfl | rfl
  · rw [if_pos rfl] at value
    rw [looseYear, trimLeft_eq_self (by simp; decide)]
    simp only [read, Option.map_some, ← value]
  · rw [if_neg (by decide)] at value
    rw [looseYear, trimLeft_eq_self (by simp; decide)]
    simp only [read, Option.map_some, ← value]

end Year

section Date

variable {date : Date} (signed : ¬ (0 ≤ date.year ∧ date.year ≤ 9999))

include signed

theorem strictDate_signed (rest : List Char) : strictDate (date.text.toList ++ rest) = none := by
  obtain ⟨sign, marked, -, shown⟩ := toList_yearText signed
  have refused (behind : List Char) : number 4 4 (sign :: behind) = none := by
    rcases marked with rfl | rfl
    · rfl
    · rfl
  simp only [strictDate, Date.text, String.toList_append, shown, List.cons_append, refused,
    Option.bind_eq_bind, Option.bind_none]

theorem looseDate_signed (month_lt : date.month < 10 ^ 2) (day_lt : date.day < 10 ^ 2)
    (rest : List Char) :
    looseDate (date.text.toList ++ rest) =
      (checkDate date.year date.month date.day).map fun found => (found, rest) := by
  have hyphen : "-".toList = ['-'] := rfl
  simp only [looseDate, Date.text, String.toList_append, hyphen, List.append_assoc,
    List.cons_append, List.nil_append, Option.bind_eq_bind, Option.bind_some,
    looseYear_yearText signed, looseField_zeroPadded month_lt, looseField_zeroPadded day_lt,
    literal_self, Option.map_eq_bind]
  rfl

end Date

end Reader

namespace Instant

open Reader

variable {instant : Instant}

theorem trim_timestamp_signed (signed : ¬ instant.HasPlainYear) :
    trim instant.timestamp.toList = instant.timestamp.toList := by
  obtain ⟨sign, marked, -, shown⟩ := toList_yearText signed
  have zero : "+00:00".toList = ['+', '0', '0', ':', '0', '0'] := rfl
  apply trim_eq_self
  · simp only [timestamp, Date.text, String.toList_append, shown, List.cons_append, List.head?_cons]
    intro c first
    cases first
    rcases marked with rfl | rfl
    · decide
    · decide
  · simp only [timestamp, String.toList_append, zero, List.getLast?_append]
    intro c last
    cases last
    decide

/-- The forms fail one by one: the strict one at the sign, the blank one at the letter, the others
behind the time and behind the date. -/
theorem parseTimestamp?_signed (formed : instant.WellFormed) (signed : ¬ instant.HasPlainYear) :
    parseTimestamp? instant.timestamp = none := by
  have letter : "T".toList = ['T'] := rfl
  have zero : "+00:00".toList = ['+', '0', '0', ':', '0', '0'] := rfl
  have fit := fit_clockOf formed.time_inRange
  have text : instant.timestamp.toList = instant.date.text.toList ++
      ('T' :: ((clockOf instant.time).clockText.toList ++ ['+', '0', '0', ':', '0', '0'])) := by
    rw [clockText_clockOf, timestamp]
    simp only [String.toList_append, letter, zero, List.append_assoc, List.cons_append,
      List.nil_append]
  have calendar : instant.date.month ≤ 12 ∧ instant.date.day ≤ 31 := by
    obtain ⟨-, month_le, -, day_le⟩ := Date.ofDays_calendar (instant.seconds / secondsPerDay)
    exact ⟨month_le, day_le.trans (daysInMonth_le _ _)⟩
  have loose := looseDate_signed signed (by omega) (by omega)
  have ends : EndsFraction ['+', '0', '0', ':', '0', '0'] := endsFraction_cons (by decide) _
  have strict (rest : List Char) : strictTimestamp (instant.date.text.toList ++ rest) = none := by
    simp only [strictTimestamp, strictDate_signed signed, Option.bind_eq_bind, Option.bind_none]
  rw [parseTimestamp?, trim_timestamp_signed signed, text]
  simp only [Fields.whole_eq_none (strict _),
    Fields.whole_map_eq_none (Fields.letterTimestamp_text fit ends loose) (List.cons_ne_nil _ _),
    Fields.whole_eq_none (Fields.blankTimestamp_letter loose _),
    Fields.whole_map_eq_none (Fields.bareDate_text loose _) (List.cons_ne_nil _ _), Option.none_or]

/-- Of the instants that can be read, the ones in years of four digits are read back. -/
theorem parseTimestamp?_timestamp_eq {text : String} (read : parseTimestamp? text = some instant) :
    parseTimestamp? instant.timestamp = if instant.HasPlainYear then some instant else none := by
  have formed := wellFormed_of_parseTimestamp? read
  split
  · rename_i plain
    exact parseTimestamp?_timestamp formed plain
  · rename_i signed
    exact parseTimestamp?_signed formed signed

end Instant
end DatasetGate.Calendar
