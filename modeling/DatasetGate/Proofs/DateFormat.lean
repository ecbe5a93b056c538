import DatasetGate.Proofs.Calendar.Alphabet
import DatasetGate.Proofs.Calendar.Displays
import DatasetGate.Proofs.DateNotation
import DatasetGate.Proofs.Patterns

/-!
# The format of dates

The format check takes the digits of every script, the reader of timestamps those of ASCII alone. So
a text that passes the check as a date may be none to the reader, though its numbers are a day of the
calendar.
-/

set_option autoImplicit false

namespace DatasetGate

open DatasetGate.Text DatasetGate.Calendar

/-- A text starts with ASCII digits in the form of a date. Anything may follow. -/
def BeginsWithAsciiDate (cs : List Char) : Prop :=
  ∃ year month day rest, cs = year ++ '-' :: (month ++ '-' :: (day ++ rest)) ∧
    year.length = 4 ∧ month.length = 2 ∧ day.length = 2 ∧
      ∀ c ∈ year ++ month ++ day, isDigit c = true

/-- A text is a day of the calendar in ASCII digits, its year from 0 to 9999, and nothing else. -/
def IsCalendarDate (text : String) : Prop :=
  ∃ date : Date, date.Valid ∧ (0 ≤ date.year ∧ date.year ≤ 9999) ∧ text = date.text

section Texts

variable {year month day rest : List Char}

theorem take_dateText (yearLength : year.length = 4) (monthLength : month.length = 2)
    (dayLength : day.length = 2) :
    (year ++ '-' :: (month ++ '-' :: (day ++ rest))).take 10 =
      year ++ '-' :: (month ++ '-' :: day) := by
  obtain ⟨y1, y2, y3, y4, rfl⟩ := List.length_eq_four.mp yearLength
  obtain ⟨m1, m2, rfl⟩ := List.length_eq_two.mp monthLength
  obtain ⟨d1, d2, rfl⟩ := List.length_eq_two.mp dayLength
  rfl

/-- The first ten characters of a date are its digits and two hyphens. -/
theorem mem_take_dateText (yearLength : year.length = 4) (monthLength : month.length = 2)
    (dayLength : day.length = 2) {digit : Char → Prop}
    (digits : ∀ c ∈ year ++ month ++ day, digit c) :
    ∀ c ∈ (year ++ '-' :: (month ++ '-' :: (day ++ rest))).take 10, c = '-' ∨ digit c := by
  intro c member
  rw [take_dateText yearLength monthLength dayLength] at member
  simp only [List.mem_append, List.mem_cons] at member digits
  rcases member with inYear | hyphen | inMonth | hyphen | inDay
  · exact .inr (digits c (.inl (.inl inYear)))
  · exact .inl hyphen
  · exact .inr (digits c (.inl (.inr inMonth)))
  · exact .inl hyphen
  · exact .inr (digits c (.inr inDay))

/-- The two notions of a date differ in the digits of other scripts alone. -/
theorem beginsWithAsciiDate_iff {cs : List Char} :
    BeginsWithAsciiDate cs ↔
      BeginsWithDate cs ∧ ∀ c ∈ cs.take 10, isDecimalDigit c = true → isDigit c = true := by
  constructor
  · intro ascii
    obtain ⟨year, month, day, rest, rfl, yearLength, monthLength, dayLength, digits⟩ := ascii
    refine ⟨⟨year, month, day, rest, rfl, yearLength, monthLength, dayLength, ?_⟩, ?_⟩
    · intro c member
      exact isDecimalDigit_of_isDigit (digits c member)
    · intro c member digit
      cases mem_take_dateText yearLength monthLength dayLength digits c member with
      | inl hyphen =>
          rw [hyphen] at digit
          cases digit
      | inr own => exact own
  · intro found
    obtain ⟨⟨year, month, day, rest, rfl, yearLength, monthLength, dayLength, digits⟩, own⟩ := found
    refine ⟨year, month, day, rest, rfl, yearLength, monthLength, dayLength, ?_⟩
    intro c member
    apply own c _ (digits c member)
    rw [take_dateText yearLength monthLength dayLength]
    simp only [List.mem_append, List.mem_cons] at member ⊢
    tauto

/-- Ten characters of that form are the text of three numbers. -/
theorem exists_dateText {text : String} (ten : text.toList.length = 10)
    (ascii : BeginsWithAsciiDate text.toList) :
    ∃ fields : Fields, fields.Fit ∧ text = fields.dateText := by
  obtain ⟨year, month, day, rest, shape, yearLength, monthLength, dayLength, digits⟩ := ascii
  have nothing : rest = [] := by
    rw [shape] at ten
    simp only [List.length_append, List.length_cons, yearLength, monthLength, dayLength] at ten
    exact List.eq_nil_of_length_eq_zero (by omega)
  simp only [List.mem_append] at digits
  have value {width : Nat} (positive : 0 < width) {cs : List Char} (length : cs.length = width)
      (digit : ∀ c ∈ cs, isDigit c = true) : ∃ n, Numeral width width cs n :=
    ⟨_, digit, List.ne_nil_of_length_pos (length ▸ positive), length.ge, length.le, rfl⟩
  obtain ⟨y, yearShown⟩ :=
    value (by decide) yearLength fun c member => digits c (.inl (.inl member))
  obtain ⟨m, monthShown⟩ :=
    value (by decide) monthLength fun c member => digits c (.inl (.inr member))
  obtain ⟨d, dayShown⟩ := value (by decide) dayLength fun c member => digits c (.inr member)
  have zero : 0 < 10 ^ 2 := by decide
  refine ⟨⟨y, m, d, 0, 0, 0, []⟩, ⟨yearShown.lt_pow, monthShown.lt_pow, dayShown.lt_pow, zero, zero,
    zero, List.forall_mem_nil _⟩, ?_⟩
  rw [← String.toList_inj, shape, nothing, List.append_nil, Fields.toList_dateText,
    ← yearShown.eq_zeroPadded, ← monthShown.eq_zeroPadded, ← dayShown.eq_zeroPadded]

theorem trim_of_beginsWithDate {text : String} (ten : text.toList.length = 10)
    (dated : BeginsWithDate text.toList) : trim text.toList = text.toList := by
  have full : ∀ c ∈ text.toList, isBlank c = false := by
    obtain ⟨year, month, day, rest, shape, yearLength, monthLength, dayLength, digits⟩ := dated
    rw [← List.take_of_length_le ten.le, shape]
    intro c member
    cases mem_take_dateText yearLength monthLength dayLength digits c member with
    | inl hyphen =>
        rw [hyphen]
        decide
    | inr digit => exact isBlank_of_isDecimalDigit digit
  apply trim_eq_self
  · exact fun c first => full c (List.mem_of_mem_head? first)
  · exact fun c last => full c (List.mem_of_getLast? last)

/-- Of the texts of ten characters that pass the format check exactly the days of the calendar in
ASCII digits are read. -/
theorem exists_instant_iff {text : String} (ten : text.toList.length = 10)
    (dated : BeginsWithDate text.toList) :
    (∃ instant, parseTimestamp? text = some instant) ↔ IsCalendarDate text := by
  constructor
  · intro found
    obtain ⟨instant, read⟩ := found
    have alphabet := (parseTimestamp?_eq_some_iff.mp read).inAlphabet
    rw [trim_of_beginsWithDate ten dated] at alphabet
    -- Whichever form was read, its only digits are those of ASCII, so the text is three numbers.
    have ascii : BeginsWithAsciiDate text.toList := by
      refine beginsWithAsciiDate_iff.mpr ⟨dated, ?_⟩
      intro c member digit
      exact isDigit_of_isTimestampChar digit (alphabet c (List.mem_of_mem_take member))
    obtain ⟨fields, fit, shape⟩ := exists_dateText ten ascii
    rw [shape, Fields.parseTimestamp?_dateText fit, Option.map_eq_some_iff] at read
    obtain ⟨date, checked, -⟩ := read
    obtain ⟨rfl, valid⟩ := Reader.checkDate_eq_some_iff.mp checked
    have plain : 0 ≤ (fields.year : Int) ∧ (fields.year : Int) ≤ 9999 :=
      ⟨Int.natCast_nonneg _, by exact_mod_cast Nat.le_of_lt_succ fit.year_lt⟩
    refine ⟨_, valid, plain, ?_⟩
    rw [shape, Reader.text_eq_dateText plain]
    rfl
  · intro calendar
    obtain ⟨date, valid, -, shape⟩ := calendar
    rw [shape]
    exact ⟨_, parseTimestamp?_text valid⟩

end Texts

namespace Check

section Column

variable {frame : Frame} {column : DateColumn} {target : Column}
  (found : frame.column? column.name = some target)

include found

/-- The format check is judged on every column. It fails the null rows and those whose text does not
begin with a date in the digits of any script, and so lets more pass than ASCII dates. A column of
bare dates that pass is read only where each of them is a day of the calendar in ASCII digits. -/
theorem judgeDate_digits :
    (∃ rows : List Nat, judgeDate frame column =
        .ofOutcomes [.ofRows .dateFormat column.name "Records have right format" rows] ∧
      rows.Pairwise (· < ·) ∧
      ∀ row, row ∈ rows ↔ ∃ cell, target.cells[row]? = some cell ∧
        (cell = .null ∨ ¬ BeginsWithDate cell.display.toList)) ∧
    (∀ cs, BeginsWithAsciiDate cs ↔
      BeginsWithDate cs ∧ ∀ c ∈ cs.take 10, isDecimalDigit c = true → isDigit c = true) ∧
    (∀ text : String, text.toList.length = 10 → BeginsWithDate text.toList →
      ((∃ instant, parseTimestamp? text = some instant) ↔ IsCalendarDate text)) ∧
    ((∀ cell ∈ target.cells, cell = .null ∨
        cell.display.toList.length = 10 ∧ BeginsWithDate cell.display.toList) →
      ∀ now limit, (∃ row text, judgeWindow frame now limit column =
          .failed [] (.notDate column.name row text)) ↔
        ∃ cell ∈ target.cells, cell ≠ .null ∧ ¬ IsCalendarDate cell.display) := by
  refine ⟨?_, ?_, ?_, ?_⟩
  · have shown := Frame.displayCells_eq_ok_iff.mpr ⟨target, found, rfl⟩
    refine ⟨failingRows (fun _ text => startsWithDate text.toList) (target.cells.map Cell.text?), ?_,
      failingRows_pairwise_lt _ _, ?_⟩
    · rw [judgeDate, shown]
      rfl
    · intro row
      have refused (cell : Cell) :
          (∀ text, cell.text? = some text → startsWithDate text.toList = false) ↔
            cell = .null ∨ ¬ BeginsWithDate cell.display.toList := by
        rw [← startsWithDate_iff, Bool.not_eq_true, ← Cell.isNull_iff, Cell.text?]
        cases cell.isNull with
        | true => simp
        | false => simp
      have law := @mem_failingRows_map_iff _ _ (fun text : String => startsWithDate text.toList)
        Cell.text? target.cells row
      simp only [law, refused]
  · intro cs
    exact beginsWithAsciiDate_iff
  · intro text ten dated
    exact exists_instant_iff ten dated
  · intro bare now limit
    rw [exists_notDate_iff found]
    constructor
    · intro unread
      obtain ⟨cell, member, held, nothing⟩ := unread
      obtain ⟨ten, dated⟩ := (bare cell member).resolve_left held
      refine ⟨cell, member, held, ?_⟩
      intro calendar
      obtain ⟨instant, read⟩ := (exists_instant_iff ten dated).mpr calendar
      rw [nothing] at read
      cases read
    · intro uncivil
      obtain ⟨cell, member, held, foreign⟩ := uncivil
      obtain ⟨ten, dated⟩ := (bare cell member).resolve_left held
      refine ⟨cell, member, held, Option.eq_none_iff_forall_ne_some.mpr ?_⟩
      intro instant read
      exact foreign ((exists_instant_iff ten dated).mp ⟨instant, read⟩)

end Column

/-- A leap day beside a day that is written in Arabic digits. -/
def arabicDates : Column where
  name := "createdAt"
  type := .text
  cells := [.null, .text "2020-02-29", .text "٢٠٢٠-٠١-٠١"]

/-- Both days pass the format check, and then the second one is no date. -/
theorem judgeDate_digits_arabicDates :
    (Frame.mk [arabicDates]).column? "createdAt" = some arabicDates ∧
      BeginsWithDate "٢٠٢٠-٠١-٠١".toList ∧ ¬ BeginsWithAsciiDate "٢٠٢٠-٠١-٠١".toList ∧
      (∃ rows, judgeDate ⟨[arabicDates]⟩ .createdAt =
          .ofOutcomes [.ofRows .dateFormat "createdAt" "Records have right format" rows] ∧
        rows = [0]) ∧
      ∃ row text, judgeWindow ⟨[arabicDates]⟩ ⟨1700000000, 0⟩ ⟨0, 0⟩ .createdAt =
        .failed [] (.notDate "createdAt" row text) := by
  have found : (Frame.mk [arabicDates]).column? DateColumn.createdAt.name = some arabicDates := rfl
  obtain ⟨⟨rows, judged, -, -⟩, ascii, read, window⟩ := judgeDate_digits found
  have dates (text : String) (passes : startsWithDate text.toList = true) :
      BeginsWithDate text.toList :=
    (startsWithDate_iff _).mp passes
  have arabic := dates "٢٠٢٠-٠١-٠١" (by decide +kernel)
  have foreign : ¬ BeginsWithAsciiDate "٢٠٢٠-٠١-٠١".toList := by
    intro own
    have digit := ((ascii _).mp own).2 '٢' (by decide) (by decide)
    cases digit
  have unread : ¬ IsCalendarDate "٢٠٢٠-٠١-٠١" := by
    intro calendar
    obtain ⟨instant, shown⟩ := (read "٢٠٢٠-٠١-٠١" (by decide) arabic).mpr calendar
    have nothing : parseTimestamp? "٢٠٢٠-٠١-٠١" = none := by decide
    rw [nothing] at shown
    cases shown
  have bare : ∀ cell ∈ arabicDates.cells, cell = .null ∨
      cell.display.toList.length = 10 ∧ BeginsWithDate cell.display.toList := by
    intro cell member
    simp only [arabicDates, List.mem_cons, List.not_mem_nil, or_false] at member
    rcases member with rfl | rfl | rfl
    · exact .inl rfl
    · exact .inr ⟨by decide, dates "2020-02-29" (by decide +kernel)⟩
    · exact .inr ⟨by decide, arabic⟩
  have failing : ∃ cell ∈ arabicDates.cells, cell ≠ .null ∧ ¬ IsCalendarDate cell.display :=
    ⟨.text "٢٠٢٠-٠١-٠١", by decide, Cell.noConfusion, unread⟩
  have rowsFound : (judgeDate ⟨[arabicDates]⟩ .createdAt).outcomes.map Outcome.failedRows =
      [[0]] := by
    decide +kernel
  rw [judged] at rowsFound
  simp only [Verdict.ofOutcomes, Outcome.ofRows, List.map_cons, List.map_nil, List.cons.injEq,
    and_true] at rowsFound
  exact ⟨found, arabic, foreign, ⟨rows, judged, rowsFound⟩, (window bare _ _).mpr failing⟩

end Check
end DatasetGate
