import DatasetGate.Proofs.Calendar.Forms
import DatasetGate.Text.Digit

/-!
# The alphabet of timestamps

The characters that a timestamp may have. The only decimal digits among them are those of ASCII; the
digits of other scripts are neither blanks nor marks.
-/

set_option autoImplicit false

namespace DatasetGate.Calendar

open DatasetGate.Text

/-- The characters of timestamps other than digits and blanks. -/
def timestampMarks : List Char :=
  ['-', '+', ':', '.', 'T', 't', 'Z', 'z', '\u2212']

def isTimestampChar (c : Char) : Bool :=
  isDigit c || isBlank c || timestampMarks.contains c

/-- Every character may stand in a timestamp. -/
def InAlphabet (cs : List Char) : Prop :=
  ∀ c ∈ cs, isTimestampChar c = true

section Alphabet

variable {cs ds : List Char} {c : Char}

@[simp] theorem inAlphabet_nil : InAlphabet [] :=
  List.forall_mem_nil _

@[simp] theorem inAlphabet_cons :
    InAlphabet (c :: cs) ↔ isTimestampChar c = true ∧ InAlphabet cs :=
  List.forall_mem_cons

@[simp] theorem inAlphabet_append : InAlphabet (cs ++ ds) ↔ InAlphabet cs ∧ InAlphabet ds :=
  List.forall_mem_append

theorem inAlphabet_digits (digits : ∀ c ∈ cs, isDigit c = true) : InAlphabet cs := by
  intro c member
  simp [isTimestampChar, digits c member]

theorem inAlphabet_blanks (blanks : ∀ c ∈ cs, isBlank c = true) : InAlphabet cs := by
  intro c member
  simp [isTimestampChar, blanks c member]

theorem inAlphabet_zeroPadded (width n : Nat) : InAlphabet (zeroPadded width n).toList :=
  inAlphabet_digits fun _ member => isDigit_of_mem_zeroPadded member

end Alphabet

section Forms

variable {cs : List Char}

theorem FieldText.inAlphabet {least n : Nat} (field : FieldText least cs n) : InAlphabet cs := by
  obtain ⟨blanks, digits, rfl, blank, numeral⟩ := field
  exact inAlphabet_append.mpr ⟨inAlphabet_blanks blank, inAlphabet_digits numeral.digits⟩

theorem YearText.inAlphabet {year : Int} (shown : YearText cs year) : InAlphabet cs := by
  have plus : isTimestampChar '+' = true := by decide
  have minus : isTimestampChar '-' = true := by decide
  cases shown with
  | plain blank numeral => simp [inAlphabet_blanks blank, inAlphabet_digits numeral.digits]
  | plus blank numeral => simp [inAlphabet_blanks blank, inAlphabet_digits numeral.digits, plus]
  | minus blank numeral => simp [inAlphabet_blanks blank, inAlphabet_digits numeral.digits, minus]

theorem DateText.inAlphabet {least : Nat} {date : Date} (shown : DateText least cs date) :
    InAlphabet cs := by
  obtain ⟨year, month, day, rfl, yearShown, monthShown, dayShown, -⟩ := shown
  have hyphen : isTimestampChar '-' = true := by decide
  simp [yearShown.inAlphabet, monthShown.inAlphabet, dayShown.inAlphabet, hyphen]

theorem FractionText.inAlphabet {nanos : Nat} (shown : FractionText cs nanos) : InAlphabet cs := by
  obtain ⟨digits, rfl, digit, -⟩ := shown
  have point : isTimestampChar '.' = true := by decide
  cases digits with
  | nil => exact inAlphabet_nil
  | cons d digits => exact inAlphabet_cons.mpr ⟨point, inAlphabet_digits digit⟩

theorem TimeText.inAlphabet {time : TimeOfDay} (shown : TimeText cs time) : InAlphabet cs := by
  obtain ⟨hour, minute, second, fraction, rfl, hourShown, minuteShown, secondShown, fractionShown,
    -⟩ := shown
  have colon : isTimestampChar ':' = true := by decide
  simp [hourShown.inAlphabet, minuteShown.inAlphabet, secondShown.inAlphabet,
    fractionShown.inAlphabet, colon]

theorem OffsetText.inAlphabet {east : Int} (shown : OffsetText (Reader.isMinus · = true) cs east) :
    InAlphabet cs := by
  have colon : isTimestampChar ':' = true := by decide
  have text (hours minutes : Nat) : InAlphabet (Fields.offsetText hours minutes).toList := by
    simp [Fields.toList_offsetText, inAlphabet_zeroPadded, colon]
  cases shown with
  | letter marked =>
      refine inAlphabet_cons.mpr ⟨?_, inAlphabet_nil⟩
      cases marked with
      | inl upper => rw [upper]; decide
      | inr lower => rw [lower]; decide
  | ahead => exact inAlphabet_cons.mpr ⟨by decide, text _ _⟩
  | behind signed =>
      refine inAlphabet_cons.mpr ⟨?_, text _ _⟩
      cases Reader.isMinus_iff.mp signed with
      | inl hyphen => rw [hyphen]; decide
      | inr minus => rw [minus]; decide

theorem inAlphabet_dateText (fields : Fields) : InAlphabet fields.dateText.toList := by
  have hyphen : isTimestampChar '-' = true := by decide
  simp [fields.toList_dateText, inAlphabet_zeroPadded, hyphen]

theorem Fields.Valid.inAlphabet_clockText {fields : Fields} (valid : fields.Valid) :
    InAlphabet fields.clockText.toList := by
  have colon : isTimestampChar ':' = true := by decide
  have fraction : FractionText fields.fractionText.toList fields.nanos :=
    ⟨fields.fraction, fields.toList_fractionText, valid.digits, rfl⟩
  simp [fields.toList_clockText, inAlphabet_zeroPadded, colon, fraction.inAlphabet]

theorem TimestampText.inAlphabet {instant : Instant} (shown : TimestampText cs instant) :
    InAlphabet cs := by
  cases shown with
  | @zoned fields mark zone east valid marked shifted =>
      have between : isTimestampChar mark = true := by
        rcases marked with rfl | rfl | rfl
        · decide
        · decide
        · decide
      simp [inAlphabet_dateText, valid.inAlphabet_clockText, shifted.inAlphabet, between]
  | letter dated timed =>
      have mark : isTimestampChar 'T' = true := by decide
      simp [dated.inAlphabet, timed.inAlphabet, mark]
  | apart dated blanked timed => simp [dated.inAlphabet, inAlphabet_cons.mp timed.inAlphabet]
  | joined dated timed => simp [dated.inAlphabet, timed.inAlphabet]
  | bare dated => exact dated.inAlphabet

end Forms

section DecimalDigits

variable {c : Char}

/-- Decimal digits of any script are no blanks. -/
theorem isBlank_of_isDecimalDigit (digit : isDecimalDigit c = true) : isBlank c = false := by
  have disjoint : ∀ digits ∈ decimalDigitRanges, ∀ blanks ∈ blankRanges,
      digits.2 < blanks.1 ∨ blanks.2 < digits.1 := by
    decide
  obtain ⟨digits, listed, bounds⟩ := List.any_eq_true.mp digit
  simp only [Bool.and_eq_true, decide_eq_true_eq] at bounds
  rw [isBlank, List.any_eq_false]
  intro blanks listed'
  simp only [Bool.and_eq_true, decide_eq_true_eq, not_and, not_le]
  intro low
  cases disjoint digits listed blanks listed' with
  | inl before => omega
  | inr behind => omega

theorem isDecimalDigit_of_isDigit (digit : isDigit c = true) : isDecimalDigit c = true := by
  obtain ⟨low, high⟩ := bounds_of_isDigit digit
  exact List.any_eq_true.mpr ⟨(48, 57), List.mem_cons_self, by simp [low, high]⟩

/-- The digits of a timestamp are those of ASCII. -/
theorem isDigit_of_isTimestampChar (digit : isDecimalDigit c = true)
    (allowed : isTimestampChar c = true) : isDigit c = true := by
  have marks : timestampMarks.any isDecimalDigit = false := by decide
  rw [isTimestampChar, isBlank_of_isDecimalDigit digit, Bool.or_false, Bool.or_eq_true] at allowed
  cases allowed with
  | inl own => exact own
  | inr mark =>
      exact absurd digit (List.any_eq_false.mp marks c (List.contains_iff_mem.mp mark))

end DecimalDigits

end DatasetGate.Calendar
