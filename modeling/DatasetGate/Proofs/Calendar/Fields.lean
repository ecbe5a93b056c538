import DatasetGate.Calendar.Timestamp
import DatasetGate.Proofs.Text.Blank

/-!
# Fields of written timestamps

What the readers of timestamps make of fields that are written with their full widths: the strict
ones and the loose ones find the same date and the same time of day. A fraction of any length is cut
off behind the nanoseconds.
-/

set_option autoImplicit false

namespace DatasetGate.Calendar

open DatasetGate.Text

/-- The fields of a written timestamp. The fraction is a run of digits, empty if there is none. -/
structure Fields where
  year : Nat
  month : Nat
  day : Nat
  hour : Nat
  minute : Nat
  second : Nat
  fraction : List Char

namespace Fields

variable (fields : Fields)

/-- Every field fits its width. -/
structure Fit : Prop where
  year_lt : fields.year < 10 ^ 4
  month_lt : fields.month < 10 ^ 2
  day_lt : fields.day < 10 ^ 2
  hour_lt : fields.hour < 10 ^ 2
  minute_lt : fields.minute < 10 ^ 2
  second_lt : fields.second < 10 ^ 2
  digits : ∀ c ∈ fields.fraction, isDigit c = true

def dateText : String :=
  zeroPadded 4 fields.year ++ "-" ++ zeroPadded 2 fields.month ++ "-" ++ zeroPadded 2 fields.day

def fractionText : String :=
  if fields.fraction.isEmpty then "" else "." ++ String.ofList fields.fraction

def clockText : String :=
  zeroPadded 2 fields.hour ++ ":" ++ zeroPadded 2 fields.minute ++ ":" ++
    zeroPadded 2 fields.second ++ fields.fractionText

def text (separator zone : String) : String :=
  fields.dateText ++ separator ++ fields.clockText ++ zone

/-- The fraction of a second in whole nanoseconds. -/
def nanos : Nat :=
  Nat.ofDigitChars 10 fields.fraction 0 * nanosPerSecond / 10 ^ fields.fraction.length

theorem toList_dateText : fields.dateText.toList =
    (zeroPadded 4 fields.year).toList ++ '-' :: ((zeroPadded 2 fields.month).toList ++
      '-' :: (zeroPadded 2 fields.day).toList) := by
  have hyphen : "-".toList = ['-'] := rfl
  simp only [dateText, String.toList_append, hyphen, List.append_assoc, List.cons_append,
    List.nil_append]

theorem toList_clockText : fields.clockText.toList =
    (zeroPadded 2 fields.hour).toList ++ ':' :: ((zeroPadded 2 fields.minute).toList ++
      ':' :: ((zeroPadded 2 fields.second).toList ++ fields.fractionText.toList)) := by
  have colon : ":".toList = [':'] := rfl
  simp only [clockText, String.toList_append, colon, List.append_assoc, List.cons_append,
    List.nil_append]

theorem toList_fractionText : fields.fractionText.toList =
    if fields.fraction.isEmpty then [] else '.' :: fields.fraction := by
  unfold fractionText
  split
  · rfl
  · have point : ".".toList = ['.'] := rfl
    rw [String.toList_append, point, String.toList_ofList]
    rfl

end Fields

theorem daysInMonth_le (year : Int) (month : Nat) : daysInMonth year month ≤ 31 := by
  unfold daysInMonth
  split
  · split <;> decide
  · split <;> decide

theorem trimLeft_zeroPadded {width : Nat} (n : Nat) (rest : List Char) :
    trimLeft ((zeroPadded width n).toList ++ rest) = (zeroPadded width n).toList ++ rest := by
  apply trimLeft_eq_self
  intro c first
  rw [List.head?_append_of_ne_nil _ (zeroPadded_ne_nil width n)] at first
  exact isBlank_of_isDigit (isDigit_of_mem_zeroPadded (List.mem_of_mem_head? first))

namespace Reader

/-- A run of digits is read up to its end, which is where the width ends or no digit follows. -/
theorem number_digits {least most : Nat} {digits rest : List Char}
    (digit : ∀ c ∈ digits, isDigit c = true) (nonempty : digits ≠ [])
    (enough : least ≤ digits.length) (short : digits.length ≤ most)
    (ends : digits.length = most ∨ ∀ c ∈ rest.head?, isDigit c = false) :
    number least most (digits ++ rest) = some (Nat.ofDigitChars 10 digits 0, rest) := by
  have behind : (rest.take (most - digits.length)).takeWhile isDigit = [] := by
    rcases ends with full | other
    · rw [full, Nat.sub_self, List.take_zero, List.takeWhile_nil]
    · cases rest with
      | nil => rw [List.take_nil, List.takeWhile_nil]
      | cons c rest =>
          cases most - digits.length with
          | zero => rw [List.take_zero, List.takeWhile_nil]
          | succ count =>
              have first : isDigit c = false := other c rfl
              rw [List.take_succ_cons, List.takeWhile_cons_of_neg (by simp [first])]
  have taken : ((digits ++ rest).take most).takeWhile isDigit = digits := by
    rw [List.take_append, List.take_of_length_le short, List.takeWhile_append_of_pos digit, behind,
      List.append_nil]
  simp only [number, taken, Nat.not_lt.mpr enough, if_false, readNatural?_eq_some digit nonempty,
    Option.map_some, List.drop_left]

theorem number_zeroPadded {least width n : Nat} (enough : least ≤ width) (positive : 0 < width)
    (fits : n < 10 ^ width) (rest : List Char) :
    number least width ((zeroPadded width n).toList ++ rest) = some (n, rest) := by
  have length := length_zeroPadded positive fits
  have digit : ∀ c ∈ (zeroPadded width n).toList, isDigit c = true :=
    fun c member => isDigit_of_mem_zeroPadded member
  rw [number_digits digit (zeroPadded_ne_nil width n) (enough.trans_eq length.symm) length.le
    (.inl length), ofDigitChars_zeroPadded]

theorem literal_self (c : Char) (rest : List Char) :
    literal c (c :: rest) = some ((), rest) := by
  simp [literal]

/-- Digits past the ninth make less than a nanosecond. -/
theorem nanos_eq {digits : List Char} (digit : ∀ c ∈ digits, isDigit c = true) :
    Nat.ofDigitChars 10 (digits.take 9) 0 * 10 ^ (9 - (digits.take 9).length) =
      Nat.ofDigitChars 10 digits 0 * nanosPerSecond / 10 ^ digits.length := by
  rw [show nanosPerSecond = 10 ^ 9 from rfl]
  rcases Nat.le_total digits.length 9 with short | long
  · obtain ⟨padding, total⟩ := Nat.exists_eq_add_of_le short
    rw [List.take_of_length_le short, total, Nat.add_sub_cancel_left, Nat.pow_add,
      Nat.mul_left_comm, Nat.mul_div_cancel_left _ (by positivity)]
  · have kept : (digits.take 9).length = 9 := List.length_take_of_le long
    have dropped : ∀ c ∈ digits.drop 9, isDigit c = true :=
      fun c member => digit c (List.mem_of_mem_drop member)
    have small := ofDigitChars_lt dropped 0
    have length : digits.length = (digits.drop 9).length + 9 := by
      rw [List.length_drop]
      omega
    have value : Nat.ofDigitChars 10 digits 0 =
        10 ^ (digits.drop 9).length * Nat.ofDigitChars 10 (digits.take 9) 0 +
          Nat.ofDigitChars 10 (digits.drop 9) 0 := by
      rw [← Nat.ofDigitChars_eq_ofDigitChars_zero, ← Nat.ofDigitChars_append, List.take_append_drop]
    rw [kept, Nat.sub_self, Nat.pow_zero, Nat.mul_one, length, Nat.pow_add,
      Nat.mul_div_mul_right _ _ (by positivity), value, Nat.mul_add_div (by positivity),
      Nat.div_eq_of_lt (by simpa using small), Nat.add_zero]

/-- Text that ends a fraction before it, and is none itself. -/
def EndsFraction (rest : List Char) : Prop :=
  ∀ c ∈ rest.head?, isDigit c = false ∧ c ≠ '.'

theorem endsFraction_nil : EndsFraction [] := by
  intro c first
  cases first

theorem endsFraction_cons {c : Char} (other : isDigit c = false ∧ c ≠ '.') (rest : List Char) :
    EndsFraction (c :: rest) := by
  intro d first
  cases first
  exact other

theorem fraction_none {rest : List Char} (ends : EndsFraction rest) :
    fraction rest = some (0, rest) := by
  unfold fraction
  split
  · rename_i rest
    exact absurd rfl (ends '.' rfl).2
  · rfl

theorem fraction_point {digits rest : List Char} (digit : ∀ c ∈ digits, isDigit c = true)
    (nonempty : digits ≠ []) (ends : EndsFraction rest) :
    fraction ('.' :: digits ++ rest) =
      some (Nat.ofDigitChars 10 digits 0 * nanosPerSecond / 10 ^ digits.length, rest) := by
  have run : (digits ++ rest).takeWhile isDigit = digits := by
    rw [List.takeWhile_append_of_pos digit]
    cases rest with
    | nil => rw [List.takeWhile_nil, List.append_nil]
    | cons c rest => rw [List.takeWhile_cons_of_neg (by simp [(ends c rfl).1]), List.append_nil]
  have kept : ∀ c ∈ digits.take 9, isDigit c = true :=
    fun c member => digit c (List.mem_of_mem_take member)
  have some_kept : digits.take 9 ≠ [] := by simpa using nonempty
  have filled : digits.isEmpty = false := by simpa using nonempty
  simp only [fraction, List.cons_append, run, filled, Bool.false_eq_true, if_false,
    readNatural?_eq_some kept some_kept, Option.map_some, List.drop_left, Nat.pow_eq, nanos_eq digit]

theorem looseField_zeroPadded {n : Nat} (fits : n < 10 ^ 2) (rest : List Char) :
    looseField ((zeroPadded 2 n).toList ++ rest) = some (n, rest) := by
  rw [looseField, trimLeft_zeroPadded, number_zeroPadded (by decide) (by decide) fits]

theorem looseYear_zeroPadded {n : Nat} (fits : n < 10 ^ 4) (rest : List Char) :
    looseYear ((zeroPadded 4 n).toList ++ rest) = some ((n : Int), rest) := by
  have read := @number_zeroPadded 1 4 n (by decide) (by decide) fits rest
  have digit : ∀ c ∈ (zeroPadded 4 n).toList, isDigit c = true :=
    fun c member => isDigit_of_mem_zeroPadded member
  rw [looseYear, trimLeft_zeroPadded]
  cases shape : (zeroPadded 4 n).toList with
  | nil => exact absurd shape (zeroPadded_ne_nil 4 n)
  | cons c digits =>
      rw [shape, List.forall_mem_cons] at digit
      rw [shape, List.cons_append] at read
      rw [List.cons_append]
      split
      · rename_i signed
        cases signed
        cases digit.1
      · rename_i signed
        cases signed
        cases digit.1
      · rw [read]
        rfl

section Fields

variable {fields : Fields} (fit : fields.Fit)

include fit

theorem fraction_fields {rest : List Char} (ends : EndsFraction rest) :
    fraction (fields.fractionText.toList ++ rest) = some (fields.nanos, rest) := by
  rw [fields.toList_fractionText, Fields.nanos]
  cases shape : fields.fraction with
  | nil => exact fraction_none ends
  | cons d digits => exact fraction_point (shape ▸ fit.digits) (List.cons_ne_nil d digits) ends

theorem strictDate_fields (rest : List Char) :
    strictDate (fields.dateText.toList ++ rest) =
      (checkDate fields.year fields.month fields.day).map fun date => (date, rest) := by
  have year := @number_zeroPadded 4 4 fields.year le_rfl (by decide) fit.year_lt
  have month := @number_zeroPadded 2 2 fields.month le_rfl (by decide) fit.month_lt
  have day := @number_zeroPadded 2 2 fields.day le_rfl (by decide) fit.day_lt
  simp only [strictDate, fields.toList_dateText, List.append_assoc, List.cons_append,
    Option.bind_eq_bind, Option.bind_some, year, month, day, literal_self,
    Option.map_eq_bind]
  rfl

theorem looseDate_fields (rest : List Char) :
    looseDate (fields.dateText.toList ++ rest) =
      (checkDate fields.year fields.month fields.day).map fun date => (date, rest) := by
  have year := @looseYear_zeroPadded fields.year fit.year_lt
  simp only [looseDate, fields.toList_dateText, List.append_assoc, List.cons_append,
    Option.bind_eq_bind, Option.bind_some, year, looseField_zeroPadded fit.month_lt,
    looseField_zeroPadded fit.day_lt, literal_self,
    Option.map_eq_bind]
  rfl

theorem strictTime_fields {rest : List Char} (ends : EndsFraction rest) :
    strictTime (fields.clockText.toList ++ rest) =
      (checkTime fields.hour fields.minute fields.second fields.nanos).map fun time =>
        (time, rest) := by
  have hour := @number_zeroPadded 2 2 fields.hour le_rfl (by decide) fit.hour_lt
  have minute := @number_zeroPadded 2 2 fields.minute le_rfl (by decide) fit.minute_lt
  have second := @number_zeroPadded 2 2 fields.second le_rfl (by decide) fit.second_lt
  simp only [strictTime, fields.toList_clockText, List.append_assoc, List.cons_append,
    Option.bind_eq_bind, Option.bind_some, hour, minute, second, literal_self,
    fraction_fields fit ends, Option.map_eq_bind]
  rfl

theorem looseTime_fields {rest : List Char} (ends : EndsFraction rest) :
    looseTime (fields.clockText.toList ++ rest) =
      (checkTime fields.hour fields.minute fields.second fields.nanos).map fun time =>
        (time, rest) := by
  simp only [looseTime, fields.toList_clockText, List.append_assoc, List.cons_append,
    Option.bind_eq_bind, Option.bind_some, looseField_zeroPadded fit.hour_lt,
    looseField_zeroPadded fit.minute_lt, looseField_zeroPadded fit.second_lt, literal_self,
    fraction_fields fit ends, Option.map_eq_bind]
  rfl

end Fields

end Reader
end DatasetGate.Calendar
