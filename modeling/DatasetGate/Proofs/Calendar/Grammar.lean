import DatasetGate.Proofs.Calendar.Chronology

/-!
# The notation of timestamps

Which texts the readers of dates and times take, and as which date and time. The strict form has
fields of full width. A field of the loose forms may be short and have blanks before it, and a year
may have a sign and then any count of digits.
-/

set_option autoImplicit false

namespace DatasetGate.Calendar

open DatasetGate.Text

/-- Digits of a count within bounds, and the number that they write. -/
structure Numeral (least most : Nat) (cs : List Char) (n : Nat) : Prop where
  digits : ∀ c ∈ cs, isDigit c = true
  nonempty : cs ≠ []
  enough : least ≤ cs.length
  short : cs.length ≤ most
  value : Nat.ofDigitChars 10 cs 0 = n

/-- No digit comes next. -/
def NoDigit (cs : List Char) : Prop :=
  ∀ c ∈ cs.head?, isDigit c = false

/-- A field of two digits, or of one if so few are enough, with blanks before them. -/
def FieldText (least : Nat) (cs : List Char) (n : Nat) : Prop :=
  ∃ blanks digits, cs = blanks ++ digits ∧ (∀ c ∈ blanks, isBlank c = true) ∧
    Numeral least 2 digits n

/-- A year of at most four digits, or of a sign and any count of digits, with blanks before it. -/
inductive YearText : List Char → Int → Prop
  | plain {blanks digits : List Char} {n : Nat} (blank : ∀ c ∈ blanks, isBlank c = true)
      (numeral : Numeral 1 4 digits n) : YearText (blanks ++ digits) n
  | plus {blanks digits : List Char} {n : Nat} (blank : ∀ c ∈ blanks, isBlank c = true)
      (numeral : Numeral 1 digits.length digits n) : YearText (blanks ++ '+' :: digits) n
  | minus {blanks digits : List Char} {n : Nat} (blank : ∀ c ∈ blanks, isBlank c = true)
      (numeral : Numeral 1 digits.length digits n) : YearText (blanks ++ '-' :: digits) (-n)

/-- A date in a loose form. Its day has as many digits as are asked for, or two. -/
def DateText (least : Nat) (cs : List Char) (date : Date) : Prop :=
  ∃ year month day, cs = year ++ '-' :: (month ++ '-' :: day) ∧ YearText year date.year ∧
    FieldText 1 month date.month ∧ FieldText least day date.day ∧ date.Valid

/-- A fraction of a second, or nothing. It is cut off behind the nanoseconds. -/
def FractionText (cs : List Char) (nanos : Nat) : Prop :=
  ∃ digits, cs = (if digits.isEmpty then [] else '.' :: digits) ∧
    (∀ c ∈ digits, isDigit c = true) ∧
    Nat.ofDigitChars 10 digits 0 * nanosPerSecond / 10 ^ digits.length = nanos

/-- A time of day in a loose form. -/
def TimeText (cs : List Char) (time : TimeOfDay) : Prop :=
  ∃ hour minute second fraction, cs = hour ++ ':' :: (minute ++ ':' :: (second ++ fraction)) ∧
    FieldText 1 hour time.hour ∧ FieldText 1 minute time.minute ∧ FieldText 1 second time.second ∧
    FractionText fraction time.nanos ∧ time.InRange

/-- A letter for universal time, or a sign with hours and minutes. Hours ahead of universal time
have a plus; which characters are a minus depends on the reader. -/
inductive OffsetText (minus : Char → Prop) : List Char → Int → Prop
  | letter {mark : Char} (marked : mark = 'Z' ∨ mark = 'z') : OffsetText minus [mark] 0
  | ahead {hours minutes : Nat} (hours_le : hours ≤ 23) (minutes_le : minutes ≤ 59) :
      OffsetText minus ('+' :: (Fields.offsetText hours minutes).toList)
        (3600 * (hours : Int) + 60 * minutes)
  | behind {sign : Char} {hours minutes : Nat} (signed : minus sign) (hours_le : hours ≤ 23)
      (minutes_le : minutes ≤ 59) :
      OffsetText minus (sign :: (Fields.offsetText hours minutes).toList)
        (-(3600 * (hours : Int) + 60 * minutes))

theorem noDigit_nil : NoDigit [] := by
  intro c first
  cases first

theorem noDigit_cons {c : Char} (other : isDigit c = false) (rest : List Char) :
    NoDigit (c :: rest) := by
  intro d first
  cases first
  exact other

namespace Numeral

variable {least most n : Nat} {cs : List Char}

theorem exists_cons (numeral : Numeral least most cs n) :
    ∃ first behind, cs = first :: behind ∧ isDigit first = true := by
  cases cs with
  | nil => exact absurd rfl numeral.nonempty
  | cons first behind => exact ⟨first, behind, rfl, numeral.digits first List.mem_cons_self⟩

theorem within (numeral : Numeral least most cs n) {least' most' : Nat}
    (enough : least' ≤ cs.length) (short : cs.length ≤ most') : Numeral least' most' cs n :=
  ⟨numeral.digits, numeral.nonempty, enough, short, numeral.value⟩

theorem length_pos (numeral : Numeral least most cs n) : 0 < cs.length :=
  List.length_pos_of_ne_nil numeral.nonempty

theorem trimLeft_append (numeral : Numeral least most cs n) (rest : List Char) :
    trimLeft (cs ++ rest) = cs ++ rest := by
  obtain ⟨first, behind, rfl, digit⟩ := numeral.exists_cons
  apply trimLeft_eq_self
  intro c head
  cases head
  exact isBlank_of_isDigit digit

theorem lt_pow (numeral : Numeral least most cs n) : n < 10 ^ most := by
  have small := ofDigitChars_lt numeral.digits 0
  rw [numeral.value, Nat.zero_add, Nat.one_mul] at small
  exact small.trans_le (Nat.pow_le_pow_right (by decide) numeral.short)

/-- A numeral of fixed width is its number padded with zeros. -/
theorem eq_zeroPadded (numeral : Numeral most most cs n) : cs = (zeroPadded most n).toList := by
  have length : cs.length = most := numeral.short.antisymm numeral.enough
  have text := Calendar.eq_zeroPadded numeral.digits numeral.nonempty
  rw [numeral.value, length] at text
  exact text

end Numeral

theorem FieldText.shorten {least n : Nat} {cs : List Char} (field : FieldText least cs n) :
    FieldText 1 cs n := by
  obtain ⟨blanks, digits, shape, blank, numeral⟩ := field
  exact ⟨blanks, digits, shape, blank, numeral.within numeral.length_pos numeral.short⟩

theorem FractionText.noDigit {front : List Char} {nanos : Nat} (shown : FractionText front nanos) :
    NoDigit front := by
  obtain ⟨digits, rfl, -⟩ := shown
  cases digits with
  | nil => exact noDigit_nil
  | cons d digits => exact noDigit_cons (by decide) _

namespace Reader

theorem literal_eq_some_iff {c : Char} {cs rest : List Char} {found : Unit} :
    literal c cs = some (found, rest) ↔ cs = c :: rest := by
  cases cs with
  | nil => simp [literal]
  | cons d cs =>
      by_cases same : d = c
      · simp [literal, same]
      · simp [literal, same]

theorem isMinus_iff {c : Char} : isMinus c = true ↔ c = '-' ∨ c = '\u2212' := by
  simp [isMinus]

/-- The digits at the front of a text, up to a width, end there or where no digit follows. -/
theorem digits_split (most : Nat) (cs : List Char) :
    ∃ rest, cs = (cs.take most).takeWhile isDigit ++ rest ∧
      (((cs.take most).takeWhile isDigit).length = most ∨ NoDigit rest) := by
  -- On the text, since each digit that is taken leaves one less of the width.
  induction cs generalizing most with
  | nil => exact ⟨[], by simp, .inr noDigit_nil⟩
  | cons c cs cs_ih =>
      cases most with
      | zero => exact ⟨c :: cs, by simp, .inl (by simp)⟩
      | succ most =>
          cases digit : isDigit c with
          | true =>
              obtain ⟨rest, split, ends⟩ := cs_ih most
              refine ⟨rest, ?_, ?_⟩
              · simpa [digit] using split
              · simpa [digit] using ends
          | false => exact ⟨c :: cs, by simp [digit], .inr (noDigit_cons digit cs)⟩

/-- A number is read as far as its digits and its greatest width go. -/
theorem number_eq_some_iff {least most n : Nat} {cs rest : List Char} :
    number least most cs = some (n, rest) ↔
      ∃ front, cs = front ++ rest ∧ Numeral least most front n ∧
        (front.length = most ∨ NoDigit rest) := by
  constructor
  · intro read
    simp only [number] at read
    obtain ⟨behind, split, ends⟩ := digits_split most cs
    have digits : ∀ c ∈ (cs.take most).takeWhile isDigit, isDigit c = true :=
      fun c member => List.mem_takeWhile_imp member
    have short : ((cs.take most).takeWhile isDigit).length ≤ most :=
      (List.takeWhile_sublist _).length_le.trans (List.length_take_le _ _)
    generalize (cs.take most).takeWhile isDigit = front at read split ends digits short
    subst split
    split at read
    · cases read
    · rename_i enough
      obtain ⟨value, found, done⟩ := Option.map_eq_some_iff.mp read
      rw [List.drop_left] at done
      cases done
      have nonempty : front ≠ [] := by
        intro nothing
        rw [nothing] at found
        cases found
      rw [readNatural?_eq_some digits nonempty] at found
      exact ⟨front, rfl,
        ⟨digits, nonempty, Nat.le_of_not_lt enough, short, Option.some_inj.mp found⟩, ends⟩
  · intro found
    obtain ⟨front, rfl, numeral, ends⟩ := found
    rw [← numeral.value]
    exact number_digits numeral.digits numeral.nonempty numeral.enough numeral.short ends

theorem exists_of_looseField {cs rest : List Char} {n : Nat}
    (read : looseField cs = some (n, rest)) :
    ∃ least front, cs = front ++ rest ∧ FieldText least front n ∧ (least = 2 ∨ NoDigit rest) := by
  obtain ⟨blanks, blank, whole⟩ := exists_trimLeft cs
  obtain ⟨digits, split, numeral, ends⟩ := number_eq_some_iff.mp read
  have field : FieldText digits.length (blanks ++ digits) n :=
    ⟨blanks, digits, rfl, blank, numeral.within le_rfl numeral.short⟩
  refine ⟨digits.length, blanks ++ digits, ?_, field, ends⟩
  rw [List.append_assoc, ← split, ← whole]

theorem looseField_fieldText {least n : Nat} {front rest : List Char}
    (field : FieldText least front n) (ends : least = 2 ∨ NoDigit rest) :
    looseField (front ++ rest) = some (n, rest) := by
  obtain ⟨blanks, digits, rfl, blank, numeral⟩ := field
  have stops : digits.length = 2 ∨ NoDigit rest := by
    cases ends with
    | inl full => exact .inl (numeral.short.antisymm (full ▸ numeral.enough))
    | inr other => exact .inr other
  rw [looseField, List.append_assoc, trimLeft_blanks blank, numeral.trimLeft_append]
  exact number_eq_some_iff.mpr
    ⟨digits, rfl, numeral.within numeral.length_pos numeral.short, stops⟩

theorem longNumber_eq_some_iff {n : Nat} {cs rest : List Char} :
    longNumber cs = some (n, rest) ↔
      ∃ front, cs = front ++ rest ∧ Numeral 1 front.length front n ∧ NoDigit rest := by
  rw [longNumber, number_eq_some_iff]
  constructor
  · intro found
    obtain ⟨front, rfl, numeral, ends⟩ := found
    refine ⟨front, rfl, numeral.within numeral.enough le_rfl, ?_⟩
    cases ends with
    | inl full =>
        have nothing : rest = [] := by simpa using full
        rw [nothing]
        exact noDigit_nil
    | inr other => exact other
  · intro found
    obtain ⟨front, rfl, numeral, ends⟩ := found
    exact ⟨front, rfl, numeral.within numeral.enough (by simp), .inr ends⟩

theorem exists_of_looseYear {cs rest : List Char} {year : Int}
    (read : looseYear cs = some (year, rest)) :
    ∃ front, cs = front ++ rest ∧ YearText front year := by
  obtain ⟨blanks, blank, whole⟩ := exists_trimLeft cs
  rw [looseYear] at read
  split at read
  · rename_i behind minus
    obtain ⟨⟨n, _⟩, found, done⟩ := Option.map_eq_some_iff.mp read
    cases done
    obtain ⟨digits, rfl, numeral, -⟩ := longNumber_eq_some_iff.mp found
    refine ⟨blanks ++ '-' :: digits, ?_, .minus blank numeral⟩
    rw [whole, minus, List.append_assoc, List.cons_append]
  · rename_i behind plus
    obtain ⟨⟨n, _⟩, found, done⟩ := Option.map_eq_some_iff.mp read
    cases done
    obtain ⟨digits, rfl, numeral, -⟩ := longNumber_eq_some_iff.mp found
    refine ⟨blanks ++ '+' :: digits, ?_, .plus blank numeral⟩
    rw [whole, plus, List.append_assoc, List.cons_append]
  · obtain ⟨⟨n, _⟩, found, done⟩ := Option.map_eq_some_iff.mp read
    cases done
    obtain ⟨digits, split, numeral, -⟩ := number_eq_some_iff.mp found
    refine ⟨blanks ++ digits, ?_, .plain blank numeral⟩
    rw [List.append_assoc, ← split, ← whole]

theorem looseYear_of_yearText {front rest : List Char} {year : Int} (shown : YearText front year)
    (ends : NoDigit rest) : looseYear (front ++ rest) = some (year, rest) := by
  cases shown with
  | @plain blanks digits n blank numeral =>
      have found : number 1 4 (digits ++ rest) = some (n, rest) :=
        number_eq_some_iff.mpr ⟨digits, rfl, numeral, .inr ends⟩
      obtain ⟨first, behind, rfl, digit⟩ := numeral.exists_cons
      rw [looseYear, List.append_assoc, trimLeft_blanks blank, numeral.trimLeft_append]
      -- A digit is no sign, so the last case of the reader is left.
      split
      · rename_i signed
        cases signed
        cases digit
      · rename_i signed
        cases signed
        cases digit
      · rw [found]
        rfl
  | @plus blanks digits n blank numeral =>
      have found := longNumber_eq_some_iff.mpr ⟨digits, rfl, numeral, ends⟩
      rw [looseYear, List.append_assoc, trimLeft_blanks blank, List.cons_append,
        trimLeft_eq_self (by simp; decide)]
      simp only [found, Option.map_some]
  | @minus blanks digits n blank numeral =>
      have found := longNumber_eq_some_iff.mpr ⟨digits, rfl, numeral, ends⟩
      rw [looseYear, List.append_assoc, trimLeft_blanks blank, List.cons_append,
        trimLeft_eq_self (by simp; decide)]
      simp only [found, Option.map_some]

theorem checkDate_eq_some_iff {year : Int} {month day : Nat} {date : Date} :
    checkDate year month day = some date ↔ date = ⟨year, month, day⟩ ∧ date.Valid := by
  unfold checkDate
  by_cases valid : Date.Valid ⟨year, month, day⟩
  · simp only [valid, if_true, Option.some.injEq]
    constructor
    · intro same
      exact ⟨same.symm, same ▸ valid⟩
    · intro same
      exact same.1.symm
  · simp only [valid, if_false, reduceCtorEq, false_iff, not_and]
    intro same held
    exact valid (same ▸ held)

theorem checkTime_eq_some_iff {hour minute second nanos : Nat} {time : TimeOfDay} :
    checkTime hour minute second nanos = some time ↔
      time = ⟨hour, minute, second, nanos⟩ ∧ hour ≤ 23 ∧ minute ≤ 59 ∧ second ≤ 60 := by
  unfold checkTime
  by_cases ranged : hour ≤ 23 ∧ minute ≤ 59 ∧ second ≤ 60
  · simp [ranged, eq_comm]
  · simp [ranged]

/-- A date is read up to where its day ends. -/
theorem exists_of_looseDate {cs rest : List Char} {date : Date}
    (read : looseDate cs = some (date, rest)) :
    ∃ least front, cs = front ++ rest ∧ DateText least front date ∧ (least = 2 ∨ NoDigit rest) := by
  simp only [looseDate, Option.bind_eq_bind, Option.bind_eq_some_iff, Prod.exists] at read
  obtain ⟨year, _, yearRead, _, _, first, month, _, monthRead, _, _, second, day, _, dayRead, _,
    checked, done⟩ := read
  cases done
  obtain ⟨rfl, valid⟩ := checkDate_eq_some_iff.mp checked
  obtain ⟨yearText, rfl, yearShown⟩ := exists_of_looseYear yearRead
  obtain rfl := literal_eq_some_iff.mp first
  obtain ⟨_, monthText, rfl, monthShown, -⟩ := exists_of_looseField monthRead
  obtain rfl := literal_eq_some_iff.mp second
  obtain ⟨least, dayText, rfl, dayShown, ends⟩ := exists_of_looseField dayRead
  refine ⟨least, yearText ++ '-' :: (monthText ++ '-' :: dayText), ?_, ?_, ends⟩
  · simp
  · exact ⟨yearText, monthText, dayText, rfl, yearShown, monthShown.shorten, dayShown, valid⟩

theorem looseDate_of_dateText {least : Nat} {front rest : List Char} {date : Date}
    (shown : DateText least front date) (ends : least = 2 ∨ NoDigit rest) :
    looseDate (front ++ rest) = some (date, rest) := by
  obtain ⟨year, month, day, rfl, yearShown, monthShown, dayShown, valid⟩ := shown
  have checked : checkDate date.year date.month date.day = some date :=
    checkDate_eq_some_iff.mpr ⟨rfl, valid⟩
  have hyphen (cs : List Char) : NoDigit ('-' :: cs) := noDigit_cons (by decide) cs
  simp only [looseDate, Option.bind_eq_bind, Option.bind_some, List.append_assoc, List.cons_append,
    looseYear_of_yearText yearShown (hyphen _), literal_self,
    looseField_fieldText monthShown (.inr (hyphen _)), looseField_fieldText dayShown ends, checked]
  rfl

theorem exists_of_fraction {cs rest : List Char} {nanos : Nat}
    (read : fraction cs = some (nanos, rest)) :
    ∃ front, cs = front ++ rest ∧ FractionText front nanos := by
  unfold fraction at read
  split at read
  · rename_i cs
    have whole : cs = cs.takeWhile isDigit ++ cs.dropWhile isDigit :=
      List.takeWhile_append_dropWhile.symm
    have digits : ∀ c ∈ cs.takeWhile isDigit, isDigit c = true :=
      fun c member => List.mem_takeWhile_imp member
    generalize cs.takeWhile isDigit = front at read whole digits
    generalize cs.dropWhile isDigit = behind at whole
    subst whole
    dsimp only at read
    split at read
    · cases read
    · rename_i filled
      have nonempty : front ≠ [] := by simpa using filled
      have kept : ∀ c ∈ front.take 9, isDigit c = true :=
        fun c member => digits c (List.mem_of_mem_take member)
      have some_kept : front.take 9 ≠ [] := by simpa using nonempty
      rw [readNatural?_eq_some kept some_kept, Option.map_some, List.drop_left, Nat.pow_eq,
        nanos_eq digits] at read
      cases read
      exact ⟨'.' :: front, rfl, front, by simp [nonempty], digits, rfl⟩
  · cases read
    exact ⟨[], rfl, [], rfl, List.forall_mem_nil _, rfl⟩

theorem fraction_of_fractionText {front rest : List Char} {nanos : Nat}
    (shown : FractionText front nanos) (ends : EndsFraction rest) :
    fraction (front ++ rest) = some (nanos, rest) := by
  obtain ⟨digits, rfl, digit, rfl⟩ := shown
  cases digits with
  | nil => exact fraction_none ends
  | cons d digits => exact fraction_point digit (List.cons_ne_nil d digits) ends

theorem looseTime_eq_some_iff {cs : List Char} {time : TimeOfDay} :
    looseTime cs = some (time, []) ↔ TimeText cs time := by
  constructor
  · intro read
    have ranged := inRange_of_looseTime read
    simp only [looseTime, Option.bind_eq_bind, Option.bind_eq_some_iff, Prod.exists] at read
    obtain ⟨hour, _, hourRead, _, _, first, minute, _, minuteRead, _, _, second, last, _, lastRead,
      nanos, _, fractionRead, _, checked, done⟩ := read
    cases done
    obtain ⟨rfl, -⟩ := checkTime_eq_some_iff.mp checked
    obtain ⟨_, hourText, rfl, hourShown, -⟩ := exists_of_looseField hourRead
    obtain rfl := literal_eq_some_iff.mp first
    obtain ⟨_, minuteText, rfl, minuteShown, -⟩ := exists_of_looseField minuteRead
    obtain rfl := literal_eq_some_iff.mp second
    obtain ⟨_, secondText, rfl, secondShown, -⟩ := exists_of_looseField lastRead
    obtain ⟨fractionText, rfl, fractionShown⟩ := exists_of_fraction fractionRead
    rw [List.append_nil]
    exact ⟨hourText, minuteText, secondText, fractionText, rfl, hourShown.shorten,
      minuteShown.shorten, secondShown.shorten, fractionShown, ranged⟩
  · intro shown
    obtain ⟨hour, minute, second, fractionText, rfl, hourShown, minuteShown, secondShown,
      fractionShown, ranged⟩ := shown
    have checked : checkTime time.hour time.minute time.second time.nanos = some time :=
      checkTime_eq_some_iff.mpr ⟨rfl, ranged.hour_le, ranged.minute_le, ranged.second_le⟩
    have colon (cs : List Char) : NoDigit (':' :: cs) := noDigit_cons (by decide) cs
    have fractionRead := fraction_of_fractionText fractionShown endsFraction_nil
    rw [List.append_nil] at fractionRead
    simp only [looseTime, Option.bind_eq_bind, Option.bind_some,
      looseField_fieldText hourShown (.inr (colon _)), literal_self,
      looseField_fieldText minuteShown (.inr (colon _)),
      looseField_fieldText secondShown (.inr fractionShown.noDigit), fractionRead, checked]
    rfl

/-- The strict readers leave nothing to choose: what they read is the text of its fields. -/
theorem exists_of_strictDate {cs rest : List Char} {date : Date}
    (read : strictDate cs = some (date, rest)) :
    ∃ year : Nat, year ≤ 9999 ∧ date.year = year ∧ date.Valid ∧
      cs = (zeroPadded 4 year).toList ++ '-' :: ((zeroPadded 2 date.month).toList ++
        '-' :: ((zeroPadded 2 date.day).toList ++ rest)) := by
  simp only [strictDate, Option.bind_eq_bind, Option.bind_eq_some_iff, Prod.exists] at read
  obtain ⟨year, _, yearRead, _, _, first, month, _, monthRead, _, _, second, day, _, dayRead, _,
    checked, done⟩ := read
  cases done
  obtain ⟨rfl, valid⟩ := checkDate_eq_some_iff.mp checked
  obtain ⟨yearText, rfl, yearShown, -⟩ := number_eq_some_iff.mp yearRead
  obtain rfl := literal_eq_some_iff.mp first
  obtain ⟨monthText, rfl, monthShown, -⟩ := number_eq_some_iff.mp monthRead
  obtain rfl := literal_eq_some_iff.mp second
  obtain ⟨dayText, rfl, dayShown, -⟩ := number_eq_some_iff.mp dayRead
  refine ⟨year, Nat.le_of_lt_succ yearShown.lt_pow, rfl, valid, ?_⟩
  rw [← yearShown.eq_zeroPadded, ← monthShown.eq_zeroPadded, ← dayShown.eq_zeroPadded]

theorem exists_of_strictTime {cs rest : List Char} {time : TimeOfDay}
    (read : strictTime cs = some (time, rest)) :
    ∃ fraction, FractionText fraction time.nanos ∧
      cs = (zeroPadded 2 time.hour).toList ++ ':' :: ((zeroPadded 2 time.minute).toList ++
        ':' :: ((zeroPadded 2 time.second).toList ++ (fraction ++ rest))) := by
  simp only [strictTime, Option.bind_eq_bind, Option.bind_eq_some_iff, Prod.exists] at read
  obtain ⟨hour, _, hourRead, _, _, first, minute, _, minuteRead, _, _, second, last, _, lastRead,
    nanos, _, fractionRead, _, checked, done⟩ := read
  cases done
  obtain ⟨rfl, -⟩ := checkTime_eq_some_iff.mp checked
  obtain ⟨hourText, rfl, hourShown, -⟩ := number_eq_some_iff.mp hourRead
  obtain rfl := literal_eq_some_iff.mp first
  obtain ⟨minuteText, rfl, minuteShown, -⟩ := number_eq_some_iff.mp minuteRead
  obtain rfl := literal_eq_some_iff.mp second
  obtain ⟨secondText, rfl, secondShown, -⟩ := number_eq_some_iff.mp lastRead
  obtain ⟨fractionText, rfl, fractionShown⟩ := exists_of_fraction fractionRead
  refine ⟨fractionText, fractionShown, ?_⟩
  rw [← hourShown.eq_zeroPadded, ← minuteShown.eq_zeroPadded, ← secondShown.eq_zeroPadded]

theorem offsetText_of_offset {cs : List Char} {east : Int} (read : offset cs = some (east, [])) :
    OffsetText (isMinus · = true) cs east := by
  cases cs with
  | nil => cases read
  | cons sign cs =>
      simp only [offset] at read
      split at read
      · rename_i marked
        cases read
        exact .letter marked
      · split at read
        · rename_i signed
          simp only [Option.bind_eq_bind, Option.bind_eq_some_iff, Prod.exists] at read
          obtain ⟨hours, _, hoursRead, _, _, colon, minutes, _, minutesRead, ranged⟩ := read
          split at ranged
          · rename_i bounds
            cases ranged
            obtain ⟨hoursText, rfl, hoursShown, -⟩ := number_eq_some_iff.mp hoursRead
            obtain rfl := literal_eq_some_iff.mp colon
            obtain ⟨minutesText, rfl, minutesShown, -⟩ := number_eq_some_iff.mp minutesRead
            rw [List.append_nil, hoursShown.eq_zeroPadded, minutesShown.eq_zeroPadded,
              ← Fields.toList_offsetText]
            by_cases plus : sign = '+'
            · rw [if_pos plus, plus]
              exact .ahead bounds.1 bounds.2
            · rw [if_neg plus]
              exact .behind (signed.resolve_left plus) bounds.1 bounds.2
          · cases ranged
        · cases read

theorem offset_of_offsetText {cs : List Char} {east : Int}
    (shown : OffsetText (isMinus · = true) cs east) : offset cs = some (east, []) := by
  cases shown with
  | letter marked => simp [offset, marked]
  | ahead hours_le minutes_le => exact Fields.offset_offsetText (.inl rfl) hours_le minutes_le
  | @behind sign hours minutes signed hours_le minutes_le =>
      have other : sign ≠ '+' := by
        intro plus
        rw [plus] at signed
        cases signed
      rw [Fields.offset_offsetText (.inr signed) hours_le minutes_le, if_neg other]

end Reader
end DatasetGate.Calendar
