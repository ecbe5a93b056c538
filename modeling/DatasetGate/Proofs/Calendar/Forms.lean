import DatasetGate.Proofs.Calendar.Grammar

/-!
# The forms of timestamps

The readers of timestamps are tried one after another, but no text is read to its end by two of
them. What the strict readers of dates and times find the loose ones find too, so two forms that read
one text agree on its date and on what follows it. A text is a timestamp just when one of the forms
fits.
-/

set_option autoImplicit false

namespace DatasetGate.Calendar

open DatasetGate.Text

/-- A text without blanks around it that is read as an instant. Only the form with an offset has
fields of full width. In the others the time stands behind a letter, behind blanks, or at once
behind a day of two digits. -/
inductive TimestampText : List Char → Instant → Prop
  | zoned {fields : Fields} {mark : Char} {zone : List Char} {east : Int} (valid : fields.Valid)
      (marked : mark = 'T' ∨ mark = 't' ∨ mark = ' ')
      (shifted : OffsetText (Reader.isMinus · = true) zone east) :
      TimestampText (fields.dateText.toList ++ mark :: (fields.clockText.toList ++ zone))
        ⟨fields.instant.seconds - east, fields.instant.nanos⟩
  | letter {front clock : List Char} {date : Date} {time : TimeOfDay} (dated : DateText 1 front date)
      (timed : TimeText clock time) : TimestampText (front ++ 'T' :: clock) (.ofCivil date time)
  | apart {front clock : List Char} {blank : Char} {date : Date} {time : TimeOfDay}
      (dated : DateText 1 front date) (blanked : isBlank blank = true)
      (timed : TimeText (blank :: clock) time) :
      TimestampText (front ++ blank :: clock) (.ofCivil date time)
  | joined {front clock : List Char} {date : Date} {time : TimeOfDay} (dated : DateText 2 front date)
      (timed : TimeText clock time) : TimestampText (front ++ clock) (.ofCivil date time)
  | bare {front : List Char} {date : Date} (dated : DateText 1 front date) :
      TimestampText front (.ofCivil date ⟨0, 0, 0, 0⟩)

/-- A timestamp in one of the four forms with every field in its full width: with an offset, with a
letter or a blank and no offset, and a date alone. -/
inductive FullTimestamp : List Char → Instant → Prop
  | zoned {fields : Fields} {mark : Char} {zone : List Char} {east : Int} (valid : fields.Valid)
      (marked : mark = 'T' ∨ mark = 't' ∨ mark = ' ') (shifted : OffsetText (· = '-') zone east) :
      FullTimestamp (fields.dateText.toList ++ mark :: (fields.clockText.toList ++ zone))
        ⟨fields.instant.seconds - east, fields.instant.nanos⟩
  | letter {fields : Fields} (valid : fields.Valid) :
      FullTimestamp (fields.dateText.toList ++ 'T' :: fields.clockText.toList) fields.instant
  | blank {fields : Fields} (valid : fields.Valid) :
      FullTimestamp (fields.dateText.toList ++ ' ' :: fields.clockText.toList) fields.instant
  | date {fields : Fields} (valid : fields.Valid) :
      FullTimestamp fields.dateText.toList ⟨86400 * fields.date.civilDays, 0⟩

theorem noDigit_blank {blank : Char} (blanked : isBlank blank = true) (rest : List Char) :
    NoDigit (blank :: rest) := by
  apply noDigit_cons
  cases digit : isDigit blank with
  | false => rfl
  | true =>
      rw [isBlank_of_isDigit digit] at blanked
      cases blanked

theorem DateText.shorten {least : Nat} {cs : List Char} {date : Date}
    (shown : DateText least cs date) : DateText 1 cs date := by
  obtain ⟨year, month, day, split, yearShown, monthShown, dayShown, valid⟩ := shown
  exact ⟨year, month, day, split, yearShown, monthShown, dayShown.shorten, valid⟩

/-- A time begins with a digit or a blank. -/
theorem TimeText.exists_blank {cs : List Char} {time : TimeOfDay} (shown : TimeText cs time)
    (other : NoDigit cs) : ∃ blank behind, cs = blank :: behind ∧ isBlank blank = true := by
  obtain ⟨_, minute, second, fraction, rfl, ⟨blanks, digits, rfl, blank, numeral⟩, -⟩ := shown
  cases blanks with
  | nil =>
      obtain ⟨first, behind, rfl, digit⟩ := numeral.exists_cons
      have refused := other first rfl
      rw [digit] at refused
      cases refused
  | cons c blanks => exact ⟨c, _, rfl, blank c List.mem_cons_self⟩

theorem OffsetText.endsFraction {cs : List Char} {east : Int}
    (shown : OffsetText (Reader.isMinus · = true) cs east) : Reader.EndsFraction cs := by
  cases shown with
  | letter marked =>
      apply Reader.endsFraction_cons
      cases marked with
      | inl upper => rw [upper]; decide
      | inr lower => rw [lower]; decide
  | ahead hours_le minutes_le => exact Reader.endsFraction_cons (by decide) _
  | behind signed hours_le minutes_le =>
      apply Reader.endsFraction_cons
      cases Reader.isMinus_iff.mp signed with
      | inl hyphen => rw [hyphen]; decide
      | inr minus => rw [minus]; decide

theorem Fields.Valid.instant_eq {fields : Fields} (valid : fields.Valid) :
    fields.instant =
      .ofCivil fields.date ⟨fields.hour, fields.minute, fields.second, fields.nanos⟩ := by
  have read := valid.read?_eq
  have checked : checkTime fields.hour fields.minute fields.second fields.nanos =
      some ⟨fields.hour, fields.minute, fields.second, fields.nanos⟩ :=
    if_pos ⟨valid.hour_le, valid.minute_le, valid.second_le⟩
  rw [Fields.read?, valid.checkDate_eq, checked] at read
  exact (Option.some_inj.mp read).symm

namespace Reader

section Loose

theorem trimLeft_trimLeft (cs : List Char) : trimLeft (trimLeft cs) = trimLeft cs :=
  List.dropWhile_idempotent isBlank cs

theorem looseField_of_number {cs rest : List Char} {n : Nat}
    (read : number 2 2 cs = some (n, rest)) : looseField cs = some (n, rest) := by
  obtain ⟨digits, rfl, numeral, -⟩ := number_eq_some_iff.mp read
  exact looseField_fieldText ⟨[], digits, rfl, List.forall_mem_nil _, numeral⟩ (.inl rfl)

theorem looseDate_of_strictDate {cs rest : List Char} {date : Date}
    (read : strictDate cs = some (date, rest)) : looseDate cs = some (date, rest) := by
  simp only [strictDate, Option.bind_eq_bind, Option.bind_eq_some_iff, Prod.exists] at read
  obtain ⟨year, _, yearRead, _, behind, first, month, _, monthRead, _, _, second, day, _, dayRead, _,
    checked, done⟩ := read
  obtain rfl := literal_eq_some_iff.mp first
  obtain ⟨digits, rfl, numeral, -⟩ := number_eq_some_iff.mp yearRead
  have shown : YearText digits year :=
    .plain (List.forall_mem_nil _) (numeral.within numeral.length_pos numeral.short)
  have hyphen : NoDigit ('-' :: behind) := noDigit_cons (by decide) behind
  simp only [looseDate, Option.bind_eq_bind, Option.bind_some, looseYear_of_yearText shown hyphen,
    first, looseField_of_number monthRead, second, looseField_of_number dayRead, checked]
  exact done

theorem looseTime_of_strictTime {cs rest : List Char} {time : TimeOfDay}
    (read : strictTime cs = some (time, rest)) : looseTime cs = some (time, rest) := by
  simp only [strictTime, Option.bind_eq_bind, Option.bind_eq_some_iff, Prod.exists] at read
  obtain ⟨hour, _, hourRead, _, _, first, minute, _, minuteRead, _, _, second, last, _, lastRead,
    nanos, _, fractionRead, _, checked, done⟩ := read
  simp only [looseTime, Option.bind_eq_bind, Option.bind_some, looseField_of_number hourRead, first,
    looseField_of_number minuteRead, second, looseField_of_number lastRead, fractionRead, checked]
  exact done

theorem looseTime_trimLeft (cs : List Char) : looseTime (trimLeft cs) = looseTime cs := by
  simp only [looseTime, looseField, trimLeft_trimLeft]

theorem looseTime_blank {blank : Char} (blanked : isBlank blank = true) (cs : List Char) :
    looseTime (blank :: cs) = looseTime cs := by
  have front : ∀ c ∈ [blank], isBlank c = true := List.forall_mem_singleton.mpr blanked
  rw [← looseTime_trimLeft, ← List.singleton_append, trimLeft_blanks front, looseTime_trimLeft]

theorem looseTime_letter {mark : Char} (marked : mark = 'T' ∨ mark = 't') (rest : List Char) :
    looseTime (mark :: rest) = none := by
  cases marked with
  | inl upper =>
      rw [upper]
      rfl
  | inr lower =>
      rw [lower]
      rfl

end Loose

theorem exists_of_separator {cs rest : List Char} {found : Unit}
    (read : separator cs = some (found, rest)) :
    ∃ mark, (mark = 'T' ∨ mark = 't' ∨ mark = ' ') ∧ cs = mark :: rest := by
  cases cs with
  | nil => cases read
  | cons mark cs =>
      simp only [separator] at read
      split at read
      · rename_i marked
        cases read
        exact ⟨mark, marked, rfl⟩
      · cases read

/-- Behind the time of the strict form there is an offset, so the loose forms do not read it to its
end. -/
theorem exists_of_strictTimestamp {cs : List Char} {instant : Instant}
    (read : strictTimestamp cs = some (instant, [])) :
    ∃ date mark clock time zone, looseDate cs = some (date, mark :: clock) ∧
      (mark = 'T' ∨ mark = 't' ∨ mark = ' ') ∧ looseTime clock = some (time, zone) ∧ zone ≠ [] := by
  simp only [strictTimestamp, Option.bind_eq_bind, Option.bind_eq_some_iff, Prod.exists] at read
  obtain ⟨date, _, dateRead, _, clock, between, time, zone, timeRead, east, _, offsetRead, done⟩ :=
    read
  obtain ⟨mark, marked, rfl⟩ := exists_of_separator between
  refine ⟨date, mark, clock, time, zone, looseDate_of_strictDate dateRead, marked,
    looseTime_of_strictTime timeRead, ?_⟩
  intro nothing
  rw [nothing] at offsetRead
  cases offsetRead

theorem letterTimestamp_eq_some_iff {cs : List Char} {instant : Instant} :
    letterTimestamp cs = some (instant, []) ↔
      ∃ date clock time, looseDate cs = some (date, 'T' :: clock) ∧
        looseTime clock = some (time, []) ∧ instant = .ofCivil date time := by
  simp only [letterTimestamp, Option.bind_eq_bind, Option.bind_eq_some_iff, Prod.exists,
    literal_eq_some_iff]
  constructor
  · intro read
    obtain ⟨date, _, dateRead, _, clock, rfl, time, _, timeRead, done⟩ := read
    cases done
    exact ⟨date, clock, time, dateRead, timeRead, rfl⟩
  · intro shown
    obtain ⟨date, clock, time, dateRead, timeRead, rfl⟩ := shown
    exact ⟨date, _, dateRead, (), clock, rfl, time, [], timeRead, rfl⟩

theorem blankTimestamp_eq_some_iff {cs : List Char} {instant : Instant} :
    blankTimestamp cs = some (instant, []) ↔
      ∃ date clock time, looseDate cs = some (date, clock) ∧
        looseTime clock = some (time, []) ∧ instant = .ofCivil date time := by
  simp only [blankTimestamp, Option.bind_eq_bind, Option.bind_eq_some_iff, Prod.exists,
    looseTime_trimLeft]
  constructor
  · intro read
    obtain ⟨date, clock, dateRead, time, _, timeRead, done⟩ := read
    cases done
    exact ⟨date, clock, time, dateRead, timeRead, rfl⟩
  · intro shown
    obtain ⟨date, clock, time, dateRead, timeRead, rfl⟩ := shown
    exact ⟨date, clock, dateRead, time, [], timeRead, rfl⟩

theorem bareDate_eq_some_iff {cs : List Char} {instant : Instant} :
    bareDate cs = some (instant, []) ↔
      ∃ date, looseDate cs = some (date, []) ∧ instant = .ofCivil date ⟨0, 0, 0, 0⟩ := by
  simp only [bareDate, Option.map_eq_some_iff, Prod.exists, Prod.mk.injEq]
  constructor
  · intro read
    obtain ⟨date, _, dateRead, rfl, rfl⟩ := read
    exact ⟨date, dateRead, rfl⟩
  · intro shown
    obtain ⟨date, dateRead, rfl⟩ := shown
    exact ⟨date, [], dateRead, rfl, rfl⟩

theorem timestampText_of_strictTimestamp {cs : List Char} {instant : Instant}
    (read : strictTimestamp cs = some (instant, [])) : TimestampText cs instant := by
  simp only [strictTimestamp, Option.bind_eq_bind, Option.bind_eq_some_iff, Prod.exists] at read
  obtain ⟨date, _, dateRead, _, clock, between, time, zone, timeRead, east, _, offsetRead, done⟩ :=
    read
  cases done
  obtain ⟨mark, marked, rfl⟩ := exists_of_separator between
  obtain ⟨year, year_le, same, dateValid, dateShown⟩ := exists_of_strictDate dateRead
  obtain ⟨_, ⟨digits, rfl, digit, value⟩, timeShown⟩ := exists_of_strictTime timeRead
  have ranged := inRange_of_strictTime timeRead
  obtain ⟨-, -, month_pos, month_le, day_pos, day_le⟩ := dateValid
  let fields : Fields :=
    ⟨year, date.month, date.day, time.hour, time.minute, time.second, digits⟩
  have valid : fields.Valid :=
    ⟨year_le, ⟨month_pos, month_le⟩, ⟨day_pos, same ▸ day_le⟩, ranged.hour_le, ranged.minute_le,
      ranged.second_le, digit⟩
  -- Fields of full width leave no choice, so their numbers tell the whole text.
  have text : cs = fields.dateText.toList ++ mark :: (fields.clockText.toList ++ zone) := by
    rw [dateShown, timeShown, fields.toList_dateText, fields.toList_clockText,
      fields.toList_fractionText]
    simp only [List.append_assoc, List.cons_append, fields]
  have instant : fields.instant = .ofCivil date time := by
    have sameDate : fields.date = date := by rw [Fields.date, ← same]
    have sameNanos : fields.nanos = time.nanos := value
    rw [valid.instant_eq, sameDate, sameNanos]
  rw [text, ← instant]
  exact .zoned valid marked (offsetText_of_offset offsetRead)

theorem strictTimestamp_of_fields {fields : Fields} {mark : Char} {zone : List Char} {east : Int}
    (valid : fields.Valid) (marked : mark = 'T' ∨ mark = 't' ∨ mark = ' ')
    (shifted : OffsetText (isMinus · = true) zone east) :
    strictTimestamp (fields.dateText.toList ++ mark :: (fields.clockText.toList ++ zone)) =
      some (⟨fields.instant.seconds - east, fields.instant.nanos⟩, []) := by
  rw [Fields.strictTimestamp_text valid.fit shifted.endsFraction marked, valid.read?_eq,
    offset_of_offsetText shifted]
  rfl

section Whole

variable {cs rest : List Char} {date : Date} (dated : looseDate cs = some (date, rest))

include dated

theorem whole_strictTimestamp_eq_none
    (unzoned : ∀ mark clock time zone, rest = mark :: clock →
      (mark = 'T' ∨ mark = 't' ∨ mark = ' ') → looseTime clock = some (time, zone) → zone = []) :
    strictTimestamp.whole cs = none := by
  rw [Option.eq_none_iff_forall_ne_some]
  intro instant strict
  obtain ⟨date', mark, clock, time, zone, dated', marked, timed, left⟩ :=
    exists_of_strictTimestamp (whole_eq_some_iff.mp strict)
  rw [dated] at dated'
  cases dated'
  exact left (unzoned mark clock time zone rfl marked timed)

theorem whole_letterTimestamp_eq_none (other : ∀ clock, rest ≠ 'T' :: clock) :
    letterTimestamp.whole cs = none := by
  rw [Option.eq_none_iff_forall_ne_some]
  intro instant letter
  obtain ⟨date', clock, time, dated', -⟩ :=
    letterTimestamp_eq_some_iff.mp (whole_eq_some_iff.mp letter)
  rw [dated] at dated'
  cases dated'
  exact other clock rfl

theorem whole_blankTimestamp_eq_none (untimed : ∀ time, looseTime rest ≠ some (time, [])) :
    blankTimestamp.whole cs = none := by
  rw [Option.eq_none_iff_forall_ne_some]
  intro instant blank
  obtain ⟨date', clock, time, dated', timed, -⟩ :=
    blankTimestamp_eq_some_iff.mp (whole_eq_some_iff.mp blank)
  rw [dated] at dated'
  cases dated'
  exact untimed time timed

end Whole

section Exclusion

variable {cs : List Char} {instant : Instant}

/-- The strict form would go on behind the time. -/
theorem letterTimestamp_excludes (letter : letterTimestamp cs = some (instant, [])) :
    strictTimestamp.whole cs = none := by
  obtain ⟨date, clock, time, dated, timed, -⟩ := letterTimestamp_eq_some_iff.mp letter
  apply whole_strictTimestamp_eq_none dated
  intro mark clock' time' zone same marked timed'
  cases same
  rw [timed] at timed'
  cases timed'
  rfl

theorem blankTimestamp_excludes (blank : blankTimestamp cs = some (instant, [])) :
    strictTimestamp.whole cs = none ∧ letterTimestamp.whole cs = none := by
  obtain ⟨date, clock, time, dated, timed, -⟩ := blankTimestamp_eq_some_iff.mp blank
  constructor
  · apply whole_strictTimestamp_eq_none dated
    intro mark clock' time' zone same marked timed'
    rw [same] at timed
    -- No time starts with a letter. Behind a blank both forms read one time, and the strict form
    -- would have more to read.
    rcases marked with upper | lower | rfl
    · rw [looseTime_letter (.inl upper)] at timed
      cases timed
    · rw [looseTime_letter (.inr lower)] at timed
      cases timed
    · rw [looseTime_blank (by decide), timed'] at timed
      cases timed
      rfl
  · apply whole_letterTimestamp_eq_none dated
    intro clock' same
    rw [same, looseTime_letter (.inl rfl)] at timed
    cases timed

/-- A date alone leaves nothing for a time. -/
theorem bareDate_excludes (bare : bareDate cs = some (instant, [])) :
    strictTimestamp.whole cs = none ∧ letterTimestamp.whole cs = none ∧
      blankTimestamp.whole cs = none := by
  obtain ⟨date, dated, -⟩ := bareDate_eq_some_iff.mp bare
  refine ⟨?_, ?_, ?_⟩
  · apply whole_strictTimestamp_eq_none dated
    intro mark clock time zone same
    cases same
  · apply whole_letterTimestamp_eq_none dated
    intro clock same
    cases same
  · apply whole_blankTimestamp_eq_none dated
    intro time timed
    cases timed

end Exclusion

end Reader

/-- Of the forms at most one reads a text to its end, so their order makes no difference. -/
theorem parseTimestamp?_eq_some_iff_readers {s : String} {instant : Instant} :
    parseTimestamp? s = some instant ↔
      Reader.strictTimestamp (trim s.toList) = some (instant, []) ∨
        Reader.letterTimestamp (trim s.toList) = some (instant, []) ∨
        Reader.blankTimestamp (trim s.toList) = some (instant, []) ∨
        Reader.bareDate (trim s.toList) = some (instant, []) := by
  simp only [parseTimestamp?, Option.or_eq_some_iff, Option.or_eq_none_iff,
    Reader.whole_eq_some_iff]
  generalize trim s.toList = cs
  constructor
  · intro read
    rcases read with (strict | ⟨-, letter⟩) | ⟨-, blank | ⟨-, bare⟩⟩
    · exact .inl strict
    · exact .inr (.inl letter)
    · exact .inr (.inr (.inl blank))
    · exact .inr (.inr (.inr bare))
  · intro read
    rcases read with strict | letter | blank | bare
    · exact .inl (.inl strict)
    · exact .inl (.inr ⟨Reader.letterTimestamp_excludes letter, letter⟩)
    · exact .inr ⟨Reader.blankTimestamp_excludes blank, .inl blank⟩
    · obtain ⟨strict, letter, blank⟩ := Reader.bareDate_excludes bare
      exact .inr ⟨⟨strict, letter⟩, .inr ⟨blank, bare⟩⟩

theorem dateText_of_looseDate {cs : List Char} {date : Date}
    (read : Reader.looseDate cs = some (date, [])) : DateText 1 cs date := by
  obtain ⟨least, front, rfl, shown, -⟩ := Reader.exists_of_looseDate read
  rw [List.append_nil]
  exact shown.shorten

/-- A text is read as an instant just when it is written in one of the forms. -/
theorem parseTimestamp?_eq_some_iff {s : String} {instant : Instant} :
    parseTimestamp? s = some instant ↔ TimestampText (trim s.toList) instant := by
  rw [parseTimestamp?_eq_some_iff_readers]
  generalize trim s.toList = cs
  constructor
  · intro read
    rcases read with strict | letter | blank | bare
    · exact Reader.timestampText_of_strictTimestamp strict
    · obtain ⟨date, clock, time, dated, timed, rfl⟩ := Reader.letterTimestamp_eq_some_iff.mp letter
      obtain ⟨least, front, rfl, shown, -⟩ := Reader.exists_of_looseDate dated
      exact .letter shown.shorten (Reader.looseTime_eq_some_iff.mp timed)
    · obtain ⟨date, clock, time, dated, timed, rfl⟩ := Reader.blankTimestamp_eq_some_iff.mp blank
      obtain ⟨least, front, rfl, shown, ends⟩ := Reader.exists_of_looseDate dated
      have clockShown := Reader.looseTime_eq_some_iff.mp timed
      cases ends with
      | inl full => exact .joined (full ▸ shown) clockShown
      | inr other =>
          obtain ⟨c, behind, rfl, blanked⟩ := clockShown.exists_blank other
          exact .apart shown.shorten blanked clockShown
    · obtain ⟨date, dated, rfl⟩ := Reader.bareDate_eq_some_iff.mp bare
      exact .bare (dateText_of_looseDate dated)
  · intro shown
    cases shown with
    | zoned valid marked shifted =>
        exact .inl (Reader.strictTimestamp_of_fields valid marked shifted)
    | @letter front clock date time dated timed =>
        have mark : NoDigit ('T' :: clock) := noDigit_cons (by decide) clock
        have dateRead := Reader.looseDate_of_dateText dated (.inr mark)
        exact .inr (.inl (Reader.letterTimestamp_eq_some_iff.mpr
          ⟨_, _, _, dateRead, Reader.looseTime_eq_some_iff.mpr timed, rfl⟩))
    | @apart front clock blank date time dated blanked timed =>
        have dateRead := Reader.looseDate_of_dateText dated (.inr (noDigit_blank blanked clock))
        exact .inr (.inr (.inl (Reader.blankTimestamp_eq_some_iff.mpr
          ⟨_, _, _, dateRead, Reader.looseTime_eq_some_iff.mpr timed, rfl⟩)))
    | joined dated timed =>
        exact .inr (.inr (.inl (Reader.blankTimestamp_eq_some_iff.mpr
          ⟨_, _, _, Reader.looseDate_of_dateText dated (.inl rfl),
            Reader.looseTime_eq_some_iff.mpr timed, rfl⟩)))
    | bare dated =>
        have dateRead := Reader.looseDate_of_dateText dated (.inr noDigit_nil)
        rw [List.append_nil] at dateRead
        exact .inr (.inr (.inr (Reader.bareDate_eq_some_iff.mpr ⟨_, dateRead, rfl⟩)))

section Full

variable {cs : List Char} {instant : Instant}

theorem OffsetText.accepted {zone : List Char} {east : Int} (shown : OffsetText (· = '-') zone east) :
    OffsetText (Reader.isMinus · = true) zone east := by
  cases shown with
  | letter marked => exact .letter marked
  | ahead hours_le minutes_le => exact .ahead hours_le minutes_le
  | behind signed hours_le minutes_le =>
      exact .behind (Reader.isMinus_iff.mpr (.inl signed)) hours_le minutes_le

/-- Timestamps in full width are among those that are read. -/
theorem FullTimestamp.timestampText (full : FullTimestamp cs instant) :
    TimestampText cs instant := by
  cases full with
  | zoned valid marked shifted => exact .zoned valid marked shifted.accepted
  | @letter fields valid =>
      have read := Fields.parseTimestamp?_letter valid.fit
      rw [valid.read?_eq, parseTimestamp?_eq_some_iff, valid.fit.trim_text "T" (by simp),
        fields.toList_text] at read
      simpa using read
  | @blank fields valid =>
      have read := Fields.parseTimestamp?_blank valid.fit
      rw [valid.read?_eq, parseTimestamp?_eq_some_iff, valid.fit.trim_text " " (by simp),
        fields.toList_text] at read
      simpa using read
  | @date fields valid =>
      have loose := Reader.looseDate_fields valid.fit []
      rw [List.append_nil, valid.checkDate_eq] at loose
      have days := Date.toDays_eq_civilDays valid.date_valid (Int.natCast_nonneg fields.year)
      have midnight : Instant.ofCivil fields.date ⟨0, 0, 0, 0⟩ =
          ⟨86400 * fields.date.civilDays, 0⟩ := by
        simp [Instant.ofCivil, secondsPerDay, days, mul_comm]
      rw [← midnight]
      exact .bare (dateText_of_looseDate loose)

theorem Fields.Valid.length_dateText {fields : Fields} (valid : fields.Valid) :
    fields.dateText.toList.length = 10 := by
  obtain ⟨year_lt, month_lt, day_lt, -⟩ := valid.fit
  rw [fields.toList_dateText]
  simp [length_zeroPadded (by decide) year_lt, length_zeroPadded (by decide) month_lt,
    length_zeroPadded (by decide) day_lt]

theorem FullTimestamp.ten_le_length (full : FullTimestamp cs instant) : 10 ≤ cs.length := by
  cases full with
  | zoned valid marked shifted => simp [valid.length_dateText]
  | letter valid => simp [valid.length_dateText]
  | blank valid => simp [valid.length_dateText]
  | date valid => exact valid.length_dateText.ge

end Full

end DatasetGate.Calendar
