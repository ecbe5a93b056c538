import DatasetGate.Proofs.Calendar.CivilDays
import DatasetGate.Proofs.Calendar.Timestamp

/-!
# Spellings of an instant

One point of universal time has several spellings: with a letter or a blank between date and time,
with a zone or without one. All of them are read as the instant that the calendar gives, and local
time is moved by its offset.
-/

set_option autoImplicit false

namespace DatasetGate.Calendar

open DatasetGate.Text

namespace Fields

variable {fields : Fields}

/-- A day of the calendar and a time of that day. A leap second may end any minute. -/
structure Valid (fields : Fields) : Prop where
  year_le : fields.year ≤ 9999
  month_mem : 1 ≤ fields.month ∧ fields.month ≤ 12
  day_mem : 1 ≤ fields.day ∧ fields.day ≤ daysInMonth fields.year fields.month
  hour_le : fields.hour ≤ 23
  minute_le : fields.minute ≤ 59
  second_le : fields.second ≤ 60
  digits : ∀ c ∈ fields.fraction, isDigit c = true

def date (fields : Fields) : Date :=
  ⟨fields.year, fields.month, fields.day⟩

/-- The instant of the fields in universal time. A leap second belongs to the second before it. -/
def instant (fields : Fields) : Instant :=
  ⟨86400 * fields.date.civilDays +
      ((3600 * fields.hour + 60 * fields.minute + min fields.second 59 : Nat) : Int),
    fields.nanos + if fields.second = 60 then nanosPerSecond else 0⟩

/-- What the readers make of the fields: nothing unless they are in range. -/
def read? (fields : Fields) : Option Instant :=
  (checkDate fields.year fields.month fields.day).bind fun date =>
    (checkTime fields.hour fields.minute fields.second fields.nanos).map (.ofCivil date)

theorem Valid.fit (valid : fields.Valid) : fields.Fit := by
  have days := daysInMonth_le fields.year fields.month
  obtain ⟨year_le, month_mem, day_mem, hour_le, minute_le, second_le, digits⟩ := valid
  exact ⟨by omega, by omega, by omega, by omega, by omega, by omega, digits⟩

theorem Valid.date_valid (valid : fields.Valid) : fields.date.Valid := by
  obtain ⟨year_le, month_mem, day_mem, -⟩ := valid
  refine ⟨?_, ?_, month_mem.1, month_mem.2, day_mem⟩
  · simp only [date, Date.minYear]
    omega
  · simp only [date, Date.maxYear]
    omega

theorem Valid.checkDate_eq (valid : fields.Valid) :
    checkDate fields.year fields.month fields.day = some fields.date :=
  if_pos valid.date_valid

theorem Valid.read?_eq (valid : fields.Valid) : fields.read? = some fields.instant := by
  have inRange : fields.hour ≤ 23 ∧ fields.minute ≤ 59 ∧ fields.second ≤ 60 :=
    ⟨valid.hour_le, valid.minute_le, valid.second_le⟩
  have days := Date.toDays_eq_civilDays valid.date_valid (Int.natCast_nonneg fields.year)
  have leap : fields.second / 60 = if fields.second = 60 then 1 else 0 := by
    split <;> omega
  rw [read?, valid.checkDate_eq, checkTime, if_pos inRange, Option.bind_some, Option.map_some,
    Option.some_inj, Instant.ofCivil, instant, Instant.mk.injEq]
  constructor
  · simp only [days, secondsPerDay]
    omega
  · simp only [leap]
    split <;> simp

/-- The date is in front of the time and the time in front of the zone. -/
theorem toList_text (fields : Fields) (separator zone : String) :
    (fields.text separator zone).toList =
      fields.dateText.toList ++ (separator.toList ++ (fields.clockText.toList ++ zone.toList)) := by
  simp only [text, String.toList_append, List.append_assoc]

theorem dateText_ne_nil (fields : Fields) : fields.dateText.toList ≠ [] := by
  rw [toList_dateText]
  exact List.append_ne_nil_of_left_ne_nil (zeroPadded_ne_nil 4 fields.year) _

theorem clockText_ne_nil (fields : Fields) : fields.clockText.toList ≠ [] := by
  rw [toList_clockText]
  exact List.append_ne_nil_of_left_ne_nil (zeroPadded_ne_nil 2 fields.hour) _

theorem isBlank_of_mem_dateText {c : Char} (member : c ∈ fields.dateText.toList) :
    isBlank c = false := by
  simp only [toList_dateText, List.mem_append, List.mem_cons] at member
  rcases member with year | rfl | month | rfl | day
  · exact isBlank_of_isDigit (isDigit_of_mem_zeroPadded year)
  · decide
  · exact isBlank_of_isDigit (isDigit_of_mem_zeroPadded month)
  · decide
  · exact isBlank_of_isDigit (isDigit_of_mem_zeroPadded day)

theorem Fit.isBlank_of_mem_fractionText (fit : fields.Fit) {c : Char}
    (member : c ∈ fields.fractionText.toList) : isBlank c = false := by
  rw [toList_fractionText] at member
  split at member
  · cases member
  · rcases List.mem_cons.mp member with rfl | digit
    · decide
    · exact isBlank_of_isDigit (fit.digits c digit)

theorem Fit.isBlank_of_mem_clockText (fit : fields.Fit) {c : Char}
    (member : c ∈ fields.clockText.toList) : isBlank c = false := by
  simp only [toList_clockText, List.mem_append, List.mem_cons] at member
  rcases member with hour | rfl | minute | rfl | second | fraction
  · exact isBlank_of_isDigit (isDigit_of_mem_zeroPadded hour)
  · decide
  · exact isBlank_of_isDigit (isDigit_of_mem_zeroPadded minute)
  · decide
  · exact isBlank_of_isDigit (isDigit_of_mem_zeroPadded second)
  · exact fit.isBlank_of_mem_fractionText fraction

theorem Fit.trim_text (fit : fields.Fit) (separator : String) {zone : String}
    (full : ∀ c ∈ zone.toList, isBlank c = false) :
    trim (fields.text separator zone).toList = (fields.text separator zone).toList := by
  rw [toList_text]
  refine trim_between (fun c => isBlank_of_mem_dateText) fields.dateText_ne_nil (fun c member => ?_)
    (List.append_ne_nil_of_left_ne_nil fields.clockText_ne_nil _)
  rcases List.mem_append.mp member with clock | behind
  · exact fit.isBlank_of_mem_clockText clock
  · exact full c behind

section Readers

open Reader

variable (fit : fields.Fit) {zone : List Char} (ends : EndsFraction zone)

include fit ends

theorem strictTimestamp_text {mark : Char} (marked : mark = 'T' ∨ mark = 't' ∨ mark = ' ') :
    strictTimestamp (fields.dateText.toList ++ (mark :: (fields.clockText.toList ++ zone))) =
      fields.read?.bind fun instant => (offset zone).map fun read =>
        (⟨instant.seconds - read.1, instant.nanos⟩, read.2) := by
  have separated (rest : List Char) : separator (mark :: rest) = some ((), rest) := if_pos marked
  simp only [strictTimestamp, strictDate_fields fit, read?, Option.bind_eq_bind]
  cases checkDate fields.year fields.month fields.day with
  | none => rfl
  | some date =>
      simp only [Option.map_some, Option.bind_some, separated, strictTime_fields fit ends]
      cases checkTime fields.hour fields.minute fields.second fields.nanos with
      | none => rfl
      | some time =>
          simp only [Option.bind_some, Option.map_eq_bind]
          rfl

theorem letterTimestamp_text {front : List Char} {found : Option Date}
    (loose : ∀ rest, looseDate (front ++ rest) = found.map fun date => (date, rest)) :
    letterTimestamp (front ++ ('T' :: (fields.clockText.toList ++ zone))) =
      (found.bind fun date => (checkTime fields.hour fields.minute fields.second fields.nanos).map
        (.ofCivil date)).map fun instant => (instant, zone) := by
  simp only [letterTimestamp, loose, Option.bind_eq_bind]
  cases found with
  | none => rfl
  | some date =>
      simp only [Option.map_some, Option.bind_some, literal_self, looseTime_fields fit ends]
      cases checkTime fields.hour fields.minute fields.second fields.nanos with
      | none => rfl
      | some time => rfl

theorem blankTimestamp_text :
    blankTimestamp (fields.dateText.toList ++ (' ' :: (fields.clockText.toList ++ zone))) =
      fields.read?.map fun instant => (instant, zone) := by
  have stripped : trimLeft (' ' :: (fields.clockText.toList ++ zone)) =
      fields.clockText.toList ++ zone := by
    rw [trimLeft, List.dropWhile_cons_of_pos (by decide), ← trimLeft, toList_clockText,
      List.append_assoc, trimLeft_zeroPadded]
  simp only [blankTimestamp, looseDate_fields fit, read?, Option.bind_eq_bind]
  cases checkDate fields.year fields.month fields.day with
  | none => rfl
  | some date =>
      simp only [Option.map_some, Option.bind_some, stripped, looseTime_fields fit ends]
      cases checkTime fields.hour fields.minute fields.second fields.nanos with
      | none => rfl
      | some time => rfl

end Readers

section Parsing

open Reader

theorem whole_eq_none {α : Type} {reader : Reader α} {cs : List Char} (refused : reader cs = none) :
    reader.whole cs = none := by
  rw [whole, refused]

theorem whole_map_eq_none {α β : Type} {reader : Reader α} {cs zone : List Char} {found : Option β}
    {f : β → α} (read : reader cs = found.map fun value => (f value, zone)) (left : zone ≠ []) :
    reader.whole cs = none := by
  unfold whole
  rw [read]
  cases found with
  | none => rfl
  | some value =>
      cases zone with
      | nil => exact absurd rfl left
      | cons c zone => rfl

theorem whole_map_nil {α β : Type} {reader : Reader α} {cs : List Char} {found : Option β}
    {f : β → α} (read : reader cs = found.map fun value => (f value, [])) :
    reader.whole cs = found.map f := by
  unfold whole
  rw [read]
  cases found with
  | none => rfl
  | some value => rfl

section Front

variable {front : List Char} {found : Option Date}
  (loose : ∀ rest, looseDate (front ++ rest) = found.map fun date => (date, rest))

include loose

theorem bareDate_text (rest : List Char) :
    bareDate (front ++ rest) = found.map fun date => (.ofCivil date ⟨0, 0, 0, 0⟩, rest) := by
  rw [bareDate, loose, Option.map_map]
  rfl

/-- Only a blank may stand between date and time where the reader of the blank form looks. -/
theorem blankTimestamp_letter (rest : List Char) : blankTimestamp (front ++ 'T' :: rest) = none := by
  have refused : looseTime (trimLeft ('T' :: rest)) = none := rfl
  simp only [blankTimestamp, loose, Option.bind_eq_bind]
  cases found with
  | none => rfl
  | some date => simp only [Option.map_some, Option.bind_some, refused, Option.bind_none]

end Front

variable (fit : fields.Fit)

include fit

theorem letterTimestamp_blank (rest : List Char) :
    letterTimestamp (fields.dateText.toList ++ ' ' :: rest) = none := by
  have refused : literal 'T' (' ' :: rest) = none := rfl
  simp only [letterTimestamp, looseDate_fields fit, Option.bind_eq_bind]
  cases checkDate fields.year fields.month fields.day with
  | none => rfl
  | some date => simp only [Option.map_some, Option.bind_some, refused, Option.bind_none]

/-- A date and a time with a zone have a strict form only. -/
theorem parseTimestamp?_zoned {zone : String} (ends : EndsFraction zone.toList)
    (full : ∀ c ∈ zone.toList, isBlank c = false) {east : Int}
    (zoned : offset zone.toList = some (east, [])) :
    parseTimestamp? (fields.text "T" zone) =
      fields.read?.map fun instant => ⟨instant.seconds - east, instant.nanos⟩ := by
  have left : zone.toList ≠ [] := by
    intro nothing
    rw [nothing] at zoned
    cases zoned
  have strict : strictTimestamp (fields.dateText.toList ++
      ('T' :: (fields.clockText.toList ++ zone.toList))) =
        fields.read?.map fun instant => (⟨instant.seconds - east, instant.nanos⟩, []) := by
    rw [strictTimestamp_text fit ends (.inl rfl), zoned, Option.map_eq_bind]
    rfl
  have separator : "T".toList = ['T'] := rfl
  rw [parseTimestamp?, fit.trim_text "T" full, toList_text, separator, List.singleton_append]
  simp only [whole_map_nil strict, whole_map_eq_none (letterTimestamp_text fit ends (looseDate_fields fit)) left,
    whole_eq_none (blankTimestamp_letter (looseDate_fields fit) _),
    whole_map_eq_none (bareDate_text (looseDate_fields fit) _) (List.cons_ne_nil _ _), Option.or_none]

/-- Without a zone the loose forms are left. -/
theorem strictTimestamp_unzoned {mark : Char} (marked : mark = 'T' ∨ mark = 't' ∨ mark = ' ') :
    strictTimestamp (fields.dateText.toList ++ (mark :: fields.clockText.toList)) = none := by
  have strict := strictTimestamp_text fit endsFraction_nil marked
  rw [List.append_nil] at strict
  rw [strict]
  cases fields.read? with
  | none => rfl
  | some instant => rfl

theorem parseTimestamp?_letter : parseTimestamp? (fields.text "T" "") = fields.read? := by
  have separator : "T".toList = ['T'] := rfl
  have letter := letterTimestamp_text fit endsFraction_nil (looseDate_fields fit)
  rw [List.append_nil] at letter
  have trimmed : trim (fields.text "T" "").toList = (fields.text "T" "").toList :=
    fit.trim_text "T" (by simp)
  rw [parseTimestamp?, trimmed, toList_text, separator, List.singleton_append, String.toList_empty,
    List.append_nil]
  simp only [whole_eq_none (strictTimestamp_unzoned fit (.inl rfl)), whole_map_nil letter,
    whole_eq_none (blankTimestamp_letter (looseDate_fields fit) _),
    whole_map_eq_none (bareDate_text (looseDate_fields fit) _) (List.cons_ne_nil _ _), Option.none_or, Option.or_none,
    Option.map_id']
  rfl

theorem parseTimestamp?_blank : parseTimestamp? (fields.text " " "") = fields.read? := by
  have separator : " ".toList = [' '] := rfl
  have blank := blankTimestamp_text fit endsFraction_nil
  rw [List.append_nil] at blank
  have trimmed : trim (fields.text " " "").toList = (fields.text " " "").toList :=
    fit.trim_text " " (by simp)
  rw [parseTimestamp?, trimmed, toList_text, separator, List.singleton_append, String.toList_empty,
    List.append_nil]
  simp only [whole_eq_none (strictTimestamp_unzoned fit (.inr (.inr rfl))),
    whole_eq_none (letterTimestamp_blank fit _), whole_map_nil blank,
    whole_map_eq_none (bareDate_text (looseDate_fields fit) _) (List.cons_ne_nil _ _), Option.none_or, Option.or_none,
    Option.map_id']

theorem parseTimestamp?_dateText :
    parseTimestamp? fields.dateText =
      (checkDate fields.year fields.month fields.day).map fun date =>
        .ofCivil date ⟨0, 0, 0, 0⟩ := by
  have trimmed : trim fields.dateText.toList = fields.dateText.toList := by
    apply trim_eq_self
    · exact fun c first => isBlank_of_mem_dateText (List.mem_of_mem_head? first)
    · exact fun c last => isBlank_of_mem_dateText (List.mem_of_getLast? last)
  have strict := strictDate_fields fit []
  have loose := looseDate_fields fit []
  have bare := bareDate_text (looseDate_fields fit) []
  rw [List.append_nil] at strict loose bare
  have noStrict : strictTimestamp fields.dateText.toList = none := by
    simp only [strictTimestamp, strict, Option.bind_eq_bind]
    cases checkDate fields.year fields.month fields.day with
    | none => rfl
    | some date => rfl
  have noLetter : letterTimestamp fields.dateText.toList = none := by
    simp only [letterTimestamp, loose, Option.bind_eq_bind]
    cases checkDate fields.year fields.month fields.day with
    | none => rfl
    | some date => rfl
  have noBlank : blankTimestamp fields.dateText.toList = none := by
    simp only [blankTimestamp, loose, Option.bind_eq_bind]
    cases checkDate fields.year fields.month fields.day with
    | none => rfl
    | some date => rfl
  simp only [parseTimestamp?, trimmed, whole_eq_none noStrict, whole_eq_none noLetter,
    whole_eq_none noBlank, whole_map_nil bare, Option.none_or]

end Parsing

/-- Hours and minutes of an offset, without its sign. -/
def offsetText (hours minutes : Nat) : String :=
  zeroPadded 2 hours ++ ":" ++ zeroPadded 2 minutes

theorem toList_offsetText (hours minutes : Nat) : (offsetText hours minutes).toList =
    (zeroPadded 2 hours).toList ++ ':' :: (zeroPadded 2 minutes).toList := by
  have colon : ":".toList = [':'] := rfl
  simp only [offsetText, String.toList_append, colon, List.append_assoc, List.cons_append,
    List.nil_append]

theorem isBlank_of_mem_offsetText {hours minutes : Nat} {c : Char}
    (member : c ∈ (offsetText hours minutes).toList) : isBlank c = false := by
  simp only [toList_offsetText, List.mem_append, List.mem_cons] at member
  rcases member with hour | rfl | minute
  · exact isBlank_of_isDigit (isDigit_of_mem_zeroPadded hour)
  · decide
  · exact isBlank_of_isDigit (isDigit_of_mem_zeroPadded minute)

/-- Local time east of universal time is ahead of it. -/
theorem offset_offsetText {sign : Char} (signed : sign = '+' ∨ Reader.isMinus sign = true)
    {hours minutes : Nat} (hours_le : hours ≤ 23) (minutes_le : minutes ≤ 59) :
    Reader.offset (sign :: (offsetText hours minutes).toList) =
      some (if sign = '+' then 3600 * (hours : Int) + 60 * minutes
        else -(3600 * (hours : Int) + 60 * minutes), []) := by
  have hour := @Reader.number_zeroPadded 2 2 hours le_rfl (by decide) (by omega)
  have minute := @Reader.number_zeroPadded 2 2 minutes le_rfl (by decide) (by omega) []
  have letters : ¬ (sign = 'Z' ∨ sign = 'z') := by
    intro letter
    rcases letter with rfl | rfl
    · exact absurd signed (by decide)
    · exact absurd signed (by decide)
  rw [List.append_nil] at minute
  simp [toList_offsetText, Reader.offset, letters, signed, hour, minute, Reader.literal_self,
    hours_le, minutes_le]

/-- The same day at midnight. -/
def midnight (fields : Fields) : Fields :=
  ⟨fields.year, fields.month, fields.day, 0, 0, 0, []⟩

theorem Valid.midnight (valid : fields.Valid) : fields.midnight.Valid :=
  ⟨valid.year_le, valid.month_mem, valid.day_mem, Nat.zero_le 23, Nat.zero_le 59, Nat.zero_le 60,
    List.forall_mem_nil _⟩

theorem instant_midnight (fields : Fields) :
    fields.midnight.instant = ⟨86400 * fields.date.civilDays, 0⟩ := by
  simp [instant, midnight, date, nanos]

theorem text_midnight (fields : Fields) :
    fields.midnight.text "T" "Z" = fields.dateText ++ "T00:00:00Z" := by
  have clock : fields.midnight.clockText = "00:00:00" := by
    simp only [clockText, fractionText, midnight, List.isEmpty_nil, if_true]
    decide
  have behind : "T" ++ ("00:00:00" ++ "Z") = "T00:00:00Z" := by decide
  have date : fields.midnight.dateText = fields.dateText := rfl
  rw [text, String.append_assoc, String.append_assoc, clock, behind, date]

theorem Valid.parseTimestamp?_utc (valid : fields.Valid) :
    parseTimestamp? (fields.text "T" "Z") = some fields.instant := by
  have zone : "Z".toList = ['Z'] := rfl
  have ends : Reader.EndsFraction "Z".toList := zone ▸ Reader.endsFraction_cons (by decide) []
  have full : ∀ c ∈ "Z".toList, isBlank c = false := by
    rw [zone, List.forall_mem_singleton]
    decide
  rw [parseTimestamp?_zoned valid.fit ends full rfl, valid.read?_eq]
  simp

theorem Valid.parseTimestamp?_offset (valid : fields.Valid) {sign : Char}
    (signed : sign = '+' ∨ sign = '-') {hours minutes : Nat} (hours_le : hours ≤ 23)
    (minutes_le : minutes ≤ 59) {zone : String}
    (zoned : zone.toList = sign :: (offsetText hours minutes).toList) :
    parseTimestamp? (fields.text "T" zone) =
      some ⟨fields.instant.seconds - (if sign = '+' then 3600 * (hours : Int) + 60 * minutes
        else -(3600 * (hours : Int) + 60 * minutes)), fields.instant.nanos⟩ := by
  have marks : isDigit sign = false ∧ sign ≠ '.' ∧ isBlank sign = false := by
    rcases signed with rfl | rfl
    · decide
    · decide
  have ends : Reader.EndsFraction zone.toList := zoned ▸ Reader.endsFraction_cons ⟨marks.1, marks.2.1⟩ _
  have full : ∀ c ∈ zone.toList, isBlank c = false := by
    rw [zoned, List.forall_mem_cons]
    exact ⟨marks.2.2, fun c member => isBlank_of_mem_offsetText member⟩
  have minus (hyphen : sign = '-') : Reader.isMinus sign = true := by rw [hyphen]; rfl
  have read := offset_offsetText (signed.imp_right minus) hours_le minutes_le
  rw [← zoned] at read
  rw [parseTimestamp?_zoned valid.fit ends full read, valid.read?_eq]
  rfl

/-- All spellings in universal time are read as the instant of the fields. An offset moves the
instant, back where local time is ahead, and leaves its nanoseconds, a leap second among them, as
they are. A date alone is read as its midnight. -/
theorem parse_spellings (valid : fields.Valid) :
    (parseTimestamp? (fields.text "T" "Z") = some fields.instant ∧
      parseTimestamp? (fields.text "T" "") = some fields.instant ∧
      parseTimestamp? (fields.text " " "") = some fields.instant) ∧
    (∀ hours ≤ 23, ∀ minutes ≤ 59,
      parseTimestamp? (fields.text "T" ("+" ++ offsetText hours minutes)) =
          some ⟨fields.instant.seconds - (3600 * hours + 60 * minutes), fields.instant.nanos⟩ ∧
        parseTimestamp? (fields.text "T" ("-" ++ offsetText hours minutes)) =
          some ⟨fields.instant.seconds + (3600 * hours + 60 * minutes), fields.instant.nanos⟩) ∧
    parseTimestamp? fields.dateText = some ⟨86400 * fields.date.civilDays, 0⟩ ∧
    parseTimestamp? (fields.dateText ++ "T00:00:00Z") =
      some ⟨86400 * fields.date.civilDays, 0⟩ := by
  have letter := parseTimestamp?_letter valid.fit
  have blank := parseTimestamp?_blank valid.fit
  rw [valid.read?_eq] at letter blank
  refine ⟨⟨valid.parseTimestamp?_utc, letter, blank⟩, ?_, ?_, ?_⟩
  · intro hours hours_le minutes minutes_le
    have plus : ("+" ++ offsetText hours minutes).toList = '+' :: (offsetText hours minutes).toList :=
      String.toList_append
    have minus :
        ("-" ++ offsetText hours minutes).toList = '-' :: (offsetText hours minutes).toList :=
      String.toList_append
    have east := valid.parseTimestamp?_offset (.inl rfl) hours_le minutes_le plus
    have west := valid.parseTimestamp?_offset (.inr rfl) hours_le minutes_le minus
    rw [if_pos rfl] at east
    rw [if_neg (by decide), sub_neg_eq_add] at west
    exact ⟨east, west⟩
  · have days := Date.toDays_eq_civilDays valid.date_valid (Int.natCast_nonneg fields.year)
    rw [parseTimestamp?_dateText valid.fit, valid.checkDate_eq, Option.map_some, Instant.ofCivil,
      days]
    simp [secondsPerDay, mul_comm]
  · rw [← text_midnight, valid.midnight.parseTimestamp?_utc, instant_midnight]

/-- The last second of a year that ends with a leap second. -/
def leapSecond : Fields :=
  ⟨2016, 12, 31, 23, 59, 60, "1234567899".toList⟩

theorem leapSecond_valid : leapSecond.Valid := by
  refine ⟨by decide, by decide, by decide, by decide, by decide, by decide, ?_⟩
  exact List.all_eq_true.mp (by decide)

/-- The leap second stays one in local time, where it does not end a day. -/
theorem parse_spellings_leapSecond :
    leapSecond.Valid ∧
      parseTimestamp? "2016-12-31 23:59:60.1234567899" = some ⟨1483228799, 1123456789⟩ ∧
      parseTimestamp? "2016-12-31T23:59:60.1234567899-05:30" =
        some ⟨1483228799 + 19800, 1123456789⟩ ∧
      parseTimestamp? "2016-12-31" = some ⟨1483142400, 0⟩ := by
  obtain ⟨⟨-, -, blank⟩, offsets, bare, -⟩ := parse_spellings leapSecond_valid
  have west := (offsets 5 (by decide) 30 (by decide)).2
  have days : leapSecond.date.civilDays = 17166 := by
    rw [← Date.toDays_eq_civilDays leapSecond_valid.date_valid (by decide)]
    decide
  rw [days] at bare
  have instant : leapSecond.instant = ⟨1483228799, 1123456789⟩ := by
    rw [Fields.instant, days]
    decide
  rw [instant] at blank west
  exact ⟨leapSecond_valid, blank, west, bare⟩

end Fields
end DatasetGate.Calendar
