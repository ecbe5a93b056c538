import DatasetGate.Proofs.Calendar.Spellings

/-!
# Chronological order of canonical timestamps

A canonical timestamp is written in universal time to the second, every field with its full width. Such
texts are ordered as their instants are: an earlier text is an earlier instant, a leap second
included.
-/

set_option autoImplicit false

namespace DatasetGate.Calendar

open DatasetGate.Text

section Digits

/-- Behind parts of one length the rest decides only where they agree. -/
theorem append_lt_append {xs ys us vs : List Char} (aligned : xs.length = ys.length)
    (less : xs ++ us < ys ++ vs) : xs < ys ∨ xs = ys ∧ us < vs := by
  induction xs generalizing ys with
  | nil =>
      cases ys with
      | nil => exact .inr ⟨rfl, less⟩
      | cons y ys => cases aligned
  | cons x xs xs_ih =>
      cases ys with
      | nil => cases aligned
      | cons y ys =>
          rw [List.cons_append, List.cons_append, List.cons_lt_cons_iff] at less
          rcases less with first | ⟨rfl, behind⟩
          · exact .inl (List.cons_lt_cons_iff.mpr (.inl first))
          · rcases xs_ih (Nat.succ.inj aligned) behind with part | ⟨rfl, rest⟩
            · exact .inl (List.cons_lt_cons_self.mpr part)
            · exact .inr ⟨rfl, rest⟩

theorem ofDigitChars_lt_ofDigitChars {xs ys : List Char} (digits : ∀ c ∈ xs, isDigit c = true)
    (digits' : ∀ c ∈ ys, isDigit c = true) (aligned : xs.length = ys.length) (less : xs < ys) :
    Nat.ofDigitChars 10 xs 0 < Nat.ofDigitChars 10 ys 0 := by
  induction xs generalizing ys with
  | nil =>
      cases ys with
      | nil => exact absurd less (lt_irrefl _)
      | cons y ys => cases aligned
  | cons x xs xs_ih =>
      cases ys with
      | nil => cases aligned
      | cons y ys =>
          rw [List.forall_mem_cons] at digits digits'
          have same : xs.length = ys.length := Nat.succ.inj aligned
          have small := ofDigitChars_lt digits.2 0
          rw [Nat.ofDigitChars_cons, Nat.ofDigitChars_cons, Nat.ofDigitChars_eq_ofDigitChars_zero,
            @Nat.ofDigitChars_eq_ofDigitChars_zero ys, ← same]
          rcases List.cons_lt_cons_iff.mp less with first | ⟨rfl, behind⟩
          · have low := of_isDigit (fun c => '0'.toNat ≤ c.toNat) digits.1 (by decide)
            have codes : x.toNat < y.toNat := first
            have step : 10 * 0 + (x.toNat - '0'.toNat) + 1 ≤ 10 * 0 + (y.toNat - '0'.toNat) := by
              omega
            have scaled := Nat.mul_le_mul_left (10 ^ xs.length) step
            rw [Nat.mul_add] at scaled
            omega
          · exact Nat.add_lt_add_left (xs_ih digits.2 digits'.2 same behind) _

theorem eq_of_ofDigitChars_eq {xs ys : List Char} (digits : ∀ c ∈ xs, isDigit c = true)
    (digits' : ∀ c ∈ ys, isDigit c = true) (aligned : xs.length = ys.length)
    (same : Nat.ofDigitChars 10 xs 0 = Nat.ofDigitChars 10 ys 0) : xs = ys := by
  rcases lt_trichotomy xs ys with less | equal | greater
  · exact absurd same (ofDigitChars_lt_ofDigitChars digits digits' aligned less).ne
  · exact equal
  · exact absurd same (ofDigitChars_lt_ofDigitChars digits' digits aligned.symm greater).ne'

/-- Digits are their value with as many places. -/
theorem eq_zeroPadded {cs : List Char} (digits : ∀ c ∈ cs, isDigit c = true) (nonempty : cs ≠ []) :
    cs = (zeroPadded cs.length (Nat.ofDigitChars 10 cs 0)).toList := by
  have fits : Nat.ofDigitChars 10 cs 0 < 10 ^ cs.length := by
    simpa using ofDigitChars_lt digits 0
  apply eq_of_ofDigitChars_eq digits (fun c member => isDigit_of_mem_zeroPadded member)
  · rw [length_zeroPadded (List.length_pos_of_ne_nil nonempty) fits]
  · rw [ofDigitChars_zeroPadded]

theorem zeroPadded_lt_zeroPadded {width m n : Nat} {us vs : List Char} (positive : 0 < width)
    (fits : m < 10 ^ width) (fits' : n < 10 ^ width)
    (less : (zeroPadded width m).toList ++ us < (zeroPadded width n).toList ++ vs) :
    m < n ∨ m = n ∧ us < vs := by
  have aligned : (zeroPadded width m).toList.length = (zeroPadded width n).toList.length := by
    rw [length_zeroPadded positive fits, length_zeroPadded positive fits']
  rcases append_lt_append aligned less with first | ⟨same, behind⟩
  · have values := ofDigitChars_lt_ofDigitChars (fun c member => isDigit_of_mem_zeroPadded member)
      (fun c member => isDigit_of_mem_zeroPadded member) aligned first
    rw [ofDigitChars_zeroPadded, ofDigitChars_zeroPadded] at values
    exact .inl values
  · refine .inr ⟨?_, behind⟩
    rw [← ofDigitChars_zeroPadded width m, same, ofDigitChars_zeroPadded]

end Digits

section Form

/-- The mark `d` stands for a digit, every other one for itself. -/
def Fills (c mark : Char) : Prop :=
  if mark = 'd' then isDigit c = true else c = mark

instance : DecidableRel Fills := fun c mark => by
  unfold Fills; infer_instance

/-- The marks of a timestamp in universal time to the second. -/
def canonicalForm : List Char :=
  ['d', 'd', 'd', 'd', '-', 'd', 'd', '-', 'd', 'd', 'T',
   'd', 'd', ':', 'd', 'd', ':', 'd', 'd', 'Z']

def HasForm (text : String) : Prop :=
  List.Forall₂ Fills text.toList canonicalForm

instance (text : String) : Decidable (HasForm text) := by
  unfold HasForm; infer_instance

theorem literal_of_form {c : Char} (mark : c ≠ 'd') {cs marks : List Char}
    (form : List.Forall₂ Fills cs (c :: marks)) :
    ∃ rest, cs = c :: rest ∧ List.Forall₂ Fills rest marks := by
  obtain ⟨d, rest, filled, behind, rfl⟩ := List.forall₂_cons_right_iff.mp form
  rw [Fills, if_neg mark] at filled
  exact ⟨rest, filled ▸ rfl, behind⟩

theorem isDigit_of_form {cs : List Char} {width : Nat}
    (form : List.Forall₂ Fills cs (List.replicate width 'd')) : ∀ c ∈ cs, isDigit c = true := by
  intro c member
  obtain ⟨position, bound, rfl⟩ := List.mem_iff_getElem.mp member
  have bound' : position < (List.replicate width 'd').length := form.length_eq ▸ bound
  have filled := form.get bound bound'
  simpa [Fills] using filled

theorem digits_of_form {width : Nat} (positive : 0 < width) {cs marks : List Char}
    (form : List.Forall₂ Fills cs (List.replicate width 'd' ++ marks)) :
    ∃ n rest, n < 10 ^ width ∧ cs = (zeroPadded width n).toList ++ rest ∧
      List.Forall₂ Fills rest marks := by
  have first := List.forall₂_take_append cs _ marks form
  have behind := List.forall₂_drop_append cs _ marks form
  rw [List.length_replicate] at first behind
  have length : (cs.take width).length = width := by
    rw [first.length_eq, List.length_replicate]
  have digits := isDigit_of_form first
  have nonempty : cs.take width ≠ [] := List.ne_nil_of_length_pos (positive.trans_eq length.symm)
  refine ⟨Nat.ofDigitChars 10 (cs.take width) 0, cs.drop width, ?_, ?_, behind⟩
  · have small := ofDigitChars_lt digits 0
    rwa [length, Nat.zero_add, Nat.one_mul] at small
  · have padded := eq_zeroPadded digits nonempty
    rw [length] at padded
    rw [← padded, List.take_append_drop]

/-- A field with the mark in front of it. -/
theorem field_of_form {c : Char} (mark : c ≠ 'd') {width : Nat} (positive : 0 < width)
    {cs marks : List Char}
    (form : List.Forall₂ Fills cs (c :: (List.replicate width 'd' ++ marks))) :
    ∃ n rest, n < 10 ^ width ∧ cs = c :: ((zeroPadded width n).toList ++ rest) ∧
      List.Forall₂ Fills rest marks := by
  obtain ⟨field, marked, digits⟩ := literal_of_form mark form
  obtain ⟨n, rest, fits, split, behind⟩ := digits_of_form positive digits
  exact ⟨n, rest, fits, by rw [marked, split], behind⟩

theorem form_of_digits {digits cs marks : List Char} (digit : ∀ c ∈ digits, isDigit c = true)
    (behind : List.Forall₂ Fills cs marks) :
    List.Forall₂ Fills (digits ++ cs) (List.replicate digits.length 'd' ++ marks) := by
  induction digits with
  | nil => exact behind
  | cons c digits digits_ih =>
      rw [List.forall_mem_cons] at digit
      exact .cons digit.1 (digits_ih digit.2)

theorem form_of_zeroPadded {width n : Nat} (positive : 0 < width) (fits : n < 10 ^ width)
    {cs marks : List Char} (behind : List.Forall₂ Fills cs marks) :
    List.Forall₂ Fills ((zeroPadded width n).toList ++ cs) (List.replicate width 'd' ++ marks) := by
  have digit : ∀ c ∈ (zeroPadded width n).toList, isDigit c = true :=
    fun c member => isDigit_of_mem_zeroPadded member
  have form := form_of_digits digit behind
  rwa [length_zeroPadded positive fits] at form

theorem form_of_literal {c : Char} (mark : c ≠ 'd') {cs marks : List Char}
    (behind : List.Forall₂ Fills cs marks) : List.Forall₂ Fills (c :: cs) (c :: marks) := by
  apply List.Forall₂.cons _ behind
  rw [Fills, if_neg mark]

end Form

namespace Fields

variable {fields fields' : Fields}

theorem toList_text_canonical (whole : fields.fraction = []) :
    (fields.text "T" "Z").toList =
      (zeroPadded 4 fields.year).toList ++ '-' :: ((zeroPadded 2 fields.month).toList ++
        '-' :: ((zeroPadded 2 fields.day).toList ++ 'T' :: ((zeroPadded 2 fields.hour).toList ++
          ':' :: ((zeroPadded 2 fields.minute).toList ++
            ':' :: ((zeroPadded 2 fields.second).toList ++ ['Z']))))) := by
  have separator : "T".toList = ['T'] := rfl
  have zone : "Z".toList = ['Z'] := rfl
  have none : fields.fractionText.toList = [] := by
    rw [toList_fractionText, whole]
    rfl
  simp only [toList_text, toList_dateText, toList_clockText, separator, zone, none,
    List.append_assoc, List.cons_append, List.nil_append]

theorem Fit.hasForm (fit : fields.Fit) (whole : fields.fraction = []) :
    HasForm (fields.text "T" "Z") := by
  rw [HasForm, toList_text_canonical whole]
  refine form_of_zeroPadded (by decide) fit.year_lt (form_of_literal (by decide) ?_)
  refine form_of_zeroPadded (by decide) fit.month_lt (form_of_literal (by decide) ?_)
  refine form_of_zeroPadded (by decide) fit.day_lt (form_of_literal (by decide) ?_)
  refine form_of_zeroPadded (by decide) fit.hour_lt (form_of_literal (by decide) ?_)
  refine form_of_zeroPadded (by decide) fit.minute_lt (form_of_literal (by decide) ?_)
  refine form_of_zeroPadded (by decide) fit.second_lt (form_of_literal (by decide) ?_)
  exact .nil

theorem exists_of_hasForm {text : String} (form : HasForm text) :
    ∃ fields : Fields, fields.Fit ∧ fields.fraction = [] ∧ text = fields.text "T" "Z" := by
  obtain ⟨year, _, year_lt, split, months⟩ := @digits_of_form 4 (by decide) _ _ form
  obtain ⟨month, _, month_lt, rfl, days⟩ := @field_of_form _ (by decide) 2 (by decide) _ _ months
  obtain ⟨day, _, day_lt, rfl, hours⟩ := @field_of_form _ (by decide) 2 (by decide) _ _ days
  obtain ⟨hour, _, hour_lt, rfl, minutes⟩ := @field_of_form _ (by decide) 2 (by decide) _ _ hours
  obtain ⟨minute, _, minute_lt, rfl, seconds⟩ :=
    @field_of_form _ (by decide) 2 (by decide) _ _ minutes
  obtain ⟨second, _, second_lt, rfl, zone⟩ := @field_of_form _ (by decide) 2 (by decide) _ _ seconds
  obtain ⟨_, rfl, nothing⟩ := literal_of_form (by decide) zone
  cases nothing
  refine ⟨⟨year, month, day, hour, minute, second, []⟩, ?_, rfl, ?_⟩
  · exact ⟨year_lt, month_lt, day_lt, hour_lt, minute_lt, second_lt, List.forall_mem_nil _⟩
  · rw [← String.toList_inj, toList_text_canonical rfl, split]

/-- The readers accept fields that fit exactly if they are valid. -/
theorem Fit.read?_eq_some_iff (fit : fields.Fit) {instant : Instant} :
    fields.read? = some instant ↔ fields.Valid ∧ fields.instant = instant := by
  constructor
  · intro read
    obtain ⟨date, dated, rest⟩ := Option.bind_eq_some_iff.mp read
    obtain ⟨time, timed, -⟩ := Option.map_eq_some_iff.mp rest
    have civil : Date.Valid ⟨fields.year, fields.month, fields.day⟩ := by
      by_contra invalid
      rw [checkDate, if_neg invalid] at dated
      cases dated
    have inRange : fields.hour ≤ 23 ∧ fields.minute ≤ 59 ∧ fields.second ≤ 60 := by
      by_contra outside
      rw [checkTime, if_neg outside] at timed
      cases timed
    obtain ⟨-, -, month_pos, month_le, days⟩ := civil
    have valid : fields.Valid := ⟨Nat.le_of_lt_succ fit.year_lt, ⟨month_pos, month_le⟩, days,
      inRange.1, inRange.2.1, inRange.2.2, fit.digits⟩
    rw [valid.read?_eq, Option.some_inj] at read
    exact ⟨valid, read⟩
  · rintro ⟨valid, rfl⟩
    exact valid.read?_eq

theorem Fit.parseTimestamp?_canonical (fit : fields.Fit) :
    parseTimestamp? (fields.text "T" "Z") = fields.read? := by
  have zone : "Z".toList = ['Z'] := rfl
  have ends : Reader.EndsFraction "Z".toList := zone ▸ Reader.endsFraction_cons (by decide) []
  have full : ∀ c ∈ "Z".toList, isBlank c = false := by
    rw [zone, List.forall_mem_singleton]
    decide
  rw [parseTimestamp?_zoned fit ends full rfl]
  simp

/-- A date, then a time of day, before another one. -/
def Earlier (fields fields' : Fields) : Prop :=
  fields.date.Before fields'.date ∨ fields.date = fields'.date ∧
    (fields.hour < fields'.hour ∨ fields.hour = fields'.hour ∧
      (fields.minute < fields'.minute ∨ fields.minute = fields'.minute ∧
        fields.second < fields'.second))

theorem Fit.earlier_of_text_lt (fit : fields.Fit) (fit' : fields'.Fit)
    (whole : fields.fraction = []) (whole' : fields'.fraction = [])
    (less : fields.text "T" "Z" < fields'.text "T" "Z") : fields.Earlier fields' := by
  rw [String.lt_iff_toList_lt, toList_text_canonical whole, toList_text_canonical whole'] at less
  unfold Earlier Date.Before date
  rcases zeroPadded_lt_zeroPadded (by decide) fit.year_lt fit'.year_lt less with year | ⟨year, less⟩
  · exact .inl (.inl (Int.ofNat_lt.mpr year))
  rcases zeroPadded_lt_zeroPadded (by decide) fit.month_lt fit'.month_lt
    (List.cons_lt_cons_self.mp less) with month | ⟨month, less⟩
  · exact .inl (.inr ⟨congrArg Nat.cast year, .inl month⟩)
  rcases zeroPadded_lt_zeroPadded (by decide) fit.day_lt fit'.day_lt
    (List.cons_lt_cons_self.mp less) with day | ⟨day, less⟩
  · exact .inl (.inr ⟨congrArg Nat.cast year, .inr ⟨month, day⟩⟩)
  refine .inr ⟨by rw [year, month, day], ?_⟩
  rcases zeroPadded_lt_zeroPadded (by decide) fit.hour_lt fit'.hour_lt
    (List.cons_lt_cons_self.mp less) with hour | ⟨hour, less⟩
  · exact .inl hour
  rcases zeroPadded_lt_zeroPadded (by decide) fit.minute_lt fit'.minute_lt
    (List.cons_lt_cons_self.mp less) with minute | ⟨minute, less⟩
  · exact .inr ⟨hour, .inl minute⟩
  rcases zeroPadded_lt_zeroPadded (by decide) fit.second_lt fit'.second_lt
    (List.cons_lt_cons_self.mp less) with second | ⟨second, less⟩
  · exact .inr ⟨hour, .inr ⟨minute, second⟩⟩
  · exact absurd less (lt_irrefl _)

/-- A leap second is later than the second that it belongs to by its nanoseconds only. -/
theorem Valid.not_atMost_of_earlier (valid : fields.Valid) (valid' : fields'.Valid)
    (whole : fields.fraction = []) (whole' : fields'.fraction = [])
    (earlier : fields.Earlier fields') : ¬ fields'.instant.AtMost fields.instant := by
  have days := Date.toDays_eq_civilDays valid.date_valid (Int.natCast_nonneg fields.year)
  have days' := Date.toDays_eq_civilDays valid'.date_valid (Int.natCast_nonneg fields'.year)
  have nanos : fields.nanos = 0 := by simp [Fields.nanos, whole]
  have nanos' : fields'.nanos = 0 := by simp [Fields.nanos, whole']
  have hour_le := valid'.hour_le
  have minute_le := valid'.minute_le
  have bounds := And.intro valid.hour_le (And.intro valid.minute_le valid.second_le)
  have bounds' := And.intro valid'.hour_le (And.intro valid'.minute_le valid'.second_le)
  simp only [Instant.AtMost, instant, nanos, nanos', nanosPerSecond, ← days, ← days']
  rcases earlier with before | ⟨same, clock⟩
  · have later := Date.toDays_lt_toDays valid.date_valid valid'.date_valid before
    omega
  · rw [same]
    split
    · split
      · omega
      · omega
    · split
      · omega
      · omega

end Fields

/-- A day and a time of the calendar in universal time, to the second. -/
def Canonical (text : String) : Prop :=
  ∃ fields : Fields, fields.Valid ∧ fields.fraction = [] ∧ text = fields.text "T" "Z"

section Canonical

variable {text text' : String} {instant instant' : Instant}

theorem exists_of_parseTimestamp? (form : HasForm text)
    (read : parseTimestamp? text = some instant) :
    ∃ fields : Fields, fields.Valid ∧ fields.fraction = [] ∧ text = fields.text "T" "Z" ∧
      fields.instant = instant := by
  obtain ⟨fields, fit, whole, rfl⟩ := Fields.exists_of_hasForm form
  rw [fit.parseTimestamp?_canonical, fit.read?_eq_some_iff] at read
  exact ⟨fields, read.1, whole, rfl, read.2⟩

/-- Of the texts in canonical form the reader accepts those that the calendar has. -/
theorem canonical_iff :
    Canonical text ↔ HasForm text ∧ ∃ instant, parseTimestamp? text = some instant := by
  constructor
  · intro canonical
    obtain ⟨fields, valid, whole, rfl⟩ := canonical
    refine ⟨valid.fit.hasForm whole, fields.instant, ?_⟩
    rw [valid.fit.parseTimestamp?_canonical, valid.read?_eq]
  · intro accepted
    obtain ⟨form, instant, read⟩ := accepted
    obtain ⟨fields, valid, whole, spelled, -⟩ := exists_of_parseTimestamp? form read
    exact ⟨fields, valid, whole, spelled⟩

variable (form : HasForm text) (read : parseTimestamp? text = some instant)
  (form' : HasForm text') (read' : parseTimestamp? text' = some instant')

include form read form' read'

theorem not_atMost_of_lt (less : text < text') : ¬ instant'.AtMost instant := by
  obtain ⟨fields, valid, whole, rfl, rfl⟩ := exists_of_parseTimestamp? form read
  obtain ⟨fields', valid', whole', rfl, rfl⟩ := exists_of_parseTimestamp? form' read'
  exact valid.not_atMost_of_earlier valid' whole whole'
    (valid.fit.earlier_of_text_lt valid'.fit whole whole' less)

/-- Canonical timestamps are compared as their texts are. -/
theorem atMost_iff_le : instant.AtMost instant' ↔ text ≤ text' := by
  rcases lt_trichotomy text text' with less | same | greater
  · have later := not_atMost_of_lt form read form' read' less
    simp only [Instant.AtMost] at later ⊢
    simp only [less.le, iff_true]
    omega
  · subst same
    rw [read, Option.some_inj] at read'
    subst read'
    simp [Instant.AtMost]
  · have later := not_atMost_of_lt form' read' form read greater
    simp only [later, false_iff, not_le, greater]

end Canonical
end DatasetGate.Calendar
