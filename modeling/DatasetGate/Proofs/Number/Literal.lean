import DatasetGate.Proofs.Json.Values
import DatasetGate.Proofs.Number.Numerals

/-!
# Number literals in a plan and in a dataset

A number in digits, with a point or without, has two readers. The reader of plans keeps whole
numbers apart and rounds other numbers twice or more often; the reader of datasets rounds once. What a
plan holds may also have an exponent behind its digits.
-/

set_option autoImplicit false

namespace DatasetGate

open DatasetGate.Text DatasetGate.Number DatasetGate.Json

/-- A number in digits as JSON writes it: no superfluous zero in front, and digits behind the point if
there is one. -/
structure NumberLiteral where
  negative : Bool
  whole : List Char
  fraction : List Char
  wholeDigits : ∀ c ∈ whole, isDigit c = true
  fractionDigits : ∀ c ∈ fraction, isDigit c = true
  nonempty : whole ≠ []
  unpadded : whole.head? = some '0' → whole = ['0']

namespace NumberLiteral

variable (literal : NumberLiteral)

/-- The literal without its sign. -/
def unsigned : List Char :=
  literal.whole ++ if literal.fraction.isEmpty then [] else '.' :: literal.fraction

def chars : List Char :=
  if literal.negative then '-' :: literal.unsigned else literal.unsigned

/-- The number that all digits make, the point left out. -/
def digits : Nat :=
  Nat.ofDigitChars 10 (literal.whole ++ literal.fraction) 0

def places : Nat :=
  literal.fraction.length

/-- The value of a literal without a point. -/
def value : Int :=
  if literal.negative then -(literal.digits : Int) else literal.digits

/-- The value of a literal, exactly. -/
def numeral : Numeral :=
  ⟨literal.negative, literal.digits, -(literal.places : Int)⟩

/-- The mark, the sign and the digits of an exponent, if there is one. -/
def exponentText : Option Int → List Char
  | none => []
  | some power => 'e' :: (if power < 0 then '-' else '+') :: Nat.toDigits 10 power.natAbs

theorem unsigned_of_nil (integral : literal.fraction = []) : literal.unsigned = literal.whole := by
  simp [unsigned, integral]

theorem unsigned_of_ne_nil (fractional : literal.fraction ≠ []) :
    literal.unsigned = literal.whole ++ '.' :: literal.fraction := by
  simp [unsigned, fractional]

theorem chars_of_negative (negative : literal.negative = true) :
    literal.chars = '-' :: literal.unsigned := by
  rw [chars, if_pos negative]

theorem chars_of_not_negative (positive : literal.negative = false) :
    literal.chars = literal.unsigned := by
  rw [chars, positive, if_neg Bool.false_ne_true]

theorem exists_unsigned_cons : ∃ c rest, literal.unsigned = c :: rest ∧ isDigit c = true := by
  cases shape : literal.whole with
  | nil => exact absurd shape literal.nonempty
  | cons c rest =>
      refine ⟨c, _, by rw [unsigned, shape, List.cons_append], ?_⟩
      exact literal.wholeDigits c (shape ▸ List.mem_cons_self)

section Lexing

/-- Behind its first digit the lexer is among the digits of a whole number, or behind a zero. -/
theorem scan_whole (text rest : List Char) :
    ∃ stage : NumberStage, (stage = .zero ∨ stage = .whole) ∧
      (Stage.number text .sign).scan (literal.whole ++ rest) =
        (Stage.number (literal.whole.reverse ++ text) stage).scan rest := by
  cases shape : literal.whole with
  | nil => exact absurd shape literal.nonempty
  | cons c digits =>
      by_cases zero : c = '0'
      · have alone : literal.whole = ['0'] := literal.unpadded (by rw [shape, zero]; rfl)
        rw [← shape, alone]
        exact ⟨.zero, .inl rfl, scan_hold (.number ('0' :: text) .zero) rfl⟩
      · have digit := literal.wholeDigits
        rw [shape, List.forall_mem_cons] at digit
        have isOne : NumberStage.digit c = true := by rw [digit_eq_isDigit, digit.1]
        refine ⟨.whole, .inr rfl, ?_⟩
        rw [List.cons_append, scan_hold (.number (c :: text) .whole),
          scan_digits (fun _ => next?_whole) digit.2]
        · simp
        · simp [Stage.step, NumberStage.next?, zero, isOne]

/-- Behind a number without an exponent the lexer may stop, or meet the mark of one. -/
theorem scan_unsigned (text rest : List Char) :
    ∃ stage : NumberStage, stage.complete = true ∧ stage.next? 'e' = some .mark ∧
      (Stage.number text .sign).scan (literal.unsigned ++ rest) =
        (Stage.number (literal.unsigned.reverse ++ text) stage).scan rest := by
  cases shape : literal.fraction with
  | nil =>
      rw [literal.unsigned_of_nil shape]
      obtain ⟨stage, standing, scanned⟩ := literal.scan_whole text rest
      refine ⟨stage, ?_, ?_, scanned⟩
      · rcases standing with rfl | rfl <;> rfl
      · rcases standing with rfl | rfl <;> rfl
  | cons d digits =>
      have digit := literal.fractionDigits
      rw [shape, List.forall_mem_cons] at digit
      have isOne : NumberStage.digit d = true := by rw [digit_eq_isDigit, digit.1]
      rw [literal.unsigned_of_ne_nil (by simp [shape]), shape, List.append_assoc]
      obtain ⟨stage, standing, scanned⟩ := literal.scan_whole text ('.' :: d :: digits ++ rest)
      have pointed : stage.next? '.' = some .point := by rcases standing with rfl | rfl <;> rfl
      let before := literal.whole.reverse ++ text
      refine ⟨.fraction, rfl, rfl, ?_⟩
      rw [scanned, List.cons_append, List.cons_append, scan_hold (.number ('.' :: before) .point),
        scan_hold (.number (d :: '.' :: before) .fraction),
        scan_digits (fun _ => next?_fraction) digit.2]
      · simp [before]
      · simp [Stage.step, NumberStage.next?, isOne, before]
      · simp [Stage.step, pointed, before]

theorem scan_exponentText {stage : NumberStage} (complete : stage.complete = true)
    (marked : stage.next? 'e' = some .mark) (text : List Char) (power : Option Int)
    {rest : List Char} (ends : EndsNumber rest) :
    (Stage.number text stage).scan (exponentText power ++ rest) =
      .number (text.reverse ++ exponentText power) :: Stage.between.scan rest := by
  cases power with
  | none => simpa [exponentText] using scan_number complete text ends
  | some power =>
      have all : ∀ c ∈ Nat.toDigits 10 power.natAbs, isDigit c = true :=
        fun c member => isDigit_of_mem_toDigits member
      have stays (c : Char) (digit : NumberStage.digit c = true) :
          NumberStage.exponent.next? c = some .exponent := by
        simp [NumberStage.next?, digit]
      cases shown : Nat.toDigits 10 power.natAbs with
      | nil => exact absurd shown Nat.toDigits_ne_nil
      | cons c digits =>
          rw [shown, List.forall_mem_cons] at all
          have isOne : NumberStage.digit c = true := by rw [digit_eq_isDigit, all.1]
          let sign : Char := if power < 0 then '-' else '+'
          have signed : NumberStage.mark.next? sign = some .markSign := by
            by_cases negative : power < 0 <;> simp [sign, negative, NumberStage.next?]
          rw [exponentText, shown, List.cons_append, List.cons_append, List.cons_append,
            scan_hold (.number ('e' :: text) .mark),
            scan_hold (.number (sign :: 'e' :: text) .markSign),
            scan_hold (.number (c :: sign :: 'e' :: text) .exponent),
            scan_digits stays all.2, scan_number rfl _ ends]
          · simp [sign]
          · simp [Stage.step, NumberStage.next?, isOne]
          · simp [Stage.step, signed, sign]
          · simp [Stage.step, marked]

/-- A literal is one token, its exponent included. -/
theorem lexes_append (power : Option Int) :
    Lexes (literal.chars ++ exponentText power)
      [.number (literal.chars ++ exponentText power)] := by
  intro rest ends
  have scanned (text : List Char) :
      (Stage.number text .sign).scan (literal.unsigned ++ (exponentText power ++ rest)) =
        .number (text.reverse ++ literal.unsigned ++ exponentText power) ::
          Stage.between.scan rest := by
    obtain ⟨stage, complete, marked, scanned⟩ :=
      literal.scan_unsigned text (exponentText power ++ rest)
    rw [scanned, scan_exponentText complete marked _ power ends]
    simp
  rw [List.append_assoc]
  cases sign : literal.negative with
  | true =>
      rw [literal.chars_of_negative sign, List.cons_append, scan_hold (.number ['-'] .sign) rfl,
        scanned]
      rfl
  | false =>
      obtain ⟨c, digits, shape, digit⟩ := literal.exists_unsigned_cons
      have unsigned := scanned []
      rw [literal.chars_of_not_negative sign]
      rw [shape] at unsigned ⊢
      rw [List.cons_append, scan_between_digit digit]
      exact unsigned

theorem readsAs_append (power : Option Int) :
    ReadsAs (literal.chars ++ exponentText power)
      (.number (literal.chars ++ exponentText power)) :=
  ⟨_, literal.lexes_append power, builds_token (by simp) fun _ => rfl⟩

theorem readsAs_chars : ReadsAs literal.chars (.number literal.chars) := by
  simpa [exponentText] using literal.readsAs_append none

end Lexing

section Parts

/-- Digits that no further digit follows are a run of their own. -/
theorem run_of_digits {isOne : Char → Bool} (ones : ∀ c, isDigit c = true → isOne c = true)
    {digits : List Char} (digit : ∀ c ∈ digits, isDigit c = true) {rest : List Char}
    (ends : ∀ c ∈ rest.head?, isOne c = false) :
    (digits ++ rest).takeWhile isOne = digits ∧ (digits ++ rest).dropWhile isOne = rest := by
  have all : ∀ c ∈ digits, isOne c = true := fun c member => ones c (digit c member)
  rw [List.takeWhile_append_of_pos all, List.dropWhile_append_of_pos all]
  cases rest with
  | nil => simp
  | cons c more => simp [ends c (by simp)]

/-- The digits before the point are a run, and so are those behind it. -/
theorem runs_append {isOne : Char → Bool} (ones : ∀ c, isDigit c = true → isOne c = true)
    (point : isOne '.' = false) {rest : List Char} (ends : ∀ c ∈ rest.head?, isOne c = false) :
    (literal.unsigned ++ rest).takeWhile isOne = literal.whole ∧
      (literal.unsigned ++ rest).dropWhile isOne =
        (if literal.fraction.isEmpty then [] else '.' :: literal.fraction) ++ rest ∧
      (literal.fraction ++ rest).takeWhile isOne = literal.fraction ∧
      (literal.fraction ++ rest).dropWhile isOne = rest := by
  have behind : ∀ c ∈ ((if literal.fraction.isEmpty then [] else '.' :: literal.fraction) ++
      rest).head?, isOne c = false := by
    cases literal.fraction.isEmpty with
    | true => simpa using ends
    | false => simpa using point
  obtain ⟨wholeRun, afterWhole⟩ := run_of_digits ones literal.wholeDigits behind
  obtain ⟨fractionRun, afterFraction⟩ := run_of_digits ones literal.fractionDigits ends
  rw [unsigned, List.append_assoc]
  exact ⟨wholeRun, afterWhole, fractionRun, afterFraction⟩

theorem runs {isOne : Char → Bool} (ones : ∀ c, isDigit c = true → isOne c = true)
    (point : isOne '.' = false) :
    literal.unsigned.takeWhile isOne = literal.whole ∧
      literal.unsigned.dropWhile isOne =
        (if literal.fraction.isEmpty then [] else '.' :: literal.fraction) ∧
      literal.fraction.takeWhile isOne = literal.fraction ∧
      literal.fraction.dropWhile isOne = [] := by
  have ends : ∀ c ∈ ([] : List Char).head?, isOne c = false := by simp
  simpa using literal.runs_append ones point ends

theorem exponentValue_exponentText (power : Int) :
    exponentValue ((exponentText (some power)).drop 1) = power := by
  have magnitude : digitsValue (Nat.toDigits 10 power.natAbs) = power.natAbs :=
    Nat.ofDigitChars_ten_toDigits
  by_cases negative : power < 0
  · simp only [exponentText, negative, if_true, List.drop_succ_cons, List.drop_zero, exponentValue,
      magnitude]
    omega
  · simp only [exponentText, negative, if_false, List.drop_succ_cons, List.drop_zero, exponentValue,
      magnitude]
    omega

/-- The reader of plans finds the parts of a literal, and its exponent. -/
theorem ofText_append (power : Option Int) :
    NumberParts.ofText (literal.chars ++ exponentText power) =
      ⟨literal.negative, literal.whole,
        if literal.fraction.isEmpty then none else some literal.fraction, power⟩ := by
  have ones (c : Char) (digit : isDigit c = true) : NumberStage.digit c = true := by
    rw [digit_eq_isDigit, digit]
  have ends : ∀ c ∈ (exponentText power).head?, NumberStage.digit c = false := by
    cases power with
    | none => simp [exponentText]
    | some power => simp [exponentText, NumberStage.digit]
  obtain ⟨wholeRun, behind, fractionRun, fractionEnd⟩ := literal.runs_append ones rfl ends
  have unsigned : ((literal.unsigned ++ exponentText power).head? == some '-') = false := by
    obtain ⟨c, rest, shape, digit⟩ := literal.exists_unsigned_cons
    rw [shape, List.cons_append, List.head?_cons, beq_eq_false_iff_ne]
    intro minus
    cases minus
    cases digit
  unfold NumberStage.digit at wholeRun behind fractionRun fractionEnd
  have signed : ((literal.chars ++ exponentText power).head? == some '-') = literal.negative ∧
      (if literal.negative then (literal.chars ++ exponentText power).drop 1
        else literal.chars ++ exponentText power) = literal.unsigned ++ exponentText power := by
    rw [chars]
    cases literal.negative with
    | true => simp
    | false => simpa using unsigned
  have exponent : (if (exponentText power).isEmpty then none
      else some (exponentValue ((exponentText power).drop 1))) = power := by
    cases power with
    | none => rfl
    | some power => exact congrArg some (exponentValue_exponentText power)
  simp only [NumberParts.ofText, signed.1, signed.2, wholeRun, behind]
  cases shape : literal.fraction with
  | nil =>
      have noPoint : ((exponentText power).head? == some '.') = false := by
        cases power <;> rfl
      simp only [List.isEmpty_nil, if_true, List.nil_append, noPoint, Bool.false_eq_true, if_false,
        exponent]
  | cons d digits =>
      rw [shape] at fractionRun fractionEnd
      simp only [List.isEmpty_cons, Bool.false_eq_true, if_false, List.cons_append, List.head?_cons,
        beq_self_eq_true, if_true, List.drop_succ_cons, List.drop_zero]
      rw [List.cons_append] at fractionRun fractionEnd
      rw [fractionRun, fractionEnd, exponent]

theorem ofText_chars :
    NumberParts.ofText literal.chars =
      ⟨literal.negative, literal.whole,
        if literal.fraction.isEmpty then none else some literal.fraction, none⟩ := by
  simpa [exponentText] using literal.ofText_append none

end Parts

section Plans

theorem digits_of_nil (integral : literal.fraction = []) :
    literal.digits = Nat.ofDigitChars 10 literal.whole 0 := by
  rw [digits, integral, List.append_nil]

theorem takeDigits_whole (small : literal.digits ≤ maxSignificand) :
    takeDigits literal.whole 0 = (Nat.ofDigitChars 10 literal.whole 0, []) := by
  apply takeDigits_eq
  rw [digits, Nat.ofDigitChars_append, Nat.ofDigitChars_eq_ofDigitChars_zero] at small
  refine le_trans ?_ small
  exact Nat.le_add_right_of_le (Nat.le_mul_of_pos_left _ (by positivity))

/-- The reader of plans keeps a whole number of sixty-four bits, minus zero apart. -/
theorem numberValue?_of_nil (integral : literal.fraction = []) (fits : FitsInt64 literal.value) :
    numberValue? literal.chars = some (.integer literal.value) ∨
      literal.value = 0 ∧ numberValue? literal.chars = some (.float (.ofRank true 0)) := by
  obtain ⟨low, high⟩ := fits
  rw [value] at low high ⊢
  have taken : takeDigits literal.whole 0 = (literal.digits, []) := by
    rw [literal.digits_of_nil integral, literal.takeDigits_whole]
    rw [maxSignificand]
    cases sign : literal.negative <;> simp only [sign] at low high <;> grind
  simp only [numberValue?, literal.ofText_chars, integral, NumberParts.value?, taken]
  cases sign : literal.negative with
  | false => simp
  | true =>
      rw [sign, if_pos rfl] at low high
      rcases Nat.eq_zero_or_pos literal.digits with zero | positive
      · right
        simp only [zero]
        exact ⟨rfl, rfl⟩
      · left
        have fits : 0 < literal.digits ∧ literal.digits ≤ 0x8000000000000000 := by omega
        simp [fits]

/-- The reader of plans takes no number with a point for a whole number. -/
theorem exists_float_of_ne_nil (fractional : literal.fraction ≠ []) {value : Json}
    (read : numberValue? literal.chars = some value) : ∃ x, value = .float x := by
  have filled : literal.fraction.isEmpty = false := by simpa using fractional
  simp only [numberValue?, literal.ofText_chars, filled, Bool.false_eq_true, if_false,
    NumberParts.value?, Option.isNone_some, Bool.false_and, Option.map_eq_some_iff] at read
  obtain ⟨x, -, rfl⟩ := read
  exact ⟨x, rfl⟩

theorem scaleByTen?_neg {places : Nat} (positive : 0 < places) (short : places ≤ maxPower)
    (fuel rank : Nat) : scaleByTen? (fuel + 1) rank (-(places : Int)) =
      some (rankQuotient rank (powerOfTenRank places)) := by
  have negative : ¬ 0 ≤ -(places : Int) := by omega
  simp only [scaleByTen?, Int.natAbs_neg, Int.natAbs_natCast, if_pos short, if_neg negative]

/-- The reader of plans rounds the digits of other numbers, and scales them by the power of ten that
point and exponent make. -/
theorem numberValue?_append {power : Option Int}
    (float : literal.fraction ≠ [] ∨ power.isSome = true) (small : literal.digits ≤ maxSignificand) :
    numberValue? (literal.chars ++ exponentText power) =
      (scaleByTen? 4 (Format.binary64.rank literal.digits 1)
        (power.getD 0 - (literal.places : Int))).map
          fun rank => .float (.ofRank literal.negative rank) := by
  have whole := literal.takeDigits_whole small
  have fraction : takeDigits literal.fraction (Nat.ofDigitChars 10 literal.whole 0) =
      (literal.digits, []) := by
    rw [digits, Nat.ofDigitChars_append] at *
    exact takeDigits_eq small
  have all : (if literal.fraction.isEmpty then none else some literal.fraction).getD [] =
      literal.fraction := by
    cases literal.fraction <;> rfl
  have apart : ((if literal.fraction.isEmpty then none else some literal.fraction).isNone &&
      power.isNone) = false := by
    cases float with
    | inl fractional => simp [fractional]
    | inr marked => simp [Option.isNone_eq_false_iff.mpr marked]
  have scale : ((0 : Nat) : Int) - ((literal.fraction.length : Int) - ((0 : Nat) : Int)) +
      power.getD 0 = power.getD 0 - (literal.places : Int) := by
    rw [places]
    omega
  simp only [numberValue?, literal.ofText_append, NumberParts.value?, apart, Bool.false_and,
    Bool.false_eq_true, if_false, NumberParts.double?, whole, all, fraction, List.length_nil, scale,
    Option.map_map]
  rfl

/-- Without an exponent the power of ten is rounded, too, and then their quotient. -/
theorem numberValue?_of_ne_nil (fractional : literal.fraction ≠ [])
    (small : literal.digits ≤ maxSignificand) (short : literal.places ≤ maxPower) :
    numberValue? literal.chars = some (.float (.ofRank literal.negative
      (rankQuotient (Format.binary64.rank literal.digits 1) (powerOfTenRank literal.places)))) := by
  have positive : 0 < literal.places := List.length_pos_of_ne_nil fractional
  have read := @numberValue?_append literal none (.inl fractional) small
  rw [exponentText, List.append_nil, Option.getD_none, zero_sub,
    scaleByTen?_neg positive short] at read
  exact read

end Plans

section Datasets

/-- The reader of datasets rounds the quotient of the digits and the power of ten. -/
theorem toDouble_numeral :
    literal.numeral.toDouble =
      .ofQuotient literal.negative literal.digits (10 ^ literal.places) := by
  apply Numeral.toDouble_eq (Nat.pow_pos (by decide))
  rw [numeral, zpow_neg, zpow_natCast, ← div_eq_mul_inv, Nat.cast_pow, Nat.cast_ofNat]

end Datasets

end NumberLiteral
end DatasetGate
