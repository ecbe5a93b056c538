import DatasetGate.Proofs.Json.Scaling
import DatasetGate.Proofs.Number.Literal

/-!
# Written doubles

The text of a finite double spells a decimal that rounds to the double: its shortest one, with a zero
behind the point if that is a whole number of at most sixteen digits. The reader of plans takes the
text for a number with a point or an exponent, never for a whole number, and scales its digits in its
own way.
-/

set_option autoImplicit false

namespace DatasetGate.Json

open DatasetGate.Number DatasetGate.Text DatasetGate.NumberLiteral

/-- The digits of a decimal as they are written. -/
def digitChars (d : Decimal) : List Char :=
  Nat.toDigits 10 d.digits

/-- The decimal that the text of a finite double spells. -/
def shownDecimal (rank : Nat) : Decimal :=
  if rank = 0 then ⟨0, -1⟩
  else
    let d := shortest .even rank
    if 0 ≤ d.exponent ∧ ((digitChars d).length : Int) + d.exponent ≤ 16 then
      ⟨d.digits * 10 ^ (d.exponent.natAbs + 1), -1⟩
    else d

/-- A text is a number with a point or an exponent whose digits and power of ten are those of a
decimal. -/
def Spells (text : List Char) (negative : Bool) (d : Decimal) : Prop :=
  ∃ (literal : NumberLiteral) (power : Option Int),
    text = literal.chars ++ exponentText power ∧ literal.negative = negative ∧
      literal.digits = d.digits ∧ power.getD 0 - (literal.places : Int) = d.exponent ∧
        (literal.fraction ≠ [] ∨ power.isSome = true)

section Digits

variable {d : Decimal}

theorem toList_toString_digits (d : Decimal) : (toString d.digits).toList = digitChars d := by
  rw [Nat.toString_eq_repr, Nat.toList_repr, digitChars]

theorem ofDigitChars_digitChars (d : Decimal) : Nat.ofDigitChars 10 (digitChars d) 0 = d.digits :=
  Nat.ofDigitChars_ten_toDigits

theorem isDigit_of_mem_digitChars : ∀ c ∈ digitChars d, isDigit c = true :=
  fun _ member => isDigit_of_mem_toDigits member

theorem digitChars_ne_nil (d : Decimal) : digitChars d ≠ [] :=
  Nat.toDigits_ne_nil

theorem length_digitChars_pos (d : Decimal) : 0 < (digitChars d).length :=
  List.length_pos_of_ne_nil (digitChars_ne_nil d)

theorem head?_digitChars (positive : 0 < d.digits) : (digitChars d).head? ≠ some '0' := by
  cases toDigits_eq_cons d.digits with
  | inl zero =>
      have value := ofDigitChars_digitChars d
      rw [digitChars, zero] at value
      exact absurd value positive.ne
  | inr more =>
      obtain ⟨c, digits, shown, nonzero, -⟩ := more
      rw [digitChars, shown, List.head?_cons]
      exact fun same => nonzero (Option.some.inj same)

end Digits

section Spelling

theorem signText_append (literal : NumberLiteral) :
    Double.signText literal.negative ++ literal.unsigned = literal.chars := by
  cases sign : literal.negative with
  | true => exact (literal.chars_of_negative sign).symm
  | false => exact (literal.chars_of_not_negative sign).symm

variable {d : Decimal} (negative : Bool)

/-- The digits of a decimal, so many of them before the point. -/
def pointed (positive : 0 < d.digits) {count : Nat} (counted : 0 < count) : NumberLiteral where
  negative
  whole := (digitChars d).take count
  fraction := (digitChars d).drop count
  wholeDigits := fun c member => isDigit_of_mem_digitChars c (List.mem_of_mem_take member)
  fractionDigits := fun c member => isDigit_of_mem_digitChars c (List.mem_of_mem_drop member)
  nonempty := by simp [digitChars_ne_nil, counted.ne']
  unpadded := by
    rw [List.head?_take, if_neg counted.ne']
    exact fun zero => absurd zero (head?_digitChars positive)

theorem pointed_unsigned (positive : 0 < d.digits) {count : Nat} (counted : 0 < count) :
    (pointed negative positive counted).unsigned = (digitChars d).take count ++
      if (digitChars d).length ≤ count then [] else '.' :: (digitChars d).drop count := by
  by_cases all : (digitChars d).length ≤ count
  · have none : (pointed negative positive counted).fraction = [] := List.drop_eq_nil_of_le all
    rw [unsigned_of_nil _ none, if_pos all, List.append_nil]
    rfl
  · have some : (pointed negative positive counted).fraction ≠ [] := by
      simpa [pointed] using all
    rw [unsigned_of_ne_nil _ some, if_neg all]
    rfl

theorem isDigit_of_mem_zero : ∀ c ∈ ['0'], isDigit c = true :=
  List.all_eq_true.mp (by decide)

/-- Digits behind a zero and a point. -/
def belowOne {fraction : List Char} (digits : ∀ c ∈ fraction, isDigit c = true) :
    NumberLiteral where
  negative
  whole := ['0']
  fraction
  wholeDigits := isDigit_of_mem_zero
  fractionDigits := digits
  nonempty := by decide
  unpadded := fun _ => rfl

theorem spells_belowOne {fraction : List Char} (digits : ∀ c ∈ fraction, isDigit c = true)
    (nonempty : fraction ≠ []) :
    Spells (Double.signText negative ++ '0' :: '.' :: fraction) negative
      ⟨Nat.ofDigitChars 10 fraction 0, -(fraction.length : Int)⟩ := by
  refine ⟨belowOne negative digits, none, ?_, rfl, ?_, ?_, .inl nonempty⟩
  · rw [← signText_append, unsigned_of_ne_nil _ nonempty, exponentText, List.append_nil]
    rfl
  · rw [NumberLiteral.digits, Nat.ofDigitChars_append]
    rfl
  · rw [Option.getD_none, zero_sub]
    rfl

/-- Digits with a point among them, or an exponent behind them, spell the decimal whose power of ten
point and exponent make together. -/
theorem spells_pointed (positive : 0 < d.digits) {count : Nat} (counted : 0 < count)
    (within : count ≤ (digitChars d).length) {power : Option Int}
    (float : count < (digitChars d).length ∨ power.isSome = true)
    (stands : power.getD 0 + count - (digitChars d).length = d.exponent) :
    Spells (Double.signText negative ++ ((digitChars d).take count ++
      (if (digitChars d).length ≤ count then []
        else '.' :: (digitChars d).drop count) ++ exponentText power)) negative d := by
  let literal := pointed negative positive counted
  refine ⟨literal, power, ?_, rfl, ?_, ?_, ?_⟩
  · rw [← signText_append, pointed_unsigned, ← List.append_assoc]
    rfl
  · have digits : literal.whole ++ literal.fraction = digitChars d :=
      List.take_append_drop count _
    rw [NumberLiteral.digits, digits, ofDigitChars_digitChars]
  · have places : literal.places = (digitChars d).length - count := List.length_drop
    rw [places]
    omega
  · exact float.imp_left fun more => by simpa [literal, pointed] using more

/-- A number with an exponent has its point behind the first digit. -/
theorem spells_scientific (positive : 0 < d.digits) :
    Spells (Double.signText negative ++ d.scientific) negative d := by
  let point : Int := ((digitChars d).length : Int) + d.exponent - 1
  have stands : (some point).getD 0 + (1 : Nat) - (digitChars d).length =
      d.exponent := by
    rw [Option.getD_some]
    omega
  have text : d.scientific = (digitChars d).take 1 ++
      (if (digitChars d).length ≤ 1 then []
        else '.' :: (digitChars d).drop 1) ++ exponentText (some point) := by
    have sign (p : Prop) [Decidable p] :
        (if p then ['-'] else ['+']) = [if p then '-' else '+'] := by
      split <;> rfl
    simp [Decimal.scientific, digitChars, exponentText, point, sign]
  rw [text]
  exact spells_pointed negative positive Nat.one_pos (length_digitChars_pos d) (.inr rfl) stands

/-- A literal without an exponent is the plain text of a decimal, digit for digit. -/
structure PlainLiteral (literal : NumberLiteral) (negative : Bool) (d : Decimal) : Prop where
  sign : literal.negative = negative
  text : literal.chars = Double.signText negative ++ d.plain
  digits : literal.digits = d.digits
  places : (literal.places : Int) = -d.exponent
  last : literal.fraction.getLast? = (digitChars d).getLast?

theorem plainLiteral_pointed (positive : 0 < d.digits) (fractional : d.exponent < 0)
    (among : 0 < ((digitChars d).length : Int) + d.exponent) :
    ∃ literal, PlainLiteral literal negative d := by
  let count := (((digitChars d).length : Int) + d.exponent).toNat
  have counted : 0 < count := by omega
  have before : count < (digitChars d).length := by omega
  refine ⟨pointed negative positive counted, rfl, ?_, ?_, ?_, ?_⟩
  · rw [← signText_append, pointed_unsigned, if_neg (Nat.not_le.mpr before), Decimal.plain,
      if_neg (by omega), toList_toString_digits, if_pos among]
    rfl
  · have digits : (pointed negative positive counted).whole ++
        (pointed negative positive counted).fraction = digitChars d :=
      List.take_append_drop count _
    rw [NumberLiteral.digits, digits, ofDigitChars_digitChars]
  · have length : (pointed negative positive counted).places = (digitChars d).length - count :=
      List.length_drop
    omega
  · have behind : (pointed negative positive counted).fraction = (digitChars d).drop count := rfl
    rw [behind, List.getLast?_drop, if_neg (Nat.not_le.mpr before)]

theorem plainLiteral_belowOne (behind : ((digitChars d).length : Int) + d.exponent ≤ 0) :
    ∃ literal, PlainLiteral literal negative d := by
  let padding := zeros (-(((digitChars d).length : Int) + d.exponent)).toNat
  have digit : ∀ c ∈ padding ++ digitChars d, isDigit c = true := by
    intro c member
    cases List.mem_append.mp member with
    | inl zero =>
        rw [List.eq_of_mem_replicate zero]
        decide
    | inr digit => exact isDigit_of_mem_digitChars c digit
  have filled := length_digitChars_pos d
  have nonempty := List.append_ne_nil_of_right_ne_nil padding (digitChars_ne_nil d)
  refine ⟨belowOne negative digit, rfl, ?_, ?_, ?_, ?_⟩
  · rw [← signText_append, unsigned_of_ne_nil _ nonempty, Decimal.plain, if_neg (by omega),
      toList_toString_digits, if_neg (by omega)]
    rfl
  · have digits : (belowOne negative digit).whole ++ (belowOne negative digit).fraction =
        List.replicate (_ + 1) '0' ++ digitChars d := rfl
    rw [NumberLiteral.digits, digits, Nat.ofDigitChars_append, Nat.ofDigitChars_replicate_zero,
      Nat.mul_zero, ofDigitChars_digitChars]
  · have length : (belowOne negative digit).places = (padding ++ digitChars d).length := rfl
    rw [length, List.length_append, show padding.length = _ from List.length_replicate]
    omega
  · exact List.getLast?_append_of_ne_nil _ (digitChars_ne_nil d)

/-- A number with a negative power of ten has its point among its digits or before them. -/
theorem exists_plainLiteral (positive : 0 < d.digits) (fractional : d.exponent < 0) :
    ∃ literal, PlainLiteral literal negative d := by
  rcases lt_or_ge 0 (((digitChars d).length : Int) + d.exponent) with among | behind
  · exact plainLiteral_pointed negative positive fractional among
  · exact plainLiteral_belowOne negative behind

theorem spells_plain (positive : 0 < d.digits) (fractional : d.exponent < 0) :
    Spells (Double.signText negative ++ d.plain) negative d := by
  obtain ⟨literal, shown⟩ := exists_plainLiteral negative positive fractional
  have places := shown.places
  refine ⟨literal, none, ?_, shown.sign, shown.digits, ?_, .inl ?_⟩
  · rw [shown.text, exponentText, List.append_nil]
  · rw [Option.getD_none]
    omega
  · rw [← List.length_pos_iff]
    rw [NumberLiteral.places] at places
    omega

/-- A whole number has a zero behind its point. -/
theorem spells_natural (positive : 0 < d.digits) (natural : 0 ≤ d.exponent) :
    Spells (Double.signText negative ++ (d.plain ++ ".0".toList)) negative
      ⟨d.digits * 10 ^ (d.exponent.natAbs + 1), -1⟩ := by
  let whole := digitChars d ++ zeros d.exponent.natAbs
  let tenths : Decimal := ⟨d.digits * 10 ^ (d.exponent.natAbs + 1), -1⟩
  have shown : digitChars tenths = whole ++ ['0'] := by
    rw [digitChars, toDigits_mul_pow positive, List.replicate_succ', ← List.append_assoc]
    rfl
  have length : (digitChars tenths).length = whole.length + 1 := by
    rw [shown, List.length_append, List.length_singleton]
  have before : whole.length < (digitChars tenths).length := by omega
  have counted : 0 < whole.length :=
    List.length_pos_of_ne_nil (List.append_ne_nil_of_left_ne_nil (digitChars_ne_nil d) _)
  have stands : (none : Option Int).getD 0 + whole.length - (digitChars tenths).length =
      tenths.exponent := by
    rw [Option.getD_none, length, show tenths.exponent = -1 from rfl]
    omega
  have grown : 0 < tenths.digits := Nat.mul_pos positive (Nat.pow_pos (by decide))
  have spelled := spells_pointed negative grown counted before.le (.inl before) stands
  rw [if_neg (Nat.not_le.mpr before), exponentText, List.append_nil, shown, List.take_left,
    List.drop_left] at spelled
  have text : d.plain ++ ".0".toList = whole ++ '.' :: ['0'] := by
    have magnitude : d.exponent.toNat = d.exponent.natAbs := by omega
    simp only [Decimal.plain, if_pos natural, toList_toString_digits, magnitude]
    rfl
  rw [text]
  exact spelled

end Spelling

section Doubles

variable {rank : Nat}

/-- A zero behind the point of a whole number is the next digit of it. -/
theorem value_tenths {d : Decimal} (natural : 0 ≤ d.exponent) :
    Decimal.value ⟨d.digits * 10 ^ (d.exponent.natAbs + 1), -1⟩ = d.value := by
  have one : (-1 : Int).natAbs = 1 := rfl
  rw [value_of_natural natural, value_of_negative (by decide : ¬ (0 : Int) ≤ -1), one, pow_succ]
  push_cast
  field_simp

/-- At most sixteen digits before the point, and one behind it, are seventeen. -/
theorem tenths_le {d : Decimal} (natural : 0 ≤ d.exponent)
    (short : ((digitChars d).length : Int) + d.exponent ≤ 16) :
    d.digits * 10 ^ (d.exponent.natAbs + 1) ≤ 10 ^ 17 := by
  have few : d.digits < 10 ^ (digitChars d).length :=
    (Nat.length_toDigits_le_iff (by decide) (length_digitChars_pos d)).mp le_rfl
  calc d.digits * 10 ^ (d.exponent.natAbs + 1)
      ≤ 10 ^ (digitChars d).length * 10 ^ (d.exponent.natAbs + 1) :=
        Nat.mul_le_mul_right _ few.le
    _ = 10 ^ ((digitChars d).length + (d.exponent.natAbs + 1)) := (pow_add _ _ _).symm
    _ ≤ 10 ^ 17 := Nat.pow_le_pow_right (by decide) (by omega)

theorem roundsTo_zero : RoundsTo 0 0 := by
  intro num den positive value
  have none : num = 0 := by
    rw [div_eq_zero_iff] at value
    cases value with
    | inl zero => exact_mod_cast zero
    | inr zero => exact absurd (by exact_mod_cast zero) positive.ne'
  rw [none, Format.rank, if_pos rfl]

/-- What is shown of a positive double is its shortest decimal, in another form. -/
theorem shownDecimal_spec (positive : 0 < rank) (finite : rank < Format.binary64.infinity) :
    0 < (shownDecimal rank).digits ∧ (shownDecimal rank).digits ≤ 10 ^ 17 ∧
      (shownDecimal rank).value = (shortest .even rank).value ∧
        -340 ≤ (shownDecimal rank).exponent := by
  obtain ⟨digits, few, low, -⟩ := shortest_spec .even positive finite
  rw [shownDecimal, if_neg positive.ne']
  dsimp only
  split
  · rename_i whole
    obtain ⟨natural, short⟩ := whole
    refine ⟨?_, tenths_le natural short, value_tenths natural, (by decide : (-340 : Int) ≤ -1)⟩
    exact Nat.mul_pos digits (Nat.pow_pos (by decide))
  · exact ⟨digits, few, rfl, low⟩

/-- The writer keeps every finite double: what it shows rounds to the double. -/
theorem shownDecimal_roundsTo (finite : rank < Format.binary64.infinity) :
    RoundsTo (shownDecimal rank).value rank := by
  cases Nat.eq_zero_or_pos rank with
  | inl zero =>
      have value : (shownDecimal 0).value = 0 := by
        simp [shownDecimal, Decimal.value]
      rw [zero, value]
      exact roundsTo_zero
  | inr positive =>
      obtain ⟨-, -, value, -⟩ := shownDecimal_spec positive finite
      rw [value]
      exact (shortest_spec .even positive finite).2.2.2

/-- The reader of plans scales the digits of a finite double to a finite double. -/
theorem scaleByTen?_shownDecimal (finite : rank < Format.binary64.infinity) :
    scaleByTen? 4 (Format.binary64.rank (shownDecimal rank).digits 1) (shownDecimal rank).exponent =
        some (rereadRank (shownDecimal rank)) ∧
      rereadRank (shownDecimal rank) < Format.binary64.infinity := by
  cases Nat.eq_zero_or_pos rank with
  | inl zero =>
      rw [zero, show shownDecimal 0 = ⟨0, -1⟩ from rfl]
      decide
  | inr positive =>
      obtain ⟨digits, few, value, low⟩ := shownDecimal_spec positive finite
      refine scaleByTen?_decimal digits few ?_ low
      rw [value]
      exact shortest_lt_greatest positive finite

/-- The text of a finite double spells the decimal that is shown of it. -/
theorem spells_floatText (negative : Bool) {rank : Rank}
    (finite : rank.val < Format.binary64.infinity) :
    Spells (floatText (.signed negative rank)) negative (shownDecimal rank) := by
  have noInfinity : ¬ rank.val = Format.binary64.infinity := finite.ne
  simp only [floatText, Double.exponential?, if_neg noInfinity, String.toList_ofList]
  by_cases zero : rank.val = 0
  · have spelled := spells_belowOne negative isDigit_of_mem_zero (by decide)
    rw [if_pos zero, shownDecimal, if_pos zero]
    exact spelled
  · obtain ⟨digits, -⟩ := shortest_spec .even (Nat.pos_of_ne_zero zero) finite
    have counted := length_digitChars_pos (shortest .even rank)
    rw [if_neg zero, shownDecimal, if_neg zero]
    simp only [← String.length_toList, toList_toString_digits]
    by_cases far :
        ((digitChars (shortest .even rank)).length : Int) +
            (shortest .even rank).exponent < -4 ∨
          16 < ((digitChars (shortest .even rank)).length : Int) +
            (shortest .even rank).exponent
    · rw [if_pos far, if_neg (by omega)]
      exact spells_scientific negative digits
    · by_cases natural : 0 ≤ (shortest .even rank).exponent
      · rw [if_neg far, if_pos natural, if_pos (by omega)]
        exact spells_natural negative digits natural
      · rw [if_neg far, if_neg natural, if_neg (by omega)]
        exact spells_plain negative digits (by omega)

variable {negative : Bool} {text : List Char} {d : Decimal}

theorem Spells.readsAs (spelled : Spells text negative d) : ReadsAs text (.number text) := by
  obtain ⟨literal, power, rfl, -⟩ := spelled
  exact literal.readsAs_append power

/-- What spells a decimal is read as a float, and never as a whole number. -/
theorem Spells.numberValue? (spelled : Spells text negative d) (few : d.digits ≤ maxSignificand) :
    numberValue? text = (scaleByTen? 4 (Format.binary64.rank d.digits 1) d.exponent).map
      fun rank => .float (.ofRank negative rank) := by
  obtain ⟨literal, power, rfl, rfl, digits, exponent, float⟩ := spelled
  rw [← digits] at few ⊢
  rw [literal.numberValue?_append float few, exponent]

theorem numberValue?_floatText (negative : Bool) {rank : Rank}
    (finite : rank.val < Format.binary64.infinity) :
    numberValue? (floatText (.signed negative rank)) =
      some (.float (.ofRank negative (rereadRank (shownDecimal rank)))) := by
  have few : (shownDecimal rank).digits ≤ maxSignificand := by
    cases Nat.eq_zero_or_pos rank.val with
    | inl zero =>
        rw [zero]
        decide
    | inr positive => exact (shownDecimal_spec positive finite).2.1.trans (by decide)
  rw [(spells_floatText negative finite).numberValue? few, (scaleByTen?_shownDecimal finite).1]
  rfl

end Doubles

end DatasetGate.Json
