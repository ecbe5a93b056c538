import DatasetGate.Proofs.Dataset.NumberColumn
import DatasetGate.Proofs.Json.FloatText

/-!
# Doubles written without an exponent

The plain text of a finite double is a number literal of a decimal that rounds to the double. The
fraction of the literal ends in no zero, so trimming takes nothing away, and the text is read as the
double it was made of.
-/

set_option autoImplicit false

namespace DatasetGate

open DatasetGate.Text DatasetGate.Number
open DatasetGate.Json (digitChars pointed pointed_unsigned belowOne signText_append)

namespace NumberLiteral

variable (literal : NumberLiteral)

/-- The exact value of a literal, its sign apart. -/
def magnitude : ℚ :=
  literal.digits / 10 ^ literal.places

/-- A literal is the plain text of a decimal. Its fraction ends in a zero only if the digits of the
decimal do. -/
structure Shows (negative : Bool) (d : Decimal) : Prop where
  sign : literal.negative = negative
  text : literal.chars = Double.signText negative ++ d.plain
  value : literal.magnitude = d.value
  ends : d.digits % 10 ≠ 0 → literal.fraction.getLast? ≠ some '0'

end NumberLiteral

section Decimals

variable {d : Decimal} (negative : Bool)

theorem getLast?_digitChars (significant : d.digits % 10 ≠ 0) :
    (digitChars d).getLast? ≠ some '0' := by
  intro zero
  obtain ⟨tens, shown⟩ := List.getLast?_eq_some_iff.mp zero
  have value := Json.ofDigitChars_digitChars d
  rw [shown, Nat.ofDigitChars_append, Nat.ofDigitChars_cons, Nat.ofDigitChars_nil] at value
  have last : '0'.toNat - '0'.toNat = 0 := rfl
  omega

theorem shows_natural (positive : 0 < d.digits) (natural : 0 ≤ d.exponent) :
    ∃ literal : NumberLiteral, literal.Shows negative d := by
  let whole : Decimal := ⟨d.digits * 10 ^ d.exponent.toNat, 0⟩
  have grown : 0 < whole.digits := Nat.mul_pos positive (Nat.pow_pos (by decide))
  have counted := Json.length_digitChars_pos whole
  have shown : digitChars whole = digitChars d ++ zeros d.exponent.toNat :=
    toDigits_mul_pow positive _
  let literal := pointed negative grown counted
  have integral : literal.fraction = [] := List.drop_length
  have digits : literal.digits = whole.digits := by
    rw [literal.digits_of_nil integral, show literal.whole = digitChars whole from List.take_length,
      Json.ofDigitChars_digitChars]
  refine ⟨literal, rfl, ?_, ?_, ?_⟩
  · rw [← signText_append, pointed_unsigned, if_pos le_rfl, List.append_nil, List.take_length, shown,
      Decimal.plain, if_pos natural, Json.toList_toString_digits]
    rfl
  · rw [NumberLiteral.magnitude, digits, NumberLiteral.places, integral, Decimal.value]
    obtain ⟨power, exponent⟩ := Int.eq_ofNat_of_zero_le natural
    simp [whole, exponent]
  · rw [integral]
    exact fun _ => by simp

theorem shows_fractional (positive : 0 < d.digits) (fractional : d.exponent < 0) :
    ∃ literal : NumberLiteral, literal.Shows negative d := by
  obtain ⟨literal, shown⟩ := Json.exists_plainLiteral negative positive fractional
  refine ⟨literal, shown.sign, shown.text, ?_, fun significant => ?_⟩
  · have places := shown.places
    rw [NumberLiteral.magnitude, shown.digits, Decimal.value, ← neg_neg d.exponent, ← places, zpow_neg,
      zpow_natCast, div_eq_mul_inv]
  · rw [shown.last]
    exact getLast?_digitChars significant

theorem exists_shows (positive : 0 < d.digits) :
    ∃ literal : NumberLiteral, literal.Shows negative d := by
  rcases le_or_gt 0 d.exponent with natural | fractional
  · exact shows_natural negative positive natural
  · exact shows_fractional negative positive fractional

end Decimals

/-- A text of a number without superfluous characters: it has no exponent, does not end in the point,
and has no zero at the end of a fraction. -/
structure Tidy (text : List Char) : Prop where
  noExponent : 'e' ∉ text ∧ 'E' ∉ text
  noPoint : text.getLast? ≠ some '.'
  noZero : '.' ∈ text → text.getLast? ≠ some '0'

instance (text : List Char) : Decidable (Tidy text) :=
  decidable_of_iff (('e' ∉ text ∧ 'E' ∉ text) ∧ text.getLast? ≠ some '.' ∧
      ('.' ∈ text → text.getLast? ≠ some '0'))
    ⟨fun ⟨noExponent, noPoint, noZero⟩ => ⟨noExponent, noPoint, noZero⟩,
      fun ⟨noExponent, noPoint, noZero⟩ => ⟨noExponent, noPoint, noZero⟩⟩

namespace NumberLiteral

variable {literal : NumberLiteral}

theorem getLast?_chars :
    literal.chars.getLast? =
      if literal.fraction = [] then literal.whole.getLast? else literal.fraction.getLast? := by
  obtain ⟨c, rest, shape, -⟩ := literal.exists_unsigned_cons
  have unsigned : literal.chars.getLast? = literal.unsigned.getLast? := by
    rw [chars]
    split
    · rw [shape, List.getLast?_cons_cons]
    · rfl
  rw [unsigned]
  split
  · rename_i integral
    rw [literal.unsigned_of_nil integral]
  · rename_i fractional
    rw [literal.unsigned_of_ne_nil fractional, List.getLast?_append_of_ne_nil _ (by simp),
      List.getLast?_cons, List.getLast?_eq_some_getLast fractional, Option.getD_some]

theorem point_mem_chars (member : '.' ∈ literal.chars) : literal.fraction ≠ [] := by
  intro integral
  have digit : '.' ∉ literal.whole := fun listed => absurd (literal.wholeDigits '.' listed) (by decide)
  rw [chars, literal.unsigned_of_nil integral] at member
  split at member
  · exact digit ((List.mem_cons.mp member).resolve_left (by decide))
  · exact digit member

/-- A literal whose fraction ends in no zero has nothing superfluous. -/
theorem tidy_chars (ends : literal.fraction.getLast? ≠ some '0') : Tidy literal.chars where
  noExponent :=
    ⟨fun member => absurd (literal.chars_cases member) (by decide),
      fun member => absurd (literal.chars_cases member) (by decide)⟩
  noPoint := by
    intro point
    rw [getLast?_chars] at point
    split at point
    · exact absurd (literal.wholeDigits '.' (List.mem_of_getLast? point)) (by decide)
    · exact absurd (literal.fractionDigits '.' (List.mem_of_getLast? point)) (by decide)
  noZero := by
    intro member
    rwa [getLast?_chars, if_neg (point_mem_chars member)]

theorem trim_chars (literal : NumberLiteral) : trim literal.chars = literal.chars := by
  have full (c : Char) (member : c ∈ literal.chars) : isBlank c = false := by
    rcases literal.chars_cases member with digit | rfl | rfl
    · exact isBlank_of_isDigit digit
    · decide
    · decide
  exact trim_eq_self (fun c first => full c (List.mem_of_head? first))
    (fun c last => full c (List.mem_of_getLast? last))

theorem readDouble?_of_roundsTo {rank : Rank} (rounds : RoundsTo literal.magnitude rank.val) :
    readDouble? literal.chars = some (.signed literal.negative rank) := by
  have nearest : Format.binary64.rank literal.digits (10 ^ literal.places) = rank.val := by
    apply rounds _ _ (Nat.pow_pos (by decide))
    rw [magnitude, Nat.cast_pow, Nat.cast_ofNat]
  have least : min rank.val Format.binary64.infinity = rank.val := min_eq_left rank.property
  rw [literal.readDouble?_chars, literal.toDouble_numeral, Double.ofQuotient, nearest, Double.ofRank]
  simp only [least]

end NumberLiteral

namespace Number.Double

/-- The plain text of a finite double is a literal that rounds to it. -/
theorem exists_literal (negative : Bool) {rank : Rank}
    (finite : rank.val < Format.binary64.infinity) :
    ∃ literal : NumberLiteral, literal.negative = negative ∧
      (signed negative rank).plain.toList = literal.chars ∧
      RoundsTo literal.magnitude rank.val ∧ literal.fraction.getLast? ≠ some '0' := by
  rw [plain, String.toList_ofList]
  rcases Nat.eq_zero_or_pos rank.val with zero | positive
  · let literal := belowOne negative (List.forall_mem_nil (isDigit · = true))
    have nothing : literal.magnitude = 0 := by
      have digits : literal.digits = 0 := rfl
      rw [NumberLiteral.magnitude, digits, Nat.cast_zero, zero_div]
    refine ⟨literal, rfl, ?_, ?_, ?_⟩
    · rw [if_pos zero, ← signText_append]
      rfl
    · rw [nothing, zero]
      exact Json.roundsTo_zero
    · intro last
      cases last
  · obtain ⟨digits, -, -, rounds⟩ := shortest_spec .up positive finite
    obtain ⟨literal, shows⟩ := exists_shows negative digits
    refine ⟨literal, shows.sign, ?_, ?_, shows.ends (shortest_digits_mod .up positive finite)⟩
    · rw [if_neg positive.ne', if_neg finite.ne, shows.text]
    · rw [shows.value]
      exact rounds

theorem tidy_plain (x : Double) : Tidy x.plain.toList := by
  cases x with
  | nan => decide
  | signed negative rank =>
      rcases rank.property.lt_or_eq with finite | infinite
      · obtain ⟨literal, -, text, -, ends⟩ := exists_literal negative finite
        rw [text]
        exact literal.tidy_chars ends
      · obtain rfl : rank = ⟨Format.binary64.infinity, le_rfl⟩ := Subtype.ext infinite
        cases negative <;> decide +kernel

theorem dropWhile_reverse_eq {text : List Char} {mark : Char} (ends : text.getLast? ≠ some mark) :
    text.reverse.dropWhile (· = mark) = text.reverse := by
  rw [← List.head?_reverse] at ends
  cases shape : text.reverse with
  | nil => rfl
  | cons c rest =>
      rw [shape, List.head?_cons] at ends
      apply List.dropWhile_cons_of_neg
      simpa using fun same => ends (congrArg some same)

theorem compact_eq_plain (x : Double) : x.compact = x.plain := by
  have tidy := x.tidy_plain
  rw [compact]
  split
  · rename_i point
    have noZero := tidy.noZero (by simpa using point)
    simp only [dropWhile_reverse_eq noZero, dropWhile_reverse_eq tidy.noPoint, List.reverse_reverse,
      String.ofList_toList]
  · exact String.ofList_toList

theorem parseDouble?_plain (x : Double) : parseDouble? x.plain = some x := by
  cases x with
  | nan => decide
  | signed negative rank =>
      rcases rank.property.lt_or_eq with finite | infinite
      · obtain ⟨literal, sign, text, rounds, -⟩ := exists_literal negative finite
        rw [parseDouble?, text, literal.trim_chars, literal.readDouble?_of_roundsTo rounds, sign]
      · obtain rfl : rank = ⟨Format.binary64.infinity, le_rfl⟩ := Subtype.ext infinite
        cases negative <;> decide +kernel

/-- A double is read back from its text, signs of zeros and numbers that are not finite included. The
text has no exponent and nothing superfluous, and no other double has it. -/
theorem compact_readsBack (x : Double) :
    parseDouble? x.compact = some x ∧ x.compact = x.plain ∧ Tidy x.compact.toList ∧
      ∀ y : Double, (x.compact = y.compact ↔ x = y) ∧
        ((Cell.float x).display = (Cell.float y).display ↔ x = y) := by
  have distinct (y : Double) : x.compact = y.compact ↔ x = y := by
    refine ⟨fun same => ?_, congrArg compact⟩
    rw [compact_eq_plain, compact_eq_plain] at same
    have read := congrArg parseDouble? same
    rwa [parseDouble?_plain, parseDouble?_plain, Option.some_inj] at read
  refine ⟨?_, x.compact_eq_plain, ?_, fun y => ⟨distinct y, distinct y⟩⟩
  · rw [compact_eq_plain, parseDouble?_plain]
  · rw [compact_eq_plain]
    exact x.tidy_plain

example : (ofQuotient true 1 40).compact = "-0.025" := by decide +kernel

end Number.Double

end DatasetGate
