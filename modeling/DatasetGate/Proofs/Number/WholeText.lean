import DatasetGate.Number.Notation
import DatasetGate.Proofs.Number.Shortest
import DatasetGate.Proofs.Text.Digits

/-!
# The text of whole doubles

A double that is a whole number below `2 ^ 53` is shown as the number itself. Its shortest decimal
stands on a grid of whole numbers, since the search meets the number there at the latest, and no
other whole number is rounded to the double.
-/

set_option autoImplicit false

namespace DatasetGate.Number

open DatasetGate.Text

variable {n : Nat}

theorem value_rank (small : n < 2 ^ 53) :
    Format.binary64.value (Format.binary64.rank n 1) = n :=
  Format.represents_iff_value.mp (represents_rank small)

theorem rank_lt_infinity (small : n < 2 ^ 53) :
    Format.binary64.rank n 1 < Format.binary64.infinity := by
  apply Format.lt_infinity_of_value_lt
  rw [value_rank small]
  have cast : (n : ℚ) < 2 ^ 53 := by exact_mod_cast small
  exact cast.trans (pow_lt_pow_right₀ one_lt_two (by decide))

/-- No other whole number is rounded to the double of a number below `2 ^ 53`. -/
theorem eq_of_rank_eq (small : n < 2 ^ 53) {m : Nat}
    (same : Format.binary64.rank m 1 = Format.binary64.rank n 1) : m = n := by
  have value := value_rank small
  rcases lt_or_ge m (2 ^ 53) with below | beyond
  · have own := value_rank below
    rw [same, value] at own
    exact_mod_cast own.symm
  · -- The double of `2 ^ 53` is exact and lies between the two.
    obtain ⟨rank, finite, power⟩ := Format.exists_value_natCast (le_refl (2 ^ 53))
    have quotient : ((2 ^ 53 : Nat) : ℚ) / (1 : Nat) = Format.binary64.value rank := by
      rw [power, Nat.cast_one, div_one]
    have least := Format.rank_of_value Format.binary64 Nat.one_pos quotient
    rw [min_eq_right finite.le] at least
    have ordered : rank ≤ Format.binary64.rank m 1 := by
      rw [← least]
      apply Format.rank_mono _ Nat.one_pos Nat.one_pos
      gcongr
    have values := Format.binary64.value_strictMono.monotone ordered
    rw [same, value, power] at values
    have reached : 2 ^ 53 ≤ n := by exact_mod_cast values
    omega

section Shortest

variable (positive : 0 < n) (small : n < 2 ^ 53)

include positive small

theorem rank_pos : 0 < Format.binary64.rank n 1 := by
  have value := value_rank small
  rcases Nat.eq_zero_or_pos (Format.binary64.rank n 1) with zero | some
  · rw [zero, Format.value_zero] at value
    have none : 0 = n := by exact_mod_cast value
    omega
  · exact some

/-- The grid of whole numbers holds the number itself. -/
theorem gridHit?_whole (tie : Tie) :
    gridHit? tie (roundingInterval (Format.binary64.rank n 1)) 0 ≠ none := by
  have some := rank_pos positive small
  obtain ⟨-, middle, -⟩ := roundingInterval_ends some
  have denPositive := roundingInterval_den_pos (Format.binary64.rank n 1)
  have scaled := decimalScale_quotient (roundingInterval (Format.binary64.rank n 1)).value
    (roundingInterval (Format.binary64.rank n 1)).den 0
  have scaledPositive := decimalScale_den_pos denPositive
    (roundingInterval (Format.binary64.rank n 1)).value 0
  rw [middle, value_rank small, zpow_zero, div_one,
    div_eq_iff (by exact_mod_cast scaledPositive.ne')] at scaled
  have below : (decimalScale (roundingInterval (Format.binary64.rank n 1)).value
      (roundingInterval (Format.binary64.rank n 1)).den 0).1 /
      (decimalScale (roundingInterval (Format.binary64.rank n 1)).value
        (roundingInterval (Format.binary64.rank n 1)).den 0).2 = n := by
    apply Nat.div_eq_of_eq_mul_left scaledPositive
    exact_mod_cast scaled
  apply gridHit?_ne_none
  rw [below]
  refine .inl ⟨positive, ?_⟩
  obtain ⟨num, den, positive', quotient, same⟩ :=
    @holdsDecimal_eq (roundingInterval (Format.binary64.rank n 1)) n 0
  rw [same]
  apply holds_of_close some positive'
  rw [quotient, value_rank small, zpow_zero, mul_one, sub_self, abs_zero]
  have cast : (0 : ℚ) < n := by exact_mod_cast positive
  positivity

/-- The search for a shortest decimal of a whole number does not go behind the point. -/
theorem shortest_exponent_nonneg (tie : Tie) :
    0 ≤ (shortest tie (Format.binary64.rank n 1)).exponent := by
  have some := rank_pos positive small
  have finite := rank_lt_infinity small
  obtain ⟨-, middle, -⟩ := roundingInterval_ends some
  have denPositive := roundingInterval_den_pos (Format.binary64.rank n 1)
  have least := value_one_le some
  have greatest := value_lt finite
  have hit := gridHit?_whole positive small tie
  rw [← middle] at least greatest
  obtain ⟨low, high⟩ := decimalPoint_spec denPositive least greatest
  rw [middle, value_rank small] at low high
  unfold shortest
  dsimp only
  generalize decimalPoint (roundingInterval (Format.binary64.rank n 1)).value
    (roundingInterval (Format.binary64.rank n 1)).den = point at *
  have one : (1 : ℚ) ≤ n := by exact_mod_cast positive
  have behind : 0 < point := by
    rw [← zpow_lt_zpow_iff_right₀ (show (1 : ℚ) < 10 by norm_num), zpow_zero]
    exact one.trans_lt high
  have before : point - 1 < 16 := by
    rw [← zpow_lt_zpow_iff_right₀ (show (1 : ℚ) < 10 by norm_num)]
    have cast : (n : ℚ) < 2 ^ 53 := by exact_mod_cast small
    exact low.trans_lt (cast.trans (by norm_num))
  obtain ⟨last, rfl⟩ := Int.eq_ofNat_of_zero_le behind.le
  rw [← sub_self (last : Int)] at hit
  obtain ⟨d, k, found, short, exponent, own⟩ :=
    firstHit?_eq_some (show 1 ≤ last by omega) (show last < 1 + gridCount by
      rw [gridCount]
      omega) hit
  obtain ⟨-, hitPositive, -⟩ := gridHit?_eq_some own
  obtain ⟨-, -, -, later⟩ := withoutTrailingZeros_spec gridCount hitPositive
  rw [found, Option.getD_some]
  omega

/-- The shortest decimal of a whole number is that number, without the zeros at its end. -/
theorem shortest_whole (tie : Tie) :
    (shortest tie (Format.binary64.rank n 1)).digits *
        10 ^ (shortest tie (Format.binary64.rank n 1)).exponent.toNat = n ∧
      0 < (shortest tie (Format.binary64.rank n 1)).digits := by
  obtain ⟨digits, -, -, rounds⟩ :=
    shortest_spec tie (rank_pos positive small) (rank_lt_infinity small)
  have natural := shortest_exponent_nonneg positive small tie
  refine ⟨eq_of_rank_eq small (rounds _ 1 Nat.one_pos ?_), digits⟩
  obtain ⟨power, exponent⟩ := Int.eq_ofNat_of_zero_le natural
  rw [Decimal.value, exponent, Int.toNat_natCast, zpow_natCast]
  push_cast
  rw [div_one]

theorem plain_shortest (tie : Tie) :
    (shortest tie (Format.binary64.rank n 1)).plain = Nat.toDigits 10 n := by
  obtain ⟨value, digits⟩ := shortest_whole positive small tie
  rw [Decimal.plain]
  simp only [shortest_exponent_nonneg positive small tie, if_true]
  rw [Nat.toString_eq_repr, Nat.toList_repr, zeros, ← toDigits_mul_pow digits, value]

end Shortest

namespace Double

/-- A text of digits with or without a sign has no point to cut zeros before. -/
theorem compact_of_plain {x : Double} {n : Int} (shown : x.plain.toList = (toString n).toList) :
    x.compact = toString n := by
  have noPoint : (toString n).toList.contains '.' = false := by
    rw [List.contains_eq_mem, decide_eq_false_iff_not]
    intro point
    have notDigit : '.' ∉ Nat.toDigits 10 n.natAbs := fun member =>
      absurd (isDigit_of_mem_toDigits member) (by decide)
    rw [toList_toString_int] at point
    split at point
    · rcases List.mem_cons.mp point with minus | member
      · revert minus
        decide
      · exact notDigit member
    · exact notDigit point
  rw [compact, shown]
  simp only [noPoint, Bool.false_eq_true, if_false]
  exact String.ofList_toList

/-- A whole number below `2 ^ 53` is shown alike as an integer and as a double. -/
theorem compact_ofInt {n : Int} (small : n.natAbs < 2 ^ 53) :
    (ofInt n).compact = toString n := by
  apply compact_of_plain
  rcases Nat.eq_zero_or_pos n.natAbs with zero | positive
  · obtain rfl : n = 0 := by omega
    decide
  · have some := rank_pos positive small
    have finite := rank_lt_infinity small
    rw [ofInt, ofQuotient, ofRank, plain, toList_toString_int]
    simp only [min_eq_left finite.le, some.ne', finite.ne, if_false,
      plain_shortest positive small, String.toList_ofList]
    rcases lt_or_ge n 0 with negative | natural
    · rw [decide_eq_true negative, if_pos negative]
      rfl
    · rw [decide_eq_false natural.not_gt, if_neg natural.not_gt]
      rfl

end Double
end DatasetGate.Number
