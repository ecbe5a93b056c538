import DatasetGate.Number.Notation
import DatasetGate.Proofs.Number.Shortest

/-!
# Numerals are rounded once

A numeral is read as the double nearest to its exact value, also where its size decides without a
computation: what lies above every double is infinite, and what lies far enough below them is zero.
-/

set_option autoImplicit false

namespace DatasetGate.Number

theorem length_toString_bounds {digits : Nat} (positive : 0 < digits) :
    (10 : ℚ) ^ (((toString digits).length : Int) - 1) ≤ digits ∧
      (digits : ℚ) < 10 ^ ((toString digits).length : Int) := by
  have length : (toString digits).length = (Nat.toDigits 10 digits).length := by
    rw [Nat.toString_eq_repr, ← String.length_toList, Nat.toList_repr]
  have some : 0 < (Nat.toDigits 10 digits).length := List.length_pos_of_ne_nil Nat.toDigits_ne_nil
  rw [length]
  generalize counted : (Nat.toDigits 10 digits).length = count at *
  constructor
  · obtain ⟨before, rfl⟩ : ∃ before, count = before + 1 := ⟨count - 1, by omega⟩
    rw [Nat.cast_succ, add_sub_cancel_right, zpow_natCast]
    rcases Nat.eq_zero_or_pos before with rfl | long
    · exact_mod_cast positive
    · have high : 10 ^ before ≤ digits := by
        rw [← Nat.not_lt, ← Nat.length_toDigits_le_iff (by decide) long]
        omega
      exact_mod_cast high
  · rw [zpow_natCast]
    exact_mod_cast (Nat.length_toDigits_le_iff (by decide) some).mp counted.le

section Extremes

variable {num den power : Nat}

theorem rank_of_large (infinite : Format.binary64.rank (10 ^ power) 1 =
      Format.binary64.infinity) (positive : 0 < den) (large : (10 : ℚ) ^ (power : Int) ≤ num / den) :
    Format.binary64.infinity ≤ Format.binary64.rank num den := by
  rw [← infinite]
  apply Format.rank_mono _ Nat.one_pos positive
  rwa [Nat.cast_pow, Nat.cast_ofNat, Nat.cast_one, div_one, ← zpow_natCast]

theorem rank_of_small (zero : Format.binary64.rank 1 (10 ^ power) = 0)
    (positive : 0 < den) (small : (num : ℚ) / den ≤ 10 ^ (-(power : Int))) :
    Format.binary64.rank num den = 0 := by
  rw [← Nat.le_zero, ← zero]
  apply Format.rank_mono _ positive (Nat.pow_pos (by decide))
  rwa [Nat.cast_one, one_div, Nat.cast_pow, Nat.cast_ofNat, ← zpow_natCast, ← zpow_neg]

end Extremes

/-- A numeral is read as the double nearest to its value, however that is written as a quotient. -/
theorem Numeral.toDouble_eq {numeral : Numeral} {num den : Nat} (positive : 0 < den)
    (value : (num : ℚ) / den = numeral.digits * 10 ^ numeral.exponent) :
    numeral.toDouble = .ofQuotient numeral.negative num den := by
  rcases Nat.eq_zero_or_pos numeral.digits with zero | some
  · have none : num = 0 := by
      rw [zero, Nat.cast_zero, zero_mul, div_eq_zero_iff] at value
      rcases value with num | den
      · exact_mod_cast num
      · exact absurd (by exact_mod_cast den) positive.ne'
    rw [toDouble, if_pos zero, none, Double.ofQuotient, Format.rank, if_pos rfl]
  obtain ⟨low, high⟩ := length_toString_bounds some
  have unit : (0 : ℚ) < 10 ^ numeral.exponent := by positivity
  have scaledLow := mul_le_mul_of_nonneg_right low unit.le
  have scaledHigh := mul_lt_mul_of_pos_right high unit
  rw [← zpow_add₀ (by norm_num), ← value] at scaledLow scaledHigh
  simp only [toDouble, if_neg some.ne']
  split_ifs with large small
  · have infinite : Format.binary64.infinity ≤ Format.binary64.rank num den := by
      apply rank_of_large (by decide +kernel : Format.binary64.rank (10 ^ 310) 1 = _) positive
      refine le_trans (zpow_le_zpow_right₀ (by norm_num) ?_) scaledLow
      omega
    simp [Double.infinite, Double.ofQuotient, Double.ofRank, infinite]
  · have none : Format.binary64.rank num den = 0 := by
      apply rank_of_small (by decide +kernel : Format.binary64.rank 1 (10 ^ 331) = 0) positive
      refine scaledHigh.le.trans (zpow_le_zpow_right₀ (by norm_num) ?_)
      omega
    rw [Double.ofQuotient, none]
  · rw [Double.ofQuotient, Double.ofQuotient]
    congr 1
    apply Format.rank_congr (decimalScale_den_pos Nat.one_pos _ _) positive
    rw [decimalScale_quotient, value, zpow_neg, Nat.cast_one, div_one, div_inv_eq_mul]

end DatasetGate.Number
