import DatasetGate.Json.Number
import Mathlib

/-!
# Rounding to a format

The number of a format nearest to a quotient depends on the quotient alone, not on how it is
written. Small powers of ten are numbers of double precision, and the quotient of two such numbers is
rounded once.
-/

set_option autoImplicit false

namespace DatasetGate.Number

theorem divRoundEven_mul_right {c : Nat} (positive : 0 < c) (num den : Nat) :
    divRoundEven (num * c) (den * c) = divRoundEven num den := by
  have twice : 2 * (num % den * c) = 2 * (num % den) * c := by ring
  simp only [divRoundEven, Nat.mul_div_mul_right _ _ positive, Nat.mul_mod_mul_right, twice,
    Nat.mul_lt_mul_right positive]

theorem scaleDown_mul_right (num den c : Nat) (shift : Int) :
    scaleDown (num * c) (den * c) shift =
      ((scaleDown num den shift).1 * c, (scaleDown num den shift).2 * c) := by
  unfold scaleDown
  split
  · simp [Nat.mul_right_comm]
  · simp [Nat.mul_right_comm]

theorem scaleDown_den_pos {den : Nat} (positive : 0 < den) (num : Nat) (shift : Int) :
    0 < (scaleDown num den shift).2 := by
  unfold scaleDown
  split
  · exact Nat.mul_pos positive (Nat.pow_pos (by decide))
  · exact positive

/-- Scaled down, a quotient is compared with what is scaled up. -/
theorem scaleDown_lt_iff {num den : Nat} (positive : 0 < den) (shift : Int) (bound : Nat) :
    (scaleDown num den shift).1 < (scaleDown num den shift).2 * bound ↔
      (num : ℚ) / den < bound * 2 ^ shift := by
  have denominator : (0 : ℚ) < den := by exact_mod_cast positive
  rw [div_lt_iff₀ denominator]
  unfold scaleDown
  split
  · rename_i natural
    obtain ⟨count, rfl⟩ := Int.eq_ofNat_of_zero_le natural
    rw [← @Nat.cast_lt ℚ]
    push_cast [Nat.pow_eq]
    rw [Int.toNat_natCast, zpow_natCast]
    constructor <;> intro less <;> linarith
  · rename_i negative
    obtain ⟨count, shown⟩ : ∃ count : Nat, shift = -(count : Int) :=
      ⟨(-shift).toNat, by omega⟩
    subst shown
    have power : (0 : ℚ) < 2 ^ count := by positivity
    rw [← @Nat.cast_lt ℚ, neg_neg, Int.toNat_natCast, zpow_neg, zpow_natCast]
    push_cast [Nat.pow_eq]
    rw [← div_eq_mul_inv, div_mul_eq_mul_div, lt_div_iff₀ power]
    constructor <;> intro less <;> linarith

/-- The binary logarithm of a quotient is that of its ends, or one less. -/
theorem log_quotient_bounds {num den : Nat} (numPositive : 0 < num) (denPositive : 0 < den) :
    (num.log2 : Int) - den.log2 - 1 ≤ Int.log 2 ((num : ℚ) / den) ∧
      Int.log 2 ((num : ℚ) / den) ≤ (num.log2 : Int) - den.log2 := by
  have positive : (0 : ℚ) < (num : ℚ) / den := by positivity
  have low (n : Nat) (nonzero : 0 < n) : (2 : ℚ) ^ (n.log2 : Int) ≤ n := by
    rw [zpow_natCast]
    exact_mod_cast Nat.log2_self_le nonzero.ne'
  have high (n : Nat) : (n : ℚ) < (2 : ℚ) ^ ((n.log2 : Int) + 1) := by
    rw [← Nat.cast_add_one, zpow_natCast]
    exact_mod_cast Nat.lt_log2_self
  constructor
  · rw [← Int.zpow_le_iff_le_log Nat.one_lt_two positive, sub_sub]
    push_cast
    rw [zpow_sub₀ two_ne_zero]
    exact div_le_div₀ (by positivity) (low num numPositive) (by positivity) (high den).le
  · rw [← Int.lt_add_one_iff, ← Int.lt_zpow_iff_log_lt Nat.one_lt_two positive,
      show (num.log2 : Int) - den.log2 + 1 = num.log2 + 1 - den.log2 by ring]
    push_cast
    rw [zpow_sub₀ two_ne_zero]
    exact div_lt_div₀ (high num) (low den denPositive) (by positivity) (by positivity)

/-- The exponent at which a quotient has a significand of full length, from its binary logarithm. -/
theorem exponentOf_eq_log (format : Format) {num den : Nat} (numPositive : 0 < num)
    (denPositive : 0 < den) :
    format.exponentOf num den =
      max format.minExponent (Int.log 2 ((num : ℚ) / den) - format.fractionBits) := by
  have positive : (0 : ℚ) < (num : ℚ) / den := by positivity
  obtain ⟨low, high⟩ := log_quotient_bounds numPositive denPositive
  have full : (scaleDown num den (num.log2 - den.log2 - format.fractionBits)).1 <
      (scaleDown num den (num.log2 - den.log2 - format.fractionBits)).2 *
        Nat.pow 2 format.fractionBits ↔
      Int.log 2 ((num : ℚ) / den) < (num.log2 : Int) - den.log2 := by
    rw [scaleDown_lt_iff denPositive, ← Int.lt_zpow_iff_log_lt Nat.one_lt_two positive]
    push_cast [Nat.pow_eq]
    rw [← zpow_natCast, ← zpow_add₀ two_ne_zero]
    norm_num
  unfold Format.exponentOf
  simp only [full]
  congr 1
  split <;> omega

/-- Rounding depends on the quotient alone. -/
theorem Format.rank_mul_right (format : Format) {den c : Nat} (denPositive : 0 < den)
    (positive : 0 < c) (num : Nat) : format.rank (num * c) (den * c) = format.rank num den := by
  rcases Nat.eq_zero_or_pos num with rfl | numPositive
  · simp [rank]
  · have same : format.exponentOf (num * c) (den * c) = format.exponentOf num den := by
      have factor : (c : ℚ) ≠ 0 := by positivity
      rw [exponentOf_eq_log format (Nat.mul_pos numPositive positive)
          (Nat.mul_pos denPositive positive),
        exponentOf_eq_log format numPositive denPositive, Nat.cast_mul, Nat.cast_mul,
        mul_div_mul_right _ _ factor]
    simp only [rank, same, scaleDown_mul_right, divRoundEven_mul_right positive,
      (Nat.mul_pos numPositive positive).ne', numPositive.ne', if_false]

/-- The exact value of a finite rank, as a quotient. -/
def Format.quotient (format : Format) (rank : Nat) : Nat × Nat :=
  scaleDown (format.significand rank) 1 (-format.exponent rank)

/-- The value of a rank is this whole number. -/
def Format.Represents (format : Format) (rank n : Nat) : Prop :=
  (format.quotient rank).1 = n * (format.quotient rank).2

instance (format : Format) (rank n : Nat) : Decidable (format.Represents rank n) :=
  inferInstanceAs (Decidable (_ = _))

/-- The quotient of two whole numbers that the format has is rounded once. -/
theorem rankQuotient_eq_rank {a b num den : Nat} (first : Format.binary64.Represents a num)
    (second : Format.binary64.Represents b den) (positive : 0 < den) :
    Json.rankQuotient a b = Format.binary64.rank num den := by
  have common : 0 < (Format.binary64.quotient a).2 * (Format.binary64.quotient b).2 :=
    Nat.mul_pos (scaleDown_den_pos Nat.one_pos _ _) (scaleDown_den_pos Nat.one_pos _ _)
  have rounded : Json.rankQuotient a b = Format.binary64.rank
      ((Format.binary64.quotient a).1 * (Format.binary64.quotient b).2)
      ((Format.binary64.quotient a).2 * (Format.binary64.quotient b).1) := rfl
  rw [rounded, first, second, ← Format.binary64.rank_mul_right positive common]
  congr 1 <;> ring

theorem represents_powerOfTenRank {power : Nat} (small : power ≤ 22) :
    Format.binary64.Represents (Json.powerOfTenRank power) (10 ^ power) := by
  have all : ∀ power < 23, Format.binary64.Represents (Json.powerOfTenRank power) (10 ^ power) := by
    decide +kernel
  exact all power (by omega)

end DatasetGate.Number
