import DatasetGate.Proofs.Number.Shortest

/-!
# Decimals as the reader of plans rounds them

The reader rounds the digits of a decimal and a power of ten, and then their product or quotient; it
divides twice where the power is one that doubles do not have. The shortest decimal of a finite double
never ends beyond the greatest double that way. The result is the double itself if digits and power of
ten are doubles.
-/

set_option autoImplicit false

namespace DatasetGate.Json

open DatasetGate.Number

/-- The rank that the reader of plans gives to a decimal. -/
def rereadRank (d : Decimal) : Nat :=
  let digits := Format.binary64.rank d.digits 1
  if 0 ≤ d.exponent then rankProduct digits (powerOfTenRank d.exponent.natAbs)
  else if d.exponent.natAbs ≤ maxPower then rankQuotient digits (powerOfTenRank d.exponent.natAbs)
  else
    rankQuotient (rankQuotient digits (powerOfTenRank maxPower))
      (powerOfTenRank (d.exponent + maxPower).natAbs)

section Ranks

theorem quotient_den_pos (rank : Nat) : 0 < (Format.binary64.quotient rank).2 :=
  scaleDown_den_pos Nat.one_pos _ _

theorem quotient_value (rank : Nat) :
    ((Format.binary64.quotient rank).1 : ℚ) / (Format.binary64.quotient rank).2 =
      Format.binary64.value rank := by
  rw [Format.quotient, scaleDown_quotient, Nat.cast_one, div_one, zpow_neg, div_inv_eq_mul,
    Format.value]

theorem rankProduct_eq (a b : Nat) : rankProduct a b = Format.binary64.rank
    ((Format.binary64.quotient a).1 * (Format.binary64.quotient b).1)
    ((Format.binary64.quotient a).2 * (Format.binary64.quotient b).2) :=
  rfl

theorem rankQuotient_eq (a b : Nat) : rankQuotient a b = Format.binary64.rank
    ((Format.binary64.quotient a).1 * (Format.binary64.quotient b).2)
    ((Format.binary64.quotient a).2 * (Format.binary64.quotient b).1) :=
  rfl

theorem rankProduct_mono {a a' : Nat} (ordered : a ≤ a') (b : Nat) :
    rankProduct a b ≤ rankProduct a' b := by
  have den (rank : Nat) : 0 < (Format.binary64.quotient rank).2 * (Format.binary64.quotient b).2 :=
    Nat.mul_pos (quotient_den_pos rank) (quotient_den_pos b)
  have product (rank : Nat) : (((Format.binary64.quotient rank).1 *
      (Format.binary64.quotient b).1 : Nat) : ℚ) / ((Format.binary64.quotient rank).2 *
        (Format.binary64.quotient b).2 : Nat) =
      Format.binary64.value rank * Format.binary64.value b := by
    rw [← quotient_value, ← quotient_value, div_mul_div_comm]
    push_cast
    rfl
  have values := Format.binary64.value_strictMono.monotone ordered
  rw [rankProduct_eq, rankProduct_eq]
  apply Format.rank_mono _ (den a) (den a')
  rw [product, product]
  exact mul_le_mul_of_nonneg_right values (Format.binary64.value_nonneg b)

/-- The product of two whole numbers that the format has is rounded once. -/
theorem rankProduct_eq_rank {a b m n : Nat} (first : Format.binary64.Represents a m)
    (second : Format.binary64.Represents b n) :
    rankProduct a b = Format.binary64.rank (m * n) 1 := by
  have common : 0 < (Format.binary64.quotient a).2 * (Format.binary64.quotient b).2 :=
    Nat.mul_pos (quotient_den_pos a) (quotient_den_pos b)
  rw [rankProduct_eq, first, second, ← Format.binary64.rank_mul_right Nat.one_pos common]
  congr 1 <;> ring

/-- Dividing by one or more makes no rank greater. -/
theorem rankQuotient_le {a b : Nat} (finite : a < Format.binary64.infinity)
    (large : 1 ≤ Format.binary64.value b) : rankQuotient a b ≤ a := by
  have divisor : (0 : ℚ) < (Format.binary64.quotient b).1 := by
    have positive : (0 : ℚ) < (Format.binary64.quotient b).1 / (Format.binary64.quotient b).2 := by
      rw [quotient_value]
      exact lt_of_lt_of_le one_pos large
    by_contra zero
    have none : ((Format.binary64.quotient b).1 : ℚ) = 0 :=
      le_antisymm (not_lt.mp zero) (Nat.cast_nonneg _)
    rw [none, zero_div] at positive
    exact lt_irrefl _ positive
  have den : 0 < (Format.binary64.quotient a).2 * (Format.binary64.quotient b).1 :=
    Nat.mul_pos (quotient_den_pos a) (by exact_mod_cast divisor)
  have exactly := Format.rank_of_value Format.binary64 (quotient_den_pos a) (quotient_value a)
  rw [min_eq_right finite.le] at exactly
  have quotient : (((Format.binary64.quotient a).1 * (Format.binary64.quotient b).2 : Nat) : ℚ) /
      ((Format.binary64.quotient a).2 * (Format.binary64.quotient b).1 : Nat) =
      Format.binary64.value a / Format.binary64.value b := by
    rw [← quotient_value, ← quotient_value, div_div_div_eq]
    push_cast
    rfl
  refine le_trans ?_ exactly.le
  rw [rankQuotient_eq]
  apply Format.rank_mono _ den (quotient_den_pos a)
  rw [quotient, quotient_value]
  exact div_le_self (Format.binary64.value_nonneg a) large

theorem one_le_value_powerOfTenRank (power : Nat) :
    1 ≤ Format.binary64.value (powerOfTenRank power) := by
  have one : Format.binary64.value (Format.binary64.rank 1 1) = (1 : Nat) :=
    Format.represents_iff_value.mp (represents_rank (by decide))
  rw [Nat.cast_one] at one
  rw [← one]
  apply Format.binary64.value_strictMono.monotone
  apply Format.rank_mono _ Nat.one_pos Nat.one_pos
  have positive : 1 ≤ 10 ^ power := Nat.one_le_pow _ _ (by decide)
  simpa using (by exact_mod_cast positive : ((1 : Nat) : ℚ) ≤ (10 ^ power : Nat))

end Ranks

section Greatest

/-- The value of the greatest double. -/
def greatest : Nat := 2 ^ 1024 - 2 ^ 971

theorem rank_greatest : Format.binary64.rank greatest 1 = Format.binary64.infinity - 1 := by
  decide +kernel

theorem value_of_natural {d : Decimal} (natural : 0 ≤ d.exponent) :
    d.value = (d.digits * 10 ^ d.exponent.natAbs : Nat) := by
  obtain ⟨count, shown⟩ := Int.eq_ofNat_of_zero_le natural
  rw [Decimal.value, shown, Int.natAbs_natCast, zpow_natCast]
  push_cast
  rfl

theorem value_of_negative {d : Decimal} (negative : ¬ 0 ≤ d.exponent) :
    d.value = d.digits / (10 ^ d.exponent.natAbs : Nat) := by
  obtain ⟨count, shown⟩ := Int.exists_eq_neg_ofNat (Int.not_le.mp negative).le
  rw [Decimal.value, shown, Int.natAbs_neg, Int.natAbs_natCast, zpow_neg, zpow_natCast,
    ← div_eq_mul_inv]
  push_cast
  rfl

theorem exists_quotient (d : Decimal) :
    ∃ num den : Nat, 0 < den ∧ (num : ℚ) / den = d.value := by
  by_cases natural : 0 ≤ d.exponent
  · refine ⟨d.digits * 10 ^ d.exponent.natAbs, 1, Nat.one_pos, ?_⟩
    rw [value_of_natural natural, Nat.cast_one, div_one]
  · exact ⟨d.digits, 10 ^ d.exponent.natAbs, Nat.pow_pos (by decide),
      (value_of_negative natural).symm⟩

/-- A decimal that is rounded to a double before the greatest one lies before that one itself. The
shortest decimal of the greatest double does, too. -/
theorem shortest_lt_greatest {rank : Nat} (positive : 0 < rank)
    (finite : rank < Format.binary64.infinity) : (shortest .even rank).value < greatest := by
  by_cases last : rank = Format.binary64.infinity - 1
  · have found : shortest .even (Format.binary64.infinity - 1) = ⟨17976931348623157, 292⟩ := by
      decide +kernel
    rw [last, found, value_of_natural (by decide), Nat.cast_lt]
    decide +kernel
  · by_contra beyond
    obtain ⟨-, -, -, rounds⟩ := shortest_spec .even positive finite
    obtain ⟨num, den, denPositive, value⟩ := exists_quotient (shortest .even rank)
    have ordered : ((greatest : Nat) : ℚ) / (1 : Nat) ≤ num / den := by
      rw [value, Nat.cast_one, div_one]
      exact not_lt.mp beyond
    have ranks := Format.binary64.rank_mono Nat.one_pos denPositive ordered
    rw [rounds num den denPositive value, rank_greatest] at ranks
    omega

/-- The digits are as many as fit below the greatest double here, for each power of ten, and the
product of the rounded parts is still a finite double. -/
theorem rankProduct_lt_infinity {n power : Nat} (few : n ≤ 10 ^ 17) (small : n * 10 ^ power < greatest)
    (short : power ≤ maxPower) :
    rankProduct (Format.binary64.rank n 1) (powerOfTenRank power) < Format.binary64.infinity := by
  have all : ∀ power < 309,
      rankProduct (Format.binary64.rank (min (10 ^ 17) (greatest / 10 ^ power)) 1)
        (powerOfTenRank power) < Format.binary64.infinity := by
    decide +kernel
  have bound : n ≤ min (10 ^ 17) (greatest / 10 ^ power) :=
    le_min few ((Nat.le_div_iff_mul_le (Nat.pow_pos (by decide))).mpr small.le)
  refine lt_of_le_of_lt ?_ (all power (Nat.lt_succ_of_le short))
  apply rankProduct_mono
  apply Format.rank_mono _ Nat.one_pos Nat.one_pos
  gcongr

end Greatest

section Decimals

variable {d : Decimal}

theorem rank_digits (positive : 0 < d.digits) (few : d.digits ≤ 10 ^ 17) :
    Format.binary64.rank d.digits 1 ≠ 0 ∧
      Format.binary64.rank d.digits 1 < Format.binary64.infinity := by
  have ordered {m n : Nat} (le : m ≤ n) : Format.binary64.rank m 1 ≤ Format.binary64.rank n 1 := by
    apply Format.rank_mono _ Nat.one_pos Nat.one_pos
    gcongr
  have least : 0 < Format.binary64.rank 1 1 := by decide
  have most : Format.binary64.rank (10 ^ 17) 1 < Format.binary64.infinity := by decide +kernel
  exact ⟨(least.trans_le (ordered positive)).ne', (ordered few).trans_lt most⟩

/-- A whole number of digits below the greatest double has a power of ten that is a double. -/
theorem natural_exponent (positive : 0 < d.digits) (small : d.value < greatest)
    (natural : 0 ≤ d.exponent) :
    d.digits * 10 ^ d.exponent.natAbs < greatest ∧ d.exponent.natAbs ≤ maxPower := by
  rw [value_of_natural natural, Nat.cast_lt] at small
  refine ⟨small, ?_⟩
  by_contra long
  have large : 10 ^ 309 ≤ 10 ^ d.exponent.natAbs := by
    apply Nat.pow_le_pow_right (by decide)
    rw [maxPower] at long
    omega
  have beyond : greatest ≤ 10 ^ 309 := by decide +kernel
  have grows := Nat.le_mul_of_pos_left (10 ^ d.exponent.natAbs) positive
  omega

/-- The reader of plans scales a decimal below the greatest double to a finite double. -/
theorem scaleByTen?_decimal (positive : 0 < d.digits) (few : d.digits ≤ 10 ^ 17)
    (small : d.value < greatest) (low : -340 ≤ d.exponent) :
    scaleByTen? 4 (Format.binary64.rank d.digits 1) d.exponent = some (rereadRank d) ∧
      rereadRank d < Format.binary64.infinity := by
  obtain ⟨nonzero, finite⟩ := rank_digits positive few
  have quotient {a power : Nat} (finite : a < Format.binary64.infinity) :
      rankQuotient a (powerOfTenRank power) < Format.binary64.infinity :=
    (rankQuotient_le finite (one_le_value_powerOfTenRank power)).trans_lt finite
  unfold rereadRank
  dsimp only
  by_cases natural : 0 ≤ d.exponent
  · obtain ⟨product, short⟩ := natural_exponent positive small natural
    have below := rankProduct_lt_infinity few product short
    rw [if_pos natural, scaleByTen?, if_pos short, if_pos natural]
    exact ⟨if_neg (Nat.not_le.mpr below), below⟩
  · rw [if_neg natural]
    by_cases short : d.exponent.natAbs ≤ maxPower
    · rw [if_pos short, scaleByTen?, if_pos short, if_neg natural]
      exact ⟨rfl, quotient finite⟩
    · -- Two divisions reach every exponent that a shortest decimal has.
      have most : maxPower = 308 := rfl
      have next : (d.exponent + maxPower).natAbs ≤ maxPower := by omega
      have left : ¬ 0 ≤ d.exponent + maxPower := by omega
      rw [if_neg short, scaleByTen?, if_neg short, if_neg nonzero, if_neg natural, scaleByTen?,
        if_pos next, if_neg left]
      exact ⟨rfl, quotient (quotient finite)⟩

/-- Where digits and power of ten are doubles, the reader rounds once. -/
theorem rereadRank_of_short {rank : Nat} (rounds : RoundsTo d.value rank) (few : d.digits < 2 ^ 53)
    (near : d.exponent.natAbs ≤ 22) : rereadRank d = rank := by
  have digits := represents_rank few
  have power := represents_powerOfTenRank near
  have tens : 0 < 10 ^ d.exponent.natAbs := Nat.pow_pos (by decide)
  have short : d.exponent.natAbs ≤ maxPower := near.trans (by decide)
  unfold rereadRank
  dsimp only
  by_cases natural : 0 ≤ d.exponent
  · rw [if_pos natural, rankProduct_eq_rank digits power]
    apply rounds _ _ Nat.one_pos
    rw [value_of_natural natural, Nat.cast_one, div_one]
  · rw [if_neg natural, if_pos short, rankQuotient_eq_rank digits power tens]
    exact rounds _ _ tens (value_of_negative natural).symm

end Decimals

end DatasetGate.Json
