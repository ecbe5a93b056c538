import DatasetGate.Number.Shortest
import DatasetGate.Proofs.Number.Ranks

/-!
# Numbers nearest to a rank

A number within half a step of the value of a rank is rounded to that rank. Below the first significand
of an exponent the steps are half as long. The rounding interval of a rank is made of these numbers.
-/

set_option autoImplicit false

namespace DatasetGate.Number

namespace Format

variable {format : Format} {steps significand : Nat}

/-- A number in units of a rank's exponent lies within half a step of the significand. The half belongs
to even significands; downwards from a power of two it is a quarter. -/
structure Near (format : Format) (steps significand : Nat) (scaled : ℚ) : Prop where
  below : scaled ≤ significand + 1 / 2
  above : significand - 1 / 2 ≤ scaled
  even : scaled = significand + 1 / 2 ∨ scaled = significand - 1 / 2 → significand % 2 = 0
  narrow : significand = 2 ^ format.fractionBits → 0 < steps → significand - 1 / 4 ≤ scaled

theorem Near.rounds {scaled : ℚ} (near : format.Near steps significand scaled) :
    RoundsWithin scaled significand ∧
      ∀ bound, bound < significand → ¬ RoundsWithin scaled bound := by
  constructor
  · rcases near.below.lt_or_eq with less | half
    · exact .inl less
    · exact .inr ⟨half, near.even (.inl half)⟩
  · intro bound less within
    have next : (bound : ℚ) + 1 ≤ significand := by exact_mod_cast less
    have above := near.above
    rcases within with below | ⟨half, even⟩
    · linarith
    · have tight : (bound : ℚ) + 1 = significand := by linarith
      have parity := near.even (.inr (by linarith))
      have successor : bound + 1 = significand := by exact_mod_cast tight
      omega

/-- Below the first significand of an exponent a number of the exponent before it is rounded up to
that significand, within a quarter of a step. -/
theorem divRoundEven_narrow {num den : Nat} (denPositive : 0 < den) {exponent : Int}
    (small : (num : ℚ) / den / 2 ^ (exponent - 1) < 2 * 2 ^ format.fractionBits)
    (narrow : 2 ^ format.fractionBits - 1 / 4 ≤ (num : ℚ) / den / 2 ^ exponent) :
    divRoundEven (scaleDown num den (exponent - 1)).1 (scaleDown num den (exponent - 1)).2 =
      2 * 2 ^ format.fractionBits := by
  have doubled : (num : ℚ) / den / 2 ^ (exponent - 1) = 2 * ((num : ℚ) / den / 2 ^ exponent) := by
    rw [zpow_sub_one₀ two_ne_zero]
    field_simp
  have unit : 0 < 2 ^ format.fractionBits := by positivity
  apply le_antisymm
  · apply divRoundEven_scaleDown_le denPositive
    push_cast
    exact small.le
  · by_contra less
    obtain ⟨bound, successor⟩ : ∃ bound, bound + 1 = 2 * 2 ^ format.fractionBits :=
      ⟨2 * 2 ^ format.fractionBits - 1, by omega⟩
    have cast : (bound : ℚ) + 1 = 2 * 2 ^ format.fractionBits := by exact_mod_cast successor
    have within := (@divRoundEven_scaleDown_le_iff num den denPositive (exponent - 1) bound).mp
      (by omega)
    rcases within with below | ⟨-, even⟩
    · linarith
    · omega

section Near

variable {num den : Nat} {exponent : Int}

/-- At its own exponent a number near a significand is rounded to it. -/
theorem Near.divRoundEven_eq (denPositive : 0 < den)
    (near : format.Near steps significand ((num : ℚ) / den / 2 ^ exponent)) :
    divRoundEven (scaleDown num den exponent).1 (scaleDown num den exponent).2 = significand := by
  obtain ⟨within, beyond⟩ := near.rounds
  apply le_antisymm
  · exact (divRoundEven_scaleDown_le_iff denPositive exponent _).mpr within
  · by_contra less
    exact beyond _ (Nat.not_le.mp less)
      ((divRoundEven_scaleDown_le_iff denPositive exponent _).mp le_rfl)

/-- Only a power of two has numbers of a lower exponent near it, and only of the exponent before its
own. -/
theorem Near.of_lower_exponent (full : format.Full steps significand) (some : 0 < steps)
    (near : format.Near steps significand ((num : ℚ) / den / 2 ^ exponent)) {found : Int}
    (low : found < exponent) (small : (num : ℚ) / den / 2 ^ found < 2 * 2 ^ format.fractionBits) :
    significand = 2 ^ format.fractionBits ∧ found = exponent - 1 := by
  have unit : (0 : ℚ) < 2 ^ exponent := by positivity
  have fraction : (1 : ℚ) ≤ 2 ^ format.fractionBits := one_le_pow₀ one_le_two
  have long := full.long.resolve_left some.ne'
  have above := near.above
  rw [div_lt_iff₀ (by positivity)] at small
  have upper : (num : ℚ) / den / 2 ^ exponent < 2 ^ format.fractionBits := by
    have step : (2 : ℚ) * 2 ^ found ≤ 2 ^ exponent := by
      rw [← zpow_one_add₀ two_ne_zero]
      exact zpow_le_zpow_right₀ one_le_two (by omega)
    rw [div_lt_iff₀ unit]
    nlinarith
  have power : significand = 2 ^ format.fractionBits := by
    have bound : (significand : ℚ) < 2 ^ format.fractionBits + 1 := by linarith
    have bound' : significand < 2 ^ format.fractionBits + 1 := by exact_mod_cast bound
    omega
  refine ⟨power, ?_⟩
  by_contra apart
  have narrow := near.narrow power some
  have step : (4 : ℚ) * 2 ^ found ≤ 2 ^ exponent := by
    rw [show (4 : ℚ) = 2 ^ (2 : Int) by norm_num, ← zpow_add₀ two_ne_zero]
    exact zpow_le_zpow_right₀ one_le_two (by omega)
  rw [power, Nat.cast_pow, Nat.cast_ofNat, le_div_iff₀ unit] at narrow
  nlinarith

/-- At a higher exponent a number near a significand is too short to be rounded there. -/
theorem Near.lt_of_higher_exponent (short : significand < 2 * 2 ^ format.fractionBits)
    (near : format.Near steps significand ((num : ℚ) / den / 2 ^ exponent)) {found : Int}
    (high : exponent < found) : (num : ℚ) / den / 2 ^ found < 2 ^ format.fractionBits := by
  have unit : (0 : ℚ) < 2 ^ exponent := by positivity
  have below := near.below
  have longest : (significand : ℚ) + 1 ≤ 2 * 2 ^ format.fractionBits := by exact_mod_cast short
  have step : (2 : ℚ) * 2 ^ exponent ≤ 2 ^ found := by
    rw [← zpow_one_add₀ two_ne_zero]
    exact zpow_le_zpow_right₀ one_le_two (by omega)
  rw [div_lt_iff₀ (by positivity)]
  rw [div_le_iff₀ unit] at below
  nlinarith

end Near

/-- A number near a significand is rounded to the rank of that significand. -/
theorem Full.rank_of_near (full : format.Full steps significand)
    (short : significand < 2 * 2 ^ format.fractionBits) (positive : 0 < significand)
    {num den : Nat} (denPositive : 0 < den)
    (near : format.Near steps significand ((num : ℚ) / den / 2 ^ (format.minExponent + steps))) :
    format.rank num den =
      min format.infinity (steps * 2 ^ format.fractionBits + significand) := by
  have numPositive : 0 < num := by
    by_contra none
    have above := near.above
    have one : (1 : ℚ) ≤ significand := by exact_mod_cast positive
    rw [Nat.eq_zero_of_not_pos none, Nat.cast_zero, zero_div, zero_div] at above
    linarith
  obtain ⟨least, small, large⟩ := format.exponentOf_bounds numPositive denPositive
  rw [rank_eq format numPositive]
  congr 1
  push_cast at small large
  generalize format.exponentOf num den = found at *
  rcases lt_trichotomy found (format.minExponent + steps) with low | rfl | high
  · obtain ⟨before, rfl⟩ : ∃ before, steps = before + 1 := ⟨steps - 1, by omega⟩
    obtain ⟨power, rfl⟩ := near.of_lower_exponent full before.succ_pos low small
    have narrow := near.narrow power before.succ_pos
    rw [power, Nat.cast_pow, Nat.cast_ofNat] at narrow
    have steps_eq : (format.minExponent + (before + 1 : Nat) - 1 - format.minExponent).toNat =
        before := by
      omega
    rw [divRoundEven_narrow denPositive small narrow, power, steps_eq]
    ring
  · rw [near.divRoundEven_eq denPositive]
    simp
  · exact absurd (near.lt_of_higher_exponent short high) (not_lt.mpr (large.resolve_left (by omega)))

end Format

section Interval

variable {rank : Nat}

/-- How far below a significand numbers are rounded up to it, in quarters of a step. -/
def quartersBelow (rank : Nat) : Nat :=
  if Format.binary64.significand rank = 2 ^ Format.binary64.fractionBits ∧
    1 < Format.binary64.binade rank then 1 else 2

theorem quotient_scaledUp (n : Nat) (exponent : Int) :
    ((if 0 ≤ exponent then n * Nat.pow 2 exponent.toNat else n : Nat) : ℚ) /
      (if 0 ≤ exponent then 1 else Nat.pow 2 (-exponent).toNat : Nat) = n * 2 ^ exponent := by
  split
  · rename_i natural
    obtain ⟨count, rfl⟩ := Int.eq_ofNat_of_zero_le natural
    rw [Int.toNat_natCast, zpow_natCast, Nat.pow_eq]
    push_cast
    rw [div_one]
  · rename_i negative
    obtain ⟨count, rfl⟩ := Int.exists_eq_neg_ofNat (Int.not_le.mp negative).le
    rw [neg_neg, Int.toNat_natCast, zpow_neg, zpow_natCast, Nat.pow_eq, ← div_eq_mul_inv]
    push_cast
    rfl

theorem roundingInterval_den_pos (rank : Nat) : 0 < (roundingInterval rank).den := by
  simp only [roundingInterval]
  split
  · exact Nat.one_pos
  · exact Nat.pow_pos (by decide)

theorem significand_pos (positive : 0 < rank) : 0 < Format.binary64.significand rank := by
  unfold Format.significand
  split
  · exact positive
  · exact Nat.add_pos_left (Nat.pow_pos (by decide)) _

/-- The ends of the interval and the value between them, a quarter of a step being the unit. -/
theorem roundingInterval_ends (positive : 0 < rank) :
    let interval := roundingInterval rank
    let unit : ℚ := 2 ^ Format.binary64.exponent rank
    (interval.low : ℚ) / interval.den =
        (Format.binary64.significand rank - quartersBelow rank / 4) * unit ∧
      (interval.value : ℚ) / interval.den = Format.binary64.value rank ∧
      (interval.high : ℚ) / interval.den = (Format.binary64.significand rank + 1 / 2) * unit := by
  have quarter : (2 : ℚ) ^ (Format.binary64.exponent rank - 2) =
      2 ^ Format.binary64.exponent rank / 4 := by
    rw [zpow_sub₀ two_ne_zero]
    norm_num
  have least := significand_pos positive
  have quarters : quartersBelow rank ≤ 4 * Format.binary64.significand rank := by
    unfold quartersBelow
    split <;> omega
  have below : (4 * Format.binary64.significand rank -
      if decide (Format.binary64.significand rank = Nat.pow 2 Format.binary64.fractionBits) &&
        decide (1 < Format.binary64.binade rank) then 1 else 2) =
      4 * Format.binary64.significand rank - quartersBelow rank := by
    simp only [quartersBelow, Bool.and_eq_true, decide_eq_true_eq, Nat.pow_eq]
  simp only [roundingInterval, quotient_scaledUp, quarter, below, Format.value]
  push_cast [quarters]
  refine ⟨?_, ?_, ?_⟩
  · ring
  · ring
  · ring

theorem holds_iff {interval : RoundingInterval} (denPositive : 0 < interval.den) {num den : Nat}
    (denPositive' : 0 < den) :
    interval.holds num den = true ↔
      if interval.closed then
        (interval.low : ℚ) / interval.den ≤ num / den ∧ (num : ℚ) / den ≤ interval.high / interval.den
      else
        (interval.low : ℚ) / interval.den < num / den ∧
          (num : ℚ) / den < interval.high / interval.den := by
  have positive : (0 : ℚ) < interval.den := by exact_mod_cast denPositive
  have positive' : (0 : ℚ) < den := by exact_mod_cast denPositive'
  unfold RoundingInterval.holds
  split
  · rw [Bool.and_eq_true, decide_eq_true_eq, decide_eq_true_eq, div_le_div_iff₀ positive positive',
      div_le_div_iff₀ positive' positive]
    norm_cast
  · rw [Bool.and_eq_true, decide_eq_true_eq, decide_eq_true_eq, div_lt_div_iff₀ positive positive',
      div_lt_div_iff₀ positive' positive]
    norm_cast

/-- What the rounding interval of a rank holds is rounded to that rank. -/
theorem rank_of_holds (positive : 0 < rank) {num den : Nat} (denPositive : 0 < den)
    (held : (roundingInterval rank).holds num den = true) :
    Format.binary64.rank num den = min Format.binary64.infinity rank := by
  obtain ⟨low, -, high⟩ := roundingInterval_ends positive
  have least := significand_pos positive
  obtain ⟨steps, significand, full, short, split⟩ := Format.binary64.exists_full rank
  obtain ⟨binade, significandEq, exponentEq⟩ := full.parts short
  rw [← split] at binade significandEq exponentEq
  rw [significandEq] at least
  rw [split]
  apply full.rank_of_near short least denPositive
  have unit : (0 : ℚ) < 2 ^ (Format.binary64.minExponent + steps) := by positivity
  have closed : (roundingInterval rank).closed = (significand % 2 == 0) := by
    rw [← significandEq]
    rfl
  rw [holds_iff (roundingInterval_den_pos rank) denPositive, low, high, closed, significandEq,
    exponentEq] at held
  have quarters : (quartersBelow rank : ℚ) ≤ 2 := by
    unfold quartersBelow
    split <;> norm_num
  have narrow : significand = 2 ^ Format.binary64.fractionBits → 0 < steps →
      quartersBelow rank = 1 := by
    intro power some
    apply if_pos
    refine ⟨significandEq.trans power, ?_⟩
    rw [binade, power, Nat.div_self (by positivity)]
    omega
  have bounds : (significand : ℚ) - quartersBelow rank / 4 ≤
        num / den / 2 ^ (Format.binary64.minExponent + steps) ∧
      (num : ℚ) / den / 2 ^ (Format.binary64.minExponent + steps) ≤ significand + 1 / 2 := by
    rw [le_div_iff₀ unit, div_le_iff₀ unit]
    split at held
    · exact held
    · exact ⟨held.1.le, held.2.le⟩
  refine ⟨bounds.2, by linarith, ?_, ?_⟩
  · intro half
    by_contra odd
    have notClosed : (significand % 2 == 0) = false := by simpa using odd
    rw [notClosed, if_neg Bool.false_ne_true, ← lt_div_iff₀ unit, ← div_lt_iff₀ unit] at held
    rcases half with high | low
    · linarith
    · linarith
  · intro power some
    rw [narrow power some] at bounds
    exact bounds.1

/-- The interval reaches as far as the value of its rank divided by `2 ^ 54`, on both sides. -/
theorem holds_of_close (positive : 0 < rank) {num den : Nat} (denPositive : 0 < den)
    (close : |(num : ℚ) / den - Format.binary64.value rank| <
      Format.binary64.value rank / 2 ^ 54) :
    (roundingInterval rank).holds num den = true := by
  obtain ⟨low, -, high⟩ := roundingInterval_ends positive
  obtain ⟨below, above⟩ := abs_lt.mp close
  have short : (Format.binary64.significand rank : ℚ) < 2 ^ 53 := by
    have bound := Format.binary64.significand_lt rank
    rw [← pow_succ'] at bound
    exact_mod_cast bound
  have unit : (0 : ℚ) < 2 ^ Format.binary64.exponent rank := by positivity
  have lower : (Format.binary64.significand rank : ℚ) / 2 ^ 54 ≤ quartersBelow rank / 4 := by
    unfold quartersBelow
    split
    · rename_i narrow
      rw [narrow.1]
      norm_num [Format.binary64]
    · push_cast
      linarith
  have lowerScaled := mul_le_mul_of_nonneg_right lower unit.le
  have upperScaled := mul_lt_mul_of_pos_right short unit
  have inside : ((roundingInterval rank).low : ℚ) / (roundingInterval rank).den < num / den ∧
      (num : ℚ) / den < (roundingInterval rank).high / (roundingInterval rank).den := by
    rw [low, high]
    rw [Format.value] at below above
    constructor
    · linarith
    · linarith
  rw [holds_iff (roundingInterval_den_pos rank) denPositive]
  split
  · exact ⟨inside.1.le, inside.2.le⟩
  · exact inside

end Interval

end DatasetGate.Number
