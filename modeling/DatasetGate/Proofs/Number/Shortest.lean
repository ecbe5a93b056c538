import DatasetGate.Proofs.Number.Doubles
import DatasetGate.Proofs.Number.Nearest

/-!
# Shortest decimals are rounded back

The search for a shortest decimal ends on a grid of at most seventeen digits, since the points of that
grid lie closer together than any rounding interval is wide. What it finds is rounded to the double it
was made of.
-/

set_option autoImplicit false

namespace DatasetGate.Number

/-- The exact value of a decimal. -/
def Decimal.value (d : Decimal) : ℚ :=
  d.digits * 10 ^ d.exponent

/-- Every quotient of this value is rounded to the rank. -/
def RoundsTo (number : ℚ) (rank : Nat) : Prop :=
  ∀ num den : Nat, 0 < den → (num : ℚ) / den = number → Format.binary64.rank num den = rank

theorem Format.rank_congr {format : Format} {num den num' den' : Nat} (positive : 0 < den)
    (positive' : 0 < den') (same : (num : ℚ) / den = num' / den') :
    format.rank num den = format.rank num' den' :=
  le_antisymm (format.rank_mono positive positive' same.le)
    (format.rank_mono positive' positive same.ge)

section Point

theorem decimalScale_den_pos {den : Nat} (positive : 0 < den) (num : Nat) (power : Int) :
    0 < (decimalScale num den power).2 := by
  unfold decimalScale
  split
  · exact Nat.mul_pos positive (Nat.pow_pos (by decide))
  · exact positive

theorem decimalScale_quotient (num den : Nat) (power : Int) :
    ((decimalScale num den power).1 : ℚ) / (decimalScale num den power).2 =
      num / den / 10 ^ power := by
  unfold decimalScale
  split
  · rename_i natural
    obtain ⟨count, rfl⟩ := Int.eq_ofNat_of_zero_le natural
    rw [Int.toNat_natCast, zpow_natCast, Nat.pow_eq, div_div]
    push_cast
    rfl
  · rename_i negative
    obtain ⟨count, rfl⟩ := Int.exists_eq_neg_ofNat (Int.not_le.mp negative).le
    rw [neg_neg, Int.toNat_natCast, zpow_neg, zpow_natCast, Nat.pow_eq, div_inv_eq_mul]
    push_cast
    ring

/-- The least double lies above the power of ten of its exponent. -/
theorem ten_pow_le_least : (10 : ℚ) ^ (-324 : Int) ≤ 2 ^ (-1074 : Int) := by
  have powers : 2 ^ 1074 ≤ 10 ^ 324 := by decide +kernel
  rw [show (-324 : Int) = -((324 : Nat) : Int) by norm_num,
    show (-1074 : Int) = -((1074 : Nat) : Int) by norm_num, zpow_neg, zpow_neg, zpow_natCast,
    zpow_natCast]
  exact inv_anti₀ (by positivity) (by exact_mod_cast powers)

variable {num den : Nat} (denPositive : 0 < den)

include denPositive

theorem belowPowerOfTen_iff (power : Int) :
    belowPowerOfTen num den power = true ↔ (num : ℚ) / den < 10 ^ power := by
  have scaled : (0 : ℚ) < (decimalScale num den power).2 := by
    exact_mod_cast decimalScale_den_pos denPositive num power
  have unit : (0 : ℚ) < 10 ^ power := by positivity
  rw [belowPowerOfTen, decide_eq_true_eq, ← one_mul ((10 : ℚ) ^ power), ← div_lt_iff₀ unit,
    ← decimalScale_quotient, div_lt_one scaled]
  norm_cast

/-- The search stops at the first power above the quotient, if it starts at most one step above a
power below it. -/
theorem powerAbove_spec {fuel : Nat} {start : Int} (low : (10 : ℚ) ^ (start - 1) ≤ num / den)
    (high : (num : ℚ) / den < 10 ^ (start + fuel)) :
    (10 : ℚ) ^ (powerAbove num den fuel start - 1) ≤ num / den ∧
      (num : ℚ) / den < 10 ^ powerAbove num den fuel start := by
  induction fuel generalizing start with
  | zero =>
      rw [powerAbove]
      exact ⟨low, by simpa using high⟩
  | succ fuel fuel_ih =>
      rw [powerAbove]
      cases below : belowPowerOfTen num den start with
      | true => exact ⟨low, (belowPowerOfTen_iff denPositive start).mp below⟩
      | false =>
          have least : (10 : ℚ) ^ start ≤ num / den := by
            rw [← not_lt, ← belowPowerOfTen_iff denPositive, below]
            exact Bool.false_ne_true
          apply fuel_ih
          · rwa [add_sub_cancel_right]
          · rw [Nat.cast_add_one] at high
            rwa [add_assoc, add_comm (1 : Int)]

/-- The decimal point of a quotient in the range of doubles stands behind its leading digit. -/
theorem decimalPoint_spec (low : (2 : ℚ) ^ (-1074 : Int) ≤ num / den)
    (high : (num : ℚ) / den < 2 ^ (1024 : Int)) :
    (10 : ℚ) ^ (decimalPoint num den - 1) ≤ num / den ∧
      (num : ℚ) / den < 10 ^ decimalPoint num den := by
  have positive : (0 : ℚ) < num / den := lt_of_lt_of_le (by positivity) low
  have numPositive : 0 < num := by
    rcases Nat.eq_zero_or_pos num with rfl | numPositive
    · simp at positive
    · exact numPositive
  have magnitude : -1074 ≤ (num.log2 : Int) - den.log2 := by
    have log : (-1074 : Int) ≤ Int.log 2 ((num : ℚ) / den) :=
      (Int.zpow_le_iff_le_log Nat.one_lt_two positive).mp (by exact_mod_cast low)
    exact log.trans (log_quotient_bounds numPositive denPositive).2
  have greatest : (2 : ℚ) ^ (1024 : Int) ≤ 10 ^ (309 : Int) := by
    have powers : 2 ^ 1024 ≤ 10 ^ 309 := by decide +kernel
    exact_mod_cast powers
  rw [decimalPoint]
  split
  · apply powerAbove_spec denPositive
    · refine le_trans ?_ (ten_pow_le_least.trans low)
      exact zpow_le_zpow_right₀ (by norm_num) (by norm_num)
    · refine lt_of_lt_of_le (high.trans_le greatest) ?_
      exact zpow_le_zpow_right₀ (by norm_num) (by norm_num)
  · rename_i notBelow
    apply powerAbove_spec denPositive
    · rw [Bool.not_eq_true, ← Bool.not_eq_true, belowPowerOfTen_iff denPositive, not_lt] at notBelow
      exact notBelow
    · refine lt_of_lt_of_le (high.trans_le greatest) ?_
      exact zpow_le_zpow_right₀ (by norm_num) (by omega)

end Point

section Grid

variable {interval : RoundingInterval} {tie : Tie} {power : Int}

/-- A grid holds a decimal when the interval holds its value. -/
theorem holdsDecimal_eq (n : Nat) (power : Int) :
    ∃ num den : Nat, 0 < den ∧ (num : ℚ) / den = n * 10 ^ power ∧
      interval.holdsDecimal n power = interval.holds num den := by
  rcases le_or_gt 0 power with natural | negative
  · obtain ⟨count, rfl⟩ := Int.eq_ofNat_of_zero_le natural
    refine ⟨n * 10 ^ count, 1, Nat.one_pos, by simp, ?_⟩
    simp [RoundingInterval.holdsDecimal]
  · obtain ⟨count, rfl⟩ := Int.exists_eq_neg_ofNat negative.le
    refine ⟨n, 10 ^ count, Nat.pow_pos (by decide), ?_, ?_⟩
    · rw [zpow_neg, zpow_natCast, ← div_eq_mul_inv]
      push_cast
      rfl
    · rw [RoundingInterval.holdsDecimal, if_neg (by omega)]
      simp

/-- A hit is one of the two points around the value, held by the interval. -/
theorem gridHit?_eq_some {n : Nat} (hit : gridHit? tie interval power = some n) :
    interval.holdsDecimal n power = true ∧ 0 < n ∧
      n ≤ (decimalScale interval.value interval.den power).1 /
        (decimalScale interval.value interval.den power).2 + 1 := by
  unfold gridHit? at hit
  dsimp only at hit
  generalize (decimalScale interval.value interval.den power).1 /
    (decimalScale interval.value interval.den power).2 = below at *
  split_ifs at hit with both upper lower above
  · cases hit
    rw [Bool.and_eq_true] at both
    exact ⟨both.2, Nat.succ_pos _, le_rfl⟩
  · cases hit
    rw [Bool.and_eq_true, Bool.and_eq_true, decide_eq_true_eq] at both
    exact ⟨both.1.2, both.1.1, Nat.le_succ _⟩
  · cases hit
    rw [Bool.and_eq_true, decide_eq_true_eq] at lower
    exact ⟨lower.2, lower.1, Nat.le_succ _⟩
  · cases hit
    exact ⟨above, Nat.succ_pos _, le_rfl⟩

theorem gridHit?_ne_none
    (held : (0 < (decimalScale interval.value interval.den power).1 /
        (decimalScale interval.value interval.den power).2 ∧
      interval.holdsDecimal ((decimalScale interval.value interval.den power).1 /
        (decimalScale interval.value interval.den power).2) power = true) ∨
      interval.holdsDecimal ((decimalScale interval.value interval.den power).1 /
        (decimalScale interval.value interval.den power).2 + 1) power = true) :
    gridHit? tie interval power ≠ none := by
  unfold gridHit?
  dsimp only
  generalize (decimalScale interval.value interval.den power).1 /
    (decimalScale interval.value interval.den power).2 = below at *
  split_ifs with both upper lower above
  · exact Option.some_ne_none _
  · exact Option.some_ne_none _
  · exact Option.some_ne_none _
  · exact Option.some_ne_none _
  · rcases held with ⟨positive, held⟩ | held
    · simp [positive, held] at lower
    · exact absurd held above

theorem firstHit?_eq_some {point : Int} {fuel count : Nat} {last : Nat} (low : count ≤ last)
    (high : last < count + fuel) (hit : gridHit? tie interval (point - last) ≠ none) :
    ∃ d k, firstHit? tie interval point fuel count = some d ∧ k ≤ last ∧
      d.exponent = point - (k : Nat) ∧ gridHit? tie interval d.exponent = some d.digits := by
  induction fuel generalizing count with
  | zero => omega
  | succ fuel fuel_ih =>
      rw [firstHit?]
      cases found : gridHit? tie interval (point - count) with
      | some digits => exact ⟨_, count, rfl, low, rfl, found⟩
      | none =>
          have later : count ≠ last := by
            rintro rfl
            exact hit found
          exact fuel_ih (by omega) (by omega)

/-- A hit on the grid of so many digits is at most the power of ten above them. -/
theorem gridHit?_le (denPositive : 0 < interval.den) {point : Int} {count n : Nat}
    (high : (interval.value : ℚ) / interval.den < 10 ^ point)
    (hit : gridHit? tie interval (point - count) = some n) : n ≤ 10 ^ count := by
  obtain ⟨-, -, bound⟩ := gridHit?_eq_some hit
  have scaledPositive := decimalScale_den_pos denPositive interval.value (point - count)
  have small : ((decimalScale interval.value interval.den (point - count)).1 : ℚ) /
      (decimalScale interval.value interval.den (point - count)).2 < (10 ^ count : Nat) := by
    rw [decimalScale_quotient, div_lt_iff₀ (by positivity), Nat.cast_pow, ← zpow_natCast,
      Nat.cast_ofNat, ← zpow_add₀ (by norm_num), add_sub_cancel]
    exact high
  rw [div_lt_iff₀ (by exact_mod_cast scaledPositive)] at small
  have quotient := (Nat.div_lt_iff_lt_mul scaledPositive).mpr (by exact_mod_cast small)
  omega

variable {rank : Nat}

/-- On a grid of seventeen digits every point within half a step of a value is a hit. -/
theorem holdsDecimal_of_close (positive : 0 < rank) {n : Nat}
    (wide : (10 : ℚ) ^ 16 * 10 ^ power ≤ Format.binary64.value rank)
    (close : |(n : ℚ) * 10 ^ power - Format.binary64.value rank| ≤ 10 ^ power / 2) :
    (roundingInterval rank).holdsDecimal n power = true := by
  obtain ⟨num, den, denPositive, quotient, same⟩ := holdsDecimal_eq n power
  have unit : (0 : ℚ) < 10 ^ power := by positivity
  rw [same]
  apply holds_of_close positive denPositive
  rw [quotient]
  apply lt_of_le_of_lt close
  rw [div_lt_div_iff₀ two_pos (by positivity)]
  nlinarith

/-- On a grid of seventeen digits the point next to a value is no farther from it than the interval
reaches. -/
theorem gridHit?_seventeen {tie : Tie} (positive : 0 < rank) {point : Int}
    (low : (10 : ℚ) ^ (point - 1) ≤ Format.binary64.value rank) :
    gridHit? tie (roundingInterval rank) (point - (17 : Nat)) ≠ none := by
  obtain ⟨-, middle, -⟩ := roundingInterval_ends positive
  obtain ⟨power, powerEq⟩ : ∃ power, power = point - (17 : Nat) := ⟨_, rfl⟩
  have unit : (0 : ℚ) < 10 ^ power := by positivity
  have wide : (10 : ℚ) ^ 16 * 10 ^ power ≤ Format.binary64.value rank := by
    have sixteen : ((16 : Nat) : Int) + power = point - 1 := by omega
    rw [← zpow_natCast, ← zpow_add₀ (by norm_num), sixteen]
    exact low
  rw [← powerEq]
  apply gridHit?_ne_none
  have scaled := decimalScale_quotient (roundingInterval rank).value (roundingInterval rank).den power
  rw [middle] at scaled
  generalize (decimalScale (roundingInterval rank).value (roundingInterval rank).den power).1 = num
    at *
  generalize (decimalScale (roundingInterval rank).value (roundingInterval rank).den power).2 = den
    at *
  have floor_le : ((num / den : Nat) : ℚ) ≤ num / den := Nat.cast_div_le
  have lt_floor : (num : ℚ) / den < (num / den : Nat) + 1 := by
    rw [← @Nat.floor_div_eq_div ℚ]
    exact Nat.lt_floor_add_one _
  have value : Format.binary64.value rank = num / den * 10 ^ power := by
    rw [scaled, div_mul_cancel₀ _ unit.ne']
  have large := wide
  rw [value, mul_le_mul_iff_of_pos_right unit] at large
  have some : 0 < num / den := by
    have cast : (0 : ℚ) < (num / den : Nat) := by linarith
    exact_mod_cast cast
  generalize num / den = below at *
  rcases le_total ((num : ℚ) / den) (below + 1 / 2) with near | far
  · refine .inl ⟨some, holdsDecimal_of_close positive wide ?_⟩
    have half : (num : ℚ) / den - below ≤ 1 / 2 := by linarith
    have scaledHalf := mul_le_mul_of_nonneg_right half unit.le
    rw [value, ← sub_mul, abs_mul, abs_of_pos unit, abs_of_nonpos (by linarith)]
    linarith
  · refine .inr (holdsDecimal_of_close positive wide ?_)
    have half : (below : ℚ) + 1 - num / den ≤ 1 / 2 := by linarith
    have scaledHalf := mul_le_mul_of_nonneg_right half unit.le
    push_cast
    rw [value, ← sub_mul, abs_mul, abs_of_pos unit, abs_of_nonneg (by linarith)]
    linarith

end Grid

/-- Taking zeros away leaves the value as it is. -/
theorem withoutTrailingZeros_spec (fuel : Nat) {d : Decimal} (positive : 0 < d.digits) :
    (d.withoutTrailingZeros fuel).value = d.value ∧ 0 < (d.withoutTrailingZeros fuel).digits ∧
      (d.withoutTrailingZeros fuel).digits ≤ d.digits ∧
      d.exponent ≤ (d.withoutTrailingZeros fuel).exponent := by
  induction fuel generalizing d with
  | zero => exact ⟨rfl, positive, le_rfl, le_rfl⟩
  | succ fuel fuel_ih =>
      rw [Decimal.withoutTrailingZeros]
      split
      · rename_i round
        obtain ⟨tenth, shown⟩ := Nat.dvd_of_mod_eq_zero round.1
        have quotient : d.digits / 10 = tenth := by omega
        have more := @fuel_ih ⟨tenth, d.exponent + 1⟩ (by dsimp only; omega)
        obtain ⟨same, positive', less, later⟩ := more
        dsimp only at less later
        rw [quotient]
        refine ⟨?_, positive', by omega, by omega⟩
        rw [same, Decimal.value, Decimal.value, shown, zpow_add_one₀ (by norm_num)]
        push_cast
        ring
      · exact ⟨rfl, positive, le_rfl, le_rfl⟩

/-- As many steps as there are digits take all zeros away. -/
theorem withoutTrailingZeros_mod {fuel : Nat} {d : Decimal} (positive : 0 < d.digits)
    (few : d.digits < 10 ^ fuel) : (d.withoutTrailingZeros fuel).digits % 10 ≠ 0 := by
  induction fuel generalizing d with
  | zero => omega
  | succ fuel fuel_ih =>
      rw [Decimal.withoutTrailingZeros]
      split
      · rename_i round
        rw [Nat.pow_succ] at few
        apply fuel_ih
        · dsimp only
          omega
        · dsimp only
          omega
      · rename_i significant
        exact fun zero => significant ⟨zero, positive.ne'⟩

section Values

variable {rank : Nat}

theorem value_one_le (positive : 0 < rank) :
    (2 : ℚ) ^ (-1074 : Int) ≤ Format.binary64.value rank := by
  have one : Format.binary64.value 1 = 2 ^ (-1074 : Int) := by
    have full : Format.binary64.Full 0 1 := ⟨.inl rfl, by decide⟩
    have value := full.value_eq
    rw [Nat.zero_mul, Nat.zero_add] at value
    rw [value]
    simp [Format.binary64]
  rw [← one]
  exact Format.binary64.value_strictMono.monotone positive

theorem value_lt (finite : rank < Format.binary64.infinity) :
    Format.binary64.value rank < 2 ^ (1024 : Int) := by
  have infinity := Format.value_infinity_binary64
  rw [← zpow_natCast] at infinity
  exact (Format.binary64.value_strictMono finite).trans_eq infinity

/-- The search ends on the grid of seventeen digits or before it, with a decimal that is rounded to the
double. -/
theorem exists_firstHit (tie : Tie) (positive : 0 < rank)
    (finite : rank < Format.binary64.infinity) :
    ∃ d, firstHit? tie (roundingInterval rank)
        (decimalPoint (roundingInterval rank).value (roundingInterval rank).den) gridCount 1 = some d ∧
      0 < d.digits ∧ d.digits ≤ 10 ^ 17 ∧ -340 ≤ d.exponent ∧ RoundsTo d.value rank := by
  obtain ⟨-, middle, -⟩ := roundingInterval_ends positive
  have denPositive := roundingInterval_den_pos rank
  have least := value_one_le positive
  have greatest := value_lt finite
  rw [← middle] at least greatest
  obtain ⟨low, high⟩ := decimalPoint_spec denPositive least greatest
  generalize decimalPoint (roundingInterval rank).value (roundingInterval rank).den = point at *
  have first : -324 < point := by
    rw [← zpow_lt_zpow_iff_right₀ (show (1 : ℚ) < 10 by norm_num)]
    exact lt_of_le_of_lt (ten_pow_le_least.trans least) high
  obtain ⟨d, k, found, short, exponent, hit⟩ := firstHit?_eq_some (show 1 ≤ 17 by decide)
    (show 17 < 1 + gridCount by decide)
    (@gridHit?_seventeen rank tie positive point (low.trans_eq middle))
  obtain ⟨held, hitPositive, -⟩ := gridHit?_eq_some hit
  have few : d.digits ≤ 10 ^ k := gridHit?_le denPositive high (exponent ▸ hit)
  refine ⟨d, found, hitPositive, few.trans (Nat.pow_le_pow_right (by decide) short), by omega, ?_⟩
  obtain ⟨num, den, positive', quotient, holds⟩ := holdsDecimal_eq d.digits d.exponent
  rw [holds] at held
  intro num' den' positive'' shown
  have value : (num' : ℚ) / den' = num / den := by rw [shown, quotient, Decimal.value]
  rw [Format.rank_congr positive'' positive' value, rank_of_holds positive positive' held,
    min_eq_right finite.le]

/-- A shortest decimal of a finite double has at most as many digits as fit seventeen places, and is
rounded to that double. -/
theorem shortest_spec (tie : Tie) (positive : 0 < rank) (finite : rank < Format.binary64.infinity) :
    0 < (shortest tie rank).digits ∧ (shortest tie rank).digits ≤ 10 ^ 17 ∧
      -340 ≤ (shortest tie rank).exponent ∧ RoundsTo (shortest tie rank).value rank := by
  obtain ⟨d, found, some, few, low, rounds⟩ := exists_firstHit tie positive finite
  obtain ⟨same, digits, fewer, later⟩ := withoutTrailingZeros_spec gridCount some
  rw [shortest, found, Option.getD_some, same]
  exact ⟨digits, fewer.trans few, low.trans later, rounds⟩

/-- The digits of a shortest decimal end in no zero. -/
theorem shortest_digits_mod (tie : Tie) (positive : 0 < rank)
    (finite : rank < Format.binary64.infinity) : (shortest tie rank).digits % 10 ≠ 0 := by
  obtain ⟨d, found, some, few, -⟩ := exists_firstHit tie positive finite
  rw [shortest, found, Option.getD_some]
  exact withoutTrailingZeros_mod some (few.trans_lt (by decide))

end Values

end DatasetGate.Number
