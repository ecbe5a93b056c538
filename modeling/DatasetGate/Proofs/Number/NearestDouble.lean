import DatasetGate.Proofs.Number.Doubles

/-!
# The double nearest to a number

Among the numbers that doubles stand for, none is closer to a quotient than the one that it is rounded
to. Where another one is as close, the one with the even significand is taken.
-/

set_option autoImplicit false

namespace DatasetGate.Number

/-- A whole number is nearest to a number, a half going to the even one. -/
structure NearestWhole (whole : Nat) (number : ℚ) : Prop where
  close : |(whole : ℚ) - number| ≤ 1 / 2
  even : |(whole : ℚ) - number| = 1 / 2 → whole % 2 = 0

section Whole

variable {whole : Nat} {number : ℚ}

theorem NearestWhole.closest (nearest : NearestWhole whole number) (other : Nat) :
    |(whole : ℚ) - number| ≤ |(other : ℚ) - number| ∧
      (|(whole : ℚ) - number| = |(other : ℚ) - number| → other = whole ∨ whole % 2 = 0) := by
  rcases eq_or_ne other whole with rfl | distinct
  · exact ⟨le_rfl, fun _ => .inl rfl⟩
  have apart : (1 : ℚ) ≤ |(other : ℚ) - whole| := by
    have cast : (1 : ℤ) ≤ |(other : ℤ) - whole| := Int.one_le_abs (by omega)
    exact_mod_cast cast
  have detour : |(other : ℚ) - whole| ≤ |(other : ℚ) - number| + |(whole : ℚ) - number| := by
    rw [abs_sub_comm (whole : ℚ)]
    exact abs_sub_le _ _ _
  have close := nearest.close
  refine ⟨by linarith, fun same => .inr (nearest.even ?_)⟩
  linarith

theorem nearestWhole_of_rounds (natural : 0 ≤ number) (within : RoundsWithin number whole)
    (least : ∀ bound, bound < whole → ¬ RoundsWithin number bound) :
    NearestWhole whole number := by
  have above : number ≤ whole + 1 / 2 ∧ (number = whole + 1 / 2 → whole % 2 = 0) := by
    rcases within with below | ⟨half, even⟩
    · exact ⟨below.le, fun half => absurd half below.ne⟩
    · exact ⟨half.le, fun _ => even⟩
  have below : (whole : ℚ) - 1 / 2 ≤ number ∧ (number = whole - 1 / 2 → whole % 2 = 0) := by
    cases whole with
    | zero =>
        rw [Nat.cast_zero]
        exact ⟨by linarith, fun _ => rfl⟩
    | succ bound =>
        have beyond := least bound bound.lt_succ_self
        rw [RoundsWithin, not_or, not_lt, not_and] at beyond
        rw [Nat.cast_succ]
        refine ⟨by linarith [beyond.1], fun half => ?_⟩
        have odd := beyond.2 (by linarith)
        omega
  refine ⟨abs_le.mpr ⟨by linarith [above.1], by linarith [below.1]⟩, fun half => ?_⟩
  rcases abs_choice ((whole : ℚ) - number) with positive | negative
  · exact below.2 (by linarith)
  · exact above.2 (by linarith)

theorem nearestWhole_divRoundEven {num den : Nat} (positive : 0 < den) (shift : Int) :
    NearestWhole (divRoundEven (scaleDown num den shift).1 (scaleDown num den shift).2)
      (num / den / 2 ^ shift) := by
  apply nearestWhole_of_rounds (by positivity)
  · rw [← divRoundEven_scaleDown_le_iff positive]
  · intro bound less
    rw [← divRoundEven_scaleDown_le_iff positive]
    exact Nat.not_le.mpr less

end Whole

namespace Format

theorem value_grid (format : Format) (rank : Nat) (exponent : Int) :
    (∃ count : Nat, format.value rank = count * 2 ^ exponent) ∨
      format.minExponent < exponent ∧
        format.value rank < (2 ^ format.fractionBits : Nat) * 2 ^ exponent := by
  rcases le_or_gt exponent (format.exponent rank) with coarse | fine
  · obtain ⟨more, same⟩ := Int.exists_add_of_le coarse
    refine .inl ⟨format.significand rank * 2 ^ more, ?_⟩
    rw [value, same, zpow_add₀ two_ne_zero, zpow_natCast]
    push_cast
    ring
  · refine .inr ⟨(format.minExponent_le_exponent rank).trans_lt fine, ?_⟩
    have short : (format.significand rank : ℚ) < 2 * (2 ^ format.fractionBits : Nat) := by
      exact_mod_cast format.significand_lt rank
    have step : (2 : ℚ) * 2 ^ format.exponent rank ≤ 2 ^ exponent := by
      rw [← zpow_one_add₀ two_ne_zero]
      exact zpow_le_zpow_right₀ one_le_two (by omega)
    calc format.value rank
        < 2 * (2 ^ format.fractionBits : Nat) * 2 ^ format.exponent rank :=
          mul_lt_mul_of_pos_right short (by positivity)
      _ = (2 ^ format.fractionBits : Nat) * (2 * 2 ^ format.exponent rank) := by ring
      _ ≤ (2 ^ format.fractionBits : Nat) * 2 ^ exponent :=
          mul_le_mul_of_nonneg_left step (by positivity)

/-- The rank of an even significand has an even significand, also where it is the first one of the
next exponent. -/
theorem Full.significand_even {steps significand : Nat} (full : binary64.Full steps significand)
    (even : significand % 2 = 0) :
    binary64.significand (steps * 2 ^ binary64.fractionBits + significand) % 2 = 0 := by
  rcases full.short.lt_or_eq with less | rfl
  · rw [(full.parts less).2.1, even]
  · obtain ⟨next, same⟩ := full_carry binary64 steps
    rw [same, (next.parts (by decide)).2.1]
    decide

variable {num den : Nat}

theorem exists_full_rank (numPositive : 0 < num) (denPositive : 0 < den)
    (finite : binary64.rank num den < binary64.infinity) :
    ∃ steps significand, binary64.Full steps significand ∧
      binary64.rank num den = steps * 2 ^ binary64.fractionBits + significand ∧
      NearestWhole significand (num / den / 2 ^ (binary64.minExponent + steps)) ∧
      (0 < steps → ((2 ^ binary64.fractionBits : Nat) : ℚ) ≤
        num / den / 2 ^ (binary64.minExponent + steps)) := by
  obtain ⟨least, small, large⟩ := binary64.exponentOf_bounds numPositive denPositive
  have split : binary64.rank num den = _ := binary64.rank_eq numPositive
  generalize binary64.exponentOf num den = exponent at *
  obtain ⟨steps, rfl⟩ := Int.exists_add_of_le least
  rw [add_sub_cancel_left, Int.toNat_natCast] at split
  have long (some : 0 < steps) := large.resolve_left (by omega)
  refine ⟨steps, _, ⟨?_, divRoundEven_scaleDown_le denPositive _ small.le⟩, ?_,
    nearestWhole_divRoundEven denPositive _, long⟩
  · rcases Nat.eq_zero_or_pos steps with zero | some
    · exact .inl zero
    · exact .inr (le_divRoundEven_scaleDown denPositive _ (long some))
  · omega

/-- No value is closer to a quotient than that of its rank, and none is as close to it unless the
significand of the rank is even. -/
theorem rank_closest (denPositive : 0 < den) (finite : binary64.rank num den < binary64.infinity)
    (other : Nat) :
    |binary64.value (binary64.rank num den) - num / den| ≤ |binary64.value other - num / den| ∧
      (|binary64.value (binary64.rank num den) - num / den| = |binary64.value other - num / den| →
        binary64.value other = binary64.value (binary64.rank num den) ∨
          binary64.significand (binary64.rank num den) % 2 = 0) := by
  rcases Nat.eq_zero_or_pos num with rfl | numPositive
  · have zero : binary64.rank 0 den = 0 := if_pos rfl
    rw [zero, value_zero, Nat.cast_zero, zero_div, sub_zero, abs_zero, sub_zero]
    exact ⟨abs_nonneg _, fun _ => .inr (by decide)⟩
  obtain ⟨steps, significand, full, split, nearest, long⟩ :=
    exists_full_rank numPositive denPositive finite
  rw [split, full.value_eq]
  have unit : (0 : ℚ) < 2 ^ (binary64.minExponent + steps) := by positivity
  have scaled (count : ℚ) : |count * 2 ^ (binary64.minExponent + steps) - num / den| =
      |count - num / den / 2 ^ (binary64.minExponent + steps)| *
        2 ^ (binary64.minExponent + steps) := by
    rw [← abs_of_pos unit, ← abs_mul, sub_mul, abs_of_pos unit, div_mul_cancel₀ _ unit.ne']
  rcases binary64.value_grid other (binary64.minExponent + steps) with ⟨count, grid⟩ | ⟨fine, below⟩
  · obtain ⟨closest, even⟩ := nearest.closest count
    rw [grid, scaled, scaled]
    refine ⟨mul_le_mul_of_nonneg_right closest unit.le, fun same => ?_⟩
    refine (even (mul_right_cancel₀ unit.ne' same)).imp (fun equal => ?_) full.significand_even
    rw [equal]
  · -- What is finer than the grid lies below its first full significand, and that below the quotient.
    have first := long (by omega)
    rw [le_div_iff₀ unit] at first
    obtain ⟨closest, -⟩ := nearest.closest (2 ^ binary64.fractionBits)
    have nearer := mul_le_mul_of_nonneg_right closest unit.le
    rw [← scaled, ← scaled, abs_of_nonpos (sub_nonpos.mpr first)] at nearer
    have farther : |binary64.value other - num / den| = num / den - binary64.value other := by
      rw [abs_of_nonpos (by linarith), neg_sub]
    rw [farther]
    exact ⟨by linarith, fun same => by linarith⟩

end Format

def signedNumber (negative : Bool) (magnitude : ℝ) : ℝ :=
  if negative then -magnitude else magnitude

theorem withSign_coe (negative : Bool) (magnitude : ℝ) :
    withSign negative (magnitude : EReal) = (signedNumber negative magnitude : EReal) := by
  cases negative with
  | false => rfl
  | true => exact (EReal.coe_neg magnitude).symm

theorem abs_signedNumber_sub {negative negative' : Bool} {a b : ℝ} (natural : 0 ≤ a)
    (natural' : 0 ≤ b) :
    |signedNumber negative a - signedNumber negative' b| =
      if negative = negative' then |a - b| else a + b := by
  cases negative with
  | false =>
      cases negative' with
      | false => rfl
      | true => exact (congrArg abs (sub_neg_eq_add a b)).trans (abs_of_nonneg (by linarith))
  | true =>
      cases negative' with
      | false =>
          have sum : signedNumber true a - signedNumber false b = -(a + b) := (neg_add' a b).symm
          rw [sum, abs_neg, if_neg (by decide), abs_of_nonneg (by linarith)]
      | true =>
          have difference : signedNumber true a - signedNumber true b = -(a - b) := by
            rw [neg_sub]
            exact neg_sub_neg a b
          rw [difference, abs_neg, if_pos rfl]

namespace Double

def significand : Double → Nat
  | .nan => 0
  | .signed _ rank => Format.binary64.significand rank.val

/-- A double stands for the number nearest to a given one: no double is closer, and where another
number is as close, the significand of this one is even. -/
def IsNearest (x : Double) (number : ℝ) : Prop :=
  ∃ own : ℝ, x.number? = some (own : EReal) ∧
    ∀ (y : Double) (other : ℝ), y.number? = some (other : EReal) →
      |own - number| ≤ |other - number| ∧
        (|own - number| = |other - number| → other = own ∨ x.significand % 2 = 0)

theorem exists_of_number? {x : Double} {number : ℝ} (stands : x.number? = some (number : EReal)) :
    ∃ negative rank, number = signedNumber negative (Format.binary64.value rank) := by
  cases x with
  | nan => cases stands
  | signed negative rank =>
      rw [number?, Option.some_inj] at stands
      rcases Nat.lt_or_ge rank.val Format.binary64.infinity with finite | infinite
      · rw [Format.magnitude_of_lt finite, withSign_coe, EReal.coe_eq_coe_iff] at stands
        exact ⟨negative, rank.val, stands.symm⟩
      · rw [Format.magnitude, if_neg (Nat.not_lt.mpr infinite)] at stands
        cases negative <;> cases stands

theorem significand_ofRank (negative : Bool) {rank : Nat}
    (finite : rank < Format.binary64.infinity) :
    (ofRank negative rank).significand = Format.binary64.significand rank :=
  congrArg Format.binary64.significand (min_eq_left finite.le)

/-- A quotient is rounded to the double nearest to it, unless it is rounded to infinity. -/
theorem isNearest_ofQuotient (negative : Bool) {num den : Nat} (positive : 0 < den)
    (finite : Format.binary64.rank num den < Format.binary64.infinity) :
    (ofQuotient negative num den).IsNearest (signedNumber negative ((num : ℚ) / den : ℚ)) := by
  have closest (rank : Nat) := Format.rank_closest positive finite rank
  have natural : 0 ≤ (num : ℚ) / den := by positivity
  have value_nonneg := Format.binary64.value_nonneg
  rw [IsNearest, ofQuotient, significand_ofRank negative finite]
  refine ⟨signedNumber negative (Format.binary64.value (Format.binary64.rank num den)), ?_, ?_⟩
  · rw [number?_ofRank, Format.magnitude_of_lt finite, withSign_coe]
  generalize Format.binary64.rank num den = own at *
  generalize (num : ℚ) / den = number at *
  intro y other stands
  obtain ⟨negative', rank, rfl⟩ := exists_of_number? stands
  have cast (rank : Nat) : (0 : ℝ) ≤ Format.binary64.value rank := by exact_mod_cast value_nonneg rank
  have castNumber : (0 : ℝ) ≤ number := by exact_mod_cast natural
  rw [abs_signedNumber_sub (cast own) castNumber, abs_signedNumber_sub (cast rank) castNumber,
    if_pos rfl]
  split
  · rename_i signs
    obtain ⟨closer, even⟩ := closest rank
    refine ⟨by exact_mod_cast closer, fun same => ?_⟩
    refine (even (by exact_mod_cast same)).imp_left fun equal => ?_
    rw [equal, signs]
  · -- A number on the other side of zero is no closer than zero is.
    obtain ⟨closer, even⟩ := closest 0
    rw [Format.value_zero, zero_sub, abs_neg, abs_of_nonneg natural] at closer even
    have sum := value_nonneg rank
    refine ⟨by exact_mod_cast closer.trans (le_add_of_nonneg_left sum), fun same => ?_⟩
    have total : |Format.binary64.value own - number| = Format.binary64.value rank + number := by
      exact_mod_cast same
    have nothing : Format.binary64.value rank = 0 := by linarith
    refine (even (by linarith)).imp_left fun zero => ?_
    rw [nothing, ← zero, signedNumber, signedNumber]
    simp

theorem rank_whole_lt_infinity {n : Nat} (small : n ≤ 2 ^ 127) :
    Format.binary64.rank n 1 < Format.binary64.infinity := by
  have most : Format.binary64.rank (2 ^ 127) 1 < Format.binary64.infinity := by decide +kernel
  refine lt_of_le_of_lt (Format.rank_mono _ Nat.one_pos Nat.one_pos ?_) most
  gcongr

theorem isNearest_whole (negative : Bool) {n : Nat} (small : n ≤ 2 ^ 127) :
    (ofQuotient negative n 1).IsNearest (signedNumber negative n) := by
  have nearest := isNearest_ofQuotient negative Nat.one_pos (rank_whole_lt_infinity small)
  rwa [Nat.cast_one, div_one, Rat.cast_natCast] at nearest

theorem isNearest_ofInt {n : Int} (small : n.natAbs ≤ 2 ^ 127) : (ofInt n).IsNearest n := by
  have nearest := isNearest_whole (decide (n < 0)) small
  have number := withSign_natAbs n
  rw [Rat.cast_natCast, withSign_coe, EReal.coe_eq_coe_iff] at number
  rwa [number] at nearest

end Double

end DatasetGate.Number
