import DatasetGate.Number.Double
import DatasetGate.Proofs.Number.Ranks

/-!
# Doubles as numbers

The number that a double stands for, infinities included. Doubles that compare as equal stand for
the same number, and a whole number for which some double stands is rounded to such a double.
-/

set_option autoImplicit false

namespace DatasetGate.Number

/-- The number of a rank. Ranks from that of infinity on are infinite. -/
noncomputable def Format.magnitude (format : Format) (rank : Nat) : EReal :=
  if rank < format.infinity then ((format.value rank : ℝ) : EReal) else ⊤

noncomputable def withSign (negative : Bool) (magnitude : EReal) : EReal :=
  if negative then -magnitude else magnitude

/-- The number that a double stands for. Not-a-number stands for none, and both zeros for zero. -/
noncomputable def Double.number? : Double → Option EReal
  | .nan => none
  | .signed negative rank => some (withSign negative (Format.binary64.magnitude rank))

/-- A whole number for which some double stands. -/
def IsDouble (n : Int) : Prop :=
  ∃ x : Double, x.number? = some ((n : ℝ) : EReal)

theorem Format.magnitude_of_lt {format : Format} {rank : Nat} (finite : rank < format.infinity) :
    format.magnitude rank = ((format.value rank : ℝ) : EReal) :=
  if_pos finite

theorem Format.magnitude_nonneg (format : Format) (rank : Nat) : 0 ≤ format.magnitude rank := by
  unfold magnitude
  split
  · exact_mod_cast format.value_nonneg rank
  · exact le_top

theorem Format.magnitude_inj {format : Format} {rank rank' : Nat} (bound : rank ≤ format.infinity)
    (bound' : rank' ≤ format.infinity) :
    format.magnitude rank = format.magnitude rank' ↔ rank = rank' := by
  refine ⟨fun same => ?_, congrArg _⟩
  unfold magnitude at same
  split at same <;> split at same
  · have values : format.value rank = format.value rank' := by exact_mod_cast same
    exact format.value_strictMono.injective values
  · cases same
  · cases same
  · omega

theorem neg_eq_iff_zero {a b : EReal} (natural : 0 ≤ a) (natural' : 0 ≤ b) :
    -a = b ↔ a = 0 ∧ b = 0 := by
  constructor
  · intro opposite
    have zero : b = 0 := le_antisymm (opposite ▸ EReal.neg_le_zero.mpr natural) natural'
    rw [zero, EReal.neg_eq_zero_iff] at opposite
    exact ⟨opposite, zero⟩
  · rintro ⟨rfl, rfl⟩
    exact neg_zero

theorem withSign_eq_iff {negative negative' : Bool} {a b : EReal} (natural : 0 ≤ a)
    (natural' : 0 ≤ b) :
    withSign negative a = withSign negative' b ↔
      if negative = negative' then a = b else a = 0 ∧ b = 0 := by
  cases negative with
  | false =>
      cases negative' with
      | false => exact Iff.rfl
      | true =>
          rw [if_neg Bool.false_ne_true, and_comm, ← neg_eq_iff_zero natural' natural]
          exact eq_comm
  | true =>
      cases negative' with
      | false => exact neg_eq_iff_zero natural natural'
      | true => exact neg_inj

namespace Double

theorem place_eq_iff {negative negative' : Bool} {rank rank' : Rank} :
    place negative rank = place negative' rank' ↔
      if negative = negative' then rank.val = rank'.val else rank.val = 0 ∧ rank'.val = 0 := by
  cases negative <;> cases negative' <;> simp [place]

theorem magnitude_zero : Format.binary64.magnitude 0 = 0 := by
  rw [Format.magnitude_of_lt (by decide), Format.value_zero]
  simp

theorem magnitude_eq_zero_iff (rank : Rank) :
    Format.binary64.magnitude rank.val = 0 ↔ rank.val = 0 := by
  rw [← magnitude_zero, Format.magnitude_inj rank.property (Nat.zero_le _)]

/-- Doubles are equal as numbers when they stand for the same number. -/
theorem same_iff {x y : Double} :
    x.same y = true ↔ ∃ number, x.number? = some number ∧ y.number? = some number := by
  cases x with
  | nan => simp [same, number?]
  | signed negative rank =>
      cases y with
      | nan => simp [same, number?]
      | signed negative' rank' =>
          have places : place negative rank = place negative' rank' ↔
              withSign negative (Format.binary64.magnitude rank.val) =
                withSign negative' (Format.binary64.magnitude rank'.val) := by
            rw [place_eq_iff, withSign_eq_iff (Format.magnitude_nonneg _ _)
                (Format.magnitude_nonneg _ _), magnitude_eq_zero_iff, magnitude_eq_zero_iff,
              Format.magnitude_inj rank.property rank'.property]
          simp only [same, number?, beq_iff_eq, places, Option.some_inj, exists_eq_left']
          exact eq_comm

theorem same_comm (x y : Double) : x.same y = y.same x := by
  rw [Bool.eq_iff_iff, same_iff, same_iff]
  simp only [and_comm]

theorem number?_ofRank (negative : Bool) (rank : Nat) :
    (ofRank negative rank).number? = some (withSign negative (Format.binary64.magnitude rank)) := by
  have magnitude : Format.binary64.magnitude (min rank Format.binary64.infinity) =
      Format.binary64.magnitude rank := by
    rcases Nat.lt_or_ge rank Format.binary64.infinity with finite | infinite
    · rw [min_eq_left finite.le]
    · rw [min_eq_right infinite, Format.magnitude, Format.magnitude, if_neg (lt_irrefl _),
        if_neg (Nat.not_lt.mpr infinite)]
  rw [ofRank, number?, magnitude]

/-- A quotient that is the value of a rank is rounded to a double of that value. -/
theorem number?_ofQuotient (negative : Bool) {num den rank : Nat} (positive : 0 < den)
    (value : (num : ℚ) / den = Format.binary64.value rank) :
    (ofQuotient negative num den).number? =
      some (withSign negative (Format.binary64.magnitude rank)) := by
  rw [ofQuotient, Format.rank_of_value _ positive value, min_comm, ← number?_ofRank negative rank,
    ofRank, ofRank]
  simp only [min_assoc, min_self]

end Double

namespace Format

/-- The value of the rank of infinity, which bounds those of the ranks before it. -/
theorem value_infinity (format : Format) {steps exponent : Nat}
    (rank : format.infinity = steps * 2 ^ format.fractionBits + 2 ^ format.fractionBits)
    (total : format.minExponent + steps + format.fractionBits = exponent) :
    format.value format.infinity = 2 ^ exponent := by
  have full : format.Full steps (2 ^ format.fractionBits) := ⟨.inr le_rfl, by omega⟩
  rw [rank, full.value_eq, Nat.cast_pow, Nat.cast_ofNat, ← zpow_natCast, ← zpow_natCast,
    ← zpow_add₀ two_ne_zero, ← total, add_comm]

theorem value_infinity_binary64 : binary64.value binary64.infinity = 2 ^ 1024 :=
  binary64.value_infinity (by decide : binary64.infinity = 2046 * 2 ^ 52 + 2 ^ 52) (by decide)

theorem value_infinity_binary32 : binary32.value binary32.infinity = 2 ^ 128 :=
  binary32.value_infinity (by decide : binary32.infinity = 254 * 2 ^ 23 + 2 ^ 23) (by decide)

theorem lt_infinity_of_value_lt {rank : Nat} (small : binary64.value rank < 2 ^ 1024) :
    rank < binary64.infinity := by
  rw [← value_infinity_binary64] at small
  exact binary64.value_strictMono.lt_iff_lt.mp small

/-- Natural numbers of up to fifty-three bits are values of ranks. -/
theorem exists_value_natCast {n : Nat} (short : n ≤ 2 ^ 53) :
    ∃ rank < binary64.infinity, binary64.value rank = n := by
  have coarse : binary64.minExponent ≤ ((0 : Nat) : Int) := by decide
  obtain ⟨rank, value⟩ := binary64.exists_value short coarse
  rw [zpow_natCast, pow_zero, mul_one] at value
  refine ⟨rank, lt_infinity_of_value_lt ?_, value⟩
  have cast : (n : ℚ) ≤ 2 ^ 53 := by exact_mod_cast short
  exact value ▸ lt_of_le_of_lt cast (pow_lt_pow_right₀ one_lt_two (by decide))

end Format

theorem represents_rank {n : Nat} (small : n < 2 ^ 53) :
    Format.binary64.Represents (Format.binary64.rank n 1) n := by
  obtain ⟨rank, finite, value⟩ := Format.exists_value_natCast small.le
  have quotient : (n : ℚ) / (1 : Nat) = Format.binary64.value rank := by
    rw [value, Nat.cast_one, div_one]
  rw [Format.represents_iff_value, Format.rank_of_value _ Nat.one_pos quotient,
    min_eq_right finite.le, value]

theorem withSign_natAbs (n : Int) :
    withSign (decide (n < 0)) (((n.natAbs : ℚ) : ℝ) : EReal) = ((n : ℝ) : EReal) := by
  rcases lt_or_ge n 0 with negative | natural
  · have magnitude : (n.natAbs : ℝ) = -n := by
      rw [Nat.cast_natAbs, abs_of_neg negative, Int.cast_neg]
    rw [withSign, if_pos (decide_eq_true negative), Rat.cast_natCast, magnitude, EReal.coe_neg,
      neg_neg]
  · have magnitude : (n.natAbs : ℝ) = n := by
      rw [Nat.cast_natAbs, abs_of_nonneg natural]
    rw [withSign, if_neg (by simpa using natural), Rat.cast_natCast, magnitude]

/-- The magnitude of a whole number is that of the double that stands for it. -/
theorem withSign_eq_intCast {negative : Bool} {magnitude : EReal} (natural : 0 ≤ magnitude)
    {n : Int} (number : withSign negative magnitude = ((n : ℝ) : EReal)) :
    magnitude = (((n.natAbs : ℚ) : ℝ) : EReal) := by
  have natural' : (0 : EReal) ≤ (((n.natAbs : ℚ) : ℝ) : EReal) := by
    exact_mod_cast n.natAbs.zero_le
  rw [← withSign_natAbs, withSign_eq_iff natural natural'] at number
  split at number
  · exact number
  · exact number.1.trans number.2.symm

theorem isDouble_iff {n : Int} :
    IsDouble n ↔ ∃ rank < Format.binary64.infinity, Format.binary64.value rank = n.natAbs := by
  constructor
  · rintro ⟨x, number⟩
    cases x with
    | nan => cases number
    | signed negative rank =>
        rw [Double.number?, Option.some_inj] at number
        have magnitude := withSign_eq_intCast (Format.magnitude_nonneg _ _) number
        rcases Nat.lt_or_ge rank.val Format.binary64.infinity with finite | infinite
        · refine ⟨rank.val, finite, ?_⟩
          rw [Format.magnitude_of_lt finite] at magnitude
          exact_mod_cast magnitude
        · rw [Format.magnitude, if_neg (Nat.not_lt.mpr infinite)] at magnitude
          cases magnitude
  · rintro ⟨rank, finite, value⟩
    refine ⟨.ofRank (decide (n < 0)) rank, ?_⟩
    rw [Double.number?_ofRank, Format.magnitude_of_lt finite, value, withSign_natAbs]

/-- A whole number for which a double stands is rounded to a double of it. -/
theorem number?_ofInt {n : Int} (exactly : IsDouble n) :
    (Double.ofInt n).number? = some ((n : ℝ) : EReal) := by
  obtain ⟨rank, finite, value⟩ := isDouble_iff.mp exactly
  have quotient : (n.natAbs : ℚ) / (1 : Nat) = Format.binary64.value rank := by
    rw [value, Nat.cast_one, div_one]
  rw [Double.ofInt, Double.number?_ofQuotient _ Nat.one_pos quotient,
    Format.magnitude_of_lt finite, value, withSign_natAbs]

/-- Doubles stand for all whole numbers of up to fifty-three bits. -/
theorem isDouble_of_le {n : Int} (short : n.natAbs ≤ 2 ^ 53) : IsDouble n :=
  isDouble_iff.mpr (Format.exists_value_natCast short)

theorem exists_number?_ofInt (n : Int) : ∃ number, (Double.ofInt n).number? = some number :=
  ⟨_, Double.number?_ofRank _ _⟩

/-- The double of a number in single precision stands for that number. -/
theorem number?_ofSingle (negative : Bool) (rank : Nat) :
    (Double.ofSingle negative rank).number? =
      some (withSign negative (Format.binary32.magnitude rank)) := by
  rcases Nat.lt_or_ge rank Format.binary32.infinity with finite | infinite
  · have coarse : Format.binary64.minExponent ≤ Format.binary32.exponent rank :=
      le_trans (by decide) (Format.binary32.minExponent_le_exponent rank)
    have short : Format.binary32.significand rank ≤ 2 * 2 ^ 52 :=
      (Format.binary32.significand_lt rank).le.trans (by decide)
    obtain ⟨wide, value⟩ := Format.binary64.exists_value short coarse
    have small : Format.binary64.value wide < 2 ^ 1024 := by
      have less := Format.binary32.value_strictMono finite
      rw [Format.value_infinity_binary32] at less
      exact value ▸ less.trans (pow_lt_pow_right₀ one_lt_two (by decide))
    have quotient : ((scaleDown (Format.binary32.significand rank) 1
        (-Format.binary32.exponent rank)).1 : ℚ) /
          (scaleDown (Format.binary32.significand rank) 1 (-Format.binary32.exponent rank)).2 =
            Format.binary64.value wide := by
      rw [scaleDown_quotient, value, Nat.cast_one, div_one, zpow_neg, div_inv_eq_mul]
    rw [Double.ofSingle, if_neg (Nat.not_le.mpr finite), Double.ofBinary,
      Double.number?_ofQuotient _ (scaleDown_den_pos Nat.one_pos _ _) quotient,
      Format.magnitude_of_lt finite, Format.magnitude_of_lt (Format.lt_infinity_of_value_lt small),
      value, Format.value]
  · rw [Double.ofSingle, if_pos infinite, Double.infinite, Double.number?_ofRank, Format.magnitude,
      Format.magnitude, if_neg (lt_irrefl _), if_neg (Nat.not_lt.mpr infinite)]

end DatasetGate.Number
