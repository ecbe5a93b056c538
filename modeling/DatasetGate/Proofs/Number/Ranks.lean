import DatasetGate.Proofs.Number.Rounding

/-!
# The line of ranks

The exact value of a rank grows with the rank. Rounding keeps the order of quotients, and takes a
quotient that is the value of a rank to that rank.
-/

set_option autoImplicit false

namespace DatasetGate.Number

/-- A number is rounded to at most `bound`: it lies below the half behind `bound`, or it is that
half and `bound` is even. -/
def RoundsWithin (number : ℚ) (bound : Nat) : Prop :=
  number < bound + 1 / 2 ∨ number = bound + 1 / 2 ∧ bound % 2 = 0

theorem RoundsWithin.mono {less more : ℚ} {bound : Nat} (within : RoundsWithin more bound)
    (ordered : less ≤ more) : RoundsWithin less bound := by
  rcases within with below | ⟨half, even⟩
  · exact .inl (lt_of_le_of_lt ordered below)
  · rcases ordered.lt_or_eq with below | same
    · exact .inl (half ▸ below)
    · exact .inr ⟨same.trans half, even⟩

theorem roundsWithin_natCast {n bound : Nat} : RoundsWithin n bound ↔ n ≤ bound := by
  constructor
  · rintro (below | ⟨half, -⟩)
    · have doubled : ((2 * n : Nat) : ℚ) < (2 * bound + 1 : Nat) := by
        push_cast
        linarith
      have := Nat.cast_lt.mp doubled
      omega
    · have doubled : ((2 * n : Nat) : ℚ) = (2 * bound + 1 : Nat) := by
        push_cast
        linarith
      have := Nat.cast_injective doubled
      omega
  · intro le
    have cast : (n : ℚ) ≤ bound := Nat.cast_le.mpr le
    exact .inl (by linarith)

/-- Against a whole number, a quotient is rounded as its numerator compares with the half behind the
number. -/
theorem divRoundEven_le_iff_mul {num den : Nat} (positive : 0 < den) (bound : Nat) :
    divRoundEven num den ≤ bound ↔
      2 * num < (2 * bound + 1) * den ∨ 2 * num = (2 * bound + 1) * den ∧ bound % 2 = 0 := by
  have parts := Nat.div_add_mod num den
  have rest := Nat.mod_lt num positive
  simp only [divRoundEven]
  generalize num / den = quotient at *
  generalize num % den = remainder at *
  subst parts
  rcases lt_trichotomy quotient bound with less | rfl | more
  · obtain ⟨gap, rfl⟩ := Nat.exists_eq_add_of_lt less
    have above : (2 * (quotient + gap + 1) + 1) * den =
        2 * (den * quotient) + 3 * den + 2 * (gap * den) := by ring
    rw [above]
    split_ifs <;> omega
  · have level : (2 * quotient + 1) * den = 2 * (den * quotient) + den := by ring
    rw [level]
    split_ifs <;> omega
  · obtain ⟨gap, rfl⟩ := Nat.exists_eq_add_of_lt more
    have below : 2 * (den * (bound + gap + 1) + remainder) =
        (2 * bound + 1) * den + den + 2 * (den * gap) + 2 * remainder := by ring
    rw [below]
    split_ifs <;> omega

theorem divRoundEven_le_iff {num den : Nat} (positive : 0 < den) (bound : Nat) :
    divRoundEven num den ≤ bound ↔ RoundsWithin ((num : ℚ) / den) bound := by
  have denominator : (0 : ℚ) < den := Nat.cast_pos.mpr positive
  have below : (num : ℚ) / den < bound + 1 / 2 ↔ (2 * num : ℚ) < (2 * bound + 1) * den := by
    rw [div_lt_iff₀ denominator]
    constructor <;> intro less <;> linarith
  have half : (num : ℚ) / den = bound + 1 / 2 ↔ (2 * num : ℚ) = (2 * bound + 1) * den := by
    rw [div_eq_iff denominator.ne']
    constructor <;> intro same <;> linarith
  rw [divRoundEven_le_iff_mul positive, RoundsWithin, below, half]
  norm_cast

/-- Scaling a quotient down divides it by a power of two. -/
theorem scaleDown_quotient (num den : Nat) (shift : Int) :
    ((scaleDown num den shift).1 : ℚ) / (scaleDown num den shift).2 = num / den / 2 ^ shift := by
  unfold scaleDown
  split
  · rename_i natural
    obtain ⟨count, rfl⟩ := Int.eq_ofNat_of_zero_le natural
    rw [Int.toNat_natCast, zpow_natCast, Nat.pow_eq, div_div]
    push_cast
    rfl
  · rename_i negative
    obtain ⟨count, shown⟩ : ∃ count : Nat, shift = -(count : Int) :=
      ⟨(-shift).toNat, by omega⟩
    rw [shown, neg_neg, Int.toNat_natCast, zpow_neg, zpow_natCast, Nat.pow_eq, div_inv_eq_mul]
    push_cast
    ring

/-- A scaled quotient is rounded as the quotient itself is scaled. -/
theorem divRoundEven_scaleDown_le_iff {num den : Nat} (positive : 0 < den) (shift : Int)
    (bound : Nat) :
    divRoundEven (scaleDown num den shift).1 (scaleDown num den shift).2 ≤ bound ↔
      RoundsWithin ((num : ℚ) / den / 2 ^ shift) bound := by
  rw [divRoundEven_le_iff (scaleDown_den_pos positive num shift), scaleDown_quotient]

theorem divRoundEven_scaleDown_le {num den : Nat} (positive : 0 < den) (shift : Int) {bound : Nat}
    (below : (num : ℚ) / den / 2 ^ shift ≤ bound) :
    divRoundEven (scaleDown num den shift).1 (scaleDown num den shift).2 ≤ bound := by
  rw [divRoundEven_scaleDown_le_iff positive]
  exact RoundsWithin.mono (roundsWithin_natCast.mpr le_rfl) below

theorem le_divRoundEven_scaleDown {num den : Nat} (positive : 0 < den) (shift : Int) {bound : Nat}
    (above : (bound : ℚ) ≤ num / den / 2 ^ shift) :
    bound ≤ divRoundEven (scaleDown num den shift).1 (scaleDown num den shift).2 := by
  have within : RoundsWithin ((num : ℚ) / den / 2 ^ shift)
      (divRoundEven (scaleDown num den shift).1 (scaleDown num den shift).2) :=
    (divRoundEven_scaleDown_le_iff positive shift _).mp le_rfl
  exact roundsWithin_natCast.mp (within.mono above)

theorem divRoundEven_scaleDown_eq {num den : Nat} (positive : 0 < den) (shift : Int) {whole : Nat}
    (exactly : (num : ℚ) / den / 2 ^ shift = whole) :
    divRoundEven (scaleDown num den shift).1 (scaleDown num den shift).2 = whole := by
  apply eq_of_forall_ge_iff
  intro bound
  rw [divRoundEven_scaleDown_le_iff positive, exactly, roundsWithin_natCast]

namespace Format

variable (format : Format)

/-- The exact value of a rank. -/
def value (rank : Nat) : ℚ :=
  format.significand rank * 2 ^ format.exponent rank

/-- A significand is full where it stands `steps` steps above the least exponent: it may be short
only at the least exponent itself. -/
structure Full (steps significand : Nat) : Prop where
  long : steps = 0 ∨ 2 ^ format.fractionBits ≤ significand
  short : significand ≤ 2 * 2 ^ format.fractionBits

theorem minExponent_le_exponent (rank : Nat) : format.minExponent ≤ format.exponent rank := by
  unfold exponent
  split
  · exact le_rfl
  · rename_i nonzero
    omega

theorem significand_lt (rank : Nat) : format.significand rank < 2 * 2 ^ format.fractionBits := by
  have unit : 0 < 2 ^ format.fractionBits := by positivity
  have rest := Nat.mod_lt rank unit
  unfold significand
  rw [Nat.pow_eq]
  split
  · rename_i zero
    have least := (Nat.div_eq_zero_iff_lt unit).mp zero
    omega
  · omega

variable {format}

/-- The rank of a full significand has that significand, at the exponent of its steps. -/
theorem Full.parts {steps significand : Nat} (full : format.Full steps significand)
    (short : significand < 2 * 2 ^ format.fractionBits) :
    format.binade (steps * 2 ^ format.fractionBits + significand) =
        steps + significand / 2 ^ format.fractionBits ∧
      format.significand (steps * 2 ^ format.fractionBits + significand) = significand ∧
      format.exponent (steps * 2 ^ format.fractionBits + significand) =
        format.minExponent + steps := by
  have unit : 0 < 2 ^ format.fractionBits := by positivity
  have binade : format.binade (steps * 2 ^ format.fractionBits + significand) =
      steps + significand / 2 ^ format.fractionBits := by
    rw [Format.binade, Nat.pow_eq, Nat.add_comm, Nat.add_mul_div_right _ _ unit, Nat.add_comm]
  have fraction : (steps * 2 ^ format.fractionBits + significand) % 2 ^ format.fractionBits =
      significand % 2 ^ format.fractionBits := by
    rw [Nat.add_comm, Nat.add_mul_mod_self_right]
  refine ⟨binade, ?_⟩
  rw [Format.significand, Format.exponent, binade, Nat.pow_eq, fraction]
  rcases Nat.lt_or_ge significand (2 ^ format.fractionBits) with least | normal
  · obtain rfl : steps = 0 := full.long.resolve_right (Nat.not_le.mpr least)
    simp [Nat.div_eq_of_lt least]
  · have one : significand / 2 ^ format.fractionBits = 1 := by
      apply Nat.div_eq_of_lt_le <;> omega
    rw [one, if_neg (by omega), if_neg (by omega), Nat.mod_eq_sub_mod normal,
      Nat.mod_eq_of_lt (by omega), Nat.add_sub_cancel' normal]
    refine ⟨rfl, ?_⟩
    push_cast
    ring

/-- A significand one too long is the first one of the next exponent. -/
theorem full_carry (format : Format) (steps : Nat) :
    format.Full (steps + 1) (2 ^ format.fractionBits) ∧
      steps * 2 ^ format.fractionBits + 2 * 2 ^ format.fractionBits =
        (steps + 1) * 2 ^ format.fractionBits + 2 ^ format.fractionBits :=
  ⟨⟨.inr le_rfl, by omega⟩, by ring⟩

/-- The rank of a full significand counts the significands below it, and its value is the
significand at its exponent. -/
theorem Full.value_eq {steps significand : Nat} (full : format.Full steps significand) :
    format.value (steps * 2 ^ format.fractionBits + significand) =
      significand * 2 ^ (format.minExponent + steps) := by
  have unit : 0 < 2 ^ format.fractionBits := by positivity
  rcases full.short.lt_or_eq with less | rfl
  · obtain ⟨-, significandEq, exponentEq⟩ := full.parts less
    rw [value, significandEq, exponentEq]
  · obtain ⟨next, same⟩ := full_carry format steps
    obtain ⟨-, significandEq, exponentEq⟩ := next.parts (by omega)
    rw [same, value, significandEq, exponentEq]
    push_cast
    rw [← add_assoc, zpow_add_one₀ two_ne_zero]
    ring

theorem exists_full (format : Format) (rank : Nat) :
    ∃ steps significand, format.Full steps significand ∧
      significand < 2 * 2 ^ format.fractionBits ∧
      rank = steps * 2 ^ format.fractionBits + significand := by
  have unit : 0 < 2 ^ format.fractionBits := by positivity
  have parts := Nat.div_add_mod' rank (2 ^ format.fractionBits)
  have rest := Nat.mod_lt rank unit
  cases binade : rank / 2 ^ format.fractionBits with
  | zero =>
      rw [binade] at parts
      exact ⟨0, rank, ⟨.inl rfl, by omega⟩, by omega, by omega⟩
  | succ steps =>
      rw [binade, Nat.succ_mul] at parts
      exact ⟨steps, 2 ^ format.fractionBits + rank % 2 ^ format.fractionBits,
        ⟨.inr (by omega), by omega⟩, by omega, by omega⟩

/-- A whole number is the value of a rank when the rank represents it. -/
theorem represents_iff_value {rank n : Nat} :
    format.Represents rank n ↔ format.value rank = n := by
  have positive : (0 : ℚ) < (format.quotient rank).2 :=
    Nat.cast_pos.mpr (scaleDown_den_pos Nat.one_pos _ _)
  have value : format.value rank = (format.quotient rank).1 / (format.quotient rank).2 := by
    rw [quotient, scaleDown_quotient, Nat.cast_one, div_one, zpow_neg, div_inv_eq_mul, value]
  rw [value, div_eq_iff positive.ne', Represents]
  norm_cast

theorem value_strictMono (format : Format) : StrictMono format.value := by
  apply strictMono_nat_of_lt_succ
  intro rank
  obtain ⟨steps, significand, full, short, rfl⟩ := format.exists_full rank
  have next : format.Full steps (significand + 1) :=
    ⟨full.long.imp_right (Nat.le_succ_of_le ·), short⟩
  rw [full.value_eq, Nat.add_assoc, next.value_eq]
  have unit : (0 : ℚ) < 2 ^ (format.minExponent + steps) := by positivity
  exact mul_lt_mul_of_pos_right (by exact_mod_cast significand.lt_succ_self) unit

theorem value_zero (format : Format) : format.value 0 = 0 := by
  have full : format.Full 0 0 := ⟨.inl rfl, Nat.zero_le _⟩
  have value := full.value_eq
  rwa [Nat.zero_mul, Nat.zero_add, Nat.cast_zero, zero_mul] at value

theorem value_nonneg (format : Format) (rank : Nat) : 0 ≤ format.value rank := by
  rw [← format.value_zero]
  exact format.value_strictMono.monotone rank.zero_le

/-- Every number with few enough significant bits is the value of a rank, unless it is too fine. -/
theorem exists_value (format : Format) {significand : Nat}
    (short : significand ≤ 2 * 2 ^ format.fractionBits) {exponent : Int}
    (coarse : format.minExponent ≤ exponent) :
    ∃ rank, format.value rank = significand * 2 ^ exponent := by
  obtain ⟨above, rfl⟩ := Int.exists_add_of_le coarse
  induction above generalizing significand with
  | zero =>
      have full : format.Full 0 significand := ⟨.inl rfl, short⟩
      exact ⟨_, full.value_eq⟩
  | succ above above_ih =>
      rcases Nat.lt_or_ge significand (2 ^ format.fractionBits) with less | normal
      · -- A short significand is doubled, which takes one step off its exponent.
        have doubled : 2 * significand ≤ 2 * 2 ^ format.fractionBits := by omega
        obtain ⟨rank, value⟩ := above_ih doubled (by omega)
        refine ⟨rank, ?_⟩
        rw [value]
        push_cast
        rw [← add_assoc, zpow_add_one₀ two_ne_zero]
        ring
      · have full : format.Full (above + 1) significand := ⟨.inr normal, short⟩
        exact ⟨_, full.value_eq⟩

section Rounding

variable {num den : Nat}

/-- The significand of a quotient at its exponent is full before it is rounded. -/
theorem exponentOf_bounds (format : Format) (numPositive : 0 < num) (denPositive : 0 < den) :
    format.minExponent ≤ format.exponentOf num den ∧
      (num : ℚ) / den / 2 ^ format.exponentOf num den < (2 * 2 ^ format.fractionBits : Nat) ∧
      (format.exponentOf num den = format.minExponent ∨
        ((2 ^ format.fractionBits : Nat) : ℚ) ≤ num / den / 2 ^ format.exponentOf num den) := by
  have positive : (0 : ℚ) < (num : ℚ) / den := by positivity
  rw [exponentOf_eq_log format numPositive denPositive]
  generalize (num : ℚ) / den = quotient at *
  have scaled (exponent : Int) : ((2 ^ format.fractionBits : Nat) : ℚ) * 2 ^ exponent =
      2 ^ (format.fractionBits + exponent) := by
    push_cast
    rw [← zpow_natCast, ← zpow_add₀ two_ne_zero]
  refine ⟨le_max_left _ _, ?_, ?_⟩
  · have less : Int.log 2 quotient < 1 + (format.fractionBits +
        max format.minExponent (Int.log 2 quotient - format.fractionBits)) := by omega
    rw [← Int.lt_zpow_iff_log_lt Nat.one_lt_two positive] at less
    rw [div_lt_iff₀ (by positivity), Nat.cast_mul, mul_assoc, scaled]
    rwa [zpow_one_add₀ (by norm_num)] at less
  · rcases le_total (Int.log 2 quotient - format.fractionBits) format.minExponent with low | high
    · exact .inl (max_eq_left low)
    · right
      have least : format.fractionBits + (Int.log 2 quotient - format.fractionBits) ≤
          Int.log 2 quotient := by omega
      rw [← Int.zpow_le_iff_le_log Nat.one_lt_two positive] at least
      rw [max_eq_right high, le_div_iff₀ (by positivity), scaled]
      exact_mod_cast least

/-- The significand and the exponent of a rank are those of every quotient with its value. -/
theorem exponentOf_eq (format : Format) (numPositive : 0 < num) (denPositive : 0 < den)
    {steps significand : Nat} (full : format.Full steps significand)
    (short : significand < 2 * 2 ^ format.fractionBits)
    (value : (num : ℚ) / den = significand * 2 ^ (format.minExponent + steps)) :
    format.exponentOf num den = format.minExponent + steps := by
  have positive : (0 : ℚ) < (num : ℚ) / den := by positivity
  have less : Int.log 2 ((num : ℚ) / den) <
      1 + (format.fractionBits + (format.minExponent + steps)) := by
    rw [← Int.lt_zpow_iff_log_lt Nat.one_lt_two positive, value]
    push_cast
    rw [zpow_one_add₀ two_ne_zero, zpow_add₀ two_ne_zero (format.fractionBits : Int), zpow_natCast,
      ← mul_assoc]
    exact mul_lt_mul_of_pos_right (by exact_mod_cast short) (by positivity)
  have least : steps = 0 ∨
      format.fractionBits + (format.minExponent + steps) ≤ Int.log 2 ((num : ℚ) / den) := by
    refine full.long.imp_right fun long => ?_
    rw [← Int.zpow_le_iff_le_log Nat.one_lt_two positive, value]
    push_cast
    rw [zpow_add₀ two_ne_zero (format.fractionBits : Int), zpow_natCast]
    exact mul_le_mul_of_nonneg_right (by exact_mod_cast long) (by positivity)
  rw [exponentOf_eq_log format numPositive denPositive]
  omega

theorem rank_eq (format : Format) (numPositive : 0 < num) :
    format.rank num den = min format.infinity
      ((format.exponentOf num den - format.minExponent).toNat * 2 ^ format.fractionBits +
        divRoundEven (scaleDown num den (format.exponentOf num den)).1
          (scaleDown num den (format.exponentOf num den)).2) := by
  simp only [rank, if_neg numPositive.ne', Nat.pow_eq]

/-- A greater quotient has no lesser rank. -/
theorem rank_mono (format : Format) (denPositive : 0 < den) {num' den' : Nat}
    (denPositive' : 0 < den') (ordered : (num : ℚ) / den ≤ num' / den') :
    format.rank num den ≤ format.rank num' den' := by
  rcases Nat.eq_zero_or_pos num with rfl | numPositive
  · simp [rank]
  have positive : (0 : ℚ) < num / den := by positivity
  have numPositive' : 0 < num' := by
    have positive' : (0 : ℚ) < num' / den' := lt_of_lt_of_le positive ordered
    rcases Nat.eq_zero_or_pos num' with rfl | numPositive'
    · simp at positive'
    · exact numPositive'
  rw [rank_eq format numPositive, rank_eq format numPositive']
  apply min_le_min_left
  have exponents : format.exponentOf num den ≤ format.exponentOf num' den' := by
    rw [exponentOf_eq_log format numPositive denPositive,
      exponentOf_eq_log format numPositive' denPositive']
    exact max_le_max_left _ (sub_le_sub_right (Int.log_mono_right positive ordered) _)
  obtain ⟨least, short, -⟩ := format.exponentOf_bounds numPositive denPositive
  obtain ⟨-, -, long⟩ := format.exponentOf_bounds numPositive' denPositive'
  rcases exponents.lt_or_eq with less | same
  · -- A significand is never longer than the shortest one of the next exponent.
    have high : divRoundEven (scaleDown num den (format.exponentOf num den)).1
        (scaleDown num den (format.exponentOf num den)).2 ≤ 2 * 2 ^ format.fractionBits :=
      divRoundEven_scaleDown_le denPositive _ short.le
    have low : 2 ^ format.fractionBits ≤
        divRoundEven (scaleDown num' den' (format.exponentOf num' den')).1
          (scaleDown num' den' (format.exponentOf num' den')).2 :=
      le_divRoundEven_scaleDown denPositive' _ (long.resolve_left (by omega))
    have step : (format.exponentOf num den - format.minExponent).toNat + 1 ≤
        (format.exponentOf num' den' - format.minExponent).toNat := by omega
    have steps := Nat.mul_le_mul_right (2 ^ format.fractionBits) step
    rw [Nat.succ_mul] at steps
    omega
  · rw [same]
    apply Nat.add_le_add_left
    rw [divRoundEven_scaleDown_le_iff denPositive]
    refine RoundsWithin.mono ?_ (div_le_div_of_nonneg_right ordered (by positivity))
    rw [← divRoundEven_scaleDown_le_iff denPositive']

/-- A quotient that is the value of a rank is rounded to that rank, or to infinity beyond it. -/
theorem rank_of_value (format : Format) (denPositive : 0 < den) {rank : Nat}
    (value : (num : ℚ) / den = format.value rank) :
    format.rank num den = min format.infinity rank := by
  rcases Nat.eq_zero_or_pos num with rfl | numPositive
  · rw [Nat.cast_zero, zero_div, ← format.value_zero, format.value_strictMono.injective.eq_iff]
      at value
    simp [← value, Format.rank]
  · obtain ⟨steps, significand, full, short, rfl⟩ := format.exists_full rank
    rw [full.value_eq] at value
    have exponent := format.exponentOf_eq numPositive denPositive full short value
    have unit : (0 : ℚ) < 2 ^ (format.minExponent + steps) := by positivity
    have rounded : divRoundEven (scaleDown num den (format.exponentOf num den)).1
        (scaleDown num den (format.exponentOf num den)).2 = significand := by
      apply divRoundEven_scaleDown_eq denPositive
      rw [exponent, value, mul_div_cancel_right₀ _ unit.ne']
    rw [rank_eq format numPositive, rounded, exponent, add_sub_cancel_left, Int.toNat_natCast]

end Rounding

end Format

end DatasetGate.Number
