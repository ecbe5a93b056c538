import DatasetGate.Proofs.Number.Equality
import DatasetGate.Proofs.Number.NearestDouble
import DatasetGate.Proofs.Threshold

/-!
# Whole numbers in cells, exact and rounded

A cell that holds a whole number also holds the double nearest to it. A limit of sixty-four bits is
compared with the number exactly; compared as doubles, number and limit give another answer only where
the number lies below the limit and both are rounded to one double.
-/

set_option autoImplicit false

namespace DatasetGate

open DatasetGate.Text DatasetGate.Number

namespace Number.Double

variable {n limit : Int}

theorem eq_zero_of_ofInt {negative : Bool} (zero : ofInt n = ofRank negative 0) : n = 0 := by
  by_contra nonzero
  have one : 0 < Format.binary64.rank 1 1 := by decide
  have least : Format.binary64.rank 1 1 ≤ Format.binary64.rank n.natAbs 1 := by
    apply Format.rank_mono _ Nat.one_pos Nat.one_pos
    have magnitude : 1 ≤ n.natAbs := by omega
    gcongr
  rw [ofInt, ofQuotient, ofRank, ofRank, signed.injEq, Subtype.mk.injEq] at zero
  have infinity : 0 < Format.binary64.infinity := by decide
  omega

theorem atMost_ofInt_iff_eq (below : n < limit) :
    (ofInt limit).atMost (ofInt n) = true ↔ ofInt n = ofInt limit := by
  constructor
  · intro passed
    rcases eq_or_zeros_of_same (same_of_atMost (atMost_ofInt below.le) passed) with
      equal | ⟨negative, zero, zero'⟩
    · exact equal
    · have first := eq_zero_of_ofInt zero
      have second := eq_zero_of_ofInt zero'
      omega
  · intro equal
    rw [equal]
    exact atMost_ofInt le_rfl

/-- Rounding changes the answer to a limit just where it takes a number below the limit to the same
double as the limit. -/
theorem atMost_ofInt_ne_iff :
    (ofInt limit).atMost (ofInt n) ≠ decide (limit ≤ n) ↔ n < limit ∧ ofInt n = ofInt limit := by
  rcases lt_or_ge n limit with below | passes
  · rw [decide_eq_false below.not_ge, Bool.ne_false_iff, atMost_ofInt_iff_eq below]
    exact (and_iff_right below).symm
  · rw [decide_eq_true passes, atMost_ofInt passes]
    exact iff_of_false (fun differs => differs rfl) fun both => passes.not_gt both.1

theorem atMost_negativeZero_ne_iff :
    (ofInt limit).atMost (ofRank true 0) ≠ decide (limit ≤ 0) ↔
      0 < limit ∧ ofRank true 0 = ofInt limit := by
  have same : (ofRank true 0).same (ofInt 0) = true := by decide
  rw [atMost_congr_right same, atMost_ofInt_ne_iff]
  refine and_congr_right fun positive => iff_of_false (fun equal => ?_) fun equal => ?_
  · have zero := @eq_zero_of_ofInt limit false equal.symm
    omega
  · have zero := eq_zero_of_ofInt equal.symm
    omega

theorem isNearest_negativeZero : (ofRank true 0).IsNearest ((0 : Int) : ℝ) := by
  have nearest := isNearest_whole true (Nat.zero_le (2 ^ 127))
  rwa [Nat.cast_zero, signedNumber, if_pos rfl, neg_zero, ← Int.cast_zero] at nearest

end Number.Double

namespace Cell

variable {cell : Cell} {n : Int}

theorem natAbs_le_of_integer? {type : ColumnType} (held : type.Holds cell)
    (whole : cell.integer? = some n) : n.natAbs ≤ 2 ^ 127 := by
  cases cell with
  | integer value =>
      cases type with
      | integer width =>
          obtain ⟨low, high⟩ := held
          cases whole
          cases width <;> simp only [IntegerType.least, IntegerType.greatest] at low high <;> omega
      | _ => cases held
  | text value =>
      obtain ⟨-, low, high⟩ := integer?_text_eq_some_iff.mp whole
      rw [minInteger] at low
      rw [maxInteger] at high
      omega
  | _ => cases whole

/-- The double of a cell is its whole number rounded, but the text of a zero may have a minus. -/
theorem double?_of_integer? (whole : cell.integer? = some n) :
    cell.double? = some (.ofInt n) ∨ n = 0 ∧ cell.double? = some (.ofRank true 0) := by
  cases cell with
  | integer value =>
      cases whole
      exact .inl rfl
  | text value =>
      obtain ⟨spelled, -⟩ := integer?_text_eq_some_iff.mp whole
      rcases eq_or_ne n 0 with rfl | nonzero
      · have read := readDouble?_spelled spelled
        cases sign : (splitSign (trim value.toList)).1 with
        | false => exact .inl (by rw [double?, parseDouble?, read, sign]; rfl)
        | true => exact .inr ⟨rfl, by rw [double?, parseDouble?, read, sign]; rfl⟩
      · exact .inl (readDouble?_of_spells spelled nonzero)
  | _ => cases whole

end Cell

namespace Check

/-- A cell that is read as a whole number is read as the double nearest to it. A limit of sixty-four
bits gets the exact answer, and the doubles give another one just where the number lies below the limit
and both are rounded to one double. -/
theorem meetsLimit?_rounded {type : ColumnType} {cell : Cell} {n : Int} (held : type.Holds cell)
    (whole : cell.integer? = some n) :
    ∃ x, cell.double? = some x ∧ x.IsNearest n ∧
      ∀ limit, FitsInt64 limit → (Double.ofInt limit).IsNearest limit ∧
        meetsLimit? limit cell = some (decide (limit ≤ n)) ∧
        ((Double.ofInt limit).atMost x ≠ decide (limit ≤ n) ↔ n < limit ∧ x = .ofInt limit) := by
  have small := Cell.natAbs_le_of_integer? held whole
  have exactly (limit : Int) (fits : FitsInt64 limit) : (Double.ofInt limit).IsNearest limit ∧
      meetsLimit? limit cell = some (decide (limit ≤ n)) := by
    rw [FitsInt64] at fits
    refine ⟨Double.isNearest_ofInt (by omega), ?_⟩
    rw [meetsLimit?, whole]
  rcases Cell.double?_of_integer? whole with rounded | ⟨rfl, minusZero⟩
  · refine ⟨_, rounded, Double.isNearest_ofInt small, fun limit fits => ?_⟩
    exact ⟨(exactly limit fits).1, (exactly limit fits).2, Double.atMost_ofInt_ne_iff⟩
  · refine ⟨_, minusZero, Double.isNearest_negativeZero, fun limit fits => ?_⟩
    exact ⟨(exactly limit fits).1, (exactly limit fits).2, Double.atMost_negativeZero_ne_iff⟩

/-- A limit half way between two doubles is rounded to the even one below it, which passes it. -/
theorem meetsLimit?_rounded_half :
    ∃ x, (Cell.text " +0009007199254740992 ").double? = some x ∧
      x.IsNearest (9007199254740992 : Int) ∧
      meetsLimit? 9007199254740993 (.text " +0009007199254740992 ") = some false ∧
      (Double.ofInt 9007199254740993).atMost x = true := by
  have held : ColumnType.text.Holds (.text " +0009007199254740992 ") := trivial
  have whole : (Cell.text " +0009007199254740992 ").integer? = some 9007199254740992 := by
    decide +kernel
  have read : (Cell.text " +0009007199254740992 ").double? =
      some (.ofInt 9007199254740993) := by
    decide +kernel
  obtain ⟨x, rounded, nearest, limits⟩ := meetsLimit?_rounded held whole
  obtain ⟨-, exactly, differs⟩ := limits 9007199254740993 (by decide)
  have equal : x = .ofInt 9007199254740993 := Option.some.inj (rounded.symm.trans read)
  refine ⟨x, rounded, nearest, exactly, ?_⟩
  exact Bool.ne_false_iff.mp (differs.mpr ⟨by decide, equal⟩)

end Check

end DatasetGate
