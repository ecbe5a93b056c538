import DatasetGate.Proofs.Number.Notation
import DatasetGate.Proofs.Number.WholeText
import DatasetGate.Proofs.NumberEquality

/-!
# Equal doubles

Doubles that compare as equal are the same but for the sign of a zero, and limits cannot tell them
apart. Rounding moves no whole number onto or past one below `2 ^ 53` in magnitude.
-/

set_option autoImplicit false

namespace DatasetGate

open DatasetGate.Number

namespace Number.Double

/-- A zero with a minus sign. -/
def isNegativeZero : Double → Bool
  | .nan => false
  | .signed negative rank => negative && rank.val == 0

variable {x y z : Double}

theorem same_trans_left (same : x.same y = true) (z : Double) : x.same z = y.same z := by
  cases x with
  | nan => cases same
  | signed negative rank =>
      cases y with
      | nan => cases same
      | signed negative' rank' =>
          rw [Double.same, beq_iff_eq] at same
          cases z with
          | nan => rfl
          | signed negative'' rank'' => rw [Double.same, Double.same, same]

theorem atMost_congr_right (same : x.same y = true) (z : Double) : z.atMost x = z.atMost y := by
  cases x with
  | nan => cases same
  | signed negative rank =>
      cases y with
      | nan => cases same
      | signed negative' rank' =>
          rw [Double.same, beq_iff_eq] at same
          cases z with
          | nan => rfl
          | signed negative'' rank'' => rw [atMost, atMost, same]

theorem same_of_atMost (below : x.atMost y = true) (above : y.atMost x = true) :
    x.same y = true := by
  cases x with
  | nan => cases below
  | signed negative rank =>
      cases y with
      | nan => cases below
      | signed negative' rank' =>
          rw [atMost, decide_eq_true_eq] at below above
          rw [Double.same, beq_iff_eq]
          exact le_antisymm below above

/-- Equal numbers are equal doubles but for the sign of a zero. -/
theorem eq_or_zeros_of_same (same : x.same y = true) :
    x = y ∨ ∃ negative, x = .ofRank negative 0 ∧ y = .ofRank (!negative) 0 := by
  cases x with
  | nan => cases same
  | signed negative rank =>
      cases y with
      | nan => cases same
      | signed negative' rank' =>
          rw [Double.same, beq_iff_eq, place_eq_iff] at same
          split at same
          · rename_i signs
            rw [signs, Subtype.ext same]
            exact .inl rfl
          · rename_i signs
            obtain rfl : negative' = !negative := Bool.eq_not.mpr (Ne.symm signs)
            exact .inr ⟨negative, congrArg _ (Subtype.ext same.1), congrArg _ (Subtype.ext same.2)⟩

theorem eq_of_same (same : x.same y = true) (signs : x.isNegativeZero = y.isNegativeZero) :
    x = y := by
  rcases eq_or_zeros_of_same same with equal | ⟨negative, rfl, rfl⟩
  · exact equal
  · revert signs
    cases negative <;> decide

theorem ofInt_not_isNegativeZero {n : Int} (small : n.natAbs < 2 ^ 53) :
    (ofInt n).isNegativeZero = false := by
  rcases lt_or_ge n 0 with negative | natural
  · have some := rank_pos (show 0 < n.natAbs by omega) small
    simp only [ofInt, ofQuotient, ofRank, isNegativeZero, min_eq_left (rank_lt_infinity small).le,
      Bool.and_eq_false_iff, beq_eq_false_iff_ne]
    exact .inr some.ne'
  · simp only [ofInt, ofQuotient, ofRank, isNegativeZero, decide_eq_false natural.not_gt,
      Bool.false_and]

/-- Whole numbers up to `2 ^ 53` in magnitude have doubles of their own. -/
theorem eq_of_same_ofInt {n m : Int} (small : n.natAbs ≤ 2 ^ 53) (smallToo : m.natAbs ≤ 2 ^ 53)
    (same : (ofInt n).same (ofInt m) = true) : n = m := by
  obtain ⟨number, own, other⟩ := same_iff.mp same
  rw [number?_ofInt (isDouble_of_le small)] at own
  rw [number?_ofInt (isDouble_of_le smallToo), ← own, Option.some_inj, EReal.coe_eq_coe_iff,
    Int.cast_inj] at other
  exact other.symm

/-- Next to a whole number below `2 ^ 53`, rounding moves no other one onto it or past it. -/
theorem atMost_ofInt_iff {n : Int} (small : n.natAbs < 2 ^ 53) (m : Int) :
    (ofInt m).atMost (ofInt n) = true ↔ m ≤ n := by
  refine ⟨fun below => ?_, atMost_ofInt⟩
  by_contra greater
  -- Otherwise the doubles of `n`, of `m` and of all numbers between them are the same.
  have next : (ofInt (n + 1)).atMost (ofInt n) = true :=
    atMost_trans (atMost_ofInt (by omega)) below
  have equal := eq_of_same_ofInt (by omega) small.le (same_of_atMost next (atMost_ofInt (by omega)))
  omega

theorem ofInt_atMost_iff {n : Int} (small : n.natAbs < 2 ^ 53) (m : Int) :
    (ofInt n).atMost (ofInt m) = true ↔ n ≤ m := by
  refine ⟨fun above => ?_, atMost_ofInt⟩
  by_contra less
  have next : (ofInt n).atMost (ofInt (n - 1)) = true :=
    atMost_trans above (atMost_ofInt (by omega))
  have equal := eq_of_same_ofInt small.le (by omega) (same_of_atMost next (atMost_ofInt (by omega)))
  omega

theorem same_ofInt_ofInt {n : Int} (small : n.natAbs < 2 ^ 53) (m : Int) :
    (ofInt n).same (ofInt m) = (m == n) := by
  rw [Bool.eq_iff_iff, beq_iff_eq]
  constructor
  · intro same
    have below : (ofInt n).atMost (ofInt m) = true := by
      rw [← atMost_congr_right same]
      exact atMost_ofInt le_rfl
    have above : (ofInt m).atMost (ofInt n) = true := by
      rw [atMost_congr_right same]
      exact atMost_ofInt le_rfl
    exact le_antisymm ((atMost_ofInt_iff small m).mp above) ((ofInt_atMost_iff small m).mp below)
  · rintro rfl
    exact same_of_atMost (atMost_ofInt le_rfl) (atMost_ofInt le_rfl)

end Number.Double

end DatasetGate
