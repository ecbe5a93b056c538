import DatasetGate.Expectation
import DatasetGate.Proofs.Number.Doubles

/-!
# Equality of numbers

An expected number accepts every cell of the same number. It accepts one more cell where an integer
is compared with a double and no double stands for the integer: the double that the integer is
rounded to.
-/

set_option autoImplicit false

namespace DatasetGate

open DatasetGate.Number

/-- The number that a cell holds. Only integer and floating cells hold one. -/
noncomputable def Cell.number? : Cell → Option EReal
  | .integer n => some ((n : ℝ) : EReal)
  | .float x => x.number?
  | _ => none

namespace Expectation

/-- The number that is expected. -/
noncomputable def number? : Expectation → Option EReal
  | .integer n => some ((n : ℝ) : EReal)
  | .float x => x.number?
  | _ => none

/-- The integer and the double that are compared, either of them as what is expected. -/
def mixed? : Expectation → Cell → Option (Int × Double)
  | .integer n, .float x => some (n, x)
  | .float x, .integer n => some (n, x)
  | _, _ => none

/-- Beside its own number, an integer equals the double that it is rounded to. -/
theorem same_ofInt_iff {x : Double} {n : Int} :
    x.same (.ofInt n) = true ↔
      x.number? = some ((n : ℝ) : EReal) ∨
        ¬ IsDouble n ∧ x.number? = (Double.ofInt n).number? := by
  obtain ⟨rounded, number⟩ := exists_number?_ofInt n
  simp only [Double.same_iff, number, Option.some_inj, exists_eq_right']
  by_cases exactly : IsDouble n
  · have same : ((n : ℝ) : EReal) = rounded := by
      rw [number?_ofInt exactly, Option.some_inj] at number
      exact number
    simp only [exactly, not_true, false_and, or_false, same]
  · have other : x.number? ≠ some ((n : ℝ) : EReal) := fun stands => exactly ⟨x, stands⟩
    simp only [exactly, not_false_eq_true, true_and, other, false_or]

/-- A number is met by the cells of the same number, and by the double that an integer is rounded to
where no double stands for the integer. Single precision makes no difference to the number of a
cell. -/
theorem accepts_iff_sameNumber {expected : Expectation} {number : EReal}
    (stated : expected.number? = some number) :
    (∀ cell : Cell, expected.accepts cell = true ↔
      cell.number? = some number ∨
        ∃ n x, expected.mixed? cell = some (n, x) ∧ ¬ IsDouble n ∧
          x.number? = (Double.ofInt n).number?) ∧
      ∀ negative rank, (Cell.float (.ofSingle negative rank)).number? =
        some (withSign negative (Format.binary32.magnitude rank)) := by
  refine ⟨fun cell => ?_, number?_ofSingle⟩
  cases expected with
  | integer n =>
      obtain rfl : ((n : ℝ) : EReal) = number := Option.some_inj.mp stated
      cases cell with
      | integer m =>
          simp only [accepts, beq_iff_eq, Cell.number?, Option.some_inj, EReal.coe_eq_coe_iff,
            Int.cast_inj, mixed?, reduceCtorEq, false_and, exists_false, or_false]
          exact eq_comm
      | float x => simp [accepts, same_ofInt_iff, Cell.number?, mixed?]
      | _ => simp [accepts, Cell.number?, mixed?]
  | float y =>
      have stands : y.number? = some number := stated
      cases cell with
      | integer m =>
          rw [accepts, Double.same_comm, same_ofInt_iff]
          simp [Cell.number?, mixed?, stands, eq_comm]
      | float x => simp [accepts, Double.same_iff, Cell.number?, mixed?, stands]
      | _ => simp [accepts, Cell.number?, mixed?]
  | _ => cases stated

/-- The least natural number for which no double stands is met by the double of the number before
it, and not by that number as an integer. -/
theorem accepts_iff_sameNumber_rounded :
    (integer (2 ^ 53 + 1)).accepts (.float (.ofInt (2 ^ 53))) = true ∧ ¬ IsDouble (2 ^ 53 + 1) ∧
      (Cell.float (.ofInt (2 ^ 53))).number? ≠ (integer (2 ^ 53 + 1)).number? ∧
      (integer (2 ^ 53 + 1)).accepts (.integer (2 ^ 53)) = false := by
  have before : (Cell.float (.ofInt (2 ^ 53))).number? = some (((2 ^ 53 : Int) : ℝ) : EReal) :=
    number?_ofInt (isDouble_of_le (by decide))
  have differs : (Cell.float (.ofInt (2 ^ 53))).number? ≠ (integer (2 ^ 53 + 1)).number? := by
    rw [before, number?, ne_eq, Option.some_inj, EReal.coe_eq_coe_iff, Int.cast_inj]
    decide
  have accepted : (integer (2 ^ 53 + 1)).accepts (.float (.ofInt (2 ^ 53))) = true := by
    decide +kernel
  have stated : (integer (2 ^ 53 + 1)).number? = some (((2 ^ 53 + 1 : Int) : ℝ) : EReal) := rfl
  rcases ((accepts_iff_sameNumber stated).1 _).mp accepted with same | ⟨n, x, mixed, inexact, -⟩
  · exact absurd same differs
  · cases mixed
    exact ⟨accepted, inexact, differs, by decide⟩

end Expectation
end DatasetGate
