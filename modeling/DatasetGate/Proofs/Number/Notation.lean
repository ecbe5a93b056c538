import DatasetGate.Number.Notation
import DatasetGate.Proofs.Number.Numerals
import DatasetGate.Proofs.Text.Signed

/-!
# Whole numbers read as doubles

Text that spells a whole number is read as the double nearest to that number, however many digits it
has. Rounding whole numbers to doubles keeps their order.
-/

set_option autoImplicit false

namespace DatasetGate.Number

open DatasetGate.Text

section Reading

variable {cs : List Char}

/-- A text with a digit behind its sign is a numeral, and not the name of a number. -/
theorem readLiteral?_of_digit {c : Char} {rest : List Char} (shape : (splitSign cs).2 = c :: rest)
    (digit : isDigit c = true) :
    readLiteral? cs = (readUnsigned? (splitSign cs).1 (splitSign cs).2).map .numeral := by
  have unnamed : c.toLower ≠ 'i' ∧ c.toLower ≠ 'n' :=
    of_isDigit (fun c => c.toLower ≠ 'i' ∧ c.toLower ≠ 'n') digit (by decide)
  have split : readLiteral? cs =
      if String.ofList ((splitSign cs).2.map Char.toLower) = "inf" ∨
        String.ofList ((splitSign cs).2.map Char.toLower) = "infinity" then
          some (.infinite (splitSign cs).1)
      else if String.ofList ((splitSign cs).2.map Char.toLower) = "nan" then some .nan
      else (readUnsigned? (splitSign cs).1 (splitSign cs).2).map .numeral := rfl
  rw [split]
  simp [shape, ← String.toList_inj, unnamed]

/-- Digits alone are a whole number. -/
theorem readUnsigned?_of_digits (negative : Bool) (digits : ∀ c ∈ cs, isDigit c = true)
    (nonempty : cs ≠ []) :
    readUnsigned? negative cs = some ⟨negative, Nat.ofDigitChars 10 cs 0, 0⟩ := by
  have run : spanDigits cs = (cs, []) := by
    rw [spanDigits, List.takeWhile_eq_self_iff.mpr digits, List.dropWhile_eq_nil_iff.mpr digits]
  simp [readUnsigned?, run, readNatural?_eq_some digits nonempty, readExponent?]

/-- A whole number is read as the double nearest to it, also past the greatest double. -/
theorem toDouble_whole (negative : Bool) (n : Nat) :
    Numeral.toDouble ⟨negative, n, 0⟩ = .ofQuotient negative n 1 :=
  Numeral.toDouble_eq Nat.one_pos (by simp)

/-- A spelled number is read as the double nearest to it, and zero with the sign before it. -/
theorem readDouble?_spelled {n : Int} (spelled : Spells cs n) :
    readDouble? cs = some (.ofQuotient (splitSign cs).1 n.natAbs 1) := by
  obtain ⟨c, rest, shape⟩ := List.exists_cons_of_ne_nil spelled.nonempty
  have digit : isDigit c = true := spelled.digits c (shape ▸ List.mem_cons_self)
  rw [readDouble?, readLiteral?_of_digit shape digit,
    readUnsigned?_of_digits _ spelled.digits spelled.nonempty, Option.map_some, Option.map_some,
    Literal.toDouble, toDouble_whole, ← spelled.value, natAbs_signed]

/-- Minus zero apart, a spelled number is read as the double nearest to it. -/
theorem readDouble?_of_spells {n : Int} (spelled : Spells cs n) (nonzero : n ≠ 0) :
    readDouble? cs = some (.ofInt n) := by
  rw [readDouble?_spelled spelled, Double.ofInt]
  rw [← spelled.value] at nonzero ⊢
  rw [decide_signed_neg nonzero]

end Reading

namespace Double

theorem atMost_trans {x y z : Double} (first : x.atMost y = true) (second : y.atMost z = true) :
    x.atMost z = true := by
  cases x with
  | nan => cases first
  | signed negative rank =>
      cases y with
      | nan => cases first
      | signed negative' rank' =>
          cases z with
          | nan => cases second
          | signed negative'' rank'' =>
              rw [atMost, decide_eq_true_eq] at *
              exact first.trans second

/-- Rounding to a double keeps the order of whole numbers. -/
theorem atMost_ofInt {m n : Int} (ordered : m ≤ n) : (ofInt m).atMost (ofInt n) = true := by
  have rank_le {a b : Nat} (le : a ≤ b) : Format.binary64.rank a 1 ≤ Format.binary64.rank b 1 := by
    apply Format.rank_mono _ Nat.one_pos Nat.one_pos
    gcongr
  rw [ofInt, ofInt, ofQuotient, ofQuotient, ofRank, ofRank, atMost, decide_eq_true_eq, place, place]
  rcases lt_or_ge n 0 with negative | natural
  · have both : m < 0 := by omega
    have ranks := rank_le (show n.natAbs ≤ m.natAbs by omega)
    simp only [both, negative, decide_true, if_true]
    omega
  · rcases lt_or_ge m 0 with below | both
    · simp only [below, natural.not_gt, decide_true, decide_false, if_true, Bool.false_eq_true,
        if_false]
      omega
    · have ranks := rank_le (show m.natAbs ≤ n.natAbs by omega)
      simp only [both.not_gt, natural.not_gt, decide_false, Bool.false_eq_true, if_false]
      omega

end Double
end DatasetGate.Number
