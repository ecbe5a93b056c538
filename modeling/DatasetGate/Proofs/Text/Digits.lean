import DatasetGate.Text.Integer
import Mathlib

/-!
# Digits and numbers

What the readers of whole numbers make of decimal text. They all take the value that a run of digits
has in base ten, and the text of a number, padded or not, is a run of digits with that value.
-/

set_option autoImplicit false

namespace DatasetGate.Text

theorem isDigit_eq_isDigit (c : Char) : isDigit c = c.isDigit := by
  have bounds : ('0' ≤ c ∧ c ≤ '9') ↔ c.isDigit = true := by
    simp [Char.isDigit, Char.le_def]
  by_cases digit : c.isDigit = true
  · simp [isDigit, digitValue?, bounds, digit]
  · simp [isDigit, digitValue?, bounds, digit]

theorem bounds_of_isDigit {c : Char} (digit : isDigit c = true) :
    48 ≤ c.toNat ∧ c.toNat ≤ 57 := by
  rw [isDigit_eq_isDigit, Char.isDigit, Bool.and_eq_true, decide_eq_true_eq,
    decide_eq_true_eq] at digit
  exact digit

theorem mem_of_isDigit {c : Char} (digit : isDigit c = true) :
    c ∈ ['0', '1', '2', '3', '4', '5', '6', '7', '8', '9'] := by
  obtain ⟨low, high⟩ := bounds_of_isDigit digit
  rw [← Char.ofNat_toNat c]
  generalize c.toNat = code at low high
  interval_cases code <;> decide

/-- What the ten digits meet, every digit meets. -/
theorem of_isDigit (condition : Char → Prop) [DecidablePred condition] {c : Char}
    (digit : isDigit c = true)
    (all : ['0', '1', '2', '3', '4', '5', '6', '7', '8', '9'].all (condition ·) = true) :
    condition c :=
  of_decide_eq_true (List.all_eq_true.mp all c (mem_of_isDigit digit))

theorem digitValue?_eq_some {c : Char} (digit : isDigit c = true) :
    digitValue? c = some (c.toNat - '0'.toNat) := by
  cases valued : digitValue? c with
  | none => simp [isDigit, valued] at digit
  | some value =>
      unfold digitValue? at valued
      split at valued
      · rw [← valued]
      · cases valued

theorem continueDigits?_eq_some {cs : List Char} (digits : ∀ c ∈ cs, isDigit c = true)
    (value : Nat) : continueDigits? cs value = some (Nat.ofDigitChars 10 cs value) := by
  induction cs generalizing value with
  | nil => rfl
  | cons c rest rest_ih =>
      rw [continueDigits?, digitValue?_eq_some (digits c List.mem_cons_self),
        Nat.ofDigitChars_cons]
      exact rest_ih (fun d member => digits d (List.mem_cons_of_mem _ member)) _

theorem readNatural?_eq_some {cs : List Char} (digits : ∀ c ∈ cs, isDigit c = true)
    (nonempty : cs ≠ []) : readNatural? cs = some (Nat.ofDigitChars 10 cs 0) := by
  cases cs with
  | nil => exact absurd rfl nonempty
  | cons c rest => exact continueDigits?_eq_some digits 0

theorem isDigit_of_mem_toDigits {n : Nat} {c : Char} (member : c ∈ Nat.toDigits 10 n) :
    isDigit c = true := by
  rw [isDigit_eq_isDigit]
  exact Nat.isDigit_of_mem_toDigits (by decide) (by decide) member

theorem ofDigitChars_lt {cs : List Char} (digits : ∀ c ∈ cs, isDigit c = true)
    (value : Nat) : Nat.ofDigitChars 10 cs value < (value + 1) * 10 ^ cs.length := by
  induction cs generalizing value with
  | nil => simp
  | cons c rest rest_ih =>
      have bounds : c.toNat - '0'.toNat ≤ 9 := by
        have digit := digits c List.mem_cons_self
        rw [isDigit_eq_isDigit, Char.isDigit, Bool.and_eq_true, decide_eq_true_eq,
          decide_eq_true_eq] at digit
        have high : c.toNat ≤ 57 := digit.2
        have zero : '0'.toNat = 48 := rfl
        omega
      calc Nat.ofDigitChars 10 (c :: rest) value
          = Nat.ofDigitChars 10 rest (10 * value + (c.toNat - '0'.toNat)) := Nat.ofDigitChars_cons
        _ < (10 * value + (c.toNat - '0'.toNat) + 1) * 10 ^ rest.length :=
          rest_ih (fun d member => digits d (List.mem_cons_of_mem _ member)) _
        _ ≤ (value + 1) * 10 * 10 ^ rest.length := by
          apply Nat.mul_le_mul_right
          omega
        _ = (value + 1) * 10 ^ (c :: rest).length := by
          rw [List.length_cons, Nat.pow_succ]
          ring

/-- Only zero is written with a leading zero. -/
theorem toDigits_eq_cons (n : Nat) :
    Nat.toDigits 10 n = ['0'] ∨
      ∃ c digits, Nat.toDigits 10 n = c :: digits ∧ c ≠ '0' ∧ isDigit c = true := by
  cases shown : Nat.toDigits 10 n with
  | nil => exact absurd shown Nat.toDigits_ne_nil
  | cons c digits =>
      have digit : isDigit c = true := by
        apply isDigit_of_mem_toDigits
        rw [shown]
        exact List.mem_cons_self
      by_cases zero : c = '0'
      · have value : Nat.ofDigitChars 10 digits 0 = n := by
          rw [← @Nat.ofDigitChars_ten_toDigits n, shown, zero, Nat.ofDigitChars_cons]
          rfl
        cases digits with
        | nil => exact .inl (by rw [zero])
        | cons d digits =>
            have small : n < 10 ^ (d :: digits).length := by
              rw [← value]
              have more : ∀ e ∈ d :: digits, isDigit e = true := fun e member =>
                isDigit_of_mem_toDigits (shown ▸ List.mem_cons_of_mem c member)
              have bounded := ofDigitChars_lt more 0
              rwa [Nat.zero_add, Nat.one_mul] at bounded
            have short := (Nat.length_toDigits_le_iff (by decide) (by simp)).mpr small
            rw [shown] at short
            simp at short
      · exact .inr ⟨c, digits, rfl, zero, digit⟩

/-- A power of ten puts zeros behind the digits of a number. -/
theorem toDigits_mul_pow {n : Nat} (positive : 0 < n) (power : Nat) :
    Nat.toDigits 10 (n * 10 ^ power) = Nat.toDigits 10 n ++ List.replicate power '0' := by
  induction power with
  | zero => simp
  | succ power power_ih =>
      have shifted : n * 10 ^ (power + 1) = 10 * (n * 10 ^ power) + 0 := by ring
      have grown : 0 < n * 10 ^ power := Nat.mul_pos positive (Nat.pow_pos (by decide))
      rw [shifted, ← Nat.toDigits_append_toDigits (by decide) grown (by decide), power_ih,
        List.replicate_succ', List.append_assoc]
      rfl

theorem toList_toString_int (n : Int) :
    (toString n).toList =
      if n < 0 then '-' :: Nat.toDigits 10 n.natAbs else Nat.toDigits 10 n.natAbs := by
  rw [Int.toString_eq_repr, Int.repr_eq_if]
  by_cases negative : n < 0
  · have magnitude : (-n).toNat = n.natAbs := by omega
    rw [if_neg (by omega), if_pos negative, magnitude, String.toList_append, Nat.toList_repr]
    rfl
  · have magnitude : n.toNat = n.natAbs := by omega
    rw [if_pos (by omega), if_neg negative, magnitude, Nat.toList_repr]

theorem toList_zeroPadded (width n : Nat) : (zeroPadded width n).toList =
    List.replicate (width - (Nat.toDigits 10 n).length) '0' ++ Nat.toDigits 10 n := by
  simp [zeroPadded, Nat.repr_eq_ofList_toDigits]

theorem isDigit_of_mem_zeroPadded {width n : Nat} {c : Char}
    (member : c ∈ (zeroPadded width n).toList) : isDigit c = true := by
  rw [toList_zeroPadded, List.mem_append] at member
  rcases member with zero | digit
  · rw [List.eq_of_mem_replicate zero]
    decide
  · exact isDigit_of_mem_toDigits digit

theorem length_zeroPadded {width n : Nat} (positive : 0 < width) (fits : n < 10 ^ width) :
    (zeroPadded width n).toList.length = width := by
  have short := (Nat.length_toDigits_le_iff (by decide) positive).mpr fits
  rw [toList_zeroPadded, List.length_append, List.length_replicate]
  omega

theorem ofDigitChars_zeroPadded (width n : Nat) :
    Nat.ofDigitChars 10 (zeroPadded width n).toList 0 = n := by
  rw [toList_zeroPadded, Nat.ofDigitChars_append, Nat.ofDigitChars_replicate_zero, Nat.mul_zero,
    Nat.ofDigitChars_ten_toDigits]

theorem zeroPadded_ne_nil (width n : Nat) : (zeroPadded width n).toList ≠ [] := by
  rw [toList_zeroPadded]
  exact List.append_ne_nil_of_right_ne_nil _ Nat.toDigits_ne_nil

end DatasetGate.Text
