/-!
# Whole numbers in text

Reading whole numbers written in ASCII digits. `readInteger?` takes a sign and one or more digits
of any count; `readBounded` reads the same notation within given bounds and says what is wrong with
a text that it refuses.
-/

set_option autoImplicit false

namespace DatasetGate.Text

def digitValue? (c : Char) : Option Nat :=
  if '0' ≤ c ∧ c ≤ '9' then some (c.toNat - '0'.toNat) else none

def isDigit (c : Char) : Bool :=
  (digitValue? c).isSome

/-- The number that a run of ASCII digits continues from `value`; other characters end the reading
without a result. -/
def continueDigits? : List Char → Nat → Option Nat
  | [], value => some value
  | c :: rest, value =>
      match digitValue? c with
      | some digit => continueDigits? rest (10 * value + digit)
      | none => none

def readNatural? : List Char → Option Nat
  | [] => none
  | c :: rest => continueDigits? (c :: rest) 0

def readInteger? : List Char → Option Int
  | '-' :: rest => (readNatural? rest).map fun n => -(n : Int)
  | '+' :: rest => (readNatural? rest).map fun n => (n : Int)
  | cs => (readNatural? cs).map fun n => (n : Int)

inductive IntegerFault where
  | empty
  | invalidDigit
  | tooLarge
  | tooSmall
  deriving DecidableEq, Repr

def IntegerFault.message : IntegerFault → String
  | .empty => "cannot parse integer from empty string"
  | .invalidDigit => "invalid digit found in string"
  | .tooLarge => "number too large to fit in target type"
  | .tooSmall => "number too small to fit in target type"

/-- Reads digits into the magnitude of a number from `low` to `high`. The leftmost position that is
no digit or that leaves the bounds decides the fault. -/
def readDigitsWithin (negative : Bool) (low high : Int) : List Char → Nat → Except IntegerFault Int
  | [], magnitude => .ok (if negative then -(magnitude : Int) else magnitude)
  | c :: rest, magnitude =>
      match digitValue? c with
      | none => .error .invalidDigit
      | some digit =>
          let next := 10 * magnitude + digit
          if negative && decide (-(next : Int) < low) then .error .tooSmall
          else if !negative && decide (high < (next : Int)) then .error .tooLarge
          else readDigitsWithin negative low high rest next

/-- A whole number from `low` to `high`: an optional sign, then one or more ASCII digits. A sign
alone counts as an invalid digit. -/
def readBounded (low high : Int) : List Char → Except IntegerFault Int
  | [] => .error .empty
  | ['-'] => .error .invalidDigit
  | ['+'] => .error .invalidDigit
  | '-' :: rest => readDigitsWithin true low high rest 0
  | '+' :: rest => readDigitsWithin false low high rest 0
  | cs => readDigitsWithin false low high cs 0

/-- A number fits a signed field of 64 bits. -/
def FitsInt64 (n : Int) : Prop :=
  -0x8000000000000000 ≤ n ∧ n < 0x8000000000000000

instance (n : Int) : Decidable (FitsInt64 n) := by
  unfold FitsInt64; infer_instance

/-- The decimal text of a natural number padded with zeros on the left to at least `width`
digits. -/
def zeroPadded (width n : Nat) : String :=
  let digits := toString n
  String.ofList (List.replicate (width - digits.length) '0') ++ digits

end DatasetGate.Text
