import DatasetGate.Number.Binary

/-!
# Shortest decimals

The decimal with the fewest digits that lies closer to a double than to its neighbours, and among
those the one nearest to the double. The search works on decimal grids: on the grid of `n` digits
only the two points around the number can be hits, and the first grid with a hit wins.
-/

set_option autoImplicit false

namespace DatasetGate.Number

structure Decimal where
  digits : Nat
  exponent : Int
  deriving DecidableEq, Repr

/-- Which of two equally near decimals is taken. -/
inductive Tie where
  | up
  | even
  deriving DecidableEq, Repr

def decimalScale (num den : Nat) (power : Int) : Nat × Nat :=
  if 0 ≤ power then (num, den * Nat.pow 10 power.toNat) else (num * Nat.pow 10 (-power).toNat, den)

def belowPowerOfTen (num den : Nat) (power : Int) : Bool :=
  let scaled := decimalScale num den power
  decide (scaled.1 < scaled.2)

/-- The first power of ten from `power` on that exceeds the quotient, looking at most `fuel`
steps ahead. -/
def powerAbove (num den : Nat) : Nat → Int → Int
  | 0, power => power
  | fuel + 1, power =>
      if belowPowerOfTen num den power then power else powerAbove num den fuel (power + 1)

/-- The count of digits before the decimal point of a positive double's value `num / den`: the
least power of ten above it. The search starts from an estimate where that is a lower bound, and
else from below the least double. -/
def decimalPoint (num den : Nat) : Int :=
  let magnitude : Int := (num.log2 : Int) - (den.log2 : Int)
  let estimate := magnitude * 30103 / 100000 - 1
  let start := if belowPowerOfTen num den (estimate - 1) then -330 else estimate
  powerAbove num den 700 start

/-- The open interval of numbers that round to a double, as quotients over one denominator, and
whether its ends belong to it. -/
structure RoundingInterval where
  low : Nat
  value : Nat
  high : Nat
  den : Nat
  closed : Bool

def roundingInterval (rank : Nat) : RoundingInterval :=
  let format := Format.binary64
  let significand := format.significand rank
  let exponent := format.exponent rank - 2
  let narrow := decide (significand = Nat.pow 2 format.fractionBits) && decide (1 < format.binade rank)
  let up (n : Nat) : Nat := if 0 ≤ exponent then n * Nat.pow 2 exponent.toNat else n
  { low := up (4 * significand - if narrow then 1 else 2)
    value := up (4 * significand)
    high := up (4 * significand + 2)
    den := if 0 ≤ exponent then 1 else Nat.pow 2 (-exponent).toNat
    closed := significand % 2 == 0 }

def RoundingInterval.holds (interval : RoundingInterval) (num den : Nat) : Bool :=
  let left := interval.low * den
  let right := interval.high * den
  let middle := num * interval.den
  if interval.closed then decide (left ≤ middle) && decide (middle ≤ right)
  else decide (left < middle) && decide (middle < right)

def RoundingInterval.holdsDecimal (interval : RoundingInterval) (n : Nat) (power : Int) : Bool :=
  let scaled := if 0 ≤ power then (n * Nat.pow 10 power.toNat, 1) else (n, Nat.pow 10 (-power).toNat)
  interval.holds scaled.1 scaled.2

def gridHit? (tie : Tie) (interval : RoundingInterval) (power : Int) : Option Nat :=
  let scaled := decimalScale interval.value interval.den power
  let below := scaled.1 / scaled.2
  let rest := 2 * (scaled.1 % scaled.2)
  let upper : Bool :=
    decide (scaled.2 < rest) ||
      (rest == scaled.2 && (tie == .up || below % 2 == 1))
  let belowHit := decide (0 < below) && interval.holdsDecimal below power
  let aboveHit := interval.holdsDecimal (below + 1) power
  if belowHit && aboveHit then some (if upper then below + 1 else below)
  else if belowHit then some below
  else if aboveHit then some (below + 1)
  else none

/-- The decimal on the first grid with a hit, among `fuel` grids from the one of `count` digits
on. -/
def firstHit? (tie : Tie) (interval : RoundingInterval) (point : Int) : Nat → Nat → Option Decimal
  | 0, _ => none
  | fuel + 1, count =>
      let power := point - count
      match gridHit? tie interval power with
      | some digits => some ⟨digits, power⟩
      | none => firstHit? tie interval point fuel (count + 1)

/-- The exact value of a finite rank: halves are fives of the next decimal place. -/
def exactDecimal (rank : Nat) : Decimal :=
  let significand := Format.binary64.significand rank
  let exponent := Format.binary64.exponent rank
  if 0 ≤ exponent then ⟨significand * Nat.pow 2 exponent.toNat, 0⟩
  else ⟨significand * Nat.pow 5 (-exponent).toNat, exponent⟩

def Decimal.withoutTrailingZeros : Nat → Decimal → Decimal
  | 0, d => d
  | fuel + 1, d =>
      if d.digits % 10 = 0 ∧ d.digits ≠ 0 then
        withoutTrailingZeros fuel ⟨d.digits / 10, d.exponent + 1⟩
      else d

/-- The count of grids that are searched. Every double has a hit among them. -/
def gridCount : Nat := 20

def shortest (tie : Tie) (rank : Nat) : Decimal :=
  let interval := roundingInterval rank
  let point := decimalPoint interval.value interval.den
  ((firstHit? tie interval point gridCount 1).getD (exactDecimal rank)).withoutTrailingZeros
    gridCount

end DatasetGate.Number
