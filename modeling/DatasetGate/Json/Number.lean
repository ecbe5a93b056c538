import DatasetGate.Json.Basic

/-!
# Numbers in JSON

The value of a number literal. A literal without point and exponent is a whole number where it fits
64 bits. Any other literal takes the digits of its significand as far as they fit 64 unsigned bits,
rounds that to a double, and multiplies or divides it once by the power of ten that is left; the
result may be a neighbour of the double nearest to the literal.
-/

set_option autoImplicit false

namespace DatasetGate.Json

open DatasetGate.Number

/-- The greatest significand. -/
def maxSignificand : Nat := 0xFFFFFFFFFFFFFFFF

/-- Digits taken into a significand as long as it stays at most `maxSignificand`, and the digits
that are left. -/
def takeDigits : List Char → Nat → Nat × List Char
  | [], significand => (significand, [])
  | c :: rest, significand =>
      let next := 10 * significand + (c.toNat - '0'.toNat)
      if maxSignificand < next then (significand, c :: rest) else takeDigits rest next

def rankProduct (a b : Nat) : Nat :=
  let format := Format.binary64
  let x := scaleDown (format.significand a) 1 (-format.exponent a)
  let y := scaleDown (format.significand b) 1 (-format.exponent b)
  format.rank (x.1 * y.1) (x.2 * y.2)

/-- The quotient of two finite doubles given by their ranks, rounded. The divisor is not zero. -/
def rankQuotient (a b : Nat) : Nat :=
  let format := Format.binary64
  let x := scaleDown (format.significand a) 1 (-format.exponent a)
  let y := scaleDown (format.significand b) 1 (-format.exponent b)
  format.rank (x.1 * y.2) (x.2 * y.1)

def powerOfTenRank (power : Nat) : Nat :=
  Format.binary64.rank (Nat.pow 10 power) 1

/-- The greatest power of ten that a number is multiplied or divided by at once. -/
def maxPower : Nat := 308

/-- A finite double times a power of ten, in steps of at most `maxPower`. A result past the greatest
double is refused. Four steps reach zero from any double. -/
def scaleByTen? : Nat → Nat → Int → Option Nat
  | 0, rank, _ => some rank
  | fuel + 1, rank, power =>
      if power.natAbs ≤ maxPower then
        if 0 ≤ power then
          let product := rankProduct rank (powerOfTenRank power.natAbs)
          if Format.binary64.infinity ≤ product then none else some product
        else some (rankQuotient rank (powerOfTenRank power.natAbs))
      else if rank = 0 then some 0
      else if 0 ≤ power then none
      else scaleByTen? fuel (rankQuotient rank (powerOfTenRank maxPower)) (power + maxPower)

/-- The parts of a number literal. The fraction is there when a point is, the exponent when a mark
is. -/
structure NumberParts where
  negative : Bool
  whole : List Char
  fraction : Option (List Char)
  exponent : Option Int
  deriving DecidableEq, Repr

def digitsValue (cs : List Char) : Nat :=
  cs.foldl (fun value c => 10 * value + (c.toNat - '0'.toNat)) 0

def exponentValue : List Char → Int
  | '-' :: digits => -(digitsValue digits : Int)
  | '+' :: digits => (digitsValue digits : Int)
  | digits => (digitsValue digits : Int)

def NumberParts.ofText (text : List Char) : NumberParts :=
  let isDigit (c : Char) : Bool := decide ('0' ≤ c ∧ c ≤ '9')
  let negative := text.head? == some '-'
  let unsigned := if negative then text.drop 1 else text
  let afterWhole := unsigned.dropWhile isDigit
  let hasPoint := afterWhole.head? == some '.'
  let afterPoint := if hasPoint then afterWhole.drop 1 else afterWhole
  let afterFraction := if hasPoint then afterPoint.dropWhile isDigit else afterPoint
  { negative
    whole := unsigned.takeWhile isDigit
    fraction := if hasPoint then some (afterPoint.takeWhile isDigit) else none
    exponent := if afterFraction.isEmpty then none else some (exponentValue (afterFraction.drop 1)) }

def NumberParts.double? (parts : NumberParts) : Option Double :=
  let whole := takeDigits parts.whole 0
  let fractionDigits := parts.fraction.getD []
  let fraction := takeDigits fractionDigits whole.1
  let taken : Int := (fractionDigits.length : Int) - (fraction.2.length : Int)
  let power : Int := (whole.2.length : Int) - taken + parts.exponent.getD 0
  (scaleByTen? 4 (Format.binary64.rank fraction.1 1) power).map (Double.ofRank parts.negative)

/-- The value of a number literal. A whole number is one of the signed or the unsigned numbers of 64
bits; minus zero and whole numbers beyond those are doubles. A literal past the greatest double has
no value. -/
def NumberParts.value? (parts : NumberParts) : Option Json :=
  let whole := takeDigits parts.whole 0
  if parts.fraction.isNone && parts.exponent.isNone && whole.2.isEmpty then
    if !parts.negative then some (.integer whole.1)
    else if 0 < whole.1 ∧ whole.1 ≤ 0x8000000000000000 then some (.integer (-(whole.1 : Int)))
    else some (.float ((Double.ofInt whole.1).negate))
  else parts.double?.map .float

def numberValue? (text : List Char) : Option Json :=
  (NumberParts.ofText text).value?

end DatasetGate.Json
