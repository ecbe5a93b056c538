/-!
# Binary floating-point formats

A format places its non-negative finite numbers on one line of *ranks*: the rank of a number is how
many numbers of the format lie below it, which is also its bit pattern without the sign. `Format.rank`
rounds an exact quotient to the nearest number, a half going to the even rank, and
`Format.significand`, `Format.exponent` give a rank's exact value back.
-/

set_option autoImplicit false

namespace DatasetGate.Number

/-- A binary format: the count of fraction bits, the exponent of its least number, and the rank of
infinity, one above the rank of its greatest finite number. -/
structure Format where
  fractionBits : Nat
  minExponent : Int
  infinity : Nat
  deriving DecidableEq, Repr

def Format.binary64 : Format := ⟨52, -1074, 0x7FF0000000000000⟩

def Format.binary32 : Format := ⟨23, -149, 0x7F800000⟩

def Format.binade (format : Format) (rank : Nat) : Nat :=
  rank / Nat.pow 2 format.fractionBits

/-- The significand of a finite rank: its value is `significand * 2 ^ exponent`. -/
def Format.significand (format : Format) (rank : Nat) : Nat :=
  if format.binade rank = 0 then rank
  else Nat.pow 2 format.fractionBits + rank % Nat.pow 2 format.fractionBits

def Format.exponent (format : Format) (rank : Nat) : Int :=
  if format.binade rank = 0 then format.minExponent
  else format.minExponent + (format.binade rank : Int) - 1

/-- The quotient of two numbers rounded to the nearest whole number, a half to the even one. -/
def divRoundEven (num den : Nat) : Nat :=
  let quotient := num / den
  let twice := 2 * (num % den)
  if twice < den then quotient
  else if den < twice then quotient + 1
  else quotient + quotient % 2

def scaleDown (num den : Nat) (shift : Int) : Nat × Nat :=
  if 0 ≤ shift then (num, den * Nat.pow 2 shift.toNat) else (num * Nat.pow 2 (-shift).toNat, den)

/-- The exponent at which the quotient `num / den` has a significand of full length, or the least
exponent of the format where that is greater. -/
def Format.exponentOf (format : Format) (num den : Nat) : Int :=
  let guess : Int := (num.log2 : Int) - (den.log2 : Int) - (format.fractionBits : Int)
  let scaled := scaleDown num den guess
  let full := if scaled.1 < scaled.2 * Nat.pow 2 format.fractionBits then guess - 1 else guess
  max format.minExponent full

/-- The rank of the number nearest to `num / den`, at most the rank of infinity. A half goes to the
even rank. -/
def Format.rank (format : Format) (num den : Nat) : Nat :=
  if num = 0 then 0
  else
    let exponent := format.exponentOf num den
    let scaled := scaleDown num den exponent
    let steps := (exponent - format.minExponent).toNat * Nat.pow 2 format.fractionBits
    min format.infinity (steps + divRoundEven scaled.1 scaled.2)

end DatasetGate.Number
