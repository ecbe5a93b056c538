import DatasetGate.Number.Binary

/-!
# Doubles

Floating-point numbers in double precision as data: not a number, or a sign and a rank. Two doubles
are equal as data exactly when they have the same bits, all kinds of not-a-number being one.
Comparison as numbers is `Double.same` and `Double.atMost`: there both zeros are equal and nothing
compares with not-a-number.
-/

set_option autoImplicit false

namespace DatasetGate.Number

/-- A rank on the line of non-negative doubles, infinity included. -/
abbrev Rank := { rank : Nat // rank ≤ Format.binary64.infinity }

inductive Double where
  | nan
  | signed (negative : Bool) (rank : Rank)
  deriving DecidableEq

namespace Double

/-- The double of a sign and a rank; a rank past infinity counts as infinity. -/
def ofRank (negative : Bool) (rank : Nat) : Double :=
  .signed negative ⟨min rank Format.binary64.infinity, Nat.min_le_right _ _⟩

def infinite (negative : Bool) : Double := ofRank negative Format.binary64.infinity

def ofQuotient (negative : Bool) (num den : Nat) : Double :=
  ofRank negative (Format.binary64.rank num den)

/-- The double nearest to a whole number. Zero is the positive one. -/
def ofInt (n : Int) : Double :=
  ofQuotient (decide (n < 0)) n.natAbs 1

def ofBinary (negative : Bool) (significand : Nat) (exponent : Int) : Double :=
  let scaled := scaleDown significand 1 (-exponent)
  ofQuotient negative scaled.1 scaled.2

/-- The double of a rank in single precision, which is always exact. -/
def ofSingle (negative : Bool) (rank : Nat) : Double :=
  if Format.binary32.infinity ≤ rank then infinite negative
  else ofBinary negative (Format.binary32.significand rank) (Format.binary32.exponent rank)

/-- The place of a double that is a number on the line of all doubles: ranks above zero for
positive ones, below zero for negative ones. -/
def place (negative : Bool) (rank : Rank) : Int :=
  if negative then -(rank.val : Int) else (rank.val : Int)

/-- Equality as numbers: both zeros are equal, not-a-number equals nothing. -/
def same : Double → Double → Bool
  | .signed n r, .signed n' r' => place n r == place n' r'
  | _, _ => false

/-- Order as numbers: not-a-number is at most nothing, and nothing is at most it. -/
def atMost : Double → Double → Bool
  | .signed n r, .signed n' r' => decide (place n r ≤ place n' r')
  | _, _ => false

def negate : Double → Double
  | .nan => .nan
  | .signed negative rank => .signed (!negative) rank

/-- The bits of a double in the binary interchange format, with one pattern for not-a-number. -/
def bits : Double → Nat
  | .nan => Format.binary64.infinity + 0x8000000000000
  | .signed negative rank => (if negative then 0x8000000000000000 else 0) + rank.val

end Double
end DatasetGate.Number
