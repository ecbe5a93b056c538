import DatasetGate.Number.Double
import DatasetGate.Number.Shortest
import DatasetGate.Text.Blank
import DatasetGate.Text.Integer

/-!
# Numbers in text

Reading a double from decimal notation, correctly rounded, and the two ways a double is written:
`Double.plain` never uses an exponent, `Double.exponential` does for very large and very small
numbers and always shows that the number is not a whole-number literal.
-/

set_option autoImplicit false

namespace DatasetGate.Number

open DatasetGate.Text

/-- A decimal numeral: `digits * 10 ^ exponent` with a sign. -/
structure Numeral where
  negative : Bool
  digits : Nat
  exponent : Int
  deriving DecidableEq, Repr

/-- The double nearest to `digits * 10 ^ exponent`. Numerals whose leading digit stands above
`10 ^ 310` or below `10 ^ -330` are infinite or zero without being computed. -/
def Numeral.toDouble (numeral : Numeral) : Double :=
  let length : Int := ((toString numeral.digits).length : Int)
  if numeral.digits = 0 then .ofRank numeral.negative 0
  else if 310 < length + numeral.exponent then .infinite numeral.negative
  else if length + numeral.exponent < -330 then .ofRank numeral.negative 0
  else
    let scaled := decimalScale numeral.digits 1 (-numeral.exponent)
    .ofQuotient numeral.negative scaled.1 scaled.2

def Numeral.singleRank (numeral : Numeral) : Nat :=
  let length : Int := ((toString numeral.digits).length : Int)
  if numeral.digits = 0 then 0
  else if 310 < length + numeral.exponent then Format.binary32.infinity
  else if length + numeral.exponent < -330 then 0
  else
    let scaled := decimalScale numeral.digits 1 (-numeral.exponent)
    Format.binary32.rank scaled.1 scaled.2

def spanDigits (cs : List Char) : List Char × List Char :=
  (cs.takeWhile isDigit, cs.dropWhile isDigit)

def readExponent? : List Char → Option Int
  | [] => some 0
  | c :: rest =>
      if c = 'e' ∨ c = 'E' then readInteger? rest else none

/-- An unsigned numeral: digits with at most one point among or around them, then an optional
exponent. At least one digit is needed. -/
def readUnsigned? (negative : Bool) (cs : List Char) : Option Numeral :=
  let whole := spanDigits cs
  let fraction :=
    match whole.2 with
    | '.' :: rest => spanDigits rest
    | rest => ([], rest)
  match readNatural? (whole.1 ++ fraction.1), readExponent? fraction.2 with
  | some digits, some exponent =>
      some ⟨negative, digits, exponent - (fraction.1.length : Int)⟩
  | _, _ => none

inductive Literal where
  | numeral (value : Numeral)
  | infinite (negative : Bool)
  | nan
  deriving DecidableEq, Repr

def readLiteral? (cs : List Char) : Option Literal :=
  let signed : Bool × List Char :=
    match cs with
    | '-' :: rest => (true, rest)
    | '+' :: rest => (false, rest)
    | rest => (false, rest)
  let name := String.ofList (signed.2.map Char.toLower)
  if name = "inf" ∨ name = "infinity" then some (.infinite signed.1)
  else if name = "nan" then some .nan
  else (readUnsigned? signed.1 signed.2).map .numeral

def Literal.toDouble : Literal → Double
  | .numeral value => value.toDouble
  | .infinite negative => .infinite negative
  | .nan => .nan

def Literal.toSingle : Literal → Double
  | .numeral value => .ofSingle value.negative value.singleRank
  | .infinite negative => .infinite negative
  | .nan => .nan

def readDouble? (cs : List Char) : Option Double :=
  (readLiteral? cs).map Literal.toDouble

def parseDouble? (s : String) : Option Double :=
  readDouble? (trim s.toList)

def zeros (count : Nat) : List Char :=
  List.replicate count '0'

def Decimal.plain (d : Decimal) : List Char :=
  let digits := (toString d.digits).toList
  let point : Int := (digits.length : Int) + d.exponent
  if 0 ≤ d.exponent then digits ++ zeros d.exponent.toNat
  else if 0 < point then digits.take point.toNat ++ '.' :: digits.drop point.toNat
  else '0' :: '.' :: zeros (-point).toNat ++ digits

def Decimal.scientific (d : Decimal) : List Char :=
  let digits := (toString d.digits).toList
  let point : Int := (digits.length : Int) + d.exponent - 1
  let sign := if point < 0 then ['-'] else ['+']
  let fraction := if digits.length ≤ 1 then [] else '.' :: digits.drop 1
  digits.take 1 ++ fraction ++ 'e' :: sign ++ (toString point.natAbs).toList

namespace Double

def signText (negative : Bool) : List Char :=
  if negative then ['-'] else []

def plain : Double → String
  | .nan => "NaN"
  | .signed negative rank =>
      let body :=
        if rank.val = 0 then ['0']
        else if rank.val = Format.binary64.infinity then "inf".toList
        else (shortest .up rank.val).plain
      String.ofList (signText negative ++ body)

/-- A double in its shortest digits with at least one digit after the point, or with an exponent
when its leading digit stands at `10 ^ 16` or above or below `10 ^ -5`. Numbers that are not finite
have no such text. -/
def exponential? : Double → Option String
  | .nan => none
  | .signed negative rank =>
      if rank.val = Format.binary64.infinity then none
      else
        let body :=
          if rank.val = 0 then "0.0".toList
          else
            let d := shortest .even rank.val
            let point : Int := ((toString d.digits).length : Int) + d.exponent
            if point < -4 ∨ 16 < point then d.scientific
            else if 0 ≤ d.exponent then d.plain ++ ".0".toList
            else d.plain
        some (String.ofList (signText negative ++ body))

/-- The plain text of a double with zeros at the end of its fraction, and a point left without
digits, taken away. -/
def compact (x : Double) : String :=
  let text := x.plain.toList
  if text.contains '.' then
    let trimmed := text.reverse.dropWhile (· = '0')
    String.ofList (trimmed.dropWhile (· = '.')).reverse
  else String.ofList text

end Double
end DatasetGate.Number
