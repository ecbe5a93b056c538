import DatasetGate.Calendar.Instant
import DatasetGate.Text.Blank

/-!
# Reading timestamps

`parseTimestamp?` reads an instant from text, blanks around it ignored. The strict form has fields of
fixed width and an offset. The loose forms have none and are taken as universal time; they let
fields be short, blanks stand before a number and the year carry a sign. A bare date is its
midnight.
-/

set_option autoImplicit false

namespace DatasetGate.Calendar

open DatasetGate.Text

abbrev Reader (α : Type) := List Char → Option (α × List Char)

namespace Reader

def number (least most : Nat) : Reader Nat := fun cs =>
  let digits := (cs.take most).takeWhile isDigit
  if digits.length < least then none
  else (readNatural? digits).map fun value => (value, cs.drop digits.length)

def longNumber : Reader Nat := fun cs =>
  number 1 cs.length cs

def literal (c : Char) : Reader Unit
  | [] => none
  | d :: rest => if d = c then some ((), rest) else none

/-- A fraction of a second in nanoseconds, if there is a point. At least one digit follows the
point, and digits past the ninth are dropped. -/
def fraction : Reader Nat
  | '.' :: cs =>
      let digits := cs.takeWhile isDigit
      if digits.isEmpty then none
      else
        let kept := digits.take 9
        (readNatural? kept).map fun value =>
          (value * Nat.pow 10 (9 - kept.length), cs.drop digits.length)
  | cs => some (0, cs)

def whole {α : Type} (reader : Reader α) (cs : List Char) : Option α :=
  match reader cs with
  | some (value, []) => some value
  | _ => none

end Reader

def checkDate (year : Int) (month day : Nat) : Option Date :=
  let date : Date := ⟨year, month, day⟩
  if date.Valid then some date else none

/-- A time of day if its fields are in range. A leap second may end any minute. -/
def checkTime (hour minute second nanos : Nat) : Option TimeOfDay :=
  if hour ≤ 23 ∧ minute ≤ 59 ∧ second ≤ 60 then some ⟨hour, minute, second, nanos⟩ else none

namespace Reader

def strictDate : Reader Date := fun cs => do
  let (year, cs) ← number 4 4 cs
  let (_, cs) ← literal '-' cs
  let (month, cs) ← number 2 2 cs
  let (_, cs) ← literal '-' cs
  let (day, cs) ← number 2 2 cs
  let date ← checkDate year month day
  return (date, cs)

def strictTime : Reader TimeOfDay := fun cs => do
  let (hour, cs) ← number 2 2 cs
  let (_, cs) ← literal ':' cs
  let (minute, cs) ← number 2 2 cs
  let (_, cs) ← literal ':' cs
  let (second, cs) ← number 2 2 cs
  let (nanos, cs) ← fraction cs
  let time ← checkTime hour minute second nanos
  return (time, cs)

def separator : Reader Unit
  | [] => none
  | c :: rest => if c = 'T' ∨ c = 't' ∨ c = ' ' then some ((), rest) else none

def isMinus (c : Char) : Bool :=
  c = '-' || c = '\u2212'

/-- The offset of local time from universal time in seconds: a letter for none, or a sign with hours
and minutes. -/
def offset : Reader Int
  | [] => none
  | c :: cs =>
      if c = 'Z' ∨ c = 'z' then some (0, cs)
      else if c = '+' ∨ isMinus c then do
        let (hours, cs) ← number 2 2 cs
        let (_, cs) ← literal ':' cs
        let (minutes, cs) ← number 2 2 cs
        if hours ≤ 23 ∧ minutes ≤ 59 then
          let size : Int := 3600 * (hours : Int) + 60 * (minutes : Int)
          return (if c = '+' then size else -size, cs)
        else none
      else none

def strictTimestamp : Reader Instant := fun cs => do
  let (date, cs) ← strictDate cs
  let (_, cs) ← separator cs
  let (time, cs) ← strictTime cs
  let (east, cs) ← offset cs
  let civil := Instant.ofCivil date time
  return (⟨civil.seconds - east, civil.nanos⟩, cs)

/-- A year in a loose form: at most four digits, or a sign and any count of digits. -/
def looseYear : Reader Int := fun cs =>
  match trimLeft cs with
  | '-' :: rest => (longNumber rest).map fun (year, rest) => (-(year : Int), rest)
  | '+' :: rest => (longNumber rest).map fun (year, rest) => ((year : Int), rest)
  | rest => (number 1 4 rest).map fun (year, rest) => ((year : Int), rest)

/-- A field of one or two digits in a loose form. -/
def looseField : Reader Nat := fun cs =>
  number 1 2 (trimLeft cs)

def looseDate : Reader Date := fun cs => do
  let (year, cs) ← looseYear cs
  let (_, cs) ← literal '-' cs
  let (month, cs) ← looseField cs
  let (_, cs) ← literal '-' cs
  let (day, cs) ← looseField cs
  let date ← checkDate year month day
  return (date, cs)

def looseTime : Reader TimeOfDay := fun cs => do
  let (hour, cs) ← looseField cs
  let (_, cs) ← literal ':' cs
  let (minute, cs) ← looseField cs
  let (_, cs) ← literal ':' cs
  let (second, cs) ← looseField cs
  let (nanos, cs) ← fraction cs
  let time ← checkTime hour minute second nanos
  return (time, cs)

def letterTimestamp : Reader Instant := fun cs => do
  let (date, cs) ← looseDate cs
  let (_, cs) ← literal 'T' cs
  let (time, cs) ← looseTime cs
  return (.ofCivil date time, cs)

def blankTimestamp : Reader Instant := fun cs => do
  let (date, cs) ← looseDate cs
  let (time, cs) ← looseTime (trimLeft cs)
  return (.ofCivil date time, cs)

def bareDate : Reader Instant := fun cs =>
  (looseDate cs).map fun (date, cs) => (.ofCivil date ⟨0, 0, 0, 0⟩, cs)

end Reader

/-- An instant read from text: the strict form, the loose ones, then a bare date. -/
def parseTimestamp? (s : String) : Option Instant :=
  let cs := trim s.toList
  ((Reader.strictTimestamp.whole cs).or (Reader.letterTimestamp.whole cs)).or
    ((Reader.blankTimestamp.whole cs).or (Reader.bareDate.whole cs))

end DatasetGate.Calendar
