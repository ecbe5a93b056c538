import DatasetGate.Calendar.Instant
import DatasetGate.Number.Notation

/-!
# Cells

A cell is one value of a column. Three views of it serve the checks: its text, the whole number it
holds exactly, and the double it holds or rounds to. Text that denotes a number has both number
views.

A date or a timestamp is one whose year the calendar has, from `Date.minYear` to `Date.maxYear`, and
a time is one of a single day. Their counts are not bounded here, but other counts have no text in a
dataset: cells that hold them are left out, and what `Cell.display` gives for them means nothing.
-/

set_option autoImplicit false

namespace DatasetGate

open DatasetGate.Text DatasetGate.Number DatasetGate.Calendar

inductive TimeUnit where
  | milliseconds
  | microseconds
  | nanoseconds
  deriving DecidableEq, Repr

def TimeUnit.perSecond : TimeUnit → Nat
  | .milliseconds => 1000
  | .microseconds => 1000000
  | .nanoseconds => 1000000000

/-- One value of a column. Dates count days, timestamps ticks, and times nanoseconds. -/
inductive Cell where
  | null
  | bool (value : Bool)
  | integer (value : Int)
  | float (value : Double)
  | text (value : String)
  | date (days : Int)
  | timestamp (unit : TimeUnit) (ticks : Int)
  | time (nanos : Nat)
  deriving DecidableEq

namespace Cell

def isNull : Cell → Bool
  | .null => true
  | _ => false

def instantOfTicks (unit : TimeUnit) (ticks : Int) : Instant :=
  let perSecond : Int := (unit.perSecond : Int)
  ⟨ticks / perSecond, (ticks % perSecond).toNat * (nanosPerSecond / unit.perSecond)⟩

/-- The text of a cell. A null is empty, a number has no superfluous zeros. -/
def display : Cell → String
  | .null => ""
  | .bool value => toString value
  | .integer value => toString value
  | .float value => value.compact
  | .text value => value
  | .date days => (Date.ofDays days).text
  | .timestamp unit ticks =>
      let instant := instantOfTicks unit ticks
      instant.date.text ++ " " ++ instant.time.text
  | .time nanos => (TimeOfDay.ofSecond (nanos / nanosPerSecond) (nanos % nanosPerSecond)).text

def text? (cell : Cell) : Option String :=
  if cell.isNull then none else some cell.display

def minInteger : Int := -0x80000000000000000000000000000000

def maxInteger : Int := 0x7FFFFFFFFFFFFFFFFFFFFFFFFFFFFFFF

/-- The whole number that a cell holds without rounding: that of an integer cell, or of text in
digits with an optional sign and blanks around it. -/
def integer? : Cell → Option Int
  | .integer value => some value
  | .text value => (readBounded minInteger maxInteger (trim value.toList)).toOption
  | _ => none

def double? : Cell → Option Double
  | .integer value => some (.ofInt value)
  | .float value => some value
  | .text value => parseDouble? value
  | _ => none

end Cell
end DatasetGate
