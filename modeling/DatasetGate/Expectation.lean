import DatasetGate.Frame.Cell
import DatasetGate.Json.Basic

/-!
# Expectations

The literal value that every cell of a column is expected to hold. Kinds of values are never mixed:
text equals text only and a truth value a truth value only, but numbers are compared as numbers.
-/

set_option autoImplicit false

namespace DatasetGate

open DatasetGate.Number DatasetGate.Text

inductive Expectation where
  | null
  | bool (value : Bool)
  | integer (value : Int)
  | float (value : Double)
  | text (value : String)
  deriving DecidableEq

namespace Expectation

/-- A cell holds the expected value. An integer equals an integer cell exactly and a floating cell
after rounding; a float equals an integer cell after that is rounded. -/
def accepts : Expectation → Cell → Bool
  | .null, .null => true
  | .bool expected, .bool actual => expected == actual
  | .text expected, .text actual => expected == actual
  | .integer expected, .integer actual => expected == actual
  | .integer expected, .float actual => actual.same (.ofInt expected)
  | .float expected, .integer actual => (Double.ofInt actual).same expected
  | .float expected, .float actual => actual.same expected
  | _, _ => false

def display : Expectation → String
  | .null => "null"
  | .bool value => toString value
  | .integer value => toString value
  | .float value => value.plain
  | .text value => "'" ++ value ++ "'"

def toJson : Expectation → Json
  | .null => .null
  | .bool value => .bool value
  | .integer value => .integer value
  | .float value => .float value
  | .text value => .string value

/-- The expectation that a JSON value states. Whole numbers beyond 64 bits with a sign are taken as
floats; arrays and objects state none. -/
def ofJson? : Json → Option Expectation
  | .null => some .null
  | .bool value => some (.bool value)
  | .integer value => some (if FitsInt64 value then .integer value else .float (.ofInt value))
  | .float value => some (.float value)
  | .string value => some (.text value)
  | .array _ | .object _ => none

end Expectation
end DatasetGate
