import DatasetGate.Number.Double

/-!
# JSON values

Values of the JSON data format. Whole-number literals and other numbers are kept apart, and an
object is the list of its members in the order of the text, repeated keys included.
-/

set_option autoImplicit false

namespace DatasetGate

inductive Json where
  | null
  | bool (value : Bool)
  | integer (value : Int)
  | float (value : Number.Double)
  | string (value : String)
  | array (items : List Json)
  | object (members : List (String × Json))

namespace Json

/-- What is wrong with a text that is not JSON: it ends where more is needed, or it breaks a rule
before its end. -/
inductive Fault where
  | malformed
  | cutShort
  deriving DecidableEq, Repr

/-- The value of the first member of an object with the given key. -/
def field? (key : String) : Json → Option Json
  | .object members => (members.find? fun member => member.1 = key).map (·.2)
  | _ => none

end Json
end DatasetGate
