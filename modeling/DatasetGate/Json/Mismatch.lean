import DatasetGate.Json.Draft
import DatasetGate.Json.Writer
import DatasetGate.Text.Quoted

/-!
# Mismatches

What is wrong with JSON that is well formed but does not have the shape a reader asks for, and how
messages put it.
-/

set_option autoImplicit false

namespace DatasetGate.Json

open DatasetGate.Text

inductive Found where
  | null
  | bool (value : Bool)
  | integer (value : Int)
  | float (value : Number.Double)
  | string (value : String)
  | sequence
  | map
  deriving DecidableEq

def Found.describe : Found → String
  | .null => "null"
  | .bool value => "boolean `" ++ toString value ++ "`"
  | .integer value => "integer `" ++ toString value ++ "`"
  | .float value => "floating point `" ++ String.ofList (floatText value) ++ "`"
  | .string value => "string " ++ inQuotes value
  | .sequence => "sequence"
  | .map => "map"

inductive Mismatch where
  | wrongType (found : Found) (expected : String)
  | wrongValue (found : Found) (expected : String)
  | wrongLength (count : Nat) (expected : String)
  | missingField (name : String)
  | duplicateField (name : String)
  | unknownVariant (name : String) (known : List String)
  | noVariant (type : String)
  | refused (message : String)
  deriving DecidableEq

def marked (name : String) : String :=
  "`" ++ name ++ "`"

def Mismatch.message : Mismatch → String
  | .wrongType found expected =>
      "invalid type: " ++ found.describe ++ ", expected " ++ expected
  | .wrongValue found expected =>
      "invalid value: " ++ found.describe ++ ", expected " ++ expected
  | .wrongLength count expected =>
      "invalid length " ++ toString count ++ ", expected " ++ expected
  | .missingField name => "missing field " ++ marked name
  | .duplicateField name => "duplicate field " ++ marked name
  | .unknownVariant name known =>
      "unknown variant " ++ marked name ++ ", expected one of " ++
        ", ".intercalate (known.map marked)
  | .noVariant type => "data did not match any variant of untagged enum " ++ type
  | .refused message => message

inductive ReadError where
  | notJson (fault : Fault)
  | mismatch (value : Mismatch)
  deriving DecidableEq

/-- What a value is, for a message. The content of arrays and objects does not matter. -/
def found : Json → Found
  | .null => .null
  | .bool value => .bool value
  | .integer value => .integer value
  | .float value => .float value
  | .string value => .string value
  | .array _ => .sequence
  | .object _ => .map

def Draft.found : Draft → Except Fault Found
  | .array _ _ => .ok .sequence
  | .object _ _ => .ok .map
  | draft => (draft.value 0).map Json.found

def Draft.refuse (draft : Draft) (expected : String) : ReadError :=
  match draft.found with
  | .ok found => .mismatch (.wrongType found expected)
  | .error fault => .notJson fault

def refuse (value : Json) (expected : String) : Mismatch :=
  .wrongType value.found expected

end DatasetGate.Json
