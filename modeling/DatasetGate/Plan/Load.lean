import DatasetGate.Files
import DatasetGate.Plan.Codec

/-!
# Loading plans

A plan read from a file. A column outside the family of its check is refused here, before any dataset
is looked at; the one column that the family of repositories has too many for the check of repository
names is refused when the check is judged.
-/

set_option autoImplicit false

namespace DatasetGate

open DatasetGate.Json

inductive PlanError where
  | unreadable (path : String) (fault : FileFault)
  | invalid (path : String) (error : ReadError)
  deriving DecidableEq

def Json.Fault.message : Json.Fault → String
  | .malformed => "malformed JSON"
  | .cutShort => "unexpected end of JSON"

def Json.ReadError.message : ReadError → String
  | .notJson fault => fault.message
  | .mismatch value => value.message

def PlanError.message : PlanError → String
  | .unreadable path fault => "failed to read plan " ++ path ++ ": " ++ fault.message
  | .invalid path error => "invalid plan " ++ path ++ ": " ++ error.message

def Plan.load (files : Files) (path : String) : Except PlanError Plan :=
  match files.readText path with
  | .error fault => .error (.unreadable path fault)
  | .ok text =>
      match Plan.ofText text with
      | .error error => .error (.invalid path error)
      | .ok plan => .ok plan

end DatasetGate
