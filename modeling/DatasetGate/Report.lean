import DatasetGate.Check.Outcome
import DatasetGate.Files
import DatasetGate.Json.Writer

/-!
# Reports

The report of a run as a JSON document: whether all outcomes passed, and each outcome with the count
of its failing rows and the first of them.
-/

set_option autoImplicit false

namespace DatasetGate.Report

open DatasetGate.Calendar DatasetGate.Text

def schema : String := "ghds.validation-report"

def schemaVersion : Int := 1

def maxListedRows : Nat := 100

def outcomeJson (outcome : Outcome) : Json :=
  .object
    [("kind", .string outcome.kind.name), ("column", .string outcome.column),
     ("message", .string outcome.message), ("passed", .bool outcome.passed),
     ("failed_count", .integer outcome.failedCount),
     ("failed_rows",
       .array ((outcome.failedRows.take maxListedRows).map fun row : Nat => .integer row))]

def toJson (now : Instant) (dataset : String) (outcomes : List Outcome) : Json :=
  .object
    [("schema", .string schema), ("schema_version", .integer schemaVersion),
     ("generated_at", .string now.timestamp), ("dataset", .string dataset),
     ("passed", .bool (outcomes.all Outcome.passed)),
     ("checks", .array (outcomes.map outcomeJson))]

def text (now : Instant) (dataset : String) (outcomes : List Outcome) : List Char :=
  Json.indented 0 (toJson now dataset outcomes) ++ ['\n']

def write (files : Files) (path : String) (now : Instant) (dataset : String)
    (outcomes : List Outcome) : Except FileFault Files :=
  files.save path (Utf8.encode (text now dataset outcomes))

def faultMessage (fault : FileFault) : String :=
  "io error: " ++ fault.message

end DatasetGate.Report
