import DatasetGate.Plan.Basic
import DatasetGate.Table

/-!
# Summaries

The summary of a run for a reader: the dataset, and a table of the outcomes with a total. Of many
failing rows only the first are listed, with the count of the others.
-/

set_option autoImplicit false

namespace DatasetGate.Summary

def maxListedRows : Nat := 8

def formatRows (rows : List Nat) : String :=
  let listed := ", ".intercalate ((rows.take maxListedRows).map toString)
  if maxListedRows < rows.length then
    listed ++ " (+" ++ toString (rows.length - maxListedRows) ++ " more)"
  else listed

def rowsCell (outcome : Outcome) : String :=
  if outcome.failedRows.isEmpty then "-" else formatRows outcome.failedRows

def mark (passed : Bool) : String :=
  if passed then "✓" else "✗"

/-- The columns of the table. The last one takes at most half of the room within the frame. -/
def columns : List Table.Layout :=
  [⟨"Check", .left, some 16⟩, ⟨"Column", .left, some 16⟩, ⟨"Result", .center, none⟩,
   ⟨"Failed", .right, none⟩, ⟨"Rows", .left, some 55⟩]

def outcomeRow (outcome : Outcome) : List String :=
  [outcome.kind.name, outcome.column, mark outcome.passed, toString outcome.failedCount,
   rowsCell outcome]

def totalRow (result : PlanResult) (outcomes : List Outcome) : List String :=
  ["TOTAL", toString outcomes.length ++ " checks", mark result.passed,
   toString (outcomes.filter fun outcome => !outcome.passed).length, "-"]

def rows (result : PlanResult) (outcomes : List Outcome) : List (List String) :=
  outcomes.map outcomeRow ++ [totalRow result outcomes]

def heading (dataset : String) (records : Nat) (report : Option String) : List String :=
  ["Dataset: " ++ dataset, "Records: " ++ toString records] ++
    match report with
    | some path => ["Report: " ++ path]
    | none => []

/-- The summary of a run on a dataset of so many records, with the path of its report if one was
written. -/
def lines (dataset : String) (records : Nat) (report : Option String) (result : PlanResult)
    (outcomes : List Outcome) : List String :=
  heading dataset records report ++
    if outcomes.isEmpty then ["No checks were run."]
    else Table.lines columns (rows result outcomes)

end DatasetGate.Summary
