import DatasetGate.Frame.Basic
import DatasetGate.Selector
import DatasetGate.Text.Quoted

/-!
# Outcomes of checks

A check evaluates one or more predicates on every row of a column. Each gives an outcome, which lists
the rows that fail and passes when none does. A check that meets data it cannot judge ends in an
error; what it found before stays.
-/

set_option autoImplicit false

namespace DatasetGate

open DatasetGate.Text

inductive CheckKind where
  | scheme
  | authority
  | path
  | dateFormat
  | lowerBound
  | upperBound
  | threshold
  | repoName
  | repoNameFormat
  | value
  deriving DecidableEq, Repr

def CheckKind.name : CheckKind → String
  | .scheme => "scheme"
  | .authority => "authority"
  | .path => "path"
  | .dateFormat => "date_format"
  | .lowerBound => "lower_bound"
  | .upperBound => "upper_bound"
  | .threshold => "threshold"
  | .repoName => "repo_name"
  | .repoNameFormat => "repo_name_format"
  | .value => "value"

/-- The result of one predicate on one column. -/
structure Outcome where
  kind : CheckKind
  column : String
  message : String
  passed : Bool
  failedRows : List Nat
  deriving DecidableEq, Repr

namespace Outcome

/-- The outcome with the given failing rows. The message is the label with the result. -/
def ofRows (kind : CheckKind) (column label : String) (failedRows : List Nat) : Outcome :=
  let passed := failedRows.isEmpty
  ⟨kind, column, label ++ ": " ++ toString passed, passed, failedRows⟩

def failedCount (outcome : Outcome) : Nat :=
  outcome.failedRows.length

end Outcome

/-- Why a check cannot be judged. -/
inductive CheckError where
  | invalidSelector (refusal : InvalidSelector)
  | columnNotFound (name : String)
  | notText (column : String) (type : ColumnType)
  | notDate (column : String) (row : Nat) (value : String)
  | notNumeric (column : String) (row : Nat) (value : String)
  deriving DecidableEq, Repr

namespace CheckError

def message : CheckError → String
  | .invalidSelector refusal => refusal.message
  | .columnNotFound name => "not found: " ++ inQuotes name ++ " not found"
  | .notText column type =>
      "column '" ++ column ++ "' has type " ++ type.name ++ ", expected strings"
  | .notDate column row value =>
      "column '" ++ column ++ "' row " ++ toString row ++ ": cannot parse '" ++ value ++
        "' as a date"
  | .notNumeric column row value =>
      "column '" ++ column ++ "' row " ++ toString row ++ ": '" ++ value ++ "' is not numeric"

def isInvalidSelector : CheckError → Bool
  | .invalidSelector _ => true
  | _ => false

end CheckError

/-- What a check gives: the outcomes it reported, in order, and whether all passed, or the error that
ended it. -/
structure Verdict where
  outcomes : List Outcome
  result : Except CheckError Bool

namespace Verdict

def ofOutcomes (outcomes : List Outcome) : Verdict :=
  ⟨outcomes, .ok (outcomes.all Outcome.passed)⟩

def failed (outcomes : List Outcome) (error : CheckError) : Verdict :=
  ⟨outcomes, .error error⟩

def ofRows (kind : CheckKind) (column label : String) :
    Except CheckError (List Nat) → Verdict
  | .ok rows => ofOutcomes [.ofRows kind column label rows]
  | .error error => failed [] error

end Verdict
end DatasetGate
