import DatasetGate.Plan.Basic

/-!
# Inferring plans

The plan for a frame whose user gave none. It depends on the names of the columns and on the user's
bounds, never on the cells.
-/

set_option autoImplicit false

namespace DatasetGate

open DatasetGate.Calendar

/-- Bounds for the checks of an inferred plan: the earliest date of all date columns, and least numbers
of numeric columns. -/
structure Bounds where
  since : Option Instant
  minimums : List (NumericColumn × Int)
  deriving DecidableEq

namespace Bounds

def none : Bounds := ⟨Option.none, []⟩

end Bounds

namespace Plan

/-- An address column is checked when the columns of its owner and its name are there. -/
def urlChecks (frame : Frame) : List Check :=
  ((Family.all : List UrlColumn).filter fun column =>
    frame.has column.name && frame.has column.ownerColumn && frame.has column.nameColumn).map .urls

def dateChecks (frame : Frame) (since : Option Instant) : List Check :=
  ((Family.all : List DateColumn).filter fun column => frame.has column.name).flatMap fun column =>
    match since with
    | some limit => [.date column, .limitDate column limit]
    | none => [.date column]

/-- Every bound on a numeric column is checked, whether or not the column is there. -/
def boundChecks (minimums : List (NumericColumn × Int)) : List Check :=
  minimums.map fun entry => .limitNum entry.1 entry.2

/-- A repository column is checked for its format; the base repository also against owner and name
when both are there. -/
def repositoryChecks (frame : Frame) : List Check :=
  ((Family.all : List RepoColumn).filter fun column => frame.has column.name).flatMap fun column =>
    if column = .baseRepo ∧ frame.has "owner" ∧ frame.has "name" then
      [.repoName column, .repoNameFormat column]
    else [.repoNameFormat column]

def infer (frame : Frame) (bounds : Bounds) : Plan :=
  ⟨urlChecks frame ++ dateChecks frame bounds.since ++ boundChecks bounds.minimums ++
    repositoryChecks frame⟩

end Plan
end DatasetGate
