import DatasetGate.Address
import DatasetGate.Calendar.Timestamp
import DatasetGate.Check.Rows
import DatasetGate.Expectation
import DatasetGate.Text.Digit

/-!
# Checks

The seven checks and the verdict of each on a frame. A check reads the column that it names, and the
columns that are paired with it; it never looks at another one.
-/

set_option autoImplicit false

namespace DatasetGate

open DatasetGate.Text DatasetGate.Number DatasetGate.Calendar

/-- One check of a column. -/
inductive Check where
  | urls (column : UrlColumn)
  | date (column : DateColumn)
  | limitDate (column : DateColumn) (limit : Instant)
  | limitNum (column : NumericColumn) (limit : Int)
  | repoName (column : RepoColumn)
  | repoNameFormat (column : RepoColumn)
  | value (column : String) (expected : Expectation)
  deriving DecidableEq

namespace Check

def name : Check → String
  | .urls _ => "urls"
  | .date _ => "date"
  | .limitDate _ _ => "limit_date"
  | .limitNum _ _ => "limit_num"
  | .repoName _ => "repo_name"
  | .repoNameFormat _ => "repo_name_format"
  | .value _ _ => "value"

def column : Check → String
  | .urls column => column.name
  | .date column => column.name
  | .limitDate column _ => column.name
  | .limitNum column _ => column.name
  | .repoName column => column.name
  | .repoNameFormat column => column.name
  | .value column _ => column

def supportedColumns : List (String × String) :=
  [("urls", Family.allowed UrlColumn), ("date, limit_date", Family.allowed DateColumn),
   ("limit_num", Family.allowed NumericColumn), ("repo_name", RepoColumn.baseRepo.name),
   ("repo_name_format", Family.allowed RepoColumn), ("value", "any column")]

def display (check : Check) : String :=
  check.name ++ "(" ++ check.column ++ ")"

def startsWithDate : List Char → Bool
  | y1 :: y2 :: y3 :: y4 :: h1 :: m1 :: m2 :: h2 :: d1 :: d2 :: _ =>
      [y1, y2, y3, y4, m1, m2, d1, d2].all isDecimalDigit && h1 == '-' && h2 == '-'
  | _ => false

/-- A character of an owner's or a repository's name: an ASCII letter or digit, a point, an
underscore or a hyphen. -/
def isNameChar (c : Char) : Bool :=
  c.isAlphanum || c = '.' || c = '_' || c = '-'

def isRepositoryPath (cs : List Char) : Bool :=
  let owner := cs.takeWhile isNameChar
  match cs.dropWhile isNameChar with
  | '/' :: name => !owner.isEmpty && !name.isEmpty && name.all isNameChar
  | _ => false

def schemeFailures (frame : Frame) (column : UrlColumn) : Except CheckError (List Nat) :=
  let shape := AddressShape.ofColumn column
  (frame.textCells column.name).map <| failingRows fun _ text => shape.startsRight text

def authorityFailures (frame : Frame) (column : UrlColumn) : Except CheckError (List Nat) :=
  let shape := AddressShape.ofColumn column
  (frame.textCells column.name).map <| failingRows fun _ text => shape.marksRight text

def pathFailures (frame : Frame) (column : UrlColumn) : Except CheckError (List Nat) :=
  let shape := AddressShape.ofColumn column
  match frame.textCells column.name with
  | .error error => .error error
  | .ok cells =>
      (frame.repositoryPaths column.ownerColumn column.nameColumn).map fun paths =>
        failingRows (fun row text =>
          match paths[row]? with
          | some (some path) => text == shape.address path
          | _ => false) cells

/-- Three outcomes: how addresses start, their authority, and whether they are those of the rows'
repositories. -/
def judgeUrls (frame : Frame) (column : UrlColumn) : Verdict :=
  match schemeFailures frame column with
  | .error error => .failed [] error
  | .ok rows =>
      let scheme := Outcome.ofRows .scheme column.name "Records have right scheme" rows
      match authorityFailures frame column with
      | .error error => .failed [scheme] error
      | .ok rows =>
          let authority :=
            Outcome.ofRows .authority column.name "Records have right authority" rows
          match pathFailures frame column with
          | .error error => .failed [scheme, authority] error
          | .ok rows =>
              let path := Outcome.ofRows .path column.name "Records have right path" rows
              .ofOutcomes [scheme, authority, path]

def judgeDate (frame : Frame) (column : DateColumn) : Verdict :=
  .ofRows .dateFormat column.name "Records have right format" <|
    (frame.displayCells column.name).map <|
      failingRows fun _ text => startsWithDate text.toList

def readInstants (frame : Frame) (column : DateColumn) :
    Except CheckError (List (Option Instant)) :=
  match frame.column column.name with
  | .error error => .error error
  | .ok found =>
      match readCells (fun cell => parseTimestamp? cell.display) 0 found.cells with
      | .ok instants => .ok instants
      | .error (row, cell) => .error (.notDate column.name row cell.display)

/-- Two outcomes: every instant lies at the limit or after it, and at the present or before it. -/
def judgeWindow (frame : Frame) (now limit : Instant) (column : DateColumn) : Verdict :=
  match readInstants frame column with
  | .error error => .failed [] error
  | .ok instants =>
      let early := failingRows (fun _ instant => decide (limit.AtMost instant)) instants
      let late := failingRows (fun _ instant => decide (instant.AtMost now)) instants
      .ofOutcomes
        [.ofRows .lowerBound column.name ("Records appear after " ++ limit.display) early,
         .ofRows .upperBound column.name ("Records appear before " ++ now.display) late]

/-- A cell's number is at least the limit: exactly if the cell holds a whole number, else as
doubles. A cell without a number has no answer. -/
def meetsLimit? (limit : Int) (cell : Cell) : Option Bool :=
  match cell.integer? with
  | some number => some (decide (limit ≤ number))
  | none => cell.double?.map fun number => (Double.ofInt limit).atMost number

def limitFailures (frame : Frame) (limit : Int) (column : NumericColumn) :
    Except CheckError (List Nat) :=
  match frame.column column.name with
  | .error error => .error error
  | .ok found =>
      match readCells (meetsLimit? limit) 0 found.cells with
      | .ok met => .ok (failingRows (fun _ passed => passed) met)
      | .error (row, cell) => .error (.notNumeric column.name row cell.display)

def judgeLimit (frame : Frame) (limit : Int) (column : NumericColumn) : Verdict :=
  .ofRows .threshold column.name ("Records have at least " ++ toString limit)
    (limitFailures frame limit column)

def refusedRepoName (column : RepoColumn) : InvalidSelector :=
  ⟨"repository name column", column.name, RepoColumn.baseRepo.name⟩

def repoNameFailures (frame : Frame) (column : RepoColumn) : Except CheckError (List Nat) :=
  match frame.textCells column.name with
  | .error error => .error error
  | .ok cells =>
      (frame.repositoryPaths "owner" "name").map fun paths =>
        failingRows (fun row text => paths[row]? == some (some text)) cells

/-- Every repository is that of its row. Only the base repository is one. -/
def judgeRepoName (frame : Frame) (column : RepoColumn) : Verdict :=
  if column = .baseRepo then
    .ofRows .repoName column.name "Records have right repo name" (repoNameFailures frame column)
  else .failed [] (.invalidSelector (refusedRepoName column))

def judgeRepoNameFormat (frame : Frame) (column : RepoColumn) : Verdict :=
  .ofRows .repoNameFormat column.name "Records have right repo name format" <|
    (frame.textCells column.name).map <|
      failingRows fun _ text => isRepositoryPath text.toList

/-- Rows whose cell does not hold the expected value. Here nothing may be expected, too. -/
def valueFailures (frame : Frame) (column : String) (expected : Expectation) :
    Except CheckError (List Nat) :=
  (frame.column column).map fun found =>
    failingRows (fun _ cell => expected.accepts cell) (found.cells.map some)

def judgeValue (frame : Frame) (column : String) (expected : Expectation) : Verdict :=
  .ofRows .value column ("Records have value " ++ expected.display)
    (valueFailures frame column expected)

def judge (frame : Frame) (now : Instant) : Check → Verdict
  | .urls column => judgeUrls frame column
  | .date column => judgeDate frame column
  | .limitDate column limit => judgeWindow frame now limit column
  | .limitNum column limit => judgeLimit frame limit column
  | .repoName column => judgeRepoName frame column
  | .repoNameFormat column => judgeRepoNameFormat frame column
  | .value column expected => judgeValue frame column expected

end Check
end DatasetGate
