import DatasetGate.Json.Mismatch
import DatasetGate.Plan.Basic

/-!
# Plans as JSON

A plan is written as an object with the list of its checks, and a check as an object whose first
member names its kind. Reading takes the members of an object in any order and leaves unknown ones
out; it also takes a list in place of an object, with the values of its members in their order. Faults
are reported in the order of the text, but those of a check's members, other than its kind, once the
check has been read to its end.
-/

set_option autoImplicit false

namespace DatasetGate

open DatasetGate.Json DatasetGate.Calendar DatasetGate.Text

def Check.parameters : Check → List (String × Json)
  | .limitDate _ limit => [("limit", .string limit.timestamp)]
  | .limitNum _ limit => [("limit", .integer limit)]
  | .value _ expected => [("expected", expected.toJson)]
  | .urls _ | .date _ | .repoName _ | .repoNameFormat _ => []

def Check.toJson (check : Check) : Json :=
  .object (("check", .string check.name) :: ("column", .string check.column) :: check.parameters)

def Plan.toJson (plan : Plan) : Json :=
  .object [("checks", .array (plan.checks.map Check.toJson))]

inductive CheckTag where
  | urls
  | date
  | limitDate
  | limitNum
  | repoName
  | repoNameFormat
  | value
  deriving DecidableEq, Repr

namespace CheckTag

def all : List CheckTag :=
  [.urls, .date, .limitDate, .limitNum, .repoName, .repoNameFormat, .value]

def name : CheckTag → String
  | .urls => "urls"
  | .date => "date"
  | .limitDate => "limit_date"
  | .limitNum => "limit_num"
  | .repoName => "repo_name"
  | .repoNameFormat => "repo_name_format"
  | .value => "value"

def variant : CheckTag → String
  | .urls => "Urls"
  | .date => "Date"
  | .limitDate => "LimitDate"
  | .limitNum => "LimitNum"
  | .repoName => "RepoName"
  | .repoNameFormat => "RepoNameFormat"
  | .value => "Value"

def find? (name : String) : Option CheckTag :=
  all.find? fun tag => tag.name = name

def fields : CheckTag → List String
  | .urls | .date | .repoName | .repoNameFormat => ["column"]
  | .limitDate | .limitNum => ["column", "limit"]
  | .value => ["column", "expected"]

def fieldCount (tag : CheckTag) : String :=
  if tag.fields.length = 1 then "1 element" else toString tag.fields.length ++ " elements"

end CheckTag

def readColumn (α : Type) [Family α] : Json → Except Mismatch α
  | .string name =>
      match Family.select α name with
      | .ok column => .ok column
      | .error refusal => .error (.refused refusal.message)
  | other => .error (other.refuse "a string")

def readName : Json → Except Mismatch String
  | .string name => .ok name
  | other => .error (other.refuse "a string")

def readInstant : Json → Except Mismatch Instant
  | .string text =>
      match parseTimestamp? text with
      | some instant => .ok instant
      | none => .error (.refused ("cannot parse '" ++ text ++ "' as a date"))
  | other => .error (other.refuse "a string")

def readNumber : Json → Except Mismatch Int
  | .integer value =>
      if FitsInt64 value then .ok value else .error (.wrongValue (.integer value) "i64")
  | other => .error (other.refuse "i64")

def readExpectation (value : Json) : Except Mismatch Expectation :=
  match Expectation.ofJson? value with
  | some expected => .ok expected
  | none => .error (.noVariant "ExpectedValue")

def needField (members : List (String × Json)) (field : String) : Except Mismatch Json :=
  match members.lookup field with
  | some value => .ok value
  | none => .error (.missingField field)

def checkField (tag : CheckTag) (field : String) (value : Json) : Except Mismatch Unit :=
  if field = "column" then
    match tag with
    | .urls => (readColumn UrlColumn value).map fun _ => ()
    | .date | .limitDate => (readColumn DateColumn value).map fun _ => ()
    | .limitNum => (readColumn NumericColumn value).map fun _ => ()
    | .repoName | .repoNameFormat => (readColumn RepoColumn value).map fun _ => ()
    | .value => (readName value).map fun _ => ()
  else
    match tag with
    | .limitDate => (readInstant value).map fun _ => ()
    | .limitNum => (readNumber value).map fun _ => ()
    | .value => (readExpectation value).map fun _ => ()
    | .urls | .date | .repoName | .repoNameFormat => .ok ()

/-- The members that a check of a kind needs, among others and after those found before. The first
one repeated or with a mismatch is refused. -/
def collectFields (tag : CheckTag) :
    List (String × Json) → List (String × Json) → Except Mismatch (List (String × Json))
  | [], found => .ok found
  | (key, value) :: rest, found =>
      if key ∈ tag.fields then
        if (found.lookup key).isSome then .error (.duplicateField key)
        else
          match checkField tag key value with
          | .error mismatch => .error mismatch
          | .ok _ => collectFields tag rest (found ++ [(key, value)])
      else collectFields tag rest found

def buildCheck (tag : CheckTag) (members : List (String × Json)) : Except Mismatch Check := do
  let column ← needField members "column"
  match tag with
  | .urls => return .urls (← readColumn UrlColumn column)
  | .date => return .date (← readColumn DateColumn column)
  | .limitDate =>
      let limit ← needField members "limit"
      return .limitDate (← readColumn DateColumn column) (← readInstant limit)
  | .limitNum =>
      let limit ← needField members "limit"
      return .limitNum (← readColumn NumericColumn column) (← readNumber limit)
  | .repoName => return .repoName (← readColumn RepoColumn column)
  | .repoNameFormat => return .repoNameFormat (← readColumn RepoColumn column)
  | .value =>
      let expected ← needField members "expected"
      return .value (← readName column) (← readExpectation expected)

def readObject (tag : CheckTag) (members : List (String × Json)) : Except Mismatch Check :=
  (collectFields tag members []).bind (buildCheck tag)

def readList (tag : CheckTag) (values : List Json) : Except Mismatch Check :=
  match collectFields tag (tag.fields.zip values) [] with
  | .error mismatch => .error mismatch
  | .ok found =>
      if values.length < tag.fields.length then
        .error (.wrongLength values.length
          ("struct variant PlanCheck::" ++ tag.variant ++ " with " ++ tag.fieldCount))
      else if tag.fields.length < values.length then
        .error (.wrongLength values.length (tag.fieldCount ++ " in sequence"))
      else buildCheck tag found

def readTag (draft : Draft) : Except ReadError CheckTag :=
  match draft with
  | .string pieces =>
      match readPieces pieces with
      | .error fault => .error (.notJson fault)
      | .ok name =>
          match CheckTag.find? name with
          | some tag => .ok tag
          | none => .error (.mismatch (.unknownVariant name (CheckTag.all.map CheckTag.name)))
  | other => .error (other.refuse "variant identifier")

def memberDepth : Nat := maxDepth - 3

def readTagged : List (List Piece × Draft) → Option CheckTag → List (String × Json) →
    Except ReadError (Option CheckTag × List (String × Json))
  | [], tag, found => .ok (tag, found)
  | (key, draft) :: rest, tag, found =>
      match readPieces key with
      | .error fault => .error (.notJson fault)
      | .ok "check" =>
          if tag.isSome then .error (.mismatch (.duplicateField "check"))
          else
            match readTag draft with
            | .error error => .error error
            | .ok tag => readTagged rest (some tag) found
      | .ok key =>
          match draft.value memberDepth with
          | .error fault => .error (.notJson fault)
          | .ok value => readTagged rest tag (found ++ [(key, value)])

def requireEnd (stop : Option Break) : Except ReadError Unit :=
  match readStop stop with
  | .ok _ => .ok ()
  | .error fault => .error (.notJson fault)

def orMismatch {α : Type} : Except Mismatch α → Except ReadError α
  | .ok value => .ok value
  | .error mismatch => .error (.mismatch mismatch)

def readCheck (draft : Draft) : Except ReadError Check :=
  match draft with
  | .object members stop =>
      match readTagged members none [] with
      | .error error => .error error
      | .ok (tag, found) =>
          match requireEnd stop, tag with
          | .error error, _ => .error error
          | .ok _, none => .error (.mismatch (.missingField "check"))
          | .ok _, some tag => orMismatch (readObject tag found)
  | .array [] stop =>
      match requireEnd stop with
      | .error error => .error error
      | .ok _ => .error (.mismatch (.missingField "check"))
  | .array (first :: rest) stop =>
      match readTag first with
      | .error error => .error error
      | .ok tag =>
          match Draft.values memberDepth rest, requireEnd stop with
          | .error fault, _ => .error (.notJson fault)
          | .ok _, .error error => .error error
          | .ok values, .ok _ => orMismatch (readList tag values)
  | other => .error (other.refuse "internally tagged enum PlanCheck")

def readChecks : List Draft → Except ReadError (List Check)
  | [] => .ok []
  | draft :: rest =>
      match readCheck draft with
      | .error error => .error error
      | .ok check => (readChecks rest).map (check :: ·)

def readCheckList (draft : Draft) : Except ReadError (List Check) :=
  match draft with
  | .array items stop =>
      match readChecks items with
      | .error error => .error error
      | .ok checks => (requireEnd stop).map fun _ => checks
  | other => .error (other.refuse "a sequence")

/-- The checks among the members of a plan. Other members are left out whatever they hold. -/
def readPlanMembers : List (List Piece × Draft) → Option (List Check) →
    Except ReadError (Option (List Check))
  | [], found => .ok found
  | (key, draft) :: rest, found =>
      match readPieces key with
      | .error fault => .error (.notJson fault)
      | .ok "checks" =>
          if found.isSome then .error (.mismatch (.duplicateField "checks"))
          else
            match readCheckList draft with
            | .error error => .error error
            | .ok checks => readPlanMembers rest (some checks)
      | .ok _ =>
          match draft.fault? with
          | some fault => .error (.notJson fault)
          | none => readPlanMembers rest found

/-- A plan. Written as a list it has one item, the list of its checks. -/
def Plan.ofDraft (draft : Draft) : Except ReadError Plan :=
  match draft with
  | .object members stop =>
      match readPlanMembers members none with
      | .error error => .error error
      | .ok found =>
          match requireEnd stop, found with
          | .error error, _ => .error error
          | .ok _, none => .error (.mismatch (.missingField "checks"))
          | .ok _, some checks => .ok ⟨checks⟩
  | .array [] stop =>
      match requireEnd stop with
      | .error error => .error error
      | .ok _ =>
          .error (.mismatch (.wrongLength 0 "struct ValidationPlan with 1 element"))
  | .array (first :: rest) stop =>
      match readCheckList first with
      | .error error => .error error
      | .ok checks =>
          if rest.isEmpty then (requireEnd stop).map fun _ => ⟨checks⟩
          else .error (.notJson .malformed)
  | other => .error (other.refuse "struct ValidationPlan")

def requireAlone (document : Document) : Except ReadError Unit :=
  match document.trailing with
  | none => .ok ()
  | some fault => .error (.notJson fault)

def Plan.ofText (text : List Char) : Except ReadError Plan :=
  let document := Document.ofText text
  match Plan.ofDraft document.value with
  | .error error => .error error
  | .ok plan => (requireAlone document).map fun _ => plan

/-- The expectation that a text holds. A value that states none is refused before anything after it
is looked at. -/
def Expectation.ofText (text : List Char) : Except ReadError Expectation :=
  let document := Document.ofText text
  match document.value.value maxDepth with
  | .error fault => .error (.notJson fault)
  | .ok value =>
      match orMismatch (readExpectation value) with
      | .error error => .error error
      | .ok expected => (requireAlone document).map fun _ => expected

end DatasetGate
