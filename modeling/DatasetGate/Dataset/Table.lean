import DatasetGate.Dataset.Inference

/-!
# Tables

A text with a header becomes a frame: names from the first record, types from the first rows, cells
from all. A text that is no table has no frame.

The octets are taken as text whatever they start with. Those that open as compressed data do are left
out, also where they are text, as a header is that starts with `x^`: such a file is refused before
its records are looked at, and here it may be a table.
-/

set_option autoImplicit false

namespace DatasetGate.Dataset

open DatasetGate.Text DatasetGate.Number

def dropMark : List UInt8 → List UInt8
  | 0xEF :: 0xBB :: 0xBF :: rest => rest
  | bytes => bytes

/-- A name as repetition numbers it: the first one stays, further ones are counted from zero. -/
def numberName (earlier : List String) (name : String) : String :=
  match earlier.count name with
  | 0 => name
  | n + 1 => name ++ "_duplicated_" ++ toString n

def numberNames : List String → List String → List String
  | _, [] => []
  | earlier, name :: rest => numberName earlier name :: numberNames (name :: earlier) rest

def headerNames? (record : List UInt8) : Option (List String) :=
  let line := dropReturn record
  if line.isEmpty then none
  else
    match splitFields .start line with
    | none => none
    | some fields =>
        let names := numberNames [] (fields.map fun field =>
          String.ofList (Utf8.decodeLossy field.inner))
        if names.Nodup then some names else none

def isIndent (c : Char) : Bool :=
  c = ' ' || c = '\t'

/-- A value read from the text of a field. Where that fails and blanks stand in front, it is read
again without them; no text at all is null. -/
def readIndented (read? : List Char → Option Cell) (text : List Char) : Option Cell :=
  if text.isEmpty then some .null
  else
    match read? text with
    | some cell => some cell
    | none =>
        match text with
        | c :: _ =>
            if isIndent c then
              let rest := text.dropWhile isIndent
              if rest.isEmpty then some .null else read? rest
            else none
        | [] => none

def readBool? (text : List Char) : Option Cell :=
  let name := String.ofList (text.map Char.toLower)
  if name = "true" then some (.bool true)
  else if name = "false" then some (.bool false)
  else none

def readInteger64? (text : List Char) : Option Cell :=
  match readInteger? text with
  | some value => if FitsInt64 value then some (.integer value) else none
  | none => none

/-- The text of a field. A quoted one ends with a quote of its own. -/
def readText? (field : Field) : Option Cell :=
  let bytes :=
    if field.quoted then
      if 2 ≤ field.bytes.length ∧ field.bytes.getLast? = some quote then
        some (unescape false field.inner)
      else none
    else some field.bytes
  match bytes with
  | some bytes => (Utf8.decode? bytes).map fun text => .text (String.ofList text)
  | none => none

/-- The cell of a field in a column of a type. An empty field is null. -/
def readCell? (type : ColumnType) (field : Field) : Option Cell :=
  let field := field.dropReturn
  if field.bytes.isEmpty then some .null
  else
    match type with
    | .text => readText? field
    | _ =>
        match Utf8.decode? field.inner with
        | none => none
        | some text =>
            match type with
            | .bool => readBool? text
            | .integer _ => readIndented readInteger64? text
            | .float64 =>
                readIndented (fun cs => (readDouble? cs).map fun value => .float value) text
            | _ => none

/-- The cells of a record, one for each column type. Missing fields are null, and further ones are
refused. -/
def readCells? : List ColumnType → List Field → Option (List Cell)
  | [], [] => some []
  | [], _ :: _ => none
  | _ :: types, [] => (readCells? types []).map (.null :: ·)
  | type :: types, field :: fields =>
      match readCell? type field with
      | none => none
      | some cell => (readCells? types fields).map (cell :: ·)

/-- The cells of a record. An empty one is a row of nulls. -/
def readRow? (types : List ColumnType) (record : List UInt8) : Option (List Cell) :=
  if (dropReturn record).isEmpty then some (types.map fun _ => .null)
  else
    match splitFields .start record with
    | none => none
    | some fields => readCells? types fields

def inferTypes? (width : Nat) (records : List (List UInt8)) : Option (List ColumnType) :=
  ((records.take inferenceRows).mapM inspectRecord).map fun rows =>
    (List.range width).map (inferColumn rows)

def columnsOf (names : List String) (types : List ColumnType) (rows : List (List Cell)) :
    List Column :=
  (names.zip types).zipIdx.map fun ((name, type), index) =>
    ⟨name, type, rows.map fun row => (row[index]?).getD .null⟩

def frame? (bytes : List UInt8) : Option Frame :=
  match splitRecords false (dropMark bytes) with
  | [] => none
  | header :: records =>
      match headerNames? header with
      | none => none
      | some names =>
          match inferTypes? names.length records with
          | none => none
          | some types =>
              (records.mapM (readRow? types)).map fun rows => ⟨columnsOf names types rows⟩

end DatasetGate.Dataset
