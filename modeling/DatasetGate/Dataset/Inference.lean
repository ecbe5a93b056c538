import DatasetGate.Dataset.Delimited
import DatasetGate.Frame.Basic
import DatasetGate.Text.Digit
import DatasetGate.Text.Utf8

/-!
# Inferring column types

The type of a column from the fields of its first rows. Whole numbers and other numbers together make
a column of numbers, any other mixture a column of text. Digits of every script count here, though
only ASCII digits can be read.
-/

set_option autoImplicit false

namespace DatasetGate.Dataset

open DatasetGate.Text

inductive FieldType where
  | bool
  | integer
  | float
  | text
  deriving DecidableEq, Repr

def inferenceRows : Nat := 1000

/-- A letter in lower case; the long s counts as an s. -/
def foldLetter (c : Char) : Char :=
  if c = '\u017f' then 's' else c.toLower

def looksBool (cs : List Char) : Bool :=
  let name := String.ofList (cs.map foldLetter)
  name = "true" || name = "false"

def looksDigits (cs : List Char) : Bool :=
  !cs.isEmpty && cs.all isDecimalDigit

def looksInteger : List Char → Bool
  | '-' :: rest => looksDigits rest
  | cs => looksDigits cs

def looksExponent : List Char → Bool
  | [] => false
  | mark :: rest =>
      (mark = 'e' || mark = 'E') &&
        match rest with
        | '-' :: digits => looksDigits digits
        | '+' :: digits => looksDigits digits
        | digits => looksDigits digits

def looksDecimal (cs : List Char) : Bool :=
  let whole := cs.takeWhile isDecimalDigit
  match cs.dropWhile isDecimalDigit with
  | '.' :: rest =>
      let fraction := rest.takeWhile isDecimalDigit
      let after := rest.dropWhile isDecimalDigit
      if fraction.isEmpty then !whole.isEmpty && after.isEmpty
      else after.isEmpty || looksExponent after
  | rest => !whole.isEmpty && looksExponent rest

def looksFloat (cs : List Char) : Bool :=
  let unsigned :=
    match cs with
    | '-' :: rest => rest
    | '+' :: rest => rest
    | rest => rest
  String.ofList unsigned = "inf" || String.ofList unsigned = "NaN" || looksDecimal unsigned

def FieldType.ofText (cs : List Char) : FieldType :=
  if looksBool cs then .bool
  else if looksFloat cs then .float
  else if looksInteger cs then .integer
  else .text

def columnTypeOf (seen : List FieldType) : ColumnType :=
  let has (type : FieldType) : Bool := seen.contains type
  match has .bool, has .integer, has .float, has .text with
  | true, false, false, false => .bool
  | false, true, false, false => .integer .signed64
  | false, _, true, false => .float64
  | _, _, _, _ => .text

/-- The looks of a field; an empty one has none. A field that is not text is refused. -/
def inspectField (field : Field) : Option (Option FieldType) :=
  if field.bytes.isEmpty then some none
  else (Utf8.decode? field.inner).map fun text => some (FieldType.ofText text)

def inspectRecord (record : List UInt8) : Option (List (Option FieldType)) :=
  match splitFields .start (dropReturn record) with
  | none => none
  | some fields => fields.mapM inspectField

def inferColumn (rows : List (List (Option FieldType))) (index : Nat) : ColumnType :=
  columnTypeOf (rows.filterMap fun row => (row[index]?).join)

end DatasetGate.Dataset
