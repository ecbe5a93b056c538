import DatasetGate.Frame.Cell

/-!
# Frames

A frame is a list of named columns of typed cells. Every column of a well-formed frame has the
frame's height, a name of its own, and cells of its type.

Columns have the types listed here alone. Frames with others are left out: durations, octets,
categories, decimals, integers of more than 64 bits, lists and records, and timestamps with a time
zone of their own.
-/

set_option autoImplicit false

namespace DatasetGate

open DatasetGate.Number

inductive IntegerType where
  | signed8
  | signed16
  | signed32
  | signed64
  | unsigned8
  | unsigned16
  | unsigned32
  | unsigned64
  deriving DecidableEq, Repr

namespace IntegerType

def name : IntegerType → String
  | .signed8 => "i8"
  | .signed16 => "i16"
  | .signed32 => "i32"
  | .signed64 => "i64"
  | .unsigned8 => "u8"
  | .unsigned16 => "u16"
  | .unsigned32 => "u32"
  | .unsigned64 => "u64"

def least : IntegerType → Int
  | .signed8 => -0x80
  | .signed16 => -0x8000
  | .signed32 => -0x80000000
  | .signed64 => -0x8000000000000000
  | .unsigned8 | .unsigned16 | .unsigned32 | .unsigned64 => 0

def greatest : IntegerType → Int
  | .signed8 => 0x7F
  | .signed16 => 0x7FFF
  | .signed32 => 0x7FFFFFFF
  | .signed64 => 0x7FFFFFFFFFFFFFFF
  | .unsigned8 => 0xFF
  | .unsigned16 => 0xFFFF
  | .unsigned32 => 0xFFFFFFFF
  | .unsigned64 => 0xFFFFFFFFFFFFFFFF

end IntegerType

inductive ColumnType where
  | null
  | bool
  | integer (type : IntegerType)
  | float32
  | float64
  | text
  | date
  | timestamp (unit : TimeUnit)
  | time
  deriving DecidableEq, Repr

namespace ColumnType

def name : ColumnType → String
  | .null => "null"
  | .bool => "bool"
  | .integer type => type.name
  | .float32 => "f32"
  | .float64 => "f64"
  | .text => "str"
  | .date => "date"
  | .timestamp .milliseconds => "datetime[ms]"
  | .timestamp .microseconds => "datetime[μs]"
  | .timestamp .nanoseconds => "datetime[ns]"
  | .time => "time"

def isTextual : ColumnType → Bool
  | .text | .null => true
  | _ => false

def Holds : ColumnType → Cell → Prop
  | _, .null => True
  | .bool, .bool _ => True
  | .integer type, .integer value => type.least ≤ value ∧ value ≤ type.greatest
  | .float32, .float value =>
      value = .nan ∨ ∃ negative rank, value = Double.ofSingle negative rank
  | .float64, .float _ => True
  | .text, .text _ => True
  | .date, .date _ => True
  | .timestamp unit, .timestamp unit' _ => unit = unit'
  | .time, .time _ => True
  | _, _ => False

end ColumnType

structure Column where
  name : String
  type : ColumnType
  cells : List Cell
  deriving DecidableEq

structure Frame where
  columns : List Column
  deriving DecidableEq

namespace Frame

def empty : Frame := ⟨[]⟩

def height (frame : Frame) : Nat :=
  match frame.columns with
  | [] => 0
  | column :: _ => column.cells.length

def width (frame : Frame) : Nat :=
  frame.columns.length

def names (frame : Frame) : List String :=
  frame.columns.map Column.name

def column? (frame : Frame) (name : String) : Option Column :=
  frame.columns.find? fun column => column.name = name

def has (frame : Frame) (name : String) : Bool :=
  frame.names.contains name

def withColumn (frame : Frame) (column : Column) : Frame :=
  if frame.has column.name then
    ⟨frame.columns.map fun old => if old.name = column.name then column else old⟩
  else ⟨frame.columns ++ [column]⟩

def dropColumn (frame : Frame) (name : String) : Frame :=
  ⟨frame.columns.filter fun column => column.name ≠ name⟩

/-- All columns have the height of the frame, names are distinct, and cells have the types of their
columns. -/
structure WellFormed (frame : Frame) : Prop where
  aligned : ∀ column ∈ frame.columns, column.cells.length = frame.height
  distinct : frame.names.Nodup
  typed : ∀ column ∈ frame.columns, ∀ cell ∈ column.cells, column.type.Holds cell

end Frame
end DatasetGate
