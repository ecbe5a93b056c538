import DatasetGate.Dataset.Table
import DatasetGate.Files
import DatasetGate.Text.Blank

/-!
# Loading datasets

A dataset passes four gates in order: the size of the file, its encoding, its form as a table, and
its shape. A dataset that passes has rows, and no column without a name. Paths are followed as they
stand; those that start with a tilde for a home directory are left out.
-/

set_option autoImplicit false

namespace DatasetGate

open DatasetGate.Text

inductive DatasetError where
  | notFound (path : String)
  | unreadable (path : String) (fault : FileFault)
  | tooLarge (path : String) (size limit : Nat)
  | unsupportedEncoding (path encoding : String)
  | noTable (path : String)
  | noRecords (path : String)
  | blankColumnName (path : String)
  deriving DecidableEq, Repr

def DatasetError.message : DatasetError → String
  | .notFound path => "CSV file not found: " ++ path
  | .unreadable path fault => "failed to read file " ++ path ++ ": " ++ fault.message
  | .tooLarge path size limit =>
      "CSV file " ++ path ++ " is " ++ toString size ++ " bytes, larger than the " ++
        toString limit ++ " byte limit"
  | .unsupportedEncoding path encoding => "unsupported encoding " ++ encoding ++ " in " ++ path
  | .noTable path => "failed to parse CSV " ++ path
  | .noRecords path => "dataset has no records: " ++ path
  | .blankColumnName path => "dataset has an empty column name: " ++ path

namespace Dataset

def defaultLimit : Nat := 500 * 1024 * 1024

def pathError (path : String) : FileFault → DatasetError
  | .notFound => .notFound path
  | fault => .unreadable path fault

def wideEncoding? : List UInt8 → Option String
  | 0xFF :: 0xFE :: _ => some "UTF-16 LE"
  | 0xFE :: 0xFF :: _ => some "UTF-16 BE"
  | _ => none

def checkSize (files : Files) (path : String) (limit : Nat) : Except DatasetError Unit :=
  match files.find path with
  | .error fault => .error (pathError path fault)
  | .ok node =>
      if limit < node.size then .error (.tooLarge path node.size limit) else .ok ()

def checkEncoding (files : Files) (path : String) : Except DatasetError (List UInt8) :=
  match files.read path with
  | .error fault => .error (pathError path fault)
  | .ok bytes =>
      match wideEncoding? bytes with
      | some encoding => .error (.unsupportedEncoding path encoding)
      | none => .ok bytes

def isBlankName (name : String) : Bool :=
  (trim name.toList).isEmpty

def checkShape (path : String) (frame : Frame) : Except DatasetError Frame :=
  if frame.height = 0 then .error (.noRecords path)
  else if frame.names.any isBlankName then .error (.blankColumnName path)
  else .ok frame

def ofBytes (path : String) (bytes : List UInt8) : Except DatasetError Frame :=
  match frame? bytes with
  | none => .error (.noTable path)
  | some frame => checkShape path frame

def load (files : Files) (path : String) (limit : Nat) : Except DatasetError Frame :=
  match checkSize files path limit with
  | .error error => .error error
  | .ok _ =>
      match checkEncoding files path with
      | .error error => .error error
      | .ok bytes => ofBytes path bytes

end Dataset
end DatasetGate
