import DatasetGate.Check.Outcome

/-!
# Rows

Views of a frame's columns, row by row, and the rows that fail a predicate. A row whose cell holds
nothing always fails.
-/

set_option autoImplicit false

namespace DatasetGate

/-- The rows that fail a predicate. The predicate sees the row and what its cell holds. -/
def failingRows {α : Type} (accepts : Nat → α → Bool) (cells : List (Option α)) : List Nat :=
  cells.zipIdx.filterMap fun (cell, row) =>
    match cell with
    | some value => if accepts row value then none else some row
    | none => some row

namespace Frame

def column (frame : Frame) (name : String) : Except CheckError Column :=
  match frame.column? name with
  | some column => .ok column
  | none => .error (.columnNotFound name)

def displayCells (frame : Frame) (name : String) : Except CheckError (List (Option String)) :=
  (frame.column name).map fun column => column.cells.map Cell.text?

def textCells (frame : Frame) (name : String) : Except CheckError (List (Option String)) :=
  match frame.column name with
  | .error error => .error error
  | .ok column =>
      if column.type.isTextual then .ok (column.cells.map Cell.text?)
      else .error (.notText name column.type)

def repositoryPath (owner name : String) : String :=
  owner ++ "/" ++ name

/-- The paths of the repositories that two columns name, row by row. A row without owner or without
name has none. -/
def repositoryPaths (frame : Frame) (owner name : String) :
    Except CheckError (List (Option String)) :=
  match frame.displayCells owner with
  | .error error => .error error
  | .ok owners =>
      (frame.displayCells name).map fun names =>
        List.zipWith (fun owner name => match owner, name with
          | some owner, some name => some (repositoryPath owner name)
          | _, _ => none) owners names

end Frame

def readCells {α : Type} (read? : Cell → Option α) :
    Nat → List Cell → Except (Nat × Cell) (List (Option α))
  | _, [] => .ok []
  | row, cell :: rest =>
      if cell.isNull then (readCells read? (row + 1) rest).map (none :: ·)
      else
        match read? cell with
        | some value => (readCells read? (row + 1) rest).map (some value :: ·)
        | none => .error (row, cell)

end DatasetGate
