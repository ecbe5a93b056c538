import DatasetGate.Proofs.Dataset.FrameShape
import DatasetGate.Proofs.Dataset.PlainTable
import DatasetGate.Proofs.Rows

/-!
# Frames of plain tables

The frame of a plain table is well formed: a cell read in a column has the column's type. What it shows
in a row is the text of the row where the type keeps that text.
-/

set_option autoImplicit false

namespace DatasetGate

theorem Frame.column?_of_mem {frame : Frame} (distinct : frame.names.Nodup) {column : Column}
    (member : column ∈ frame.columns) : frame.column? column.name = some column := by
  obtain ⟨columns⟩ := frame
  rw [Frame.names] at distinct
  rw [Frame.column?]
  dsimp only at distinct member ⊢
  induction columns with
  | nil => cases member
  | cons other columns columns_ih =>
      rw [List.map_cons, List.nodup_cons] at distinct
      rcases List.mem_cons.mp member with rfl | inside
      · simp
      · have others : other.name ≠ column.name := fun same =>
          distinct.1 (same ▸ List.mem_map_of_mem inside)
        rw [List.find?_cons_of_neg (by simpa using others)]
        exact columns_ih distinct.2 inside

namespace Dataset

open DatasetGate.Text

variable {ρ : Type} {columns : List (String × (ρ → String))} {rows : List ρ}

theorem names_tableFrame : (tableFrame columns rows).names = columns.map Prod.fst := by
  simp [Frame.names, tableFrame, Function.comp_def]

theorem height_tableFrame (nonempty : columns ≠ []) :
    (tableFrame columns rows).height = rows.length := by
  cases columns with
  | nil => exact absurd rfl nonempty
  | cons column more => simp [Frame.height, tableFrame]

theorem wellFormed_tableFrame (table : PlainTable columns rows)
    (readable : Readable columns rows) : (tableFrame columns rows).WellFormed :=
  wellFormed_of_frame? ((frame?_tableText table true).mpr ⟨readable, rfl⟩)

theorem column?_tableFrame (table : PlainTable columns rows) {column : String × (ρ → String)}
    (member : column ∈ columns) :
    (tableFrame columns rows).column? column.1 = some ⟨column.1, typeOf rows column,
      rows.map fun row => (cellOf? rows column row).getD .null⟩ := by
  have distinct : (tableFrame columns rows).names.Nodup := by
    rw [names_tableFrame]
    exact table.distinct
  have listed : (⟨column.1, typeOf rows column,
      rows.map fun row => (cellOf? rows column row).getD .null⟩ : Column) ∈
        (tableFrame columns rows).columns :=
    List.mem_map_of_mem member
  exact Frame.column?_of_mem distinct listed

theorem textAt?_tableFrame (table : PlainTable columns rows) {column : String × (ρ → String)}
    (member : column ∈ columns) {index : Nat} {row : ρ} (found : rows[index]? = some row) :
    (tableFrame columns rows).textAt? column.1 index = some (column.2 row) ↔
      Keeps (typeOf rows column) (column.2 row) := by
  rw [keeps_iff (table.texts column member row (List.mem_of_getElem? found)), Frame.textAt?,
    Frame.cellAt?_of_column? (column?_tableFrame table member)]
  change _ ↔ ∃ cell, cellOf? rows column row = some cell ∧ cell.text? = some (column.2 row)
  simp only [List.getElem?_map, found, Option.map_some, Option.bind_some]
  cases cellOf? rows column row with
  | none => simp [Cell.text?, Cell.isNull]
  | some cell => simp

end Dataset
end DatasetGate
