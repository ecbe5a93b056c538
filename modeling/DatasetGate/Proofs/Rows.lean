import DatasetGate.Check.Rows
import Mathlib

/-!
# Failing rows and views of columns

The failing rows of a predicate are a filter of all row numbers. In a well-formed frame every view of a
column is a function of the row number, so a judgement about a column is one about its rows.
-/

set_option autoImplicit false

namespace DatasetGate

theorem except_map_eq_ok_iff {ε α β : Type} {f : α → β} {result : Except ε α} {value : β} :
    result.map f = .ok value ↔ ∃ found, result = .ok found ∧ f found = value := by
  cases result <;> simp [Except.map]

/-- The predicate accepts what stands in a row. Nothing is accepted in a row without a value. -/
def acceptsRow {α : Type} (accepts : Nat → α → Bool) (cells : List (Option α)) (row : Nat) : Bool :=
  (cells[row]?).join.any (accepts row)

theorem failingRows_eq_filter {α : Type} (accepts : Nat → α → Bool) (cells : List (Option α)) :
    failingRows accepts cells =
      (List.range cells.length).filter fun row => !acceptsRow accepts cells row := by
  induction cells using List.reverseRecOn with
  | nil => rfl
  | append_singleton cells cell ih =>
      have earlier : (List.range cells.length).filter
            (fun row => !acceptsRow accepts (cells ++ [cell]) row) =
          (List.range cells.length).filter fun row => !acceptsRow accepts cells row := by
        refine List.filter_congr fun row member => ?_
        rw [acceptsRow, acceptsRow, List.getElem?_append_left (List.mem_range.mp member)]
      have last : acceptsRow accepts (cells ++ [cell]) cells.length =
          cell.any (accepts cells.length) := by
        simp [acceptsRow]
      rw [List.length_append, List.length_singleton, List.range_succ, List.filter_append, earlier,
        ← ih]
      simp only [failingRows, List.zipIdx_append, List.filterMap_append, List.zipIdx_singleton,
        Nat.zero_add, List.filter_singleton, last]
      congr 1
      cases cell with
      | none => rfl
      | some value => cases accepted : accepts cells.length value <;> simp [accepted]

theorem failingRows_congr {α : Type} {accepts other : Nat → α → Bool} {cells : List (Option α)}
    (same : ∀ row < cells.length, ∀ value, accepts row value = other row value) :
    failingRows accepts cells = failingRows other cells := by
  rw [failingRows_eq_filter, failingRows_eq_filter]
  refine List.filter_congr fun row member => ?_
  rw [acceptsRow, acceptsRow]
  cases (cells[row]?).join with
  | none => rfl
  | some value => simp [same row (List.mem_range.mp member) value]

/-- Rows below others are numbered on from them. -/
theorem failingRows_append {α : Type} (accepts : Nat → α → Bool) (upper lower : List (Option α)) :
    failingRows accepts (upper ++ lower) =
      failingRows accepts upper ++
        (failingRows (fun row => accepts (row + upper.length)) lower).map (· + upper.length) := by
  have above : (List.range upper.length).filter
        (fun row => !acceptsRow accepts (upper ++ lower) row) =
      (List.range upper.length).filter fun row => !acceptsRow accepts upper row := by
    refine List.filter_congr fun row member => ?_
    rw [acceptsRow, acceptsRow, List.getElem?_append_left (List.mem_range.mp member)]
  have below (row : Nat) : acceptsRow accepts (upper ++ lower) (upper.length + row) =
      acceptsRow (fun row => accepts (row + upper.length)) lower row := by
    rw [acceptsRow, acceptsRow, List.getElem?_append_right (Nat.le_add_right _ _),
      Nat.add_sub_cancel_left, Nat.add_comm]
  simp only [failingRows_eq_filter, List.length_append, List.range_add, List.filter_append, above,
    List.filter_map, Function.comp_def, below]
  simp only [Nat.add_comm]

theorem failingRows_pairwise_lt {α : Type} (accepts : Nat → α → Bool) (cells : List (Option α)) :
    (failingRows accepts cells).Pairwise (· < ·) := by
  rw [failingRows_eq_filter]
  exact List.pairwise_lt_range.filter _

theorem mem_failingRows_iff {α : Type} {accepts : Nat → α → Bool} {cells : List (Option α)}
    {row : Nat} :
    row ∈ failingRows accepts cells ↔
      row < cells.length ∧ acceptsRow accepts cells row = false := by
  simp [failingRows_eq_filter]

/-- Where the values of the rows are read from cells, the rows whose cell has no accepted value fail. -/
theorem mem_failingRows_map_iff {α β : Type} {accepts : β → Bool} {view : α → Option β}
    {cells : List α} {row : Nat} :
    row ∈ failingRows (fun _ value => accepts value) (cells.map view) ↔
      ∃ cell, cells[row]? = some cell ∧ ∀ value, view cell = some value → accepts value = false := by
  rw [mem_failingRows_iff, List.length_map, acceptsRow, List.getElem?_map]
  cases entry : cells[row]? with
  | none =>
      have beyond : ¬ row < cells.length := by simpa using entry
      simp [beyond]
  | some cell =>
      have bound : row < cells.length := (List.getElem?_eq_some_iff.mp entry).1
      cases shown : view cell with
      | none => simp [bound, shown]
      | some value => simp [bound, shown]

theorem failingRows_eq_nil_iff {α : Type} {accepts : Nat → α → Bool}
    {cells : List (Option α)} :
    failingRows accepts cells = [] ↔
      ∀ row < cells.length, acceptsRow accepts cells row = true := by
  simp [failingRows_eq_filter, List.filter_eq_nil_iff]

namespace Frame

/-- The cell of a named column in a row. -/
def cellAt? (frame : Frame) (name : String) (row : Nat) : Option Cell :=
  (frame.column? name).bind fun column => column.cells[row]?

/-- What a named column shows in a row. It shows nothing where the column is missing, the row lies
outside it or the cell holds nothing. -/
def textAt? (frame : Frame) (name : String) (row : Nat) : Option String :=
  (frame.cellAt? name row).bind Cell.text?

theorem has_iff_column? {frame : Frame} {name : String} :
    frame.has name = true ↔ ∃ column, frame.column? name = some column := by
  rw [← Option.isSome_iff_exists, column?, List.find?_isSome]
  simp [has, names]

theorem column?_mem {frame : Frame} {name : String} {column : Column}
    (found : frame.column? name = some column) : column ∈ frame.columns :=
  List.mem_of_find?_eq_some found

/-- Every column has a cell for each row of the frame. -/
def Aligned (frame : Frame) : Prop :=
  ∀ column ∈ frame.columns, column.cells.length = frame.height

theorem Aligned.length_cells {frame : Frame} (aligned : frame.Aligned) {name : String}
    {column : Column} (found : frame.column? name = some column) :
    column.cells.length = frame.height :=
  aligned column (column?_mem found)

theorem WellFormed.length_cells {frame : Frame} (formed : frame.WellFormed) {name : String}
    {column : Column} (found : frame.column? name = some column) :
    column.cells.length = frame.height :=
  Aligned.length_cells formed.aligned found

theorem column_eq_ok_iff {frame : Frame} {name : String} {column : Column} :
    frame.column name = .ok column ↔ frame.column? name = some column := by
  rw [Frame.column]
  cases found : frame.column? name with
  | none => simp
  | some other => simp

theorem column_eq_error_iff {frame : Frame} {name : String} {error : CheckError} :
    frame.column name = .error error ↔
      frame.column? name = none ∧ error = .columnNotFound name := by
  rw [Frame.column]
  cases found : frame.column? name with
  | none => simp [eq_comm]
  | some column => simp

/-- The path of the repository that two columns name in a row. -/
def pathAt? (frame : Frame) (owner name : String) (row : Nat) : Option String :=
  match frame.textAt? owner row, frame.textAt? name row with
  | some owner, some name => some (repositoryPath owner name)
  | _, _ => none

/-- The rows of a frame that do not meet a condition, in order. -/
def rowsWithout (frame : Frame) (condition : Nat → Bool) : List Nat :=
  (List.range frame.height).filter fun row => !condition row

/-- A list of cells has one entry for each row of a frame, and shows a given view of it. -/
structure Views (frame : Frame) {α : Type} (cells : List (Option α)) (view : Nat → Option α) :
    Prop where
  length_eq : cells.length = frame.height
  cell_eq : ∀ row, (cells[row]?).join = view row

theorem Views.failingRows_eq {frame : Frame} {α : Type} {cells : List (Option α)}
    {view : Nat → Option α} (views : frame.Views cells view) (accepts : Nat → α → Bool) :
    failingRows accepts cells = frame.rowsWithout fun row => (view row).any (accepts row) := by
  rw [failingRows_eq_filter, views.length_eq, rowsWithout]
  refine List.filter_congr fun row _ => ?_
  rw [acceptsRow, views.cell_eq]

theorem rowsWithout_pairwise_lt (frame : Frame) (condition : Nat → Bool) :
    (frame.rowsWithout condition).Pairwise (· < ·) :=
  List.pairwise_lt_range.filter _

theorem mem_rowsWithout {frame : Frame} {condition : Nat → Bool} {row : Nat} :
    row ∈ frame.rowsWithout condition ↔ row < frame.height ∧ condition row = false := by
  simp [rowsWithout]

theorem rowsWithout_eq_nil_iff {frame : Frame} {condition : Nat → Bool} :
    frame.rowsWithout condition = [] ↔ ∀ row < frame.height, condition row = true := by
  simp [rowsWithout, List.filter_eq_nil_iff]

theorem cellAt?_of_column? {frame : Frame} {name : String} {column : Column}
    (found : frame.column? name = some column) (row : Nat) :
    frame.cellAt? name row = column.cells[row]? := by
  simp [cellAt?, found]

/-- Reading the cells of a column one by one gives a view of its rows. -/
theorem views_of_column? {frame : Frame} (aligned : frame.Aligned) {name : String}
    {column : Column} (found : frame.column? name = some column) {α : Type}
    (read? : Cell → Option α) :
    frame.Views (column.cells.map read?) fun row => (frame.cellAt? name row).bind read? where
  length_eq := by rw [List.length_map, aligned.length_cells found]
  cell_eq row := by
    rw [cellAt?_of_column? found]
    cases cell : column.cells[row]? <;> simp [cell]

theorem displayCells_eq_ok_iff {frame : Frame} {name : String} {cells : List (Option String)} :
    frame.displayCells name = .ok cells ↔
      ∃ column, frame.column? name = some column ∧ column.cells.map Cell.text? = cells := by
  rw [displayCells]
  cases found : frame.column? name with
  | none => simp [column_eq_error_iff.mpr ⟨found, rfl⟩, Except.map]
  | some column => simp [column_eq_ok_iff.mpr found, Except.map]

theorem textCells_eq_ok_iff {frame : Frame} {name : String} {cells : List (Option String)} :
    frame.textCells name = .ok cells ↔
      ∃ column, frame.column? name = some column ∧ column.type.isTextual = true ∧
        column.cells.map Cell.text? = cells := by
  rw [textCells]
  cases found : frame.column? name with
  | none => simp [column_eq_error_iff.mpr ⟨found, rfl⟩]
  | some column =>
      simp only [column_eq_ok_iff.mpr found]
      cases textual : column.type.isTextual <;> simp [textual]

theorem views_of_displayCells {frame : Frame} (aligned : frame.Aligned) {name : String}
    {cells : List (Option String)} (shown : frame.displayCells name = .ok cells) :
    frame.Views cells (frame.textAt? name) := by
  obtain ⟨column, found, rfl⟩ := displayCells_eq_ok_iff.mp shown
  exact views_of_column? aligned found Cell.text?

theorem views_of_textCells {frame : Frame} (aligned : frame.Aligned) {name : String}
    {cells : List (Option String)} (shown : frame.textCells name = .ok cells) :
    frame.Views cells (frame.textAt? name) := by
  obtain ⟨column, found, _, cellsEq⟩ := textCells_eq_ok_iff.mp shown
  exact views_of_displayCells aligned (displayCells_eq_ok_iff.mpr ⟨column, found, cellsEq⟩)

/-- Paired columns stay aligned: the path of a row is made of the owner and the name of that row. -/
theorem views_of_repositoryPaths {frame : Frame} (aligned : frame.Aligned)
    {owner name : String} {paths : List (Option String)}
    (joined : frame.repositoryPaths owner name = .ok paths) :
    frame.Views paths (frame.pathAt? owner name) := by
  rw [repositoryPaths] at joined
  cases ownersShown : frame.displayCells owner with
  | error error => simp [ownersShown] at joined
  | ok owners =>
      cases namesShown : frame.displayCells name with
      | error error => simp [ownersShown, namesShown, Except.map] at joined
      | ok names =>
          simp only [ownersShown, namesShown, Except.map, Except.ok.injEq] at joined
          subst joined
          have ownerViews := views_of_displayCells aligned ownersShown
          have nameViews := views_of_displayCells aligned namesShown
          refine ⟨?_, fun row => ?_⟩
          · rw [List.length_zipWith, ownerViews.length_eq, nameViews.length_eq, min_self]
          · rw [pathAt?, ← ownerViews.cell_eq row, ← nameViews.cell_eq row,
              List.getElem?_zipWith]
            rcases owners[row]? with _ | _ | owner <;> rcases names[row]? with _ | _ | name <;> rfl

end Frame

/-- Reading succeeds when every cell that holds something can be read, and then keeps one entry for
each cell. -/
theorem readCells_eq_ok_iff {α : Type} {read? : Cell → Option α} {row : Nat} {cells : List Cell}
    {values : List (Option α)} :
    readCells read? row cells = .ok values ↔
      (∀ cell ∈ cells, cell.isNull = true ∨ (read? cell).isSome = true) ∧
        (cells.map fun cell => if cell.isNull then none else read? cell) = values := by
  induction cells generalizing row values with
  | nil => simp [readCells]
  | cons cell rest ih =>
      rw [readCells]
      cases null : cell.isNull with
      | true => simp [except_map_eq_ok_iff, ih, null, and_assoc]
      | false =>
          cases found : read? cell with
          | none => simp [null, found]
          | some value => simp [except_map_eq_ok_iff, ih, null, found, and_assoc]

end DatasetGate
