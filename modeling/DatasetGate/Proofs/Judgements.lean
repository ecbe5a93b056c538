import DatasetGate.Proofs.PairedColumns

/-!
# The rows that each check finds

For every predicate of a check, the condition on a row of a well-formed frame that its failing rows lack.
A verdict depends on the cells only through these conditions.
-/

set_option autoImplicit false

namespace DatasetGate

open DatasetGate.Text DatasetGate.Calendar

/-- The instant that a cell of a date column shows. -/
def Cell.instant? (cell : Cell) : Option Instant :=
  if cell.isNull then none else parseTimestamp? cell.display

namespace Check

private theorem rows_of_textCells {frame : Frame} (formed : frame.WellFormed) {name : String}
    {accepts : Nat → String → Bool} {rows : List Nat}
    (found : (frame.textCells name).map (failingRows accepts) = .ok rows) :
    rows = frame.rowsWithout fun row => (frame.textAt? name row).any (accepts row) := by
  obtain ⟨cells, shown, rfl⟩ := except_map_eq_ok_iff.mp found
  exact (Frame.views_of_textCells formed.aligned shown).failingRows_eq accepts

theorem schemeFailures_rows {frame : Frame} (formed : frame.WellFormed) {column : UrlColumn}
    {rows : List Nat} (found : schemeFailures frame column = .ok rows) :
    rows = frame.rowsWithout fun row =>
      (frame.textAt? column.name row).any (AddressShape.ofColumn column).startsRight :=
  rows_of_textCells formed found

theorem authorityFailures_rows {frame : Frame} (formed : frame.WellFormed) {column : UrlColumn}
    {rows : List Nat} (found : authorityFailures frame column = .ok rows) :
    rows = frame.rowsWithout fun row =>
      (frame.textAt? column.name row).any (AddressShape.ofColumn column).marksRight :=
  rows_of_textCells formed found

/-- The address of a row is compared with the one that the row's own owner and name make. -/
theorem pathFailures_rows {frame : Frame} (formed : frame.WellFormed) {column : UrlColumn}
    {rows : List Nat} (found : pathFailures frame column = .ok rows) :
    rows = frame.rowsWithout fun row =>
      (frame.textAt? column.name row).any fun text =>
        (frame.pathAt? column.ownerColumn column.nameColumn row).any fun path =>
          text == (AddressShape.ofColumn column).address path := by
  rw [pathFailures_eq_misfits] at found
  exact Frame.Aligned.misfits_rows formed.aligned found

theorem dateFailures_rows {frame : Frame} (formed : frame.WellFormed) {column : DateColumn}
    {rows : List Nat}
    (found : ((frame.displayCells column.name).map <|
      failingRows fun _ text => startsWithDate text.toList) = .ok rows) :
    rows = frame.rowsWithout fun row =>
      (frame.textAt? column.name row).any fun text => startsWithDate text.toList := by
  obtain ⟨cells, shown, rfl⟩ := except_map_eq_ok_iff.mp found
  exact (Frame.views_of_displayCells formed.aligned shown).failingRows_eq _

/-- Instants are read where every cell of the column that holds something shows one. -/
theorem readInstants_eq_ok_iff {frame : Frame} {column : DateColumn}
    {instants : List (Option Instant)} :
    readInstants frame column = .ok instants ↔
      ∃ target, frame.column? column.name = some target ∧
        (∀ cell ∈ target.cells, cell.isNull = true ∨ (parseTimestamp? cell.display).isSome = true) ∧
        target.cells.map Cell.instant? = instants := by
  rw [readInstants]
  cases found : frame.column? column.name with
  | none => simp [Frame.column_eq_error_iff.mpr ⟨found, rfl⟩]
  | some target =>
      simp only [Frame.column_eq_ok_iff.mpr found, Option.some.injEq, exists_eq_left']
      have readEq : readCells (fun cell => parseTimestamp? cell.display) 0 target.cells =
            .ok instants ↔
          (∀ cell ∈ target.cells, cell.isNull = true ∨ (parseTimestamp? cell.display).isSome = true) ∧
            target.cells.map Cell.instant? = instants :=
        readCells_eq_ok_iff
      rw [← readEq]
      cases readCells (fun cell => parseTimestamp? cell.display) 0 target.cells with
      | error failure => simp
      | ok values => simp

/-- The instants that are read from a column of dates are those of its rows. -/
theorem readInstants_views {frame : Frame} (formed : frame.WellFormed) {column : DateColumn}
    {instants : List (Option Instant)} (read : readInstants frame column = .ok instants) :
    frame.Views instants fun row => (frame.textAt? column.name row).bind parseTimestamp? := by
  obtain ⟨target, found, -, rfl⟩ := readInstants_eq_ok_iff.mp read
  have views := Frame.views_of_column? formed.aligned found fun cell => cell.text?.bind parseTimestamp?
  have readEq : Cell.instant? = fun cell => cell.text?.bind parseTimestamp? := by
    funext cell
    cases null : cell.isNull <;> simp [Cell.instant?, Cell.text?, null]
  rw [readEq]
  simpa [Frame.textAt?, Option.bind_assoc] using views

/-- The window of dates is judged without an error, and these are the rows outside it: the ones before
the limit and the ones behind the present. -/
def WindowRows (frame : Frame) (now limit : Instant) (column : DateColumn)
    (early late : List Nat) : Prop :=
  judgeWindow frame now limit column = .ofOutcomes
    [.ofRows .lowerBound column.name ("Records appear after " ++ limit.display) early,
     .ofRows .upperBound column.name ("Records appear before " ++ now.display) late]

theorem windowRows_of_readInstants {frame : Frame} {column : DateColumn}
    {instants : List (Option Instant)} (read : readInstants frame column = .ok instants)
    (now limit : Instant) :
    WindowRows frame now limit column
      (failingRows (fun _ instant => decide (limit.AtMost instant)) instants)
      (failingRows (fun _ instant => decide (instant.AtMost now)) instants) := by
  simp only [WindowRows, judgeWindow, read]

theorem WindowRows.failedRows {frame : Frame} {now limit : Instant} {column : DateColumn}
    {early late : List Nat} (outside : WindowRows frame now limit column early late) :
    (judgeWindow frame now limit column).outcomes.map Outcome.failedRows = [early, late] := by
  unfold WindowRows at outside
  rw [outside]
  rfl

theorem meetsLimit?_of_isNull {limit : Int} {cell : Cell} (null : cell.isNull = true) :
    meetsLimit? limit cell = none := by
  cases cell <;> simp_all [Cell.isNull, meetsLimit?, Cell.integer?, Cell.double?]

theorem readCells_meetsLimit?_eq_ok_iff {limit : Int} {row : Nat} {cells : List Cell}
    {met : List (Option Bool)} :
    readCells (meetsLimit? limit) row cells = .ok met ↔
      (∀ cell ∈ cells, cell.isNull = true ∨ (meetsLimit? limit cell).isSome = true) ∧
        cells.map (meetsLimit? limit) = met := by
  have readEq : (fun cell : Cell =>
      if cell.isNull then none else meetsLimit? limit cell) = meetsLimit? limit := by
    funext cell
    cases null : cell.isNull with
    | true => simp [meetsLimit?_of_isNull null]
    | false => simp
  rw [readCells_eq_ok_iff, readEq]

/-- The failing rows are found in the cells of the column that the check names. -/
theorem exists_of_limitFailures {frame : Frame} {limit : Int} {column : NumericColumn}
    {rows : List Nat} (failing : limitFailures frame limit column = .ok rows) :
    ∃ target, frame.column? column.name = some target ∧
      failingRows (fun _ passed => passed) (target.cells.map (meetsLimit? limit)) = rows := by
  unfold limitFailures at failing
  cases found : frame.column column.name with
  | error error =>
      rw [found] at failing
      cases failing
  | ok target =>
      rw [found] at failing
      cases read : readCells (meetsLimit? limit) 0 target.cells with
      | error failure =>
          simp only [read] at failing
          cases failing
      | ok met =>
          simp only [read, Except.ok.injEq] at failing
          obtain ⟨-, mapped⟩ := readCells_meetsLimit?_eq_ok_iff.mp read
          exact ⟨target, Frame.column_eq_ok_iff.mp found, by rw [mapped, failing]⟩

theorem limitFailures_rows {frame : Frame} (formed : frame.WellFormed) {limit : Int}
    {column : NumericColumn} {rows : List Nat}
    (found : limitFailures frame limit column = .ok rows) :
    rows = frame.rowsWithout fun row =>
      ((frame.cellAt? column.name row).bind (meetsLimit? limit)).any fun passed => passed := by
  obtain ⟨target, shown, rfl⟩ := exists_of_limitFailures found
  exact (Frame.views_of_column? formed.aligned shown (meetsLimit? limit)).failingRows_eq _

theorem repoNameFailures_rows {frame : Frame} (formed : frame.WellFormed) {column : RepoColumn}
    {rows : List Nat} (found : repoNameFailures frame column = .ok rows) :
    rows = frame.rowsWithout fun row =>
      (frame.textAt? column.name row).any fun text =>
        frame.pathAt? "owner" "name" row == some text := by
  rw [repoNameFailures_eq_misfits] at found
  rw [Frame.Aligned.misfits_rows formed.aligned found]
  congr 1
  funext row
  congr 1
  funext text
  cases frame.pathAt? "owner" "name" row <;> rfl

theorem repoNameFormatFailures_rows {frame : Frame} (formed : frame.WellFormed)
    {column : RepoColumn} {rows : List Nat}
    (found : ((frame.textCells column.name).map <|
      failingRows fun _ text => isRepositoryPath text.toList) = .ok rows) :
    rows = frame.rowsWithout fun row =>
      (frame.textAt? column.name row).any fun text => isRepositoryPath text.toList :=
  rows_of_textCells formed found

/-- A null cell may be expected too, so the condition is one on the cell and not on its text. -/
theorem valueFailures_rows {frame : Frame} (formed : frame.WellFormed) {name : String}
    {expected : Expectation} {rows : List Nat}
    (found : valueFailures frame name expected = .ok rows) :
    rows = frame.rowsWithout fun row =>
      (frame.cellAt? name row).any expected.accepts := by
  obtain ⟨column, target, rfl⟩ := except_map_eq_ok_iff.mp found
  have views := Frame.views_of_column? formed.aligned (Frame.column_eq_ok_iff.mp target) some
  simpa using views.failingRows_eq fun _ cell => expected.accepts cell

end Check
end DatasetGate
