import DatasetGate.Check.Basic
import DatasetGate.Proofs.Rows
import DatasetGate.Proofs.Selector

/-!
# Errors of checks

Which defects a frame has for a check, gravest first, told by its columns and cells alone. A check
ends in the first of them, and without an error where there is none.
-/

set_option autoImplicit false

namespace DatasetGate

open DatasetGate.Text DatasetGate.Number DatasetGate.Calendar

/-- The cell is an integer, a float, or text that is read as one of them. -/
def Cell.isNumeric : Cell → Bool
  | .integer _ | .float _ => true
  | .text value =>
      (readBounded minInteger maxInteger (trim value.toList)).toOption.isSome ||
        (parseDouble? value).isSome
  | _ => false

/-- What the cell shows is read as an instant. -/
def Cell.isInstant (cell : Cell) : Bool :=
  (parseTimestamp? cell.display).isSome

namespace Check

/-- The check takes columns of text alone. -/
def needsText : Check → Bool
  | .urls _ | .repoName _ | .repoNameFormat _ => true
  | .date _ | .limitDate _ _ | .limitNum _ _ | .value _ _ => false

/-- The columns that a check reads beside its own: those of owners and of names, in this order. -/
def pairedColumns : Check → List String
  | .urls .sshUrl | .urls .url | .repoName _ => ["owner", "name"]
  | .urls .csshUrl | .urls .curl => ["cowner", "cname"]
  | .date _ | .limitDate _ _ | .limitNum _ _ | .repoNameFormat _ | .value _ _ => []

/-- A repository column other than the base repository has no owner and name to be compared with. -/
def refusals : Check → List CheckError
  | .repoName .headRepo =>
      [.invalidSelector ⟨"repository name column", "headRepo", "baseRepo"⟩]
  | _ => []

end Check

namespace Frame

def missing (frame : Frame) (names : List String) : List CheckError :=
  (names.filter fun name => !frame.has name).map .columnNotFound

def mistyped (frame : Frame) (name : String) : List CheckError :=
  match frame.column? name with
  | some column => if column.type.isTextual then [] else [.notText name column.type]
  | none => []

/-- Cells that hold something but cannot be read, from the first row on. -/
def unreadable (frame : Frame) (name : String) (readable : Cell → Bool)
    (error : Nat → String → CheckError) : List CheckError :=
  match frame.column? name with
  | some column =>
      (column.cells.zipIdx.filter fun entry => !entry.1.isNull && !readable entry.1).map
        fun entry => error entry.2 entry.1.display
  | none => []

/-- The first row of a column whose cell holds something that cannot be read. -/
structure FirstUnreadable (frame : Frame) (name : String) (readable : Cell → Bool) (row : Nat)
    (cell : Cell) : Prop where
  here : frame.cellAt? name row = some cell
  held : cell.isNull = false
  unread : readable cell = false
  first : ∀ earlier < row, ∀ other, frame.cellAt? name earlier = some other →
    other.isNull = true ∨ readable other = true

end Frame

namespace Check

def unreadableCells (frame : Frame) : Check → List CheckError
  | .limitDate column _ => frame.unreadable column.name Cell.isInstant (.notDate column.name)
  | .limitNum column _ => frame.unreadable column.name Cell.isNumeric (.notNumeric column.name)
  | .urls _ | .date _ | .repoName _ | .repoNameFormat _ | .value _ _ => []

/-- All defects of a frame for a check, in the order in which they count. -/
def defects (frame : Frame) (check : Check) : List CheckError :=
  check.refusals ++ frame.missing [check.column] ++
    (if check.needsText then frame.mistyped check.column else []) ++
    frame.missing check.pairedColumns ++ check.unreadableCells frame

end Check

/-- The error that a computation ends in. -/
def errorOf {α : Type} : Except CheckError α → Option CheckError
  | .ok _ => none
  | .error error => some error

section Results

variable {α β : Type}

@[simp] theorem errorOf_map (f : α → β) (result : Except CheckError α) :
    errorOf (result.map f) = errorOf result := by
  cases result <;> rfl

theorem errorOf_eq_some_iff {result : Except CheckError α} {error : CheckError} :
    errorOf result = some error ↔ result = .error error := by
  cases result <;> simp [errorOf]

theorem errorOf_eq_none_iff {result : Except CheckError α} :
    errorOf result = none ↔ ∃ value, result = .ok value := by
  cases result <;> simp [errorOf]

@[simp] theorem errorOf_ofRows (kind : CheckKind) (column label : String)
    (rows : Except CheckError (List Nat)) :
    errorOf (Verdict.ofRows kind column label rows).result = errorOf rows := by
  cases rows <;> rfl

end Results

namespace Frame

variable (frame : Frame)

theorem has_eq_isSome (name : String) : frame.has name = (frame.column? name).isSome := by
  rw [Bool.eq_iff_iff, has_iff_column?, Option.isSome_iff_exists]

theorem missing_cons (name : String) (names : List String) :
    frame.missing (name :: names) =
      (match frame.column? name with
        | some _ => []
        | none => [.columnNotFound name]) ++ frame.missing names := by
  cases found : frame.column? name <;> simp [missing, has_eq_isSome, found]

theorem missing_nil : frame.missing [] = [] := rfl

theorem errorOf_column (name : String) :
    errorOf (frame.column name) = (frame.missing [name]).head? := by
  cases found : frame.column? name <;> simp [column, missing_cons, missing_nil, found, errorOf]

theorem errorOf_displayCells (name : String) :
    errorOf (frame.displayCells name) = (frame.missing [name]).head? := by
  rw [displayCells, errorOf_map, errorOf_column]

theorem errorOf_textCells (name : String) :
    errorOf (frame.textCells name) =
      (frame.missing [name] ++ frame.mistyped name).head? := by
  cases found : frame.column? name with
  | none => simp [textCells, column, missing_cons, missing_nil, found, errorOf]
  | some column =>
      cases textual : column.type.isTextual <;>
        simp [textCells, Frame.column, missing_cons, missing_nil, mistyped, found, textual, errorOf]

/-- The owners are looked up before the names. -/
theorem errorOf_repositoryPaths (owner name : String) :
    errorOf (frame.repositoryPaths owner name) = (frame.missing [owner, name]).head? := by
  have owners := frame.errorOf_displayCells owner
  have names := frame.errorOf_displayCells name
  have split : frame.missing [owner, name] = frame.missing [owner] ++ frame.missing [name] := by
    simp [missing_cons, missing_nil]
  rw [repositoryPaths, split, List.head?_append, ← owners, ← names]
  cases ownersShown : frame.displayCells owner with
  | error error => rfl
  | ok cells => exact errorOf_map _ _

theorem head?_unreadable_iff {name : String} {readable : Cell → Bool}
    {toError : Nat → String → CheckError} {error : CheckError} :
    (frame.unreadable name readable toError).head? = some error ↔
      ∃ row cell, frame.FirstUnreadable name readable row cell ∧
        error = toError row cell.display := by
  cases found : frame.column? name with
  | none =>
      simp only [unreadable, found, List.head?_nil, reduceCtorEq, false_iff]
      rintro ⟨row, cell, first, -⟩
      simpa [cellAt?, found] using first.here
  | some column =>
      simp only [unreadable, found, List.head?_map, List.head?_filter, Option.map_eq_some_iff,
        List.find?_eq_some_iff_getElem, List.getElem_zipIdx, List.length_zipIdx, Nat.zero_add]
      constructor
      · rintro ⟨_, ⟨unread, row, bound, rfl, earlier⟩, rfl⟩
        simp only [Bool.and_eq_true, Bool.not_eq_true'] at unread
        refine ⟨row, _, ⟨?_, unread.1, unread.2, ?_⟩, rfl⟩
        · rw [cellAt?_of_column? found, List.getElem?_eq_getElem bound]
        · intro before less other here
          rw [cellAt?_of_column? found, List.getElem?_eq_getElem (less.trans bound)] at here
          cases here
          simpa [or_iff_not_imp_left] using earlier before less
      · rintro ⟨row, cell, first, rfl⟩
        have here := first.here
        rw [cellAt?_of_column? found, List.getElem?_eq_some_iff] at here
        obtain ⟨bound, same⟩ := here
        refine ⟨(cell, row), ⟨?_, row, bound, by rw [same], ?_⟩, rfl⟩
        · simp [first.held, first.unread]
        · intro before less
          have read := first.first before less _
            (by rw [cellAt?_of_column? found, List.getElem?_eq_getElem (less.trans bound)])
          simpa [or_iff_not_imp_left] using read

end Frame

/-- Reading stops at the first cell that holds something and cannot be read. -/
theorem readCells_eq_error {α : Type} {read? : Cell → Option α} {readable : Cell → Bool}
    (reads : ∀ cell, (read? cell).isSome = readable cell) (error : Nat → String → CheckError)
    (start : Nat) (cells : List Cell) :
    (match readCells read? start cells with
      | .ok _ => none
      | .error (row, cell) => some (error row cell.display)) =
      (((cells.zipIdx start).filter fun entry => !entry.1.isNull && !readable entry.1).map
        fun entry => error entry.2 entry.1.display).head? := by
  induction cells generalizing start with
  | nil => rfl
  | cons cell rest ih =>
      have later := ih (start + 1)
      cases null : cell.isNull with
      | true =>
          cases found : readCells read? (start + 1) rest <;>
            simpa [readCells, null, found, Except.map] using later
      | false =>
          cases own : read? cell with
          | none => simp [readCells, null, own, ← reads]
          | some value =>
              have readable : readable cell = true := by rw [← reads, own]; rfl
              cases found : readCells read? (start + 1) rest <;>
                simpa [readCells, null, own, readable, found, Except.map] using later

namespace Check

theorem meetsLimit?_isSome (limit : Int) (cell : Cell) :
    (meetsLimit? limit cell).isSome = cell.isNumeric := by
  cases cell with
  | text value =>
      cases whole : (readBounded Cell.minInteger Cell.maxInteger (trim value.toList)).toOption <;>
        simp [meetsLimit?, Cell.integer?, Cell.double?, Cell.isNumeric, whole]
  | _ => simp [meetsLimit?, Cell.integer?, Cell.double?, Cell.isNumeric]

theorem errorOf_readInstants (frame : Frame) (column : DateColumn) :
    errorOf (readInstants frame column) =
      (frame.missing [column.name] ++
        frame.unreadable column.name Cell.isInstant (.notDate column.name)).head? := by
  cases found : frame.column? column.name with
  | none => simp [readInstants, Frame.column, Frame.missing_cons, found, errorOf]
  | some target =>
      have reads (cell : Cell) : (parseTimestamp? cell.display).isSome = cell.isInstant := rfl
      have stops := readCells_eq_error reads (.notDate column.name) 0 target.cells
      rw [readInstants, Frame.column, found]
      simp only [Frame.missing_cons, Frame.missing_nil, found, Frame.unreadable, List.append_nil,
        List.nil_append]
      rw [← stops]
      cases readCells (fun cell => parseTimestamp? cell.display) 0 target.cells <;> rfl

theorem errorOf_limitFailures (frame : Frame) (limit : Int) (column : NumericColumn) :
    errorOf (limitFailures frame limit column) =
      (frame.missing [column.name] ++
        frame.unreadable column.name Cell.isNumeric (.notNumeric column.name)).head? := by
  cases found : frame.column? column.name with
  | none => simp [limitFailures, Frame.column, Frame.missing_cons, found, errorOf]
  | some target =>
      have stops := readCells_eq_error (meetsLimit?_isSome limit) (.notNumeric column.name) 0
        target.cells
      rw [limitFailures, Frame.column, found]
      simp only [Frame.missing_cons, Frame.missing_nil, found, Frame.unreadable, List.append_nil,
        List.nil_append]
      rw [← stops]
      cases readCells (meetsLimit? limit) 0 target.cells <;> rfl

theorem errorOf_pathFailures (frame : Frame) (column : UrlColumn) :
    errorOf (pathFailures frame column) =
      (errorOf (frame.textCells column.name)).or
        (errorOf (frame.repositoryPaths column.ownerColumn column.nameColumn)) := by
  rw [pathFailures]
  cases frame.textCells column.name with
  | error error => rfl
  | ok cells => exact errorOf_map _ _

theorem errorOf_repoNameFailures (frame : Frame) (column : RepoColumn) :
    errorOf (repoNameFailures frame column) =
      (errorOf (frame.textCells column.name)).or
        (errorOf (frame.repositoryPaths "owner" "name")) := by
  rw [repoNameFailures]
  cases frame.textCells column.name with
  | error error => rfl
  | ok cells => exact errorOf_map _ _

/-- The first two predicates on addresses read no paired column, so the last one meets every error.
-/
theorem errorOf_judgeUrls (frame : Frame) (column : UrlColumn) :
    errorOf (judgeUrls frame column).result = errorOf (pathFailures frame column) := by
  cases shown : frame.textCells column.name with
  | error error =>
      simp [judgeUrls, schemeFailures, pathFailures, shown, Except.map, Verdict.failed, errorOf]
  | ok cells =>
      cases found : pathFailures frame column <;>
        simp [judgeUrls, schemeFailures, authorityFailures, shown, found, Except.map, Verdict.failed,
          Verdict.ofOutcomes, errorOf]

theorem errorOf_judgeWindow (frame : Frame) (now limit : Instant) (column : DateColumn) :
    errorOf (judgeWindow frame now limit column).result = errorOf (readInstants frame column) := by
  cases read : readInstants frame column <;>
    simp [judgeWindow, read, Verdict.failed, Verdict.ofOutcomes, errorOf]

/-- A check ends in the first defect, whatever the present instant is; one case for each kind. -/
theorem errorOf_judge (frame : Frame) (now : Instant) (check : Check) :
    errorOf (check.judge frame now).result = (check.defects frame).head? := by
  cases check with
  | urls column =>
      have paired : pairedColumns (.urls column) = [column.ownerColumn, column.nameColumn] := by
        cases column <;> rfl
      rw [judge, errorOf_judgeUrls, errorOf_pathFailures, Frame.errorOf_textCells,
        Frame.errorOf_repositoryPaths, ← List.head?_append]
      simp [defects, refusals, needsText, paired, unreadableCells, Check.column]
  | date column =>
      rw [judge, judgeDate, errorOf_ofRows, errorOf_map, Frame.errorOf_displayCells]
      simp [defects, refusals, needsText, pairedColumns, unreadableCells, Check.column,
        Frame.missing_nil]
  | limitDate column limit =>
      rw [judge, errorOf_judgeWindow, errorOf_readInstants]
      simp [defects, refusals, needsText, pairedColumns, unreadableCells, Check.column,
        Frame.missing_nil]
  | limitNum column limit =>
      rw [judge, judgeLimit, errorOf_ofRows, errorOf_limitFailures]
      simp [defects, refusals, needsText, pairedColumns, unreadableCells, Check.column,
        Frame.missing_nil]
  | repoName column =>
      cases column with
      | baseRepo =>
          rw [judge, judgeRepoName, if_pos rfl, errorOf_ofRows, errorOf_repoNameFailures,
            Frame.errorOf_textCells, Frame.errorOf_repositoryPaths, ← List.head?_append]
          simp [defects, refusals, needsText, pairedColumns, unreadableCells, Check.column]
      | headRepo => rfl
  | repoNameFormat column =>
      rw [judge, judgeRepoNameFormat, errorOf_ofRows, errorOf_map, Frame.errorOf_textCells]
      simp [defects, refusals, needsText, pairedColumns, unreadableCells, Check.column,
        Frame.missing_nil]
  | value column expected =>
      rw [judge, judgeValue, errorOf_ofRows, valueFailures, errorOf_map, Frame.errorOf_column]
      simp [defects, refusals, needsText, pairedColumns, unreadableCells, Check.column,
        Frame.missing_nil]

/-- The defects of a frame for a check hang on the kind of the check and on its column, not on what
it expects there. -/
theorem defects_congr {check other : Check} (kind : other.name = check.name)
    (column : other.column = check.column) (frame : Frame) :
    other.defects frame = check.defects frame := by
  cases check with
  | urls target =>
      cases other with
      | urls source =>
          rw [(LawfulFamily.columnName_injective : Function.Injective UrlColumn.name) column]
      | _ => simp [name] at kind
  | date target =>
      cases other with
      | date source => simp_all [defects, refusals, needsText, pairedColumns, unreadableCells]
      | _ => simp [name] at kind
  | limitDate target limit =>
      cases other with
      | limitDate source bound =>
          simp_all [defects, refusals, needsText, pairedColumns, unreadableCells, Check.column]
      | _ => simp [name] at kind
  | limitNum target limit =>
      cases other with
      | limitNum source bound =>
          simp_all [defects, refusals, needsText, pairedColumns, unreadableCells, Check.column]
      | _ => simp [name] at kind
  | repoName target =>
      cases other with
      | repoName source =>
          rw [(LawfulFamily.columnName_injective : Function.Injective RepoColumn.name) column]
      | _ => simp [name] at kind
  | repoNameFormat target =>
      cases other with
      | repoNameFormat source =>
          simp_all [defects, refusals, needsText, pairedColumns, unreadableCells]
      | _ => simp [name] at kind
  | value target expected =>
      cases other with
      | value source other =>
          simp_all [defects, refusals, needsText, pairedColumns, unreadableCells]
      | _ => simp [name] at kind

/-- The columns that a check reads. -/
def columnsRead (check : Check) : List String :=
  check.column :: check.pairedColumns

/-- Frames that agree in the columns that a check reads have the same defects for it. -/
theorem defects_frame_congr {check : Check} {frame second : Frame}
    (agree : ∀ name ∈ check.columnsRead, second.column? name = frame.column? name) :
    check.defects second = check.defects frame := by
  have own : second.column? check.column = frame.column? check.column :=
    agree _ List.mem_cons_self
  have missing : ∀ names, (∀ name ∈ names, second.column? name = frame.column? name) →
      second.missing names = frame.missing names := by
    intro names same
    rw [Frame.missing, Frame.missing]
    congr 1
    refine List.filter_congr fun name member => ?_
    rw [Frame.has_eq_isSome, Frame.has_eq_isSome, same name member]
  have cells : check.unreadableCells second = check.unreadableCells frame := by
    cases check with
    | limitDate column limit =>
        rw [Check.column] at own
        simp only [unreadableCells, Frame.unreadable, own]
    | limitNum column limit =>
        rw [Check.column] at own
        simp only [unreadableCells, Frame.unreadable, own]
    | _ => rfl
  rw [defects, defects, cells, missing _ (List.forall_mem_singleton.mpr own),
    missing _ fun name member => agree name (List.mem_cons_of_mem _ member), Frame.mistyped,
    Frame.mistyped, own]

theorem exists_judged_iff {frame : Frame} {now : Instant} {check : Check} :
    (∃ passed, (check.judge frame now).result = .ok passed) ↔ check.defects frame = [] := by
  rw [← errorOf_eq_none_iff, errorOf_judge, List.head?_eq_none_iff]

theorem missing_append_head?_iff {frame : Frame} {name : String} {readable : Cell → Bool}
    {toError : Nat → String → CheckError} {row : Nat} {text : String}
    (injective : ∀ row' text', toError row text = toError row' text' → row = row' ∧ text = text')
    (other : toError row text ≠ .columnNotFound name) :
    (frame.missing [name] ++ frame.unreadable name readable toError).head? =
        some (toError row text) ↔
      ∃ cell, frame.FirstUnreadable name readable row cell ∧ text = cell.display := by
  cases found : frame.column? name with
  | none =>
      simp only [Frame.missing_cons, found, List.cons_append, List.nil_append, List.head?_cons,
        Option.some.injEq, other.symm, false_iff]
      rintro ⟨cell, first, -⟩
      simpa [Frame.cellAt?, found] using first.here
  | some column =>
      simp only [Frame.missing_cons, Frame.missing_nil, found, List.nil_append,
        Frame.head?_unreadable_iff]
      constructor
      · rintro ⟨_, cell, first, same⟩
        obtain ⟨rfl, rfl⟩ := injective _ _ same
        exact ⟨cell, first, rfl⟩
      · rintro ⟨cell, first, rfl⟩
        exact ⟨row, cell, first, rfl⟩

/-- A check ends in the first defect of the frame, and without an error where there is none: neither
the present instant, nor what the check expects, nor a column that it does not read has a part in
it. Of cells that cannot be read, the one in the first row counts. -/
theorem judge_result_eq_error_iff (frame : Frame) (now : Instant) (check : Check) :
    (∀ error, (check.judge frame now).result = .error error ↔
      (check.defects frame).head? = some error) ∧
    ((∃ passed, (check.judge frame now).result = .ok passed) ↔ check.defects frame = []) ∧
    (∀ (other : Check) (second : Frame) (later : Instant) (error : CheckError),
      other.name = check.name → other.column = check.column →
      (∀ name ∈ check.columnsRead, second.column? name = frame.column? name) →
        ((other.judge second later).result = .error error ↔
          (check.judge frame now).result = .error error)) ∧
    (∀ column limit row text,
      ((limitDate column limit).judge frame now).result = .error (.notDate column.name row text) ↔
        ∃ cell, frame.FirstUnreadable column.name Cell.isInstant row cell ∧ text = cell.display) ∧
    (∀ column limit row text,
      ((limitNum column limit).judge frame now).result =
          .error (.notNumeric column.name row text) ↔
        ∃ cell, frame.FirstUnreadable column.name Cell.isNumeric row cell ∧ text = cell.display) ∧
    (∀ column, (∃ passed, ((date column).judge frame now).result = .ok passed) ↔
      frame.has column.name = true) ∧
    ∀ column expected, (∃ passed, ((value column expected).judge frame now).result = .ok passed) ↔
      frame.has column = true := by
  have errors (check : Check) (frame : Frame) (now : Instant) (error : CheckError) :
      (check.judge frame now).result = .error error ↔
        (check.defects frame).head? = some error := by
    rw [← errorOf_eq_some_iff, errorOf_judge]
  refine ⟨errors check frame now, exists_judged_iff, ?_, ?_, ?_, ?_, ?_⟩
  · intro other second later error kind column agree
    rw [errors, errors, defects_congr kind column, defects_frame_congr agree]
  · intro column limit row text
    rw [← errorOf_eq_some_iff, judge, errorOf_judgeWindow, errorOf_readInstants]
    exact missing_append_head?_iff (by simp) (by simp)
  · intro column limit row text
    rw [← errorOf_eq_some_iff, judge, judgeLimit, errorOf_ofRows, errorOf_limitFailures]
    exact missing_append_head?_iff (by simp) (by simp)
  · intro column
    rw [exists_judged_iff]
    simp [defects, refusals, needsText, pairedColumns, unreadableCells, Check.column, Frame.missing]
  · intro column expected
    rw [exists_judged_iff]
    simp [defects, refusals, needsText, pairedColumns, unreadableCells, Check.column, Frame.missing]

/-- Dates, one of them missing, and two cells behind them that hold none. -/
def undatedFrame : Frame :=
  ⟨[⟨"createdAt", .text, [.text "2020-01-01", .null, .text "soon", .text "later"]⟩]⟩

def numberedUndatedFrame : Frame :=
  ⟨⟨"number", .integer .signed64, [.integer 1, .integer 2, .integer 3, .integer 4]⟩ ::
    undatedFrame.columns⟩

theorem judge_result_eq_error_undated :
    (limitDate .createdAt ⟨60, 0⟩).name = (limitDate .createdAt ⟨0, 0⟩).name ∧
    ((limitDate .createdAt ⟨60, 0⟩).judge numberedUndatedFrame ⟨90, 0⟩).result =
      .error (.notDate "createdAt" 2 "soon") := by
  have laws := judge_result_eq_error_iff undatedFrame ⟨0, 0⟩ (limitDate .createdAt ⟨0, 0⟩)
  have first : ((limitDate .createdAt ⟨0, 0⟩).judge undatedFrame ⟨0, 0⟩).result =
      .error (.notDate "createdAt" 2 "soon") := (laws.1 _).mpr (by decide)
  refine ⟨rfl, (laws.2.2.1 (limitDate .createdAt ⟨60, 0⟩) numberedUndatedFrame ⟨90, 0⟩ _ rfl rfl
    ?_).mpr first⟩
  intro name member
  rw [List.mem_singleton.mp member]
  rfl

end Check
end DatasetGate
