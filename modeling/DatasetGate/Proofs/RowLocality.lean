import DatasetGate.Check.Basic
import DatasetGate.Proofs.Rows

/-!
# Frames below one another

A check judges every row by that row alone. So what it finds in the rows of two frames, one below
the other, is what it finds in the upper frame and then, further down by its height, what it finds
in the lower one.
-/

set_option autoImplicit false

namespace DatasetGate

open DatasetGate.Calendar

namespace Frame

def typeOf? (frame : Frame) (name : String) : Option ColumnType :=
  (frame.column? name).map Column.type

/-- The frames have columns of the same names and types. -/
def SameColumns (upper lower : Frame) : Prop :=
  ∀ name, upper.typeOf? name = lower.typeOf? name

def cellsOf (frame : Frame) (name : String) : List Cell :=
  match frame.column? name with
  | some column => column.cells
  | none => []

/-- The rows of one frame and below them those of another. -/
def append (upper lower : Frame) : Frame :=
  ⟨upper.columns.map fun column =>
    ⟨column.name, column.type, column.cells ++ lower.cellsOf column.name⟩⟩

end Frame

/-- The error as it is met that many rows further down. -/
def CheckError.lowered (height : Nat) : CheckError → CheckError
  | .notDate column row value => .notDate column (row + height) value
  | .notNumeric column row value => .notNumeric column (row + height) value
  | error => error

/-- A verdict on the rows of two frames, the lower ones behind so many upper ones, in terms of the
verdicts on each frame. -/
structure Verdict.Joins (height : Nat) (upper lower whole : Verdict) : Prop where
  passed : ∀ above below, upper.result = .ok above → lower.result = .ok below →
    whole.result = .ok (above && below)
  kinds : ∀ above below, upper.result = .ok above → lower.result = .ok below →
    whole.outcomes.map (fun outcome => (outcome.kind, outcome.column)) =
        upper.outcomes.map (fun outcome => (outcome.kind, outcome.column)) ∧
      whole.outcomes.map (fun outcome => (outcome.kind, outcome.column)) =
        lower.outcomes.map (fun outcome => (outcome.kind, outcome.column))
  failedRows : ∀ above below, upper.result = .ok above → lower.result = .ok below →
    whole.outcomes.map Outcome.failedRows =
      List.zipWith (fun above below => above ++ below.map (· + height))
        (upper.outcomes.map Outcome.failedRows) (lower.outcomes.map Outcome.failedRows)
  upperError : ∀ error, upper.result = .error error → whole.result = .error error
  lowerError : ∀ above error, upper.result = .ok above → lower.result = .error error →
    whole.result = .error (error.lowered height)

namespace Frame

variable {upper lower : Frame} {name : String}

/-- A named column of frames with the same columns is missing in both, or stands in both with one
type. -/
theorem SameColumns.column? (same : upper.SameColumns lower) (name : String) :
    (upper.column? name = none ∧ lower.column? name = none ∧
      (upper.append lower).column? name = none) ∨
    ∃ above below, upper.column? name = some above ∧ lower.column? name = some below ∧
      above.type = below.type ∧
      (upper.append lower).column? name =
        some ⟨above.name, above.type, above.cells ++ below.cells⟩ := by
  have whole : (upper.append lower).column? name = (upper.column? name).map fun column =>
      ⟨column.name, column.type, column.cells ++ lower.cellsOf column.name⟩ := by
    rw [Frame.column?, append, List.find?_map]
    rfl
  have types := same name
  rw [typeOf?, typeOf?] at types
  rw [whole]
  cases foundAbove : upper.column? name with
  | none =>
      rw [foundAbove] at types
      exact .inl ⟨rfl, Option.map_eq_none_iff.mp types.symm, rfl⟩
  | some above =>
      rw [foundAbove] at types
      obtain ⟨below, foundBelow, type⟩ := Option.map_eq_some_iff.mp types.symm
      have named : above.name = name := by simpa using List.find?_some foundAbove
      exact .inr ⟨above, below, rfl, foundBelow, type.symm, by
        simp [cellsOf, named, foundBelow]⟩

/-- Frames whose columns agree one by one have the same columns. -/
theorem SameColumns.of_columns
    (agree : upper.columns.map (fun column => (column.name, column.type)) =
      lower.columns.map fun column => (column.name, column.type)) :
    upper.SameColumns lower := by
  have typeOf (frame : Frame) (name : String) : frame.typeOf? name =
      ((frame.columns.map fun column => (column.name, column.type)).find?
        fun entry => entry.1 = name).map Prod.snd := by
    rw [typeOf?, Frame.column?, List.find?_map, Option.map_map]
    rfl
  intro name
  rw [typeOf, typeOf, agree]

end Frame

/-- Lists of what columns hold, for two frames and for both below one another. The same error, which
names no row, or lists below one another, the upper one of the given height. -/
inductive Stacked {α : Type} (height : Nat) :
    Except CheckError (List α) → Except CheckError (List α) → Except CheckError (List α) → Prop
  | error {error : CheckError} (rowless : error.lowered height = error) :
      Stacked height (.error error) (.error error) (.error error)
  | ok {above below : List α} (aligned : above.length = height) :
      Stacked height (.ok above) (.ok below) (.ok (above ++ below))

namespace Frame

variable {upper lower : Frame}

theorem stacked_column {α : Type} (formed : upper.WellFormed) (same : upper.SameColumns lower)
    (name : String) (read? : Cell → Option α) :
    Stacked upper.height ((upper.column name).map fun column => column.cells.map read?)
      ((lower.column name).map fun column => column.cells.map read?)
      (((upper.append lower).column name).map fun column => column.cells.map read?) := by
  rcases same.column? name with
    ⟨above, below, whole⟩ | ⟨above, below, foundAbove, foundBelow, -, whole⟩
  · simp only [Frame.column, above, below, whole, Except.map]
    exact .error rfl
  · simp only [Frame.column, foundAbove, foundBelow, whole, Except.map, List.map_append]
    exact .ok (by rw [List.length_map, formed.length_cells foundAbove])

theorem stacked_displayCells (formed : upper.WellFormed) (same : upper.SameColumns lower)
    (name : String) :
    Stacked upper.height (upper.displayCells name) (lower.displayCells name)
      ((upper.append lower).displayCells name) :=
  stacked_column formed same name Cell.text?

theorem stacked_textCells (formed : upper.WellFormed) (same : upper.SameColumns lower)
    (name : String) :
    Stacked upper.height (upper.textCells name) (lower.textCells name)
      ((upper.append lower).textCells name) := by
  rcases same.column? name with
    ⟨above, below, whole⟩ | ⟨above, below, foundAbove, foundBelow, type, whole⟩
  · simp only [textCells, Frame.column, above, below, whole]
    exact .error rfl
  · simp only [textCells, Frame.column, foundAbove, foundBelow, whole, ← type]
    split
    · rw [List.map_append]
      exact .ok (by rw [List.length_map, formed.length_cells foundAbove])
    · exact .error rfl

theorem stacked_repositoryPaths (formed : upper.WellFormed) (same : upper.SameColumns lower)
    (owner name : String) :
    Stacked upper.height (upper.repositoryPaths owner name) (lower.repositoryPaths owner name)
      ((upper.append lower).repositoryPaths owner name) := by
  have owners := stacked_displayCells formed same owner
  have names := stacked_displayCells formed same name
  simp only [repositoryPaths]
  generalize upper.displayCells owner = ownersAbove at *
  generalize lower.displayCells owner = ownersBelow at *
  generalize (upper.append lower).displayCells owner = ownersWhole at *
  generalize upper.displayCells name = namesAbove at *
  generalize lower.displayCells name = namesBelow at *
  generalize (upper.append lower).displayCells name = namesWhole at *
  cases owners with
  | error rowless => exact .error rowless
  | ok ownersAligned =>
      cases names with
      | error rowless => exact .error rowless
      | ok namesAligned =>
          simp only [Except.map]
          rw [List.zipWith_append (ownersAligned.trans namesAligned.symm)]
          exact .ok (by rw [List.length_zipWith, ownersAligned, namesAligned, min_self])

end Frame

/-- What is found in two frames below one another, or the error of the first that has one. -/
def joinBelow {α : Type} (height : Nat) (join : α → α → α) :
    Except CheckError α → Except CheckError α → Except CheckError α
  | .error error, _ => .error error
  | .ok _, .error error => .error (error.lowered height)
  | .ok above, .ok below => .ok (join above below)

def joinRows (height : Nat) (above below : List Nat) : List Nat :=
  above ++ below.map (· + height)

theorem Stacked.failingRows {α : Type} {height : Nat}
    {above below whole : Except CheckError (List (Option α))}
    (stacked : Stacked height above below whole) (accepts : α → Bool) :
    whole.map (failingRows fun _ => accepts) =
      joinBelow height (joinRows height) (above.map (failingRows fun _ => accepts))
        (below.map (failingRows fun _ => accepts)) := by
  cases stacked with
  | error rowless => rfl
  | ok aligned =>
      simp only [Except.map, joinBelow, joinRows, failingRows_append, aligned]

/-- The failing rows of texts beside the paths of their rows. -/
def rowsBeside (accepts : Option (Option String) → String → Bool)
    (texts paths : Except CheckError (List (Option String))) : Except CheckError (List Nat) :=
  match texts with
  | .error error => .error error
  | .ok texts => paths.map fun paths => failingRows (fun row => accepts paths[row]?) texts

/-- The paths stay beside their texts when both are put below others of the same height. -/
theorem Stacked.rowsBeside {height : Nat}
    {textsAbove textsBelow texts pathsAbove pathsBelow paths :
      Except CheckError (List (Option String))}
    (stackedTexts : Stacked height textsAbove textsBelow texts)
    (stackedPaths : Stacked height pathsAbove pathsBelow paths)
    (accepts : Option (Option String) → String → Bool) :
    rowsBeside accepts texts paths =
      joinBelow height (joinRows height) (rowsBeside accepts textsAbove pathsAbove)
        (rowsBeside accepts textsBelow pathsBelow) := by
  cases stackedTexts with
  | error rowless => rfl
  | @ok texts textsBelow aligned =>
      cases stackedPaths with
      | error rowless => rfl
      | @ok paths pathsBelow pathsAligned =>
          simp only [DatasetGate.rowsBeside, Except.map, joinBelow, joinRows, failingRows_append]
          -- The upper texts meet the upper paths, and the lower ones the paths behind them.
          congr 2
          · refine failingRows_congr fun row bound value => ?_
            rw [List.getElem?_append_left (by omega)]
          · rw [aligned]
            congr 1
            refine failingRows_congr fun row _ value => ?_
            rw [List.getElem?_append_right (by omega), pathsAligned, Nat.add_sub_cancel]

/-- Cells are read in order, and a cell that cannot be read ends the reading at its row. -/
theorem readCells_append {α : Type} (read? : Cell → Option α) (start : Nat)
    (above below : List Cell) :
    readCells read? start (above ++ below) =
      match readCells read? start above with
      | .error failure => .error failure
      | .ok values => (readCells read? (start + above.length) below).map (values ++ ·) := by
  induction above generalizing start with
  | nil => cases found : readCells read? start below <;> simp [readCells, found, Except.map]
  | cons cell rest ih =>
      have later := ih (start + 1)
      rw [Nat.add_right_comm, Nat.add_assoc] at later
      cases null : cell.isNull with
      | true =>
          simp only [List.cons_append, readCells, null, if_true, later, List.length_cons]
          cases readCells read? (start + 1) rest with
          | error failure => rfl
          | ok values => cases readCells read? (start + (rest.length + 1)) below <;> rfl
      | false =>
          cases own : read? cell with
          | none => simp [readCells, null, own]
          | some value =>
              simp only [List.cons_append, readCells, null, own, later, List.length_cons,
                Bool.false_eq_true, if_false]
              cases readCells read? (start + 1) rest with
              | error failure => rfl
              | ok values => cases readCells read? (start + (rest.length + 1)) below <;> rfl

theorem readCells_add {α : Type} (read? : Cell → Option α) (start height : Nat)
    (cells : List Cell) :
    readCells read? (start + height) cells =
      (readCells read? start cells).mapError fun failure => (failure.1 + height, failure.2) := by
  induction cells generalizing start with
  | nil => rfl
  | cons cell rest ih =>
      have later := ih (start + 1)
      rw [Nat.add_right_comm] at later
      cases null : cell.isNull with
      | true =>
          simp only [readCells, null, if_true, later]
          cases readCells read? (start + 1) rest <;> rfl
      | false =>
          cases own : read? cell with
          | none => simp [readCells, null, own, Except.mapError]
          | some value =>
              simp only [readCells, null, own, later, Bool.false_eq_true, if_false]
              cases readCells read? (start + 1) rest <;> rfl

/-- What is read from the cells of a column, or the first cell that cannot be read. -/
def Frame.readColumn {α : Type} (frame : Frame) (name : String) (read? : Cell → Option α)
    (toError : Nat → String → CheckError) : Except CheckError (List (Option α)) :=
  match frame.column name with
  | .error error => .error error
  | .ok column =>
      match readCells read? 0 column.cells with
      | .ok values => .ok values
      | .error (row, cell) => .error (toError row cell.display)

section Reading

variable {α : Type} {upper lower : Frame} {name : String} {read? : Cell → Option α}
  {toError : Nat → String → CheckError}

theorem length_readColumn (formed : upper.WellFormed) {values : List (Option α)}
    (read : upper.readColumn name read? toError = .ok values) : values.length = upper.height := by
  rw [Frame.readColumn] at read
  cases found : upper.column? name with
  | none => simp [Frame.column, found] at read
  | some column =>
      cases cells : readCells read? 0 column.cells with
      | error failure => simp [Frame.column, found, cells] at read
      | ok own =>
          simp only [Frame.column, found, cells, Except.ok.injEq] at read
          rw [← read, ← (readCells_eq_ok_iff.mp cells).2, List.length_map,
            formed.length_cells found]

theorem readColumn_append (formed : upper.WellFormed) (same : upper.SameColumns lower)
    (rowed : ∀ row text,
      (toError row text).lowered upper.height = toError (row + upper.height) text) :
    (upper.append lower).readColumn name read? toError =
      joinBelow upper.height (· ++ ·) (upper.readColumn name read? toError)
        (lower.readColumn name read? toError) := by
  rcases same.column? name with
    ⟨above, below, whole⟩ | ⟨above, below, foundAbove, foundBelow, -, whole⟩
  · simp only [Frame.readColumn, Frame.column, above, below, whole, joinBelow]
  · simp only [Frame.readColumn, Frame.column, foundAbove, foundBelow, whole, readCells_append]
    rw [formed.length_cells foundAbove, readCells_add]
    cases readCells read? 0 above.cells with
    | error failure => rfl
    | ok values =>
        cases readCells read? 0 below.cells with
        | error failure => simp [Except.mapError, Except.map, joinBelow, rowed]
        | ok more => rfl

/-- Rows that fail a predicate on what is read, where the upper frame's reading has its height. -/
theorem map_failingRows_joinBelow {height : Nat} {above below : Except CheckError (List (Option α))}
    (aligned : ∀ values, above = .ok values → values.length = height) (accepts : α → Bool) :
    (joinBelow height (· ++ ·) above below).map (failingRows fun _ => accepts) =
      joinBelow height (joinRows height) (above.map (failingRows fun _ => accepts))
        (below.map (failingRows fun _ => accepts)) := by
  cases above with
  | error error => rfl
  | ok values =>
      cases below with
      | error error => rfl
      | ok more =>
          simp only [joinBelow, Except.map, joinRows, failingRows_append, aligned values rfl]

end Reading

/-- One predicate of a check with the rows that fail it in two frames. -/
structure Finding where
  kind : CheckKind
  column : String
  label : String
  above : List Nat
  below : List Nat

namespace Finding

def upper (finding : Finding) : Outcome :=
  .ofRows finding.kind finding.column finding.label finding.above

def lower (finding : Finding) : Outcome :=
  .ofRows finding.kind finding.column finding.label finding.below

def whole (height : Nat) (finding : Finding) : Outcome :=
  .ofRows finding.kind finding.column finding.label (joinRows height finding.above finding.below)

theorem passed_whole (height : Nat) (finding : Finding) :
    (finding.whole height).passed = (finding.upper.passed && finding.lower.passed) := by
  simp only [whole, upper, lower, Outcome.ofRows, joinRows]
  cases finding.above <;> cases finding.below <;> rfl

end Finding

namespace Verdict

variable {height : Nat}

theorem joins_findings (findings : List Finding) :
    Joins height (.ofOutcomes (findings.map Finding.upper))
      (.ofOutcomes (findings.map Finding.lower))
      (.ofOutcomes (findings.map (Finding.whole height))) where
  passed := by
    rintro above below ⟨⟩ ⟨⟩
    simp only [ofOutcomes, Except.ok.injEq]
    induction findings with
    | nil => rfl
    | cons finding rest ih =>
        simp only [List.map_cons, List.all_cons, ih, Finding.passed_whole]
        simp only [Bool.and_assoc, Bool.and_left_comm]
  kinds _ _ _ _ := by
    simp [ofOutcomes, Finding.upper, Finding.lower, Finding.whole, Outcome.ofRows]
  failedRows _ _ _ _ := by
    simp [ofOutcomes, Finding.upper, Finding.lower, Finding.whole, Outcome.ofRows, joinRows,
      List.zipWith_map_left, List.zipWith_map_right, List.zipWith_self]
  upperError := by simp [ofOutcomes]
  lowerError := by simp [ofOutcomes]

/-- Where the upper frame already has the error, nothing of the lower one is looked at. -/
theorem joins_failed {above whole : List Outcome} {error : CheckError} {verdict : Verdict} :
    Joins height (.failed above error) verdict (.failed whole error) where
  passed := by simp [failed]
  kinds := by simp [failed]
  failedRows := by simp [failed]
  upperError := by simp [failed]
  lowerError := by simp [failed]

/-- Where only the lower frame has an error, it is met below the rows of the upper one. -/
theorem joins_lowerFailed {above below whole : List Outcome} {error : CheckError} :
    Joins height (.ofOutcomes above) (.failed below error)
      (.failed whole (error.lowered height)) where
  passed := by simp [failed]
  kinds := by simp [failed]
  failedRows := by simp [failed]
  upperError := by simp [ofOutcomes]
  lowerError := by simp [failed]

theorem joins_ofRows (kind : CheckKind) (column label : String)
    {above below whole : Except CheckError (List Nat)}
    (joined : whole = joinBelow height (joinRows height) above below) :
    Joins height (.ofRows kind column label above) (.ofRows kind column label below)
      (.ofRows kind column label whole) := by
  subst joined
  cases above with
  | error error => exact joins_failed
  | ok rows =>
      cases below with
      | error error => exact joins_lowerFailed
      | ok more => exact joins_findings [⟨kind, column, label, rows, more⟩]

end Verdict

namespace Check

variable {upper lower : Frame}

/-- An address is that of its row's repository. -/
def acceptsPath (column : UrlColumn) (path : Option (Option String)) (text : String) : Bool :=
  match path with
  | some (some path) => text == (AddressShape.ofColumn column).address path
  | _ => false

theorem pathFailures_eq_rowsBeside (frame : Frame) (column : UrlColumn) :
    pathFailures frame column = rowsBeside (acceptsPath column) (frame.textCells column.name)
      (frame.repositoryPaths column.ownerColumn column.nameColumn) := by
  unfold pathFailures rowsBeside
  cases frame.textCells column.name with
  | error error => rfl
  | ok texts =>
      refine congrArg (Except.map · _) (funext fun paths => ?_)
      refine congrArg (failingRows · texts) (funext fun row => funext fun text => ?_)
      cases paths[row]? with
      | none => rfl
      | some path => cases path <;> rfl

/-- Text cells and paths end in the same error in both frames, or stand below one another. -/
theorem judgeUrls_append (formed : upper.WellFormed) (same : upper.SameColumns lower)
    (column : UrlColumn) :
    Verdict.Joins upper.height (judgeUrls upper column) (judgeUrls lower column)
      (judgeUrls (upper.append lower) column) := by
  have texts := Frame.stacked_textCells formed same column.name
  have paths := Frame.stacked_repositoryPaths formed same column.ownerColumn column.nameColumn
  have schemes := texts.failingRows (AddressShape.ofColumn column).startsRight
  have authorities := texts.failingRows (AddressShape.ofColumn column).marksRight
  have addresses := texts.rowsBeside paths (acceptsPath column)
  simp only [judgeUrls, schemeFailures, authorityFailures, pathFailures_eq_rowsBeside]
  generalize upper.textCells column.name = textsAbove at *
  generalize lower.textCells column.name = textsBelow at *
  generalize (upper.append lower).textCells column.name = textsWhole at *
  generalize upper.repositoryPaths column.ownerColumn column.nameColumn = pathsAbove at *
  generalize lower.repositoryPaths column.ownerColumn column.nameColumn = pathsBelow at *
  generalize (upper.append lower).repositoryPaths column.ownerColumn column.nameColumn =
    pathsWhole at *
  cases texts with
  | error rowless => exact Verdict.joins_failed
  | ok _ =>
      cases paths with
      | error rowless => exact Verdict.joins_failed
      | ok _ =>
          simp only [rowsBeside, Except.map, joinBelow,
            Except.ok.injEq] at schemes authorities addresses
          simp only [rowsBeside, Except.map, schemes, authorities, addresses]
          exact Verdict.joins_findings
            [⟨.scheme, column.name, "Records have right scheme", _, _⟩,
              ⟨.authority, column.name, "Records have right authority", _, _⟩,
              ⟨.path, column.name, "Records have right path", _, _⟩]

theorem readInstants_eq_readColumn (frame : Frame) (column : DateColumn) :
    readInstants frame column = frame.readColumn column.name
      (fun cell => parseTimestamp? cell.display) (.notDate column.name) := by
  rw [readInstants, Frame.readColumn]
  cases frame.column column.name with
  | error error => rfl
  | ok found =>
      dsimp only
      cases readCells (fun cell => parseTimestamp? cell.display) 0 found.cells <;> rfl

theorem limitFailures_eq_readColumn (frame : Frame) (limit : Int) (column : NumericColumn) :
    limitFailures frame limit column =
      (frame.readColumn column.name (meetsLimit? limit) (.notNumeric column.name)).map
        (failingRows fun _ passed => passed) := by
  rw [limitFailures, Frame.readColumn]
  cases frame.column column.name with
  | error error => rfl
  | ok found =>
      dsimp only
      cases readCells (meetsLimit? limit) 0 found.cells <;> rfl

theorem judgeWindow_append (formed : upper.WellFormed) (same : upper.SameColumns lower)
    (now limit : Instant) (column : DateColumn) :
    Verdict.Joins upper.height (judgeWindow upper now limit column)
      (judgeWindow lower now limit column) (judgeWindow (upper.append lower) now limit column) := by
  have aligned (values : List (Option Instant)) (read : readInstants upper column = .ok values) :
      values.length = upper.height :=
    length_readColumn formed (readInstants_eq_readColumn upper column ▸ read)
  have joined : readInstants (upper.append lower) column =
      joinBelow upper.height (· ++ ·) (readInstants upper column) (readInstants lower column) := by
    simp only [readInstants_eq_readColumn]
    exact readColumn_append formed same fun _ _ => rfl
  simp only [judgeWindow, joined]
  cases above : readInstants upper column with
  | error error => exact Verdict.joins_failed
  | ok instants =>
      cases below : readInstants lower column with
      | error error => exact Verdict.joins_lowerFailed
      | ok more =>
          simp only [joinBelow, failingRows_append, aligned instants above]
          exact Verdict.joins_findings
            [⟨.lowerBound, column.name, "Records appear after " ++ limit.display, _, _⟩,
              ⟨.upperBound, column.name, "Records appear before " ++ now.display, _, _⟩]

theorem valueFailures_eq_map (frame : Frame) (column : String) (expected : Expectation) :
    valueFailures frame column expected =
      ((frame.column column).map fun found => found.cells.map some).map
        (failingRows fun _ cell => expected.accepts cell) := by
  rw [valueFailures]
  cases frame.column column <;> rfl

/-- A check of two frames below one another: its verdict joins those on each frame. -/
theorem judge_append (upper lower : Frame) (now : Instant) (check : Check)
    (formed : upper.WellFormed) (same : upper.SameColumns lower) :
    Verdict.Joins upper.height (check.judge upper now) (check.judge lower now)
      (check.judge (upper.append lower) now) := by
  cases check with
  | urls column => exact judgeUrls_append formed same column
  | date column =>
      refine Verdict.joins_ofRows _ _ _ ?_
      exact (Frame.stacked_displayCells formed same column.name).failingRows _
  | limitDate column limit => exact judgeWindow_append formed same now limit column
  | limitNum column limit =>
      refine Verdict.joins_ofRows _ _ _ ?_
      rw [limitFailures_eq_readColumn, readColumn_append formed same fun _ _ => rfl,
        map_failingRows_joinBelow fun values => length_readColumn formed]
      simp only [limitFailures_eq_readColumn]
  | repoName column =>
      rw [judge, judge, judge, judgeRepoName, judgeRepoName, judgeRepoName]
      split
      · refine Verdict.joins_ofRows _ _ _ ?_
        exact (Frame.stacked_textCells formed same column.name).rowsBeside
          (Frame.stacked_repositoryPaths formed same "owner" "name")
          fun path text => path == some (some text)
      · exact Verdict.joins_failed
  | repoNameFormat column =>
      refine Verdict.joins_ofRows _ _ _ ?_
      exact (Frame.stacked_textCells formed same column.name).failingRows _
  | value column expected =>
      refine Verdict.joins_ofRows _ _ _ ?_
      simp only [valueFailures_eq_map]
      exact (Frame.stacked_column formed same column some).failingRows expected.accepts

def oneRepository : Frame :=
  ⟨[⟨"owner", .text, [.text "octo"]⟩, ⟨"name", .integer .signed64, [.integer 7]⟩,
    ⟨"baseRepo", .text, [.text "octo/7"]⟩, ⟨"createdAt", .text, [.text "2020-01-01"]⟩]⟩

/-- Two more repositories, the first with a path that is another's and a date that is none. -/
def twoRepositories : Frame :=
  ⟨[⟨"owner", .text, [.text "octo", .null]⟩, ⟨"name", .integer .signed64, [.integer 8, .integer 9]⟩,
    ⟨"baseRepo", .text, [.text "octo/7", .null]⟩,
    ⟨"createdAt", .text, [.text "soon", .null]⟩]⟩

theorem judge_append_repositories :
    oneRepository.WellFormed ∧ oneRepository.SameColumns twoRepositories ∧
    ((repoName .baseRepo).judge (oneRepository.append twoRepositories) ⟨0, 0⟩).outcomes.map
      Outcome.failedRows = [[1, 2]] ∧
    ((limitDate .createdAt ⟨0, 0⟩).judge (oneRepository.append twoRepositories) ⟨0, 0⟩).result =
      .error (.notDate "createdAt" 1 "soon") := by
  have formed : oneRepository.WellFormed :=
    ⟨by decide, by decide, by simp [oneRepository, ColumnType.Holds, IntegerType.least,
      IntegerType.greatest]⟩
  have same : oneRepository.SameColumns twoRepositories := .of_columns rfl
  refine ⟨formed, same, ?_, ?_⟩
  · exact (judge_append oneRepository twoRepositories ⟨0, 0⟩ (repoName .baseRepo) formed
      same).failedRows true false rfl rfl
  · exact (judge_append oneRepository twoRepositories ⟨0, 0⟩ (limitDate .createdAt ⟨0, 0⟩) formed
      same).lowerError false (.notDate "createdAt" 0 "soon") (by decide +kernel) (by decide +kernel)

end Check
end DatasetGate
