import DatasetGate.Proofs.CheckErrors
import DatasetGate.Proofs.Number.Equality
import DatasetGate.Proofs.RowLocality

/-!
# The type that numbers are stored in

Columns of the same numbers in another numeric type get the same verdict: integers of any width,
single and double precision, and integers below `2 ^ 53` in magnitude as doubles. One thing tells
them apart: a double can hold a zero with a minus sign, and shows the sign where a check takes the
cell as text.
-/

set_option autoImplicit false

namespace DatasetGate

open DatasetGate.Text DatasetGate.Number DatasetGate.Calendar

namespace Cell

/-- Both cells are null, or not-a-number, or they hold one number. Zeros may differ in their sign.
-/
inductive SameNumber : Cell → Cell → Prop where
  | null : SameNumber .null .null
  | nan : SameNumber (.float .nan) (.float .nan)
  | number {cell stored : Cell} {number : EReal} (here : cell.number? = some number)
      (there : stored.number? = some number) : SameNumber cell stored

/-- A zero with a minus sign. Only floating cells can hold it. -/
def isNegativeZero : Cell → Bool
  | .float value => value.isNegativeZero
  | _ => false

end Cell

/-- One numeric type in the place of another: any type of integers, double for single precision, and
double precision for integers that are all below `2 ^ 53` in magnitude. -/
inductive ColumnType.Restores (cells : List Cell) : ColumnType → ColumnType → Prop where
  | integers (type other : IntegerType) : Restores cells (.integer type) (.integer other)
  | singles : Restores cells .float32 .float64
  | doubles (type : IntegerType) (small : ∀ n, .integer n ∈ cells → n.natAbs < 2 ^ 53) :
      Restores cells (.integer type) .float64

/-- The same nulls and numbers under the same name, in another numeric type. -/
structure Column.Restored (column stored : Column) : Prop where
  name : stored.name = column.name
  type : ColumnType.Restores column.cells column.type stored.type
  cells : List.Forall₂ Cell.SameNumber column.cells stored.cells

namespace Frame

/-- Some columns are stored in other numeric types, and the others are the same. -/
def Restored (frame stored : Frame) : Prop :=
  List.Forall₂ (fun column other => other = column ∨ column.Restored other) frame.columns
    stored.columns

/-- The zeros of a column have the same signs in both frames. -/
def SameZeros (frame stored : Frame) (name : String) : Prop :=
  ∀ row, (stored.cellAt? name row).map Cell.isNegativeZero =
    (frame.cellAt? name row).map Cell.isNegativeZero

end Frame

/-- The verdicts are the same, but that an error may name another type of a column that is no text.
-/
inductive Verdict.Alike : Verdict → Verdict → Prop where
  | same (verdict : Verdict) : Alike verdict verdict
  | notText (column : String) (type other : ColumnType) :
      Alike (.failed [] (.notText column type)) (.failed [] (.notText column other))

theorem Verdict.Alike.result_eq {verdict other : Verdict} (alike : verdict.Alike other)
    {passed : Bool} (judged : verdict.result = .ok passed) : other.result = .ok passed := by
  cases alike with
  | same => exact judged
  | notText => cases judged

namespace Cell

/-- How a cell and its stored form are alike: they are equal, they are an integer and its double, or
they are doubles that compare as equal. -/
inductive Stored : Cell → Cell → Prop where
  | same (cell : Cell) : Stored cell cell
  | whole {n : Int} {x : Double} (small : n.natAbs < 2 ^ 53) (rounded : x.same (.ofInt n) = true) :
      Stored (.integer n) (.float x)
  | doubles {x y : Double} (equal : y.same x = true) : Stored (.float x) (.float y)

theorem SameNumber.stored {cells : List Cell} {type other : ColumnType}
    (restores : ColumnType.Restores cells type other) {cell stored : Cell} (member : cell ∈ cells)
    (held : type.Holds cell) (heldToo : other.Holds stored) (same : SameNumber cell stored) :
    Stored cell stored := by
  cases same with
  | null => exact .same _
  | nan => exact .same _
  | @number _ _ number here there =>
      cases restores with
      | integers type other =>
          cases cell <;> simp only [ColumnType.Holds, Cell.number?, reduceCtorEq] at held here
          cases stored <;> simp only [ColumnType.Holds, Cell.number?, reduceCtorEq] at heldToo there
          rename_i n m
          rw [← here, Option.some_inj, EReal.coe_eq_coe_iff, Int.cast_inj] at there
          rw [there]
          exact .same _
      | singles =>
          cases cell <;> simp only [ColumnType.Holds, Cell.number?, reduceCtorEq] at held here
          cases stored <;> simp only [ColumnType.Holds, Cell.number?, reduceCtorEq] at heldToo there
          exact .doubles (Double.same_iff.mpr ⟨number, there, here⟩)
      | doubles type small =>
          cases cell <;> simp only [ColumnType.Holds, Cell.number?, reduceCtorEq] at held here
          cases stored <;> simp only [ColumnType.Holds, Cell.number?, reduceCtorEq] at heldToo there
          rename_i n x
          have below := small n member
          refine .whole below (Double.same_iff.mpr ⟨number, there, ?_⟩)
          rw [number?_ofInt (isDouble_of_le below.le), here]

namespace Stored

variable {cell stored : Cell}

theorem isNull_eq (alike : Stored cell stored) : stored.isNull = cell.isNull := by
  cases alike <;> rfl

/-- As numbers the two cells meet the same limits. -/
theorem meetsLimit?_eq (alike : Stored cell stored) (limit : Int) :
    Check.meetsLimit? limit stored = Check.meetsLimit? limit cell := by
  cases alike with
  | same => rfl
  | @whole n x small rounded =>
      simp only [Check.meetsLimit?, integer?, double?, Option.map_some, Option.some_inj,
        Double.atMost_congr_right rounded]
      rw [Bool.eq_iff_iff, decide_eq_true_eq]
      exact Double.atMost_ofInt_iff small limit
  | doubles equal =>
      simp only [Check.meetsLimit?, integer?, double?, Option.map_some,
        Double.atMost_congr_right equal]

/-- As numbers the two cells meet the same expectations. -/
theorem accepts_eq (alike : Stored cell stored) (expected : Expectation) :
    expected.accepts stored = expected.accepts cell := by
  cases alike with
  | same => rfl
  | @whole n x small rounded =>
      cases expected with
      | integer m =>
          simp only [Expectation.accepts]
          rw [Double.same_trans_left rounded, Double.same_ofInt_ofInt small]
      | float y =>
          simp only [Expectation.accepts]
          exact Double.same_trans_left rounded y
      | _ => rfl
  | @doubles x y equal =>
      cases expected with
      | integer m =>
          simp only [Expectation.accepts]
          exact Double.same_trans_left equal _
      | float z =>
          simp only [Expectation.accepts]
          exact Double.same_trans_left equal z
      | _ => rfl

/-- The two cells show the same, unless their zeros differ in sign. -/
theorem display_eq (alike : Stored cell stored)
    (signs : stored.isNegativeZero = cell.isNegativeZero) : stored.display = cell.display := by
  cases alike with
  | same => rfl
  | @whole n x small rounded =>
      have exact : x = .ofInt n := by
        apply Double.eq_of_same rounded
        rw [Double.ofInt_not_isNegativeZero small]
        exact signs
      rw [exact]
      exact Double.compact_ofInt small
  | doubles equal => rw [Double.eq_of_same equal signs]

theorem text?_eq (alike : Stored cell stored)
    (signs : stored.isNegativeZero = cell.isNegativeZero) : stored.text? = cell.text? := by
  rw [text?, text?, alike.isNull_eq, alike.display_eq signs]

/-- A zero of either sign shows no date. -/
theorem startsWithDate_eq (alike : Stored cell stored) :
    stored.text?.map (fun text => Check.startsWithDate text.toList) =
      cell.text?.map (fun text => Check.startsWithDate text.toList) := by
  have zeros : ∀ negative, (Cell.float (.ofRank negative 0)).text?.map
      (fun text => Check.startsWithDate text.toList) = some false := by decide
  cases alike with
  | same => rfl
  | @whole n x small rounded =>
      have shown : (Cell.integer n).text? = (Cell.float (.ofInt n)).text? :=
        congrArg some (Double.compact_ofInt small).symm
      rw [shown]
      rcases Double.eq_or_zeros_of_same rounded with exact | ⟨negative, zero, other⟩
      · rw [exact]
      · rw [zero, other, zeros, zeros]
  | doubles equal =>
      rcases Double.eq_or_zeros_of_same equal with exact | ⟨negative, zero, other⟩
      · rw [exact]
      · rw [zero, other, zeros, zeros]

end Stored

/-- A cell and its stored form that are both a zero with a minus sign, or both none. -/
structure ShownAlike (cell stored : Cell) : Prop where
  alike : Stored cell stored
  signs : stored.isNegativeZero = cell.isNegativeZero

end Cell

/-- The other column is the same one, or none of the two is text and their cells are related. -/
inductive Column.Like (related : Cell → Cell → Prop) (column : Column) : Column → Prop where
  | same : Like related column column
  | other {other : Column} (untextual : column.type.isTextual = false)
      (untextualToo : other.type.isTextual = false)
      (cells : List.Forall₂ related column.cells other.cells) : Like related column other

theorem ColumnType.Restores.untextual {cells : List Cell} {type other : ColumnType}
    (restores : Restores cells type other) :
    type.isTextual = false ∧ other.isTextual = false := by
  cases restores <;> exact ⟨rfl, rfl⟩

theorem Column.Restored.like {column stored : Column} (restored : column.Restored stored)
    (held : ∀ cell ∈ column.cells, column.type.Holds cell)
    (heldToo : ∀ cell ∈ stored.cells, stored.type.Holds cell) :
    column.Like Cell.Stored stored := by
  refine .other restored.type.untextual.1 restored.type.untextual.2 ?_
  obtain ⟨length, same⟩ := List.forall₂_iff_zip.mp restored.cells
  refine List.forall₂_iff_zip.mpr ⟨length, fun pair => ?_⟩
  obtain ⟨member, memberToo⟩ := List.of_mem_zip pair
  exact (same pair).stored restored.type member (held _ member) (heldToo _ memberToo)

/-- What is found by a property that paired entries share is related when they are. -/
theorem find?_related {α β : Type} {related : α → β → Prop} {accepts : α → Bool}
    {acceptsToo : β → Bool} {entries : List α} {others : List β}
    (pairs : List.Forall₂ (fun x y => acceptsToo y = accepts x ∧ related x y) entries others) :
    Option.Rel related (entries.find? accepts) (others.find? acceptsToo) := by
  induction pairs with
  | nil => exact .none
  | cons pair _ ih =>
      rw [List.find?_cons, List.find?_cons, pair.1]
      split
      · exact .some pair.2
      · exact ih

theorem failingRows_map {α : Type} (accepts : α → Bool) (cells : List (Option α)) :
    failingRows (fun _ => accepts) cells =
      failingRows (fun _ accepted => accepted) (cells.map (Option.map accepts)) := by
  rw [failingRows, failingRows, List.zipIdx_map, List.filterMap_map]
  refine List.filterMap_congr fun entry _ => ?_
  obtain ⟨_ | value, row⟩ := entry <;> rfl

namespace Frame

variable {frame stored : Frame} {name : String}

/-- A named column is missing in both frames, or stands in both and is like the other one. -/
theorem Restored.like (restored : frame.Restored stored) (formed : frame.WellFormed)
    (formedToo : stored.WellFormed) (name : String) :
    Option.Rel (Column.Like Cell.Stored) (frame.column? name) (stored.column? name) := by
  obtain ⟨width, columns⟩ := List.forall₂_iff_zip.mp restored
  refine find?_related (List.forall₂_iff_zip.mpr ⟨width, fun pair => ?_⟩)
  obtain ⟨member, memberToo⟩ := List.of_mem_zip pair
  rcases columns pair with rfl | restored
  · exact ⟨rfl, .same⟩
  · refine ⟨by rw [restored.name], ?_⟩
    exact restored.like (formed.typed _ member) (formedToo.typed _ memberToo)

/-- Where zeros have the same signs, too, the cells show the same. -/
theorem Restored.shownAlike (restored : frame.Restored stored) (formed : frame.WellFormed)
    (formedToo : stored.WellFormed) (zeros : frame.SameZeros stored name) :
    Option.Rel (Column.Like Cell.ShownAlike) (frame.column? name) (stored.column? name) := by
  have like := restored.like formed formedToo name
  rw [SameZeros] at zeros
  simp only [cellAt?] at zeros
  generalize frame.column? name = found at like zeros
  generalize stored.column? name = foundToo at like zeros
  cases like with
  | none => exact .none
  | some like =>
      cases like with
      | same => exact .some .same
      | other untextual untextualToo cells =>
          obtain ⟨length, alike⟩ := List.forall₂_iff_get.mp cells
          refine .some (.other untextual untextualToo (List.forall₂_iff_get.mpr ⟨length, ?_⟩))
          intro row bound boundToo
          exact ⟨alike row bound boundToo, by simpa [bound, boundToo] using zeros row⟩

section Like

variable {related : Cell → Cell → Prop}

/-- Both frames answer alike when asked for a column, or they have columns of related cells. -/
theorem column_of_like
    (like : Option.Rel (Column.Like related) (frame.column? name) (stored.column? name)) :
    stored.column name = frame.column name ∨
      ∃ column other : Column, frame.column name = .ok column ∧ stored.column name = .ok other ∧
        column.type.isTextual = false ∧ other.type.isTextual = false ∧
          List.Forall₂ related column.cells other.cells := by
  rw [column, column]
  generalize frame.column? name = found at like ⊢
  generalize stored.column? name = foundToo at like ⊢
  cases like with
  | none => exact .inl rfl
  | some like =>
      cases like with
      | same => exact .inl rfl
      | other untextual untextualToo cells =>
          exact .inr ⟨_, _, rfl, rfl, untextual, untextualToo, cells⟩

theorem map_eq_of_related {α : Type} {view : Cell → α}
    (seen : ∀ cell other, related cell other → view other = view cell) {cells others : List Cell}
    (pairs : List.Forall₂ related cells others) : others.map view = cells.map view := by
  induction pairs with
  | nil => rfl
  | cons pair _ ih => rw [List.map_cons, List.map_cons, seen _ _ pair, ih]

/-- Related cells fail in the same rows where a predicate takes what it sees of them alike. -/
theorem failingRows_eq {α : Type} {view : Cell → Option α} {accepts : α → Bool}
    (like : Option.Rel (Column.Like related) (frame.column? name) (stored.column? name))
    (seen : ∀ cell other, related cell other →
      (view other).map accepts = (view cell).map accepts) :
    ((stored.column name).map fun column => column.cells.map view).map
        (failingRows fun _ => accepts) =
      ((frame.column name).map fun column => column.cells.map view).map
        (failingRows fun _ => accepts) := by
  rcases column_of_like like with same | ⟨column, other, here, there, -, -, cells⟩
  · rw [same]
  · rw [here, there]
    simp only [Except.map, failingRows_map accepts, List.map_map, Function.comp_def,
      map_eq_of_related seen cells]

/-- A column of text is the same one, and one that is no text stays so. -/
theorem textCells_of_like
    (like : Option.Rel (Column.Like related) (frame.column? name) (stored.column? name)) :
    stored.textCells name = frame.textCells name ∨
      ∃ type other, frame.textCells name = .error (.notText name type) ∧
        stored.textCells name = .error (.notText name other) := by
  rcases column_of_like like with same | ⟨column, other, here, there, untextual, untextualToo, -⟩
  · exact .inl (by rw [textCells, textCells, same])
  · refine .inr ⟨column.type, other.type, ?_, ?_⟩
    · rw [textCells, here]
      simp only [untextual]
      rfl
    · rw [textCells, there]
      simp only [untextualToo]
      rfl

theorem mapError_map {ε δ α β : Type} (onError : ε → δ) (onValue : α → β) (result : Except ε α) :
    (result.map onValue).mapError onError = (result.mapError onError).map onValue := by
  cases result <;> rfl

/-- Related cells are read to the same end: the same values, or a failure in one row on cells that
show the same. -/
theorem readCells_related {α : Type} {read? : Cell → Option α}
    (nulls : ∀ cell other, related cell other → other.isNull = cell.isNull)
    (reads : ∀ cell other, related cell other → read? other = read? cell)
    (shown : ∀ cell other, related cell other → read? cell = none → other.display = cell.display)
    {cells others : List Cell} (pairs : List.Forall₂ related cells others) (row : Nat) :
    (readCells read? row others).mapError (fun failure => (failure.1, failure.2.display)) =
      (readCells read? row cells).mapError fun failure => (failure.1, failure.2.display) := by
  induction pairs generalizing row with
  | nil => rfl
  | @cons cell other _ _ pair _ ih =>
      rw [readCells, readCells, nulls _ _ pair, reads _ _ pair]
      split
      · rw [mapError_map, mapError_map, ih]
      · cases own : read? cell with
        | none => simp only [Except.mapError, shown _ _ pair own]
        | some value =>
            dsimp only
            rw [mapError_map, mapError_map, ih]

theorem readColumn_eq {α : Type} {read? : Cell → Option α} {toError : Nat → String → CheckError}
    (like : Option.Rel (Column.Like related) (frame.column? name) (stored.column? name))
    (nulls : ∀ cell other, related cell other → other.isNull = cell.isNull)
    (reads : ∀ cell other, related cell other → read? other = read? cell)
    (shown : ∀ cell other, related cell other → read? cell = none →
      other.display = cell.display) :
    stored.readColumn name read? toError = frame.readColumn name read? toError := by
  rcases column_of_like like with same | ⟨column, other, here, there, -, -, cells⟩
  · rw [readColumn, readColumn, same]
  · have read := readCells_related nulls reads shown cells 0
    rw [readColumn, readColumn, here, there]
    dsimp only
    generalize readCells read? 0 column.cells = own at read ⊢
    generalize readCells read? 0 other.cells = ownToo at read ⊢
    cases own <;> cases ownToo <;> simp_all [Except.mapError]

end Like

theorem Restored.displayCells_eq (restored : frame.Restored stored) (formed : frame.WellFormed)
    (formedToo : stored.WellFormed) (zeros : frame.SameZeros stored name) :
    stored.displayCells name = frame.displayCells name := by
  have like := restored.shownAlike formed formedToo zeros
  rw [displayCells, displayCells]
  rcases column_of_like like with same | ⟨column, other, here, there, -, -, cells⟩
  · rw [same]
  · rw [here, there]
    exact congrArg Except.ok
      (map_eq_of_related (fun _ _ pair => pair.alike.text?_eq pair.signs) cells)

theorem Restored.repositoryPaths_eq (restored : frame.Restored stored) (formed : frame.WellFormed)
    (formedToo : stored.WellFormed) {owner : String} (owners : frame.SameZeros stored owner)
    (names : frame.SameZeros stored name) :
    stored.repositoryPaths owner name = frame.repositoryPaths owner name := by
  rw [repositoryPaths, repositoryPaths, restored.displayCells_eq formed formedToo owners,
    restored.displayCells_eq formed formedToo names]

end Frame

namespace Check

/-- The columns whose cells a check takes as text, with the sign of a zero: an instant is read from
the text of its cell, and a path is made of the texts of its owner and its name. -/
def shownColumns : Check → List String
  | .limitDate column _ => [column.name]
  | .repoName .headRepo => []
  | check => check.pairedColumns

section Like

variable {frame stored : Frame}

/-- An error about a column that is no text may name another type, and nothing else differs. -/
theorem judgeUrls_like {column : UrlColumn}
    (like : Option.Rel (Column.Like Cell.Stored) (frame.column? column.name)
      (stored.column? column.name))
    (paths : stored.repositoryPaths column.ownerColumn column.nameColumn =
      frame.repositoryPaths column.ownerColumn column.nameColumn) :
    Verdict.Alike (judgeUrls frame column) (judgeUrls stored column) := by
  simp only [judgeUrls, schemeFailures, authorityFailures, pathFailures_eq_rowsBeside, paths]
  rcases Frame.textCells_of_like like with same | ⟨type, other, here, there⟩
  · rw [same]
    exact .same _
  · rw [here, there]
    exact .notText _ _ _

theorem judgeRepoName_like {column : RepoColumn}
    (like : Option.Rel (Column.Like Cell.Stored) (frame.column? column.name)
      (stored.column? column.name))
    (paths : column = .baseRepo →
      stored.repositoryPaths "owner" "name" = frame.repositoryPaths "owner" "name") :
    Verdict.Alike (judgeRepoName frame column) (judgeRepoName stored column) := by
  cases column with
  | headRepo => exact .same _
  | baseRepo =>
      simp only [judgeRepoName, if_true, repoNameFailures, paths rfl]
      rcases Frame.textCells_of_like like with same | ⟨type, other, here, there⟩
      · rw [same]
        exact .same _
      · rw [here, there]
        exact .notText _ _ _

theorem judgeRepoNameFormat_like {column : RepoColumn}
    (like : Option.Rel (Column.Like Cell.Stored) (frame.column? column.name)
      (stored.column? column.name)) :
    Verdict.Alike (judgeRepoNameFormat frame column) (judgeRepoNameFormat stored column) := by
  simp only [judgeRepoNameFormat]
  rcases Frame.textCells_of_like like with same | ⟨type, other, here, there⟩
  · rw [same]
    exact .same _
  · rw [here, there]
    exact .notText _ _ _

theorem judgeDate_like {column : DateColumn}
    (like : Option.Rel (Column.Like Cell.Stored) (frame.column? column.name)
      (stored.column? column.name)) :
    judgeDate stored column = judgeDate frame column := by
  have rows := Frame.failingRows_eq like fun _ _ pair => pair.startsWithDate_eq
  simp only [judgeDate, Frame.displayCells, rows]

theorem judgeWindow_like {column : DateColumn} (now limit : Instant)
    (like : Option.Rel (Column.Like Cell.ShownAlike) (frame.column? column.name)
      (stored.column? column.name)) :
    judgeWindow stored now limit column = judgeWindow frame now limit column := by
  have instants : readInstants stored column = readInstants frame column := by
    rw [readInstants_eq_readColumn, readInstants_eq_readColumn]
    refine Frame.readColumn_eq like (fun _ _ pair => pair.alike.isNull_eq)
      (fun _ _ pair => ?_) fun _ _ pair _ => pair.alike.display_eq pair.signs
    rw [pair.alike.display_eq pair.signs]
  simp only [judgeWindow, instants]

theorem judgeLimit_like {column : NumericColumn} (limit : Int)
    (like : Option.Rel (Column.Like Cell.Stored) (frame.column? column.name)
      (stored.column? column.name)) :
    judgeLimit stored limit column = judgeLimit frame limit column := by
  have rows : limitFailures stored limit column = limitFailures frame limit column := by
    rw [limitFailures_eq_readColumn, limitFailures_eq_readColumn]
    refine congrArg (Except.map _) (Frame.readColumn_eq like
      (fun _ _ pair => pair.isNull_eq) (fun _ _ pair => pair.meetsLimit?_eq limit) ?_)
    -- A cell without a number holds none of the numbers that are stored in another way.
    intro _ _ pair unread
    cases pair with
    | same => rfl
    | whole => cases unread
    | doubles => cases unread
  simp only [judgeLimit, rows]

theorem judgeValue_like {column : String} (expected : Expectation)
    (like : Option.Rel (Column.Like Cell.Stored) (frame.column? column) (stored.column? column)) :
    judgeValue stored column expected = judgeValue frame column expected := by
  have rows : valueFailures stored column expected = valueFailures frame column expected := by
    rw [valueFailures_eq_map, valueFailures_eq_map]
    exact Frame.failingRows_eq like fun _ _ pair => congrArg some (pair.accepts_eq expected)
  simp only [judgeValue, rows]

end Like

/-- The type that numbers are stored in changes no verdict, where the zeros that a check takes as
text keep their signs. -/
theorem judge_restored (frame stored : Frame) (now : Instant) (check : Check)
    (formed : frame.WellFormed) (formedToo : stored.WellFormed) (restored : frame.Restored stored)
    (zeros : ∀ name ∈ check.shownColumns, frame.SameZeros stored name) :
    Verdict.Alike (check.judge frame now) (check.judge stored now) := by
  have like (name : String) := restored.like formed formedToo name
  cases check with
  | urls column =>
      refine judgeUrls_like (like column.name) ?_
      cases column <;>
        exact restored.repositoryPaths_eq formed formedToo (zeros _ (.head _))
          (zeros _ (.tail _ (.head _)))
  | date column =>
      rw [judge, judge, judgeDate_like (like column.name)]
      exact .same _
  | limitDate column limit =>
      have shown := restored.shownAlike formed formedToo (zeros column.name (.head _))
      rw [judge, judge, judgeWindow_like now limit shown]
      exact .same _
  | limitNum column limit =>
      rw [judge, judge, judgeLimit_like limit (like column.name)]
      exact .same _
  | repoName column =>
      refine judgeRepoName_like (like column.name) ?_
      rintro rfl
      exact restored.repositoryPaths_eq formed formedToo (zeros "owner" (.head _))
        (zeros "name" (.tail _ (.head _)))
  | repoNameFormat column => exact judgeRepoNameFormat_like (like column.name)
  | value column expected =>
      rw [judge, judge, judgeValue_like expected (like column)]
      exact .same _

/-- The repository `x` of an owner that is a number. -/
def numberedOwner (address : String) (type : ColumnType) (owner : Cell) : Frame :=
  ⟨[⟨"owner", type, [owner]⟩, ⟨"name", .text, [.text "x"]⟩, ⟨"url", .text, [.text address]⟩]⟩

theorem numberedOwner_wellFormed (address : String) (type : ColumnType) (owner : Cell)
    (held : type.Holds owner) : (numberedOwner address type owner).WellFormed where
  aligned := by simp [numberedOwner, Frame.height]
  distinct := by simp [numberedOwner, Frame.names]
  typed := by
    simp only [numberedOwner, List.forall_mem_cons, List.not_mem_nil, false_implies, implies_true,
      and_true]
    exact ⟨held, trivial, trivial⟩

theorem numberedOwner_restored {type : IntegerType} {owner : Int} {stored : Double}
    (small : owner.natAbs < 2 ^ 53) (same : stored.same (.ofInt owner) = true) (address : String) :
    (numberedOwner address (.integer type) (.integer owner)).Restored
      (numberedOwner address .float64 (.float stored)) := by
  obtain ⟨number, here, there⟩ := Double.same_iff.mp same
  rw [number?_ofInt (isDouble_of_le small.le)] at there
  refine .cons (.inr ⟨rfl, .doubles type ?_, .cons (.number there here) .nil⟩)
    (.cons (.inl rfl) (.cons (.inl rfl) .nil))
  simpa using small

theorem judge_restored_owner :
    (numberedOwner "https://github.com/-3/x" (.integer .signed8) (.integer (-3))).WellFormed ∧
    Verdict.Alike
      ((urls .url).judge
        (numberedOwner "https://github.com/-3/x" (.integer .signed8) (.integer (-3))) ⟨0, 0⟩)
      ((urls .url).judge
        (numberedOwner "https://github.com/-3/x" .float64 (.float (.ofInt (-3)))) ⟨0, 0⟩) := by
  have formed := numberedOwner_wellFormed "https://github.com/-3/x" (.integer .signed8)
    (.integer (-3)) ⟨by decide, by decide⟩
  have formedToo := numberedOwner_wellFormed "https://github.com/-3/x" .float64
    (.float (.ofInt (-3))) trivial
  refine ⟨formed, judge_restored _ _ _ _ formed formedToo
    (numberedOwner_restored (by decide) (by decide +kernel) _) ?_⟩
  intro name member
  rcases List.mem_pair.mp member with rfl | rfl
  · rintro (_ | row)
    · decide +kernel
    · rfl
  · exact fun _ => rfl

/-- An owner that is zero has an address of its own when the zero has a minus sign. -/
theorem judge_restored_negativeZero :
    (numberedOwner "https://github.com/0/x" (.integer .signed64) (.integer 0)).WellFormed ∧
    (numberedOwner "https://github.com/0/x" .float64 (.float (.ofRank true 0))).WellFormed ∧
    (numberedOwner "https://github.com/0/x" (.integer .signed64) (.integer 0)).Restored
      (numberedOwner "https://github.com/0/x" .float64 (.float (.ofRank true 0))) ∧
    ¬ Verdict.Alike
      ((urls .url).judge
        (numberedOwner "https://github.com/0/x" (.integer .signed64) (.integer 0)) ⟨0, 0⟩)
      ((urls .url).judge
        (numberedOwner "https://github.com/0/x" .float64 (.float (.ofRank true 0))) ⟨0, 0⟩) := by
  refine ⟨numberedOwner_wellFormed _ (.integer _) (.integer _) ⟨by decide, by decide⟩,
    numberedOwner_wellFormed _ .float64 (.float _) trivial,
    numberedOwner_restored (by decide) (by decide +kernel) _, fun alike => ?_⟩
  have failed := alike.result_eq (show _ = Except.ok true by decide +kernel)
  revert failed
  decide +kernel

end Check

end DatasetGate
