import DatasetGate.Check.Basic
import DatasetGate.Proofs.Rows

/-!
# Paired columns

The owners and the names of repositories are joined row by row and then looked up by the rows of a third
column. Where all columns have the height of the frame every lookup finds a path, and the path is that
of the same row.
-/

set_option autoImplicit false

namespace DatasetGate

/-- The rows that fail a predicate which may have no answer. A row without an answer leaves none at
all. -/
def failingRows? {α : Type} (accepts? : Nat → α → Option Bool) :
    Nat → List (Option α) → Option (List Nat)
  | _, [] => some []
  | row, none :: rest => (failingRows? accepts? (row + 1) rest).map (row :: ·)
  | row, some value :: rest =>
      match accepts? row value with
      | none => none
      | some true => failingRows? accepts? (row + 1) rest
      | some false => (failingRows? accepts? (row + 1) rest).map (row :: ·)

/-- A predicate that answers in every row with a value finds the failing rows. -/
theorem failingRows?_eq_some {α : Type} {accepts? : Nat → α → Option Bool}
    {accepts : Nat → α → Bool} {cells : List (Option α)}
    (answers : ∀ row value, cells[row]? = some (some value) →
      accepts? row value = some (accepts row value)) :
    failingRows? accepts? 0 cells = some (failingRows accepts cells) := by
  -- The rows before the cells that are left shift every lookup by the same number.
  have shifted (cells : List (Option α)) (start : Nat)
      (answers : ∀ row value, cells[row]? = some (some value) →
        accepts? (row + start) value = some (accepts (row + start) value)) :
      failingRows? accepts? start cells =
        some ((failingRows (fun row => accepts (row + start)) cells).map (· + start)) := by
    induction cells generalizing start with
    | nil => rfl
    | cons cell rest ih =>
        have move (row : Nat) : row + (start + 1) = row + 1 + start := by omega
        have later := ih (start + 1) fun row value found => by
          rw [move]
          exact answers (row + 1) value found
        simp only [move] at later
        rw [← List.singleton_append, failingRows_append, List.length_singleton, List.map_append,
          List.map_map]
        cases cell with
        | none => simp [failingRows?, failingRows, later, Function.comp_def, Nat.add_assoc]
        | some value =>
            have own : accepts? start value = some (accepts start value) := by
              simpa using answers 0 value rfl
            cases accepted : accepts start value with
            | true => simp [failingRows?, failingRows, own, accepted, later, Function.comp_def]
            | false => simp [failingRows?, failingRows, own, accepted, later, Function.comp_def]
  rw [shifted cells 0 answers]
  simp

namespace Frame

/-- The rows whose text does not fit the path that two columns name in the same row. -/
def misfits (frame : Frame) (target owner name : String) (fits : String → String → Bool) :
    Except CheckError (List Nat) :=
  match frame.textCells target with
  | .error error => .error error
  | .ok cells =>
      (frame.repositoryPaths owner name).map fun paths =>
        failingRows (fun row text => (paths[row]?).join.any (fits text)) cells

/-- The same rows where a lookup outside the list of paths has no answer. -/
def misfits? (frame : Frame) (target owner name : String) (fits : String → String → Bool) :
    Except CheckError (Option (List Nat)) :=
  match frame.textCells target with
  | .error error => .error error
  | .ok cells =>
      (frame.repositoryPaths owner name).map fun paths =>
        failingRows? (fun row text => (paths[row]?).map fun path => path.any (fits text)) 0 cells

/-- A list of paths has one entry for each row of a frame. It is made of the owner and the name in
that row, and a row where one of them is null has no path. -/
structure Pairs (frame : Frame) (owners names : Column) (paths : List (Option String)) : Prop where
  length_eq : paths.length = frame.height
  entry : ∀ row < frame.height, ∃ owner name, owners.cells[row]? = some owner ∧
    names.cells[row]? = some name ∧
    paths[row]? = some (if owner.isNull ∨ name.isNull then none
      else some (owner.display ++ "/" ++ name.display))

variable {frame : Frame} {owner name : String}

theorem pathAt?_of_cells {owners names : Column} {ownerCell nameCell : Cell} {row : Nat}
    (ownersFound : frame.column? owner = some owners) (namesFound : frame.column? name = some names)
    (ownerHeld : owners.cells[row]? = some ownerCell) (nameHeld : names.cells[row]? = some nameCell) :
    frame.pathAt? owner name row = if ownerCell.isNull ∨ nameCell.isNull then none
      else some (ownerCell.display ++ "/" ++ nameCell.display) := by
  rw [pathAt?, textAt?, textAt?, cellAt?_of_column? ownersFound, cellAt?_of_column? namesFound,
    ownerHeld, nameHeld, Option.bind_some, Option.bind_some, Cell.text?, Cell.text?]
  cases ownerCell.isNull <;> cases nameCell.isNull <;> rfl

/-- Columns that are there can be paired. -/
theorem Aligned.exists_pairs (aligned : frame.Aligned) {owners names : Column}
    (ownersFound : frame.column? owner = some owners)
    (namesFound : frame.column? name = some names) :
    ∃ paths, frame.repositoryPaths owner name = .ok paths ∧ frame.Pairs owners names paths := by
  obtain ⟨paths, joined⟩ : ∃ paths, frame.repositoryPaths owner name = .ok paths := by
    simp [repositoryPaths, displayCells, column_eq_ok_iff.mpr ownersFound,
      column_eq_ok_iff.mpr namesFound, Except.map]
  have views := views_of_repositoryPaths aligned joined
  refine ⟨paths, joined, views.length_eq, fun row bound => ?_⟩
  have ownerHeld := List.getElem?_eq_getElem ((aligned.length_cells ownersFound).symm ▸ bound)
  have nameHeld := List.getElem?_eq_getElem ((aligned.length_cells namesFound).symm ▸ bound)
  have pathHeld := List.getElem?_eq_getElem (views.length_eq.symm ▸ bound)
  refine ⟨_, _, ownerHeld, nameHeld, ?_⟩
  rw [← pathAt?_of_cells ownersFound namesFound ownerHeld nameHeld, ← views.cell_eq row, pathHeld]
  rfl

/-- No lookup of a path leaves the list of paths. -/
theorem Aligned.misfits?_eq (aligned : frame.Aligned) (target : String)
    (fits : String → String → Bool) :
    frame.misfits? target owner name fits = (frame.misfits target owner name fits).map some := by
  rw [misfits?, misfits]
  cases shown : frame.textCells target with
  | error error => rfl
  | ok cells =>
      cases joined : frame.repositoryPaths owner name with
      | error error => rfl
      | ok paths =>
          refine congrArg Except.ok (failingRows?_eq_some fun row text found => ?_)
          have inside : row < paths.length := by
            rw [(views_of_repositoryPaths aligned joined).length_eq,
              ← (views_of_textCells aligned shown).length_eq]
            exact (List.getElem?_eq_some_iff.mp found).1
          rw [List.getElem?_eq_getElem inside]
          rfl

theorem Aligned.misfits_rows (aligned : frame.Aligned) {target : String}
    {fits : String → String → Bool} {rows : List Nat}
    (found : frame.misfits target owner name fits = .ok rows) :
    rows = frame.rowsWithout fun row =>
      (frame.textAt? target row).any fun text => (frame.pathAt? owner name row).any (fits text) := by
  rw [misfits] at found
  cases shown : frame.textCells target with
  | error error => simp [shown] at found
  | ok cells =>
      simp only [shown] at found
      obtain ⟨paths, joined, rfl⟩ := except_map_eq_ok_iff.mp found
      rw [(views_of_textCells aligned shown).failingRows_eq]
      congr 1
      funext row
      rw [(views_of_repositoryPaths aligned joined).cell_eq row]

/-- A row is found unless its own owner and its own name make a path that fits its text. -/
theorem Aligned.mem_misfits_iff (aligned : frame.Aligned) {target : String}
    {fits : String → String → Bool} {rows : List Nat}
    (found : frame.misfits target owner name fits = .ok rows) {row : Nat} :
    row ∈ rows ↔ row < frame.height ∧ ¬ ∃ text ownerText nameText,
      frame.textAt? target row = some text ∧ frame.textAt? owner row = some ownerText ∧
        frame.textAt? name row = some nameText ∧ fits text (ownerText ++ "/" ++ nameText) = true := by
  rw [aligned.misfits_rows found, mem_rowsWithout, ← Bool.not_eq_true]
  refine and_congr_right fun _ => not_congr ?_
  cases frame.textAt? target row with
  | none => simp
  | some text =>
      cases ownerShown : frame.textAt? owner row <;> cases nameShown : frame.textAt? name row <;>
        simp [pathAt?, repositoryPath, ownerShown, nameShown]

/-- The same where one text only fits a path. -/
theorem Aligned.mem_misfits_iff_of_shape (aligned : frame.Aligned) {target : String}
    {fits : String → String → Bool} (shape : String → String)
    (shaped : ∀ text path, fits text path = true ↔ text = shape path) {rows : List Nat}
    (found : frame.misfits target owner name fits = .ok rows) {row : Nat} :
    row ∈ rows ↔ row < frame.height ∧ ¬ ∃ ownerText nameText,
      frame.textAt? owner row = some ownerText ∧ frame.textAt? name row = some nameText ∧
        frame.textAt? target row = some (shape (ownerText ++ "/" ++ nameText)) := by
  rw [aligned.mem_misfits_iff found]
  simp only [shaped]
  refine and_congr_right fun _ => not_congr ?_
  constructor
  · rintro ⟨text, ownerText, nameText, shown, ownerShown, nameShown, rfl⟩
    exact ⟨ownerText, nameText, ownerShown, nameShown, shown⟩
  · rintro ⟨ownerText, nameText, ownerShown, nameShown, shown⟩
    exact ⟨_, ownerText, nameText, shown, ownerShown, nameShown, rfl⟩

end Frame

namespace Check

variable (frame : Frame)

theorem pathFailures_eq_misfits (column : UrlColumn) :
    pathFailures frame column =
      frame.misfits column.name column.ownerColumn column.nameColumn fun text path =>
        text == (AddressShape.ofColumn column).address path := by
  rw [pathFailures, Frame.misfits]
  cases frame.textCells column.name with
  | error error => rfl
  | ok cells =>
      refine congrArg (Except.map · _) ?_
      funext paths
      congr 1
      funext row text
      rcases paths[row]? with _ | _ | path <;> rfl

theorem repoNameFailures_eq_misfits (column : RepoColumn) :
    repoNameFailures frame column =
      frame.misfits column.name "owner" "name" fun text path => path == text := by
  rw [repoNameFailures, Frame.misfits]
  cases frame.textCells column.name with
  | error error => rfl
  | ok cells =>
      refine congrArg (Except.map · _) ?_
      funext paths
      congr 1
      funext row text
      rcases paths[row]? with _ | _ | path <;> rfl

/-- Paired columns stay aligned. Where every column has the height of the frame, two columns are
paired row by row; the lookups of addresses and of repository names all stay within the list of
paths; and each row is judged by its own owner and its own name. -/
theorem lookups_aligned (aligned : frame.Aligned) :
    (∀ owner name owners names, frame.column? owner = some owners →
      frame.column? name = some names →
        ∃ paths, frame.repositoryPaths owner name = .ok paths ∧ frame.Pairs owners names paths ∧
          ∀ target cells, frame.textCells target = .ok cells → cells.length = paths.length) ∧
    (∀ column : UrlColumn,
      (frame.misfits? column.name column.ownerColumn column.nameColumn fun text path =>
        text == (AddressShape.ofColumn column).address path) = (pathFailures frame column).map some ∧
      ∀ rows, pathFailures frame column = .ok rows → ∀ row, row ∈ rows ↔ row < frame.height ∧
        ¬ ∃ owner name, frame.textAt? column.ownerColumn row = some owner ∧
          frame.textAt? column.nameColumn row = some name ∧
          frame.textAt? column.name row =
            some ((AddressShape.ofColumn column).address (owner ++ "/" ++ name))) ∧
    ∀ column : RepoColumn,
      (frame.misfits? column.name "owner" "name" fun text path => path == text) =
        (repoNameFailures frame column).map some ∧
      ∀ rows, repoNameFailures frame column = .ok rows → ∀ row, row ∈ rows ↔ row < frame.height ∧
        ¬ ∃ owner name, frame.textAt? "owner" row = some owner ∧
          frame.textAt? "name" row = some name ∧
          frame.textAt? column.name row = some (owner ++ "/" ++ name) := by
  refine ⟨?_, fun column => ⟨?_, ?_⟩, fun column => ⟨?_, ?_⟩⟩
  · intro owner name owners names ownersFound namesFound
    obtain ⟨paths, joined, pairs⟩ := aligned.exists_pairs ownersFound namesFound
    refine ⟨paths, joined, pairs, fun target cells shown => ?_⟩
    rw [(Frame.views_of_textCells aligned shown).length_eq, pairs.length_eq]
  · rw [pathFailures_eq_misfits, aligned.misfits?_eq]
  · intro rows found row
    rw [pathFailures_eq_misfits] at found
    exact aligned.mem_misfits_iff_of_shape _ (fun _ _ => beq_iff_eq) found
  · rw [repoNameFailures_eq_misfits, aligned.misfits?_eq]
  · intro rows found row
    rw [repoNameFailures_eq_misfits] at found
    exact aligned.mem_misfits_iff_of_shape id (fun _ _ => beq_iff_eq.trans eq_comm) found

/-- Three rows of numbered owners; the second has no owner and the third the repository of the
first. -/
def pairedFrame : Frame :=
  ⟨[⟨"baseRepo", .text, [.text "7/cat", .text "8/dog", .text "7/cat"]⟩,
    ⟨"owner", .integer .signed64, [.integer 7, .null, .integer 9]⟩,
    ⟨"name", .text, [.text "cat", .text "dog", .text "cat"]⟩]⟩

theorem lookups_aligned_owners : pairedFrame.Aligned ∧
    (∃ paths, pairedFrame.repositoryPaths "owner" "name" = .ok paths ∧ paths.length = 3) ∧
    (pairedFrame.misfits? "baseRepo" "owner" "name" fun text path => path == text) =
      .ok (some [1, 2]) := by
  have aligned : pairedFrame.Aligned := by
    intro column member
    revert column
    decide
  obtain ⟨paired, -, named⟩ := lookups_aligned pairedFrame aligned
  refine ⟨aligned, ?_, ?_⟩
  · obtain ⟨paths, joined, pairs, -⟩ := paired "owner" "name" _ _ rfl rfl
    exact ⟨paths, joined, pairs.length_eq⟩
  · exact (named .baseRepo).1.trans (by decide)

end Check
end DatasetGate
