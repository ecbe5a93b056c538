import DatasetGate.Proofs.Judgements
import DatasetGate.Proofs.Patterns

/-!
# What verdicts mean

When a check that ends without an error has passed, in terms of what the columns show in each row; and
which columns it needs to end without an error.
-/

set_option autoImplicit false

namespace DatasetGate

namespace Check

theorem result_ofRows_eq_ok_iff {kind : CheckKind} {column label : String}
    {rows : Except CheckError (List Nat)} {passed : Bool} :
    (Verdict.ofRows kind column label rows).result = .ok passed ↔
      ∃ failing, rows = .ok failing ∧ passed = failing.isEmpty := by
  cases rows with
  | error error => simp [Verdict.ofRows, Verdict.failed]
  | ok failing => simp [Verdict.ofRows, Verdict.ofOutcomes, Outcome.ofRows, eq_comm]

/-- A value is judged cell by cell. -/
theorem judgeValue_result {frame : Frame} {name : String} {column : Column}
    (found : frame.column? name = some column) (expected : Expectation) :
    (judgeValue frame name expected).result = .ok (column.cells.all expected.accepts) := by
  have judged : valueFailures frame name expected =
      .ok (failingRows (fun _ cell => expected.accepts cell) (column.cells.map some)) := by
    rw [valueFailures, Frame.column_eq_ok_iff.mpr found]
    rfl
  refine result_ofRows_eq_ok_iff.mpr ⟨_, judged, ?_⟩
  rw [Bool.eq_iff_iff, List.isEmpty_iff, failingRows_eq_nil_iff, List.all_eq_true,
    List.forall_mem_iff_forall_getElem, List.length_map]
  refine forall₂_congr fun row bound => ?_
  simp [acceptsRow, bound]

theorem judgeDate_passed_iff {frame : Frame} (formed : frame.WellFormed) {column : DateColumn}
    {passed : Bool} (judged : (judgeDate frame column).result = .ok passed) :
    passed = true ↔ ∀ row < frame.height,
      ∃ text, frame.textAt? column.name row = some text ∧ BeginsWithDate text.toList := by
  obtain ⟨failing, found, rfl⟩ := result_ofRows_eq_ok_iff.mp judged
  rw [dateFailures_rows formed found, List.isEmpty_iff, Frame.rowsWithout_eq_nil_iff]
  simp only [Option.any_eq_true, startsWithDate_iff]

theorem judgeRepoNameFormat_passed_iff {frame : Frame} (formed : frame.WellFormed)
    {column : RepoColumn} {passed : Bool}
    (judged : (judgeRepoNameFormat frame column).result = .ok passed) :
    passed = true ↔ ∀ row < frame.height,
      ∃ text, frame.textAt? column.name row = some text ∧ IsRepositoryPath text.toList := by
  obtain ⟨failing, found, rfl⟩ := result_ofRows_eq_ok_iff.mp judged
  rw [repoNameFormatFailures_rows formed found, List.isEmpty_iff, Frame.rowsWithout_eq_nil_iff]
  simp only [Option.any_eq_true, isRepositoryPath_iff]

theorem pathAt?_eq_some_iff {frame : Frame} {owner name : String} {row : Nat} {path : String} :
    frame.pathAt? owner name row = some path ↔
      ∃ o n, frame.textAt? owner row = some o ∧ frame.textAt? name row = some n ∧
        path = Frame.repositoryPath o n := by
  rw [Frame.pathAt?]
  cases frame.textAt? owner row <;> cases frame.textAt? name row <;> simp [eq_comm]

theorem judgeRepoName_passed_iff {frame : Frame} (formed : frame.WellFormed) {passed : Bool}
    (judged : (judgeRepoName frame .baseRepo).result = .ok passed) :
    passed = true ↔ ∀ row < frame.height,
      ∃ owner name, frame.textAt? "owner" row = some owner ∧ frame.textAt? "name" row = some name ∧
        frame.textAt? "baseRepo" row = some (owner ++ "/" ++ name) := by
  obtain ⟨failing, found, rfl⟩ := result_ofRows_eq_ok_iff.mp judged
  rw [repoNameFailures_rows formed found, List.isEmpty_iff, Frame.rowsWithout_eq_nil_iff]
  simp only [Option.any_eq_true, beq_iff_eq, pathAt?_eq_some_iff, RepoColumn.name]
  refine forall_congr' fun row => imp_congr_right fun _ => ?_
  constructor
  · rintro ⟨text, shown, owner, name, ownerShown, nameShown, rfl⟩
    exact ⟨owner, name, ownerShown, nameShown, shown⟩
  · rintro ⟨owner, name, ownerShown, nameShown, shown⟩
    exact ⟨_, shown, owner, name, ownerShown, nameShown, rfl⟩

theorem judgeUrls_result_eq_ok {frame : Frame} {column : UrlColumn} {passed : Bool}
    (judged : (judgeUrls frame column).result = .ok passed) :
    ∃ scheme authority path, schemeFailures frame column = .ok scheme ∧
      authorityFailures frame column = .ok authority ∧ pathFailures frame column = .ok path ∧
      (passed = true ↔ scheme = [] ∧ authority = [] ∧ path = []) := by
  cases scheme : schemeFailures frame column with
  | error error => simp [judgeUrls, scheme, Verdict.failed] at judged
  | ok schemeRows =>
      cases authority : authorityFailures frame column with
      | error error => simp [judgeUrls, scheme, authority, Verdict.failed] at judged
      | ok authorityRows =>
          cases path : pathFailures frame column with
          | error error =>
              simp [judgeUrls, scheme, authority, path, Verdict.failed] at judged
          | ok pathRows =>
              refine ⟨schemeRows, authorityRows, pathRows, rfl, rfl, rfl, ?_⟩
              simp only [judgeUrls, scheme, authority, path, Verdict.ofOutcomes,
                Except.ok.injEq] at judged
              simp [← judged, Outcome.ofRows]

/-- The whole address decides: where it is right, its start and its authority are right too. -/
theorem judgeUrls_passed_iff {frame : Frame} (formed : frame.WellFormed) {column : UrlColumn}
    {passed : Bool} (judged : (judgeUrls frame column).result = .ok passed) :
    passed = true ↔ ∀ row < frame.height,
      ∃ owner name, frame.textAt? column.pair.1 row = some owner ∧
        frame.textAt? column.pair.2 row = some name ∧
        frame.textAt? column.name row = some (column.addressOf owner name) := by
  obtain ⟨scheme, authority, path, schemeFound, authorityFound, pathFound, passedIff⟩ :=
    judgeUrls_result_eq_ok judged
  rw [passedIff, schemeFailures_rows formed schemeFound,
    authorityFailures_rows formed authorityFound, pathFailures_rows formed pathFound]
  simp only [Frame.rowsWithout_eq_nil_iff, Option.any_eq_true, beq_iff_eq, pathAt?_eq_some_iff,
    UrlColumn.pair_eq]
  constructor
  · rintro ⟨-, -, addressed⟩ row bound
    obtain ⟨text, shown, _, ⟨owner, name, ownerShown, nameShown, rfl⟩, rfl⟩ :=
      addressed row bound
    exact ⟨owner, name, ownerShown, nameShown,
      by rw [shown, UrlColumn.address_repositoryPath]⟩
  · intro addressed
    refine ⟨fun row bound => ?_, fun row bound => ?_, fun row bound => ?_⟩ <;>
      obtain ⟨owner, name, ownerShown, nameShown, shown⟩ := addressed row bound <;>
      rw [← UrlColumn.address_repositoryPath] at shown
    · exact ⟨_, shown, AddressShape.startsRight_address _ _⟩
    · exact ⟨_, shown, AddressShape.marksRight_address _ _⟩
    · exact ⟨_, shown, _, ⟨owner, name, ownerShown, nameShown, rfl⟩, rfl⟩

theorem textCells_eq_ok {frame : Frame} {name : String} {column : Column}
    (found : frame.column? name = some column) (textual : column.type.isTextual = true) :
    frame.textCells name = .ok (column.cells.map Cell.text?) :=
  Frame.textCells_eq_ok_iff.mpr ⟨column, found, textual, rfl⟩

theorem exists_repositoryPaths {frame : Frame} {owner name : String}
    (ownerPresent : frame.has owner = true) (namePresent : frame.has name = true) :
    ∃ paths, frame.repositoryPaths owner name = .ok paths := by
  obtain ⟨ownerColumn, ownerFound⟩ := Frame.has_iff_column?.mp ownerPresent
  obtain ⟨nameColumn, nameFound⟩ := Frame.has_iff_column?.mp namePresent
  have ownersShown := Frame.displayCells_eq_ok_iff.mpr ⟨ownerColumn, ownerFound, rfl⟩
  have namesShown := Frame.displayCells_eq_ok_iff.mpr ⟨nameColumn, nameFound, rfl⟩
  rw [Frame.repositoryPaths, ownersShown, namesShown]
  exact ⟨_, rfl⟩

theorem exists_judged_urls {frame : Frame} {column : UrlColumn} {target : Column}
    (found : frame.column? column.name = some target) (textual : target.type.isTextual = true)
    (ownerPresent : frame.has column.pair.1 = true)
    (namePresent : frame.has column.pair.2 = true) :
    ∃ passed, (judgeUrls frame column).result = .ok passed := by
  have shown := textCells_eq_ok found textual
  rw [UrlColumn.pair_eq] at ownerPresent namePresent
  obtain ⟨paths, joined⟩ := exists_repositoryPaths ownerPresent namePresent
  simp only [judgeUrls, schemeFailures, authorityFailures, pathFailures, shown, joined, Except.map]
  exact ⟨_, rfl⟩

theorem exists_judged_repoName {frame : Frame} {target : Column}
    (found : frame.column? "baseRepo" = some target) (textual : target.type.isTextual = true)
    (ownerPresent : frame.has "owner" = true) (namePresent : frame.has "name" = true) :
    ∃ passed, (judgeRepoName frame .baseRepo).result = .ok passed := by
  have shown := textCells_eq_ok found textual
  obtain ⟨paths, joined⟩ := exists_repositoryPaths ownerPresent namePresent
  simp only [judgeRepoName, repoNameFailures, RepoColumn.name, shown, joined, Except.map]
  exact ⟨_, rfl⟩

theorem exists_judged_repoNameFormat {frame : Frame} {column : RepoColumn} {target : Column}
    (found : frame.column? column.name = some target) (textual : target.type.isTextual = true) :
    ∃ passed, (judgeRepoNameFormat frame column).result = .ok passed := by
  have shown := textCells_eq_ok found textual
  simp only [judgeRepoNameFormat, shown, Except.map]
  exact ⟨_, rfl⟩

end Check
end DatasetGate
