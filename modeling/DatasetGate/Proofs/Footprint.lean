import DatasetGate.Proofs.Dataset.TableFrame
import DatasetGate.Proofs.PlanComposition

/-!
# The columns that decide a check

A check is decided by the columns of its footprint: its own column, and for addresses and for the
base repository those of owners and of names. Two frames that agree there get one verdict, so other
columns can come, go, change or move without any check telling.
-/

set_option autoImplicit false

namespace DatasetGate

open DatasetGate.Calendar

namespace Frame

/-- The frames have the same columns under these names: present or missing in both, of one type and
with the same cells. Nothing is said of other columns or of the order of any. -/
def AgreeOn (frame second : Frame) (names : List String) : Prop :=
  ∀ name ∈ names, second.column? name = frame.column? name

section Reading

variable {frame second : Frame} {name : String}

theorem column_congr (same : second.column? name = frame.column? name) :
    second.column name = frame.column name := by
  rw [column, column, same]

theorem displayCells_congr (same : second.column? name = frame.column? name) :
    second.displayCells name = frame.displayCells name := by
  rw [displayCells, displayCells, column_congr same]

theorem textCells_congr (same : second.column? name = frame.column? name) :
    second.textCells name = frame.textCells name := by
  rw [textCells, textCells, column_congr same]

theorem repositoryPaths_congr {owner : String}
    (sameOwner : second.column? owner = frame.column? owner)
    (sameName : second.column? name = frame.column? name) :
    second.repositoryPaths owner name = frame.repositoryPaths owner name := by
  rw [repositoryPaths, repositoryPaths, displayCells_congr sameOwner, displayCells_congr sameName]

end Reading

section Editing

variable {frame : Frame} {name : String}

/-- A column put into a frame, be it new or in the place of an old one, is no other column. -/
theorem column?_withColumn_of_ne {column : Column} (different : column.name ≠ name) :
    (frame.withColumn column).column? name = frame.column? name := by
  rw [withColumn]
  split
  · have kept : (fun old : Column =>
        decide ((if old.name = column.name then column else old).name = name)) =
          fun old => decide (old.name = name) := by
      funext old
      split
      · rename_i replaced
        rw [replaced]
      · rfl
    rw [column?, column?, List.find?_map, Function.comp_def, kept]
    cases found : frame.columns.find? fun old => decide (old.name = name) with
    | none => rfl
    | some old =>
        have named : old.name = name := by simpa using List.find?_some found
        have other : old.name ≠ column.name := fun same => different (same.symm.trans named)
        rw [Option.map_some, if_neg other]
  · simp [column?, List.find?_append, different]

theorem column?_dropColumn_of_ne {dropped : String} (different : dropped ≠ name) :
    (frame.dropColumn dropped).column? name = frame.column? name := by
  rw [column?, column?, dropColumn, List.find?_filter]
  congr 1
  funext column
  by_cases named : column.name = name
  · simp [named, different.symm]
  · simp [named]

/-- Distinct names find their columns in any order of the columns. -/
theorem column?_perm {second : Frame} (distinct : frame.names.Nodup)
    (order : second.columns.Perm frame.columns) (name : String) :
    second.column? name = frame.column? name := by
  have distinctToo : second.names.Nodup := (order.map Column.name).nodup_iff.mpr distinct
  cases found : second.column? name with
  | none =>
      rw [column?, List.find?_eq_none] at found
      exact (List.find?_eq_none.mpr fun column member => found column (order.mem_iff.mpr member)).symm
  | some column =>
      have named : column.name = name := by simpa using List.find?_some found
      rw [← named]
      exact (column?_of_mem distinct (order.mem_iff.mp (column?_mem found))).symm

end Editing

end Frame

namespace Check

/-- The columns by which a check is decided. A repository column other than the base repository has
no owner and name to be compared with. -/
def footprint : Check → List String
  | .urls column => [column.name, column.ownerColumn, column.nameColumn]
  | .repoName .baseRepo => ["baseRepo", "owner", "name"]
  | .repoName .headRepo => ["headRepo"]
  | .date column => [column.name]
  | .limitDate column _ => [column.name]
  | .limitNum column _ => [column.name]
  | .repoNameFormat column => [column.name]
  | .value column _ => [column]

section Agreeing

variable {frame second : Frame}

theorem judgeUrls_congr {column : UrlColumn}
    (agree : frame.AgreeOn second [column.name, column.ownerColumn, column.nameColumn]) :
    judgeUrls second column = judgeUrls frame column := by
  have own := Frame.textCells_congr (agree column.name (by simp))
  have paths := Frame.repositoryPaths_congr (agree column.ownerColumn (by simp))
    (agree column.nameColumn (by simp))
  have scheme : schemeFailures second column = schemeFailures frame column := by
    rw [schemeFailures, schemeFailures, own]
  have authority : authorityFailures second column = authorityFailures frame column := by
    rw [authorityFailures, authorityFailures, own]
  have path : pathFailures second column = pathFailures frame column := by
    rw [pathFailures, pathFailures, own, paths]
  rw [judgeUrls, judgeUrls, scheme, authority, path]

theorem judgeRepoName_congr (agree : frame.AgreeOn second ["baseRepo", "owner", "name"]) :
    judgeRepoName second .baseRepo = judgeRepoName frame .baseRepo := by
  have own : second.textCells RepoColumn.baseRepo.name = frame.textCells RepoColumn.baseRepo.name :=
    Frame.textCells_congr (agree "baseRepo" (by simp))
  have paths := Frame.repositoryPaths_congr (agree "owner" (by simp)) (agree "name" (by simp))
  rw [judgeRepoName, judgeRepoName, repoNameFailures, repoNameFailures, own, paths]

/-- A verdict is decided by the footprint of its check; one case for each kind. -/
theorem judge_congr {check : Check} {now : Instant} (agree : frame.AgreeOn second check.footprint) :
    check.judge second now = check.judge frame now := by
  cases check with
  | urls column => exact judgeUrls_congr agree
  | date column =>
      have own := Frame.displayCells_congr (agree column.name (by simp [footprint]))
      rw [judge, judge, judgeDate, judgeDate, own]
  | limitDate column limit =>
      have own := Frame.column_congr (agree column.name (by simp [footprint]))
      rw [judge, judge, judgeWindow, judgeWindow, readInstants, readInstants, own]
  | limitNum column limit =>
      have own := Frame.column_congr (agree column.name (by simp [footprint]))
      rw [judge, judge, judgeLimit, judgeLimit, limitFailures, limitFailures, own]
  | repoName column =>
      cases column with
      | baseRepo => exact judgeRepoName_congr agree
      | headRepo => rfl
  | repoNameFormat column =>
      have own := Frame.textCells_congr (agree column.name (by simp [footprint]))
      rw [judge, judge, judgeRepoNameFormat, judgeRepoNameFormat, own]
  | value column expected =>
      have own := Frame.column_congr (agree column (by simp [footprint]))
      rw [judge, judge, judgeValue, judgeValue, valueFailures, valueFailures, own]

end Agreeing

/-- A check tells two frames apart only by a column of its footprint: with any others added,
replaced, dropped or moved it gives one result, and reports the same outcomes into any record. Checks
of clients' addresses do not look at the columns of repositories, nor the other way round. -/
theorem judge_agreeOn (check : Check) (now : Instant) :
    (∀ frame second : Frame, frame.AgreeOn second check.footprint →
      check.judge second now = check.judge frame now ∧
      ∀ recorded, (Session.run ⟨second, now, recorded⟩ check).2.recorded =
        (Session.run ⟨frame, now, recorded⟩ check).2.recorded) ∧
    (∀ (frame : Frame) (column : Column), column.name ∉ check.footprint →
      check.judge (frame.withColumn column) now = check.judge frame now) ∧
    (∀ (frame : Frame) (name : String), name ∉ check.footprint →
      check.judge (frame.dropColumn name) now = check.judge frame now) ∧
    (∀ frame second : Frame, frame.names.Nodup → second.columns.Perm frame.columns →
      check.judge second now = check.judge frame now) ∧
    (∀ (frame second : Frame) (column : UrlColumn), column = .csshUrl ∨ column = .curl →
      frame.AgreeOn second [column.name, "cowner", "cname"] →
        (urls column).judge second now = (urls column).judge frame now) ∧
    ∀ (frame second : Frame) (column : UrlColumn), column = .sshUrl ∨ column = .url →
      frame.AgreeOn second [column.name, "owner", "name"] →
        (urls column).judge second now = (urls column).judge frame now := by
  refine ⟨?_, ?_, ?_, ?_, ?_, ?_⟩
  · intro frame second agree
    have same : check.judge second now = check.judge frame now := judge_congr agree
    refine ⟨same, fun recorded => ?_⟩
    rw [Session.run, Session.run, same]
  · intro frame column outside
    refine judge_congr fun name inside => Frame.column?_withColumn_of_ne ?_
    rintro rfl
    exact outside inside
  · intro frame dropped outside
    refine judge_congr fun name inside => Frame.column?_dropColumn_of_ne ?_
    rintro rfl
    exact outside inside
  · intro frame second distinct order
    exact judge_congr fun name _ => Frame.column?_perm distinct order name
  · rintro frame second column (rfl | rfl) agree
    · exact judgeUrls_congr agree
    · exact judgeUrls_congr agree
  · rintro frame second column (rfl | rfl) agree
    · exact judgeUrls_congr agree
    · exact judgeUrls_congr agree

/-- A client's address beside the owners of a repository and of a client. -/
def clientFrame : Frame :=
  ⟨[⟨"owner", .text, [.text "octo"]⟩, ⟨"name", .text, [.text "cat"]⟩,
    ⟨"cowner", .text, [.text "fork"]⟩, ⟨"cname", .text, [.text "cat"]⟩,
    ⟨"curl", .text, [.text "https://github.com/fork/cat"]⟩]⟩

/-- The same client with other columns moved, retyped and lost. -/
def strayedFrame : Frame :=
  ⟨[⟨"curl", .text, [.text "https://github.com/fork/cat"]⟩,
    ⟨"owner", .integer .signed64, [.integer 7]⟩, ⟨"cname", .text, [.text "cat"]⟩,
    ⟨"cowner", .text, [.text "fork"]⟩]⟩

theorem judge_agreeOn_client :
    clientFrame.AgreeOn strayedFrame (urls .curl).footprint ∧
    ((urls .curl).judge strayedFrame ⟨0, 0⟩).result = .ok true := by
  have agree : clientFrame.AgreeOn strayedFrame (urls .curl).footprint := by
    intro name member
    revert name
    decide
  refine ⟨agree, ?_⟩
  rw [((judge_agreeOn (urls .curl) ⟨0, 0⟩).1 clientFrame strayedFrame agree).1]
  rfl

end Check
end DatasetGate
