import DatasetGate.Plan.Infer
import DatasetGate.Proofs.PlanRun
import DatasetGate.Proofs.Verdicts

/-!
# The meaning of an inferred plan

A plan that is inferred without bounds passes on a frame exactly when every row meets the rules of the
columns that are present. The rules speak about the cells of the row and about no check.
-/

set_option autoImplicit false

namespace DatasetGate

open DatasetGate.Calendar

/-- The rules of the columns present, for one row of a frame. A column that is missing, or whose paired
columns are missing, rules nothing. -/
structure Frame.RowConforms (frame : Frame) (row : Nat) : Prop where
  addresses : ∀ column : UrlColumn, frame.has column.name = true →
    frame.has column.pair.1 = true → frame.has column.pair.2 = true →
      ∃ owner name, frame.textAt? column.pair.1 row = some owner ∧
        frame.textAt? column.pair.2 row = some name ∧
        frame.textAt? column.name row = some (column.addressOf owner name)
  dates : ∀ column : DateColumn, frame.has column.name = true →
    ∃ text, frame.textAt? column.name row = some text ∧ BeginsWithDate text.toList
  baseRepository : frame.has "baseRepo" = true → frame.has "owner" = true →
    frame.has "name" = true →
      ∃ owner name, frame.textAt? "owner" row = some owner ∧ frame.textAt? "name" row = some name ∧
        frame.textAt? "baseRepo" row = some (owner ++ "/" ++ name)
  repositories : ∀ column : RepoColumn, frame.has column.name = true →
    ∃ text, frame.textAt? column.name row = some text ∧ IsRepositoryPath text.toList

namespace Plan

theorem mem_urlChecks {frame : Frame} {check : Check} :
    check ∈ urlChecks frame ↔ ∃ column : UrlColumn, check = .urls column ∧
      frame.has column.name = true ∧ frame.has column.pair.1 = true ∧
        frame.has column.pair.2 = true := by
  have listed (column : UrlColumn) : column ∈ (Family.all : List UrlColumn) := by
    cases column <;> decide
  simp only [urlChecks, List.mem_map, List.mem_filter, listed, UrlColumn.pair_eq, Bool.and_eq_true,
    true_and, @eq_comm _ check, and_comm, and_left_comm]

theorem mem_dateChecks {frame : Frame} {since : Option Instant} {check : Check} :
    check ∈ dateChecks frame since ↔
      (∃ column, check = .date column ∧ frame.has column.name = true) ∨
        ∃ column limit, check = .limitDate column limit ∧ since = some limit ∧
          frame.has column.name = true := by
  have listed (column : DateColumn) : column ∈ (Family.all : List DateColumn) := by
    cases column <;> decide
  cases since with
  | none => simp [dateChecks, listed, and_comm]
  | some limit => simp [dateChecks, listed, or_and_right, exists_or, and_comm]

theorem mem_repositoryChecks {frame : Frame} {check : Check} :
    check ∈ repositoryChecks frame ↔
      (∃ column, check = .repoNameFormat column ∧ frame.has column.name = true) ∨
        check = .repoName .baseRepo ∧ frame.has "baseRepo" = true ∧
          frame.has "owner" = true ∧ frame.has "name" = true := by
  have listed (column : RepoColumn) : column ∈ (Family.all : List RepoColumn) := by
    cases column <;> decide
  simp only [repositoryChecks, List.mem_flatMap, List.mem_filter, listed, true_and]
  constructor
  · rintro ⟨column, present, member⟩
    split at member
    · rename_i paired
      obtain ⟨rfl, owner, name⟩ := paired
      simp only [List.mem_cons, List.not_mem_nil, or_false] at member
      rcases member with rfl | rfl
      · exact .inr ⟨rfl, present, owner, name⟩
      · exact .inl ⟨_, rfl, present⟩
    · simp only [List.mem_singleton] at member
      exact .inl ⟨column, member, present⟩
  · rintro (⟨column, rfl, present⟩ | ⟨rfl, present, owner, name⟩)
    · refine ⟨column, present, ?_⟩
      split <;> simp
    · refine ⟨.baseRepo, present, ?_⟩
      simp [owner, name]

/-- An inferred plan holds the checks of the columns present, and one for each bound. -/
theorem mem_infer {frame : Frame} {bounds : Bounds} {check : Check} :
    check ∈ (infer frame bounds).checks ↔
      (∃ column : UrlColumn, check = .urls column ∧ frame.has column.name = true ∧
        frame.has column.pair.1 = true ∧ frame.has column.pair.2 = true) ∨
      (∃ column : DateColumn, check = .date column ∧ frame.has column.name = true) ∨
      (∃ column limit, check = .limitDate column limit ∧ bounds.since = some limit ∧
        frame.has column.name = true) ∨
      (∃ entry ∈ bounds.minimums, check = .limitNum entry.1 entry.2) ∨
      (∃ column : RepoColumn, check = .repoNameFormat column ∧
        frame.has column.name = true) ∨
      check = .repoName .baseRepo ∧ frame.has "baseRepo" = true ∧
        frame.has "owner" = true ∧ frame.has "name" = true := by
  simp only [infer, List.mem_append, mem_urlChecks, mem_dateChecks, mem_repositoryChecks,
    boundChecks, List.mem_map, or_assoc, @eq_comm _ check]

/-- Without bounds, an inferred plan holds the checks of the columns present and no others. -/
theorem mem_infer_none {frame : Frame} {check : Check} :
    check ∈ (infer frame .none).checks ↔
      (∃ column : UrlColumn, check = .urls column ∧ frame.has column.name = true ∧
        frame.has column.pair.1 = true ∧ frame.has column.pair.2 = true) ∨
      (∃ column : DateColumn, check = .date column ∧ frame.has column.name = true) ∨
      (∃ column : RepoColumn, check = .repoNameFormat column ∧
        frame.has column.name = true) ∨
      check = .repoName .baseRepo ∧ frame.has "baseRepo" = true ∧
        frame.has "owner" = true ∧ frame.has "name" = true := by
  simp only [mem_infer, Bounds.none, reduceCtorEq, List.not_mem_nil, false_and, and_false,
    exists_false, false_or]

/-- A complete run of the plan inferred without bounds passes exactly when every row of the frame
conforms. -/
theorem infer_passed_iff_rowConforms (frame : Frame) (now : Instant) (formed : frame.WellFormed)
    (result : PlanResult)
    (finished : ((infer frame .none).run frame now).result = .ok result) :
    result.passed = true ↔ ∀ row < frame.height, frame.RowConforms row := by
  rw [passed_iff_of_run finished]
  constructor
  · intro judged row bound
    exact {
      addresses := fun column present owner name =>
        (Check.judgeUrls_passed_iff formed
          (judged _ (mem_infer_none.mpr (.inl ⟨column, rfl, present, owner, name⟩)))).mp
            rfl row bound
      dates := fun column present =>
        (Check.judgeDate_passed_iff formed
          (judged _ (mem_infer_none.mpr (.inr (.inl ⟨column, rfl, present⟩))))).mp rfl row bound
      baseRepository := fun present owner name =>
        (Check.judgeRepoName_passed_iff formed
          (judged _ (mem_infer_none.mpr (.inr (.inr (.inr ⟨rfl, present, owner, name⟩)))))).mp
            rfl row bound
      repositories := fun column present =>
        (Check.judgeRepoNameFormat_passed_iff formed
          (judged _ (mem_infer_none.mpr (.inr (.inr (.inl ⟨column, rfl, present⟩)))))).mp
            rfl row bound }
  · intro conforms check member
    obtain ⟨passed, judged⟩ := exists_judged finished member
    rw [judged, Except.ok.injEq]
    rcases mem_infer_none.mp member with ⟨column, rfl, present, owner, name⟩ |
      ⟨column, rfl, present⟩ | ⟨column, rfl, present⟩ | ⟨rfl, present, owner, name⟩
    · exact (Check.judgeUrls_passed_iff formed judged).mpr fun row bound =>
        (conforms row bound).addresses column present owner name
    · exact (Check.judgeDate_passed_iff formed judged).mpr fun row bound =>
        (conforms row bound).dates column present
    · exact (Check.judgeRepoNameFormat_passed_iff formed judged).mpr fun row bound =>
        (conforms row bound).repositories column present
    · exact (Check.judgeRepoName_passed_iff formed judged).mpr fun row bound =>
        (conforms row bound).baseRepository present owner name

/-- Names that are numbers, one of them missing, beside dates. -/
def numberedFrame : Frame :=
  ⟨[⟨"owner", .text, [.text "octo", .text "octo"]⟩,
    ⟨"name", .integer .signed64, [.integer 2048, .null]⟩,
    ⟨"url", .text, [.text "https://github.com/octo/2048", .text "https://github.com/octo/"]⟩,
    ⟨"createdAt", .date, [.date 0, .date 18993]⟩]⟩

theorem numberedFrame_formed : numberedFrame.WellFormed where
  aligned := by simp [numberedFrame, Frame.height]
  distinct := by simp [numberedFrame, Frame.names]
  typed := by
    simp [numberedFrame, ColumnType.Holds, IntegerType.least, IntegerType.greatest]

theorem infer_passed_iff_numbered :
    numberedFrame.WellFormed ∧
    ((infer numberedFrame .none).run numberedFrame ⟨0, 0⟩).result =
      .ok ⟨[(.urls .url, false), (.date .createdAt, true)]⟩ ∧
    ((⟨[(.urls .url, false), (.date .createdAt, true)]⟩ : PlanResult).passed = true ↔
      ∀ row < numberedFrame.height, numberedFrame.RowConforms row) :=
  ⟨numberedFrame_formed, rfl,
    infer_passed_iff_rowConforms numberedFrame ⟨0, 0⟩ numberedFrame_formed _ rfl⟩

end Plan
end DatasetGate
