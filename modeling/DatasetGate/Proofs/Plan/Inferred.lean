import DatasetGate.Proofs.InferredGate
import DatasetGate.Proofs.Selector

/-!
# Plans and the names of columns

An inferred plan depends on the names of the columns and on nothing else of them. Further columns only
add checks to it. Of the checks that columns call for it holds each one once, and of the others one for
every least number that is asked for.
-/

set_option autoImplicit false

namespace DatasetGate

open DatasetGate.Calendar

/-- The column and the least number of a check for a least number. -/
def Check.minimum? : Check → Option (NumericColumn × Int)
  | .limitNum column limit => some (column, limit)
  | _ => none

namespace Plan

/-- Columns of these names call for a check, some of them with an earliest date. Least numbers are
asked for and not called for, whether or not their columns are there. -/
def CalledFor (names : List String) (since : Option Instant) : Check → Prop
  | .urls column => column.name ∈ names ∧ column.pair.1 ∈ names ∧ column.pair.2 ∈ names
  | .date column => column.name ∈ names
  | .limitDate column limit => column.name ∈ names ∧ since = some limit
  | .limitNum _ _ => False
  | .repoName column =>
      column = .baseRepo ∧ "baseRepo" ∈ names ∧ "owner" ∈ names ∧ "name" ∈ names
  | .repoNameFormat column => column.name ∈ names
  | .value _ _ => False

/-- The checks for columns of these names. A check that is called for stands among them once, one for
an earliest date right behind that for the format of its column, and the least numbers stand in the
order in which they are asked for. -/
structure Derived (names : List String) (bounds : Bounds) (checks : List Check) : Prop where
  called : ∀ check, check.minimum? = none →
    (check ∈ checks ↔ CalledFor names bounds.since check)
  once : ∀ check, check.minimum? = none → checks.count check ≤ 1
  windows : ∀ column limit, column.name ∈ names → bounds.since = some limit →
    [.date column, .limitDate column limit] <:+: checks
  minimums : checks.filterMap Check.minimum? = bounds.minimums

section Names

variable {frame other : Frame} (contained : frame.names ⊆ other.names)

include contained

theorem has_of_subset {name : String} (present : frame.has name = true) :
    other.has name = true :=
  List.contains_iff_mem.mpr (contained (List.contains_iff_mem.mp present))

theorem urlChecks_sublist : (urlChecks frame).Sublist (urlChecks other) := by
  apply List.Sublist.map
  apply List.monotone_filter_right
  intro column present
  simp only [Bool.and_eq_true] at present ⊢
  obtain ⟨⟨own, owner⟩, name⟩ := present
  exact ⟨⟨has_of_subset contained own, has_of_subset contained owner⟩,
    has_of_subset contained name⟩

theorem dateChecks_sublist (since : Option Instant) :
    (dateChecks frame since).Sublist (dateChecks other since) := by
  apply List.Sublist.flatMap
  exact List.monotone_filter_right _ fun _ present => has_of_subset contained present

/-- A further column may bring the check against owner and name, which then stands before the check of
the format. -/
theorem repositoryChecks_sublist : (repositoryChecks frame).Sublist (repositoryChecks other) := by
  have columns := List.monotone_filter_right (Family.all : List RepoColumn)
    (fun column present => has_of_subset contained present :
      ∀ column : RepoColumn, frame.has column.name = true → other.has column.name = true)
  refine (List.Sublist.flatMap columns _).trans (List.Sublist.flatMap_right _ ?_)
  intro column _
  by_cases paired : column = .baseRepo ∧ frame.has "owner" ∧ frame.has "name"
  · obtain ⟨base, owner, name⟩ := paired
    rw [if_pos ⟨base, owner, name⟩,
      if_pos ⟨base, has_of_subset contained owner, has_of_subset contained name⟩]
  · rw [if_neg paired]
    split
    · exact List.sublist_cons_self _ _
    · exact List.Sublist.refl _

theorem infer_sublist (bounds : Bounds) :
    (infer frame bounds).checks.Sublist (infer other bounds).checks :=
  (((urlChecks_sublist contained).append (dateChecks_sublist contained bounds.since)).append
    (List.Sublist.refl _)).append (repositoryChecks_sublist contained)

end Names

section Multiplicity

variable {frame : Frame} {bounds : Bounds}

theorem mem_infer_iff_calledFor {check : Check} (column : check.minimum? = none) :
    check ∈ (infer frame bounds).checks ↔ CalledFor frame.names bounds.since check := by
  have present (name : String) : frame.has name = true ↔ name ∈ frame.names :=
    List.contains_iff_mem
  simp only [mem_infer, present]
  cases check <;> simp [CalledFor, Check.minimum?, and_comm] at column ⊢

/-- What the columns call for is no check for a least number. -/
theorem minimum?_of_mem (since : Option Instant) {check : Check}
    (listed : check ∈ urlChecks frame ++ dateChecks frame since ++ repositoryChecks frame) :
    check.minimum? = none := by
  simp only [List.mem_append, mem_urlChecks, mem_dateChecks, mem_repositoryChecks] at listed
  rcases listed with (⟨column, rfl, -⟩ | ⟨column, rfl, -⟩ | ⟨column, limit, rfl, -⟩) |
    ⟨column, rfl, -⟩ | ⟨rfl, -⟩
  all_goals rfl

theorem urlChecks_nodup (frame : Frame) : (urlChecks frame).Nodup := by
  have columns : (Family.all : List UrlColumn).Nodup := by decide
  exact (columns.filter _).map fun _ _ same => Check.urls.inj same

theorem dateChecks_nodup (frame : Frame) (since : Option Instant) :
    (dateChecks frame since).Nodup := by
  have columns : (Family.all : List DateColumn).Nodup := by decide
  refine List.nodup_flatMap.mpr ⟨?_, (columns.filter _).imp ?_⟩
  · intro column _
    cases since <;> simp
  · intro column other distinct
    cases since <;> simp [Function.onFun, distinct.symm]

theorem repositoryChecks_nodup (frame : Frame) : (repositoryChecks frame).Nodup := by
  have columns : (Family.all : List RepoColumn).Nodup := by decide
  refine List.nodup_flatMap.mpr ⟨?_, (columns.filter _).imp ?_⟩
  · intro column _
    split <;> simp
  · intro column other distinct
    simp only [Function.onFun]
    split <;> split <;> simp [distinct, distinct.symm]

/-- Checks of different parts of a plan are of different kinds. -/
theorem columnChecks_nodup (frame : Frame) (since : Option Instant) :
    (urlChecks frame ++ dateChecks frame since ++ repositoryChecks frame).Nodup := by
  refine List.nodup_append'.mpr ⟨List.nodup_append'.mpr ⟨urlChecks_nodup frame,
    dateChecks_nodup frame since, ?_⟩, repositoryChecks_nodup frame, ?_⟩
  · intro check url date
    obtain ⟨column, rfl, -⟩ := mem_urlChecks.mp url
    simp [mem_dateChecks] at date
  · intro check before repository
    rcases List.mem_append.mp before with url | date
    · obtain ⟨column, rfl, -⟩ := mem_urlChecks.mp url
      simp [mem_repositoryChecks] at repository
    · rcases mem_dateChecks.mp date with ⟨column, rfl, -⟩ | ⟨column, limit, rfl, -⟩
      · simp [mem_repositoryChecks] at repository
      · simp [mem_repositoryChecks] at repository

theorem count_infer_le_one {check : Check} (column : check.minimum? = none) :
    (infer frame bounds).checks.count check ≤ 1 := by
  have unasked : (boundChecks bounds.minimums).count check = 0 := by
    rw [List.count_eq_zero, boundChecks, List.mem_map]
    rintro ⟨entry, -, rfl⟩
    cases column
  have called := List.nodup_iff_count_le_one.mp (columnChecks_nodup frame bounds.since) check
  simp only [infer, List.count_append] at called ⊢
  omega

/-- The check for an earliest date comes right behind that for the format of its column. -/
theorem window_infix_infer {column : DateColumn} {limit : Instant}
    (present : column.name ∈ frame.names) (limited : bounds.since = some limit) :
    [.date column, .limitDate column limit] <:+: (infer frame bounds).checks := by
  have listed : column ∈ (Family.all : List DateColumn).filter fun column =>
      frame.has column.name :=
    List.mem_filter.mpr ⟨LawfulFamily.mem_all column, List.contains_iff_mem.mpr present⟩
  have both : [.date column, .limitDate column limit] <:+: dateChecks frame bounds.since := by
    rw [limited, dateChecks, List.flatMap_def]
    exact List.infix_of_mem_flatten (List.mem_map_of_mem listed)
  have part : dateChecks frame bounds.since <:+: (infer frame bounds).checks := by
    rw [infer, List.append_assoc]
    exact List.infix_append _ _ _
  exact both.trans part

/-- The checks for least numbers are those that are asked for, and the columns call for none. -/
theorem filterMap_minimum?_infer (frame : Frame) (bounds : Bounds) :
    (infer frame bounds).checks.filterMap Check.minimum? = bounds.minimums := by
  have urls : (urlChecks frame).filterMap Check.minimum? = [] :=
    List.filterMap_eq_nil_iff.mpr fun _ listed =>
      minimum?_of_mem bounds.since (List.mem_append_left _ (List.mem_append_left _ listed))
  have dates : (dateChecks frame bounds.since).filterMap Check.minimum? = [] :=
    List.filterMap_eq_nil_iff.mpr fun _ listed =>
      minimum?_of_mem bounds.since (List.mem_append_left _ (List.mem_append_right _ listed))
  have repositories : (repositoryChecks frame).filterMap Check.minimum? = [] :=
    List.filterMap_eq_nil_iff.mpr fun _ listed =>
      minimum?_of_mem bounds.since (List.mem_append_right _ listed)
  have asked : (boundChecks bounds.minimums).filterMap Check.minimum? = bounds.minimums := by
    rw [boundChecks, List.filterMap_map]
    exact List.filterMap_some
  rw [infer, List.filterMap_append, List.filterMap_append, List.filterMap_append, urls, dates,
    repositories, asked, List.nil_append, List.nil_append, List.append_nil]

theorem derived_infer (frame : Frame) (bounds : Bounds) :
    Derived frame.names bounds (infer frame bounds).checks where
  called _ column := mem_infer_iff_calledFor column
  once _ column := count_infer_le_one column
  windows _ _ present limited := window_infix_infer present limited
  minimums := filterMap_minimum?_infer frame bounds

end Multiplicity

/-- Columns are looked at by their names. Further ones add checks between those that are there, and the
same ones in another order, or with other cells, give the same plan. -/
theorem infer_of_names {frame other : Frame} (contained : frame.names ⊆ other.names)
    (bounds : Bounds) :
    (infer frame bounds).checks.Sublist (infer other bounds).checks ∧
      (other.names ⊆ frame.names → infer other bounds = infer frame bounds) ∧
      Derived frame.names bounds (infer frame bounds).checks := by
  refine ⟨infer_sublist contained bounds, fun backwards => ?_, derived_infer frame bounds⟩
  have same := (infer_sublist backwards bounds).antisymm (infer_sublist contained bounds)
  exact congrArg Plan.mk same

/-- The addresses lack the names that go with them. -/
def namelessFrame : Frame :=
  ⟨[⟨"url", .text, []⟩, ⟨"owner", .text, []⟩, ⟨"baseRepo", .text, []⟩, ⟨"createdAt", .date, []⟩]⟩

def namedFrame : Frame :=
  ⟨[⟨"createdAt", .text, [.text "2020-01-01"]⟩, ⟨"name", .integer .signed64, [.integer 2048]⟩,
    ⟨"baseRepo", .null, [.null]⟩, ⟨"owner", .text, [.text "octo"]⟩, ⟨"url", .null, [.null]⟩]⟩

/-- The same least number of a missing column twice, and an earliest date. -/
def repeatedBounds : Bounds :=
  ⟨some ⟨0, 0⟩, [(.stars, 10), (.stars, 10)]⟩

/-- The column of the names adds a check in front and one in the middle, and the order of the columns
counts for nothing. -/
theorem infer_of_names_named :
    namelessFrame.names ⊆ namedFrame.names ∧
      (infer namelessFrame repeatedBounds).checks =
        [.date .createdAt, .limitDate .createdAt ⟨0, 0⟩, .limitNum .stars 10, .limitNum .stars 10,
          .repoNameFormat .baseRepo] ∧
      (infer namedFrame repeatedBounds).checks =
        [.urls .url, .date .createdAt, .limitDate .createdAt ⟨0, 0⟩, .limitNum .stars 10,
          .limitNum .stars 10, .repoName .baseRepo, .repoNameFormat .baseRepo] ∧
      (infer namelessFrame repeatedBounds).checks.Sublist (infer namedFrame repeatedBounds).checks ∧
      infer ⟨namedFrame.columns.reverse⟩ repeatedBounds = infer namedFrame repeatedBounds := by
  have contained : namelessFrame.names ⊆ namedFrame.names := by decide
  have forwards : namedFrame.names ⊆ (Frame.mk namedFrame.columns.reverse).names := by decide
  have backwards : (Frame.mk namedFrame.columns.reverse).names ⊆ namedFrame.names := by decide
  obtain ⟨added, -, -⟩ := infer_of_names contained repeatedBounds
  obtain ⟨-, same, -⟩ := infer_of_names forwards repeatedBounds
  exact ⟨contained, rfl, rfl, added, same backwards⟩

end Plan
end DatasetGate
