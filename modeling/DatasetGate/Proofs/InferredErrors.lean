import DatasetGate.Proofs.CheckErrors
import DatasetGate.Proofs.InferredGate
import DatasetGate.Proofs.PlanComposition

/-!
# Errors of inferred plans

The checks of an inferred plan read columns that are there, those for least numbers apart. So its run
ends in an error over what a column holds, or over a column whose least number was asked for and
which is missing.
-/

set_option autoImplicit false

namespace DatasetGate

open DatasetGate.Calendar

namespace Frame

/-- The column, if it is there, may hold text. -/
def Textual (frame : Frame) (name : String) : Prop :=
  ∀ column, frame.column? name = some column → column.type.isTextual = true

/-- Every cell of the column that holds something can be read. -/
def Readable (frame : Frame) (name : String) (readable : Cell → Bool) : Prop :=
  ∀ column, frame.column? name = some column → ∀ cell ∈ column.cells,
    cell.isNull = true ∨ readable cell = true

variable {frame : Frame}

theorem missing_eq_nil_iff {names : List String} :
    frame.missing names = [] ↔ ∀ name ∈ names, frame.has name = true := by
  simp [missing]

theorem mistyped_eq_nil_iff {name : String} :
    frame.mistyped name = [] ↔ frame.Textual name := by
  cases found : frame.column? name <;> simp [mistyped, Textual, found]

theorem unreadable_eq_nil_iff {name : String} {readable : Cell → Bool}
    {toError : Nat → String → CheckError} :
    frame.unreadable name readable toError = [] ↔ frame.Readable name readable := by
  cases found : frame.column? name with
  | none => simp [unreadable, Readable, found]
  | some column =>
      simp only [unreadable, Readable, found, List.map_eq_nil_iff, List.filter_eq_nil_iff,
        Option.some.injEq, forall_eq']
      constructor
      · intro read cell member
        obtain ⟨row, bound, rfl⟩ := List.getElem_of_mem member
        have own := read (column.cells[row], row) (List.mk_mem_zipIdx_iff_getElem?.mpr
          (List.getElem?_eq_getElem bound))
        simpa [or_iff_not_imp_left] using own
      · intro read entry member
        have own := read entry.1 (List.fst_mem_of_mem_zipIdx member)
        simpa [or_iff_not_imp_left] using own

theorem Readable.not_firstUnreadable {name : String} {readable : Cell → Bool} {row : Nat}
    {cell : Cell} (all : frame.Readable name readable)
    (first : frame.FirstUnreadable name readable row cell) : False := by
  obtain ⟨column, found, here⟩ := Option.bind_eq_some_iff.mp first.here
  rcases all column found cell (List.mem_of_getElem? here) with null | read
  · simp [first.held] at null
  · simp [first.unread] at read

theorem head?_mistyped_iff {name : String} {error : CheckError} :
    (frame.mistyped name).head? = some error ↔
      ∃ column, frame.column? name = some column ∧ column.type.isTextual = false ∧
        error = .notText name column.type := by
  cases found : frame.column? name with
  | none => simp [mistyped, found]
  | some column =>
      cases textual : column.type.isTextual with
      | true => simp [mistyped, found, textual]
      | false => simp [mistyped, found, textual, @eq_comm _ _ error]

end Frame

/-- Every column that a least number was asked for is there. -/
def Bounds.Present (bounds : Bounds) (frame : Frame) : Prop :=
  ∀ entry ∈ bounds.minimums, frame.has entry.1.name = true

/-- The columns hold what the checks of the inferred plan can judge. Dates need only be instants
where an earliest one was asked for. -/
structure Frame.Suits (frame : Frame) (bounds : Bounds) : Prop where
  addresses : ∀ column : UrlColumn, .urls column ∈ (Plan.infer frame bounds).checks →
    frame.Textual column.name
  repositories : ∀ column : RepoColumn, .repoName column ∈ (Plan.infer frame bounds).checks ∨
    .repoNameFormat column ∈ (Plan.infer frame bounds).checks → frame.Textual column.name
  dates : bounds.since.isSome = true → ∀ column : DateColumn,
    frame.Readable column.name Cell.isInstant
  numbers : ∀ entry ∈ bounds.minimums, frame.Readable entry.1.name Cell.isNumeric

/-- Errors over what the columns of a frame hold, with the checks of the inferred plan that meet
them. -/
inductive Frame.ContentError (frame : Frame) (bounds : Bounds) : CheckError → Prop where
  | notText {check : Check} {column : Column}
      (listed : check ∈ (Plan.infer frame bounds).checks) (text : check.needsText = true)
      (found : frame.column? check.column = some column)
      (other : column.type.isTextual = false) :
      ContentError frame bounds (.notText check.column column.type)
  | notDate {column : DateColumn} {row : Nat} {cell : Cell} (since : bounds.since.isSome = true)
      (first : frame.FirstUnreadable column.name Cell.isInstant row cell) :
      ContentError frame bounds (.notDate column.name row cell.display)
  | notNumeric {entry : NumericColumn × Int} {row : Nat} {cell : Cell}
      (asked : entry ∈ bounds.minimums)
      (first : frame.FirstUnreadable entry.1.name Cell.isNumeric row cell) :
      ContentError frame bounds (.notNumeric entry.1.name row cell.display)

/-- What suitable columns hold is no error. -/
theorem Frame.Suits.not_contentError {frame : Frame} {bounds : Bounds} (suits : frame.Suits bounds)
    {error : CheckError} (content : frame.ContentError bounds error) : False := by
  cases content with
  | @notText check column listed text found other =>
      have textual : frame.Textual check.column := by
        cases check with
        | urls column => exact suits.addresses column listed
        | repoName column => exact suits.repositories column (.inl listed)
        | repoNameFormat column => exact suits.repositories column (.inr listed)
        | _ => simp [Check.needsText] at text
      simp [textual column found] at other
  | @notDate column row cell since first =>
      exact (suits.dates since column).not_firstUnreadable first
  | @notNumeric entry row cell asked first =>
      exact (suits.numbers entry asked).not_firstUnreadable first

namespace Plan

variable {frame : Frame} {bounds : Bounds}

/-- What a check of an inferred plan reads is there, unless it is for a least number. It refuses no
column. -/
theorem columns_present_of_mem_infer {check : Check}
    (listed : check ∈ (infer frame bounds).checks) :
    check.refusals = [] ∧ frame.missing check.pairedColumns = [] ∧
      ((∃ entry ∈ bounds.minimums, check = .limitNum entry.1 entry.2) ∨
        frame.missing [check.column] = []) := by
  simp only [Frame.missing_eq_nil_iff, List.forall_mem_singleton]
  rcases mem_infer.mp listed with ⟨column, rfl, present, owner, name⟩ | ⟨column, rfl, present⟩ |
    ⟨column, limit, rfl, -, present⟩ | ⟨entry, asked, rfl⟩ | ⟨column, rfl, present⟩ |
    ⟨rfl, present, owner, name⟩
  · refine ⟨rfl, ?_, .inr present⟩
    cases column <;> simpa [Check.pairedColumns] using ⟨owner, name⟩
  · exact ⟨rfl, by simp [Check.pairedColumns], .inr present⟩
  · exact ⟨rfl, by simp [Check.pairedColumns], .inr present⟩
  · exact ⟨rfl, by simp [Check.pairedColumns], .inl ⟨entry, asked, rfl⟩⟩
  · exact ⟨rfl, by simp [Check.pairedColumns], .inr present⟩
  · exact ⟨rfl, by simpa [Check.pairedColumns] using ⟨owner, name⟩, .inr present⟩

/-- A check of an inferred plan meets no defect of the frame but these. -/
theorem defects_of_mem_infer {check : Check} (listed : check ∈ (infer frame bounds).checks) :
    check.defects frame = frame.missing [check.column] ++
      (if check.needsText then frame.mistyped check.column else []) ++
        check.unreadableCells frame := by
  obtain ⟨refusals, paired, -⟩ := columns_present_of_mem_infer listed
  rw [Check.defects, refusals, paired, List.nil_append, List.append_nil]

theorem error_of_mem_infer {check : Check} (listed : check ∈ (infer frame bounds).checks)
    {error : CheckError} (first : (check.defects frame).head? = some error) :
    frame.ContentError bounds error ∨
      ∃ entry ∈ bounds.minimums, error = .columnNotFound entry.1.name ∧
        frame.has entry.1.name = false := by
  rw [defects_of_mem_infer listed] at first
  obtain ⟨-, -, ⟨entry, asked, rfl⟩ | present⟩ := columns_present_of_mem_infer listed
  · cases found : frame.has entry.1.name with
    | true =>
        have present : frame.missing [entry.1.name] = [] := by
          simpa [Frame.missing_eq_nil_iff] using found
        simp only [Check.column, present, Check.needsText, Check.unreadableCells, List.nil_append,
          Bool.false_eq_true, if_false, Frame.head?_unreadable_iff] at first
        obtain ⟨row, cell, met, rfl⟩ := first
        exact .inl (.notNumeric asked met)
    | false =>
        simp only [Check.column, Frame.missing, found, List.filter_cons, Bool.not_false, if_true,
          List.map_cons, List.cons_append, List.head?_cons, Option.some.injEq] at first
        exact .inr ⟨entry, asked, first.symm, found⟩
  · rw [present, List.nil_append] at first
    cases text : check.needsText with
    | true =>
        have cells : check.unreadableCells frame = [] := by
          cases check <;> first | rfl | simp [Check.needsText] at text
        rw [text, if_pos rfl, cells, List.append_nil, Frame.head?_mistyped_iff] at first
        obtain ⟨column, found, other, rfl⟩ := first
        exact .inl (.notText listed text found other)
    | false =>
        rw [text, if_neg Bool.false_ne_true, List.nil_append] at first
        rcases mem_infer.mp listed with ⟨column, rfl, -⟩ | ⟨column, rfl, -⟩ |
          ⟨column, limit, rfl, since, -⟩ | ⟨entry, asked, rfl⟩ | ⟨column, rfl, -⟩ | ⟨rfl, -⟩
        · simp [Check.needsText] at text
        · simp [Check.unreadableCells] at first
        · obtain ⟨row, cell, met, rfl⟩ := frame.head?_unreadable_iff.mp first
          exact .inl (.notDate (by rw [since]; rfl) met)
        · obtain ⟨row, cell, met, rfl⟩ := frame.head?_unreadable_iff.mp first
          exact .inl (.notNumeric asked met)
        · simp [Check.needsText] at text
        · simp [Check.needsText] at text

/-- The checks of an inferred plan meet no defect exactly when every column with a least number is
there and the columns suit. -/
theorem defects_infer_eq_nil_iff :
    (∀ check ∈ (infer frame bounds).checks, check.defects frame = []) ↔
      bounds.Present frame ∧ frame.Suits bounds := by
  constructor
  · intro clean
    have parts : ∀ check ∈ (infer frame bounds).checks, (frame.missing [check.column] = [] ∧
        (if check.needsText then frame.mistyped check.column else []) = []) ∧
          check.unreadableCells frame = [] := by
      intro check listed
      have own := clean check listed
      rwa [defects_of_mem_infer listed, List.append_eq_nil_iff, List.append_eq_nil_iff] at own
    have bound (entry : NumericColumn × Int) (asked : entry ∈ bounds.minimums) :=
      parts _ (mem_infer.mpr (.inr (.inr (.inr (.inl ⟨entry, asked, rfl⟩)))))
    refine ⟨fun entry asked => ?_, ⟨fun column listed => ?_, fun column listed => ?_,
      fun since column => ?_, fun entry asked => ?_⟩⟩
    · exact Frame.missing_eq_nil_iff.mp (bound entry asked).1.1 _ List.mem_cons_self
    · exact Frame.mistyped_eq_nil_iff.mp (parts _ listed).1.2
    · rcases listed with listed | listed
      · exact Frame.mistyped_eq_nil_iff.mp (parts _ listed).1.2
      · exact Frame.mistyped_eq_nil_iff.mp (parts _ listed).1.2
    · intro found here
      obtain ⟨limit, since⟩ := Option.isSome_iff_exists.mp since
      have listed : .limitDate column limit ∈ (infer frame bounds).checks :=
        mem_infer.mpr (.inr (.inr (.inl
          ⟨column, limit, rfl, since, Frame.has_iff_column?.mpr ⟨found, here⟩⟩)))
      exact Frame.unreadable_eq_nil_iff.mp (parts _ listed).2 found here
    · exact Frame.unreadable_eq_nil_iff.mp (bound entry asked).2
  · rintro ⟨present, suits⟩ check listed
    rw [← List.head?_eq_none_iff, Option.eq_none_iff_forall_ne_some]
    intro error first
    rcases error_of_mem_infer listed first with content | ⟨entry, asked, -, absent⟩
    · exact suits.not_contentError content
    · simp [present entry asked] at absent

/-- A run of an inferred plan never meets a column that a check refuses, and misses a column only if
a least number was asked for it. Where no such column is missing, its errors are over what columns
hold. It ends without an error exactly when, moreover, the columns suit, and then it has one result
for each check. -/
theorem run_infer_errors (frame : Frame) (bounds : Bounds) (now : Instant) :
    (∀ refusal,
      ((infer frame bounds).run frame now).result ≠ .error (.invalidSelector refusal)) ∧
    (∀ name, ((infer frame bounds).run frame now).result = .error (.columnNotFound name) →
      ∃ entry ∈ bounds.minimums, entry.1.name = name ∧ frame.has name = false) ∧
    (bounds.Present frame →
      ∀ error, ((infer frame bounds).run frame now).result = .error error →
        frame.ContentError bounds error) ∧
    ((∃ result, ((infer frame bounds).run frame now).result = .ok result) ↔
      bounds.Present frame ∧ frame.Suits bounds) ∧
    ∀ result, ((infer frame bounds).run frame now).result = .ok result →
      result.results.map Prod.fst = (infer frame bounds).checks := by
  have origin (error : CheckError)
      (failed : ((infer frame bounds).run frame now).result = .error error) :
      frame.ContentError bounds error ∨
        ∃ entry ∈ bounds.minimums, error = .columnNotFound entry.1.name ∧
          frame.has entry.1.name = false := by
    obtain ⟨earlier, check, later, split, -, met⟩ := run_result_eq_error_iff.mp failed
    have listed : check ∈ (infer frame bounds).checks := by simp [split]
    refine error_of_mem_infer listed ?_
    rw [← Check.errorOf_judge frame now, errorOf_eq_some_iff, met]
  refine ⟨?_, ?_, ?_, ?_, fun result finished => (run_result_eq_ok_iff.mp finished).1⟩
  · intro refusal failed
    rcases origin _ failed with content | ⟨entry, -, other, -⟩
    · cases content
    · cases other
  · intro name failed
    rcases origin _ failed with content | ⟨entry, asked, same, absent⟩
    · cases content
    · cases same
      exact ⟨entry, asked, rfl, absent⟩
  · intro present error failed
    rcases origin error failed with content | ⟨entry, asked, -, absent⟩
    · exact content
    · simp [present entry asked] at absent
  · rw [exists_result_iff, ← defects_infer_eq_nil_iff]
    exact forall₂_congr fun check _ => Check.exists_judged_iff

theorem infer_undatedFrame : (infer Check.undatedFrame .none).checks = [.date .createdAt] := rfl

theorem undatedFrame_suits : Check.undatedFrame.Suits .none where
  addresses column listed := by simp [infer_undatedFrame] at listed
  repositories column listed := by simp [infer_undatedFrame] at listed
  dates since := by simp [Bounds.none] at since
  numbers := by simp [Bounds.none]

/-- Dates that are no instants are an error where an earliest one was asked for, and none else. -/
theorem run_infer_errors_undated :
    Check.undatedFrame.ContentError ⟨some ⟨0, 0⟩, []⟩ (.notDate "createdAt" 2 "soon") ∧
    (∃ entry ∈ [(NumericColumn.stars, (5 : Int))], entry.1.name = "stars" ∧
      Check.undatedFrame.has "stars" = false) ∧
    ∃ result,
      ((infer Check.undatedFrame .none).run Check.undatedFrame ⟨0, 0⟩).result = .ok result := by
  have since := run_infer_errors Check.undatedFrame ⟨some ⟨0, 0⟩, []⟩ ⟨0, 0⟩
  have least := run_infer_errors Check.undatedFrame ⟨none, [(.stars, 5)]⟩ ⟨0, 0⟩
  have plain := run_infer_errors Check.undatedFrame .none ⟨0, 0⟩
  refine ⟨since.2.2.1 (by simp [Bounds.Present]) _ ?_, least.2.1 "stars" ?_, ?_⟩
  · rw [← errorOf_eq_some_iff]
    decide
  · rw [← errorOf_eq_some_iff]
    decide
  · exact plain.2.2.2.1.mpr ⟨by simp [Bounds.Present, Bounds.none], undatedFrame_suits⟩

end Plan
end DatasetGate
