import DatasetGate.Proofs.Calendar.Forms
import DatasetGate.Proofs.CheckErrors
import DatasetGate.Proofs.Judgements

/-!
# The notation of dates in a column

The window of dates is judged on a column of text only if every text in it is a timestamp; the first
one that is none ends the check. The notation is wider than that of timestamps in full width.
-/

set_option autoImplicit false

namespace DatasetGate

open DatasetGate.Text DatasetGate.Calendar

/-- A cell of a column of text. -/
def Cell.IsText (cell : Cell) : Prop :=
  cell = .null ∨ ∃ text, cell = .text text

/-- A text that is no timestamp, blanks around it aside. -/
def Undated (text : String) : Prop :=
  ∀ instant, ¬ TimestampText (trim text.toList) instant

theorem undated_iff {text : String} : Undated text ↔ parseTimestamp? text = none := by
  rw [Option.eq_none_iff_forall_ne_some]
  simp only [Undated, ← parseTimestamp?_eq_some_iff, ne_eq]

theorem Cell.isNull_iff {cell : Cell} : cell.isNull = true ↔ cell = .null := by
  cases cell <;> simp [Cell.isNull]

theorem Cell.isInstant_text {text : String} :
    (Cell.text text).isInstant = false ↔ parseTimestamp? text = none := by
  have reads : (Cell.text text).isInstant = (parseTimestamp? text).isSome := rfl
  rw [reads, Option.isSome_eq_false_iff, Option.isNone_iff_eq_none]

/-- The first row of a column of text that holds no timestamp. -/
structure FirstUndated (cells : List Cell) (row : Nat) (text : String) : Prop where
  here : cells[row]? = some (.text text)
  undated : Undated text
  first : ∀ earlier < row, ∀ other, cells[earlier]? = some (.text other) → ¬ Undated other

namespace Check

theorem judgeWindow_eq_failed_iff {frame : Frame} {now limit : Instant} {column : DateColumn}
    {error : CheckError} :
    judgeWindow frame now limit column = .failed [] error ↔
      readInstants frame column = .error error := by
  rw [judgeWindow]
  cases readInstants frame column with
  | error found => simp [Verdict.failed]
  | ok instants => simp [Verdict.failed, Verdict.ofOutcomes]

section Column

variable {frame : Frame} {column : DateColumn} {target : Column}
  (found : frame.column? column.name = some target)

include found

/-- With the column at hand, only a cell that shows no instant can end the reading. -/
theorem readInstants_ok_or_notDate :
    (∃ instants, readInstants frame column = .ok instants) ∨
      ∃ row text, readInstants frame column = .error (.notDate column.name row text) := by
  rw [readInstants]
  simp only [Frame.column_eq_ok_iff.mpr found]
  cases readCells (fun cell => parseTimestamp? cell.display) 0 target.cells with
  | ok instants => exact .inl ⟨instants, rfl⟩
  | error failure => exact .inr ⟨failure.1, failure.2.display, rfl⟩

/-- The window of dates is not judged just when a cell holds something that shows no instant. -/
theorem exists_notDate_iff {now limit : Instant} :
    (∃ row text, judgeWindow frame now limit column =
        .failed [] (.notDate column.name row text)) ↔
      ∃ cell ∈ target.cells, cell ≠ .null ∧ parseTimestamp? cell.display = none := by
  simp only [judgeWindow_eq_failed_iff]
  constructor
  · intro failing
    obtain ⟨row, text, refused⟩ := failing
    by_contra unread
    have shown : ∀ cell ∈ target.cells,
        cell.isNull = true ∨ (parseTimestamp? cell.display).isSome = true := by
      intro cell member
      by_cases null : cell = .null
      · exact .inl (null ▸ rfl)
      · refine .inr (Option.isSome_iff_ne_none.mpr ?_)
        intro nothing
        exact unread ⟨cell, member, null, nothing⟩
    rw [readInstants_eq_ok_iff.mpr ⟨target, found, shown, rfl⟩] at refused
    cases refused
  · intro unread
    obtain ⟨cell, member, held, nothing⟩ := unread
    cases readInstants_ok_or_notDate found with
    | inr refused => exact refused
    | inl read =>
        obtain ⟨instants, read⟩ := read
        obtain ⟨own, same, shown, -⟩ := readInstants_eq_ok_iff.mp read
        rw [found] at same
        cases same
        cases shown cell member with
        | inl null => exact absurd (Cell.isNull_iff.mp null) held
        | inr dated =>
            rw [nothing] at dated
            cases dated

variable (textual : ∀ cell ∈ target.cells, cell.IsText)

include textual

theorem readInstants_eq_notDate_iff {row : Nat} {text : String} :
    readInstants frame column = .error (.notDate column.name row text) ↔
      FirstUndated target.cells row text := by
  rw [← errorOf_eq_some_iff, errorOf_readInstants, missing_append_head?_iff (by simp) (by simp)]
  constructor
  · intro failing
    obtain ⟨cell, first, shown⟩ := failing
    have here := first.here
    rw [Frame.cellAt?_of_column? found] at here
    cases textual cell (List.mem_of_getElem? here) with
    | inl null =>
        have held := first.held
        rw [null] at held
        cases held
    | inr holds =>
        obtain ⟨own, rfl⟩ := holds
        have own_text : text = own := shown
        subst own_text
        refine ⟨here, undated_iff.mpr (Cell.isInstant_text.mp first.unread), ?_⟩
        intro earlier less other entry undated
        rw [← Frame.cellAt?_of_column? found] at entry
        cases first.first earlier less _ entry with
        | inl null => cases null
        | inr read =>
            rw [Cell.isInstant_text.mpr (undated_iff.mp undated)] at read
            cases read
  · intro first
    have unread : (Cell.text text).isInstant = false :=
      Cell.isInstant_text.mpr (undated_iff.mp first.undated)
    refine ⟨.text text, ⟨?_, rfl, unread, ?_⟩, rfl⟩
    · rw [Frame.cellAt?_of_column? found, first.here]
    · intro earlier less other entry
      rw [Frame.cellAt?_of_column? found] at entry
      cases textual other (List.mem_of_getElem? entry) with
      | inl null => exact .inl (null ▸ rfl)
      | inr holds =>
          obtain ⟨own, rfl⟩ := holds
          have dated := first.first earlier less own entry
          rw [undated_iff, ← Cell.isInstant_text, Bool.not_eq_false] at dated
          exact .inr dated

/-- A text is read as an instant just when it is a timestamp, in full width or in a looser form. A
column of text ends the window check just when one of its texts is none, and at the first one. -/
theorem judgeWindow_notation (now limit : Instant) :
    (∀ text instant, parseTimestamp? text = some instant ↔
      TimestampText (trim text.toList) instant) ∧
    (∀ cs instant, FullTimestamp cs instant → TimestampText cs instant) ∧
    (∀ row text, judgeWindow frame now limit column = .failed [] (.notDate column.name row text) ↔
      FirstUndated target.cells row text) ∧
    ((∃ row text, judgeWindow frame now limit column =
        .failed [] (.notDate column.name row text)) ↔
      ∃ text, .text text ∈ target.cells ∧ Undated text) := by
  refine ⟨?_, ?_, ?_, ?_⟩
  · intro text instant
    exact parseTimestamp?_eq_some_iff
  · intro cs instant full
    exact full.timestampText
  · intro row text
    rw [judgeWindow_eq_failed_iff, readInstants_eq_notDate_iff found textual]
  · rw [exists_notDate_iff found]
    constructor
    · intro unread
      obtain ⟨cell, member, held, nothing⟩ := unread
      cases textual cell member with
      | inl null => exact absurd null held
      | inr holds =>
          obtain ⟨text, rfl⟩ := holds
          exact ⟨text, member, undated_iff.mpr nothing⟩
    · intro holds
      obtain ⟨text, member, undated⟩ := holds
      exact ⟨.text text, member, Cell.noConfusion, undated_iff.mp undated⟩

end Column

/-- A date with short fields beside one in another order. -/
def shortDates : Column where
  name := "createdAt"
  type := .text
  cells := [.null, .text " 2021-3-4", .text "03/04/2021", .text "soon"]

/-- The short date is no obstacle, though it is in none of the forms in full width. -/
theorem judgeWindow_notation_shortDates :
    (∀ cell ∈ shortDates.cells, cell.IsText) ∧
      TimestampText "2021-3-4".toList ⟨1614816000, 0⟩ ∧
      (∀ instant, ¬ FullTimestamp "2021-3-4".toList instant) ∧
      FirstUndated shortDates.cells 2 "03/04/2021" ∧
      judgeWindow ⟨[shortDates]⟩ ⟨1700000000, 0⟩ ⟨0, 0⟩ .createdAt =
        .failed [] (.notDate "createdAt" 2 "03/04/2021") := by
  have textual : ∀ cell ∈ shortDates.cells, cell.IsText := by
    intro cell member
    simp only [shortDates, List.mem_cons, List.not_mem_nil, or_false] at member
    rcases member with rfl | rfl | rfl | rfl
    · exact .inl rfl
    · exact .inr ⟨_, rfl⟩
    · exact .inr ⟨_, rfl⟩
    · exact .inr ⟨_, rfl⟩
  have found : (Frame.mk [shortDates]).column? DateColumn.createdAt.name = some shortDates := rfl
  obtain ⟨reads, -, ends, -⟩ := judgeWindow_notation found textual ⟨1700000000, 0⟩ ⟨0, 0⟩
  have short : TimestampText "2021-3-4".toList ⟨1614816000, 0⟩ :=
    (reads " 2021-3-4" ⟨1614816000, 0⟩).mp (by decide)
  have refused : judgeWindow ⟨[shortDates]⟩ ⟨1700000000, 0⟩ ⟨0, 0⟩ .createdAt =
      .failed [] (.notDate "createdAt" 2 "03/04/2021") := by
    rw [judgeWindow_eq_failed_iff]
    decide
  refine ⟨textual, short, ?_, (ends 2 "03/04/2021").mp refused, refused⟩
  intro instant full
  exact absurd full.ten_le_length (by decide)

end Check
end DatasetGate
