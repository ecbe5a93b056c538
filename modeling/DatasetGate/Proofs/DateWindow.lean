import DatasetGate.Proofs.Calendar.Chronology
import DatasetGate.Proofs.Judgements

/-!
# The window of dates

On a column of canonical timestamps the window of dates is an interval of texts. The rows before it
and the rows behind it are found by comparing texts, and only a null row lies on both sides of it.
-/

set_option autoImplicit false

namespace DatasetGate

open DatasetGate.Calendar

namespace Cell

/-- A null, or text that is a canonical timestamp. -/
def IsCanonical (cell : Cell) : Prop :=
  cell = .null ∨ ∃ text, cell = .text text ∧ Canonical text

end Cell

namespace Check

variable {cells : List Cell} (canonical : ∀ cell ∈ cells, cell.IsCanonical)

include canonical

theorem readCells_instants : readCells (fun cell => parseTimestamp? cell.display) 0 cells =
    .ok (cells.map Cell.instant?) := by
  apply readCells_eq_ok_iff.mpr ⟨?_, rfl⟩
  intro cell member
  rcases canonical cell member with rfl | ⟨text, rfl, shown⟩
  · exact .inl rfl
  · obtain ⟨-, instant, read⟩ := canonical_iff.mp shown
    exact .inr (Option.isSome_iff_exists.mpr ⟨instant, read⟩)

/-- The rows that fail a comparison of instants are found by the comparison of texts. -/
theorem mem_failingRows_instants {accepts : Instant → Bool} {outside : String → Prop}
    (compared : ∀ text instant, HasForm text → parseTimestamp? text = some instant →
      (accepts instant = false ↔ outside text)) {row : Nat} :
    row ∈ failingRows (fun _ instant => accepts instant) (cells.map Cell.instant?) ↔
      cells[row]? = some .null ∨ ∃ text, cells[row]? = some (.text text) ∧ outside text := by
  rw [mem_failingRows_iff, List.length_map, acceptsRow, List.getElem?_map]
  cases entry : cells[row]? with
  | none =>
      have beyond : ¬ row < cells.length := by simpa using entry
      simp [beyond]
  | some cell =>
      obtain ⟨bound, rfl⟩ := List.getElem?_eq_some_iff.mp entry
      rcases canonical _ (List.getElem_mem bound) with null | ⟨text, shown, timestamp⟩
      · simp [bound, null, Cell.instant?, Cell.isNull]
      · obtain ⟨form, instant, read⟩ := canonical_iff.mp timestamp
        have held : Cell.instant? cells[row] = some instant := by
          rw [shown]
          exact read
        rw [Option.map_some, held, shown]
        simp [bound, compared text instant form read]

end Check

namespace Check

variable {frame : Frame} {column : DateColumn} {target : Column} {limitText nowText : String}
  {limit now : Instant}

/-- Both ends of the window belong to it. The outcomes list, in order, the rows whose text is smaller
than that of the limit and the rows whose text is greater than that of the present, and in both the
null rows. -/
theorem judgeWindow_canonical (found : frame.column? column.name = some target)
    (canonical : ∀ cell ∈ target.cells, cell.IsCanonical)
    (limitForm : HasForm limitText) (limitRead : parseTimestamp? limitText = some limit)
    (nowForm : HasForm nowText) (nowRead : parseTimestamp? nowText = some now) :
    ∃ early late : List Nat,
      judgeWindow frame now limit column = .ofOutcomes
        [.ofRows .lowerBound column.name ("Records appear after " ++ limit.display) early,
         .ofRows .upperBound column.name ("Records appear before " ++ now.display) late] ∧
      early.Pairwise (· < ·) ∧ late.Pairwise (· < ·) ∧
      (∀ row, row ∈ early ↔ target.cells[row]? = some .null ∨
        ∃ text, target.cells[row]? = some (.text text) ∧ text < limitText) ∧
      (∀ row, row ∈ late ↔ target.cells[row]? = some .null ∨
        ∃ text, target.cells[row]? = some (.text text) ∧ nowText < text) ∧
      (limit.AtMost now →
        ∀ row, row ∈ early ∧ row ∈ late ↔ target.cells[row]? = some .null) := by
  have read : readInstants frame column = .ok (target.cells.map Cell.instant?) := by
    simp only [readInstants, Frame.column_eq_ok_iff.mpr found, readCells_instants canonical]
  have below (text : String) (instant : Instant) (form : HasForm text)
      (shown : parseTimestamp? text = some instant) :
      decide (limit.AtMost instant) = false ↔ text < limitText := by
    rw [decide_eq_false_iff_not, atMost_iff_le limitForm limitRead form shown, not_le]
  have above (text : String) (instant : Instant) (form : HasForm text)
      (shown : parseTimestamp? text = some instant) :
      decide (instant.AtMost now) = false ↔ nowText < text := by
    rw [decide_eq_false_iff_not, atMost_iff_le form shown nowForm nowRead, not_le]
  have early (row : Nat) := @mem_failingRows_instants _ canonical _ _ below row
  have late (row : Nat) := @mem_failingRows_instants _ canonical _ _ above row
  refine ⟨_, _, by simp only [judgeWindow, read], failingRows_pairwise_lt _ _,
    failingRows_pairwise_lt _ _, early, late, ?_⟩
  intro ordered row
  rw [atMost_iff_le limitForm limitRead nowForm nowRead] at ordered
  rw [early, late]
  constructor
  · intro outside
    rcases outside with ⟨null | ⟨text, shown, before⟩, other⟩
    · exact null
    · rcases other with null | ⟨text', shown', behind⟩
      · exact null
      · rw [shown] at shown'
        cases shown'
        exact absurd (before.trans_le ordered) behind.not_gt
  · intro null
    exact ⟨.inl null, .inl null⟩

/-- Three successive seconds at the end of a year that ends with a leap second. -/
def newYear : Column where
  name := "createdAt"
  type := .text
  cells := [.null, .text "2016-12-31T23:59:59Z", .text "2016-12-31T23:59:60Z",
    .text "2017-01-01T00:00:00Z"]

/-- The window of the leap second alone. -/
theorem judgeWindow_canonical_newYear :
    (∀ cell ∈ newYear.cells, cell.IsCanonical) ∧ HasForm "2016-12-31T23:59:60Z" ∧
      parseTimestamp? "2016-12-31T23:59:60Z" = some ⟨1483228799, 1000000000⟩ ∧
      ∃ early late : List Nat,
        judgeWindow ⟨[newYear]⟩ ⟨1483228799, 1000000000⟩ ⟨1483228799, 1000000000⟩ .createdAt =
          .ofOutcomes
            [.ofRows .lowerBound "createdAt" "Records appear after 2016-12-31 23:59:60 UTC" early,
             .ofRows .upperBound "createdAt" "Records appear before 2016-12-31 23:59:60 UTC" late] ∧
        early = [0, 1] ∧ late = [0, 3] := by
  have timestamps : ∀ cell ∈ newYear.cells, cell.IsCanonical := by
    intro cell member
    simp only [newYear, List.mem_cons, List.not_mem_nil, or_false] at member
    rcases member with rfl | rfl | rfl | rfl
    · exact .inl rfl
    · exact .inr ⟨_, rfl, canonical_iff.mpr ⟨by decide, ⟨1483228799, 0⟩, by decide⟩⟩
    · exact .inr ⟨_, rfl, canonical_iff.mpr ⟨by decide, ⟨1483228799, 1000000000⟩, by decide⟩⟩
    · exact .inr ⟨_, rfl, canonical_iff.mpr ⟨by decide, ⟨1483228800, 0⟩, by decide⟩⟩
  have form : HasForm "2016-12-31T23:59:60Z" := by decide
  have read : parseTimestamp? "2016-12-31T23:59:60Z" = some ⟨1483228799, 1000000000⟩ := by decide
  have found : (Frame.mk [newYear]).column? DateColumn.createdAt.name = some newYear := rfl
  obtain ⟨early, late, judged, -⟩ := judgeWindow_canonical found timestamps form read form read
  have computed : (judgeWindow ⟨[newYear]⟩ ⟨1483228799, 1000000000⟩ ⟨1483228799, 1000000000⟩
      .createdAt).outcomes.map Outcome.failedRows = [[0, 1], [0, 3]] := by
    decide +kernel
  rw [judged] at computed
  simp only [Verdict.ofOutcomes, Outcome.ofRows, List.map_cons, List.map_nil, List.cons.injEq,
    and_true] at computed
  refine ⟨timestamps, form, read, early, late, ?_, computed⟩
  rw [judged]
  rfl

end Check
end DatasetGate
