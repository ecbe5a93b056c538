import DatasetGate.Proofs.Calendar.Displays
import DatasetGate.Proofs.Judgements

/-!
# Columns of dates and of timestamps

A date is a count of days and a timestamp a count of ticks. The window of dates reads the text of such
a cell, and what it reads is the instant of the count: before the year zero and after the year 9999,
and before 1970 too. So it judges these columns by their counts.
-/

set_option autoImplicit false

namespace DatasetGate

open DatasetGate.Calendar

/-- The instant that lies so many nanoseconds after 1970-01-01T00:00:00. -/
def Calendar.Instant.ofNanos (count : Int) : Instant :=
  ⟨count / 1000000000, (count % 1000000000).toNat⟩

/-- The nanoseconds from one tick to the next. -/
def TimeUnit.nanos : TimeUnit → Int
  | .milliseconds => 1000000
  | .microseconds => 1000
  | .nanoseconds => 1

/-- The nanoseconds from 1970-01-01T00:00:00 to what a cell of a date or timestamp column holds. -/
def Cell.sinceEpoch? : Cell → Option Int
  | .date days => some (days * 86400000000000)
  | .timestamp unit ticks => some (ticks * unit.nanos)
  | _ => none

namespace Calendar.Instant

/-- Instants outside leap seconds are ordered as their counts of nanoseconds. -/
theorem atMost_ofNanos {count count' : Int} :
    (ofNanos count).AtMost (ofNanos count') ↔ count ≤ count' := by
  simp only [AtMost, ofNanos]
  omega

theorem wellFormed_ofNanos (count : Int) : (ofNanos count).WellFormed := by
  constructor
  · simp only [ofNanos, nanosPerSecond]
    omega
  · simp only [ofNanos, nanosPerSecond]
    omega

end Calendar.Instant

namespace Cell

theorem instantOfTicks_eq (unit : TimeUnit) (ticks : Int) :
    instantOfTicks unit ticks = .ofNanos (ticks * unit.nanos) := by
  cases unit
  all_goals simp only [instantOfTicks, Instant.ofNanos, TimeUnit.perSecond, TimeUnit.nanos,
    nanosPerSecond, Instant.mk.injEq]
  all_goals omega

/-- The year of what a cell holds is one that dates can have. -/
def InCalendar (cell : Cell) : Prop :=
  ∀ count, cell.sinceEpoch? = some count →
    Date.minYear ≤ (Instant.ofNanos count).date.year ∧
      (Instant.ofNanos count).date.year ≤ Date.maxYear

/-- The text of a date or a timestamp is read as the instant of its count. -/
theorem parseTimestamp?_display {cell : Cell} (dated : cell.InCalendar) {count : Int}
    (counted : cell.sinceEpoch? = some count) :
    parseTimestamp? cell.display = some (.ofNanos count) := by
  obtain ⟨low, high⟩ := dated count counted
  have valid : (Instant.ofNanos count).date.Valid := ⟨low, high, Date.ofDays_calendar _⟩
  cases cell with
  | date days =>
      cases counted
      -- A date is shown without a time, which is read as its midnight.
      have midnight : (Instant.ofNanos (days * 86400000000000)).date = .ofDays days := by
        simp only [Instant.ofNanos, Instant.date, secondsPerDay]
        congr 1
        omega
      rw [midnight] at valid
      rw [display, parseTimestamp?_text valid]
      simp only [Instant.ofCivil, Date.toDays_ofDays, Instant.ofNanos, secondsPerDay, Option.some_inj,
        Instant.mk.injEq]
      constructor
      · omega
      · omega
  | timestamp unit ticks =>
      cases counted
      rw [display, instantOfTicks_eq]
      have formed := Instant.wellFormed_ofNanos (ticks * unit.nanos)
      rw [parseTimestamp?_spaced formed.time_inRange valid, formed.ofCivil_eq]
  | _ => cases counted

theorem instant?_of_sinceEpoch? {cell : Cell} (dated : cell.InCalendar) {count : Int}
    (counted : cell.sinceEpoch? = some count) : cell.instant? = some (.ofNanos count) := by
  cases null : cell.isNull with
  | true =>
      cases cell with
      | null => cases counted
      | _ => cases null
  | false => rw [instant?, null, if_neg Bool.false_ne_true, parseTimestamp?_display dated counted]

theorem exists_sinceEpoch? {type : ColumnType}
    (typed : type = .date ∨ ∃ unit, type = .timestamp unit) {cell : Cell} (held : type.Holds cell) :
    cell = .null ∨ ∃ count, cell.sinceEpoch? = some count := by
  rcases typed with rfl | ⟨unit, rfl⟩
  · cases cell with
    | null => exact .inl rfl
    | date days => exact .inr ⟨_, rfl⟩
    | _ => cases held
  · cases cell with
    | null => exact .inl rfl
    | timestamp unit ticks => exact .inr ⟨_, rfl⟩
    | _ => cases held

end Cell

namespace Check

section Rows

variable {cells : List Cell}
  (counted : ∀ cell ∈ cells, cell = .null ∨ ∃ count, cell.sinceEpoch? = some count)
  (dated : ∀ cell ∈ cells, cell.InCalendar)

include counted dated

theorem isInstant_of_counted {cell : Cell} (member : cell ∈ cells) :
    cell.isNull = true ∨ (parseTimestamp? cell.display).isSome = true := by
  cases counted cell member with
  | inl null => exact .inl (null ▸ rfl)
  | inr holds =>
      obtain ⟨count, held⟩ := holds
      rw [Cell.parseTimestamp?_display (dated cell member) held]
      exact .inr rfl

/-- The rows whose instant lies outside a bound are found by the counts of their cells. -/
theorem mem_failingRows_sinceEpoch?_iff {accepts : Instant → Bool} {row : Nat} :
    row ∈ failingRows (fun _ instant => accepts instant) (cells.map Cell.instant?) ↔
      cells[row]? = some .null ∨
        ∃ cell count, cells[row]? = some cell ∧ cell.sinceEpoch? = some count ∧
          accepts (.ofNanos count) = false := by
  rw [mem_failingRows_map_iff]
  constructor
  · intro failing
    obtain ⟨cell, entry, refused⟩ := failing
    have member := List.mem_of_getElem? entry
    cases counted cell member with
    | inl null => exact .inl (null ▸ entry)
    | inr holds =>
        obtain ⟨count, held⟩ := holds
        have shown := Cell.instant?_of_sinceEpoch? (dated cell member) held
        exact .inr ⟨cell, count, entry, held, refused _ shown⟩
  · intro outside
    cases outside with
    | inl null =>
        refine ⟨.null, null, ?_⟩
        intro instant shown
        cases shown
    | inr holds =>
        obtain ⟨cell, count, entry, held, refused⟩ := holds
        have shown := Cell.instant?_of_sinceEpoch? (dated cell (List.mem_of_getElem? entry)) held
        refine ⟨cell, entry, ?_⟩
        intro instant shown'
        rw [shown, Option.some_inj] at shown'
        rw [← shown', refused]

end Rows

/-- A column of dates or of timestamps is judged without an error, and by the counts of its cells: it
fails the null rows, and those before the limit or behind the present. Outside leap seconds that
compares the counts as numbers. -/
theorem judgeWindow_typed {frame : Frame} (formed : frame.WellFormed) {column : DateColumn}
    {target : Column} (found : frame.column? column.name = some target)
    (typed : target.type = .date ∨ ∃ unit, target.type = .timestamp unit)
    (dated : ∀ cell ∈ target.cells, cell.InCalendar) (now limit : Instant) :
    (∀ count count', Instant.AtMost (.ofNanos count) (.ofNanos count') ↔ count ≤ count') ∧
    ∃ early late : List Nat, WindowRows frame now limit column early late ∧
      early.Pairwise (· < ·) ∧ late.Pairwise (· < ·) ∧
      (∀ row, row ∈ early ↔ target.cells[row]? = some .null ∨
        ∃ cell count, target.cells[row]? = some cell ∧ cell.sinceEpoch? = some count ∧
          ¬ limit.AtMost (.ofNanos count)) ∧
      ∀ row, row ∈ late ↔ target.cells[row]? = some .null ∨
        ∃ cell count, target.cells[row]? = some cell ∧ cell.sinceEpoch? = some count ∧
          ¬ Instant.AtMost (.ofNanos count) now := by
  have counted : ∀ cell ∈ target.cells, cell = .null ∨ ∃ count, cell.sinceEpoch? = some count := by
    intro cell member
    exact Cell.exists_sinceEpoch? typed
      (formed.typed target (Frame.column?_mem found) cell member)
  have read : readInstants frame column = .ok (target.cells.map Cell.instant?) :=
    readInstants_eq_ok_iff.mpr
      ⟨target, found, fun _ member => isInstant_of_counted counted dated member, rfl⟩
  refine ⟨fun _ _ => Instant.atMost_ofNanos, _, _, windowRows_of_readInstants read now limit,
    failingRows_pairwise_lt _ _, failingRows_pairwise_lt _ _, ?_, ?_⟩
  · intro row
    simp only [mem_failingRows_sinceEpoch?_iff counted dated, decide_eq_false_iff_not]
  · intro row
    simp only [mem_failingRows_sinceEpoch?_iff counted dated, decide_eq_false_iff_not]

/-- Timestamps a millisecond before 1970, in the year before the year zero and in the year 12000. -/
def farTimestamps : Column where
  name := "createdAt"
  type := .timestamp .milliseconds
  cells := [.null, .timestamp .milliseconds (-1), .timestamp .milliseconds (-62198755199750),
    .timestamp .milliseconds 316516204800001]

/-- The window from the last millisecond before 1970 on. -/
theorem judgeWindow_typed_farTimestamps :
    (Frame.mk [farTimestamps]).WellFormed ∧ (∀ cell ∈ farTimestamps.cells, cell.InCalendar) ∧
      (Cell.timestamp .milliseconds (-62198755199750)).display = "-0001-01-01 00:00:00.250" ∧
      ∃ early late : List Nat,
        WindowRows ⟨[farTimestamps]⟩ ⟨1700000000, 0⟩ ⟨-1, 999000000⟩ .createdAt early late ∧
        early = [0, 2] ∧ late = [0, 3] := by
  have formed : (Frame.mk [farTimestamps]).WellFormed := by
    refine ⟨?_, by decide, ?_⟩
    · intro column member
      rw [List.mem_singleton.mp member]
      rfl
    · intro column member cell
      rw [List.mem_singleton.mp member]
      simp only [farTimestamps, List.mem_cons, List.not_mem_nil, or_false]
      intro held
      rcases held with rfl | rfl | rfl | rfl
      · trivial
      · exact rfl
      · exact rfl
      · exact rfl
  have dated : ∀ cell ∈ farTimestamps.cells, cell.InCalendar := by
    intro cell member count counted
    simp only [farTimestamps, List.mem_cons, List.not_mem_nil, or_false] at member
    rcases member with rfl | rfl | rfl | rfl
    · cases counted
    · cases counted
      decide
    · cases counted
      decide
    · cases counted
      decide
  have shown : (Cell.timestamp .milliseconds (-62198755199750)).display =
      "-0001-01-01 00:00:00.250" := by
    decide
  have found : (Frame.mk [farTimestamps]).column? DateColumn.createdAt.name = some farTimestamps :=
    rfl
  obtain ⟨-, early, late, window, -⟩ := judgeWindow_typed formed found (.inr ⟨_, rfl⟩) dated
    ⟨1700000000, 0⟩ ⟨-1, 999000000⟩
  have rows : (judgeWindow ⟨[farTimestamps]⟩ ⟨1700000000, 0⟩ ⟨-1, 999000000⟩
      .createdAt).outcomes.map Outcome.failedRows = [[0, 2], [0, 3]] := by
    decide +kernel
  rw [window.failedRows] at rows
  simp only [List.cons.injEq, and_true] at rows
  exact ⟨formed, dated, shown, early, late, window, rows⟩

end Check

end DatasetGate
