import DatasetGate.Proofs.Json.Values
import DatasetGate.Proofs.Report

/-!
# What a report tells

The text of a report is one JSON document and a line end. Read as JSON it gives back the name of the
dataset and one entry for each outcome. An entry lists the first failing rows only, and still tells
by its list, its count and its mark alike whether any row failed.
-/

set_option autoImplicit false

namespace DatasetGate

namespace Json

/-- The text of a value on many lines is read as that value if its draft has it, with a line end
behind the text or without. -/
theorem read_indented {value : Json} (written : WrittenLines value)
    (restored : (draftOf value).value maxDepth = .ok value) :
    read (indented 0 value) = .ok value ∧ read (indented 0 value ++ ['\n']) = .ok value := by
  constructor
  · simp only [read, document_of_readsAs (written 0), restored]
  · simp only [read, document_of_line (written 0), restored]

theorem getLast?_bracketed (opening closing : Char) (depth : Nat) (items : List (List Char)) :
    (bracketed opening closing depth items).getLast? = some closing := by
  unfold bracketed
  split
  · rfl
  · exact List.getLast?_concat

end Json

namespace Report

open DatasetGate.Calendar DatasetGate.Json

/-- What an outcome is made of. Rows are numbered and counted in 64 bits. -/
structure Finding where
  kind : CheckKind
  column : String
  label : String
  failedRows : List Nat
  counted : failedRows.length ≤ maxSignificand
  numbered : ∀ row ∈ failedRows, row ≤ maxSignificand

def Finding.outcome (finding : Finding) : Outcome :=
  .ofRows finding.kind finding.column finding.label finding.failedRows

/-- An entry of a report tells an outcome: all of it, but of the failing rows the first hundred. -/
structure Tells (entry : Json) (outcome : Outcome) : Prop where
  kind : entry.field? "kind" = some (.string outcome.kind.name)
  column : entry.field? "column" = some (.string outcome.column)
  message : entry.field? "message" = some (.string outcome.message)
  passed : entry.field? "passed" = some (.bool outcome.passed)
  failedCount : entry.field? "failed_count" = some (.integer outcome.failedRows.length)
  failedRows : entry.field? "failed_rows" =
    some (.array ((outcome.failedRows.take (min 100 outcome.failedRows.length)).map
      fun row : Nat => .integer row))

theorem tells_outcomeJson (outcome : Outcome) : Tells (outcomeJson outcome) outcome where
  kind := rfl
  column := rfl
  message := rfl
  passed := rfl
  failedCount := rfl
  failedRows := by
    rw [← List.take_eq_take_min]
    rfl

/-- The mark of an entry, its count and its list agree. The list is cut, but never to nothing. -/
structure Consistent (entry : Json) : Prop where
  passed_iff : entry.field? "passed" = some (.bool true) ↔
    entry.field? "failed_count" = some (.integer 0)
  rows_iff : entry.field? "failed_rows" = some (.array []) ↔
    entry.field? "failed_count" = some (.integer 0)

theorem Tells.failedCount_iff {entry : Json} {outcome : Outcome} (tells : Tells entry outcome) :
    entry.field? "failed_count" = some (.integer 0) ↔ outcome.failedRows = [] := by
  rw [tells.failedCount, Option.some_inj, Json.integer.injEq, Int.natCast_eq_zero,
    List.length_eq_zero_iff]

theorem Tells.consistent {entry : Json} {finding : Finding} (tells : Tells entry finding.outcome) :
    Consistent entry where
  passed_iff := by
    rw [tells.failedCount_iff, tells.passed, Option.some_inj, Json.bool.injEq]
    exact List.isEmpty_iff
  rows_iff := by
    rw [tells.failedCount_iff, tells.failedRows, ← List.take_eq_take_min, Option.some_inj,
      Json.array.injEq, List.map_eq_nil_iff, List.take_eq_nil_iff]
    simp

theorem value_outcomeJson (depth : Nat) (finding : Finding) :
    (draftOf (outcomeJson finding.outcome)).value (depth + 2) =
      .ok (outcomeJson finding.outcome) := by
  refine value_object ?_
  simp only [List.forall_mem_cons]
  refine ⟨value_string _ _, value_string _ _, value_string _ _, value_bool _ _,
    value_natural _ finding.counted, value_array ?_, by simp⟩
  intro item member
  obtain ⟨row, listed, rfl⟩ := List.mem_map.mp member
  exact value_natural _ (finding.numbered row (List.mem_of_mem_take listed))

theorem value_toJson (depth : Nat) (now : Instant) (dataset : String) (findings : List Finding) :
    (draftOf (toJson now dataset (findings.map Finding.outcome))).value (depth + 4) =
      .ok (toJson now dataset (findings.map Finding.outcome)) := by
  refine value_object ?_
  simp only [List.forall_mem_cons]
  refine ⟨value_string _ _, value_integer _ (by decide), value_string _ _, value_string _ _,
    value_bool _ _, value_array ?_, by simp⟩
  intro item member
  obtain ⟨outcome, listed, rfl⟩ := List.mem_map.mp member
  obtain ⟨finding, -, rfl⟩ := List.mem_map.mp listed
  exact value_outcomeJson _ finding

/-- A report is one JSON document and a line end, in every file that it is written to. The document
gives back the dataset's name and, in order, an entry for every outcome; the whole report passes
where no entry counts a failing row, and each entry is consistent. -/
theorem text_tells (now : Instant) (dataset : String) (findings : List Finding) :
    ∃ document value entries,
      text now dataset (findings.map Finding.outcome) = document ++ ['\n'] ∧
      document.getLast? = some '\x7d' ∧
      Json.read document = .ok value ∧ Json.read (document ++ ['\n']) = .ok value ∧
      value.field? "dataset" = some (.string dataset) ∧
      value.field? "checks" = some (.array entries) ∧
      List.Forall₂ Tells entries (findings.map Finding.outcome) ∧
      (∃ passed, value.field? "passed" = some (.bool passed) ∧
        (passed = true ↔ ∀ entry ∈ entries,
          entry.field? "failed_count" = some (.integer 0))) ∧
      (∀ entry ∈ entries, Consistent entry) ∧
      ∀ (files after : Files) (path : String),
        write files path now dataset (findings.map Finding.outcome) = .ok after →
          after.readText path = .ok (document ++ ['\n']) := by
  obtain ⟨read, readLine⟩ := read_indented (writtenLines_toJson now dataset _)
    (value_toJson 123 now dataset findings)
  refine ⟨indented 0 (toJson now dataset (findings.map Finding.outcome)), _,
    (findings.map Finding.outcome).map outcomeJson, rfl, ?_, read, readLine, rfl, rfl, ?_,
    ⟨_, rfl, ?_⟩, ?_, ?_⟩
  · rw [toJson, indented]
    exact getLast?_bracketed _ _ _ _
  · rw [List.forall₂_map_left_iff, List.forall₂_same]
    exact fun outcome _ => tells_outcomeJson outcome
  · simp only [List.all_eq_true, List.forall_mem_map]
    refine forall₂_congr fun finding _ => ?_
    rw [(tells_outcomeJson finding.outcome).failedCount_iff]
    exact List.isEmpty_iff
  · intro entry member
    obtain ⟨outcome, listed, rfl⟩ := List.mem_map.mp member
    obtain ⟨finding, -, rfl⟩ := List.mem_map.mp listed
    exact (tells_outcomeJson finding.outcome).consistent
  · intro files after path written
    exact readText_of_write written

/-- An outcome with more failing rows than are listed, under a column and a label that are written
with escapes. -/
def longFinding : Finding where
  kind := .value
  column := "a \"quoted\" \\ name"
  label := "two\nlines\tand a bell \x07"
  failedRows := List.range 150
  counted := by
    rw [List.length_range]
    decide
  numbered row member := (List.mem_range.mp member).le.trans (by decide)

def cleanFinding : Finding where
  kind := .dateFormat
  column := "createdAt"
  label := "Dates are right"
  failedRows := []
  counted := by decide
  numbered := by simp

theorem text_tells_long :
    let report := text ⟨0, 0⟩ "d \"1\".csv" [longFinding.outcome, cleanFinding.outcome]
    ∃ value long clean, Json.read report = .ok value ∧
      value.field? "dataset" = some (.string "d \"1\".csv") ∧
      value.field? "passed" = some (.bool false) ∧
      value.field? "checks" = some (.array [long, clean]) ∧
      long.field? "column" = some (.string "a \"quoted\" \\ name") ∧
      long.field? "message" = some (.string "two\nlines\tand a bell \x07: false") ∧
      long.field? "failed_count" = some (.integer 150) ∧
      long.field? "failed_rows" =
        some (.array ((List.range 100).map fun row : Nat => .integer row)) ∧
      clean.field? "failed_rows" = some (.array []) ∧
      Consistent long ∧ Consistent clean ∧
      ∃ after, write Files.empty "out/report.json" ⟨0, 0⟩ "d \"1\".csv"
          [longFinding.outcome, cleanFinding.outcome] = .ok after ∧
        after.readText "out/report.json" = .ok report := by
  intro report
  obtain ⟨document, value, entries, whole, -, -, read, named, listed, told, ⟨passed, shown, verdict⟩,
    consistent, kept⟩ := text_tells ⟨0, 0⟩ "d \"1\".csv" [longFinding, cleanFinding]
  obtain ⟨long, later, longTold, laterTold, rfl⟩ := List.forall₂_cons_right_iff.mp told
  obtain ⟨clean, rest, cleanTold, restTold, rfl⟩ := List.forall₂_cons_right_iff.mp laterTold
  obtain rfl := List.forall₂_nil_right_iff.mp restTold
  have count : longFinding.outcome.failedRows.length = 150 := List.length_range
  have cut : longFinding.outcome.failedRows.take (min 100 150) = List.range 100 := List.take_range
  have longCount := longTold.failedCount
  have longRows := longTold.failedRows
  rw [count] at longCount longRows
  rw [cut] at longRows
  have failed : passed = false := by
    rw [← Bool.not_eq_true, verdict]
    intro noneFailed
    have counted := longCount.symm.trans (noneFailed long List.mem_cons_self)
    cases counted
  have saved : write Files.empty "out/report.json" ⟨0, 0⟩ "d \"1\".csv"
      ([longFinding, cleanFinding].map Finding.outcome) = .ok _ := rfl
  rw [← whole] at read kept
  exact ⟨value, long, clean, read, named, failed ▸ shown, listed, longTold.column, longTold.message,
    longCount, longRows, cleanTold.failedRows, consistent long (by simp), consistent clean (by simp),
    _, saved, kept _ _ _ saved⟩

end Report
end DatasetGate
