import DatasetGate.Proofs.Files
import DatasetGate.Proofs.Json.Indented
import DatasetGate.Proofs.Text.Utf8
import DatasetGate.Report

/-!
# Reports that were written

The file of a report reads as the text of the report, and that text, read as JSON, tells whether all
outcomes passed.
-/

set_option autoImplicit false

namespace DatasetGate.Report

open DatasetGate.Calendar DatasetGate.Json DatasetGate.Text

theorem writtenLines_outcomeJson (outcome : Outcome) : WrittenLines (outcomeJson outcome) := by
  refine writtenLines_object ?_
  simp only [List.forall_mem_cons]
  refine ⟨writtenLines_string _, writtenLines_string _, writtenLines_string _, writtenLines_bool _,
    writtenLines_integer _, writtenLines_array ?_, by simp⟩
  intro item member
  obtain ⟨row, -, rfl⟩ := List.mem_map.mp member
  exact writtenLines_integer row

theorem writtenLines_toJson (now : Instant) (dataset : String) (outcomes : List Outcome) :
    WrittenLines (toJson now dataset outcomes) := by
  refine writtenLines_object ?_
  simp only [List.forall_mem_cons]
  refine ⟨writtenLines_string _, writtenLines_integer _, writtenLines_string _,
    writtenLines_string _, writtenLines_bool _, writtenLines_array ?_, by simp⟩
  intro item member
  obtain ⟨outcome, -, rfl⟩ := List.mem_map.mp member
  exact writtenLines_outcomeJson outcome

/-- A report says whether all outcomes passed. -/
theorem flag?_text (now : Instant) (dataset : String) (outcomes : List Outcome) :
    flag? "passed" (text now dataset outcomes) = some (outcomes.all Outcome.passed) := by
  rw [flag?, text, document_of_line (writtenLines_toJson now dataset outcomes 0)]
  rfl

theorem readText_of_write {files after : Files} {path : String} {now : Instant}
    {dataset : String} {outcomes : List Outcome}
    (written : write files path now dataset outcomes = .ok after) :
    after.readText path = .ok (text now dataset outcomes) := by
  rw [write] at written
  rw [Files.readText, Files.read_save written]
  simp only [Utf8.decode?_encode]

end DatasetGate.Report
