import DatasetGate.Gate
import DatasetGate.Proofs.Dataset.Gates
import DatasetGate.Proofs.Dataset.TableFrame
import DatasetGate.Proofs.PlanRun

/-!
# Runs of the gate

What a run of the gate with a result has gone through: the dataset was loaded, a plan chosen, and the
plan run to its end.
-/

set_option autoImplicit false

namespace DatasetGate

open DatasetGate.Calendar DatasetGate.Text

namespace Dataset

theorem wideEncoding?_eq_none {b : UInt8} (ascii : b.toNat < 128) (bytes : List UInt8) :
    wideEncoding? (b :: bytes) = none := by
  unfold wideEncoding?
  split
  · rename_i marked
    rw [(List.cons.inj marked).1] at ascii
    exact absurd ascii (by decide)
  · rename_i marked
    rw [(List.cons.inj marked).1] at ascii
    exact absurd ascii (by decide)
  · rfl

/-- A plain table with rows and no blank names is loaded exactly when all its texts can be read. -/
theorem load_tableText {ρ : Type} {columns : List (String × (ρ → String))} {rows : List ρ}
    (table : PlainTable columns rows) (nonempty : rows ≠ [])
    (named : ∀ column ∈ columns, isBlankName column.1 = false) {ended : Bool} {files : Files}
    {path : String}
    (found : files.find path = .ok (.file (Utf8.encode (tableText columns rows ended))))
    {limit : Nat} (small : (Utf8.encode (tableText columns rows ended)).length ≤ limit)
    {frame : Frame} :
    load files path limit = .ok frame ↔ Readable columns rows ∧ frame = tableFrame columns rows := by
  obtain ⟨b, bytes, text, ascii⟩ := exists_encode_tableText table ended
  have narrow : wideEncoding? (Utf8.encode (tableText columns rows ended)) = none := by
    rw [text, wideEncoding?_eq_none ascii]
  rw [load_eq_ofBytes found small narrow, ofBytes, ← frame?_tableText table ended]
  cases read : frame? (Utf8.encode (tableText columns rows ended)) with
  | none => simp
  | some other =>
      obtain ⟨-, rfl⟩ := (frame?_tableText table ended).mp read
      have high : (tableFrame columns rows).height ≠ 0 := by
        rw [height_tableFrame table.nonempty]
        simpa using nonempty
      have noBlank : ¬ (tableFrame columns rows).names.any isBlankName = true := by
        rw [names_tableFrame, List.any_map, List.any_eq_true]
        rintro ⟨column, member, blank⟩
        rw [Function.comp_apply, named column member] at blank
        cases blank
      simp [checkShape, high, noBlank]

end Dataset

namespace Gate

theorem reported_eq_ok_iff {files : Files} {now : Instant} {judged : Judgement}
    {result : GateResult} :
    (reported files now judged).result = .ok result ↔
      judged.result = .ok result ∧
        writeReport files now result = .ok (reported files now judged).files := by
  unfold reported
  cases found : judged.result with
  | error error => simp
  | ok own =>
      cases written : writeReport files now own with
      | error error => simp +contextual [written, eq_comm]
      | ok after => simp +contextual [written, eq_comm]

/-- A run with a result has loaded its dataset, chosen its plan, judged every check of it, and written
the report that is asked for. -/
theorem runKeeping_result_eq_ok_iff {keep : Files → List Log.Event → Files}
    {options : GateOptions} {files : Files} {now : Instant} {result : GateResult} :
    (runKeeping keep options files now).result = .ok result ↔
      ∃ frame plan found, Dataset.load files options.dataset Dataset.defaultLimit = .ok frame ∧
        choosePlan options (keep files (openingEvents options frame)) frame = .ok plan ∧
        (plan.run frame now).result = .ok found ∧
        result = ⟨options.dataset, frame.height, found, (plan.run frame now).outcomes,
          options.report⟩ ∧
        writeReport (keep (keep files (openingEvents options frame))
            (judgeFrame options now frame plan).events) now result =
          .ok (runKeeping keep options files now).files := by
  cases loaded : Dataset.load files options.dataset Dataset.defaultLimit with
  | error error => simp [runKeeping, loaded]
  | ok frame =>
      cases chosen : choosePlan options (keep files (openingEvents options frame)) frame with
      | error error => simp [runKeeping, loaded, chosen]
      | ok plan =>
          have judged : (judgeFrame options now frame plan).result = .ok result ↔
              ∃ found, (plan.run frame now).result = .ok found ∧
                result = ⟨options.dataset, frame.height, found, (plan.run frame now).outcomes,
                  options.report⟩ := by
            cases ran : (plan.run frame now).result with
            | error error => simp [judgeFrame, ran]
            | ok found => simp [judgeFrame, ran, eq_comm]
          simp only [runKeeping, loaded, chosen, reported_eq_ok_iff, judged]
          constructor
          · rintro ⟨⟨found, ran, shape⟩, written⟩
            exact ⟨frame, plan, found, rfl, chosen, ran, shape, written⟩
          · rintro ⟨_, _, found, same, chosenToo, ran, shape, written⟩
            cases same
            rw [chosen] at chosenToo
            cases chosenToo
            exact ⟨⟨found, ran, shape⟩, written⟩

/-- A run that keeps no events and writes no report has the result of its checks. -/
theorem run_result_eq_ok_iff {options : GateOptions} (quiet : options.report = none)
    {files : Files} {now : Instant} {result : GateResult} :
    (run options files now).result = .ok result ↔
      ∃ frame plan found, Dataset.load files options.dataset Dataset.defaultLimit = .ok frame ∧
        choosePlan options files frame = .ok plan ∧ (plan.run frame now).result = .ok found ∧
          result = ⟨options.dataset, frame.height, found, (plan.run frame now).outcomes,
            options.report⟩ := by
  constructor
  · intro finished
    obtain ⟨frame, plan, found, loaded, chosen, ran, shape, -⟩ :=
      runKeeping_result_eq_ok_iff.mp finished
    exact ⟨frame, plan, found, loaded, chosen, ran, shape⟩
  · rintro ⟨frame, plan, found, loaded, chosen, ran, rfl⟩
    simp [run, runKeeping, loaded, chosen, judgeFrame, ran, reported, writeReport, quiet]

end Gate
end DatasetGate
