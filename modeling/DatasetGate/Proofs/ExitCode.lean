import DatasetGate.Program
import DatasetGate.Proofs.GateRun
import DatasetGate.Proofs.PlanComposition
import DatasetGate.Proofs.Report
import DatasetGate.Proofs.Summary

/-!
# Where a run tells its verdict

The exit code and the mark of the total come from the results of the checks; the report and the
count of the total come from the outcomes that the checks reported. A check passes exactly when all
its outcomes do, so every place tells the same verdict.
-/

set_option autoImplicit false

namespace DatasetGate

open DatasetGate.Calendar

/-- A verdict passes as its outcomes do, and they pass where no row fails. -/
structure Verdict.Tallied (verdict : Verdict) : Prop where
  passed : ∀ passed, verdict.result = .ok passed → passed = verdict.outcomes.all Outcome.passed
  rows : ∀ outcome ∈ verdict.outcomes, outcome.passed = true ↔ outcome.failedRows = []

theorem Outcome.passed_ofRows_iff (kind : CheckKind) (column label : String) (rows : List Nat) :
    (ofRows kind column label rows).passed = true ↔
      (ofRows kind column label rows).failedRows = [] := by
  simp [ofRows]

namespace Verdict

variable {outcomes : List Outcome}

theorem tallied_ofOutcomes
    (rows : ∀ outcome ∈ outcomes, outcome.passed = true ↔ outcome.failedRows = []) :
    (ofOutcomes outcomes).Tallied where
  passed _ result := (Except.ok.inj result).symm
  rows := rows

theorem tallied_failed {error : CheckError}
    (rows : ∀ outcome ∈ outcomes, outcome.passed = true ↔ outcome.failedRows = []) :
    (failed outcomes error).Tallied where
  passed := by simp [failed]
  rows := rows

theorem tallied_ofRows (kind : CheckKind) (column label : String)
    (rows : Except CheckError (List Nat)) : (ofRows kind column label rows).Tallied := by
  cases rows with
  | error error => exact tallied_failed (by simp)
  | ok rows =>
      exact tallied_ofOutcomes
        (List.forall_mem_singleton.mpr (Outcome.passed_ofRows_iff kind column label rows))

end Verdict

namespace Check

theorem tallied_judgeUrls (frame : Frame) (column : UrlColumn) :
    (judgeUrls frame column).Tallied := by
  have rows := Outcome.passed_ofRows_iff
  unfold judgeUrls
  split
  · exact Verdict.tallied_failed (by simp)
  · split
    · exact Verdict.tallied_failed (by simp [rows])
    · split
      · exact Verdict.tallied_failed (by simp [rows])
      · exact Verdict.tallied_ofOutcomes (by simp [rows])

theorem tallied_judge (check : Check) (frame : Frame) (now : Instant) :
    (check.judge frame now).Tallied := by
  cases check with
  | urls column => exact tallied_judgeUrls frame column
  | date column => exact Verdict.tallied_ofRows _ _ _ _
  | limitDate column limit =>
      rw [judge, judgeWindow]
      split
      · exact Verdict.tallied_failed (by simp)
      · exact Verdict.tallied_ofOutcomes (by simp [Outcome.passed_ofRows_iff])
  | limitNum column limit => exact Verdict.tallied_ofRows _ _ _ _
  | repoName column =>
      rw [judge, judgeRepoName]
      split
      · exact Verdict.tallied_ofRows _ _ _ _
      · exact Verdict.tallied_failed (by simp)
  | repoNameFormat column => exact Verdict.tallied_ofRows _ _ _ _
  | value column expected => exact Verdict.tallied_ofRows _ _ _ _

end Check

theorem PlanResult.failed_eq_nil_iff {result : PlanResult} :
    result.failed = [] ↔ result.passed = true := by
  simp [failed, passed, List.filter_eq_nil_iff]

namespace Plan

variable {plan : Plan} {frame : Frame} {now : Instant} {result : PlanResult}

theorem mem_outcomes_iff (finished : (plan.run frame now).result = .ok result)
    {outcome : Outcome} :
    outcome ∈ (plan.run frame now).outcomes ↔
      ∃ check ∈ plan.checks, outcome ∈ (check.judge frame now).outcomes := by
  rw [run_eq_map fun check member => exists_judged finished member]
  simp [Trace.outcomes, List.mem_flatMap]

/-- A plan passes when all the outcomes of its run do. -/
theorem passed_iff_outcomes (finished : (plan.run frame now).result = .ok result) :
    result.passed = true ↔ ∀ outcome ∈ (plan.run frame now).outcomes, outcome.passed = true := by
  rw [passed_iff_of_run finished]
  simp only [mem_outcomes_iff finished]
  constructor
  · rintro judged outcome ⟨check, member, reported⟩
    have all := (check.tallied_judge frame now).passed true (judged check member)
    exact List.all_eq_true.mp all.symm outcome reported
  · intro every check member
    obtain ⟨passed, judged⟩ := exists_judged finished member
    rw [judged, (check.tallied_judge frame now).passed passed judged, Except.ok.injEq,
      List.all_eq_true]
    exact fun outcome reported => every outcome ⟨check, member, reported⟩

theorem outcome_passed_iff (finished : (plan.run frame now).result = .ok result)
    {outcome : Outcome} (reported : outcome ∈ (plan.run frame now).outcomes) :
    outcome.passed = true ↔ outcome.failedRows = [] := by
  obtain ⟨check, -, own⟩ := (mem_outcomes_iff finished).mp reported
  exact (check.tallied_judge frame now).rows outcome own

end Plan

namespace Gate

variable {keep : Files → List Log.Event → Files} {options : GateOptions} {files : Files}
  {now : Instant} {result : GateResult}

theorem passed_iff_outcomes (finished : (runKeeping keep options files now).result = .ok result) :
    result.passed = true ↔ ∀ outcome ∈ result.outcomes, outcome.passed = true := by
  obtain ⟨frame, plan, found, -, -, ran, rfl, -⟩ := runKeeping_result_eq_ok_iff.mp finished
  exact Plan.passed_iff_outcomes ran

theorem passed_iff_failedRows (finished : (runKeeping keep options files now).result = .ok result) :
    result.passed = true ↔ ∀ outcome ∈ result.outcomes, outcome.failedRows = [] := by
  rw [passed_iff_outcomes finished]
  obtain ⟨frame, plan, found, -, -, ran, rfl, -⟩ := runKeeping_result_eq_ok_iff.mp finished
  exact forall₂_congr fun outcome reported => Plan.outcome_passed_iff ran reported

/-- The report that is asked for stands in the files. -/
theorem readText_report (finished : (runKeeping keep options files now).result = .ok result)
    {path : String} (asked : options.report = some path) :
    (runKeeping keep options files now).files.readText path =
      .ok (Report.text now result.dataset result.outcomes) := by
  obtain ⟨frame, plan, found, -, -, -, rfl, written⟩ := runKeeping_result_eq_ok_iff.mp finished
  simp only [writeReport, asked] at written
  split at written
  · rename_i after saved
    rw [← Except.ok.inj written]
    exact Report.readText_of_write saved
  · cases written

/-- The text of the report tells the verdict of the plan. -/
theorem exists_report (finished : (runKeeping keep options files now).result = .ok result)
    {path : String} (asked : options.report = some path) :
    ∃ text, (runKeeping keep options files now).files.readText path = .ok text ∧
      Json.flag? "passed" text = some result.passed := by
  have verdict : result.outcomes.all Outcome.passed = result.passed := by
    rw [Bool.eq_iff_iff, List.all_eq_true, passed_iff_outcomes finished]
  exact ⟨_, readText_report finished asked, verdict ▸ Report.flag?_text _ _ _⟩

end Gate

namespace Summary

theorem mark_eq_iff {passed : Bool} : mark passed = "✓" ↔ passed = true := by
  cases passed <;> decide

/-- The count of the total is zero when no outcome failed. -/
theorem failedCount_eq_zero_iff {outcomes : List Outcome} :
    failedCount outcomes = 0 ↔ ∀ outcome ∈ outcomes, outcome.passed = true := by
  simp [failedCount, List.filter_eq_nil_iff]

end Summary

namespace Program

open DatasetGate.Log DatasetGate.Text

section

variable {options : GateOptions} {logFile : Option String} {lines : List Event → List String}
  {files : Files} {now : Instant}

theorem runCheck_of_result {result : GateResult}
    (finished : (Gate.runKeeping (keepLog logFile lines) options files now).result = .ok result) :
    (runCheck options logFile lines files now).exitCode = (if result.passed then 0 else 1) ∧
      (runCheck options logFile lines files now).output = summaryLines result ∧
      (runCheck options logFile lines files now).files =
        (Gate.runKeeping (keepLog logFile lines) options files now).files := by
  simp only [runCheck, finished, and_self]

theorem exitCode_of_not_passed
    (refused : ¬ ∃ result, (Gate.runKeeping (keepLog logFile lines) options files now).result =
      .ok result ∧ result.passed = true) :
    (runCheck options logFile lines files now).exitCode = 1 := by
  cases finished : (Gate.runKeeping (keepLog logFile lines) options files now).result with
  | error error => simp only [runCheck, finished]
  | ok result =>
      have failed : ¬ result.passed = true := fun passed => refused ⟨result, finished, passed⟩
      rw [(runCheck_of_result finished).1, if_neg failed]

end

/-- A check of a dataset tells one verdict everywhere. A run with a result passes exactly when no
check of the plan failed, all outcomes passed, no row of an outcome failed, the process exits with
zero, the report says so where one is asked for, and, where there are outcomes, the line of the
total has the mark of a passed plan and counts no failed outcome. Every other run exits with one. -/
theorem run_check_verdict (options : GateOptions) (settings : Settings)
    (environment : Option String) (terminal : Bool) (before files : Files) (now : Instant)
    (opened : openLog before settings.logFile = .ok files) :
    let keep := keepLog settings.logFile (eventLines settings environment terminal now)
    let execution := runCommand ⟨.check options, settings⟩ environment terminal before now
    (∀ result, (Gate.runKeeping keep options files now).result = .ok result →
      [result.passed = true,
        result.plan.failed = [],
        ∀ outcome ∈ result.outcomes, outcome.passed = true,
        ∀ outcome ∈ result.outcomes, outcome.failedRows = [],
        execution.exitCode = 0].TFAE ∧
      (∀ path, options.report = some path →
        ∃ text, execution.files.readText path = .ok text ∧
          Json.flag? "passed" text = some result.passed) ∧
      (result.outcomes ≠ [] →
        ∃ line, Summary.totalLine? execution.output = some line ∧
          ((Table.shownCells line)[2]? = some "✓" ∧ (Table.shownCells line)[3]? = some "0" ↔
            result.passed = true))) ∧
    ((¬ ∃ result, (Gate.runKeeping keep options files now).result = .ok result ∧
        result.passed = true) → execution.exitCode = 1) ∧
    ∀ arguments, CommandLine.parse arguments = .ok ⟨.check options, settings⟩ →
      run arguments environment terminal before now = execution := by
  intro keep execution
  have checked : execution = runCheck options settings.logFile
      (eventLines settings environment terminal now) files now := by
    simp only [execution, runCommand, opened]
  refine ⟨?_, ?_, ?_⟩
  · intro result finished
    obtain ⟨exits, shows, leaves⟩ := runCheck_of_result finished
    rw [← checked] at exits shows leaves
    refine ⟨?_, ?_, ?_⟩
    · tfae_have 2 ↔ 1 := PlanResult.failed_eq_nil_iff
      tfae_have 1 ↔ 3 := Gate.passed_iff_outcomes finished
      tfae_have 1 ↔ 4 := Gate.passed_iff_failedRows finished
      tfae_have 5 ↔ 1 := by
        rw [exits]
        cases result.passed <;> decide
      tfae_finish
    · intro path asked
      rw [leaves]
      exact Gate.exists_report finished asked
    · intro reported
      obtain ⟨line, found, marked, counted⟩ := Summary.exists_totalLine result.plan reported
      rw [shows]
      refine ⟨line, found, ?_⟩
      rw [marked, counted, Option.some.injEq, Option.some.injEq, Summary.mark_eq_iff]
      refine ⟨And.left, fun passed => ⟨passed, ?_⟩⟩
      rw [Summary.failedCount_eq_zero_iff.mpr ((Gate.passed_iff_outcomes finished).mp passed)]
      rfl
  · intro refused
    rw [checked]
    exact exitCode_of_not_passed refused
  · intro arguments parsed
    simp only [run, parsed]
    rfl

/-- A dataset with a path that is none, and what a check of it is told. -/
def brokenFiles : Files :=
  ⟨[(["d.csv"], .file (Utf8.encode "baseRepo\nocto/cat\nbroken\n".toList))]⟩

def brokenOptions : GateOptions :=
  ⟨"d.csv", none, ⟨none, []⟩, some "out/report.json"⟩

def brokenSettings : Settings :=
  ⟨0, 0, none, none, none, none, some "d.csv", none, none, [], some "out/report.json"⟩

theorem run_check_verdict_broken :
    openLog brokenFiles brokenSettings.logFile = .ok brokenFiles ∧
    let execution := run ["check", "d.csv", "--report", "out/report.json"] none false brokenFiles
      ⟨0, 0⟩
    execution.exitCode = 1 ∧
    (∃ text, execution.files.readText "out/report.json" = .ok text ∧
      Json.flag? "passed" text = some false) ∧
    ∃ line, Summary.totalLine? execution.output = some line ∧
      ¬ ((Table.shownCells line)[2]? = some "✓" ∧ (Table.shownCells line)[3]? = some "0") := by
  obtain ⟨verdict, refused, started⟩ := run_check_verdict brokenOptions brokenSettings none false
    brokenFiles brokenFiles ⟨0, 0⟩ rfl
  have finished : (Gate.runKeeping (keepLog none (eventLines brokenSettings none false ⟨0, 0⟩))
      brokenOptions brokenFiles ⟨0, 0⟩).result =
        .ok ⟨"d.csv", 2, ⟨[(.repoNameFormat .baseRepo, false)]⟩,
          [.ofRows .repoNameFormat "baseRepo" "Records have right repo name format" [1]],
          some "out/report.json"⟩ := by
    decide +kernel
  obtain ⟨-, report, total⟩ := verdict _ finished
  refine ⟨rfl, ?_⟩
  rw [started _ rfl]
  refine ⟨refused ?_, report _ rfl, ?_⟩
  · rintro ⟨result, ran, passed⟩
    cases finished.symm.trans ran
    cases passed
  · obtain ⟨line, found, shown⟩ := total (List.cons_ne_nil _ _)
    exact ⟨line, found, fun marked => absurd (shown.mp marked) (by decide)⟩

end Program
end DatasetGate
