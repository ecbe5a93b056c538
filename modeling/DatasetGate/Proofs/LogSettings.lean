import DatasetGate.Proofs.ExitCode
import DatasetGate.Proofs.FilesApart
import DatasetGate.Proofs.LoggedEvents

/-!
# Settings of the log

A run that keeps its events in a file changes nothing else by it. So two executions that differ in how
much they log, and in which layout, have the same exit code, output and report, unless the plan is
read from the file of the log; and what the stricter one logs is a part of what the other one does.
-/

set_option autoImplicit false

namespace DatasetGate

open DatasetGate.Calendar DatasetGate.Log

namespace Gate

open Files

/-- Two runs that tell the same and end alike, and leave stores that differ in the log at most. -/
structure Run.SameBut (log : Option Place) (first second : Run) : Prop where
  events : first.events = second.events
  result : first.result = second.result
  files : AgreeBut log first.files second.files

variable {log : Option Place} {first second files : Files} {now : Instant} {options : GateOptions}
  {keep : Files → List Event → Files}

theorem writeReport_matched (agree : AgreeBut log first second) (now : Instant)
    (result : GateResult) :
    MatchedBy (AgreeBut log) (writeReport first now result) (writeReport second now result) := by
  unfold writeReport
  cases result.report with
  | none => exact .ok agree
  | some path =>
      simp only [Report.write]
      obtain ⟨fault, saved, savedToo⟩ | ⟨after, afterToo, same, saved, savedToo⟩ :=
        (matchedBy_iff ..).mp
          (agree.save path (Text.Utf8.encode (Report.text now result.dataset result.outcomes)))
      · rw [saved, savedToo]
        exact .error _
      · rw [saved, savedToo]
        exact .ok same

theorem reported_same (agree : AgreeBut log first second) (now : Instant)
    (judged : Judgement) :
    (reported first now judged).SameBut log (reported second now judged) := by
  unfold reported
  cases judged.result with
  | error error => exact ⟨rfl, rfl, agree⟩
  | ok result =>
      obtain ⟨error, written, writtenToo⟩ | ⟨after, afterToo, same, written, writtenToo⟩ :=
        (matchedBy_iff ..).mp (writeReport_matched agree now result)
      · simp only [written, writtenToo]
        exact ⟨rfl, rfl, agree⟩
      · simp only [written, writtenToo]
        exact ⟨rfl, rfl, same⟩

theorem choosePlan_same (agree : AgreeBut log first second) (frame : Frame)
    (apart : ∀ plan ∈ options.plan, ∀ place, log = some place → first.place? plan ≠ some place) :
    choosePlan options first frame = choosePlan options second frame := by
  unfold choosePlan
  cases planned : options.plan with
  | none => rfl
  | some path => simp only [Plan.load, agree.readText_eq (apart path planned)]

/-- A run that keeps its events in a file tells what the run does that keeps none, and ends as it
does, if the plan is read from elsewhere. -/
theorem runKeeping_same
    (observing : ∀ batches : List (List Event), AgreeBut log files (batches.foldl keep files))
    (apart : ∀ plan ∈ options.plan, ∀ place, log = some place → files.place? plan ≠ some place) :
    (run options files now).SameBut log (runKeeping keep options files now) := by
  unfold run runKeeping
  cases Dataset.load files options.dataset Dataset.defaultLimit with
  | error error => exact ⟨rfl, rfl, observing []⟩
  | ok frame =>
      have opening := observing [openingEvents options frame]
      rw [List.foldl_cons, List.foldl_nil] at opening
      dsimp only
      rw [← choosePlan_same opening frame apart]
      cases choosePlan options files frame with
      | error error => exact ⟨rfl, rfl, opening⟩
      | ok plan =>
          have told := observing
            [openingEvents options frame, (judgeFrame options now frame plan).events]
          have ended := reported_same told now (judgeFrame options now frame plan)
          exact ⟨congrArg (openingEvents options frame ++ ·) ended.events, ended.result, ended.files⟩

theorem reported_files {judged : Judgement}
    (asked : ∀ result, judged.result = .ok result → result.report = options.report) :
    (reported files now judged).files = files ∨
      ∃ report ∈ options.report, ∃ bytes,
        files.save report bytes = .ok (reported files now judged).files := by
  unfold reported
  cases ended : judged.result with
  | error error => exact .inl rfl
  | ok result =>
      dsimp only
      cases written : writeReport files now result with
      | error error => exact .inl rfl
      | ok after =>
          rw [writeReport] at written
          cases named : result.report with
          | none =>
              rw [named] at written
              cases written
              exact .inl rfl
          | some path =>
              simp only [named, Report.write] at written
              split at written
              · rename_i saved
                cases written
                exact .inr ⟨path, (asked result ended).symm.trans named, _, saved⟩
              · cases written

/-- The files after a run are those that its events were kept in, with the report if there is one. -/
theorem exists_batches (keep : Files → List Event → Files) (options : GateOptions) (files : Files)
    (now : Instant) :
    ∃ batches : List (List Event), (runKeeping keep options files now).events = batches.flatten ∧
      ((runKeeping keep options files now).files = batches.foldl keep files ∨
        ∃ report ∈ options.report, ∃ bytes,
          (batches.foldl keep files).save report bytes =
            .ok (runKeeping keep options files now).files) := by
  unfold runKeeping
  cases Dataset.load files options.dataset Dataset.defaultLimit with
  | error error => exact ⟨[], rfl, .inl rfl⟩
  | ok frame =>
      dsimp only
      cases choosePlan options (keep files (openingEvents options frame)) frame with
      | error error => exact ⟨[openingEvents options frame], by simp, .inl rfl⟩
      | ok plan =>
          refine ⟨[openingEvents options frame, (judgeFrame options now frame plan).events],
            by simp [events_reported], reported_files ?_⟩
          intro result ended
          rw [judgeFrame] at ended
          split at ended
          · cases ended
          · cases ended
            rfl

end Gate

/-- Settings that differ in how much is logged, and in which layout, and in nothing else. -/
def Settings.SameButLog (first second : Settings) : Prop :=
  second = { first with
    verbose := second.verbose
    quiet := second.quiet
    level := second.level
    layout := second.layout }

namespace Program

open Files

variable {settings : Settings} {terminal : Bool} {before files : Files} {now : Instant}

theorem filter_none (settings : Settings) :
    filter settings none = Filter.ofThreshold (threshold settings) := by
  simp only [filter, ite_self]

theorem lineBytes_append (earlier later : List String) :
    lineBytes (earlier ++ later) = lineBytes earlier ++ lineBytes later := by
  rw [lineBytes, List.flatMap_append]
  rfl

/-- The octets of the lines of a log, batch by batch, are those of all the lines. -/
theorem lineBytes_flatten (settings : Settings) (terminal : Bool) (now : Instant)
    (batches : List (List Event)) :
    (batches.flatMap fun events => lineBytes (eventLines settings none terminal now events)) =
      lineBytes (eventLines settings none terminal now batches.flatten) := by
  induction batches with
  | nil => rfl
  | cons events rest ih =>
      rw [List.flatMap_cons, ih, ← lineBytes_append, List.flatten_cons]
      simp only [eventLines, logLines, Filter.apply_append, List.map_append]

theorem keepLog_eq {path : String} {place : Place} {old : List UInt8}
    (opened : Opened files path place old) (lines : List Event → List String)
    (events : List Event) :
    keepLog (some path) lines files events =
      files.put place (.file (old ++ lineBytes (lines events))) := by
  simp only [keepLog, opened.append_eq, Except.toOption, Option.getD_some]

/-- However often events are kept, the file of the log grows by their lines and stays open, and all
else is as it was. -/
theorem foldl_keepLog {path : String} {place : Place} {old : List UInt8}
    (opened : Opened files path place old) (lines : List Event → List String)
    (batches : List (List Event)) :
    Opened (batches.foldl (keepLog (some path) lines) files) path place
        (old ++ batches.flatMap fun events => lineBytes (lines events)) ∧
      AgreeBut (some place) files (batches.foldl (keepLog (some path) lines) files) := by
  induction batches generalizing files old with
  | nil =>
      rw [List.flatMap_nil, List.append_nil]
      refine ⟨opened, .refl ?_⟩
      rintro _ ⟨⟩
      exact ⟨old, opened.held⟩
  | cons events rest ih =>
      rw [List.foldl_cons, keepLog_eq opened, List.flatMap_cons, ← List.append_assoc]
      obtain ⟨grown, agree⟩ := ih (opened_put opened.targeted (old ++ lineBytes (lines events)))
      exact ⟨grown, (opened.agreeBut _).trans agree⟩

theorem exists_opened {logFile : Option String} (opened : openLog before logFile = .ok files)
    {path : String} (named : logFile = some path) :
    ∃ place old, Opened files path place old := by
  rw [named] at opened
  exact opened_of_append opened

theorem foldl_keepLog_agree {logFile : Option String} (opened : openLog before logFile = .ok files)
    (lines : List Event → List String) (batches : List (List Event)) :
    AgreeBut (logFile.bind files.place?) files (batches.foldl (keepLog logFile lines) files) := by
  cases logFile with
  | none =>
      have unchanged : batches.foldl (keepLog none lines) files = files := by
        induction batches with
        | nil => rfl
        | cons events rest ih => exact ih
      rw [unchanged]
      exact .refl fun place logging => nomatch logging
  | some path =>
      obtain ⟨place, old, there⟩ := exists_opened opened rfl
      rw [Option.bind_some, there.place?_eq]
      exact (foldl_keepLog there lines batches).2

/-- After a run the file of the log is still open, and if no report was written over it, it holds the
lines of all events behind what it held before. -/
theorem opened_run {path : String} {place : Place} {old : List UInt8}
    (there : Opened files path place old) (options : GateOptions) (settings : Settings)
    (terminal : Bool) (now : Instant) :
    let lines := eventLines settings none terminal now
    let run := Gate.runKeeping (keepLog (some path) lines) options files now
    ∃ held, Opened run.files path place held ∧
      ((∀ report ∈ options.report, run.files.place? report ≠ run.files.place? path) →
        held = old ++ lineBytes (lines run.events)) := by
  intro lines run
  obtain ⟨batches, told, ended⟩ :=
    Gate.exists_batches (keepLog (some path) lines) options files now
  have grown := (foldl_keepLog there lines batches).1
  rw [lineBytes_flatten, ← told] at grown
  rcases ended with unsaved | ⟨report, asked, bytes, saved⟩
  · rw [← unsaved] at grown
    exact ⟨_, grown, fun _ => rfl⟩
  · obtain ⟨held, opened, same⟩ := grown.save saved
    exact ⟨held, opened, fun apart => same (apart report asked)⟩

/-- The run of the gate that an execution goes through. -/
def gateRun (options : GateOptions) (settings : Settings) (terminal : Bool) (files : Files)
    (now : Instant) : Gate.Run :=
  Gate.runKeeping (keepLog settings.logFile (eventLines settings none terminal now)) options files now

def loggedEvents (options : GateOptions) (settings : Settings) (terminal : Bool) (files : Files)
    (now : Instant) : List Event :=
  (filter settings none).apply (gateRun options settings terminal files now).events

/-- The outcomes that an execution records, also those before an error. -/
def recorded (options : GateOptions) (settings : Settings) (terminal : Bool) (files : Files)
    (now : Instant) : List Outcome :=
  Gate.recorded (keepLog settings.logFile (eventLines settings none terminal now)) options files now

/-- The line in which an execution says why it has no result. -/
def closingLines : Except GateError GateResult → List String
  | .error error => [errorLine error.message]
  | .ok _ => []

/-- Lines of a log are told in an execution, to standard error or behind what the file of the log
held, unless the report was written over it. -/
structure Execution.WritesLog (execution : Execution) (log report : Option String) (files : Files)
    (lines closing : List String) : Prop where
  toConsole : log = none → execution.errors = lines ++ closing
  toFile : ∀ path ∈ log, execution.errors = closing ∧
    ((∀ other ∈ report, execution.files.place? other ≠ execution.files.place? path) →
      ∃ old, files.read path = .ok old ∧
        execution.files.read path = .ok (old ++ lineBytes lines))

/-- Executions with the same exit code, the same output and the same files but the log. -/
structure Execution.SameButLog (log : Option String) (first second : Execution) : Prop where
  exitCode : first.exitCode = second.exitCode
  output : first.output = second.output
  files : ∀ path, (∀ file ∈ log, first.files.place? path ≠ first.files.place? file) →
    first.files.read path = second.files.read path

theorem run_check {arguments : List String} {options : GateOptions}
    (parsed : CommandLine.parse arguments = .ok ⟨.check options, settings⟩)
    (opened : openLog before settings.logFile = .ok files) :
    run arguments none terminal before now =
      runCheck options settings.logFile (eventLines settings none terminal now) files now := by
  simp only [run, parsed, runCommand, opened]

theorem runCheck_files (options : GateOptions) (logFile : Option String)
    (lines : List Event → List String) (files : Files) (now : Instant) :
    (runCheck options logFile lines files now).files =
      (Gate.runKeeping (keepLog logFile lines) options files now).files := by
  unfold runCheck
  dsimp only
  split <;> rfl

theorem runCheck_errors (options : GateOptions) (logFile : Option String)
    (lines : List Event → List String) (files : Files) (now : Instant) :
    let run := Gate.runKeeping (keepLog logFile lines) options files now
    (runCheck options logFile lines files now).errors =
      (if logFile.isSome then [] else lines run.events) ++ closingLines run.result := by
  intro run
  cases ended : run.result with
  | error error => simp only [runCheck, run, ended, closingLines]
  | ok result => simp only [runCheck, run, ended, closingLines, List.append_nil]

theorem runCheck_congr {options : GateOptions} {logFile : Option String}
    {lines other : List Event → List String}
    (same : (Gate.runKeeping (keepLog logFile lines) options files now).result =
      (Gate.runKeeping (keepLog logFile other) options files now).result) :
    (runCheck options logFile lines files now).exitCode =
        (runCheck options logFile other files now).exitCode ∧
      (runCheck options logFile lines files now).output =
        (runCheck options logFile other files now).output := by
  simp only [runCheck, same]
  split <;> exact ⟨rfl, rfl⟩

theorem runCheck_writesLog (opened : openLog before settings.logFile = .ok files)
    (options : GateOptions) :
    (runCheck options settings.logFile (eventLines settings none terminal now) files now).WritesLog
      settings.logFile options.report files
      (eventLines settings none terminal now (gateRun options settings terminal files now).events)
      (closingLines (gateRun options settings terminal files now).result) where
  toConsole console := by
    rw [runCheck_errors, console, gateRun, console]
    rfl
  toFile path named := by
    obtain ⟨place, old, there⟩ := exists_opened opened named
    constructor
    · rw [runCheck_errors, named, gateRun, named]
      rfl
    · intro apart
      obtain ⟨held, still, grown⟩ := opened_run there options settings terminal now
      rw [runCheck_files, named] at apart ⊢
      rw [gateRun, named, still.read_eq, grown apart]
      exact ⟨old, there.read_eq, rfl⟩

/-- What a run tells and how it ends does not depend on the settings of the log, if the plan is not
in the log. -/
theorem gateRun_same {second : Settings} {options : GateOptions}
    (opened : openLog before settings.logFile = .ok files) (same : settings.SameButLog second)
    (apart : ∀ log ∈ settings.logFile, ∀ plan ∈ options.plan,
      files.place? plan ≠ files.place? log) :
    (gateRun options settings terminal files now).SameBut (settings.logFile.bind files.place?)
      (gateRun options second terminal files now) := by
  have file : second.logFile = settings.logFile := by rw [same]
  -- Both are compared with the run that keeps no events at all.
  have silent (lines : List Event → List String) :
      (Gate.run options files now).SameBut (settings.logFile.bind files.place?)
        (Gate.runKeeping (keepLog settings.logFile lines) options files now) := by
    refine Gate.runKeeping_same (foldl_keepLog_agree opened lines) ?_
    intro plan asked place leads
    obtain ⟨log, named, found⟩ := Option.bind_eq_some_iff.mp leads
    rw [← found]
    exact apart log named plan asked
  have own := silent (eventLines settings none terminal now)
  have other := silent (eventLines second none terminal now)
  rw [gateRun, gateRun, file]
  exact ⟨own.events.symm.trans other.events, own.result.symm.trans other.result,
    own.files.symm.trans other.files⟩

/-- The log is at the same place after a run. -/
theorem place?_gateRun (opened : openLog before settings.logFile = .ok files)
    (options : GateOptions) {log : String} (named : settings.logFile = some log) :
    (gateRun options settings terminal files now).files.place? log = files.place? log := by
  obtain ⟨place, old, there⟩ := exists_opened opened named
  obtain ⟨held, still, -⟩ := opened_run there options settings terminal now
  rw [gateRun, named, still.place?_eq, there.place?_eq]

/-- Executions whose runs end alike do so, too. -/
theorem runCheck_sameButLog {second : Settings} {options : GateOptions}
    (opened : openLog before settings.logFile = .ok files)
    (file : second.logFile = settings.logFile)
    (runs : (gateRun options settings terminal files now).SameBut
      (settings.logFile.bind files.place?) (gateRun options second terminal files now)) :
    (runCheck options settings.logFile (eventLines settings none terminal now) files now).SameButLog
      settings.logFile
      (runCheck options second.logFile (eventLines second none terminal now) files now) := by
  have results := runs.result
  rw [gateRun, gateRun, file] at results
  obtain ⟨exits, shows⟩ := runCheck_congr results
  rw [file]
  refine ⟨exits, shows, ?_⟩
  intro path away
  have reads : (gateRun options settings terminal files now).files.read path =
      (gateRun options second terminal files now).files.read path := by
    refine runs.files.read_eq fun place leads => ?_
    obtain ⟨log, named, found⟩ := Option.bind_eq_some_iff.mp leads
    have elsewhere := away log named
    rw [runCheck_files, ← gateRun, place?_gateRun opened options named, found] at elsewhere
    exact elsewhere
  rw [gateRun, gateRun, file] at reads
  rw [runCheck_files, runCheck_files]
  exact reads

/-- The log of a check only observes it. Its lines are those of the logged events, and where events at
the level of information are logged, those that name a column tell the recorded outcomes one by one,
also when the check ends in an error. Other settings of how much is logged, and in which layout, change neither
the exit code nor the output nor the report nor any file but that of the log, and what is logged at a
stricter level are the events of a looser one that reach it, if the plan is not read from the file
that the log is written to. -/
theorem log_observes (arguments : List String) (options : GateOptions) (settings : Settings)
    (terminal : Bool) (before files : Files) (now : Instant)
    (parsed : CommandLine.parse arguments = .ok ⟨.check options, settings⟩)
    (opened : openLog before settings.logFile = .ok files) :
    let execution := run arguments none terminal before now
    let gate := gateRun options settings terminal files now
    let logged := loggedEvents options settings terminal files now
    execution.WritesLog settings.logFile options.report files
      (logged.map (Log.line (settings.layout.getD .pretty) (coloured settings terminal) now))
      (closingLines gate.result) ∧
    (∀ result, gate.result = .ok result →
      result.outcomes = recorded options settings terminal files now) ∧
    ((threshold settings).passes .info = true →
      List.Forall₂ Event.Tells (logged.filter Event.namesColumn)
        (recorded options settings terminal files now)) ∧
    ∀ others second, CommandLine.parse others = .ok ⟨.check options, second⟩ →
      settings.SameButLog second →
      (∀ log ∈ settings.logFile, ∀ plan ∈ options.plan, files.place? plan ≠ files.place? log) →
      let other := run others none terminal before now
      execution.SameButLog settings.logFile other ∧
      (∀ report ∈ options.report, (∃ result, gate.result = .ok result) →
        ∃ text, execution.files.readText report = .ok text ∧
          other.files.readText report = .ok text) ∧
      ((threshold settings).rank ≤ (threshold second).rank →
        logged.map Event.withoutSpans =
          ((loggedEvents options second terminal files now).map Event.withoutSpans).filter
            fun event => (threshold settings).passes event.level) := by
  intro execution gate logged
  have checked : execution = runCheck options settings.logFile
      (eventLines settings none terminal now) files now := run_check parsed opened
  refine ⟨?_, fun result finished => Gate.recorded_of_result finished, ?_, ?_⟩
  · rw [checked]
    exact runCheck_writesLog opened options
  · intro informs
    simp only [logged, loggedEvents, filter_none]
    exact Gate.events_tell informs
  · intro others second parsedToo same apart other
    have file : second.logFile = settings.logFile := by rw [same]
    have checkedToo : other = runCheck options second.logFile
        (eventLines second none terminal now) files now := run_check parsedToo (file ▸ opened)
    have runs : gate.SameBut (settings.logFile.bind files.place?)
        (gateRun options second terminal files now) := gateRun_same opened same apart
    refine ⟨?_, ?_, ?_⟩
    · rw [checked, checkedToo]
      exact runCheck_sameButLog opened file runs
    · rintro report asked ⟨result, finished⟩
      rw [checked, checkedToo, runCheck_files, runCheck_files]
      exact ⟨_, Gate.readText_report finished asked,
        Gate.readText_report (runs.result.symm.trans finished) asked⟩
    · intro stricter
      simp only [logged, loggedEvents, filter_none, ← runs.events]
      exact Filter.apply_stricter (fun event member => Gate.own_of_mem_run member) stricter

/-- The arguments of a check whose log goes to a file, and the settings in them. -/
def loggedArguments : List String :=
  ["check", "d.csv", "--report", "out/report.json", "--log-file", "run.log"]

def loggedSettings : Settings :=
  { brokenSettings with logFile := some "run.log" }

def loggedFiles : Files :=
  brokenFiles.put ["run.log"] (.file [])

theorem log_observes_broken :
    let more := loggedArguments ++ ["-v", "--log-format", "json"]
    let verbose := { loggedSettings with verbose := 1, layout := some .json }
    CommandLine.parse loggedArguments = .ok ⟨.check brokenOptions, loggedSettings⟩ ∧
    openLog brokenFiles loggedSettings.logFile = .ok loggedFiles ∧
    CommandLine.parse more = .ok ⟨.check brokenOptions, verbose⟩ ∧
    let execution := run loggedArguments none false brokenFiles ⟨0, 0⟩
    let other := run more none false brokenFiles ⟨0, 0⟩
    let logged := loggedEvents brokenOptions loggedSettings false loggedFiles ⟨0, 0⟩
    List.Forall₂ Event.Tells (logged.filter Event.namesColumn)
      [.ofRows .repoNameFormat "baseRepo" "Records have right repo name format" [1]] ∧
    execution.SameButLog (some "run.log") other ∧
    (∃ text, execution.files.readText "out/report.json" = .ok text ∧
      other.files.readText "out/report.json" = .ok text) ∧
    logged.map Event.withoutSpans =
      ((loggedEvents brokenOptions verbose false loggedFiles ⟨0, 0⟩).map
        Event.withoutSpans).filter fun event => Threshold.passes (some .info) event.level := by
  intro more verbose
  have parsed : CommandLine.parse loggedArguments = .ok ⟨.check brokenOptions, loggedSettings⟩ := by
    decide +kernel
  have opened : openLog brokenFiles loggedSettings.logFile = .ok loggedFiles := by
    decide +kernel
  have parsedToo : CommandLine.parse more = .ok ⟨.check brokenOptions, verbose⟩ := by
    decide +kernel
  have finished : (gateRun brokenOptions loggedSettings false loggedFiles ⟨0, 0⟩).result =
      .ok ⟨"d.csv", 2, ⟨[(.repoNameFormat .baseRepo, false)]⟩,
        [.ofRows .repoNameFormat "baseRepo" "Records have right repo name format" [1]],
        some "out/report.json"⟩ := by
    decide +kernel
  refine ⟨parsed, opened, parsedToo, ?_⟩
  obtain ⟨-, -, told, observes⟩ := log_observes loggedArguments brokenOptions loggedSettings false
    brokenFiles loggedFiles ⟨0, 0⟩ parsed opened
  obtain ⟨alike, report, stricter⟩ := observes more verbose parsedToo rfl fun _ _ _ planned =>
    nomatch planned
  refine ⟨?_, alike, report _ rfl ?_, stricter (by decide)⟩
  · exact told (by decide)
  · exact ⟨_, finished⟩

/-- A log that is kept in the file of the plan: what is told of the dataset stands behind the plan
when it is read, so whether the plan can be read depends on whether that is logged. -/
theorem exitCode_of_plan_in_log :
    let files : Files :=
      ⟨[(["d.csv"], .file (Text.Utf8.encode "stars\n1\n".toList)),
        (["p.json"], .file (Text.Utf8.encode "\x7b\"checks\":[]\x7d".toList))]⟩
    let arguments := ["check", "d.csv", "--plan", "p.json", "--log-file", "p.json"]
    (∃ options settings second,
      CommandLine.parse arguments = .ok ⟨.check options, settings⟩ ∧
      CommandLine.parse (arguments ++ ["-qq"]) = .ok ⟨.check options, second⟩ ∧
      settings.SameButLog second) ∧
    (∃ opened, openLog files (some "p.json") = .ok opened) ∧
    (run arguments none false files ⟨0, 0⟩).exitCode = 1 ∧
    (run (arguments ++ ["-qq"]) none false files ⟨0, 0⟩).exitCode = 0 := by
  intro files arguments
  refine ⟨⟨_, _, _, rfl, rfl, rfl⟩, ⟨_, rfl⟩, ?_, ?_⟩
  · decide +kernel
  · decide +kernel

end Program
end DatasetGate
