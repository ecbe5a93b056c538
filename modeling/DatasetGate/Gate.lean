import DatasetGate.Dataset.Load
import DatasetGate.Log.Event
import DatasetGate.Plan.Infer
import DatasetGate.Plan.Load
import DatasetGate.Report

/-!
# The gate

One run over one dataset: load it, take the given plan or infer one, judge all checks, and write a
report if one is asked for. Everything that happens is also told as log events; they are data beside
the result and change nothing about it.

One instant serves a whole run: every check with a date limit, the report and the log lines read the
same clock at the same time. Runs during which the clock moves on are left out; what a session does
when the instant changes between checks is told in `Session`.
-/

set_option autoImplicit false

namespace DatasetGate

open DatasetGate.Calendar

/-- What a run is asked to do: the dataset, a plan or the bounds of an inferred one, and where to
write a report. -/
structure GateOptions where
  dataset : String
  plan : Option String
  bounds : Bounds
  report : Option String
  deriving DecidableEq

structure GateResult where
  dataset : String
  records : Nat
  plan : PlanResult
  outcomes : List Outcome
  report : Option String
  deriving DecidableEq

def GateResult.passed (result : GateResult) : Bool :=
  result.plan.passed

inductive GateError where
  | dataset (path : String) (error : DatasetError)
  | plan (error : PlanError)
  | check (dataset : String) (error : CheckError)
  | report (path : String) (fault : FileFault)
  deriving DecidableEq

namespace GateError

def cause? : GateError → Option String
  | .dataset _ (.unreadable _ fault) => some fault.message
  | .plan (.unreadable _ fault) => some fault.message
  | .plan (.invalid _ error) => some error.message
  | .report _ fault => some fault.message
  | _ => none

def message (error : GateError) : String :=
  let own :=
    match error with
    | .dataset path error => "load dataset " ++ path ++ ": " ++ error.message
    | .plan error => error.message
    | .check path error => "validate " ++ path ++ ": " ++ error.message
    | .report path fault => "write report " ++ path ++ ": " ++ Report.faultMessage fault
  match error.cause? with
  | some cause => own ++ ": " ++ cause
  | none => own

end GateError

namespace Gate

open Log

def datasetTarget : String := "ghds_ingest::csv"

def gateTarget : String := "ghds_cli::commands"

def planTarget : String := "ghds_validate::plan"

def outcomeTarget : String := "ghds_validate::report"

def runSpan (dataset : String) : Span :=
  ⟨gateTarget, .info, "check", [("dataset", .text dataset)]⟩

def checkSpan (check : Check) : Span :=
  ⟨planTarget, .info, "check", [("check", .text check.display)]⟩

def loadedEvents (dataset : String) (frame : Frame) : List Event :=
  [⟨datasetTarget, .debug, [runSpan dataset], "loaded dataset",
     [("path", .text dataset), ("rows", .number frame.height), ("columns", .number frame.width)]⟩,
   ⟨gateTarget, .info, [runSpan dataset], "dataset loaded",
     [("records", .number frame.height), ("columns", .number frame.width)]⟩]

def ignoredBoundsEvents (options : GateOptions) : List Event :=
  match options.plan with
  | some path =>
      if options.bounds.since.isSome || !options.bounds.minimums.isEmpty then
        [⟨gateTarget, .warn, [runSpan options.dataset],
          "--since and --min are ignored when a plan file is given", [("plan", .text path)]⟩]
      else []
  | none => []

def planEvent (dataset : String) (plan : Plan) : Event :=
  if plan.checks.isEmpty then
    ⟨gateTarget, .warn, [runSpan dataset], "no checks apply to this dataset", []⟩
  else
    ⟨gateTarget, .info, [runSpan dataset], "running validation plan",
      [("checks", .number plan.checks.length)]⟩

/-- The event of an outcome: a warning with the count of failing rows if there are any. -/
def outcomeEvent (spans : List Span) (outcome : Outcome) : Event :=
  let fields : List (String × Value) :=
    [("check", .text outcome.kind.name), ("column", .text outcome.column),
     ("passed", .flag outcome.passed)]
  if outcome.passed then ⟨outcomeTarget, .info, spans, outcome.message, fields⟩
  else
    ⟨outcomeTarget, .warn, spans, outcome.message,
      fields ++ [("failed_rows", .number outcome.failedCount)]⟩

def checkEvents (dataset : String) (entry : Check × Verdict) : List Event :=
  let spans := [runSpan dataset, checkSpan entry.1]
  entry.2.outcomes.map (outcomeEvent spans) ++
    match entry.2.result with
    | .ok passed => [⟨planTarget, .debug, spans, "check finished", [("passed", .flag passed)]⟩]
    | .error _ => []

def choosePlan (options : GateOptions) (files : Files) (frame : Frame) : Except PlanError Plan :=
  match options.plan with
  | some path => Plan.load files path
  | none => .ok (Plan.infer frame options.bounds)

structure Judgement where
  events : List Event
  result : Except GateError GateResult

def judgeFrame (options : GateOptions) (now : Instant) (frame : Frame) (plan : Plan) :
    Judgement :=
  let trace := plan.run frame now
  ⟨planEvent options.dataset plan :: trace.flatMap (checkEvents options.dataset),
    match trace.result with
    | .error error => .error (.check options.dataset error)
    | .ok result =>
        .ok ⟨options.dataset, frame.height, result, trace.outcomes, options.report⟩⟩

def writeReport (files : Files) (now : Instant) (result : GateResult) : Except GateError Files :=
  match result.report with
  | none => .ok files
  | some path =>
      match Report.write files path now result.dataset result.outcomes with
      | .ok files => .ok files
      | .error fault => .error (.report path fault)

/-- A whole run: its events, its result, and the files after it. -/
structure Run where
  events : List Event
  result : Except GateError GateResult
  files : Files

def reported (files : Files) (now : Instant) (judged : Judgement) : Run :=
  match judged.result with
  | .error error => ⟨judged.events, .error error, files⟩
  | .ok result =>
      match writeReport files now result with
      | .error error => ⟨judged.events, .error error, files⟩
      | .ok files => ⟨judged.events, .ok result, files⟩

def openingEvents (options : GateOptions) (frame : Frame) : List Event :=
  loadedEvents options.dataset frame ++ ignoredBoundsEvents options

/-- A whole run whose events are put into the files as they are told. What is told of the dataset
stands there before the plan is read, so a plan kept in the file of the log is read with it. -/
def runKeeping (keep : Files → List Event → Files) (options : GateOptions) (files : Files)
    (now : Instant) : Run :=
  match Dataset.load files options.dataset Dataset.defaultLimit with
  | .error error => ⟨[], .error (.dataset options.dataset error), files⟩
  | .ok frame =>
      let opening := openingEvents options frame
      let files := keep files opening
      match choosePlan options files frame with
      | .error error => ⟨opening, .error (.plan error), files⟩
      | .ok plan =>
          let judged := judgeFrame options now frame plan
          let run := reported (keep files judged.events) now judged
          ⟨opening ++ run.events, run.result, run.files⟩

/-- A whole run whose events leave no trace in the files. -/
def run (options : GateOptions) (files : Files) (now : Instant) : Run :=
  runKeeping (fun files _ => files) options files now

end Gate
end DatasetGate
