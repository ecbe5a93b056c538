import DatasetGate.CommandLine
import DatasetGate.Log.Filter
import DatasetGate.Summary

/-!
# The program

From arguments, a log filter of the environment, files and the present instant to an exit code, lines
of output and changed files. A check exits with zero when every check of the plan passed, and else
with one.
-/

set_option autoImplicit false

namespace DatasetGate.Program

open DatasetGate.Text DatasetGate.Calendar DatasetGate.Log

structure Execution where
  exitCode : Nat
  output : List String
  errors : List String
  files : Files

def versionText : String := "ghds 0.1.0"

def columnLines : List String :=
  Check.supportedColumns.map fun (kinds, columns) =>
    kinds ++ String.ofList (List.replicate (18 - kinds.length) ' ') ++ " " ++ columns

def threshold (settings : Settings) : Threshold :=
  match settings.level with
  | some level => some level
  | none => settings.threshold

/-- The filter of the log. That of the environment counts unless the arguments say something. -/
def filter (settings : Settings) (environment : Option String) : Filter :=
  let own := Filter.ofThreshold (threshold settings)
  if settings.hasFlags || settings.level.isSome then own
  else
    match environment with
    | some text => (Filter.read? text).getD own
    | none => own

/-- Log lines are coloured. Without a choice they are when they go to a terminal. -/
def coloured (settings : Settings) (terminal : Bool) : Bool :=
  match settings.color.getD .auto with
  | .always => true
  | .never => false
  | .auto => settings.logFile.isNone && terminal

def logLines (line : Event → String) (filter : Filter) (events : List Event) : List String :=
  (filter.apply events).map line

def lineBytes (lines : List String) : List UInt8 :=
  lines.flatMap fun line => Utf8.encode (line.toList ++ ['\n'])

def summaryLines (result : GateResult) : List String :=
  Summary.lines result.dataset result.records result.report result.plan result.outcomes

/-- Makes the file of the log if it is missing. -/
def openLog (files : Files) : Option String → Except FileFault Files
  | none => .ok files
  | some path => files.append path []

/-- Puts lines behind what the file of the log holds. A log without a file changes none, and lines
that cannot be put there are lost. -/
def keepLog (path : Option String) (lines : List Event → List String) (files : Files)
    (events : List Event) : Files :=
  match path with
  | none => files
  | some path => (files.append path (lineBytes (lines events))).toOption.getD files

def errorLine (message : String) : String :=
  "error: " ++ message

def runCheck (options : GateOptions) (logFile : Option String)
    (lines : List Event → List String) (files : Files) (now : Instant) : Execution :=
  let run := Gate.runKeeping (keepLog logFile lines) options files now
  let log := if logFile.isSome then [] else lines run.events
  match run.result with
  | .error error => ⟨1, [], log ++ [errorLine error.message], run.files⟩
  | .ok result => ⟨if result.passed then 0 else 1, summaryLines result, log, run.files⟩

/-- The lines of the log for events of a run. -/
def eventLines (settings : Settings) (environment : Option String) (terminal : Bool)
    (now : Instant) : List Event → List String :=
  let line := Log.line (settings.layout.getD .pretty) (coloured settings terminal) now
  logLines line (filter settings environment)

def runCommand (commandLine : CommandLine) (environment : Option String) (terminal : Bool)
    (files : Files) (now : Instant) : Execution :=
  let settings := commandLine.settings
  match openLog files settings.logFile with
  | .error fault => ⟨1, [], [errorLine ("failed to initialize logging: " ++ fault.message)], files⟩
  | .ok files =>
      match commandLine.command with
      | .columns => ⟨0, columnLines, [], files⟩
      | .check options =>
          runCheck options settings.logFile (eventLines settings environment terminal now) files now

def pathsRead (commandLine : CommandLine) : List String :=
  match commandLine.command with
  | .columns => []
  | .check options => options.dataset :: options.plan.toList

def pathsWritten (commandLine : CommandLine) : List String :=
  commandLine.settings.logFile.toList ++
    match commandLine.command with
    | .columns => []
    | .check options => options.report.toList

def usageLine : UsageError → String
  | .help => "Usage: ghds [OPTIONS] <COMMAND>"
  | .version => versionText
  | .refusedValue message => message
  | .helpOnMissing => "Usage: ghds [OPTIONS] <COMMAND>"
  | .missingSubcommand => errorLine "a command is required: check, columns or help"
  | .invalidSubcommand => errorLine "unrecognized command"
  | .unknownArgument => errorLine "unexpected argument"
  | .missingArgument => errorLine "the dataset is missing"
  | .invalidValue => errorLine "invalid value"
  | .tooManyValues => errorLine "a flag takes no value"
  | .conflict => errorLine "arguments that cannot be used together"

def run (arguments : List String) (environment : Option String) (terminal : Bool) (files : Files)
    (now : Instant) : Execution :=
  match CommandLine.parse arguments with
  | .ok commandLine => runCommand commandLine environment terminal files now
  | .error .help => ⟨0, [usageLine .help], [], files⟩
  | .error .version => ⟨0, [usageLine .version], [], files⟩
  | .error error => ⟨2, [], [usageLine error], files⟩

end DatasetGate.Program
