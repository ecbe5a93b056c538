import DatasetGate.Gate
import DatasetGate.Log.Layout

/-!
# The command line

Arguments to a command with its settings. There are two commands; settings of the log may stand before
the name of the command or after it, and after it they count more. An option takes the next argument
as its value, which is read when the argument after that is looked at, so of two faults the one whose
argument is finished first counts.
-/

set_option autoImplicit false

namespace DatasetGate

open DatasetGate.Text DatasetGate.Calendar DatasetGate.Log

inductive UsageError where
  | help
  | version
  | helpOnMissing
  | missingSubcommand
  | invalidSubcommand
  | unknownArgument
  | missingArgument
  | invalidValue
  | refusedValue (message : String)
  | tooManyValues
  | conflict
  deriving DecidableEq, Repr

/-- Reads a bound on a numeric column, written with an equals sign between column and number. Blanks
around either do not matter. -/
def parseMinimum (value : String) : Except String (NumericColumn × Int) :=
  let cs := value.toList
  match cs.dropWhile (· ≠ '=') with
  | [] => .error ("'" ++ value ++ "' must look like COLUMN=N")
  | _ :: limit =>
      match Family.select NumericColumn (String.ofList (trim (cs.takeWhile (· ≠ '=')))) with
      | .error refusal => .error refusal.message
      | .ok column =>
          match readBounded (-0x8000000000000000) 0x7FFFFFFFFFFFFFFF (trim limit) with
          | .error fault =>
              .error ("invalid bound '" ++ String.ofList limit ++ "': " ++ fault.message)
          | .ok number => .ok (column, number)

def parseSince (value : String) : Except String Instant :=
  match parseTimestamp? value with
  | some instant => .ok instant
  | none => .error ("'" ++ value ++ "' is not a date (expected yyyy-MM-dd)")

inductive ColorChoice where
  | auto
  | always
  | never
  deriving DecidableEq, Repr

def ColorChoice.find? : String → Option ColorChoice
  | "auto" => some .auto
  | "always" => some .always
  | "never" => some .never
  | _ => none

def Log.Layout.find? : String → Option Layout
  | "pretty" => some .pretty
  | "compact" => some .compact
  | "json" => some .json
  | _ => none

structure Settings where
  verbose : Nat
  quiet : Nat
  color : Option ColorChoice
  level : Option Level
  layout : Option Layout
  logFile : Option String
  dataset : Option String
  plan : Option String
  since : Option Instant
  minimums : List (NumericColumn × Int)
  report : Option String
  deriving DecidableEq

namespace Settings

def none : Settings :=
  ⟨0, 0, Option.none, Option.none, Option.none, Option.none, Option.none, Option.none, Option.none,
    [], Option.none⟩

def isSome (settings : Settings) : Bool :=
  settings != none

/-- The settings before the name of a command with those after it, which count more. -/
def merge (outer inner : Settings) : Settings :=
  { inner with
    verbose := if inner.verbose = 0 then outer.verbose else inner.verbose
    quiet := if inner.quiet = 0 then outer.quiet else inner.quiet
    color := inner.color.or outer.color
    level := inner.level.or outer.level
    layout := inner.layout.or outer.layout
    logFile := inner.logFile.or outer.logFile }

def threshold (settings : Settings) : Threshold :=
  .ofRank (Level.info.rank + settings.verbose - settings.quiet)

def hasFlags (settings : Settings) : Bool :=
  settings.verbose != 0 || settings.quiet != 0

end Settings

inductive Parameter where
  | color
  | level
  | layout
  | logFile
  | dataset
  | plan
  | since
  | minimum
  | report
  deriving DecidableEq, Repr

inductive Scope where
  | top
  | check
  | columns
  deriving DecidableEq, Repr

namespace Parameter

def find? (scope : Scope) (name : String) : Option Parameter :=
  match name with
  | "color" => some .color
  | "log-level" => some .level
  | "log-format" => some .layout
  | "log-file" => some .logFile
  | "plan" => if scope = .check then some .plan else none
  | "since" => if scope = .check then some .since else none
  | "min" => if scope = .check then some .minimum else none
  | "report" => if scope = .check then some .report else none
  | _ => none

def isSet (settings : Settings) : Parameter → Bool
  | .color => settings.color.isSome
  | .level => settings.level.isSome
  | .layout => settings.layout.isSome
  | .logFile => settings.logFile.isSome
  | .dataset => settings.dataset.isSome
  | .plan => settings.plan.isSome
  | .since => settings.since.isSome
  | .minimum => false
  | .report => settings.report.isSome

def refusal (value usage reason : String) : UsageError :=
  .refusedValue ("error: invalid value '" ++ value ++ "' for '" ++ usage ++ "': " ++ reason)

def readPath (value : String) : Except UsageError String :=
  if value.isEmpty then .error .invalidValue else .ok value

def readWord {α : Type} (find : String → Option α) (value : String) : Except UsageError α :=
  match find value with
  | some choice => .ok choice
  | none => .error .invalidValue

def assign (settings : Settings) (value : String) : Parameter → Except UsageError Settings
  | .color => (readWord ColorChoice.find? value).map fun v => { settings with color := some v }
  | .level => (readWord Level.find? value).map fun v => { settings with level := some v }
  | .layout => (readWord Layout.find? value).map fun v => { settings with layout := some v }
  | .logFile => (readPath value).map fun v => { settings with logFile := some v }
  | .dataset => (readPath value).map fun v => { settings with dataset := some v }
  | .plan => (readPath value).map fun v => { settings with plan := some v }
  | .report => (readPath value).map fun v => { settings with report := some v }
  | .since =>
      match parseSince value with
      | .ok instant => .ok { settings with since := some instant }
      | .error reason => .error (refusal value "--since <DATE>" reason)
  | .minimum =>
      match parseMinimum value with
      | .ok entry => .ok { settings with minimums := settings.minimums ++ [entry] }
      | .error reason => .error (refusal value "--min <COLUMN=N>" reason)

end Parameter

/-- The reader between arguments: the settings so far, a parameter whose value is not read yet, with
the value if that has been seen, and whether further arguments are taken as they stand. -/
structure ArgumentState where
  settings : Settings
  pending : Option (Parameter × Option String)
  literal : Bool

namespace ArgumentState

def start : ArgumentState := ⟨.none, none, false⟩

def awaits (state : ArgumentState) : Bool :=
  match state.pending with
  | some (_, none) => true
  | _ => false

def resolve (state : ArgumentState) : Except UsageError Settings :=
  match state.pending with
  | none => .ok state.settings
  | some (_, none) => .error .invalidValue
  | some (parameter, some value) =>
      if parameter.isSet state.settings then .error .conflict
      else parameter.assign state.settings value

def expect (state : ArgumentState) (parameter : Parameter) (value : Option String) :
    Except UsageError ArgumentState :=
  state.resolve.map fun settings => ⟨settings, some (parameter, value), state.literal⟩

def assignNow (state : ArgumentState) (parameter : Parameter) (value : String) :
    Except UsageError ArgumentState :=
  match state.expect parameter (some value) with
  | .error error => .error error
  | .ok next => next.resolve.map fun settings => ⟨settings, none, state.literal⟩

def flag (state : ArgumentState) (change : Settings → Settings) :
    Except UsageError ArgumentState :=
  state.resolve.map fun settings => ⟨change settings, none, state.literal⟩

def request (state : ArgumentState) (text : UsageError) : Except UsageError ArgumentState :=
  match state.resolve with
  | .error error => .error error
  | .ok _ => .error text

def moreVerbose (settings : Settings) : Settings :=
  { settings with verbose := settings.verbose + 1 }

def moreQuiet (settings : Settings) : Settings :=
  { settings with quiet := settings.quiet + 1 }

def flagOf? (scope : Scope) (state : ArgumentState) (name : String) :
    Option (Except UsageError ArgumentState) :=
  match name with
  | "verbose" => some (state.flag moreVerbose)
  | "quiet" => some (state.flag moreQuiet)
  | "help" => some (state.request .help)
  | "version" => if scope = .top then some (state.request .version) else none
  | _ => none

def long (scope : Scope) (state : ArgumentState) (body : List Char) :
    Except UsageError ArgumentState :=
  let name := String.ofList (body.takeWhile (· ≠ '='))
  match body.dropWhile (· ≠ '='), Parameter.find? scope name with
  | _ :: value, some parameter => state.assignNow parameter (String.ofList value)
  | [], some parameter => state.expect parameter none
  | attached, none =>
      match flagOf? scope state name with
      | none => .error .unknownArgument
      | some changed => if attached.isEmpty then changed else .error .tooManyValues

def longName (c : Char) : String :=
  match c with
  | 'v' => "verbose"
  | 'q' => "quiet"
  | 'h' => "help"
  | 'V' => "version"
  | _ => ""

def short (scope : Scope) : ArgumentState → List Char → Except UsageError ArgumentState
  | state, [] => .ok state
  | state, c :: rest =>
      match flagOf? scope state (longName c) with
      | none => .error .unknownArgument
      | some (.error error) => .error error
      | some (.ok next) => short scope next rest

def isSubcommand (argument : String) : Bool :=
  argument = "check" || argument = "columns" || argument = "help"

def positional (scope : Scope) (state : ArgumentState) (argument : String) :
    Except UsageError ArgumentState :=
  match scope with
  | .top =>
      .error (if state.literal && isSubcommand argument then .unknownArgument
        else .invalidSubcommand)
  | .columns => .error .unknownArgument
  | .check =>
      let taken := state.settings.dataset.isSome ||
        (match state.pending with
          | some (.dataset, _) => true
          | _ => false)
      if taken then .error .unknownArgument else state.expect .dataset (some argument)

def argument (scope : Scope) (state : ArgumentState) (argument : String) :
    Except UsageError ArgumentState :=
  if state.literal then positional scope state argument
  else
    match argument.toList with
    | ['-', '-'] => .ok ⟨state.settings, state.pending, true⟩
    | '-' :: '-' :: body => long scope state body
    | '-' :: c :: rest => short scope state (c :: rest)
    | _ =>
        match state.pending with
        | some (parameter, none) => .ok ⟨state.settings, some (parameter, some argument), false⟩
        | _ => positional scope state argument

def scan (scope : Scope) : ArgumentState → List String →
    Except UsageError (ArgumentState × Option (String × List String))
  | state, [] => .ok (state, none)
  | state, first :: rest =>
      if scope = .top ∧ !state.literal ∧ !state.awaits ∧ isSubcommand first then
        .ok (state, some (first, rest))
      else
        match argument scope state first with
        | .error error => .error error
        | .ok next => scan scope next rest

end ArgumentState

inductive Command where
  | check (options : GateOptions)
  | columns
  deriving DecidableEq

structure CommandLine where
  command : Command
  settings : Settings
  deriving DecidableEq

namespace CommandLine

def flagsConflict (settings : Settings) : Bool :=
  settings.verbose != 0 && settings.quiet != 0

def boundsConflict (settings : Settings) : Bool :=
  settings.plan.isSome && (settings.since.isSome || !settings.minimums.isEmpty)

def readLevel (scope : Scope) (arguments : List String) : Except UsageError Settings :=
  match ArgumentState.scan scope .start arguments with
  | .error error => .error error
  | .ok (state, _) =>
      match state.resolve with
      | .error error => .error error
      | .ok settings =>
          if flagsConflict settings || boundsConflict settings then .error .conflict
          else .ok settings

def readCheck (arguments : List String) : Except UsageError (Command × Settings) :=
  match readLevel .check arguments with
  | .error error => .error error
  | .ok settings =>
      match settings.dataset with
      | none => .error .missingArgument
      | some dataset =>
          .ok (.check ⟨dataset, settings.plan, ⟨settings.since, settings.minimums⟩,
            settings.report⟩, settings)

def readColumns (arguments : List String) : Except UsageError (Command × Settings) :=
  (readLevel .columns arguments).map fun settings => (.columns, settings)

def readHelp : List String → UsageError
  | [] => .help
  | [name] => if ArgumentState.isSubcommand name then .help else .invalidSubcommand
  | _ => .invalidSubcommand

def readCommand (name : String) (arguments : List String) :
    Except UsageError (Command × Settings) :=
  match name with
  | "check" => readCheck arguments
  | "columns" => readColumns arguments
  | _ => .error (readHelp arguments)

def parse (arguments : List String) : Except UsageError CommandLine :=
  match ArgumentState.scan .top .start arguments with
  | .error error => .error error
  | .ok (state, none) =>
      match state.resolve with
      | .error error => .error error
      | .ok settings => .error (if settings.isSome then .missingSubcommand else .helpOnMissing)
  | .ok (state, some (name, rest)) =>
      match readCommand name rest with
      | .error error => .error error
      | .ok (command, inner) =>
          match state.resolve with
          | .error error => .error error
          | .ok outer =>
              if flagsConflict outer then .error .conflict else .ok ⟨command, outer.merge inner⟩

end CommandLine
end DatasetGate
