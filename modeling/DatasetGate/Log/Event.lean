import DatasetGate.Json.Basic

/-!
# Log events

What a run tells while it goes on. An event has a level, the part of the program that it comes from,
the spans that are open around it, a message and fields. A threshold lets the events pass that are at
least as severe as its level.
-/

set_option autoImplicit false

namespace DatasetGate.Log

/-- How severe an event is, the most severe level first. -/
inductive Level where
  | error
  | warn
  | info
  | debug
  | trace
  deriving DecidableEq, Repr

namespace Level

def all : List Level := [.error, .warn, .info, .debug, .trace]

def rank : Level → Nat
  | .error => 1
  | .warn => 2
  | .info => 3
  | .debug => 4
  | .trace => 5

def name : Level → String
  | .error => "error"
  | .warn => "warn"
  | .info => "info"
  | .debug => "debug"
  | .trace => "trace"

def label : Level → String
  | .error => "ERROR"
  | .warn => "WARN"
  | .info => "INFO"
  | .debug => "DEBUG"
  | .trace => "TRACE"

def find? (name : String) : Option Level :=
  all.find? fun level => level.name = name

end Level

/-- The least severe level that passes, if any does. -/
abbrev Threshold := Option Level

namespace Threshold

def name : Threshold → String
  | some level => level.name
  | none => "off"

def rank : Threshold → Nat
  | some level => level.rank
  | none => 0

def ofRank : Int → Threshold := fun rank =>
  if rank ≤ 0 then none
  else if rank = 1 then some .error
  else if rank = 2 then some .warn
  else if rank = 3 then some .info
  else if rank = 4 then some .debug
  else some .trace

def passes (threshold : Threshold) (level : Level) : Bool :=
  decide (level.rank ≤ rank threshold)

end Threshold

inductive Value where
  | text (value : String)
  | number (value : Nat)
  | flag (value : Bool)
  deriving DecidableEq, Repr

def Value.display : Value → String
  | .text value => value
  | .number value => toString value
  | .flag value => toString value

def Value.toJson : Value → Json
  | .text value => .string value
  | .number value => .integer value
  | .flag value => .bool value

structure Span where
  target : String
  level : Level
  name : String
  fields : List (String × Value)
  deriving DecidableEq, Repr

/-- An event with the spans around it, the outermost first. -/
structure Event where
  target : String
  level : Level
  spans : List Span
  message : String
  fields : List (String × Value)
  deriving DecidableEq, Repr

end DatasetGate.Log
