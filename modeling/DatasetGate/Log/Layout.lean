import DatasetGate.Calendar.Instant
import DatasetGate.Json.Writer
import DatasetGate.Log.Event

/-!
# Log lines

The three layouts of a log line: one for readers with the fields of spans in front of the message, a
compact one with them at the end, and JSON. The first two may be coloured.
-/

set_option autoImplicit false

namespace DatasetGate.Log

open DatasetGate.Calendar DatasetGate.Text

inductive Layout where
  | pretty
  | compact
  | json
  deriving DecidableEq, Repr

def Layout.name : Layout → String
  | .pretty => "pretty"
  | .compact => "compact"
  | .json => "json"

inductive Style where
  | bold
  | dim
  | italic
  | red
  | green
  | yellow
  | blue
  | magenta
  deriving DecidableEq, Repr

def Style.code : Style → Nat
  | .bold => 1
  | .dim => 2
  | .italic => 3
  | .red => 31
  | .green => 32
  | .yellow => 33
  | .blue => 34
  | .magenta => 35

def Level.style : Level → Style
  | .error => .red
  | .warn => .yellow
  | .info => .green
  | .debug => .blue
  | .trace => .magenta

def escape : String := String.singleton (Char.ofNat 0x1B)

def painted (coloured : Bool) (style : Style) (text : String) : String :=
  if coloured then escape ++ "[" ++ toString style.code ++ "m" ++ text ++ escape ++ "[0m"
  else text

def levelText (coloured : Bool) (level : Level) : String :=
  let blanks := String.ofList (List.replicate (5 - level.label.length) ' ')
  painted coloured level.style (blanks ++ level.label)

def fieldText (coloured : Bool) (field : String × Value) : String :=
  painted coloured .italic field.1 ++ painted coloured .dim "=" ++ field.2.display

def fieldsText (coloured : Bool) (fields : List (String × Value)) : String :=
  " ".intercalate (fields.map (fieldText coloured))

def twoHexDigits (n : Nat) : String :=
  String.ofList [Json.hexDigit (n / 16), Json.hexDigit (n % 16)]

/-- A character of a message. Those that a terminal could take as commands are written as numbers. -/
def messageChar (c : Char) : String :=
  let n := c.toNat
  if n = 0x1B ∨ n = 0x07 ∨ n = 0x08 ∨ n = 0x0C ∨ n = 0x7F then "\\x" ++ twoHexDigits n
  else if 0x80 ≤ n ∧ n ≤ 0x9F then "\\u\x7b" ++ twoHexDigits n ++ "\x7d"
  else String.singleton c

def messageText (message : String) : String :=
  String.join (message.toList.map messageChar)

def bodyText (coloured : Bool) (event : Event) : String :=
  " ".intercalate (messageText event.message :: event.fields.map (fieldText coloured))

def spanText (coloured : Bool) (span : Span) : String :=
  let fields :=
    if span.fields.isEmpty then ""
    else
      painted coloured .bold "\x7b" ++ fieldsText coloured span.fields ++
        painted coloured .bold "\x7d"
  painted coloured .bold span.name ++ fields ++ painted coloured .dim ":"

def afterSpans (spans : List Span) : String :=
  if spans.isEmpty then "" else " "

def prettyLine (coloured : Bool) (event : Event) : String :=
  levelText coloured event.level ++ " " ++ String.join (event.spans.map (spanText coloured)) ++
    afterSpans event.spans ++ bodyText coloured event

def compactLine (coloured : Bool) (event : Event) : String :=
  let names := event.spans.map fun span => painted coloured .bold span.name ++ ":"
  let fields := event.spans.filterMap fun span =>
    if span.fields.isEmpty then none
    else some (" " ++ painted coloured .dim (fieldsText coloured span.fields))
  levelText coloured event.level ++ " " ++ String.join names ++ afterSpans event.spans ++
    bodyText coloured event ++ String.join fields

def spanJson (span : Span) : Json :=
  .object (span.fields.map (fun (name, value) => (name, value.toJson)) ++
    [("name", .string span.name)])

def stamp (now : Instant) : String :=
  let time := now.time
  now.date.text ++ "T" ++ zeroPadded 2 time.hour ++ ":" ++ zeroPadded 2 time.minute ++ ":" ++
    zeroPadded 2 time.second ++ "." ++ zeroPadded 6 (time.nanos / 1000) ++ "Z"

def spansJson (spans : List Span) : List (String × Json) :=
  match spans.getLast? with
  | some inner => [("span", spanJson inner), ("spans", .array (spans.map spanJson))]
  | none => []

def jsonLine (now : Instant) (event : Event) : String :=
  Json.text <| .object <|
    [("timestamp", .string (stamp now)), ("level", .string event.level.label),
     ("fields", .object (("message", .string event.message) ::
       event.fields.map fun (name, value) => (name, value.toJson)))] ++ spansJson event.spans

def line (layout : Layout) (coloured : Bool) (now : Instant) (event : Event) : String :=
  match layout with
  | .pretty => prettyLine coloured event
  | .compact => compactLine coloured event
  | .json => jsonLine now event

end DatasetGate.Log
