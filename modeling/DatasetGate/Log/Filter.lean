import DatasetGate.Log.Event
import DatasetGate.Text.Blank
import DatasetGate.Text.Integer

/-!
# Log filters

Which events are logged. A filter is a list of directives. A directive gives a threshold to a part of
the program, named by how the names of its targets start, or to all of it; of the directives that
apply, the one with the longest name decides. A directive that names a span lets further events pass
within that span.
-/

set_option autoImplicit false

namespace DatasetGate.Log

open DatasetGate.Text

structure Directive where
  target : Option String
  span : Option String
  threshold : Threshold
  deriving DecidableEq, Repr

structure Filter where
  directives : List Directive
  deriving DecidableEq, Repr

namespace Directive

def covers (directive : Directive) (target : String) : Bool :=
  match directive.target with
  | none => true
  | some name => name.toList.isPrefixOf target.toList

/-- The length of the name in octets; a directive for all targets has none. -/
def weight (directive : Directive) : Nat :=
  match directive.target with
  | none => 0
  | some name => name.utf8ByteSize + 1

end Directive

def readThreshold? (word : String) : Option Threshold :=
  let named : Option Threshold :=
    let lower := String.ofList (word.toList.map Char.toLower)
    if word.isEmpty then some (some .error)
    else if lower = "off" then some none
    else (Level.find? lower).map some
  match word.toList with
  | '-' :: _ => named
  | cs =>
      match readInteger? cs with
      | some n => if n ≤ 5 then some (Threshold.ofRank n) else named
      | none => named

/-- The threshold after an equals sign. Nothing there lets all pass. -/
def readAssigned? (word : String) : Option Threshold :=
  if word.isEmpty then some (some .trace) else readThreshold? word

/-- A directive starts with a letter, a digit, or one of a few marks. Letters past ASCII count as
letters. -/
def startsDirective (c : Char) : Bool :=
  c.isAlphanum || c = '-' || c = ':' || c = '_' || (decide (0x7F < c.toNat) && !isBlank c)

def readAfterSpan? : List Char → Option Threshold
  | '=' :: word => readAssigned? (String.ofList word)
  | rest => if rest.all isBlank then some (some .trace) else none

def readSpan? (target : Option String) (cs : List Char) : Option Directive :=
  let name := cs.takeWhile (· ≠ ']')
  match cs.dropWhile (· ≠ ']') with
  | ']' :: rest =>
      if name.contains '\x7b' then none
      else (readAfterSpan? rest).map fun threshold => ⟨target, some (String.ofList name), threshold⟩
  | _ => none

def isMark (c : Char) : Bool :=
  c = '=' || c = '['

/-- A directive that no blanks stand before. A word that is no level is a target with all its
events. -/
def readPlainDirective? (cs : List Char) : Option Directive :=
  let word := String.ofList (cs.takeWhile fun c => !isMark c)
  match cs.dropWhile fun c => !isMark c with
  | '=' :: rest =>
      if word.isEmpty then none
      else (readAssigned? (String.ofList rest)).map fun threshold => ⟨some word, none, threshold⟩
  | '[' :: rest => readSpan? (if word.isEmpty then none else some word) rest
  | _ =>
      match readThreshold? word with
      | some threshold => some ⟨none, none, threshold⟩
      | none => some ⟨some word, none, some .trace⟩

def assigns (cs : List Char) : Bool :=
  match cs.dropWhile fun c => !isMark c with
  | '=' :: _ => true
  | '[' :: rest => (rest.dropWhile (· ≠ ']')).contains '='
  | _ => false

/-- One directive. Blanks in front belong to the name of what it speaks of, and nothing has such a
name; a threshold cannot be given behind them. -/
def readDirective? (text : String) : Option Directive :=
  let cs := text.toList
  match trimLeft cs with
  | [] => none
  | first :: rest =>
      if first ≠ '[' ∧ !startsDirective first then none
      else if cs.head? = some first then readPlainDirective? (first :: rest)
      else if assigns (first :: rest) then none
      else (readPlainDirective? (first :: rest)).map fun _ => ⟨some text, none, some .trace⟩

/-- Directives with commas between them, if each can be read. Without any, errors pass. -/
def Filter.read? (text : String) : Option Filter :=
  let words := (text.splitOn ",").filter fun word => !word.isEmpty
  (words.mapM readDirective?).map fun directives =>
    if directives.isEmpty then ⟨[⟨none, none, some .error⟩]⟩ else ⟨directives⟩

namespace Filter

/-- The filter of a level for the program's own parts; of all else, warnings pass. -/
def ofThreshold (threshold : Threshold) : Filter :=
  ⟨⟨none, none, some .warn⟩ ::
    ["ghds", "ghds_cli", "ghds_ingest", "ghds_validate"].map fun name =>
      ⟨some name, none, threshold⟩⟩

/-- The heavier of two directives, the later one of two of the same weight. -/
def heavier (best : Option Directive) (directive : Directive) : Option Directive :=
  match best with
  | none => some directive
  | some chosen => if chosen.weight ≤ directive.weight then some directive else some chosen

def thresholdFor (filter : Filter) (target : String) : Threshold :=
  let applying := filter.directives.filter fun directive =>
    directive.span.isNone && directive.covers target
  match applying.foldl heavier none with
  | some directive => directive.threshold
  | none => none

def naming (filter : Filter) (span : Span) : List Directive :=
  filter.directives.filter fun directive =>
    directive.span = some span.name && directive.covers span.target

def passes (filter : Filter) (spans : List Span) (target : String) (level : Level) : Bool :=
  (filter.thresholdFor target).passes level ||
    spans.any fun span => (filter.naming span).any fun directive => directive.threshold.passes level

def shownSpans (filter : Filter) : List Span → List Span → List Span
  | _, [] => []
  | outer, span :: rest =>
      let shown := !(filter.naming span).isEmpty || filter.passes outer span.target span.level
      if shown then span :: shownSpans filter (outer ++ [span]) rest
      else shownSpans filter outer rest

def apply (filter : Filter) (events : List Event) : List Event :=
  (events.filter fun event => filter.passes event.spans event.target event.level).map fun event =>
    { event with spans := filter.shownSpans [] event.spans }

end Filter
end DatasetGate.Log
