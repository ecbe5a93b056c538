import DatasetGate.Json.Basic

/-!
# JSON tokens

The lexer is a machine that reads one character at a time. `Stage.step` says which tokens a
character completes and where the machine stands after it; `tokens` runs the machine over a text.
A text that is not made of tokens gives a last token that is broken.
-/

set_option autoImplicit false

namespace DatasetGate.Json

/-- One item of a string literal: a character, or half of a pair of sixteen-bit units written as an
escape. -/
inductive Piece where
  | char (value : Char)
  | lead (unit : Nat)
  | trail (unit : Nat)
  deriving DecidableEq, Repr

/-- Why a token is broken. A string that breaks off keeps what was read of it, since its earlier
pieces may be refused first. -/
inductive Break where
  | fault (value : Fault)
  | string (pieces : List Piece) (value : Fault)
  deriving DecidableEq, Repr

/-- A token. A number keeps its text. -/
inductive Token where
  | openArray
  | closeArray
  | openObject
  | closeObject
  | comma
  | colon
  | null
  | bool (value : Bool)
  | number (text : List Char)
  | string (pieces : List Piece)
  | broken (value : Break)
  deriving DecidableEq, Repr

/-- Where a number stands: after its sign, after a leading zero, among the digits of its whole
part, after the point, among the digits of its fraction, after the exponent mark, after the sign of
the exponent, and among the digits of the exponent. -/
inductive NumberStage where
  | sign
  | zero
  | whole
  | point
  | fraction
  | mark
  | markSign
  | exponent
  deriving DecidableEq, Repr

namespace NumberStage

def digit (c : Char) : Bool :=
  decide ('0' ≤ c ∧ c ≤ '9')

def next? (stage : NumberStage) (c : Char) : Option NumberStage :=
  let exponentMark := c = 'e' ∨ c = 'E'
  match stage with
  | .sign => if c = '0' then some .zero else if digit c then some .whole else none
  | .zero => if c = '.' then some .point else if exponentMark then some .mark else none
  | .whole =>
      if digit c then some .whole
      else if c = '.' then some .point
      else if exponentMark then some .mark
      else none
  | .point => if digit c then some .fraction else none
  | .fraction =>
      if digit c then some .fraction else if exponentMark then some .mark else none
  | .mark =>
      if c = '+' ∨ c = '-' then some .markSign else if digit c then some .exponent else none
  | .markSign => if digit c then some .exponent else none
  | .exponent => if digit c then some .exponent else none

def complete : NumberStage → Bool
  | .zero | .whole | .fraction | .exponent => true
  | .sign | .point | .mark | .markSign => false

/-- A number may end here before the given character. A leading zero stands alone. -/
def endsBefore (stage : NumberStage) (c : Char) : Bool :=
  stage.complete && !(stage = .zero && digit c)

end NumberStage

/-- Where the lexer stands: between tokens, or within a token of which it has read a part. Texts
and pieces are kept in reverse. -/
inductive Stage where
  | between
  | number (text : List Char) (stage : NumberStage)
  | word (rest : List Char) (token : Token)
  | string (pieces : List Piece)
  | escape (pieces : List Piece)
  | unit (pieces : List Piece) (due : Nat) (value : Nat)
  deriving DecidableEq

/-- The tokens that one character completes, and where the lexer stands after it; without a stage
the lexer stops. -/
structure Step where
  tokens : List Token
  next : Option Stage

namespace Step

def hold (stage : Stage) : Step := ⟨[], some stage⟩

def emit (token : Token) : Step := ⟨[token], some .between⟩

def stop (fault : Break) : Step := ⟨[.broken fault], none⟩

end Step

def isSpace (c : Char) : Bool :=
  c = ' ' || c = '\n' || c = '\t' || c = '\r'

def word? (c : Char) : Option (List Char × Token) :=
  match c with
  | 'n' => some (['u', 'l', 'l'], .null)
  | 't' => some (['r', 'u', 'e'], .bool true)
  | 'f' => some (['a', 'l', 's', 'e'], .bool false)
  | _ => none

def start (c : Char) : Step :=
  if isSpace c then .hold .between
  else if c = '[' then .emit .openArray
  else if c = ']' then .emit .closeArray
  else if c = '\x7b' then .emit .openObject
  else if c = '\x7d' then .emit .closeObject
  else if c = ',' then .emit .comma
  else if c = ':' then .emit .colon
  else if c = '"' then .hold (.string [])
  else if c = '-' then .hold (.number [c] .sign)
  else
    match NumberStage.next? .sign c, word? c with
    | some stage, _ => .hold (.number [c] stage)
    | none, some word => .hold (.word word.1 word.2)
    | none, none => .stop (.fault .malformed)

def hexValue? (c : Char) : Option Nat :=
  if '0' ≤ c ∧ c ≤ '9' then some (c.toNat - '0'.toNat)
  else if 'a' ≤ c ∧ c ≤ 'f' then some (c.toNat - 'a'.toNat + 10)
  else if 'A' ≤ c ∧ c ≤ 'F' then some (c.toNat - 'A'.toNat + 10)
  else none

/-- The piece that a sixteen-bit unit makes, and how it joins the piece before it: a trailing unit
completes a leading one. -/
def pushUnit (pieces : List Piece) (value : Nat) : List Piece :=
  if 0xD800 ≤ value ∧ value < 0xDC00 then .lead value :: pieces
  else if 0xDC00 ≤ value ∧ value < 0xE000 then
    match pieces with
    | .lead first :: earlier =>
        .char (Char.ofNat (0x10000 + (first - 0xD800) * 0x400 + (value - 0xDC00))) :: earlier
    | _ => .trail value :: pieces
  else .char (Char.ofNat value) :: pieces

def shortEscape? (c : Char) : Option Char :=
  match c with
  | '"' => some '"'
  | '\\' => some '\\'
  | '/' => some '/'
  | 'b' => some '\x08'
  | 'f' => some '\x0c'
  | 'n' => some '\n'
  | 'r' => some '\r'
  | 't' => some '\t'
  | _ => none

def octets (cs : List Char) : Nat :=
  (cs.map Char.utf8Size).foldr (· + ·) 0

/-- One character, with the text after it. Four hexadecimal digits are due after `\u`; a text with
fewer octets left is cut short whatever they are. -/
def Stage.step (stage : Stage) (c : Char) (rest : List Char) : Step :=
  match stage with
  | .between => start c
  | .number text within =>
      match within.next? c with
      | some next => .hold (.number (c :: text) next)
      | none =>
          if within.endsBefore c then
            ⟨.number text.reverse :: (start c).tokens, (start c).next⟩
          else .stop (.fault .malformed)
  | .word [] token => ⟨token :: (start c).tokens, (start c).next⟩
  | .word (expected :: more) token =>
      if c = expected then
        if more.isEmpty then .emit token else .hold (.word more token)
      else .stop (.fault .malformed)
  | .string pieces =>
      if c = '"' then .emit (.string pieces.reverse)
      else if c = '\\' then .hold (.escape pieces)
      else if c.toNat < 0x20 then .stop (.string pieces.reverse .malformed)
      else .hold (.string (.char c :: pieces))
  | .escape pieces =>
      if c = 'u' then .hold (.unit pieces 4 0)
      else
        match shortEscape? c with
        | some value => .hold (.string (.char value :: pieces))
        | none => .stop (.string pieces.reverse .malformed)
  | .unit pieces due value =>
      match hexValue? c with
      | some digit =>
          let next := 16 * value + digit
          if due ≤ 1 then .hold (.string (pushUnit pieces next))
          else .hold (.unit pieces (due - 1) next)
      | none =>
          let fault := if due ≤ octets (c :: rest) then Fault.malformed else .cutShort
          .stop (.string pieces.reverse fault)

def Stage.finish : Stage → List Token
  | .between => []
  | .number text within =>
      if within.complete then [.number text.reverse] else [.broken (.fault .cutShort)]
  | .word [] token => [token]
  | .word (_ :: _) _ => [.broken (.fault .cutShort)]
  | .string pieces => [.broken (.string pieces.reverse .cutShort)]
  | .escape pieces => [.broken (.string pieces.reverse .cutShort)]
  | .unit pieces _ _ => [.broken (.string pieces.reverse .cutShort)]

def Stage.scan : Stage → List Char → List Token
  | stage, [] => stage.finish
  | stage, c :: rest =>
      let step := stage.step c rest
      step.tokens ++
        match step.next with
        | some next => next.scan rest
        | none => []

def tokens (text : List Char) : List Token :=
  Stage.between.scan text

/-- The text of a string literal; half a pair has none. -/
def textOf? (pieces : List Piece) : Option (List Char) :=
  pieces.mapM fun
    | .char c => some c
    | .lead _ => none
    | .trail _ => none

def Break.lenient : Break → Fault
  | .fault value => value
  | .string _ value => value

/-- The fault of a broken token where halves of pairs are refused. A leading half that the string
breaks off after leaves the string's own fault. -/
def Break.strict : Break → Fault
  | .fault value => value
  | .string pieces value =>
      match pieces.dropWhile (fun piece => match piece with | .char _ => true | _ => false) with
      | [] => value
      | [.lead _] => value
      | _ => .malformed

end DatasetGate.Json
