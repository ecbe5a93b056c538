import DatasetGate.Json.Number
import DatasetGate.Json.Token

/-!
# Partly read JSON

A draft is the tree of a text as far as the text can be read. Where reading breaks off, the
innermost value, or the array or object around the break, says so. A reader that walks a draft in
text order meets every value before the break that follows it, so of two faults the first in the
text wins. `Document.ofTokens` builds the draft with a stack of the arrays and objects that are
open.
-/

set_option autoImplicit false

namespace DatasetGate.Json

/-- A value as far as it can be read. The items of an array or object are the ones begun; `stop`
tells that neither its end nor a further item follows them. -/
inductive Draft where
  | null
  | bool (value : Bool)
  | number (text : List Char)
  | string (pieces : List Piece)
  | array (items : List Draft) (stop : Option Break)
  | object (members : List (List Piece × Draft)) (stop : Option Break)
  | broken (reason : Break)

/-- An array or object that is open, its items in reverse. A member is an object with a key whose
value is being read. -/
inductive Open where
  | array (items : List Draft)
  | object (members : List (List Piece × Draft))
  | member (members : List (List Piece × Draft)) (key : List Piece)

/-- What may follow: a value; a value or the end of an array; a key; a key or the end of an object;
the colon after a key; a comma or an end; or nothing, when the whole value has been read. -/
inductive Position where
  | value
  | item
  | key
  | keyOrEnd
  | colon
  | afterValue
  | done (value : Draft)

/-- A text as one value and what is wrong after it. -/
structure Document where
  value : Draft
  trailing : Option Fault

def Open.stopped (reason : Break) : Open → Draft
  | .array items => .array items.reverse (some reason)
  | .object members => .object members.reverse (some reason)
  | .member members key => .object ((key, .broken reason) :: members).reverse (some reason)

def Open.around (reason : Break) (value : Draft) : Open → Draft
  | .array items => .array (value :: items).reverse (some reason)
  | .object members => .object members.reverse (some reason)
  | .member members key => .object ((key, value) :: members).reverse (some reason)

def Draft.within (reason : Break) (value : Draft) (stack : List Open) : Draft :=
  stack.foldl (fun inner outer => outer.around reason inner) value

def Document.brokenValue (reason : Break) (stack : List Open) : Document :=
  ⟨Draft.within reason (.broken reason) stack, none⟩

def Document.brokenOff (reason : Break) : List Open → Document
  | [] => ⟨.broken reason, none⟩
  | inner :: outer => ⟨Draft.within reason (inner.stopped reason) outer, none⟩

def finishValue (value : Draft) : List Open → Position × List Open
  | [] => (.done value, [])
  | .array items :: outer => (.afterValue, .array (value :: items) :: outer)
  | .object members :: outer => (.afterValue, .object members :: outer)
  | .member members key :: outer => (.afterValue, .object ((key, value) :: members) :: outer)

def beginValue (token : Token) (stack : List Open) : Except Break (Position × List Open) :=
  match token with
  | .null => .ok (finishValue .null stack)
  | .bool value => .ok (finishValue (.bool value) stack)
  | .number text => .ok (finishValue (.number text) stack)
  | .string pieces => .ok (finishValue (.string pieces) stack)
  | .openArray => .ok (.item, .array [] :: stack)
  | .openObject => .ok (.keyOrEnd, .object [] :: stack)
  | .broken reason => .error reason
  | .closeArray | .closeObject | .comma | .colon => .error (.fault .malformed)

def beginMember (token : Token) (stack : List Open) : Except Break (Position × List Open) :=
  match token, stack with
  | .string pieces, .object members :: outer => .ok (.colon, .member members pieces :: outer)
  | .broken (.string pieces fault), _ => .error (.string pieces fault)
  | _, _ => .error (.fault .malformed)

def continueItems (token : Token) (stack : List Open) : Except Break (Position × List Open) :=
  match token, stack with
  | .comma, .array items :: outer => .ok (.value, .array items :: outer)
  | .comma, .object members :: outer => .ok (.key, .object members :: outer)
  | .closeArray, .array items :: outer => .ok (finishValue (.array items.reverse none) outer)
  | .closeObject, .object members :: outer =>
      .ok (finishValue (.object members.reverse none) outer)
  | _, _ => .error (.fault .malformed)

def Document.read : Position → List Open → List Token → Document
  | .done value, _, [] => ⟨value, none⟩
  | .value, stack, [] => .brokenValue (.fault .cutShort) stack
  | _, stack, [] => .brokenOff (.fault .cutShort) stack
  | position, stack, token :: rest =>
      match position with
      | .done value => ⟨value, some .malformed⟩
      | .value =>
          match beginValue token stack with
          | .ok (next, stack) => read next stack rest
          | .error reason => .brokenValue reason stack
      | .item =>
          if token = .closeArray then
            match continueItems token stack with
            | .ok (next, stack) => read next stack rest
            | .error reason => .brokenOff reason stack
          else
            match beginValue token stack with
            | .ok (next, stack) => read next stack rest
            | .error reason => .brokenValue reason stack
      | .key =>
          match beginMember token stack with
          | .ok (next, stack) => read next stack rest
          | .error reason => .brokenOff reason stack
      | .keyOrEnd =>
          match (if token = .closeObject then continueItems token stack
            else beginMember token stack) with
          | .ok (next, stack) => read next stack rest
          | .error reason => .brokenOff reason stack
      | .colon =>
          if token = .colon then read .value stack rest
          else .brokenOff (.fault .malformed) stack
      | .afterValue =>
          match continueItems token stack with
          | .ok (next, stack) => read next stack rest
          | .error reason => .brokenOff reason stack

def Document.ofText (text : List Char) : Document :=
  .read .value [] (tokens text)

/-- The greatest count of arrays and objects around a value that is read in full. -/
def maxDepth : Nat := 127

def readPieces (pieces : List Piece) : Except Fault String :=
  match textOf? pieces with
  | some text => .ok (String.ofList text)
  | none => .error .malformed

def readStop : Option Break → Except Fault Unit
  | none => .ok ()
  | some reason => .error reason.strict

mutual

def Draft.value (depth : Nat) : Draft → Except Fault Json
  | .null => .ok .null
  | .bool value => .ok (.bool value)
  | .number text =>
      match numberValue? text with
      | some value => .ok value
      | none => .error .malformed
  | .string pieces => (readPieces pieces).map .string
  | .broken reason => .error reason.strict
  | .array items stop =>
      match depth with
      | 0 => .error .malformed
      | depth + 1 =>
          match Draft.values depth items with
          | .error fault => .error fault
          | .ok values => (readStop stop).map fun _ => .array values
  | .object members stop =>
      match depth with
      | 0 => .error .malformed
      | depth + 1 =>
          match Draft.memberValues depth members with
          | .error fault => .error fault
          | .ok values => (readStop stop).map fun _ => .object values

def Draft.values (depth : Nat) : List Draft → Except Fault (List Json)
  | [] => .ok []
  | item :: rest =>
      match Draft.value depth item with
      | .error fault => .error fault
      | .ok value => (Draft.values depth rest).map (value :: ·)

def Draft.memberValues (depth : Nat) :
    List (List Piece × Draft) → Except Fault (List (String × Json))
  | [] => .ok []
  | (key, item) :: rest =>
      match readPieces key with
      | .error fault => .error fault
      | .ok key =>
          match Draft.value depth item with
          | .error fault => .error fault
          | .ok value => (Draft.memberValues depth rest).map ((key, value) :: ·)

end

mutual

/-- The fault in a value whose content does not matter: only where reading breaks off. -/
def Draft.fault? : Draft → Option Fault
  | .null | .bool _ | .number _ | .string _ => none
  | .broken reason => some reason.lenient
  | .array items stop => (Draft.firstFault? items).or (stop.map Break.lenient)
  | .object members stop => (Draft.firstMemberFault? members).or (stop.map Break.lenient)

def Draft.firstFault? : List Draft → Option Fault
  | [] => none
  | item :: rest => item.fault?.or (Draft.firstFault? rest)

def Draft.firstMemberFault? : List (List Piece × Draft) → Option Fault
  | [] => none
  | (_, item) :: rest => item.fault?.or (Draft.firstMemberFault? rest)

end

def read (text : List Char) : Except Fault Json :=
  let document := Document.ofText text
  match document.value.value maxDepth with
  | .error fault => .error fault
  | .ok value =>
      match document.trailing with
      | some fault => .error fault
      | none => .ok value

end DatasetGate.Json
