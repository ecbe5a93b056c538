import DatasetGate.Json.Basic
import DatasetGate.Number.Notation

/-!
# Writing JSON

The text of a value, either on one line without blanks or on many lines with an indentation of two
blanks. Strings are quoted with the short escapes where there are such, and a number that is not
finite is written as null.
-/

set_option autoImplicit false

namespace DatasetGate.Json

def hexDigit (n : Nat) : Char :=
  if n < 10 then Char.ofNat ('0'.toNat + n) else Char.ofNat ('a'.toNat + (n - 10))

def quoteChar (c : Char) : List Char :=
  if c = '"' then ['\\', '"']
  else if c = '\\' then ['\\', '\\']
  else if c = '\x08' then ['\\', 'b']
  else if c = '\x0c' then ['\\', 'f']
  else if c = '\n' then ['\\', 'n']
  else if c = '\r' then ['\\', 'r']
  else if c = '\t' then ['\\', 't']
  else if c.toNat < 0x20 then
    ['\\', 'u', '0', '0', hexDigit (c.toNat / 16), hexDigit (c.toNat % 16)]
  else [c]

def quoted (text : List Char) : List Char :=
  '"' :: text.flatMap quoteChar ++ ['"']

/-- A number that is no whole-number literal. -/
def floatText (x : Number.Double) : List Char :=
  match x.exponential? with
  | some text => text.toList
  | none => "null".toList

def joined (separator : List Char) : List (List Char) → List Char
  | [] => []
  | [part] => part
  | part :: next :: rest => part ++ separator ++ joined separator (next :: rest)

mutual

def chars : Json → List Char
  | .null => "null".toList
  | .bool value => (toString value).toList
  | .integer value => (toString value).toList
  | .float value => floatText value
  | .string value => quoted value.toList
  | .array items => '[' :: joined [','] (itemChars items) ++ [']']
  | .object members => '\x7b' :: joined [','] (memberChars members) ++ ['\x7d']

def itemChars : List Json → List (List Char)
  | [] => []
  | item :: rest => chars item :: itemChars rest

def memberChars : List (String × Json) → List (List Char)
  | [] => []
  | (key, item) :: rest => (quoted key.toList ++ ':' :: chars item) :: memberChars rest

end

def newLine (depth : Nat) : List Char :=
  '\n' :: List.replicate (2 * depth) ' '

def bracketed (opening closing : Char) (depth : Nat) (items : List (List Char)) : List Char :=
  if items.isEmpty then [opening, closing]
  else
    opening :: newLine (depth + 1) ++ joined (',' :: newLine (depth + 1)) items ++ newLine depth ++
      [closing]

mutual

def indented (depth : Nat) : Json → List Char
  | .array items => bracketed '[' ']' depth (indentedItems (depth + 1) items)
  | .object members => bracketed '\x7b' '\x7d' depth (indentedMembers (depth + 1) members)
  | .null => chars .null
  | .bool value => chars (.bool value)
  | .integer value => chars (.integer value)
  | .float value => chars (.float value)
  | .string value => chars (.string value)

def indentedItems (depth : Nat) : List Json → List (List Char)
  | [] => []
  | item :: rest => indented depth item :: indentedItems depth rest

def indentedMembers (depth : Nat) : List (String × Json) → List (List Char)
  | [] => []
  | (key, item) :: rest =>
      (quoted key.toList ++ ':' :: ' ' :: indented depth item) :: indentedMembers depth rest

end

def text (value : Json) : String :=
  String.ofList (chars value)

end DatasetGate.Json
