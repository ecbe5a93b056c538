import DatasetGate.Text.Width

/-!
# Tables for a terminal

A table in a frame of lines. A column is as wide as its widest cell, up to a bound; a cell that is wider
than its column is wrapped at blanks, and within words that are wider than the column. A line with
little room left takes no further word.
-/

set_option autoImplicit false

namespace DatasetGate.Table

open DatasetGate.Text

inductive Alignment where
  | left
  | center
  | right
  deriving DecidableEq, Repr

structure Layout where
  title : String
  alignment : Alignment
  bound : Option Nat
  deriving DecidableEq, Repr

def minFree : Nat := 2

def splitAt (separator : Char) : List Char → List (List Char)
  | [] => [[]]
  | c :: rest =>
      match splitAt separator rest with
      | [] => [[c]]
      | first :: others => if c = separator then [] :: first :: others else (c :: first) :: others

def takeWidth : Nat → List Char → List Char × List Char
  | _, [] => ([], [])
  | room, c :: rest =>
      if room < charWidth c then ([], c :: rest)
      else
        let taken := takeWidth (room - charWidth c) rest
        (c :: taken.1, taken.2)

/-- Cuts a word into full lines and a last part that fits a line. A character that is wider than a line
has a line of its own. Every cut takes a character, so the length of the word is fuel enough. -/
def cutWord (room : Nat) : Nat → List Char → List (List Char) × List Char
  | 0, word => ([], word)
  | fuel + 1, word =>
      if width word ≤ room then ([], word)
      else
        let taken := takeWidth room word
        let (part, rest) :=
          if taken.1.isEmpty then (word.take 1, word.drop 1) else taken
        let cut := cutWord room fuel rest
        (part :: cut.1, cut.2)

def wrapWords (room : Nat) : List (List Char) → List Char → List (List Char)
  | [], current => if current.isEmpty then [] else [current]
  | word :: rest, current =>
      let go (line : List Char) : List (List Char) :=
        if room - minFree < width line then line :: wrapWords room rest []
        else wrapWords room rest line
      let fresh (word : List Char) : List (List Char) :=
        let cut := cutWord room word.length word
        cut.1 ++ go cut.2
      let joined := if current.isEmpty then word else current ++ ' ' :: word
      if width joined ≤ room then go joined
      else if current.isEmpty then fresh word
      else
        let left := room - width current - 1
        if left ≤ minFree ∨ width word ≤ room then current :: fresh word
        else
          let taken := takeWidth left word
          (current ++ ' ' :: taken.1) :: fresh taken.2

def cellLines (room : Nat) (cell : String) : List (List Char) :=
  (splitAt '\n' cell.toList).flatMap fun line =>
    if width line ≤ room then [line] else wrapWords room (splitAt ' ' line) []

def naturalWidth (cell : String) : Nat :=
  ((splitAt '\n' cell.toList).map width).foldl max 0

def aligned (alignment : Alignment) (room : Nat) (line : List Char) : List Char :=
  let free := room - width line
  let before :=
    match alignment with
    | .left => 0
    | .center => (free + 1) / 2
    | .right => free
  List.replicate (before + 1) ' ' ++ line ++ List.replicate (free - before + 1) ' '

def columnWidths (columns : List Layout) (rows : List (List String)) : List Nat :=
  columns.zipIdx.map fun (column, index) =>
    let cells := column.title :: rows.map fun row => (row[index]?).getD ""
    let natural := (cells.map naturalWidth).foldl max 0
    match column.bound with
    | some bound => min bound natural
    | none => natural

def rule (first line cross last : Char) (widths : List Nat) : String :=
  String.ofList <|
    first :: (List.intersperse [cross] (widths.map fun w => List.replicate (w + 2) line)).flatten ++
      [last]

def rowLines (columns : List Layout) (widths : List Nat) (row : List String) : List String :=
  let cells := (columns.zip widths).zip row |>.map fun ((column, room), cell) =>
    (column.alignment, room, cellLines room cell)
  let height := (cells.map fun (_, _, lines) => lines.length).foldl max 0
  (List.range height).map fun index =>
    String.ofList <|
      '│' :: (List.intersperse ['│'] (cells.map fun (alignment, room, lines) =>
        aligned alignment room ((lines[index]?).getD []))).flatten ++ ['│']

def lines (columns : List Layout) (rows : List (List String)) : List String :=
  let widths := columnWidths columns rows
  let body := (List.intersperse [rule '├' '─' '┼' '┤' widths]
    (rows.map (rowLines columns widths))).flatten
  rule '╭' '─' '┬' '╮' widths ::
    rowLines columns widths (columns.map Layout.title) ++
    [rule '╞' '═' '╪' '╡' widths] ++ body ++ [rule '╰' '─' '┴' '╯' widths]

end DatasetGate.Table
