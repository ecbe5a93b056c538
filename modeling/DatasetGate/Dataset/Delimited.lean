/-!
# Delimited text

Octets to records and fields. A line feed ends a record where the quotes before it are even in number;
a comma ends a field where the field is not quoted or its quotes are even in number. A field is quoted
when it opens with a quote.
-/

set_option autoImplicit false

namespace DatasetGate.Dataset

def quote : UInt8 := 34

def comma : UInt8 := 44

def lineFeed : UInt8 := 10

def carriageReturn : UInt8 := 13

def prepend (b : UInt8) : List (List UInt8) → List (List UInt8)
  | [] => [[b]]
  | first :: rest => (b :: first) :: rest

/-- The records of a text, from within one that has had an even or an odd count of quotes. Octets
after the last line feed are a record of their own. -/
def splitRecords : Bool → List UInt8 → List (List UInt8)
  | _, [] => []
  | odd, b :: rest =>
      if b = lineFeed ∧ odd = false then [] :: splitRecords false rest
      else prepend b (splitRecords (odd ^^ (b == quote)) rest)

def dropReturn (bytes : List UInt8) : List UInt8 :=
  if bytes.getLast? = some carriageReturn then bytes.dropLast else bytes

structure Field where
  bytes : List UInt8
  quoted : Bool
  deriving DecidableEq, Repr

/-- Where a field stands: at its start, in a plain field, or in a quoted one with an odd or an even
count of quotes so far. -/
inductive FieldStage where
  | start
  | plain
  | quoted (odd : Bool)
  deriving DecidableEq, Repr

def FieldStage.next (stage : FieldStage) (b : UInt8) : FieldStage :=
  match stage with
  | .start => if b = quote then .quoted true else .plain
  | .plain => .plain
  | .quoted odd => .quoted (odd ^^ (b == quote))

def FieldStage.shields : FieldStage → Bool
  | .quoted odd => odd
  | .start | .plain => false

def FieldStage.close : FieldStage → Field
  | .quoted _ => ⟨[], true⟩
  | .start | .plain => ⟨[], false⟩

def Field.prepend (b : UInt8) : List Field → List Field
  | [] => [⟨[b], false⟩]
  | first :: rest => ⟨b :: first.bytes, first.quoted⟩ :: rest

/-- The fields of a record from within one. A line feed that no quotes shield may only stand at its
end; elsewhere it would end the record early and is refused. -/
def splitFields : FieldStage → List UInt8 → Option (List Field)
  | stage, [] => some [stage.close]
  | stage, b :: rest =>
      if b = comma ∧ stage.shields = false then
        (splitFields .start rest).map (stage.close :: ·)
      else if b = lineFeed ∧ stage.shields = false then
        if rest.isEmpty then some [stage.close] else none
      else (splitFields (stage.next b) rest).map (Field.prepend b)

def Field.inner (field : Field) : List UInt8 :=
  if field.quoted ∧ 2 ≤ field.bytes.length then (field.bytes.drop 1).dropLast else field.bytes

def Field.dropReturn (field : Field) : Field :=
  ⟨Dataset.dropReturn field.bytes, field.quoted⟩

/-- The octets within quotes with doubled quotes made single; a quote that stands alone is dropped.
The flag says that a quote has just been passed. -/
def unescape : Bool → List UInt8 → List UInt8
  | _, [] => []
  | pending, b :: rest =>
      if b = quote then
        if pending then b :: unescape false rest else unescape true rest
      else b :: unescape false rest

end DatasetGate.Dataset
