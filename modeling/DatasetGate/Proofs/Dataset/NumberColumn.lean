import DatasetGate.Proofs.GateRun
import DatasetGate.Proofs.Number.Literal
import DatasetGate.Proofs.Number.Notation

/-!
# Columns of one number

A file of one column that holds one number literal in every row, in quotes or not. The literal looks
like a whole number where it has no point, and like another number where it has one, and the frame
has the number that is read there in every row.
-/

set_option autoImplicit false

namespace DatasetGate

open DatasetGate.Text DatasetGate.Number DatasetGate.Dataset

namespace NumberLiteral

variable (literal : NumberLiteral)

section Reading

/-- The characters of a literal. -/
theorem chars_cases {c : Char} (member : c ∈ literal.chars) :
    isDigit c = true ∨ c = '-' ∨ c = '.' := by
  have inside : c ∈ literal.unsigned → isDigit c = true ∨ c = '.' := by
    intro listed
    rcases List.mem_append.mp listed with digit | behind
    · exact .inl (literal.wholeDigits c digit)
    · cases empty : literal.fraction.isEmpty with
      | true => simp [empty] at behind
      | false =>
          simp only [empty, Bool.false_eq_true, if_false, List.mem_cons] at behind
          exact behind.symm.imp (literal.fractionDigits c) id
  rw [chars] at member
  split at member
  · rcases List.mem_cons.mp member with rfl | listed
    · exact .inr (.inl rfl)
    · exact (inside listed).imp_right .inr
  · exact (inside member).imp_right .inr

theorem exists_chars_cons : ∃ c rest, literal.chars = c :: rest ∧ (isDigit c = true ∨ c = '-') := by
  obtain ⟨c, rest, shape, digit⟩ := literal.exists_unsigned_cons
  rw [chars]
  split
  · exact ⟨'-', _, rfl, .inr rfl⟩
  · exact ⟨c, rest, shape, .inl digit⟩

theorem plainText : PlainText (String.ofList literal.chars) where
  nonempty := by
    obtain ⟨c, rest, shape, -⟩ := literal.exists_chars_cons
    simp [shape]
  plain c member := by
    rw [String.toList_ofList] at member
    rcases literal.chars_cases member with digit | rfl | rfl
    · exact of_isDigit PlainChar digit (by decide)
    · decide
    · decide
  flush c member := by
    obtain ⟨first, rest, shape, sort⟩ := literal.exists_chars_cons
    rw [String.toList_ofList, shape, List.head?_cons, Option.mem_some_iff] at member
    subst member
    rcases sort with digit | rfl
    · exact of_isDigit (isIndent · = false) digit (by decide)
    · decide

/-- A literal is no truth value. -/
theorem looksBool_chars : looksBool literal.chars = false := by
  obtain ⟨c, rest, shape, sort⟩ := literal.exists_chars_cons
  have first : foldLetter c ≠ 't' ∧ foldLetter c ≠ 'f' := by
    rcases sort with digit | rfl
    · exact of_isDigit (fun c => foldLetter c ≠ 't' ∧ foldLetter c ≠ 'f') digit (by decide)
    · decide
  simp [looksBool, shape, ← String.toList_inj, first]

theorem looksDecimal_unsigned :
    looksDecimal literal.unsigned = !literal.fraction.isEmpty := by
  have ones (c : Char) (digit : isDigit c = true) : isDecimalDigit c = true :=
    of_isDigit (isDecimalDigit · = true) digit (by decide)
  obtain ⟨wholeRun, behind, fractionRun, fractionEnd⟩ := literal.runs ones (by decide)
  simp only [looksDecimal, wholeRun, behind]
  cases empty : literal.fraction.isEmpty with
  | true => simp [looksExponent]
  | false => simp [fractionRun, fractionEnd, empty]

theorem looksFloat_chars : looksFloat literal.chars = !literal.fraction.isEmpty := by
  obtain ⟨c, rest, shape, digit⟩ := literal.exists_unsigned_cons
  have first : c ≠ 'i' ∧ c ≠ 'N' ∧ c ≠ '-' ∧ c ≠ '+' :=
    of_isDigit (fun c => c ≠ 'i' ∧ c ≠ 'N' ∧ c ≠ '-' ∧ c ≠ '+') digit (by decide)
  have unnamed : String.ofList literal.unsigned ≠ "inf" ∧
      String.ofList literal.unsigned ≠ "NaN" := by
    simp [shape, ← String.toList_inj, first]
  have looks : (String.ofList literal.unsigned = "inf" || String.ofList literal.unsigned = "NaN" ||
      looksDecimal literal.unsigned) = !literal.fraction.isEmpty := by
    simp [unnamed, literal.looksDecimal_unsigned]
  cases sign : literal.negative with
  | true =>
      rw [literal.chars_of_negative sign]
      exact looks
  | false =>
      rw [literal.chars_of_not_negative sign]
      rw [shape] at looks ⊢
      unfold looksFloat
      split
      · simp_all
      · simp_all
      · exact looks

theorem looksInteger_chars (integral : literal.fraction = []) :
    looksInteger literal.chars = true := by
  have ones (c : Char) (digit : isDigit c = true) : isDecimalDigit c = true :=
    of_isDigit (isDecimalDigit · = true) digit (by decide)
  have digits : looksDigits literal.whole = true := by
    rw [looksDigits, Bool.and_eq_true, List.all_eq_true]
    exact ⟨by simpa using literal.nonempty, fun c member => ones c (literal.wholeDigits c member)⟩
  rw [chars, literal.unsigned_of_nil integral]
  cases literal.negative with
  | true => exact digits
  | false =>
      rw [if_neg Bool.false_ne_true]
      unfold looksInteger
      split
      · rename_i rest shape
        cases literal.wholeDigits '-' (shape ▸ List.mem_cons_self)
      · exact digits

/-- The type that the field of a literal looks like. -/
def fieldType : FieldType :=
  if literal.fraction = [] then .integer else .float

theorem fieldType_eq : FieldType.ofText literal.chars = literal.fieldType := by
  rw [FieldType.ofText, looksBool_chars, looksFloat_chars, fieldType]
  by_cases integral : literal.fraction = []
  · simp [integral, literal.looksInteger_chars integral]
  · simp [integral]

theorem readUnsigned?_unsigned :
    readUnsigned? literal.negative literal.unsigned = some literal.numeral := by
  obtain ⟨wholeRun, behind, fractionRun, fractionEnd⟩ := literal.runs (fun _ => id) (by decide)
  have all : ∀ c ∈ literal.whole ++ literal.fraction, isDigit c = true := fun c member =>
    (List.mem_append.mp member).elim (literal.wholeDigits c) (literal.fractionDigits c)
  have read := readNatural?_eq_some all (List.append_ne_nil_of_left_ne_nil literal.nonempty _)
  simp only [readUnsigned?, spanDigits, wholeRun, behind]
  cases empty : literal.fraction.isEmpty with
  | true =>
      rw [List.isEmpty_iff] at empty
      rw [empty, List.append_nil] at read
      simp [read, readExponent?, numeral, digits, places, empty]
  | false =>
      simp [fractionRun, fractionEnd, read, readExponent?, numeral, digits, places]

theorem splitSign_chars : splitSign literal.chars = (literal.negative, literal.unsigned) := by
  cases sign : literal.negative with
  | true => rw [literal.chars_of_negative sign, splitSign]
  | false =>
      obtain ⟨c, rest, shape, digit⟩ := literal.exists_unsigned_cons
      have unsigned : c ≠ '-' ∧ c ≠ '+' :=
        of_isDigit (fun c => c ≠ '-' ∧ c ≠ '+') digit (by decide)
      rw [literal.chars_of_not_negative sign, shape]
      simp [splitSign, unsigned]

/-- A literal without a point spells its value. -/
theorem spells_chars (integral : literal.fraction = []) :
    Spells literal.chars literal.value := by
  rw [spells_iff, splitSign_chars, literal.unsigned_of_nil integral, value,
    literal.digits_of_nil integral]
  exact ⟨literal.nonempty, literal.wholeDigits, rfl⟩

theorem readInteger64?_chars (integral : literal.fraction = []) (fits : FitsInt64 literal.value) :
    readInteger64? literal.chars = some (.integer literal.value) := by
  simp only [readInteger64?, (literal.spells_chars integral).readInteger?, if_pos fits]

/-- The reader of datasets takes the exact value of a literal and rounds it once. -/
theorem readDouble?_chars : readDouble? literal.chars = some literal.numeral.toDouble := by
  obtain ⟨c, rest, shape, digit⟩ := literal.exists_unsigned_cons
  have behind : (splitSign literal.chars).2 = c :: rest := by rw [splitSign_chars, shape]
  rw [readDouble?, readLiteral?_of_digit behind digit, splitSign_chars, readUnsigned?_unsigned]
  rfl

end Reading

/-- The type of the column of a literal. -/
def columnType : ColumnType :=
  if literal.fraction = [] then .integer .signed64 else .float64

/-- What is read in the column of a literal. -/
def cell : Cell :=
  if literal.fraction = [] then .integer literal.value else .float literal.numeral.toDouble

/-- A literal can be read in its column: a whole number has sixty-four bits. -/
def Readable : Prop :=
  literal.fraction = [] → FitsInt64 literal.value

variable {literal}

theorem columnTypeOf_replicate {count : Nat} (positive : 0 < count) :
    columnTypeOf (List.replicate count literal.fieldType) = literal.columnType := by
  have seen (shape type : FieldType) :
      (List.replicate count shape).contains type = (shape == type) := by
    rw [Bool.eq_iff_iff, List.contains_iff_mem, List.mem_replicate, beq_iff_eq]
    exact ⟨fun found => found.2.symm, fun same => ⟨positive.ne', same.symm⟩⟩
  simp only [columnTypeOf, seen, fieldType, columnType]
  by_cases integral : literal.fraction = []
  · simp only [integral, if_true]
    rfl
  · simp only [integral, if_false]
    rfl

/-- A field that holds a literal is read as the cell of the literal. -/
theorem readCell?_of_inner (readable : literal.Readable) {field : Field}
    (inner : field.dropReturn.inner = Utf8.encode literal.chars) :
    readCell? literal.columnType field = some literal.cell := by
  have plain := literal.plainText
  have filled : field.dropReturn.bytes.isEmpty = false := by
    rw [List.isEmpty_eq_false_iff]
    intro empty
    have nothing : field.dropReturn.inner = [] := by simp [Field.inner, empty]
    rw [nothing] at inner
    refine encode_ne_nil ?_ inner.symm
    simpa using plain.nonempty
  have indented (read? : List Char → Option Cell) :
      readIndented read? literal.chars = read? literal.chars := by
    simpa using @readIndented_eq read? _ plain
  simp only [readCell?, filled, Bool.false_eq_true, if_false, inner, Utf8.decode?_encode,
    columnType, cell]
  by_cases integral : literal.fraction = []
  · simp only [integral, if_true, indented]
    exact literal.readInteger64?_chars integral (readable integral)
  · simp only [integral, if_false, indented, literal.readDouble?_chars, Option.map_some]

end NumberLiteral

namespace Dataset

/-- A record is one field that holds a text, in quotes or not, whether or not a carriage return ends
its line. -/
def RecordHolds (record : List UInt8) (text : List Char) : Prop :=
  dropReturn record = Utf8.encode text ∨ dropReturn record = quote :: Utf8.encode text ++ [quote]

theorem dropReturn_cases (record : List UInt8) :
    record = dropReturn record ∨ record = dropReturn record ++ [carriageReturn] := by
  rw [dropReturn]
  split
  · rename_i ended
    exact .inr (List.dropLast_append_getLast? carriageReturn ended).symm
  · exact .inl rfl

theorem RecordHolds.octets {record : List UInt8} {text : String} (plain : PlainText text)
    (holds : RecordHolds record text.toList) : comma ∉ record ∧ lineFeed ∉ record := by
  obtain ⟨line, noCommas⟩ := plainField_encode plain.plain
  have noFeeds : lineFeed ∉ Utf8.encode text.toList := fun member => (line _ member).2.1 rfl
  have octets : comma ∉ dropReturn record ∧ lineFeed ∉ dropReturn record := by
    rcases holds with bare | enclosed
    · rw [bare]
      exact ⟨noCommas, noFeeds⟩
    · have apart : comma ≠ quote ∧ lineFeed ≠ quote := by decide
      simp [enclosed, apart, noCommas, noFeeds]
  rcases dropReturn_cases record with same | ended
  · rw [same]
    exact octets
  · have apart : comma ≠ carriageReturn ∧ lineFeed ≠ carriageReturn := by decide
    rw [ended, List.mem_append, List.mem_append]
    simp [octets, apart]

/-- The one field of a record that holds a text has the text between its quotes. -/
theorem RecordHolds.splitFields {record : List UInt8} {text : String} (plain : PlainText text)
    (holds : RecordHolds record text.toList) :
    ∃ quoted, Dataset.splitFields .start record = some [⟨record, quoted⟩] ∧
      Dataset.splitFields .start (dropReturn record) = some [⟨dropReturn record, quoted⟩] ∧
      Field.inner ⟨dropReturn record, quoted⟩ = Utf8.encode text.toList ∧
      dropReturn record ≠ [] := by
  obtain ⟨b, rest, shape, inner⟩ : ∃ b rest, dropReturn record = b :: rest ∧
      Field.inner ⟨b :: rest, b == quote⟩ = Utf8.encode text.toList := by
    rcases holds with bare | enclosed
    · cases shape : Utf8.encode text.toList with
      | nil => exact absurd shape (encode_ne_nil plain.nonempty)
      | cons b rest =>
          have noQuote : b ≠ quote :=
            ((plainField_encode plain.plain).1 b (shape ▸ List.mem_cons_self)).1
          exact ⟨b, rest, bare.trans shape, by simp [Field.inner, noQuote]⟩
    · exact ⟨quote, _, enclosed, by simp [Field.inner]⟩
  obtain ⟨more, whole⟩ : ∃ more, record = b :: more := by
    rcases dropReturn_cases record with same | ended
    · exact ⟨rest, same.trans shape⟩
    · exact ⟨rest ++ [carriageReturn], by rw [ended, shape, List.cons_append]⟩
  obtain ⟨noComma, noFeed⟩ := holds.octets plain
  refine ⟨b == quote, ?_, ?_, by rw [shape, inner], by simp [shape]⟩
  · rw [whole] at noComma noFeed ⊢
    exact splitFields_single noComma noFeed
  · have within : dropReturn record ⊆ record := by
      rw [dropReturn]
      split
      · exact List.dropLast_subset record
      · exact List.Subset.refl record
    rw [shape] at within ⊢
    exact splitFields_single (fun member => noComma (within member))
      (fun member => noFeed (within member))

section Column

variable {literal : NumberLiteral} {record : List UInt8}

theorem inspectRecord_number (holds : RecordHolds record literal.chars) :
    inspectRecord record = some [some literal.fieldType] := by
  rw [← String.toList_ofList (l := literal.chars)] at holds
  obtain ⟨quoted, -, fields, inner, filled⟩ := holds.splitFields literal.plainText
  rw [String.toList_ofList] at inner
  simp [inspectRecord, fields, inspectField, filled, inner, Utf8.decode?_encode,
    literal.fieldType_eq]

theorem readRow?_number (readable : literal.Readable) (holds : RecordHolds record literal.chars) :
    readRow? [literal.columnType] record = some [literal.cell] := by
  rw [← String.toList_ofList (l := literal.chars)] at holds
  obtain ⟨quoted, fields, -, inner, filled⟩ := holds.splitFields literal.plainText
  rw [String.toList_ofList] at inner
  have read : readCell? literal.columnType ⟨record, quoted⟩ = some literal.cell :=
    NumberLiteral.readCell?_of_inner readable inner
  simp [readRow?, filled, fields, readCells?, read]

variable {bytes : List UInt8} {rows : List (List UInt8)} {column : String}

/-- A text with a header of one name that is not blank, and behind it rows that all hold a number
that can be read. -/
structure NumberTable (literal : NumberLiteral) (column : String) (rows : List (List UInt8))
    (bytes : List UInt8) : Prop where
  readable : literal.Readable
  records : ∃ header, splitRecords false (dropMark bytes) = header :: rows ∧
    headerNames? header = some [column]
  visible : isBlankName column = false
  nonempty : rows ≠ []
  holds : ∀ row ∈ rows, RecordHolds row literal.chars
  narrow : wideEncoding? bytes = none

/-- The frame of a column of a number. -/
def numberFrame (literal : NumberLiteral) (column : String) (count : Nat) : Frame :=
  ⟨[⟨column, literal.columnType, List.replicate count literal.cell⟩]⟩

theorem frame?_number (table : NumberTable literal column rows bytes) :
    frame? bytes = some (numberFrame literal column rows.length) := by
  obtain ⟨header, records, named⟩ := table.records
  have inspected : (rows.take inferenceRows).mapM inspectRecord =
      some ((rows.take inferenceRows).map fun _ => [some literal.fieldType]) :=
    mapM_eq_some_map fun row member =>
      inspectRecord_number (table.holds row (List.mem_of_mem_take member))
  have read : rows.mapM (readRow? [literal.columnType]) = some (rows.map fun _ => [literal.cell]) :=
    mapM_eq_some_map fun row member => readRow?_number table.readable (table.holds row member)
  have positive : 0 < min inferenceRows rows.length :=
    Nat.lt_min.mpr ⟨by decide, List.length_pos_of_ne_nil table.nonempty⟩
  have types : inferTypes? 1 rows = some [literal.columnType] := by
    simp [inferTypes?, inspected, inferColumn, NumberLiteral.columnTypeOf_replicate positive]
  simp only [frame?, records, named, List.length_singleton, types, read, Option.map_some]
  simp [columnsOf, numberFrame]

/-- A file of one column of a number is loaded, unless it is too large. -/
theorem load_number (table : NumberTable literal column rows bytes) {files : Files} {path : String}
    (found : files.find path = .ok (.file bytes)) {limit : Nat} (small : bytes.length ≤ limit) :
    load files path limit = .ok (numberFrame literal column rows.length) := by
  rw [load_eq_ofBytes found small table.narrow, ofBytes, frame?_number table]
  simp [checkShape, Frame.height, Frame.names, numberFrame, table.visible, table.nonempty]

/-- A plain table with the number in every row is one of these texts. -/
theorem numberTable_tableText {ρ : Type} {entries : List ρ} (nonempty : entries ≠ [])
    (readable : literal.Readable) (plain : PlainText column)
    (ascii : ∀ c ∈ column.toList.head?, c.toNat < 128) (visible : isBlankName column = false)
    (ended : Bool) :
    NumberTable literal column (entries.map fun _ => Utf8.encode literal.chars)
      (Utf8.encode (tableText [(column, fun _ => String.ofList literal.chars)] entries ended)) := by
  have table : PlainTable [(column, fun _ : ρ => String.ofList literal.chars)] entries := {
    nonempty := List.cons_ne_nil _ _
    names := List.forall_mem_singleton.mpr plain
    texts := List.forall_mem_singleton.mpr fun _ _ => literal.plainText
    distinct := List.nodup_singleton column
    ascii := by simpa [lineOf] using ascii }
  obtain ⟨b, bytes, text, small⟩ := exists_encode_tableText table ended
  have header := table.lines _ List.mem_cons_self
  refine ⟨readable, ⟨Utf8.encode (lineOf [column]), ?_, ?_⟩, visible, by simpa using nonempty, ?_,
    ?_⟩
  · rw [text, dropMark_eq_self small, ← text, splitRecords_tableText table]
    simp [lineOf]
  · exact headerNames?_lineOf header.1 header.2 table.distinct
  · intro row member
    obtain ⟨entry, -, rfl⟩ := List.mem_map.mp member
    have number := (plainField_encode literal.plainText.plain).1
    rw [String.toList_ofList] at number
    exact .inl (dropReturn_plain number)
  · rw [text, wideEncoding?_eq_none small]

end Column

end Dataset
end DatasetGate
