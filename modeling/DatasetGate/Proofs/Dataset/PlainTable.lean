import DatasetGate.Proofs.Dataset.Spelling

/-!
# Plain tables

Tables of plain texts, given by a name and a text of every row for each column. The frame of such a
table is read column by column, every column with the type guessed from its own texts.
-/

set_option autoImplicit false

namespace DatasetGate.Dataset

open DatasetGate.Text

/-- Texts with commas between them. -/
def lineOf : List String → List Char
  | [] => []
  | first :: rest => first.toList ++ rest.flatMap fun text => ',' :: text.toList

theorem encode_lineOf (first : String) (rest : List String) :
    Utf8.encode (lineOf (first :: rest)) =
      Utf8.encode first.toList ++
        (rest.map fun text => Utf8.encode text.toList).flatMap (comma :: ·) := by
  rw [lineOf, Utf8.encode_append]
  congr 1
  induction rest with
  | nil => rfl
  | cons text rest rest_ih =>
      rw [List.flatMap_cons, Utf8.encode_append, rest_ih, List.map_cons, List.flatMap_cons]
      rfl

theorem splitFields_lineOf {texts : List String} (nonempty : texts ≠ [])
    (plain : ∀ text ∈ texts, PlainText text) :
    splitFields .start (Utf8.encode (lineOf texts)) = some (texts.map fieldOf) := by
  cases texts with
  | nil => exact absurd rfl nonempty
  | cons first rest =>
      rw [encode_lineOf, splitFields_fields]
      · simp [fieldOf]
      · intro field member
        rw [← List.map_cons (f := fun text : String => Utf8.encode text.toList)] at member
        obtain ⟨text, listed, rfl⟩ := List.mem_map.mp member
        exact plainField_encode (plain text listed).plain

theorem mem_lineOf {texts : List String} {c : Char} (member : c ∈ lineOf texts) :
    c = ',' ∨ ∃ text ∈ texts, c ∈ text.toList := by
  cases texts with
  | nil => cases member
  | cons first rest =>
      rcases List.mem_append.mp member with inFirst | inRest
      · exact .inr ⟨first, List.mem_cons_self, inFirst⟩
      · obtain ⟨text, listed, inText⟩ := List.mem_flatMap.mp inRest
        rcases List.mem_cons.mp inText with same | inText
        · exact .inl same
        · exact .inr ⟨text, List.mem_cons_of_mem first listed, inText⟩

theorem plainLine_lineOf {texts : List String} (plain : ∀ text ∈ texts, PlainText text) :
    PlainLine (Utf8.encode (lineOf texts)) := by
  apply plainLine_encode
  intro c member
  rcases mem_lineOf member with rfl | ⟨text, listed, inText⟩
  · decide
  · obtain ⟨noQuote, -, ends⟩ := (plain text listed).plain c inText
    exact ⟨noQuote, ends⟩

theorem lineOf_ne_nil {texts : List String} (nonempty : texts ≠ [])
    (plain : ∀ text ∈ texts, PlainText text) : Utf8.encode (lineOf texts) ≠ [] := by
  apply encode_ne_nil
  cases texts with
  | nil => exact absurd rfl nonempty
  | cons first rest =>
      exact List.append_ne_nil_of_left_ne_nil (plain first List.mem_cons_self).nonempty _

theorem mapM_eq_some_iff {α β : Type} {f : α → Option β} {g : α → β} {condition : α → Prop}
    {values : List α}
    (reads : ∀ value ∈ values, ∀ found, f value = some found ↔ condition value ∧ found = g value)
    {found : List β} :
    values.mapM f = some found ↔ (∀ value ∈ values, condition value) ∧ found = values.map g := by
  induction values generalizing found with
  | nil => simp [eq_comm]
  | cons value values values_ih =>
      rw [List.forall_mem_cons] at reads
      simp only [List.mapM_cons, Option.bind_eq_bind, Option.bind_eq_some_iff, reads.1,
        values_ih reads.2, List.forall_mem_cons, List.map_cons]
      constructor
      · rintro ⟨first, ⟨held, rfl⟩, rest, ⟨allHeld, rfl⟩, done⟩
        exact ⟨⟨held, allHeld⟩, (Option.some.inj done).symm⟩
      · rintro ⟨⟨held, allHeld⟩, rfl⟩
        exact ⟨_, ⟨held, rfl⟩, _, ⟨allHeld, rfl⟩, rfl⟩

theorem mapM_eq_some_map {α β : Type} {f : α → Option β} {g : α → β} {values : List α}
    (reads : ∀ value ∈ values, f value = some (g value)) :
    values.mapM f = some (values.map g) := by
  induction values with
  | nil => rfl
  | cons value values values_ih =>
      rw [List.forall_mem_cons] at reads
      simp [List.mapM_cons, reads.1, values_ih reads.2]

theorem inspectField_fieldOf {text : String} (plain : PlainText text) :
    inspectField (fieldOf text) = some (some (FieldType.ofText text.toList)) := by
  have nonempty : (fieldOf text).bytes.isEmpty = false := by
    rw [List.isEmpty_eq_false_iff]
    exact encode_ne_nil plain.nonempty
  rw [inspectField, nonempty, if_neg Bool.false_ne_true, inner_fieldOf, Utf8.decode?_encode]
  rfl

theorem inspectRecord_lineOf {texts : List String} (nonempty : texts ≠ [])
    (plain : ∀ text ∈ texts, PlainText text) :
    inspectRecord (Utf8.encode (lineOf texts)) =
      some (texts.map fun text => some (FieldType.ofText text.toList)) := by
  have inspected : (texts.map fieldOf).mapM inspectField =
      some (texts.map fun text => some (FieldType.ofText text.toList)) := by
    rw [List.mapM_map]
    exact mapM_eq_some_map fun text member => inspectField_fieldOf (plain text member)
  simp only [inspectRecord, dropReturn_plain (plainLine_lineOf plain),
    splitFields_lineOf nonempty plain, inspected]

theorem numberNames_eq_self {earlier names : List String}
    (distinct : (earlier ++ names).Nodup) : numberNames earlier names = names := by
  induction names generalizing earlier with
  | nil => rfl
  | cons name names names_ih =>
      have fresh : earlier.count name = 0 := by
        rw [List.count_eq_zero]
        intro member
        rw [List.nodup_append] at distinct
        exact distinct.2.2 name member name List.mem_cons_self rfl
      have more : (name :: earlier ++ names).Nodup :=
        (List.perm_middle.nodup_iff.mp distinct)
      rw [numberNames, names_ih more, numberName, fresh]

theorem headerNames?_lineOf {names : List String} (nonempty : names ≠ [])
    (plain : ∀ name ∈ names, PlainText name) (distinct : names.Nodup) :
    headerNames? (Utf8.encode (lineOf names)) = some names := by
  have line : (Utf8.encode (lineOf names)).isEmpty = false := by
    rw [List.isEmpty_eq_false_iff]
    exact lineOf_ne_nil nonempty plain
  have decoded : ((names.map fieldOf).map fun field =>
      String.ofList (Utf8.decodeLossy field.inner)) = names := by
    simp [Function.comp_def, inner_fieldOf, Utf8.decodeLossy_encode]
  simp only [headerNames?, dropReturn_plain (plainLine_lineOf plain), line, Bool.false_eq_true,
    if_false, splitFields_lineOf nonempty plain, decoded]
  rw [numberNames_eq_self (by simpa using distinct), if_pos distinct]

section Table

variable {ρ : Type} (columns : List (String × (ρ → String))) (rows : List ρ)

/-- The text of a table, its last line ended or not. -/
def tableText (ended : Bool) : List Char :=
  lineOf (columns.map Prod.fst) ++
    (rows.flatMap (fun row => '\n' :: lineOf (columns.map fun column => column.2 row)) ++
      if ended then ['\n'] else [])

/-- A table whose frame can be read from its text: columns under plain names, no two alike, and plain
texts in all rows. -/
structure PlainTable : Prop where
  nonempty : columns ≠ []
  names : ∀ column ∈ columns, PlainText column.1
  texts : ∀ column ∈ columns, ∀ row ∈ rows, PlainText (column.2 row)
  distinct : (columns.map Prod.fst).Nodup
  ascii : ∀ c ∈ (lineOf (columns.map Prod.fst)).head?, c.toNat < 128

/-- The type guessed for a column of a table. -/
def typeOf (column : String × (ρ → String)) : ColumnType :=
  guessedType (rows.map column.2)

/-- The cell read from the text of a column in a row, or none. -/
def cellOf? (column : String × (ρ → String)) (row : ρ) : Option Cell :=
  readCell? (typeOf rows column) (fieldOf (column.2 row))

/-- Every text of a table can be read as the type of its column. -/
def Readable : Prop :=
  ∀ row ∈ rows, ∀ column ∈ columns, (cellOf? rows column row).isSome = true

/-- The frame of a table whose texts can all be read. -/
def tableFrame : Frame :=
  ⟨columns.map fun column =>
    ⟨column.1, typeOf rows column, rows.map fun row => (cellOf? rows column row).getD .null⟩⟩

variable {columns rows}

theorem PlainTable.lines (table : PlainTable columns rows) :
    ∀ line ∈ (columns.map Prod.fst) :: rows.map fun row => columns.map fun column => column.2 row,
      line ≠ [] ∧ ∀ text ∈ line, PlainText text := by
  intro line member
  rcases List.mem_cons.mp member with rfl | member
  · refine ⟨by simpa using table.nonempty, ?_⟩
    intro name listed
    obtain ⟨column, inColumns, rfl⟩ := List.mem_map.mp listed
    exact table.names column inColumns
  · obtain ⟨row, inRows, rfl⟩ := List.mem_map.mp member
    refine ⟨by simpa using table.nonempty, ?_⟩
    intro text listed
    obtain ⟨column, inColumns, rfl⟩ := List.mem_map.mp listed
    exact table.texts column inColumns row inRows

theorem encode_tableText (ended : Bool) :
    Utf8.encode (tableText columns rows ended) =
      Utf8.encode (lineOf (columns.map Prod.fst)) ++
        ((rows.map fun row =>
          Utf8.encode (lineOf (columns.map fun column => column.2 row))).flatMap (lineFeed :: ·) ++
            if ended then [lineFeed] else []) := by
  rw [tableText, Utf8.encode_append, Utf8.encode_append, Utf8.encode_flatMap, List.flatMap_map]
  cases ended <;> rfl

theorem splitRecords_tableText (table : PlainTable columns rows) (ended : Bool) :
    splitRecords false (Utf8.encode (tableText columns rows ended)) =
      Utf8.encode (lineOf (columns.map Prod.fst)) ::
        rows.map fun row => Utf8.encode (lineOf (columns.map fun column => column.2 row)) := by
  have lines : ∀ bytes ∈ Utf8.encode (lineOf (columns.map Prod.fst)) ::
      rows.map fun row => Utf8.encode (lineOf (columns.map fun column => column.2 row)),
        PlainLine bytes ∧ bytes ≠ [] := by
    intro bytes member
    obtain ⟨line, listed, rfl⟩ : ∃ line ∈ (columns.map Prod.fst) ::
        rows.map fun row => columns.map fun column => column.2 row,
          Utf8.encode (lineOf line) = bytes := by
      rw [← List.mem_map]
      simpa [Function.comp_def] using member
    obtain ⟨nonempty, plain⟩ := table.lines line listed
    exact ⟨plainLine_lineOf plain, lineOf_ne_nil nonempty plain⟩
  rw [encode_tableText]
  apply splitRecords_lines
  · exact fun line member => (lines line member).1
  · exact fun line member => (lines line member).2
  · cases ended with
    | true => exact .inr rfl
    | false => exact .inl rfl

/-- The text of a table begins with an ASCII octet, so with no mark of an encoding. -/
theorem exists_encode_tableText (table : PlainTable columns rows) (ended : Bool) :
    ∃ b bytes, Utf8.encode (tableText columns rows ended) = b :: bytes ∧ b.toNat < 128 := by
  have header := table.lines _ List.mem_cons_self
  have some_byte := lineOf_ne_nil header.1 header.2
  have ascii := table.ascii
  rw [tableText, Utf8.encode_append]
  cases shape : lineOf (columns.map Prod.fst) with
  | nil =>
      rw [shape] at some_byte
      exact absurd rfl some_byte
  | cons c rest =>
      rw [shape] at ascii
      have small : c.toNat < 128 := ascii c rfl
      have first : Utf8.encodeChar c = [UInt8.ofNat c.toNat] := by
        simp only [Utf8.encodeChar, if_pos small]
      have value : (UInt8.ofNat c.toNat).toNat < 128 := by
        rw [UInt8.toNat_ofNat']
        omega
      rw [Utf8.encode, List.flatMap_cons, first]
      exact ⟨_, _, rfl, value⟩

theorem dropMark_eq_self {b : UInt8} (ascii : b.toNat < 128) (bytes : List UInt8) :
    dropMark (b :: bytes) = b :: bytes := by
  unfold dropMark
  split
  · rename_i marked
    rw [(List.cons.inj marked).1] at ascii
    exact absurd ascii (by decide)
  · rfl

theorem inferTypes?_tableText (table : PlainTable columns rows) :
    inferTypes? columns.length
        (rows.map fun row => Utf8.encode (lineOf (columns.map fun column => column.2 row))) =
      some (columns.map (typeOf rows)) := by
  have inspected : ((rows.map fun row =>
      Utf8.encode (lineOf (columns.map fun column => column.2 row))).take inferenceRows).mapM
        inspectRecord = some ((rows.take inferenceRows).map fun row => columns.map fun column =>
          some (FieldType.ofText (column.2 row).toList)) := by
    rw [← List.map_take, List.mapM_map]
    apply mapM_eq_some_map
    intro row member
    obtain ⟨nonempty, plain⟩ := table.lines (columns.map fun column => column.2 row)
      (List.mem_cons_of_mem _ (List.mem_map_of_mem (List.mem_of_mem_take member)))
    rw [Function.comp_apply, inspectRecord_lineOf nonempty plain, List.map_map]
    rfl
  rw [inferTypes?, inspected, Option.map_some]
  congr 1
  apply List.ext_getElem
  · rw [List.length_map, List.length_map, List.length_range]
  · intro index first second
    have bound : index < columns.length := by simpa using second
    have seen : ((rows.take inferenceRows).map fun row => columns.map fun column =>
        some (FieldType.ofText (column.2 row).toList)).filterMap (fun row => (row[index]?).join) =
          (rows.take inferenceRows).map fun row =>
            FieldType.ofText (columns[index].2 row).toList := by
      rw [List.filterMap_map, ← List.filterMap_eq_map]
      apply List.filterMap_congr
      intro row _
      simp [bound]
    rw [List.getElem_map, List.getElem_map, List.getElem_range, inferColumn, seen, typeOf,
      guessedType, ← List.map_take, List.map_map]
    rfl

theorem readCells?_map_eq_some_iff {row : ρ} (some_columns : List (String × (ρ → String)))
    {cells : List Cell} :
    readCells? (some_columns.map (typeOf rows))
        (some_columns.map fun column => fieldOf (column.2 row)) = some cells ↔
      (∀ column ∈ some_columns, (cellOf? rows column row).isSome = true) ∧
        cells = some_columns.map fun column => (cellOf? rows column row).getD .null := by
  induction some_columns generalizing cells with
  | nil =>
      constructor
      · intro read
        cases read
        simp
      · rintro ⟨-, rfl⟩
        rfl
  | cons column more more_ih =>
      rw [List.map_cons, List.map_cons, readCells?, ← cellOf?]
      cases found : cellOf? rows column row with
      | none => simp [found]
      | some cell =>
          simp only [Option.map_eq_some_iff, more_ih, List.forall_mem_cons, found,
            Option.isSome_some, true_and, List.map_cons, Option.getD_some]
          constructor
          · rintro ⟨others, ⟨read, rfl⟩, rfl⟩
            exact ⟨read, rfl⟩
          · rintro ⟨read, rfl⟩
            exact ⟨_, ⟨read, rfl⟩, rfl⟩

theorem readRow?_eq_some_iff (table : PlainTable columns rows) {row : ρ} (member : row ∈ rows)
    {cells : List Cell} :
    readRow? (columns.map (typeOf rows))
        (Utf8.encode (lineOf (columns.map fun column => column.2 row))) = some cells ↔
      (∀ column ∈ columns, (cellOf? rows column row).isSome = true) ∧
        cells = columns.map fun column => (cellOf? rows column row).getD .null := by
  obtain ⟨nonempty, plain⟩ := table.lines (columns.map fun column => column.2 row)
    (List.mem_cons_of_mem _ (List.mem_map_of_mem member))
  have filled : (Utf8.encode (lineOf (columns.map fun column => column.2 row))).isEmpty = false := by
    rw [List.isEmpty_eq_false_iff]
    exact lineOf_ne_nil nonempty plain
  rw [← readCells?_map_eq_some_iff columns]
  simp only [readRow?, dropReturn_plain (plainLine_lineOf plain), filled, Bool.false_eq_true,
    if_false, splitFields_lineOf nonempty plain, List.map_map]
  rfl

theorem readRows_eq_some_iff (table : PlainTable columns rows) {found : List (List Cell)} :
    rows.mapM (fun row => readRow? (columns.map (typeOf rows))
        (Utf8.encode (lineOf (columns.map fun column => column.2 row)))) = some found ↔
      Readable columns rows ∧
        found = rows.map fun row => columns.map fun column => (cellOf? rows column row).getD .null :=
  mapM_eq_some_iff fun _ member _ => readRow?_eq_some_iff table member

theorem columnsOf_map (type : String × (ρ → String) → ColumnType)
    (cell : String × (ρ → String) → ρ → Cell) :
    columnsOf (columns.map Prod.fst) (columns.map type)
        (rows.map fun row => columns.map fun column => cell column row) =
      columns.map fun column => ⟨column.1, type column, rows.map (cell column)⟩ := by
  apply List.ext_getElem
  · simp [columnsOf]
  · intro index first second
    have bound : index < columns.length := by simpa using second
    simp [columnsOf, bound, Function.comp_def]

/-- A plain table is read when each of its texts is, and then column by column. -/
theorem frame?_tableText (table : PlainTable columns rows) (ended : Bool) {frame : Frame} :
    frame? (Utf8.encode (tableText columns rows ended)) = some frame ↔
      Readable columns rows ∧ frame = tableFrame columns rows := by
  have header := table.lines _ List.mem_cons_self
  obtain ⟨b, bytes, text, ascii⟩ := exists_encode_tableText table ended
  have unmarked : dropMark (Utf8.encode (tableText columns rows ended)) =
      Utf8.encode (tableText columns rows ended) := by
    rw [text, dropMark_eq_self ascii]
  have types := inferTypes?_tableText table
  rw [← List.length_map Prod.fst] at types
  simp only [frame?, unmarked, splitRecords_tableText table ended,
    headerNames?_lineOf header.1 header.2 table.distinct, types, List.mapM_map,
    Option.map_eq_some_iff, Function.comp_def, readRows_eq_some_iff table]
  constructor
  · rintro ⟨_, ⟨readable, rfl⟩, rfl⟩
    refine ⟨readable, ?_⟩
    rw [columnsOf_map, tableFrame]
  · rintro ⟨readable, rfl⟩
    refine ⟨_, ⟨readable, rfl⟩, ?_⟩
    rw [columnsOf_map, tableFrame]

end Table

end DatasetGate.Dataset
