import DatasetGate.Proofs.Dataset.Spelling

/-!
# The frame of a table

Whatever octets are read as a table, the frame is well formed: a cell stands in a column of its type,
every column has a cell for each record, and no two columns have one name.
-/

set_option autoImplicit false

namespace DatasetGate.Dataset

open DatasetGate.Text

/-! ## Cells of their column's type -/

theorem holds_null (type : ColumnType) : type.Holds .null := by
  cases type <;> trivial

theorem holds_of_readBool? {text : List Char} {cell : Cell} (read : readBool? text = some cell) :
    ColumnType.bool.Holds cell := by
  unfold readBool? at read
  simp only at read
  split_ifs at read
  · cases read
    trivial
  · cases read
    trivial

theorem holds_of_readInteger64? {text : List Char} {cell : Cell}
    (read : readInteger64? text = some cell) : (ColumnType.integer .signed64).Holds cell := by
  unfold readInteger64? at read
  split at read
  · split at read
    · rename_i value _ fits
      cases read
      obtain ⟨low, high⟩ := fits
      refine ⟨low, ?_⟩
      simp only [IntegerType.greatest]
      omega
    · cases read
  · cases read

theorem holds_of_readIndented {type : ColumnType} {read? : List Char → Option Cell}
    (own : ∀ text cell, read? text = some cell → type.Holds cell) {text : List Char} {cell : Cell}
    (read : readIndented read? text = some cell) : type.Holds cell := by
  unfold readIndented at read
  split_ifs at read with empty
  · cases read
    exact holds_null type
  · cases whole : read? text with
    | some found =>
        rw [whole] at read
        cases read
        exact own text _ whole
    | none =>
        rw [whole] at read
        cases text with
        | nil => cases read
        | cons c rest =>
            dsimp only at read
            split_ifs at read
            · cases read
              exact holds_null type
            · exact own _ _ read

theorem holds_of_readText? {field : Field} {cell : Cell} (read : readText? field = some cell) :
    ColumnType.text.Holds cell := by
  unfold readText? at read
  dsimp only at read
  split at read
  · obtain ⟨text, -, rfl⟩ := Option.map_eq_some_iff.mp read
    trivial
  · cases read

/-- A field read in a column of a guessed type is null or has that type. -/
theorem holds_of_readCell? {seen : List FieldType} {field : Field} {cell : Cell}
    (read : readCell? (columnTypeOf seen) field = some cell) :
    (columnTypeOf seen).Holds cell := by
  unfold readCell? at read
  dsimp only at read
  split_ifs at read
  · cases read
    exact holds_null _
  · rcases columnTypeOf_cases seen with type | type | type | type
    all_goals simp only [type] at read ⊢
    · split at read
      · cases read
      · exact holds_of_readBool? read
    · split at read
      · cases read
      · exact holds_of_readIndented (fun _ _ => holds_of_readInteger64?) read
    · split at read
      · cases read
      · refine holds_of_readIndented (fun text found shown => ?_) read
        obtain ⟨value, -, rfl⟩ := Option.map_eq_some_iff.mp shown
        trivial
    · exact holds_of_readText? read

/-- Column types that fields were seen to have. -/
def Guessed (types : List ColumnType) : Prop :=
  ∀ type ∈ types, ∃ seen, type = columnTypeOf seen

theorem holds_of_readCells? {types : List ColumnType} (guessed : Guessed types)
    {fields : List Field} {cells : List Cell} (read : readCells? types fields = some cells) :
    List.Forall₂ ColumnType.Holds types cells := by
  induction types generalizing fields cells with
  | nil =>
      cases fields with
      | nil =>
          cases read
          exact .nil
      | cons field fields => cases read
  | cons type types ih =>
      obtain ⟨⟨seen, rfl⟩, more⟩ := List.forall_mem_cons.mp guessed
      cases fields with
      | nil =>
          obtain ⟨rest, readRest, rfl⟩ := Option.map_eq_some_iff.mp read
          exact .cons (holds_null _) (ih more readRest)
      | cons field fields =>
          rw [readCells?] at read
          cases first : readCell? (columnTypeOf seen) field with
          | none => simp [first] at read
          | some cell =>
              rw [first] at read
              obtain ⟨rest, readRest, rfl⟩ := Option.map_eq_some_iff.mp read
              exact .cons (holds_of_readCell? first) (ih more readRest)

theorem holds_of_readRow? {types : List ColumnType} (guessed : Guessed types)
    {record : List UInt8} {cells : List Cell} (read : readRow? types record = some cells) :
    List.Forall₂ ColumnType.Holds types cells := by
  unfold readRow? at read
  split_ifs at read
  · cases read
    rw [List.forall₂_map_right_iff, List.forall₂_same]
    exact fun type _ => holds_null type
  · cases split : splitFields .start record with
    | none => simp [split] at read
    | some fields =>
        rw [split] at read
        exact holds_of_readCells? guessed read

/-! ## Columns of one height -/

theorem mem_columnsOf_iff {names : List String} {types : List ColumnType} {rows : List (List Cell)}
    {column : Column} :
    column ∈ columnsOf names types rows ↔
      ∃ index : Nat, names[index]? = some column.name ∧ types[index]? = some column.type ∧
        column.cells = rows.map fun row => (row[index]?).getD .null := by
  simp only [columnsOf, List.mem_map, Prod.exists, List.mk_mem_zipIdx_iff_getElem?,
    List.getElem?_zip_eq_some]
  constructor
  · rintro ⟨name, type, index, ⟨named, typed⟩, rfl⟩
    exact ⟨index, named, typed, rfl⟩
  · rintro ⟨index, named, typed, cells⟩
    exact ⟨column.name, column.type, index, ⟨named, typed⟩, by rw [← cells]⟩

theorem map_name_columnsOf {names : List String} {types : List ColumnType}
    (paired : types.length = names.length) (rows : List (List Cell)) :
    (columnsOf names types rows).map Column.name = names := by
  have first : (columnsOf names types rows).map Column.name =
      ((names.zip types).zipIdx.map Prod.fst).map Prod.fst := by
    rw [columnsOf, List.map_map, List.map_map]
    rfl
  rw [first, List.zipIdx_map_fst, List.map_fst_zip (Nat.le_of_eq paired.symm)]

theorem mem_of_mapM {α β : Type} {f : α → Option β} {values : List α} {results : List β}
    (mapped : values.mapM f = some results) {result : β} (member : result ∈ results) :
    ∃ value ∈ values, f value = some result := by
  induction values generalizing results with
  | nil =>
      cases mapped
      cases member
  | cons value values ih =>
      simp only [List.mapM_cons, Option.bind_eq_bind, Option.bind_eq_some_iff] at mapped
      obtain ⟨first, found, rest, mappedRest, done⟩ := mapped
      rw [← Option.some.inj done] at member
      rcases List.mem_cons.mp member with rfl | inRest
      · exact ⟨value, List.mem_cons_self, found⟩
      · obtain ⟨other, otherMember, otherFound⟩ := ih mappedRest inRest
        exact ⟨other, List.mem_cons_of_mem _ otherMember, otherFound⟩

theorem nodup_of_headerNames? {record : List UInt8} {names : List String}
    (read : headerNames? record = some names) : names.Nodup := by
  unfold headerNames? at read
  dsimp only at read
  split_ifs at read
  split at read
  · cases read
  · split_ifs at read with distinct
    cases read
    exact distinct

theorem guessed_of_inferTypes? {width : Nat} {records : List (List UInt8)}
    {types : List ColumnType} (inferred : inferTypes? width records = some types) :
    types.length = width ∧ Guessed types := by
  obtain ⟨rows, -, rfl⟩ := Option.map_eq_some_iff.mp inferred
  refine ⟨by rw [List.length_map, List.length_range], fun type member => ?_⟩
  obtain ⟨index, -, rfl⟩ := List.mem_map.mp member
  exact ⟨_, rfl⟩

/-- Columns made of the same rows have one height, which is that of their frame. -/
theorem wellFormed_columnsOf {names : List String} {types : List ColumnType}
    {rows : List (List Cell)} (distinct : names.Nodup) (paired : types.length = names.length)
    (typed : ∀ row ∈ rows, List.Forall₂ ColumnType.Holds types row) :
    (Frame.mk (columnsOf names types rows)).WellFormed where
  aligned := by
    have tall : ∀ column ∈ columnsOf names types rows, column.cells.length = rows.length := by
      intro column member
      obtain ⟨index, -, -, cells⟩ := mem_columnsOf_iff.mp member
      rw [cells, List.length_map]
    intro column member
    rw [tall column member, Frame.height]
    cases shown : columnsOf names types rows with
    | nil =>
        rw [Frame.columns, shown] at member
        cases member
    | cons first others => exact (tall first (by rw [shown]; exact List.mem_cons_self)).symm
  distinct := by
    rw [Frame.names, map_name_columnsOf paired]
    exact distinct
  typed := by
    intro column member cell inside
    obtain ⟨index, -, columnType, cells⟩ := mem_columnsOf_iff.mp member
    rw [cells] at inside
    obtain ⟨row, inRows, rfl⟩ := List.mem_map.mp inside
    obtain ⟨bound, typeHeld⟩ := List.getElem?_eq_some_iff.mp columnType
    have held := typed row inRows
    have reached : index < row.length := held.length_eq ▸ bound
    rw [List.getElem?_eq_getElem reached, Option.getD_some, ← typeHeld]
    exact held.get bound reached

/-- Octets that are read as a table make a well-formed frame. -/
theorem wellFormed_of_frame? {bytes : List UInt8} {frame : Frame}
    (read : frame? bytes = some frame) : frame.WellFormed := by
  unfold frame? at read
  split at read
  · cases read
  · rename_i header records _
    cases named : headerNames? header with
    | none => simp [named] at read
    | some names =>
        cases inferred : inferTypes? names.length records with
        | none => simp [named, inferred] at read
        | some types =>
            simp only [named, inferred] at read
            obtain ⟨rows, readRows, rfl⟩ := Option.map_eq_some_iff.mp read
            obtain ⟨paired, guessed⟩ := guessed_of_inferTypes? inferred
            refine wellFormed_columnsOf (nodup_of_headerNames? named) paired fun row member => ?_
            obtain ⟨record, -, readRow⟩ := mem_of_mapM readRows member
            exact holds_of_readRow? guessed readRow

end DatasetGate.Dataset
