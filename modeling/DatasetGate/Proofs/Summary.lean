import DatasetGate.Proofs.Text.Blank
import DatasetGate.Summary

/-!
# What a summary shows

A line of a table shows the lines of its cells between bars. The last row of a summary with outcomes
is the total, and the first line of that row shows the mark of the plan and the count of the failed
outcomes.
-/

set_option autoImplicit false

namespace DatasetGate

open DatasetGate.Text

namespace Table

/-! ## Wrapping -/

section Wrapping

variable {P : Char → Prop}

theorem forall_mem_takeWidth (room : Nat) {word : List Char} (every : ∀ c ∈ word, P c) :
    (∀ c ∈ (takeWidth room word).1, P c) ∧ ∀ c ∈ (takeWidth room word).2, P c := by
  induction word generalizing room with
  | nil => simp [takeWidth]
  | cons c rest ih =>
      rw [takeWidth]
      split
      · exact ⟨by simp, every⟩
      · have later := ih (room - charWidth c) fun d member =>
          every d (List.mem_cons_of_mem c member)
        exact ⟨List.forall_mem_cons.mpr ⟨every c List.mem_cons_self, later.1⟩, later.2⟩

theorem forall_mem_cutWord (room fuel : Nat) {word : List Char} (every : ∀ c ∈ word, P c) :
    (∀ line ∈ (cutWord room fuel word).1, ∀ c ∈ line, P c) ∧
      ∀ c ∈ (cutWord room fuel word).2, P c := by
  induction fuel generalizing word with
  | zero => exact ⟨by simp [cutWord], every⟩
  | succ fuel ih =>
      rw [cutWord]
      split
      · exact ⟨by simp, every⟩
      · have taken := forall_mem_takeWidth room every
        dsimp only
        split
        · have shorter : ∀ c ∈ word.drop 1, P c := fun c member =>
            every c (List.mem_of_mem_drop member)
          have later := ih shorter
          exact ⟨List.forall_mem_cons.mpr
            ⟨fun c member => every c (List.mem_of_mem_take member), later.1⟩, later.2⟩
        · have later := ih taken.2
          exact ⟨List.forall_mem_cons.mpr ⟨taken.1, later.1⟩, later.2⟩

theorem forall_mem_wrapWords {room : Nat} {words : List (List Char)} {current : List Char}
    (blank : P ' ') (every : ∀ word ∈ words, ∀ c ∈ word, P c) (started : ∀ c ∈ current, P c) :
    ∀ line ∈ wrapWords room words current, ∀ c ∈ line, P c := by
  induction words generalizing current with
  | nil =>
      rw [wrapWords]
      split
      · simp
      · simpa using started
  | cons word rest ih =>
      rw [List.forall_mem_cons] at every
      -- A line that grew by the word is full or carried on; a word that does not fit starts afresh.
      have go (line : List Char) (own : ∀ c ∈ line, P c) :
          ∀ shown ∈ (if room - minFree < width line then line :: wrapWords room rest []
            else wrapWords room rest line), ∀ c ∈ shown, P c := by
        split
        · exact List.forall_mem_cons.mpr ⟨own, ih every.2 (by simp)⟩
        · exact ih every.2 own
      have fresh (word : List Char) (own : ∀ c ∈ word, P c) :
          ∀ shown ∈ (cutWord room word.length word).1 ++
            (if room - minFree < width (cutWord room word.length word).2 then
              (cutWord room word.length word).2 :: wrapWords room rest []
            else wrapWords room rest (cutWord room word.length word).2), ∀ c ∈ shown, P c := by
        have cut := forall_mem_cutWord room word.length own
        intro shown member
        rcases List.mem_append.mp member with full | last
        · exact cut.1 shown full
        · exact go _ cut.2 shown last
      have joined : ∀ c ∈ (if current.isEmpty then word else current ++ ' ' :: word), P c := by
        split
        · exact every.1
        · exact List.forall_mem_append.mpr ⟨started, List.forall_mem_cons.mpr ⟨blank, every.1⟩⟩
      have taken := forall_mem_takeWidth (room - width current - 1) every.1
      dsimp only [wrapWords]
      generalize (if current.isEmpty = true then word else current ++ ' ' :: word) = line
        at joined ⊢
      split
      · exact go line joined
      · split
        · exact fresh word every.1
        · split
          · exact List.forall_mem_cons.mpr ⟨started, fresh word every.1⟩
          · refine List.forall_mem_cons.mpr ⟨?_, fresh _ taken.2⟩
            exact List.forall_mem_append.mpr ⟨started, List.forall_mem_cons.mpr ⟨blank, taken.1⟩⟩

end Wrapping

theorem forall_mem_splitAt {P : Char → Prop} {separator : Char} {text : List Char}
    (every : ∀ c ∈ text, P c) : ∀ part ∈ splitAt separator text, ∀ c ∈ part, P c := by
  induction text with
  | nil => simp [splitAt]
  | cons c rest ih =>
      rw [List.forall_mem_cons] at every
      have later := ih every.2
      rw [splitAt]
      cases parts : splitAt separator rest with
      | nil => simpa using every.1
      | cons first others =>
          rw [parts, List.forall_mem_cons] at later
          dsimp only
          split
          · simpa using later
          · exact List.forall_mem_cons.mpr ⟨List.forall_mem_cons.mpr ⟨every.1, later.1⟩, later.2⟩

theorem splitAt_of_not_mem {separator : Char} {text : List Char} (absent : separator ∉ text) :
    splitAt separator text = [text] := by
  induction text with
  | nil => rfl
  | cons c rest ih =>
      rw [List.mem_cons, not_or] at absent
      rw [splitAt, ih absent.2]
      exact if_neg fun same => absent.1 same.symm

/-- A wrapped cell is written with its own characters and blanks. -/
theorem forall_mem_cellLines {P : Char → Prop} (blank : P ' ') {room : Nat} {cell : String}
    (every : ∀ c ∈ cell.toList, P c) : ∀ line ∈ cellLines room cell, ∀ c ∈ line, P c := by
  intro shown member
  obtain ⟨line, lineMember, wrapped⟩ := List.mem_flatMap.mp member
  have own := forall_mem_splitAt every line lineMember
  split at wrapped
  · rw [List.mem_singleton.mp wrapped]
    exact own
  · exact forall_mem_wrapWords blank (forall_mem_splitAt own) (by simp) shown wrapped

/-- A cell of one line that fits its column is not wrapped. -/
theorem cellLines_of_fits {room : Nat} {cell : String} (single : '\n' ∉ cell.toList)
    (fits : width cell.toList ≤ room) : cellLines room cell = [cell.toList] := by
  simp [cellLines, splitAt_of_not_mem single, fits]

theorem naturalWidth_eq {cell : String} (single : '\n' ∉ cell.toList) :
    naturalWidth cell = width cell.toList := by
  simp [naturalWidth, splitAt_of_not_mem single]

/-! ## Lines between bars -/

theorem le_foldl_max {numbers : List Nat} (start : Nat) :
    start ≤ numbers.foldl max start ∧ ∀ n ∈ numbers, n ≤ numbers.foldl max start := by
  induction numbers generalizing start with
  | nil => simp
  | cons m rest ih =>
      obtain ⟨low, every⟩ := ih (max start m)
      rw [List.foldl_cons, List.forall_mem_cons]
      exact ⟨Nat.le_trans (Nat.le_max_left _ _) low, Nat.le_trans (Nat.le_max_right _ _) low, every⟩

theorem intercalate_concat {α : Type} (separator last : List α) {parts : List (List α)}
    (nonempty : parts ≠ []) :
    separator.intercalate (parts ++ [last]) = separator.intercalate parts ++ separator ++ last := by
  induction parts with
  | nil => exact absurd rfl nonempty
  | cons part rest ih =>
      cases rest with
      | nil => simp [List.intercalate]
      | cons next rest =>
          rw [List.cons_append, List.intercalate_cons_of_ne_nil (by simp), ih (by simp),
            List.intercalate_cons_of_ne_nil (List.cons_ne_nil next rest)]
          simp only [List.append_assoc]

/-- What a line of a table shows between its bars. -/
def shownCells (line : String) : List String :=
  ((line.toList.splitOn '│').drop 1).dropLast.map fun cell => String.ofList (trim cell)

/-- The cells of a row, each with its alignment, the width of its column, and its lines. -/
def wrappedCells (columns : List Layout) (widths : List Nat) (row : List String) :
    List (Alignment × Nat × List (List Char)) :=
  ((columns.zip widths).zip row).map fun ((column, room), cell) =>
    (column.alignment, room, cellLines room cell)

/-- One line of a row of cells. A cell with fewer lines shows nothing there. -/
def rowLine (cells : List (Alignment × Nat × List (List Char))) (index : Nat) : String :=
  String.ofList <|
    '│' :: (List.intersperse ['│'] (cells.map fun (alignment, room, lines) =>
      aligned alignment room ((lines[index]?).getD []))).flatten ++ ['│']

theorem rowLines_eq (columns : List Layout) (widths : List Nat) (row : List String) :
    rowLines columns widths row =
      (List.range (((wrappedCells columns widths row).map fun (_, _, lines) =>
        lines.length).foldl max 0)).map (rowLine (wrappedCells columns widths row)) :=
  rfl

theorem trim_aligned (alignment : Alignment) (room : Nat) (line : List Char) :
    trim (aligned alignment room line) = trim line := by
  have blank (count : Nat) : ∀ c ∈ List.replicate count ' ', isBlank c = true := by
    intro c member
    rw [List.eq_of_mem_replicate member]
    rfl
  exact trim_padded (blank _) (blank _)

theorem bar_not_mem_aligned (alignment : Alignment) (room index : Nat) {lines : List (List Char)}
    (clean : ∀ line ∈ lines, '│' ∉ line) :
    '│' ∉ aligned alignment room ((lines[index]?).getD []) := by
  have own : '│' ∉ (lines[index]?).getD [] := by
    cases shown : lines[index]? with
    | none => simp
    | some line => exact clean line (List.mem_of_getElem? shown)
  simp [aligned, own]

/-- A line shows the lines of its cells if no cell has a bar of its own. -/
theorem shownCells_rowLine {cells : List (Alignment × Nat × List (List Char))}
    (nonempty : cells ≠ []) (clean : ∀ cell ∈ cells, ∀ line ∈ cell.2.2, '│' ∉ line)
    (index : Nat) :
    shownCells (rowLine cells index) =
      cells.map fun cell => String.ofList (trim ((cell.2.2[index]?).getD [])) := by
  generalize shown : (cells.map fun (alignment, room, lines) =>
    aligned alignment room ((lines[index]?).getD [])) = parts
  have present : parts ≠ [] := by
    rw [← shown]
    simpa using nonempty
  have framed : '│' :: (List.intersperse ['│'] parts).flatten ++ ['│'] =
      ['│'].intercalate ([] :: (parts ++ [[]])) := by
    rw [List.intercalate_cons_of_ne_nil (by simp), intercalate_concat _ _ present]
    simp [List.intercalate]
  have split : (rowLine cells index).toList.splitOn '│' = [] :: (parts ++ [[]]) := by
    rw [rowLine, shown, String.toList_ofList, framed]
    refine List.splitOn_intercalate '│' ?_ (by simp)
    intro part member
    rcases List.mem_cons.mp member with rfl | member
    · simp
    · rcases List.mem_append.mp member with member | member
      · rw [← shown] at member
        obtain ⟨cell, cellMember, rfl⟩ := List.mem_map.mp member
        exact bar_not_mem_aligned _ _ index (clean cell cellMember)
      · simp [List.mem_singleton.mp member]
  rw [shownCells, split, List.drop_one, List.tail_cons, List.dropLast_concat, ← shown]
  simp [trim_aligned, Function.comp_def]

theorem not_mem_intercalate {α : Type} {a : α} {separator : List α} {parts : List (List α)}
    (apart : a ∉ separator) (clean : ∀ part ∈ parts, a ∉ part) :
    a ∉ separator.intercalate parts := by
  induction parts with
  | nil => simp [List.intercalate]
  | cons part rest ih =>
      rw [List.forall_mem_cons] at clean
      cases rest with
      | nil => simpa [List.intercalate] using clean.1
      | cons next rest =>
          rw [List.intercalate_cons_of_ne_nil (List.cons_ne_nil next rest)]
          simp only [List.mem_append, not_or]
          exact ⟨⟨clean.1, apart⟩, ih clean.2⟩

theorem clean_wrappedCells {columns : List Layout} {widths : List Nat} {row : List String}
    (clean : ∀ cell ∈ row, '│' ∉ cell.toList) :
    ∀ cell ∈ wrappedCells columns widths row, ∀ line ∈ cell.2.2, '│' ∉ line := by
  intro cell member line lineMember bar
  obtain ⟨⟨⟨column, room⟩, text⟩, zipped, rfl⟩ := List.mem_map.mp member
  have own : ∀ c ∈ text.toList, c ≠ '│' := by
    rintro c textMember rfl
    exact clean text (List.of_mem_zip zipped).2 textMember
  exact forall_mem_cellLines (by decide) own line lineMember '│' bar rfl

/-- A line without bars shows no cells. -/
theorem shownCells_rule {first line cross last : Char} {widths : List Nat}
    (clean : '│' ∉ [first, line, cross, last]) :
    shownCells (rule first line cross last widths) = [] := by
  have absent : '│' ∉ (rule first line cross last widths).toList := by
    simp only [List.mem_cons, List.not_mem_nil, or_false, not_or] at clean
    have inner : '│' ∉ [cross].intercalate (widths.map fun w => List.replicate (w + 2) line) := by
      refine not_mem_intercalate (by simpa using clean.2.2.1) ?_
      simp [clean.2.1]
    rw [rule, String.toList_ofList, ← List.intercalate]
    simp [inner, clean.1, clean.2.2.2]
  rw [shownCells, List.splitOn_eq_singleton absent]
  rfl

/-- A table ends in the lines of its last row and the rule below it. -/
theorem lines_concat (columns : List Layout) {rows : List (List String)} (last : List String)
    (nonempty : rows ≠ []) :
    ∃ before, lines columns (rows ++ [last]) =
      before ++ (rowLines columns (columnWidths columns (rows ++ [last])) last ++
        [rule '╰' '─' '┴' '╯' (columnWidths columns (rows ++ [last]))]) := by
  have present : rows.map (rowLines columns (columnWidths columns (rows ++ [last]))) ≠ [] := by
    simpa using nonempty
  rw [lines, ← List.intercalate, List.map_append, List.map_singleton,
    intercalate_concat _ _ present, ← List.append_assoc, List.append_assoc _ _ [rule _ _ _ _ _]]
  exact ⟨_, rfl⟩

end Table

namespace Summary

open Table

/-- The line of the total: the last one that shows its label first. -/
def totalLine? (lines : List String) : Option String :=
  lines.reverse.find? fun line => (shownCells line).head? = some "TOTAL"

theorem toList_toString (n : Nat) : (toString n).toList = Nat.toDigits 10 n :=
  String.toList_ofList

/-- The width that the cells of a column have by themselves. -/
def naturalOf (title : String) (rows : List (List String)) (index : Nat) : Nat :=
  ((title :: rows.map fun row => (row[index]?).getD "").map naturalWidth).foldl max 0

theorem columnWidths_columns (rows : List (List String)) :
    columnWidths columns rows =
      [min 16 (naturalOf "Check" rows 0), min 16 (naturalOf "Column" rows 1),
        naturalOf "Result" rows 2, naturalOf "Failed" rows 3, min 55 (naturalOf "Rows" rows 4)] :=
  rfl

theorem width_le_naturalOf {title : String} {rows : List (List String)} {index : Nat}
    {row : List String} {cell : String} (member : row ∈ rows) (shown : row[index]? = some cell)
    (single : '\n' ∉ cell.toList) : width cell.toList ≤ naturalOf title rows index := by
  rw [← naturalWidth_eq single]
  refine (le_foldl_max 0).2 _ (List.mem_map_of_mem (List.mem_cons_of_mem _ ?_))
  exact List.mem_map.mpr ⟨row, member, by rw [shown]; rfl⟩

theorem digits_toString {n : Nat} {c : Char} (member : c ∈ (toString n).toList) :
    isDigit c = true := by
  rw [toList_toString] at member
  exact isDigit_of_mem_toDigits member

theorem not_mem_toString {n : Nat} {c : Char} (other : isDigit c = false) :
    c ∉ (toString n).toList := by
  intro member
  rw [digits_toString member] at other
  cases other

theorem trim_toString (n : Nat) : trim (toString n).toList = (toString n).toList := by
  refine trim_eq_self ?_ ?_
  · intro c first
    exact isBlank_of_isDigit (digits_toString (List.mem_of_mem_head? first))
  · intro c last
    exact isBlank_of_isDigit (digits_toString (List.mem_of_mem_getLast? last))

theorem clean_totalRow (result : PlanResult) (outcomes : List Outcome) :
    ∀ cell ∈ totalRow result outcomes, '│' ∉ cell.toList := by
  have count (n : Nat) : '│' ∉ (toString n).toList := not_mem_toString (by decide)
  simp only [totalRow, List.forall_mem_cons]
  refine ⟨by decide, ?_, ?_, count _, by decide, by simp⟩
  · rw [String.toList_append, List.mem_append, not_or]
    exact ⟨count _, by decide⟩
  · cases result.passed <;> decide

section Total

variable (result : PlanResult) (outcomes : List Outcome)

/-- The cells of the row of the total, wrapped to their columns. -/
def totalCells : List (Table.Alignment × Nat × List (List Char)) :=
  wrappedCells columns (columnWidths columns (rows result outcomes)) (totalRow result outcomes)

def failedCount : Nat :=
  (outcomes.filter fun outcome => !outcome.passed).length

/-- Label, mark and count of the total fit their columns, so each has one line. -/
theorem exists_totalCells :
    ∃ checks dash, (totalCells result outcomes).map (fun cell => cell.2.2) =
      [["TOTAL".toList], checks, [(mark result.passed).toList],
        [(toString (failedCount outcomes)).toList], dash] := by
  have member : totalRow result outcomes ∈ rows result outcomes :=
    List.mem_append_right _ (List.mem_singleton_self _)
  have label : cellLines (min 16 (naturalOf "Check" (rows result outcomes) 0)) "TOTAL" =
      ["TOTAL".toList] :=
    cellLines_of_fits (by decide) (le_min (by decide)
      (width_le_naturalOf member rfl (by decide)))
  have single : '\n' ∉ (mark result.passed).toList := by
    cases result.passed <;> decide
  have marked : cellLines (naturalOf "Result" (rows result outcomes) 2) (mark result.passed) =
      [(mark result.passed).toList] :=
    cellLines_of_fits single (width_le_naturalOf member rfl single)
  have counted : cellLines (naturalOf "Failed" (rows result outcomes) 3)
      (toString (failedCount outcomes)) = [(toString (failedCount outcomes)).toList] :=
    cellLines_of_fits (not_mem_toString (by decide))
      (width_le_naturalOf member rfl (not_mem_toString (by decide)))
  rw [← label, ← marked, ← counted, totalCells, columnWidths_columns]
  exact ⟨_, _, rfl⟩

theorem shownCells_totalRow (index : Nat) :
    shownCells (rowLine (totalCells result outcomes) index) =
      ((totalCells result outcomes).map fun cell => cell.2.2).map fun lines =>
        String.ofList (trim ((lines[index]?).getD [])) := by
  obtain ⟨checks, dash, cells⟩ := exists_totalCells result outcomes
  have nonempty : totalCells result outcomes ≠ [] := by
    intro empty
    rw [empty] at cells
    cases cells
  rw [List.map_map]
  exact shownCells_rowLine nonempty (clean_wrappedCells (clean_totalRow result outcomes)) index

/-- The label stands on the first line of the row alone. -/
theorem totalRow_lines :
    ∃ more, rowLines columns (columnWidths columns (rows result outcomes))
        (totalRow result outcomes) = rowLine (totalCells result outcomes) 0 :: more ∧
      ∀ line ∈ more, (shownCells line).head? ≠ some "TOTAL" := by
  obtain ⟨checks, dash, cells⟩ := exists_totalCells result outcomes
  have heights : ((totalCells result outcomes).map fun (_, _, lines) => lines.length) =
      ((totalCells result outcomes).map fun cell => cell.2.2).map List.length := by
    rw [List.map_map]
    rfl
  rw [rowLines_eq, ← totalCells, heights, cells]
  obtain ⟨height, tall⟩ : ∃ height, ([["TOTAL".toList], checks, [(mark result.passed).toList],
      [(toString (failedCount outcomes)).toList], dash].map List.length).foldl max 0 =
        height + 1 := by
    refine Nat.exists_eq_succ_of_ne_zero (Nat.ne_of_gt ?_)
    exact (le_foldl_max 0).2 1 List.mem_cons_self
  rw [tall, List.range_succ_eq_map, List.map_cons]
  refine ⟨_, rfl, ?_⟩
  intro line member
  simp only [List.map_map, List.mem_map] at member
  obtain ⟨index, -, rfl⟩ := member
  rw [Function.comp_apply, shownCells_totalRow, cells]
  show some (String.ofList (trim [])) ≠ some "TOTAL"
  decide

end Total

/-- The row of the total stands last, and its first line is that of the total. Its mark is the
plan's and its count that of the failed outcomes. -/
theorem exists_totalLine {dataset : String} {records : Nat} {report : Option String}
    (result : PlanResult) {outcomes : List Outcome} (reported : outcomes ≠ []) :
    ∃ line, totalLine? (lines dataset records report result outcomes) = some line ∧
      (shownCells line)[2]? = some (mark result.passed) ∧
      (shownCells line)[3]? = some (toString (failedCount outcomes)) := by
  obtain ⟨checks, dash, cells⟩ := exists_totalCells result outcomes
  obtain ⟨more, firstLine, unlabelled⟩ := totalRow_lines result outcomes
  have shown := shownCells_totalRow result outcomes 0
  rw [cells] at shown
  obtain ⟨before, split⟩ : ∃ before, lines dataset records report result outcomes =
      before ++ rowLine (totalCells result outcomes) 0 :: (more ++
        [rule '╰' '─' '┴' '╯' (columnWidths columns (rows result outcomes))]) := by
    have noneEmpty : outcomes.isEmpty = false := by simpa using reported
    obtain ⟨before, table⟩ := lines_concat columns (totalRow result outcomes)
      (show outcomes.map outcomeRow ≠ [] by simpa using reported)
    rw [lines, noneEmpty, if_neg Bool.false_ne_true, rows, table, ← rows, firstLine,
      ← List.append_assoc]
    exact ⟨_, rfl⟩
  refine ⟨rowLine (totalCells result outcomes) 0, ?_, ?_, ?_⟩
  · rw [totalLine?, split, List.reverse_append, List.reverse_cons, List.append_assoc,
      List.find?_eq_some_iff_append]
    refine ⟨?_, _, _, rfl, ?_⟩
    · rw [shown]
      show decide (some (String.ofList (trim "TOTAL".toList)) = some "TOTAL") = true
      decide
    · -- Behind that line come lines of the same row without a label, and the rule.
      intro line member
      rw [List.mem_reverse, List.mem_append, List.mem_singleton] at member
      rcases member with member | rfl
      · simpa using unlabelled line member
      · rw [shownCells_rule (by decide)]
        rfl
  · rw [shown]
    show some (String.ofList (trim (mark result.passed).toList)) = some (mark result.passed)
    cases result.passed <;> decide
  · rw [shown]
    show some (String.ofList (trim (toString (failedCount outcomes)).toList)) = _
    rw [trim_toString, String.ofList_toList]

end Summary

end DatasetGate
