import DatasetGate.CommandLine
import DatasetGate.Proofs.Dataset.NumberColumn
import DatasetGate.Proofs.InferredGate
import DatasetGate.Proofs.Selector
import DatasetGate.Proofs.Threshold

/-!
# The gate on minimums

A file of one numeric column with a whole number of sixty-four bits in every line, run through the
whole gate with a minimum for the column. No number loses its value between file and verdict.
-/

set_option autoImplicit false

namespace DatasetGate

open DatasetGate.Calendar DatasetGate.Dataset DatasetGate.Text

namespace NumberLiteral

/-- The text of a whole number as a literal. -/
def ofInt (n : Int) : NumberLiteral where
  negative := decide (n < 0)
  whole := Nat.toDigits 10 n.natAbs
  fraction := []
  wholeDigits _ member := isDigit_of_mem_toDigits member
  fractionDigits := nofun
  nonempty := Nat.toDigits_ne_nil
  unpadded := by
    intro zero
    rcases toDigits_eq_cons n.natAbs with alone | ⟨c, digits, shape, other, -⟩
    · exact alone
    · rw [shape] at zero
      exact absurd (Option.some.inj zero) other

theorem chars_ofInt (n : Int) : (ofInt n).chars = (toString n).toList := by
  rw [toList_toString_int, chars, (ofInt n).unsigned_of_nil rfl]
  simp [ofInt]

end NumberLiteral

namespace Dataset

open NumberLiteral

theorem plainText_toString (n : Int) : PlainText (toString n) := by
  have plain := (ofInt n).plainText
  rw [chars_ofInt, String.ofList_toList] at plain
  exact plain

theorem ofText_toString (n : Int) : FieldType.ofText (toString n).toList = .integer := by
  rw [← chars_ofInt, fieldType_eq]
  rfl

/-- A numeric column with the decimal texts of whole numbers. -/
def integerColumn (column : NumericColumn) : String × (Int → String) :=
  (column.name, fun n => toString n)

variable {column : NumericColumn} {values : List Int}

theorem plainTable_integers (column : NumericColumn) (values : List Int) :
    PlainTable [integerColumn column] values where
  nonempty := List.cons_ne_nil _ _
  names := by
    rw [List.forall_mem_singleton]
    cases column
    all_goals exact ⟨by simp [integerColumn, NumericColumn.name],
      by simp [PlainChar, integerColumn, NumericColumn.name],
      by simp [isIndent, integerColumn, NumericColumn.name]⟩
  texts := by
    rw [List.forall_mem_singleton]
    exact fun n _ => plainText_toString n
  distinct := by simp
  ascii := by
    intro c member
    cases column
    all_goals
      simp [integerColumn, NumericColumn.name, lineOf] at member
      rw [← member]
      decide

theorem typeOf_integerColumn (nonempty : values ≠ []) :
    typeOf values (integerColumn column) = .integer .signed64 := by
  have looks : ((values.map (integerColumn column).2).take inferenceRows).map
      (fun text => FieldType.ofText text.toList) =
        List.replicate (min inferenceRows values.length) (ofInt 0).fieldType := by
    rw [← List.map_take, List.map_map, ← List.length_take]
    apply List.map_eq_replicate_iff.mpr
    exact fun n _ => ofText_toString n
  have positive : 0 < min inferenceRows values.length :=
    lt_min (by decide) (List.length_pos_of_ne_nil nonempty)
  rw [typeOf, guessedType, looks, columnTypeOf_replicate positive]
  rfl

theorem cellOf?_integerColumn {n : Int} (member : n ∈ values) (fits : FitsInt64 n) :
    cellOf? values (integerColumn column) n = some (.integer n) := by
  rw [cellOf?, typeOf_integerColumn (List.ne_nil_of_mem member), integerColumn,
    readCell?_fieldOf (plainText_toString n)]
  simp only [readInteger64?, readInteger?_toString, if_pos fits]

variable (fit : ∀ n ∈ values, FitsInt64 n)

include fit

theorem readable_integers : Readable [integerColumn column] values := by
  intro n member
  rw [List.forall_mem_singleton, cellOf?_integerColumn member (fit n member)]
  rfl

/-- Every number of the file stands in its row of the frame. -/
theorem tableFrame_integers (nonempty : values ≠ []) :
    tableFrame [integerColumn column] values =
      ⟨[⟨column.name, .integer .signed64, values.map .integer⟩]⟩ := by
  have cells : (values.map fun n => (cellOf? values (integerColumn column) n).getD .null) =
      values.map .integer := by
    apply List.map_congr_left
    intro n member
    rw [cellOf?_integerColumn member (fit n member), Option.getD_some]
  rw [tableFrame, List.map_singleton, typeOf_integerColumn nonempty, cells]
  rfl

end Dataset

/-- The bound that is written for a column is read as it is meant. -/
theorem parseMinimum_toString {limit : Int} (fits : FitsInt64 limit) (column : NumericColumn) :
    parseMinimum (column.name ++ "=" ++ toString limit) = .ok (column, limit) := by
  have chars : (column.name ++ "=" ++ toString limit).toList =
      column.name.toList ++ '=' :: (toString limit).toList := by
    simp [String.toList_append]
  have noSign : ∀ c ∈ column.name.toList, decide (c ≠ '=') = true := by
    cases column <;> exact List.all_eq_true.mp (by decide)
  have name : trim column.name.toList = column.name.toList := by
    cases column <;> decide
  have selected : Family.select NumericColumn column.name = .ok column :=
    Family.select_columnName column
  have spelled := spells_toString limit
  have read : readBounded (-0x8000000000000000) 0x7FFFFFFFFFFFFFFF (toString limit).toList =
      .ok limit := by
    obtain ⟨low, high⟩ := fits
    exact (readBounded_eq_ok_iff (by decide) (by decide)).mpr ⟨spelled, low, by omega⟩
  have equals : decide ('=' ≠ '=') = false := by decide
  simp only [parseMinimum, chars, List.dropWhile_append_of_pos noSign,
    List.takeWhile_append_of_pos noSign, List.dropWhile_cons, List.takeWhile_cons, equals,
    Bool.false_eq_true, if_false, List.append_nil, name, String.ofList_toList, selected,
    spelled.trim_eq_self, read]

/-- Against a limit, a column of integers is judged number by number. -/
theorem Check.judgeLimit_integers {frame : Frame} {column : NumericColumn} {type : ColumnType}
    {values : List Int} {limit : Int} (fits : FitsInt64 limit)
    (found : frame.column? column.name = some ⟨column.name, type, values.map .integer⟩) :
    ∃ rows, judgeLimit frame limit column =
        .ofOutcomes [.ofRows .threshold column.name ("Records have at least " ++ toString limit)
          rows] ∧
      rows.Pairwise (· < ·) ∧ ∀ row, row ∈ rows ↔ ∃ n, values[row]? = some n ∧ n < limit := by
  have whole : ∀ cell ∈ values.map Cell.integer, cell = .null ∨ ∃ n, cell.Denotes n := by
    intro cell member
    obtain ⟨n, -, rfl⟩ := List.mem_map.mp member
    exact .inr ⟨n, .integer n⟩
  refine ⟨_, by rw [judgeLimit, limitFailures_of_denotes fits found whole, Verdict.ofRows],
    failingRows_pairwise_lt _ _, fun row => ?_⟩
  rw [mem_failingRows_meetsLimit?_iff fits whole]
  simp only [List.getElem?_map, Option.map_eq_some_iff]
  constructor
  · rintro ⟨_, ⟨n, entry, rfl⟩, null | ⟨m, denotes, below⟩⟩
    · cases null
    · cases denotes
      exact ⟨n, entry, below⟩
  · rintro ⟨n, entry, below⟩
    exact ⟨.integer n, ⟨n, entry, rfl⟩, .inr ⟨n, .integer n, below⟩⟩

namespace Plan

/-- Only the bound of a frame's one column is checked when that is a numeric one. -/
theorem infer_numericFrame (column : NumericColumn) (limit : Int) (type : ColumnType)
    (cells : List Cell) :
    infer ⟨[⟨column.name, type, cells⟩]⟩ ⟨none, [(column, limit)]⟩ =
      ⟨[.limitNum column limit]⟩ := by
  cases column
  all_goals rfl

end Plan

namespace Gate

/-- A file of whole numbers of sixty-four bits that is not too large passes a minimum exactly when
no number lies below it, and the one outcome lists the rows of the numbers below it. -/
theorem run_minimum {values : List Int} (nonempty : values ≠ [])
    (fit : ∀ n ∈ values, FitsInt64 n) {limit : Int} (fits : FitsInt64 limit)
    (column : NumericColumn) {ended : Bool} {files : Files} {path : String} (now : Instant)
    (found : files.find path =
      .ok (.file (Utf8.encode (tableText [integerColumn column] values ended))))
    (small : (Utf8.encode (tableText [integerColumn column] values ended)).length ≤
      Dataset.defaultLimit) :
    parseMinimum (column.name ++ "=" ++ toString limit) = .ok (column, limit) ∧
      ∃ result outcome,
        (run ⟨path, none, ⟨none, [(column, limit)]⟩, none⟩ files now).result = .ok result ∧
          result.outcomes = [outcome] ∧ outcome.kind = .threshold ∧
          outcome.column = column.name ∧ outcome.failedRows.Pairwise (· < ·) ∧
          (∀ row, row ∈ outcome.failedRows ↔ ∃ n, values[row]? = some n ∧ n < limit) ∧
          (result.passed = true ↔ ∀ n ∈ values, limit ≤ n) := by
  refine ⟨parseMinimum_toString fits column, ?_⟩
  have named : ∀ named ∈ [integerColumn column], isBlankName named.1 = false := by
    rw [List.forall_mem_singleton]
    cases column <;> decide
  have loaded := (load_tableText (plainTable_integers column values) nonempty named found
    small).mpr ⟨readable_integers fit, rfl⟩
  rw [tableFrame_integers fit nonempty] at loaded
  let target : Column := ⟨column.name, .integer .signed64, values.map .integer⟩
  have standing : (Frame.mk [target]).column? column.name = some target := by
    simp [Frame.column?, target]
  obtain ⟨rows, verdict, ordered, member⟩ := Check.judgeLimit_integers fits standing
  let outcome : Outcome :=
    .ofRows .threshold column.name ("Records have at least " ++ toString limit) rows
  have judged : (Check.limitNum column limit).judge ⟨[target]⟩ now = .ofOutcomes [outcome] :=
    verdict
  have ran := Plan.run_single (congrArg Verdict.result judged)
  refine ⟨_, outcome, (run_result_eq_ok_iff rfl).mpr ⟨_, ⟨[.limitNum column limit]⟩, _, loaded, ?_,
    ran, rfl⟩, ?_, rfl, rfl, ordered, member, ?_⟩
  · rw [choosePlan, Plan.infer_numericFrame]
  · simp [Plan.run_one, Trace.outcomes, target, judged, Verdict.ofOutcomes]
  · have none : rows = [] ↔ ∀ n ∈ values, limit ≤ n := by
      simp only [List.eq_nil_iff_forall_not_mem, member, not_exists, not_and, not_lt,
        List.mem_iff_getElem?]
      constructor
      · rintro within n ⟨row, entry⟩
        exact within row n entry
      · exact fun within row n entry => within n ⟨row, entry⟩
    simp [GateResult.passed, PlanResult.passed, outcome, Outcome.ofRows, none]

/-- Whole numbers at the ends of sixty-four bits, and two beyond the precision of doubles. -/
def extremes : List Int :=
  [-0x8000000000000000, 0x7FFFFFFFFFFFFFFF, 2 ^ 53, 2 ^ 53 + 1]

def extremesFiles : Files :=
  ⟨[(["d.csv"], .file (Utf8.encode (tableText [integerColumn .stars] extremes true)))]⟩

theorem run_minimum_extremes : ∃ result outcome,
    parseMinimum "stars=9007199254740993" = .ok (.stars, 2 ^ 53 + 1) ∧
      (run ⟨"d.csv", none, ⟨none, [(.stars, 2 ^ 53 + 1)]⟩, none⟩ extremesFiles ⟨0, 0⟩).result =
        .ok result ∧
      result.outcomes = [outcome] ∧ (∀ row, row ∈ outcome.failedRows ↔ row = 0 ∨ row = 2) ∧
      result.passed = false := by
  have nonempty : extremes ≠ [] := List.cons_ne_nil _ _
  have fit : ∀ n ∈ extremes, FitsInt64 n := by decide
  have fits : FitsInt64 (2 ^ 53 + 1) := by decide
  have found : extremesFiles.find "d.csv" =
      .ok (.file (Utf8.encode (tableText [integerColumn .stars] extremes true))) := rfl
  have small : (Utf8.encode (tableText [integerColumn .stars] extremes true)).length ≤
      Dataset.defaultLimit := by decide +kernel
  obtain ⟨read, result, outcome, ran, outcomes, -, -, -, failed, passed⟩ :=
    run_minimum nonempty fit fits .stars ⟨0, 0⟩ found small
  refine ⟨result, outcome, read, ran, outcomes, ?_, ?_⟩
  · intro row
    rw [failed]
    rcases row with _ | _ | _ | _ | row <;> simp [extremes]
  · rw [← Bool.not_eq_true, passed]
    decide

end Gate
end DatasetGate
