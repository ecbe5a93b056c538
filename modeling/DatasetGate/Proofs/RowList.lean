import DatasetGate.Proofs.Summary

/-!
# Lists of failing rows

The list of failing rows in a summary can be read back: the rows that it names, and the count of those
that it leaves out. So two lists look the same exactly where their lengths and their first eight rows
do not differ.
-/

set_option autoImplicit false

namespace DatasetGate.Summary

open DatasetGate.Text

/-- The rows that a text lists: the numbers between the commas in front of its bracket. -/
def listedRows (text : String) : List Nat :=
  (((text.toList.takeWhile (· ≠ '(')).filter fun c => !isBlank c).splitOn ',').filterMap readNatural?

/-- The count of the rows that a text leaves out: the digits behind its plus sign. -/
def omittedCount? (text : String) : Option Nat :=
  match text.toList.dropWhile (· ≠ '+') with
  | [] => none
  | _ :: rest => readNatural? (rest.takeWhile isDigit)

theorem readNatural?_toString (n : Nat) : readNatural? (toString n).toList = some n := by
  rw [toList_toString, readNatural?_eq_some (fun _ => isDigit_of_mem_toDigits) Nat.toDigits_ne_nil,
    Nat.ofDigitChars_ten_toDigits]

theorem filter_intercalate {α : Type} (keep : α → Bool) (separator : List α)
    (parts : List (List α)) :
    (separator.intercalate parts).filter keep =
      (separator.filter keep).intercalate (parts.map (List.filter keep)) := by
  induction parts with
  | nil => rfl
  | cons part rest ih =>
      cases rest with
      | nil => simp [List.intercalate]
      | cons next rest =>
          have more : (next :: rest).map (List.filter keep) ≠ [] := by simp
          rw [List.intercalate_cons_of_ne_nil (List.cons_ne_nil next rest), List.map_cons,
            List.intercalate_cons_of_ne_nil more, List.filter_append, List.filter_append, ih]

/-- The numbers of rows with commas and blanks between them. -/
def numbersText (rows : List Nat) : List Char :=
  [',', ' '].intercalate (rows.map fun row => (toString row).toList)

/-- A mark that is no separator and no digit does not stand among the numbers. -/
theorem ne_of_mem_numbersText {mark : Char} (apart : mark ∉ [',', ' '])
    (other : isDigit mark = false) (rows : List Nat) :
    ∀ c ∈ numbersText rows, decide (c ≠ mark) = true := by
  have absent : mark ∉ numbersText rows := by
    refine Table.not_mem_intercalate apart fun part member => ?_
    obtain ⟨row, -, rfl⟩ := List.mem_map.mp member
    exact not_mem_toString other
  intro c member
  rw [decide_eq_true_eq]
  rintro rfl
  exact absent member

theorem splitOn_numbersText {rows : List Nat} (nonempty : rows ≠ []) :
    ((numbersText rows).filter fun c => !isBlank c).splitOn ',' =
      rows.map fun row => (toString row).toList := by
  have kept (row : Nat) : (toString row).toList.filter (fun c => !isBlank c) = (toString row).toList := by
    rw [List.filter_eq_self]
    intro c member
    rw [isBlank_of_isDigit (digits_toString member)]
    rfl
  have separator : [',', ' '].filter (fun c => !isBlank c) = [','] := by decide
  rw [numbersText, filter_intercalate, separator, List.map_map]
  simp only [Function.comp_def, kept]
  refine List.splitOn_intercalate ',' ?_ (by simpa using nonempty)
  intro part member
  obtain ⟨row, -, rfl⟩ := List.mem_map.mp member
  exact not_mem_toString (by decide)

/-- What follows the listed rows: the count of the others in brackets, if there are any. -/
def omissionText (rows : List Nat) : List Char :=
  if 8 < rows.length then " (+".toList ++ (toString (rows.length - 8)).toList ++ " more)".toList
  else []

theorem toList_formatRows (rows : List Nat) :
    (formatRows rows).toList = numbersText (rows.take 8) ++ omissionText rows := by
  have listed : (", ".intercalate ((rows.take 8).map toString)).toList = numbersText (rows.take 8) := by
    rw [String.toList_intercalate, List.map_map]
    rfl
  rw [formatRows, maxListedRows, omissionText]
  split
  · rw [String.toList_append, String.toList_append, String.toList_append, listed, List.append_assoc,
      List.append_assoc]
    rfl
  · rw [listed, List.append_nil]

theorem listedRows_formatRows (rows : List Nat) : listedRows (formatRows rows) = rows.take 8 := by
  have front := @ne_of_mem_numbersText '(' (by decide) (by decide) (rows.take 8)
  have ending : ((omissionText rows).takeWhile (· ≠ '(')).filter (fun c => !isBlank c) = [] := by
    unfold omissionText
    split
    · rfl
    · rfl
  rw [listedRows, toList_formatRows, List.takeWhile_append_of_pos front, List.filter_append, ending,
    List.append_nil]
  cases shown : rows.take 8 with
  | nil => rfl
  | cons row rest =>
      rw [splitOn_numbersText (List.cons_ne_nil row rest), List.filterMap_map]
      simp only [Function.comp_def, readNatural?_toString, List.filterMap_some]

theorem omittedCount?_formatRows (rows : List Nat) :
    omittedCount? (formatRows rows) = if 8 < rows.length then some (rows.length - 8) else none := by
  have front := @ne_of_mem_numbersText '+' (by decide) (by decide) (rows.take 8)
  rw [omittedCount?, toList_formatRows, List.dropWhile_append_of_pos front, omissionText]
  by_cases long : 8 < rows.length
  · rw [if_pos long, if_pos long]
    have digits : (((toString (rows.length - 8)).toList ++ " more)".toList).takeWhile isDigit) =
        (toString (rows.length - 8)).toList := by
      rw [List.takeWhile_append_of_pos fun _ => digits_toString]
      exact List.append_nil _
    change readNatural? ((((toString (rows.length - 8)).toList ++ " more)".toList).takeWhile
      isDigit)) = _
    rw [digits, readNatural?_toString]
  · rw [if_neg long, if_neg long]
    rfl

theorem length_eq_of_formatRows {rows other : List Nat} (same : formatRows rows = formatRows other) :
    rows.length = other.length := by
  have listed : (rows.take 8).length = (other.take 8).length := by
    rw [← listedRows_formatRows, same, listedRows_formatRows]
  have omitted := omittedCount?_formatRows rows
  rw [same, omittedCount?_formatRows other] at omitted
  rw [List.length_take, List.length_take] at listed
  split at omitted <;> split at omitted
  · have counts := Option.some.inj omitted
    omega
  · cases omitted
  · cases omitted
  · omega

/-- A list of failing rows loses nothing but which rows are left out: its text tells the length and
the first eight rows, the count behind the plus sign is that of the others, and the dash stands for
no rows only. -/
theorem formatRows_tells :
    (∀ rows other : List Nat, formatRows rows = formatRows other ↔
      rows.length = other.length ∧
        rows.take (min 8 rows.length) = other.take (min 8 other.length)) ∧
    (∀ (rows : List Nat) (count : Nat), omittedCount? (formatRows rows) = some count ↔
      8 < rows.length ∧ count + 8 = rows.length) ∧
    ∀ outcome : Outcome, rowsCell outcome = "-" ↔ outcome.failedRows = [] := by
  refine ⟨?_, ?_, ?_⟩
  · intro rows other
    rw [← List.take_eq_take_min, ← List.take_eq_take_min]
    constructor
    · intro same
      refine ⟨length_eq_of_formatRows same, ?_⟩
      rw [← listedRows_formatRows, same, listedRows_formatRows]
    · rintro ⟨lengths, listed⟩
      rw [← String.toList_inj, toList_formatRows, toList_formatRows, omissionText, omissionText,
        lengths, listed]
  · intro rows count
    rw [omittedCount?_formatRows]
    split
    · rw [Option.some.injEq]
      omega
    · simp only [reduceCtorEq, false_iff]
      omega
  · intro outcome
    constructor
    · intro dash
      by_contra failing
      rw [rowsCell, if_neg (by simpa using failing)] at dash
      have listed : outcome.failedRows.take 8 = listedRows "-" := by
        rw [← dash, listedRows_formatRows]
      have none : listedRows "-" = [] := by decide
      rw [none, List.take_eq_nil_iff] at listed
      exact listed.elim (by decide) failing
    · intro none
      rw [rowsCell, none]
      rfl

/-- Eight rows are all listed, and of nine one is left out. -/
example : formatRows (List.range 8) = "0, 1, 2, 3, 4, 5, 6, 7" ∧
    formatRows (List.range 9) = "0, 1, 2, 3, 4, 5, 6, 7 (+1 more)" := by
  decide

end DatasetGate.Summary
