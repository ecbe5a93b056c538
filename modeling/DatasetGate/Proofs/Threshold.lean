import DatasetGate.Check.Basic
import DatasetGate.Proofs.Number.Notation
import DatasetGate.Proofs.Verdicts

/-!
# Thresholds on whole numbers

A limit of sixty-four bits is compared exactly with every whole number, in an integer cell or in
text. Text beyond the exact reader is compared as a double, and rounding cannot move it past the
limit.
-/

set_option autoImplicit false

namespace DatasetGate

open DatasetGate.Text DatasetGate.Number

/-- A cell holds a whole number: it is an integer, or text that spells one with blanks around it. -/
inductive Cell.Denotes : Cell → Int → Prop where
  | integer (n : Int) : Denotes (.integer n) n
  | text {value : String} {before core after : List Char} {n : Int}
      (shape : value.toList = before ++ core ++ after) (spelled : Spells core n)
      (blankBefore : ∀ c ∈ before, isBlank c = true) (blankAfter : ∀ c ∈ after, isBlank c = true) :
      Denotes (.text value) n

namespace Cell

/-- The exact reader reads exactly the numbers of a hundred and twenty-eight bits. -/
theorem integer?_text_eq_some_iff {value : String} {n : Int} :
    (Cell.text value).integer? = some n ↔
      Spells (trim value.toList) n ∧ minInteger ≤ n ∧ n ≤ maxInteger := by
  rw [← readBounded_eq_ok_iff (by decide) (by decide), integer?]
  cases readBounded minInteger maxInteger (trim value.toList) with
  | error fault => simp [Except.toOption]
  | ok read => simp [Except.toOption]

theorem integer?_text {value : String} {n : Int} (spelled : Spells (trim value.toList) n) :
    (Cell.text value).integer? = if minInteger ≤ n ∧ n ≤ maxInteger then some n else none := by
  split
  · rename_i fits
    exact integer?_text_eq_some_iff.mpr ⟨spelled, fits⟩
  · rename_i exceeds
    rw [Option.eq_none_iff_forall_ne_some]
    intro m read
    obtain ⟨spelled', fits⟩ := integer?_text_eq_some_iff.mp read
    obtain rfl : n = m := spelled.value.symm.trans spelled'.value
    exact exceeds fits

end Cell

namespace Check

/-- Rounding cannot move a number past a limit of sixty-four bits where the number has more than a
hundred and twenty-eight. -/
theorem atMost_ofInt_of_beyond {limit n : Int} (fits : FitsInt64 limit)
    (beyond : ¬ (Cell.minInteger ≤ n ∧ n ≤ Cell.maxInteger)) :
    (Double.ofInt limit).atMost (.ofInt n) = decide (limit ≤ n) := by
  have narrow : Cell.minInteger ≤ limit ∧ limit ≤ Cell.maxInteger := by
    unfold FitsInt64 at fits
    unfold Cell.minInteger Cell.maxInteger
    omega
  by_cases ordered : limit ≤ n
  · rw [Double.atMost_ofInt ordered, decide_eq_true ordered]
  · rw [decide_eq_false ordered, ← Bool.not_eq_true]
    intro above
    -- `n` lies below the least number of the exact reader, and the limit far above that number.
    have least : (Double.ofInt (-0x8000000000000000)).atMost (.ofInt Cell.minInteger) = true :=
      Double.atMost_trans (Double.atMost_ofInt fits.1)
        (Double.atMost_trans above (Double.atMost_ofInt (by omega)))
    revert least
    decide +kernel

/-- A cell that holds a whole number is compared exactly with the limit. -/
theorem meetsLimit?_of_denotes {limit : Int} (fits : FitsInt64 limit) {cell : Cell} {n : Int}
    (denotes : cell.Denotes n) : meetsLimit? limit cell = some (decide (limit ≤ n)) := by
  cases denotes with
  | integer => rfl
  | @text value _ core _ _ shape spelled blankBefore blankAfter =>
      have trimmed : trim value.toList = core := by
        rw [shape, spelled.trim_padded blankBefore blankAfter]
      rw [← trimmed] at spelled
      rw [meetsLimit?, Cell.integer?_text spelled]
      by_cases readable : Cell.minInteger ≤ n ∧ n ≤ Cell.maxInteger
      · rw [if_pos readable]
      · have nonzero : n ≠ 0 := by
          rintro rfl
          exact readable (by decide)
        rw [if_neg readable]
        simp only [Cell.double?, parseDouble?, readDouble?_of_spells spelled nonzero,
          Option.map_some, atMost_ofInt_of_beyond fits readable]

variable {frame : Frame} {limit : Int} {column : NumericColumn} {target : Column}

/-- A column of whole numbers is judged without an error. -/
theorem limitFailures_of_denotes (fits : FitsInt64 limit)
    (found : frame.column? column.name = some target)
    (whole : ∀ cell ∈ target.cells, cell = .null ∨ ∃ n, cell.Denotes n) :
    limitFailures frame limit column =
      .ok (failingRows (fun _ passed => passed) (target.cells.map (meetsLimit? limit))) := by
  have readable : ∀ cell ∈ target.cells,
      cell.isNull = true ∨ (meetsLimit? limit cell).isSome = true := by
    intro cell member
    rcases whole cell member with rfl | ⟨n, denotes⟩
    · exact .inl rfl
    · exact .inr (by rw [meetsLimit?_of_denotes fits denotes, Option.isSome_some])
  rw [limitFailures, Frame.column_eq_ok_iff.mpr found]
  simp only [readCells_meetsLimit?_eq_ok_iff.mpr ⟨readable, rfl⟩]

/-- A row fails where its cell is null or its number lies below the limit. -/
theorem mem_failingRows_meetsLimit?_iff (fits : FitsInt64 limit) {cells : List Cell}
    (whole : ∀ cell ∈ cells, cell = .null ∨ ∃ n, cell.Denotes n) {row : Nat} :
    row ∈ failingRows (fun _ passed => passed) (cells.map (meetsLimit? limit)) ↔
      ∃ cell, cells[row]? = some cell ∧ (cell = .null ∨ ∃ n, cell.Denotes n ∧ n < limit) := by
  have fails (cell : Cell) (entry : cells[row]? = some cell) :
      row ∈ failingRows (fun _ passed => passed) (cells.map (meetsLimit? limit)) ↔
        meetsLimit? limit cell ≠ some true := by
    obtain ⟨bound, -⟩ := List.getElem?_eq_some_iff.mp entry
    rw [mem_failingRows_iff, acceptsRow, List.getElem?_map, entry, List.length_map]
    cases met : meetsLimit? limit cell <;> simp [bound, met]
  constructor
  · intro member
    have bound : row < cells.length := by
      simpa using (mem_failingRows_iff.mp member).1
    have entry := List.getElem?_eq_getElem bound
    refine ⟨_, entry, ?_⟩
    rcases whole _ (List.getElem_mem bound) with null | ⟨n, denotes⟩
    · exact .inl null
    · rw [fails _ entry, meetsLimit?_of_denotes fits denotes] at member
      exact .inr ⟨n, denotes, by simpa using member⟩
  · rintro ⟨cell, entry, rfl | ⟨n, denotes, below⟩⟩
    · refine (fails _ entry).mpr ?_
      intro passed
      cases passed
    · rw [fails _ entry, meetsLimit?_of_denotes fits denotes]
      simpa using below

/-- The failing rows are the null rows and the rows of numbers below the limit, whatever the
numbers' size and spelling. -/
theorem limitFailures_exact (fits : FitsInt64 limit)
    (found : frame.column? column.name = some target)
    (whole : ∀ cell ∈ target.cells, cell = .null ∨ ∃ n, cell.Denotes n) :
    ∃ rows, limitFailures frame limit column = .ok rows ∧
      (judgeLimit frame limit column).result = .ok rows.isEmpty ∧ rows.Pairwise (· < ·) ∧
      ∀ row, row ∈ rows ↔ ∃ cell, target.cells[row]? = some cell ∧
        (cell = .null ∨ ∃ n, cell.Denotes n ∧ n < limit) := by
  have failing := limitFailures_of_denotes fits found whole
  exact ⟨_, failing, result_ofRows_eq_ok_iff.mpr ⟨_, failing, rfl⟩, failingRows_pairwise_lt _ _,
    fun row => mem_failingRows_meetsLimit?_iff fits whole⟩

/-- Spellings of whole numbers: one by one below a limit beyond the precision of doubles, at it, and
far below the numbers that are read exactly. -/
def spellings : Column where
  name := "stars"
  type := .text
  cells := [.null, .text "9007199254740992", .text " +09007199254740993\u3000",
    .text (String.ofList ('-' :: List.replicate 45 '9'))]

theorem limitFailures_exact_spellings :
    FitsInt64 (2 ^ 53 + 1) ∧ (∀ cell ∈ spellings.cells, cell = .null ∨ ∃ n, cell.Denotes n) ∧
      limitFailures ⟨[spellings]⟩ (2 ^ 53 + 1) .stars = .ok [0, 1, 3] ∧
      (judgeLimit ⟨[spellings]⟩ (2 ^ 53 + 1) .stars).result = .ok false := by
  have fits : FitsInt64 (2 ^ 53 + 1) := by decide
  have close : Cell.Denotes (.text "9007199254740992") (2 ^ 53) := by
    have shape : "9007199254740992".toList = [] ++ "9007199254740992".toList ++ [] := by decide
    have digits : ∀ c ∈ (splitSign "9007199254740992".toList).2, isDigit c = true :=
      List.all_eq_true.mp (by decide)
    exact .text shape ⟨by decide, digits, by decide⟩ nofun nofun
  have level : Cell.Denotes (.text " +09007199254740993\u3000") (2 ^ 53 + 1) := by
    have shape : " +09007199254740993\u3000".toList =
        [' '] ++ "+09007199254740993".toList ++ ['\u3000'] := by decide
    have digits : ∀ c ∈ (splitSign "+09007199254740993".toList).2, isDigit c = true :=
      List.all_eq_true.mp (by decide)
    exact .text shape ⟨by decide, digits, by decide⟩
      (List.forall_mem_singleton.mpr (by decide)) (List.forall_mem_singleton.mpr (by decide))
  have low : ∃ n, Cell.Denotes (.text (String.ofList ('-' :: List.replicate 45 '9'))) n := by
    have shape : (String.ofList ('-' :: List.replicate 45 '9')).toList =
        [] ++ '-' :: List.replicate 45 '9' ++ [] := by
      rw [String.toList_ofList, List.nil_append, List.append_nil]
    refine ⟨_, .text shape ⟨nofun, fun c member => ?_, rfl⟩ nofun nofun⟩
    rw [List.eq_of_mem_replicate member]
    decide
  have whole : ∀ cell ∈ spellings.cells, cell = .null ∨ ∃ n, cell.Denotes n := by
    intro cell member
    simp only [spellings, List.mem_cons, List.not_mem_nil, or_false] at member
    rcases member with rfl | rfl | rfl | rfl
    · exact .inl rfl
    · exact .inr ⟨_, close⟩
    · exact .inr ⟨_, level⟩
    · exact .inr low
  have found : (Frame.mk [spellings]).column? NumericColumn.stars.name = some spellings := rfl
  obtain ⟨rows, failing, judged, -, -⟩ := limitFailures_exact fits found whole
  have computed : limitFailures ⟨[spellings]⟩ (2 ^ 53 + 1) .stars = .ok [0, 1, 3] := by
    decide +kernel
  rw [computed, Except.ok.injEq] at failing
  subst failing
  exact ⟨fits, whole, computed, judged⟩

end Check
end DatasetGate
