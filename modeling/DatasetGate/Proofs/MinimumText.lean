import DatasetGate.Proofs.MinimumGate
import DatasetGate.Proofs.Plan.Refusals

/-!
# The text of a least number

What the option for a least number takes: a numeric column's name, an equals sign, and a whole number of
sixty-four bits, with blanks around name and number. The first equals sign divides the text, and all
other texts are refused.
-/

set_option autoImplicit false

namespace DatasetGate

open DatasetGate.Text

theorem Family.select_eq_ok_iff {α : Type} [Family α] [LawfulFamily α] {name : String}
    {column : α} : select α name = .ok column ↔ name = columnName column := by
  constructor
  · intro selected
    rw [select] at selected
    cases found : find? α name with
    | none => simp [found] at selected
    | some other =>
        simp only [found, Except.ok.injEq] at selected
        rw [← selected, columnName_of_find? found]
  · rintro rfl
    exact select_columnName column

/-- A text asks for a least number of a column. The number is written in decimal digits behind an
optional sign, with as many zeros in front as there may be. -/
inductive MinimumText : String → NumericColumn → Int → Prop where
  | bound {value : String} {key number digits : List Char} {column : NumericColumn} {n : Int}
      (divided : value.toList = key ++ '=' :: number) (first : '=' ∉ key)
      (named : Padded column.name.toList key) (padded : Padded digits number)
      (spelled : Spells digits n) (fits : FitsInt64 n) : MinimumText value column n

section Division

variable {value : String} {column : NumericColumn} {n : Int}

/-- Without an equals sign there is nothing to read. -/
theorem parseMinimum_of_not_mem (undivided : '=' ∉ value.toList) :
    ∃ reason, parseMinimum value = .error reason := by
  have whole : value.toList.dropWhile (· ≠ '=') = [] := by
    rw [List.dropWhile_eq_nil_iff]
    rintro c member
    exact decide_eq_true fun equals => undivided (equals ▸ member)
  simp only [parseMinimum, whole]
  exact ⟨_, rfl⟩

theorem trim_name (column : NumericColumn) : trim column.name.toList = column.name.toList := by
  cases column <;> decide

/-- The first equals sign divides the text into the name and the number. -/
theorem parseMinimum_of_divided {key number : List Char}
    (divided : value.toList = key ++ '=' :: number) (first : '=' ∉ key) :
    parseMinimum value = .ok (column, n) ↔
      Padded column.name.toList key ∧
        (∃ digits, Padded digits number ∧ Spells digits n) ∧ FitsInt64 n := by
  have before : ∀ c ∈ key, decide (c ≠ '=') = true :=
    fun c member => decide_eq_true fun equals => first (equals ▸ member)
  have equals : decide ('=' ≠ '=') = false := by decide
  have fits : FitsInt64 n ↔ -0x8000000000000000 ≤ n ∧ n ≤ 0x7FFFFFFFFFFFFFFF := by
    rw [FitsInt64]
    omega
  rw [← trim_eq_iff_padded (trim_name column), fits,
    ← readBounded_trim_eq_ok_iff (by decide) (by decide)]
  have named : trim key = column.name.toList ↔
      Family.select NumericColumn (String.ofList (trim key)) = .ok column := by
    rw [Family.select_eq_ok_iff, ← String.toList_inj, String.toList_ofList]
    rfl
  rw [named]
  simp only [parseMinimum, divided, List.dropWhile_append_of_pos before,
    List.takeWhile_append_of_pos before, List.dropWhile_cons, List.takeWhile_cons, equals,
    Bool.false_eq_true, if_false, List.append_nil]
  cases Family.select NumericColumn (String.ofList (trim key)) with
  | error refusal => simp
  | ok other =>
      cases readBounded (-0x8000000000000000) 0x7FFFFFFFFFFFFFFF (trim number) with
      | error fault => simp
      | ok read => simp

theorem parseMinimum_eq_ok_iff :
    parseMinimum value = .ok (column, n) ↔ MinimumText value column n := by
  constructor
  · intro read
    by_cases equals : '=' ∈ value.toList
    · obtain ⟨key, number, divided, first⟩ := List.eq_append_cons_of_mem equals
      obtain ⟨named, ⟨digits, padded, spelled⟩, fits⟩ :=
        (parseMinimum_of_divided divided first).mp read
      exact .bound divided first named padded spelled fits
    · obtain ⟨reason, refused⟩ := parseMinimum_of_not_mem equals
      rw [refused] at read
      cases read
  · intro written
    cases written with
    | bound divided first named padded spelled fits =>
        exact (parseMinimum_of_divided divided first).mpr ⟨named, ⟨_, padded, spelled⟩, fits⟩

end Division

/-- The option for a least number takes the texts of least numbers and no others, among them every
column with every number of sixty-four bits in decimal. -/
theorem parseMinimum_accepts (value : String) :
    (∀ column n, parseMinimum value = .ok (column, n) ↔ MinimumText value column n) ∧
      ((∃ reason, parseMinimum value = .error reason) ↔
        ∀ column n, ¬ MinimumText value column n) ∧
      ∀ (column : NumericColumn) (n : Int), FitsInt64 n →
        parseMinimum (column.name ++ "=" ++ toString n) = .ok (column, n) := by
  refine ⟨fun column n => parseMinimum_eq_ok_iff, ?_,
    fun column n fits => parseMinimum_toString fits column⟩
  constructor
  · rintro ⟨reason, refused⟩ column n written
    rw [parseMinimum_eq_ok_iff.mpr written] at refused
    cases refused
  · intro unwritten
    cases read : parseMinimum value with
    | error reason => exact ⟨reason, rfl⟩
    | ok entry => exact absurd (parseMinimum_eq_ok_iff.mp read) (unwritten entry.1 entry.2)

/-- The least number of sixty-four bits, written out in different ways, and the first number that has
more bits. -/
theorem parseMinimum_accepts_least :
    FitsInt64 (-0x8000000000000000) ∧
      parseMinimum (NumericColumn.stars.name ++ "=" ++ toString (-0x8000000000000000 : Int)) =
        .ok (.stars, -0x8000000000000000) ∧
      MinimumText "\u3000stars = -009223372036854775808\t" .stars (-0x8000000000000000) ∧
      (∀ column n, ¬ MinimumText "stars=+9223372036854775808" column n) ∧
      ∀ column n, ¬ MinimumText "stars==1" column n := by
  have fits : FitsInt64 (-0x8000000000000000) := by decide
  obtain ⟨-, -, written⟩ := parseMinimum_accepts ""
  obtain ⟨padded, -⟩ := parseMinimum_accepts "\u3000stars = -009223372036854775808\t"
  obtain ⟨-, great, -⟩ := parseMinimum_accepts "stars=+9223372036854775808"
  obtain ⟨-, doubled, -⟩ := parseMinimum_accepts "stars==1"
  refine ⟨fits, written .stars _ fits, (padded _ _).mp ?_, great.mp ?_, doubled.mp ?_⟩
  · rfl
  · exact ⟨_, rfl⟩
  · exact ⟨_, rfl⟩

end DatasetGate
