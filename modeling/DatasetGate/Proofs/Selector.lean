import DatasetGate.Selector
import Mathlib

/-!
# Families of columns

Every column of a family is the one that its name selects.
-/

set_option autoImplicit false

namespace DatasetGate

/-- A family that lists every column, no two of them under one name. -/
class LawfulFamily (α : Type) [Family α] : Prop where
  mem_all : ∀ column : α, column ∈ (Family.all : List α)
  columnName_injective : Function.Injective (Family.columnName : α → String)

theorem Family.select_columnName {α : Type} [Family α] [LawfulFamily α] (column : α) :
    Family.select α (Family.columnName column) = .ok column := by
  have listed := LawfulFamily.mem_all column
  cases found : Family.find? α (Family.columnName column) with
  | none =>
      have absent := List.find?_eq_none.mp found column listed
      simp at absent
  | some other =>
      have named : Family.columnName other = Family.columnName column := by
        simpa using List.find?_some found
      simp only [Family.select, found, LawfulFamily.columnName_injective named]

instance : LawfulFamily UrlColumn where
  mem_all column := by cases column <;> decide
  columnName_injective first second same := by
    revert same
    cases first <;> cases second <;> decide

instance : LawfulFamily DateColumn where
  mem_all column := by cases column <;> decide
  columnName_injective first second same := by
    revert same
    cases first <;> cases second <;> decide

instance : LawfulFamily NumericColumn where
  mem_all column := by cases column <;> decide
  columnName_injective first second same := by
    revert same
    cases first <;> cases second <;> decide

instance : LawfulFamily RepoColumn where
  mem_all column := by cases column <;> decide
  columnName_injective first second same := by
    revert same
    cases first <;> cases second <;> decide

end DatasetGate
