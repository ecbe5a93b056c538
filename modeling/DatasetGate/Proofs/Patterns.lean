import DatasetGate.Check.Basic
import Mathlib

/-!
# Patterns of text

What the executable patterns of the checks accept, said without their way of scanning: dates at the
start of a text, repository paths, and the addresses of repositories.
-/

set_option autoImplicit false

namespace DatasetGate

open DatasetGate.Text

/-- A text starts with digits of any script in the form of a date. Anything may follow. -/
def BeginsWithDate (cs : List Char) : Prop :=
  ∃ year month day rest, cs = year ++ '-' :: (month ++ '-' :: (day ++ rest)) ∧
    year.length = 4 ∧ month.length = 2 ∧ day.length = 2 ∧
      ∀ c ∈ year ++ month ++ day, isDecimalDigit c = true

/-- An ASCII letter or digit, a point, an underscore or a hyphen. -/
def NameChar (c : Char) : Prop :=
  ('A' ≤ c ∧ c ≤ 'Z') ∨ ('a' ≤ c ∧ c ≤ 'z') ∨ ('0' ≤ c ∧ c ≤ '9') ∨ c = '.' ∨ c = '_' ∨ c = '-'

instance (c : Char) : Decidable (NameChar c) :=
  inferInstanceAs (Decidable (('A' ≤ c ∧ c ≤ 'Z') ∨ ('a' ≤ c ∧ c ≤ 'z') ∨ ('0' ≤ c ∧ c ≤ '9') ∨
    c = '.' ∨ c = '_' ∨ c = '-'))

/-- A text is two names with one slash between them, and nothing else. -/
def IsRepositoryPath (cs : List Char) : Prop :=
  ∃ owner name, cs = owner ++ '/' :: name ∧ owner ≠ [] ∧ name ≠ [] ∧
    ∀ c ∈ owner ++ name, NameChar c

/-- The columns with the owner and the name of the repository that an address column is about. -/
def UrlColumn.pair : UrlColumn → String × String
  | .csshUrl | .curl => ("cowner", "cname")
  | .sshUrl | .url => ("owner", "name")

/-- What stands before and after the path of a repository in an address column. -/
def UrlColumn.ends : UrlColumn → String × String
  | .sshUrl | .csshUrl => ("ssh://git@github.com:", ".git")
  | .url | .curl => ("https://github.com/", "")

/-- The address of a repository as an address column must show it. -/
def UrlColumn.addressOf (column : UrlColumn) (owner name : String) : String :=
  column.ends.1 ++ owner ++ "/" ++ name ++ column.ends.2

namespace Check

theorem startsWithDate_iff (cs : List Char) :
    startsWithDate cs = true ↔ BeginsWithDate cs := by
  constructor
  · intro accepted
    unfold startsWithDate at accepted
    split at accepted
    · rename_i y1 y2 y3 y4 h1 m1 m2 h2 d1 d2 rest
      simp only [Bool.and_eq_true, beq_iff_eq, List.all_eq_true] at accepted
      obtain ⟨⟨digits, rfl⟩, rfl⟩ := accepted
      exact ⟨[y1, y2, y3, y4], [m1, m2], [d1, d2], rest, rfl, rfl, rfl, rfl, digits⟩
    · simp at accepted
  · rintro ⟨year, month, day, rest, rfl, yearLength, monthLength, dayLength, digits⟩
    obtain ⟨y1, y2, y3, y4, rfl⟩ := List.length_eq_four.mp yearLength
    obtain ⟨m1, m2, rfl⟩ := List.length_eq_two.mp monthLength
    obtain ⟨d1, d2, rfl⟩ := List.length_eq_two.mp dayLength
    simpa [startsWithDate] using digits

theorem isNameChar_iff (c : Char) : isNameChar c = true ↔ NameChar c := by
  simp only [isNameChar, NameChar, Char.isAlphanum, Char.isAlpha, Char.isUpper, Char.isLower,
    Char.isDigit, Bool.or_eq_true, Bool.and_eq_true, decide_eq_true_eq, Char.le_def]
  tauto

theorem isNameChar_slash : isNameChar '/' = false := by decide

theorem isRepositoryPath_iff (cs : List Char) :
    isRepositoryPath cs = true ↔ IsRepositoryPath cs := by
  constructor
  · intro accepted
    unfold isRepositoryPath at accepted
    split at accepted
    · rename_i name after
      simp only [Bool.and_eq_true, Bool.not_eq_true', List.isEmpty_eq_false_iff,
        List.all_eq_true] at accepted
      obtain ⟨⟨ownerSome, nameSome⟩, nameChars⟩ := accepted
      refine ⟨cs.takeWhile isNameChar, name, ?_, ownerSome, nameSome, ?_⟩
      · rw [← after, List.takeWhile_append_dropWhile]
      · intro c member
        rw [← isNameChar_iff]
        rcases List.mem_append.mp member with inOwner | inName
        · exact List.mem_takeWhile_imp inOwner
        · exact nameChars c inName
    · simp at accepted
  · rintro ⟨owner, name, rfl, ownerSome, nameSome, chars⟩
    have ownerChars : ∀ c ∈ owner, isNameChar c = true := fun c member =>
      (isNameChar_iff c).mpr (chars c (List.mem_append_left name member))
    have nameChars : ∀ c ∈ name, isNameChar c = true := fun c member =>
      (isNameChar_iff c).mpr (chars c (List.mem_append_right owner member))
    have taken : (owner ++ '/' :: name).takeWhile isNameChar = owner := by
      simp [List.takeWhile_append_of_pos ownerChars, isNameChar_slash]
    have left : (owner ++ '/' :: name).dropWhile isNameChar = '/' :: name := by
      simp [List.dropWhile_append_of_pos ownerChars, isNameChar_slash]
    simpa [isRepositoryPath, taken, left, ownerSome, nameSome] using nameChars

end Check

namespace UrlColumn

theorem pair_eq (column : UrlColumn) : column.pair = (column.ownerColumn, column.nameColumn) := by
  cases column <;> rfl

theorem address_repositoryPath (column : UrlColumn) (owner name : String) :
    (AddressShape.ofColumn column).address (Frame.repositoryPath owner name) =
      column.addressOf owner name := by
  rw [← String.toList_inj]
  cases column <;>
    simp [AddressShape.address, AddressShape.ofColumn, AddressShape.ssh, AddressShape.https,
      Frame.repositoryPath, addressOf, ends]

end UrlColumn

namespace AddressShape

theorem contains_iff_isInfix (part text : List Char) :
    contains part text = true ↔ part <:+: text := by
  induction text with
  | nil => simp [contains]
  | cons c rest ih => simp [contains, ih, List.infix_cons_iff]

/-- Every address of a shape starts as the shape does and contains its marker. -/
theorem startsRight_address (shape : AddressShape) (path : String) :
    shape.startsRight (shape.address path) = true := by
  simp [startsRight, address, start, List.append_assoc]

theorem marksRight_address (shape : AddressShape) (path : String) :
    shape.marksRight (shape.address path) = true := by
  rw [marksRight, contains_iff_isInfix]
  refine ⟨(shape.scheme ++ ":").toList, (path ++ shape.extension).toList, ?_⟩
  simp [marker, address]

end AddressShape
end DatasetGate
