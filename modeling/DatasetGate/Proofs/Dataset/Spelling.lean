import DatasetGate.Proofs.Dataset.Plain
import DatasetGate.Proofs.Text.Signed

/-!
# The spelling of cells

A column type is guessed from the texts of its fields, and a cell of that type shows a text of its own,
which need not be the one it was read from. `Keeps` says of which texts it is. A text with a slash makes
its column one of text, and every text is kept there.
-/

set_option autoImplicit false

namespace DatasetGate.Dataset

open DatasetGate.Text DatasetGate.Number

section Slash

theorem slash_notMem_of_looksDigits {cs : List Char} (digits : looksDigits cs = true) :
    '/' ∉ cs := by
  intro member
  rw [looksDigits, Bool.and_eq_true, List.all_eq_true] at digits
  exact absurd (digits.2 '/' member) (by decide)

theorem slash_notMem_of_looksInteger {cs : List Char} (integer : looksInteger cs = true) :
    '/' ∉ cs := by
  unfold looksInteger at integer
  split at integer
  · simpa using slash_notMem_of_looksDigits integer
  · exact slash_notMem_of_looksDigits integer

theorem slash_notMem_of_looksExponent {cs : List Char} (exponent : looksExponent cs = true) :
    '/' ∉ cs := by
  cases cs with
  | nil => cases exponent
  | cons mark rest =>
      simp only [looksExponent, Bool.and_eq_true, Bool.or_eq_true, decide_eq_true_eq] at exponent
      obtain ⟨marked, digits⟩ := exponent
      have noMark : '/' ≠ mark := by
        rintro rfl
        rcases marked with same | same <;> cases same
      have noRest : '/' ∉ rest := by
        split at digits
        · simpa using slash_notMem_of_looksDigits digits
        · simpa using slash_notMem_of_looksDigits digits
        · exact slash_notMem_of_looksDigits digits
      simp [noMark, noRest]

theorem slash_notMem_of_looksDecimal {cs : List Char} (decimal : looksDecimal cs = true) :
    '/' ∉ cs := by
  have noDigit : ∀ digits : List Char, '/' ∉ digits.takeWhile isDecimalDigit := by
    intro digits member
    exact absurd (List.mem_takeWhile_imp member) (by decide)
  intro member
  rw [← @List.takeWhile_append_dropWhile _ isDecimalDigit cs, List.mem_append] at member
  have after := member.resolve_left (noDigit cs)
  simp only [looksDecimal] at decimal
  split at decimal
  · rename_i rest split
    rw [split] at after
    have inRest : '/' ∈ rest := by simpa using after
    rw [← @List.takeWhile_append_dropWhile _ isDecimalDigit rest, List.mem_append] at inRest
    have atEnd := inRest.resolve_left (noDigit rest)
    have notEmpty : (rest.dropWhile isDecimalDigit).isEmpty = false := by
      rw [List.isEmpty_eq_false_iff]
      exact List.ne_nil_of_mem atEnd
    rw [notEmpty] at decimal
    split at decimal
    · simp at decimal
    · rw [Bool.false_or] at decimal
      exact slash_notMem_of_looksExponent decimal atEnd
  · rw [Bool.and_eq_true] at decimal
    exact slash_notMem_of_looksExponent decimal.2 after

theorem slash_notMem_of_looksFloat {cs : List Char} (float : looksFloat cs = true) :
    '/' ∉ cs := by
  have noSlash : ∀ unsigned : List Char, (String.ofList unsigned = "inf" ||
      String.ofList unsigned = "NaN" || looksDecimal unsigned) = true → '/' ∉ unsigned := by
    intro unsigned shape
    simp only [Bool.or_eq_true, decide_eq_true_eq, ← String.toList_inj,
      String.toList_ofList] at shape
    rcases shape with (rfl | rfl) | decimal
    · decide
    · decide
    · exact slash_notMem_of_looksDecimal decimal
  unfold looksFloat at float
  split at float
  · simpa using noSlash _ float
  · simpa using noSlash _ float
  · exact noSlash _ float

theorem slash_notMem_of_looksBool {cs : List Char} (bool : looksBool cs = true) : '/' ∉ cs := by
  intro member
  have folded : '/' ∈ cs.map foldLetter := List.mem_map.mpr ⟨'/', member, by decide⟩
  simp only [looksBool, Bool.or_eq_true, decide_eq_true_eq, ← String.toList_inj,
    String.toList_ofList] at bool
  rcases bool with same | same
  all_goals rw [same] at folded
  all_goals exact absurd folded (by decide)

/-- A text with a slash is neither a truth value nor a number. -/
theorem ofText_slash {cs : List Char} (member : '/' ∈ cs) : FieldType.ofText cs = .text := by
  have noBool : ¬ looksBool cs = true := fun bool => slash_notMem_of_looksBool bool member
  have noFloat : ¬ looksFloat cs = true := fun float => slash_notMem_of_looksFloat float member
  have noInteger : ¬ looksInteger cs = true :=
    fun integer => slash_notMem_of_looksInteger integer member
  rw [FieldType.ofText, if_neg noBool, if_neg noFloat, if_neg noInteger]

end Slash

/-- The type that a column of the given texts is taken to have. -/
def guessedType (texts : List String) : ColumnType :=
  columnTypeOf ((texts.take inferenceRows).map fun text => FieldType.ofText text.toList)

theorem columnTypeOf_eq_text {seen : List FieldType} (member : .text ∈ seen) :
    columnTypeOf seen = .text := by
  have listed : seen.contains .text = true := List.contains_iff_mem.mpr member
  simp only [columnTypeOf, listed]
  cases seen.contains .bool <;> cases seen.contains .integer <;> cases seen.contains .float <;> rfl

/-- Text alone makes a column of text. -/
theorem guessedType_eq_text {texts : List String} (nonempty : texts ≠ [])
    (slashes : ∀ text ∈ texts, '/' ∈ text.toList) : guessedType texts = .text := by
  cases texts with
  | nil => exact absurd rfl nonempty
  | cons text texts =>
      apply columnTypeOf_eq_text
      rw [List.mem_map]
      exact ⟨text, List.mem_cons_self, ofText_slash (slashes text List.mem_cons_self)⟩

theorem columnTypeOf_cases (seen : List FieldType) :
    columnTypeOf seen = .bool ∨ columnTypeOf seen = .integer .signed64 ∨
      columnTypeOf seen = .float64 ∨ columnTypeOf seen = .text := by
  unfold columnTypeOf
  simp only
  split <;> simp

/-- A cell that is read from the text in a column of the type shows the text again. -/
def Keeps (type : ColumnType) (text : String) : Prop :=
  match type with
  | .bool => text = "true" ∨ text = "false"
  | .integer _ => ∃ value : Int, FitsInt64 value ∧ text = toString value
  | .float64 => ∃ value : Double, readDouble? text.toList = some value ∧ text = value.compact
  | .text => True
  | _ => False

/-- A text that a field holds without quotes: not empty, and no blank at its start. -/
structure PlainText (text : String) : Prop where
  nonempty : text.toList ≠ []
  plain : ∀ c ∈ text.toList, PlainChar c
  flush : ∀ c ∈ text.toList.head?, isIndent c = false

theorem PlainText.append {first second : String} (plain : PlainText first)
    (more : ∀ c ∈ second.toList, PlainChar c) : PlainText (first ++ second) := by
  obtain ⟨nonempty, chars, flush⟩ := plain
  refine ⟨?_, ?_, ?_⟩
  · rw [String.toList_append]
    exact List.append_ne_nil_of_left_ne_nil nonempty _
  · intro c member
    rw [String.toList_append, List.mem_append] at member
    exact member.elim (chars c) (more c)
  · rw [String.toList_append, List.head?_append_of_ne_nil _ nonempty]
    exact flush

theorem encode_ne_nil {cs : List Char} (nonempty : cs ≠ []) : Utf8.encode cs ≠ [] := by
  intro empty
  have decoded := Utf8.decode?_encode cs
  rw [empty] at decoded
  exact nonempty (Option.some.inj decoded).symm

/-- The field that holds a text. -/
def fieldOf (text : String) : Field :=
  ⟨Utf8.encode text.toList, false⟩

theorem inner_fieldOf (text : String) : (fieldOf text).inner = Utf8.encode text.toList := rfl

theorem readIndented_eq {read? : List Char → Option Cell} {text : String}
    (plain : PlainText text) : readIndented read? text.toList = read? text.toList := by
  obtain ⟨nonempty, -, flush⟩ := plain
  unfold readIndented
  cases shape : text.toList with
  | nil => exact absurd shape nonempty
  | cons c rest =>
      have noIndent : isIndent c = false := flush c (by rw [shape]; rfl)
      cases read : read? (c :: rest) with
      | some cell => simp
      | none => simp [noIndent]

theorem readCell?_fieldOf {text : String} (plain : PlainText text) (type : ColumnType) :
    readCell? type (fieldOf text) =
      match type with
      | .text => some (.text text)
      | .bool => readBool? text.toList
      | .integer _ => readInteger64? text.toList
      | .float64 => (readDouble? text.toList).map fun value => .float value
      | _ => none := by
  have kept : (fieldOf text).dropReturn = fieldOf text := by
    rw [Field.dropReturn, fieldOf, dropReturn_plain (plainField_encode plain.plain).1]
  have nonempty : (fieldOf text).bytes.isEmpty = false := by
    rw [List.isEmpty_eq_false_iff]
    exact encode_ne_nil plain.nonempty
  have decoded : Utf8.decode? (fieldOf text).inner = some text.toList := Utf8.decode?_encode _
  simp only [readCell?, kept, nonempty, Bool.false_eq_true, if_false, decoded]
  cases type with
  | text => simp [readText?, fieldOf, Utf8.decode?_encode]
  | bool => rfl
  | integer => exact readIndented_eq plain
  | float64 => exact readIndented_eq plain
  | _ => rfl

theorem readBool?_shows_iff {text : String} :
    (∃ cell, readBool? text.toList = some cell ∧ cell.text? = some text) ↔
      text = "true" ∨ text = "false" := by
  constructor
  · rintro ⟨cell, read, shown⟩
    unfold readBool? at read
    simp only at read
    split_ifs at read with isTrue isFalse
    · cases read
      exact .inl (Option.some.inj shown).symm
    · cases read
      exact .inr (Option.some.inj shown).symm
  · rintro (rfl | rfl)
    · exact ⟨.bool true, rfl, rfl⟩
    · exact ⟨.bool false, rfl, rfl⟩

theorem readInteger64?_shows_iff {text : String} :
    (∃ cell, readInteger64? text.toList = some cell ∧ cell.text? = some text) ↔
      ∃ value : Int, FitsInt64 value ∧ text = toString value := by
  constructor
  · rintro ⟨cell, read, shown⟩
    unfold readInteger64? at read
    split at read
    · split at read
      · rename_i value _ fits
        cases read
        exact ⟨value, fits, (Option.some.inj shown).symm⟩
      · cases read
    · cases read
  · rintro ⟨value, fits, rfl⟩
    refine ⟨.integer value, ?_, rfl⟩
    simp only [readInteger64?, readInteger?_toString, if_pos fits]

/-- A text is kept by a type exactly when it is read as a cell that shows it. -/
theorem keeps_iff {text : String} (plain : PlainText text) (type : ColumnType) :
    Keeps type text ↔
      ∃ cell, readCell? type (fieldOf text) = some cell ∧ cell.text? = some text := by
  rw [readCell?_fieldOf plain]
  cases type with
  | bool => exact readBool?_shows_iff.symm
  | integer => exact readInteger64?_shows_iff.symm
  | float64 =>
      simp only [Keeps, Option.map_eq_some_iff]
      constructor
      · rintro ⟨value, read, same⟩
        exact ⟨.float value, ⟨value, read, rfl⟩, congrArg some same.symm⟩
      · rintro ⟨_, ⟨value, read, rfl⟩, shown⟩
        exact ⟨value, read, (Option.some.inj shown).symm⟩
  | text => simp [Keeps, Cell.text?, Cell.isNull, Cell.display]
  | _ => simp [Keeps]

end DatasetGate.Dataset
