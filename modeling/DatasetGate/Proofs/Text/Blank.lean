import DatasetGate.Text.Blank
import DatasetGate.Proofs.Text.Digits

/-!
# Trimmed text

Text that neither begins nor ends with a blank is left as it is by trimming, and blanks put around a
text are all taken away.
-/

set_option autoImplicit false

namespace DatasetGate.Text

theorem isBlank_of_isDigit {c : Char} (digit : isDigit c = true) : isBlank c = false := by
  obtain ⟨low, high⟩ := bounds_of_isDigit digit
  simp only [isBlank, blankRanges, List.any_cons, List.any_nil, Bool.or_false,
    Bool.or_eq_false_iff, Bool.and_eq_false_iff, decide_eq_false_iff_not]
  omega

theorem trimLeft_eq_self {cs : List Char} (first : ∀ c ∈ cs.head?, isBlank c = false) :
    trimLeft cs = cs := by
  cases cs with
  | nil => rfl
  | cons c rest => simp [trimLeft, first c (by simp)]

/-- What is trimmed off the front is blank. -/
theorem exists_trimLeft (cs : List Char) :
    ∃ blanks, (∀ c ∈ blanks, isBlank c = true) ∧ cs = blanks ++ trimLeft cs :=
  ⟨cs.takeWhile isBlank, fun _ member => List.mem_takeWhile_imp member,
    List.takeWhile_append_dropWhile.symm⟩

theorem trimLeft_blanks {blanks : List Char} (blank : ∀ c ∈ blanks, isBlank c = true)
    (cs : List Char) : trimLeft (blanks ++ cs) = trimLeft cs :=
  List.dropWhile_append_of_pos blank

theorem trimRight_eq_self {cs : List Char} (last : ∀ c ∈ cs.getLast?, isBlank c = false) :
    trimRight cs = cs := by
  have reversed : trimLeft cs.reverse = cs.reverse := by
    apply trimLeft_eq_self
    rw [List.head?_reverse]
    exact last
  rw [trimRight, ← trimLeft, reversed, List.reverse_reverse]

theorem trim_eq_self {cs : List Char} (first : ∀ c ∈ cs.head?, isBlank c = false)
    (last : ∀ c ∈ cs.getLast?, isBlank c = false) : trim cs = cs := by
  rw [trim, trimLeft_eq_self first, trimRight_eq_self last]

/-- Blanks between two words are kept. -/
theorem trim_between {first middle last : List Char} (firstFull : ∀ c ∈ first, isBlank c = false)
    (firstNonempty : first ≠ []) (lastFull : ∀ c ∈ last, isBlank c = false)
    (lastNonempty : last ≠ []) :
    trim (first ++ (middle ++ last)) = first ++ (middle ++ last) := by
  apply trim_eq_self
  · intro c head
    rw [List.head?_append_of_ne_nil _ firstNonempty] at head
    exact firstFull c (List.mem_of_mem_head? head)
  · intro c final
    rw [← List.append_assoc, List.getLast?_append_of_ne_nil _ lastNonempty] at final
    exact lastFull c (List.mem_of_getLast? final)

/-- Blanks around a text make no difference to what is left of it. -/
theorem trim_padded {before text after : List Char} (blankBefore : ∀ c ∈ before, isBlank c = true)
    (blankAfter : ∀ c ∈ after, isBlank c = true) : trim (before ++ text ++ after) = trim text := by
  have right (cs : List Char) : trimRight (cs ++ after) = trimRight cs := by
    have blankReverse : ∀ c ∈ after.reverse, isBlank c = true := by simpa using blankAfter
    rw [trimRight, List.reverse_append, List.dropWhile_append_of_pos blankReverse, trimRight]
  rw [trim, trimLeft, List.append_assoc, List.dropWhile_append_of_pos blankBefore,
    List.dropWhile_append]
  cases stripped : text.dropWhile isBlank with
  | nil =>
      have nothing := List.dropWhile_eq_nil_iff.mpr blankAfter
      simp [trim, trimLeft, stripped, nothing]
  | cons c rest =>
      rw [List.isEmpty_cons, if_neg Bool.false_ne_true, right, trim, trimLeft, stripped]

/-- A word stands in a text with nothing but blanks around it. -/
def Padded (word text : List Char) : Prop :=
  ∃ before after, text = before ++ word ++ after ∧ (∀ c ∈ before, isBlank c = true) ∧
    ∀ c ∈ after, isBlank c = true

theorem padded_trim (cs : List Char) : Padded (trim cs) cs := by
  obtain ⟨before, blankBefore, front⟩ := exists_trimLeft cs
  obtain ⟨after, blankAfter, back⟩ := exists_trimLeft (trimLeft cs).reverse
  refine ⟨before, after.reverse, ?_, blankBefore, by simpa using blankAfter⟩
  have whole : trimLeft cs = trim cs ++ after.reverse := by
    rw [trim, trimRight, ← trimLeft, ← List.reverse_append, ← back, List.reverse_reverse]
  rw [List.append_assoc, ← whole]
  exact front

/-- Trimming finds a word that has no blanks at its own ends. -/
theorem trim_eq_iff_padded {word : List Char} (own : trim word = word) {text : List Char} :
    trim text = word ↔ Padded word text := by
  constructor
  · rintro rfl
    exact padded_trim text
  · rintro ⟨before, after, rfl, blankBefore, blankAfter⟩
    rw [trim_padded blankBefore blankAfter, own]

end DatasetGate.Text
