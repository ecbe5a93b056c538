import DatasetGate.Proofs.Plan.Codec

/-!
# Plans that expect a number

The text of a plan that expects a number of a column, the number spelled in some way. Such a plan is
loaded exactly when the reader of numbers takes the spelling.
-/

set_option autoImplicit false

namespace DatasetGate

open DatasetGate.Json DatasetGate.Text

namespace Plan

/-- The text of a plan that expects a number of a column. -/
def expectingText (column : String) (number : List Char) : List Char :=
  "\x7b\"checks\":[\x7b\"check\":\"value\",\"column\":".toList ++ quoted column.toList ++
    ",\"expected\":".toList ++ number ++ "\x7d]\x7d".toList

/-- What the one check of that plan reads as. -/
def checkDraft (column : String) (number : List Char) : Draft :=
  .object [("check".toList.map .char, draftOf (.string CheckTag.value.name)),
    ("column".toList.map .char, draftOf (.string column)),
    ("expected".toList.map .char, .number number)] none

variable {column : String} {number : List Char}

/-- The parts of that text are a check with three members, in a list of checks. -/
theorem expectingText_eq (column : String) (number : List Char) :
    expectingText column number =
      '\x7b' :: (quoted "checks".toList ++ ':' :: '[' :: '\x7b' ::
        (quoted "check".toList ++ ':' :: (quoted CheckTag.value.name.toList ++ ',' ::
          (quoted "column".toList ++ ':' :: (quoted column.toList ++ ',' ::
            (quoted "expected".toList ++ ':' :: (number ++ ['\x7d', ']', '\x7d']))))))) := by
  have opening : "\x7b\"checks\":[\x7b\"check\":\"value\",\"column\":".toList =
      '\x7b' :: (quoted "checks".toList ++ ':' :: '[' :: '\x7b' ::
        (quoted "check".toList ++ ':' :: (quoted CheckTag.value.name.toList ++ ',' ::
          (quoted "column".toList ++ [':'])))) := by
    decide
  have middle : ",\"expected\":".toList = ',' :: (quoted "expected".toList ++ [':']) := by
    decide
  have closing : "\x7d]\x7d".toList = ['\x7d', ']', '\x7d'] := by
    decide
  -- `rw` would take the texts apart to tell them from each other; here they are literals.
  unfold expectingText
  simp only [opening, middle, closing, List.append_assoc, List.cons_append, List.nil_append]

theorem readsAs_expectingText (column : String) (spelled : ReadsAs number (.number number)) :
    ReadsAs (expectingText column number)
      (.object [("checks".toList.map .char, .array [checkDraft column number] none)] none) := by
  have string (text : String) : ReadsAs (quoted text.toList) (draftOf (.string text)) :=
    written_string text
  have member (key : String) {value : List Char} {draft : Draft} (read : ReadsAs value draft) :
      ReadsAsMember (quoted key.toList ++ [':'] ++ value) (key.toList.map .char, draft) :=
    ⟨key.toList, [], value, spaces_nil, rfl, rfl, read⟩
  have check := readsAs_object spaces_nil spaces_nil endsNumber_nil
    (.cons (member "check" (string CheckTag.value.name))
      (.cons (member "column" (string column))
        (.cons (member "expected" spelled) .nil)))
  have checks := readsAs_array spaces_nil spaces_nil endsNumber_nil (.cons check .nil)
  have plan := readsAs_object spaces_nil spaces_nil endsNumber_nil
    (.cons (member "checks" checks) .nil)
  simp only [joined, List.append_assoc, List.cons_append, List.nil_append] at plan
  rw [expectingText_eq]
  exact plan

theorem readTagged_number :
    readTagged [("check".toList.map .char, draftOf (.string CheckTag.value.name)),
        ("column".toList.map .char, draftOf (.string column)),
        ("expected".toList.map .char, .number number)] none [] =
      match numberValue? number with
      | some value => .ok (some .value, [("column", .string column), ("expected", value)])
      | none => .error (.notJson .malformed) := by
  rw [readTagged_check]
  cases read : numberValue? number with
  | none =>
      simp only [readTagged, readPieces_chars, value_string, Draft.value, read]
      rfl
  | some value =>
      simp only [readTagged, readPieces_chars, value_string, Draft.value, read]
      rfl

theorem readObject_expected {value : Json} {expected : Expectation}
    (stated : Expectation.ofJson? value = some expected) :
    readObject .value [("column", .string column), ("expected", value)] =
      .ok (.value column expected) := by
  let members : List (String × Json) := [("column", .string column), ("expected", value)]
  have expectation : readExpectation value = .ok expected := by
    simp only [readExpectation, stated]
  have collected : collectFields .value members [] = .ok members := by
    apply collectFields_eq
    · simp [members, CheckTag.fields]
    · simp [members]
    · simp [members, checkField, readName, expectation, Except.map]
  have columnFound : needField members "column" = .ok (.string column) := rfl
  have expectedFound : needField members "expected" = .ok value := rfl
  rw [readObject, collected]
  simp only [Except.bind, buildCheck, columnFound, expectedFound, readName, expectation, bind, pure,
    Except.pure]

/-- A plan is read where its number is. -/
theorem ofText_expectingText (spelled : ReadsAs number (.number number)) {value : Json}
    (read : numberValue? number = some value) {expected : Expectation}
    (stated : Expectation.ofJson? value = some expected) :
    ofText (expectingText column number) = .ok ⟨[.value column expected]⟩ := by
  have check : readCheck (checkDraft column number) = .ok (.value column expected) := by
    simp only [checkDraft, readCheck, readTagged_number, read, requireEnd, readStop,
      readObject_expected stated, orMismatch]
  simp only [ofText, document_of_readsAs (readsAs_expectingText column spelled), ofDraft,
    readPlanMembers, readPieces_chars, readCheckList, readChecks, check]
  rfl

theorem ofText_expectingText_of_none (spelled : ReadsAs number (.number number))
    (unread : numberValue? number = none) :
    ofText (expectingText column number) = .error (.notJson .malformed) := by
  have refused : readCheck (checkDraft column number) = .error (.notJson .malformed) := by
    simp only [checkDraft, readCheck, readTagged_number, unread]
  simp only [ofText, document_of_readsAs (readsAs_expectingText column spelled), ofDraft,
    readPlanMembers, readPieces_chars, readCheckList, readChecks, refused]
  rfl

/-- Every number states an expectation. -/
theorem exists_stated {text : List Char} {value : Json} (read : numberValue? text = some value) :
    ∃ expected, Expectation.ofJson? value = some expected := by
  have number : (∃ n, value = .integer n) ∨ ∃ x, value = .float x := by
    unfold numberValue? NumberParts.value? at read
    simp only at read
    split_ifs at read with whole natural negative
    · exact .inl ⟨_, (Option.some.inj read).symm⟩
    · exact .inl ⟨_, (Option.some.inj read).symm⟩
    · exact .inr ⟨_, (Option.some.inj read).symm⟩
    · obtain ⟨x, -, float⟩ := Option.map_eq_some_iff.mp read
      exact .inr ⟨x, float.symm⟩
  rcases number with ⟨n, rfl⟩ | ⟨x, rfl⟩
  · exact ⟨_, rfl⟩
  · exact ⟨_, rfl⟩

/-- A plan that expects a number is loaded exactly when the number can be read. -/
theorem load_expectingText (spelled : ReadsAs number (.number number)) {files : Files}
    {path : String} (held : files.read path = .ok (Utf8.encode (expectingText column number)))
    {plan : Plan} :
    load files path = .ok plan ↔ ∃ value expected, numberValue? number = some value ∧
      Expectation.ofJson? value = some expected ∧ plan = ⟨[.value column expected]⟩ := by
  have text : files.readText path = .ok (expectingText column number) := by
    simp only [Files.readText, held, Utf8.decode?_encode]
  cases read : numberValue? number with
  | none => simp [load, text, ofText_expectingText_of_none spelled read]
  | some value =>
      obtain ⟨expected, stated⟩ := exists_stated read
      simp [load, text, ofText_expectingText spelled read stated, stated, eq_comm]

end Plan

end DatasetGate
