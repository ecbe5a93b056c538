import DatasetGate.Plan.Load
import DatasetGate.Proofs.Calendar.Timestamp
import DatasetGate.Proofs.Json.Values
import DatasetGate.Proofs.Selector
import DatasetGate.Proofs.Text.Utf8

/-!
# Plans read back

The text of a plan is read as that plan, check by check: the reader of a check meets its kind first,
then the members of that kind in their order. A check can be written and read back if its limit or
expectation can.
-/

set_option autoImplicit false

namespace DatasetGate

open DatasetGate.Json DatasetGate.Calendar DatasetGate.Text

/-- An expectation that is no float, its integer one of 64 bits. -/
def Expectation.Portable : Expectation → Prop
  | .null | .bool _ | .text _ => True
  | .integer value => FitsInt64 value
  | .float _ => False

/-- An instant read from some text whose year has four digits. -/
def PortableInstant (instant : Instant) : Prop :=
  (∃ text, parseTimestamp? text = some instant) ∧
    0 ≤ instant.date.year ∧ instant.date.year ≤ 9999

/-- A check whose limit or expectation can be written and read back. -/
def Check.Portable : Check → Prop
  | .limitDate _ limit => PortableInstant limit
  | .limitNum _ limit => FitsInt64 limit
  | .value _ expected => expected.Portable
  | .urls _ | .date _ | .repoName _ | .repoNameFormat _ => True

/-- A check whose text can be read as the values it holds. The limit of dates is any text there. -/
def Check.Writable : Check → Prop
  | .limitNum _ limit => FitsInt64 limit
  | .value _ expected => expected.Portable
  | .limitDate _ _ | .urls _ | .date _ | .repoName _ | .repoNameFormat _ => True

theorem Check.Portable.writable {check : Check} (portable : check.Portable) : check.Writable := by
  cases check with
  | limitNum column limit => exact portable
  | value column expected => exact portable
  | urls column => exact trivial
  | date column => exact trivial
  | limitDate column limit => exact trivial
  | repoName column => exact trivial
  | repoNameFormat column => exact trivial

/-- The kind of a check. -/
def Check.tag : Check → CheckTag
  | .urls _ => .urls
  | .date _ => .date
  | .limitDate _ _ => .limitDate
  | .limitNum _ _ => .limitNum
  | .repoName _ => .repoName
  | .repoNameFormat _ => .repoNameFormat
  | .value _ _ => .value

/-- The members of a check besides its kind. -/
def Check.members (check : Check) : List (String × Json) :=
  ("column", .string check.column) :: check.parameters

theorem Check.tag_name (check : Check) : check.tag.name = check.name := by
  cases check <;> rfl

theorem CheckTag.find?_name (tag : CheckTag) : CheckTag.find? tag.name = some tag := by
  cases tag <;> decide

theorem readColumn_columnName {α : Type} [Family α] [LawfulFamily α] (column : α) :
    readColumn α (.string (Family.columnName column)) = .ok column := by
  simp only [readColumn, Family.select_columnName]

theorem readInstant_timestamp {instant : Instant} (portable : PortableInstant instant) :
    readInstant (.string instant.timestamp) = .ok instant := by
  obtain ⟨⟨_, read⟩, year⟩ := portable
  simp only [readInstant,
    Instant.parseTimestamp?_timestamp (wellFormed_of_parseTimestamp? read) year]

theorem readNumber_integer {n : Int} (fits : FitsInt64 n) : readNumber (.integer n) = .ok n := by
  simp only [readNumber, if_pos fits]

theorem readExpectation_toJson {expected : Expectation} (portable : expected.Portable) :
    readExpectation expected.toJson = .ok expected := by
  cases expected with
  | null => rfl
  | bool value => rfl
  | integer value => simp only [readExpectation, Expectation.toJson, Expectation.ofJson?,
      if_pos (show FitsInt64 value from portable)]
  | float value => exact False.elim portable
  | text value => rfl

theorem checkField_column (check : Check) :
    checkField check.tag "column" (.string check.column) = .ok () := by
  simp only [checkField, if_true]
  cases check with
  | urls column => exact congrArg (Except.map fun _ => ()) (readColumn_columnName column)
  | date column => exact congrArg (Except.map fun _ => ()) (readColumn_columnName column)
  | limitDate column _ => exact congrArg (Except.map fun _ => ()) (readColumn_columnName column)
  | limitNum column _ => exact congrArg (Except.map fun _ => ()) (readColumn_columnName column)
  | repoName column => exact congrArg (Except.map fun _ => ()) (readColumn_columnName column)
  | repoNameFormat column => exact congrArg (Except.map fun _ => ()) (readColumn_columnName column)
  | value column _ => rfl

theorem checkField_parameters {check : Check} (portable : check.Portable) :
    ∀ member ∈ check.parameters, checkField check.tag member.1 member.2 = .ok () := by
  cases check with
  | urls column => simp [Check.parameters]
  | date column => simp [Check.parameters]
  | limitDate column limit =>
      simp [Check.parameters, Check.tag, checkField, readInstant_timestamp portable, Except.map]
  | limitNum column limit =>
      simp [Check.parameters, Check.tag, checkField, readNumber_integer portable, Except.map]
  | repoName column => simp [Check.parameters]
  | repoNameFormat column => simp [Check.parameters]
  | value column expected =>
      simp [Check.parameters, Check.tag, checkField, readExpectation_toJson portable, Except.map]

/-- Members that a kind needs, no two alike and none with a mismatch, are all taken. -/
theorem collectFields_eq {tag : CheckTag} {members found : List (String × Json)}
    (needed : ∀ member ∈ members, member.1 ∈ tag.fields)
    (distinct : ((found ++ members).map Prod.fst).Nodup)
    (fitting : ∀ member ∈ members, checkField tag member.1 member.2 = .ok ()) :
    collectFields tag members found = .ok (found ++ members) := by
  induction members generalizing found with
  | nil => rw [collectFields, List.append_nil]
  | cons member members members_ih =>
      obtain ⟨key, value⟩ := member
      rw [List.forall_mem_cons] at needed fitting
      have fresh : (found.lookup key).isSome = false := by
        rw [Option.isSome_eq_false_iff, Option.isNone_iff_eq_none, List.lookup_eq_none_iff]
        intro earlier listed
        rw [bne_iff_ne]
        rintro rfl
        rw [List.map_append, List.nodup_append] at distinct
        exact distinct.2.2 _ (List.mem_map_of_mem listed) _ List.mem_cons_self rfl
      have more : collectFields tag members (found ++ [(key, value)]) =
          .ok (found ++ [(key, value)] ++ members) :=
        members_ih needed.2 (by simpa using distinct) fitting.2
      rw [collectFields, if_pos needed.1, fresh, if_neg Bool.false_ne_true, fitting.1]
      simpa using more

theorem buildCheck_members {check : Check} (portable : check.Portable) :
    buildCheck check.tag check.members = .ok check := by
  have columnFound : needField check.members "column" = .ok (.string check.column) := rfl
  rw [buildCheck, columnFound]
  cases check with
  | urls column => exact congrArg (Except.map Check.urls) (readColumn_columnName column)
  | date column => exact congrArg (Except.map Check.date) (readColumn_columnName column)
  | limitDate column limit =>
      have columnRead : readColumn DateColumn (.string column.name) = .ok column :=
        readColumn_columnName column
      have limitFound : needField (Check.limitDate column limit).members "limit" =
        .ok (.string limit.timestamp) := rfl
      simp only [Check.tag, Check.column, limitFound, columnRead, readInstant_timestamp portable,
        bind, Except.bind, pure, Except.pure]
  | limitNum column limit =>
      have columnRead : readColumn NumericColumn (.string column.name) = .ok column :=
        readColumn_columnName column
      have limitFound : needField (Check.limitNum column limit).members "limit" =
        .ok (.integer limit) := rfl
      simp only [Check.tag, Check.column, limitFound, columnRead, readNumber_integer portable,
        bind, Except.bind, pure, Except.pure]
  | repoName column => exact congrArg (Except.map Check.repoName) (readColumn_columnName column)
  | repoNameFormat column =>
      exact congrArg (Except.map Check.repoNameFormat) (readColumn_columnName column)
  | value column expected =>
      have expectedFound : needField (Check.value column expected).members "expected" =
        .ok expected.toJson := rfl
      simp only [Check.tag, Check.column, expectedFound, readName, readExpectation_toJson portable,
        bind, Except.bind, pure, Except.pure]

/-- The members of a check, read in their order, make it again. -/
theorem readObject_members {check : Check} (portable : check.Portable) :
    readObject check.tag check.members = .ok check := by
  have collected : collectFields check.tag check.members [] = .ok check.members := by
    apply collectFields_eq
    · cases check <;> simp [Check.members, Check.parameters, Check.tag, CheckTag.fields]
    · cases check <;> simp [Check.members, Check.parameters]
    · intro member listed
      rcases List.mem_cons.mp listed with rfl | listed
      · exact checkField_column check
      · exact checkField_parameters portable member listed
  rw [readObject, collected]
  exact buildCheck_members portable

theorem readTag_of_name {kind : List Piece} {tag : CheckTag}
    (known : readPieces kind = .ok tag.name) : readTag (.string kind) = .ok tag := by
  simp only [readTag, known, CheckTag.find?_name]

theorem readTag_name (tag : CheckTag) : readTag (draftOf (.string tag.name)) = .ok tag :=
  readTag_of_name (readPieces_chars tag.name)

theorem readTagged_check (tag : CheckTag) (rest : List (List Piece × Draft))
    (found : List (String × Json)) :
    readTagged (("check".toList.map .char, draftOf (.string tag.name)) :: rest) none found =
      readTagged rest (some tag) found := by
  simp only [readTagged, readPieces_chars, Option.isSome_none, Bool.false_eq_true, if_false,
    readTag_name]

theorem readTagged_members {members : List (String × Json)}
    (others : ∀ member ∈ members, member.1 ≠ "check")
    (restored : ∀ member ∈ members, (draftOf member.2).value memberDepth = .ok member.2)
    (tag : Option CheckTag) (found : List (String × Json)) :
    readTagged (memberDrafts members) tag found = .ok (tag, found ++ members) := by
  induction members generalizing found with
  | nil => simp [memberDrafts, readTagged]
  | cons member members members_ih =>
      obtain ⟨key, item⟩ := member
      have other : key ≠ "check" := others _ List.mem_cons_self
      have value := restored _ List.mem_cons_self
      have more := members_ih (fun next member => others next (List.mem_cons_of_mem _ member))
        (fun next member => restored next (List.mem_cons_of_mem _ member)) (found ++ [(key, item)])
      simp only [memberDrafts, readTagged, readPieces_chars, value]
      rw [more, List.append_assoc]
      rfl

theorem Check.members_ne_check (check : Check) :
    ∀ member ∈ check.members, member.1 ≠ "check" := by
  cases check <;> simp [members, parameters]

theorem Expectation.value_toJson {expected : Expectation} (portable : expected.Portable)
    (depth : Nat) : (draftOf expected.toJson).value depth = .ok expected.toJson := by
  cases expected with
  | null => exact value_null depth
  | bool value => exact value_bool depth value
  | integer value => exact value_integer depth portable
  | float value => exact False.elim portable
  | text value => exact value_string depth value

theorem Expectation.written_toJson {expected : Expectation} (portable : expected.Portable) :
    Written expected.toJson := by
  cases expected with
  | null => exact written_null
  | bool value => exact written_bool value
  | integer value => exact written_integer value
  | float value => exact False.elim portable
  | text value => exact written_string value

theorem Check.members_value {check : Check} (writable : check.Writable) (depth : Nat) :
    ∀ member ∈ check.members, (draftOf member.2).value depth = .ok member.2 := by
  cases check with
  | limitNum column limit =>
      simpa [members, parameters, value_string] using value_integer depth writable
  | value column expected =>
      simpa [members, parameters, value_string] using Expectation.value_toJson writable depth
  | urls column => simp [members, parameters, value_string]
  | date column => simp [members, parameters, value_string]
  | limitDate column limit => simp [members, parameters, value_string]
  | repoName column => simp [members, parameters, value_string]
  | repoNameFormat column => simp [members, parameters, value_string]

theorem Check.members_written {check : Check} (writable : check.Writable) :
    ∀ member ∈ check.members, Written member.2 := by
  cases check with
  | limitNum column limit =>
      simpa [members, parameters, written_string] using written_integer limit
  | value column expected =>
      simpa [members, parameters, written_string] using Expectation.written_toJson writable
  | urls column => simp [members, parameters, written_string]
  | date column => simp [members, parameters, written_string]
  | limitDate column limit => simp [members, parameters, written_string]
  | repoName column => simp [members, parameters, written_string]
  | repoNameFormat column => simp [members, parameters, written_string]

theorem Check.toJson_eq (check : Check) :
    check.toJson = .object (("check", .string check.tag.name) :: check.members) := by
  rw [tag_name]
  rfl

theorem Check.written_toJson {check : Check} (writable : check.Writable) :
    Written check.toJson := by
  rw [toJson_eq]
  apply written_object
  intro member listed
  rcases List.mem_cons.mp listed with rfl | listed
  · exact written_string _
  · exact members_written writable member listed

theorem Check.value_toJson {check : Check} (writable : check.Writable) (depth : Nat) :
    (draftOf check.toJson).value (depth + 1) = .ok check.toJson := by
  rw [toJson_eq]
  apply value_object
  intro member listed
  rcases List.mem_cons.mp listed with rfl | listed
  · exact value_string depth _
  · exact members_value writable depth member listed

/-- Reading a written check comes down to reading its members. -/
theorem readCheck_members {check : Check} (writable : check.Writable) :
    readCheck (draftOf check.toJson) = orMismatch (readObject check.tag check.members) := by
  have tagged : readTagged (memberDrafts (("check", .string check.tag.name) :: check.members))
      none [] = .ok (some check.tag, check.members) := by
    rw [memberDrafts, readTagged_check, readTagged_members check.members_ne_check
      (check.members_value writable memberDepth), List.nil_append]
  rw [Check.toJson_eq, draftOf, readCheck]
  simp only [tagged, requireEnd, readStop]

theorem readCheck_toJson {check : Check} (portable : check.Portable) :
    readCheck (draftOf check.toJson) = .ok check := by
  rw [readCheck_members portable.writable, readObject_members portable]
  rfl

theorem readChecks_toJson {checks : List Check} (portable : ∀ check ∈ checks, check.Portable) :
    readChecks (itemDrafts (checks.map Check.toJson)) = .ok checks := by
  induction checks with
  | nil => rfl
  | cons check checks checks_ih =>
      have more := checks_ih fun other member => portable other (List.mem_cons_of_mem check member)
      rw [List.map_cons, itemDrafts, readChecks, readCheck_toJson (portable _ List.mem_cons_self)]
      simp only [more]
      rfl

namespace Plan

/-- A plan of checks that can be written and read back. -/
def Portable (plan : Plan) : Prop :=
  ∀ check ∈ plan.checks, check.Portable

variable {plan : Plan}

theorem written_toJson (writable : ∀ check ∈ plan.checks, check.Writable) :
    Written plan.toJson := by
  apply written_object
  intro member listed
  rw [List.mem_singleton] at listed
  rw [listed]
  apply written_array
  intro item itemListed
  obtain ⟨check, member, rfl⟩ := List.mem_map.mp itemListed
  exact Check.written_toJson (writable check member)

theorem value_toJson (portable : plan.Portable) :
    (draftOf plan.toJson).value maxDepth = .ok plan.toJson := by
  apply value_object
  intro member listed
  rw [List.mem_singleton] at listed
  rw [listed]
  apply value_array
  intro item itemListed
  obtain ⟨check, member, rfl⟩ := List.mem_map.mp itemListed
  exact Check.value_toJson (portable check member).writable _

theorem Portable.writable (portable : plan.Portable) : ∀ check ∈ plan.checks, check.Writable :=
  fun check member => (portable check member).writable

/-- Reading a written plan comes down to reading its checks. -/
theorem ofDraft_readChecks (plan : Plan) : ofDraft (draftOf plan.toJson) =
    (readChecks (itemDrafts (plan.checks.map Check.toJson))).map Plan.mk := by
  simp only [toJson, draftOf, memberDrafts, ofDraft, readPlanMembers, readPieces_chars,
    readCheckList, Option.isSome_none, Bool.false_eq_true, if_false]
  cases readChecks (itemDrafts (plan.checks.map Check.toJson)) with
  | error error => rfl
  | ok checks => rfl

theorem ofText_readChecks (writable : ∀ check ∈ plan.checks, check.Writable) :
    ofText (chars plan.toJson) =
      (readChecks (itemDrafts (plan.checks.map Check.toJson))).map Plan.mk := by
  simp only [ofText, document_of_readsAs (written_toJson writable), ofDraft_readChecks]
  cases readChecks (itemDrafts (plan.checks.map Check.toJson)) with
  | error error => rfl
  | ok checks => rfl

theorem ofText_toJson (portable : plan.Portable) : ofText (chars plan.toJson) = .ok plan := by
  rw [ofText_readChecks portable.writable, readChecks_toJson portable]
  rfl

theorem readText_toJson {files : Files} {path : String}
    (held : files.read path = .ok (Utf8.encode plan.toJson.text.toList)) :
    files.readText path = .ok (chars plan.toJson) := by
  rw [text, String.toList_ofList] at held
  simp only [Files.readText, held, Utf8.decode?_encode]

theorem load_toJson (portable : plan.Portable) {files : Files} {path : String}
    (held : files.read path = .ok (Utf8.encode plan.toJson.text.toList)) :
    load files path = .ok plan := by
  simp only [load, readText_toJson held, ofText_toJson portable]

/-- An object names a check by its kind and its column. -/
def Names (object : Json) (check : Check) : Prop :=
  object.field? "check" = some (.string check.name) ∧
    object.field? "column" = some (.string check.column)

theorem names_toJson (check : Check) : Names check.toJson check := by
  cases check <;> exact ⟨rfl, rfl⟩

/-- A saved plan is loaded as it was, and its file holds one object for each check, in order, that
names the check by its kind and its column. -/
theorem load_saved {plan : Plan} (portable : plan.Portable) {files : Files} {path : String}
    (held : files.read path = .ok (Utf8.encode plan.toJson.text.toList)) :
    load files path = .ok plan ∧
      ∃ objects, Json.read plan.toJson.text.toList = .ok (.object [("checks", .array objects)]) ∧
        List.Forall₂ Names objects plan.checks := by
  refine ⟨load_toJson portable held, plan.checks.map Check.toJson, ?_, ?_⟩
  · rw [text, String.toList_ofList]
    exact read_chars (written_toJson portable.writable) (value_toJson portable)
  · rw [List.forall₂_map_left_iff, List.forall₂_same]
    exact fun check _ => names_toJson check

/-- A check of every kind, with a limit within a leap second and texts that need escapes. -/
def everyKind : Plan :=
  ⟨[.value "clé \"\t\"" (.text "\\ \x01 é 😀"), .limitDate .pushedAt ⟨1483228799, 1500000000⟩,
    .limitNum .stars (-9223372036854775808), .urls .csshUrl, .date .createdAt,
    .repoNameFormat .headRepo, .repoName .baseRepo, .value "" (.integer 9223372036854775807)]⟩

theorem everyKind_portable : everyKind.Portable := by
  have limit : PortableInstant ⟨1483228799, 1500000000⟩ :=
    ⟨⟨"2016-12-31T23:59:60.5Z", by decide⟩, by decide⟩
  simp only [Portable, everyKind, List.forall_mem_cons]
  refine ⟨trivial, limit, ?_, trivial, trivial, trivial, trivial, ?_, by simp⟩
  · exact (by decide : FitsInt64 (-9223372036854775808))
  · exact (by decide : FitsInt64 9223372036854775807)

theorem load_saved_everyKind :
    everyKind.Portable ∧
    Files.read ⟨[(["plan.json"], .file (Utf8.encode everyKind.toJson.text.toList))]⟩ "plan.json" =
      .ok (Utf8.encode everyKind.toJson.text.toList) ∧
    load ⟨[(["plan.json"], .file (Utf8.encode everyKind.toJson.text.toList))]⟩ "plan.json" =
      .ok everyKind :=
  ⟨everyKind_portable, rfl, (load_saved everyKind_portable rfl).1⟩

end Plan

end DatasetGate
