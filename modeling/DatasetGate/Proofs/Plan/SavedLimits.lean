import DatasetGate.Proofs.Calendar.SignedYears
import DatasetGate.Proofs.InferredGate
import DatasetGate.Proofs.Plan.Codec

/-!
# Limits read back

A limit of dates can be read from a text whose offset or sign puts it into a year without four digits.
The saved form of such a limit is refused. So a saved plan is loaded as it was when all its limits
lie in the years from 0 to 9999, and else ends at the first one that does not.
-/

set_option autoImplicit false

namespace DatasetGate

open DatasetGate.Json DatasetGate.Calendar DatasetGate.Text

namespace Check

/-- A check that can be written, its limit of dates read from some text. -/
structure Saveable (check : Check) : Prop where
  writable : check.Writable
  read : ∀ column limit, check = .limitDate column limit →
    ∃ text, parseTimestamp? text = some limit

/-- What a reader finds wrong with the written limit of a check. -/
def refusal? : Check → Option Mismatch
  | .limitDate _ limit =>
      if limit.HasPlainYear then none
      else some (.refused ("cannot parse '" ++ limit.timestamp ++ "' as a date"))
  | .urls _ | .date _ | .limitNum _ _ | .repoName _ | .repoNameFormat _ | .value _ _ => none

theorem refusal?_eq_none_iff {check : Check} :
    check.refusal? = none ↔
      ∀ column limit, check = .limitDate column limit → limit.HasPlainYear := by
  cases check with
  | limitDate column limit =>
      by_cases plain : limit.HasPlainYear
      · simp [refusal?, plain]
      · simp [refusal?, plain]
  | urls column => simp [refusal?]
  | date column => simp [refusal?]
  | limitNum column limit => simp [refusal?]
  | repoName column => simp [refusal?]
  | repoNameFormat column => simp [refusal?]
  | value column expected => simp [refusal?]

theorem exists_limit_of_refusal? {check : Check} {mismatch : Mismatch}
    (refused : check.refusal? = some mismatch) : ∃ column limit, check = .limitDate column limit := by
  cases check with
  | limitDate column limit => exact ⟨column, limit, rfl⟩
  | urls column => cases refused
  | date column => cases refused
  | limitNum column limit => cases refused
  | repoName column => cases refused
  | repoNameFormat column => cases refused
  | value column expected => cases refused

theorem Saveable.portable {check : Check} (saveable : check.Saveable)
    (plain : check.refusal? = none) : check.Portable := by
  obtain ⟨writable, read⟩ := saveable
  rw [refusal?_eq_none_iff] at plain
  cases check with
  | limitDate column limit => exact ⟨read column limit rfl, plain column limit rfl⟩
  | limitNum column limit => exact writable
  | value column expected => exact writable
  | urls column => exact trivial
  | date column => exact trivial
  | repoName column => exact trivial
  | repoNameFormat column => exact trivial

/-- The limit is refused where its member is met, before the check is put together. -/
theorem readObject_signed {column : DateColumn} {limit : Instant}
    (read : ∃ text, parseTimestamp? text = some limit) (signed : ¬ limit.HasPlainYear) :
    readObject .limitDate (Check.limitDate column limit).members =
      .error (.refused ("cannot parse '" ++ limit.timestamp ++ "' as a date")) := by
  obtain ⟨text, read⟩ := read
  have unread : parseTimestamp? limit.timestamp = none := by
    rw [Instant.parseTimestamp?_timestamp_eq read, if_neg signed]
  have columnFits : checkField .limitDate "column" (.string column.name) = .ok () :=
    checkField_column (.limitDate column limit)
  have limitRefused : checkField .limitDate "limit" (.string limit.timestamp) =
      .error (.refused ("cannot parse '" ++ limit.timestamp ++ "' as a date")) := by
    simp only [checkField, String.reduceEq, if_false, readInstant, unread]
    rfl
  simp [readObject, members, parameters, Check.column, collectFields, CheckTag.fields, columnFits,
    limitRefused, Except.bind]

/-- A written check is read as it was, or refused for its limit. -/
theorem readCheck_saved {check : Check} (saveable : check.Saveable) :
    readCheck (draftOf check.toJson) =
      match check.refusal? with
      | none => .ok check
      | some mismatch => .error (.mismatch mismatch) := by
  cases refused : check.refusal? with
  | none => exact readCheck_toJson (saveable.portable refused)
  | some mismatch =>
      obtain ⟨column, limit, rfl⟩ := exists_limit_of_refusal? refused
      have signed : ¬ limit.HasPlainYear := by
        intro plain
        rw [refusal?, if_pos plain] at refused
        cases refused
      rw [refusal?, if_neg signed] at refused
      cases refused
      rw [readCheck_members saveable.writable]
      exact congrArg orMismatch (readObject_signed (saveable.read column limit rfl) signed)

end Check

/-- Of several refusals the first one counts. -/
theorem readChecks_saved {checks : List Check} (saveable : ∀ check ∈ checks, check.Saveable) :
    readChecks (itemDrafts (checks.map Check.toJson)) =
      match checks.findSome? Check.refusal? with
      | none => .ok checks
      | some mismatch => .error (.mismatch mismatch) := by
  induction checks with
  | nil => rfl
  | cons check checks checks_ih =>
      rw [List.forall_mem_cons] at saveable
      rw [List.map_cons, itemDrafts, readChecks, Check.readCheck_saved saveable.1,
        List.findSome?_cons]
      cases check.refusal? with
      | some mismatch => rfl
      | none =>
          simp only [checks_ih saveable.2]
          cases checks.findSome? Check.refusal? with
          | none => rfl
          | some mismatch => rfl

namespace Plan

/-- A plan of checks that can be written, its limits of dates read from some texts. -/
def Saveable (plan : Plan) : Prop :=
  ∀ check ∈ plan.checks, check.Saveable

/-- What a reader finds wrong with a written plan. -/
def refusal? (plan : Plan) : Option Mismatch :=
  plan.checks.findSome? Check.refusal?

variable {plan : Plan} {files : Files} {path : String}

theorem load_saveable (saveable : plan.Saveable)
    (held : files.read path = .ok (Utf8.encode plan.toJson.text.toList)) :
    load files path =
      match plan.refusal? with
      | none => .ok plan
      | some mismatch => .error (.invalid path (.mismatch mismatch)) := by
  have writable : ∀ check ∈ plan.checks, check.Writable :=
    fun check member => (saveable check member).writable
  simp only [load, readText_toJson held, ofText_readChecks writable, readChecks_saved saveable]
  rw [refusal?]
  cases plan.checks.findSome? Check.refusal? with
  | none => rfl
  | some mismatch => rfl

section Inferred

variable {frame : Frame} {text : String} {limit : Instant} {minimums : List (NumericColumn × Int)}

theorem saveable_infer (read : parseTimestamp? text = some limit)
    (fits : ∀ entry ∈ minimums, FitsInt64 entry.2) :
    (infer frame ⟨some limit, minimums⟩).Saveable := by
  intro check member
  rw [mem_infer] at member
  rcases member with ⟨column, rfl, -⟩ | ⟨column, rfl, -⟩ | ⟨column, _, rfl, chosen, -⟩ |
    ⟨entry, listed, rfl⟩ | ⟨column, rfl, -⟩ | ⟨rfl, -⟩
  · exact ⟨trivial, nofun⟩
  · exact ⟨trivial, nofun⟩
  · refine ⟨trivial, ?_⟩
    intro column' limit' same
    cases same
    cases chosen
    exact ⟨text, read⟩
  · exact ⟨fits entry listed, nofun⟩
  · exact ⟨trivial, nofun⟩
  · exact ⟨trivial, nofun⟩

/-- An inferred plan has no other limit than the bound, and that one for each date column. -/
theorem limit_of_mem_infer {column : DateColumn} {limit' : Instant}
    (member : .limitDate column limit' ∈ (infer frame ⟨some limit, minimums⟩).checks) :
    limit' = limit ∧ frame.has column.name = true := by
  rw [mem_infer] at member
  rcases member with ⟨_, shape, -⟩ | ⟨_, shape, -⟩ | ⟨_, _, shape, chosen, present⟩ |
    ⟨_, -, shape⟩ | ⟨_, shape, -⟩ | ⟨shape, -⟩
  · cases shape
  · cases shape
  · cases shape
    cases chosen
    exact ⟨rfl, present⟩
  · cases shape
  · cases shape
  · cases shape

theorem refusal?_infer_eq_none
    (kept : limit.HasPlainYear ∨ ∀ column : DateColumn, frame.has column.name = false) :
    (infer frame ⟨some limit, minimums⟩).refusal? = none := by
  apply List.findSome?_eq_none_iff.mpr
  intro check member
  apply Check.refusal?_eq_none_iff.mpr
  intro column limit' shape
  rw [shape] at member
  obtain ⟨rfl, present⟩ := limit_of_mem_infer member
  rcases kept with plain | missing
  · exact plain
  · rw [missing] at present
    cases present

theorem refusal?_infer_eq_some (signed : ¬ limit.HasPlainYear) {column : DateColumn}
    (present : frame.has column.name = true) :
    (infer frame ⟨some limit, minimums⟩).refusal? =
      some (.refused ("cannot parse '" ++ limit.timestamp ++ "' as a date")) := by
  have listed : .limitDate column limit ∈ (infer frame ⟨some limit, minimums⟩).checks :=
    mem_infer.mpr (.inr (.inr (.inl ⟨column, limit, rfl, rfl, present⟩)))
  cases found : (infer frame ⟨some limit, minimums⟩).refusal? with
  | none =>
      have plain := List.findSome?_eq_none_iff.mp found _ listed
      rw [Check.refusal?, if_neg signed] at plain
      cases plain
  | some mismatch =>
      obtain ⟨check, member, refused⟩ := List.exists_of_findSome?_eq_some found
      obtain ⟨column', limit', rfl⟩ := Check.exists_limit_of_refusal? refused
      obtain ⟨rfl, -⟩ := limit_of_mem_infer member
      rw [Check.refusal?, if_neg signed] at refused
      exact refused.symm

end Inferred

/-- A limit that can be read is saved and read again exactly where its year in universal time has four
digits. A plan with limits that can be read is loaded as it was where that holds of them all, and else
refused for the first one of which it does not; the plan inferred from a bound is refused where it
checks a date column at all. -/
theorem load_saved_limits {text : String} {limit : Instant}
    (read : parseTimestamp? text = some limit) :
    parseTimestamp? limit.timestamp = (if limit.HasPlainYear then some limit else none) ∧
    (∀ plan : Plan, plan.Saveable → ∀ files : Files, ∀ path,
      files.read path = .ok (Utf8.encode plan.toJson.text.toList) →
        load files path =
          match plan.refusal? with
          | none => .ok plan
          | some mismatch => .error (.invalid path (.mismatch mismatch))) ∧
    ∀ frame : Frame, ∀ minimums : List (NumericColumn × Int),
      (∀ entry ∈ minimums, FitsInt64 entry.2) → ∀ files : Files, ∀ path,
        files.read path =
            .ok (Utf8.encode (infer frame ⟨some limit, minimums⟩).toJson.text.toList) →
          ((limit.HasPlainYear ∨ ∀ column : DateColumn, frame.has column.name = false) →
            load files path = .ok (infer frame ⟨some limit, minimums⟩)) ∧
          ∀ column : DateColumn, ¬ limit.HasPlainYear → frame.has column.name = true →
            load files path = .error (.invalid path (.mismatch
              (.refused ("cannot parse '" ++ limit.timestamp ++ "' as a date")))) := by
  refine ⟨Instant.parseTimestamp?_timestamp_eq read, ?_, ?_⟩
  · intro plan saveable files path held
    exact load_saveable saveable held
  · intro frame minimums fits files path held
    rw [load_saveable (saveable_infer read fits) held]
    constructor
    · intro kept
      rw [refusal?_infer_eq_none kept]
    · intro column signed present
      rw [refusal?_infer_eq_some signed present]

/-- Where local time is an hour behind, the year 9999 ends in a year of five digits. -/
def lastHour : Instant := ⟨253402304399, 0⟩

def created : Frame := ⟨[⟨"createdAt", .text, []⟩]⟩

theorem load_saved_limits_lastHour :
    parseTimestamp? "9999-12-31T23:59:59-01:00" = some lastHour ∧
      parseTimestamp? lastHour.timestamp = none ∧
      load ⟨[(["plan.json"],
          .file (Utf8.encode (infer created ⟨some lastHour, []⟩).toJson.text.toList))]⟩ "plan.json" =
        .error (.invalid "plan.json" (.mismatch
          (.refused "cannot parse '+10000-01-01T00:59:59+00:00' as a date"))) := by
  have read : parseTimestamp? "9999-12-31T23:59:59-01:00" = some lastHour := by decide
  have signed : ¬ lastHour.HasPlainYear := by decide
  have shown : lastHour.timestamp = "+10000-01-01T00:59:59+00:00" := by decide
  obtain ⟨unread, -, inferred⟩ := load_saved_limits read
  rw [if_neg signed] at unread
  refine ⟨read, unread, ?_⟩
  rw [(inferred created [] nofun _ "plan.json" rfl).2 .createdAt signed (by decide), shown]
  decide

end Plan
end DatasetGate
