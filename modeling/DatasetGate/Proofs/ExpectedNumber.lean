import DatasetGate.Proofs.Dataset.NumberColumn
import DatasetGate.Proofs.Plan.ExpectedValue
import DatasetGate.Proofs.Verdicts

/-!
# Expected numbers

A plan that expects a number of a column, with the number spelled as it is in every row of the
column. Such a plan passes where the readers of plans and of datasets agree on the number. They agree
on whole numbers and on other numbers of few digits.
-/

set_option autoImplicit false

namespace DatasetGate

open DatasetGate.Calendar DatasetGate.Dataset DatasetGate.Json DatasetGate.Number DatasetGate.Text

namespace NumberLiteral

variable (literal : NumberLiteral)

/-- The reader of plans reads the literal as an expectation that is met by what the reader of
datasets reads. -/
def Agrees : Prop :=
  ∃ value expected, numberValue? literal.chars = some value ∧
    Expectation.ofJson? value = some expected ∧ expected.accepts literal.cell = true

variable {literal}

/-- The readers agree on whole numbers. -/
theorem agrees_of_nil (readable : literal.Readable) (integral : literal.fraction = []) :
    literal.Agrees := by
  have cell : literal.cell = .integer literal.value := if_pos integral
  rw [Agrees, cell]
  rcases literal.numberValue?_of_nil integral (readable integral) with read | ⟨zero, read⟩
  · refine ⟨_, .integer literal.value, read, ?_, beq_self_eq_true literal.value⟩
    simp only [Expectation.ofJson?, if_pos (readable integral)]
  · rw [zero]
    exact ⟨_, _, read, rfl, by decide⟩

/-- On another number they agree where their doubles are the same. -/
theorem agrees_iff_same (fractional : literal.fraction ≠ []) :
    literal.Agrees ↔ ∃ x, numberValue? literal.chars = some (.float x) ∧
      literal.numeral.toDouble.same x = true := by
  have cell : literal.cell = .float literal.numeral.toDouble := if_neg fractional
  rw [Agrees, cell]
  constructor
  · rintro ⟨value, expected, read, stated, accepted⟩
    obtain ⟨x, rfl⟩ := literal.exists_float_of_ne_nil fractional read
    cases stated
    exact ⟨x, read, accepted⟩
  · rintro ⟨x, read, same⟩
    exact ⟨.float x, .float x, read, rfl, same⟩

theorem same_ofRank_iff {negative : Bool} {a b : Nat} :
    (Double.ofRank negative a).same (.ofRank negative b) = true ↔
      Double.ofRank negative a = .ofRank negative b := by
  have place (r r' : Rank) : Double.place negative r = Double.place negative r' ↔ r = r' := by
    rw [← Subtype.val_inj]
    cases negative <;> simp [Double.place]
  simp only [Double.ofRank, Double.same, beq_iff_eq, place, Double.signed.injEq, true_and]

/-- Where the digits fit and the power of ten is not too great, one division is left: the readers
agree where it does not matter whether its operands are rounded first. -/
theorem agrees_iff_rounded (fractional : literal.fraction ≠ [])
    (small : literal.digits ≤ maxSignificand) (short : literal.places ≤ maxPower) :
    literal.Agrees ↔
      Double.ofQuotient literal.negative literal.digits (10 ^ literal.places) =
        .ofRank literal.negative (rankQuotient (Format.binary64.rank literal.digits 1)
          (powerOfTenRank literal.places)) := by
  rw [agrees_iff_same fractional, literal.numberValue?_of_ne_nil fractional small short,
    literal.toDouble_numeral, Double.ofQuotient, ← same_ofRank_iff]
  simp

/-- The readers agree on numbers of few digits. -/
theorem agrees_of_short (readable : literal.Readable) (small : literal.digits < 2 ^ 53)
    (short : literal.places ≤ 22) : literal.Agrees := by
  by_cases integral : literal.fraction = []
  · exact agrees_of_nil readable integral
  · have fits : literal.digits ≤ maxSignificand := small.le.trans (by decide)
    have once : rankQuotient (Format.binary64.rank literal.digits 1)
        (powerOfTenRank literal.places) =
          Format.binary64.rank literal.digits (10 ^ literal.places) :=
      rankQuotient_eq_rank (represents_rank small) (represents_powerOfTenRank short)
        (Nat.pow_pos (by decide))
    rw [agrees_iff_rounded integral fits (short.trans (by decide)), once, Double.ofQuotient]

end NumberLiteral

namespace Check

theorem judge_value_number {literal : NumberLiteral} {column : String} {count : Nat}
    (positive : 0 < count) (expected : Expectation) (now : Instant) :
    ((Check.value column expected).judge (numberFrame literal column count) now).result =
      .ok (expected.accepts literal.cell) := by
  have found : (numberFrame literal column count).column? column =
      some ⟨column, literal.columnType, List.replicate count literal.cell⟩ := by
    simp [Frame.column?, numberFrame]
  rw [judge, judgeValue_result found, List.all_replicate, if_neg positive.ne']

end Check

namespace Gate

/-- A run with such a plan has a result where the reader of plans reads the number, and the result
is that of its one check. -/
theorem run_expecting_eq_ok_iff {literal : NumberLiteral} {column : String}
    {rows : List (List UInt8)} {bytes : List UInt8} (table : NumberTable literal column rows bytes)
    {options : GateOptions} {files : Files} {planPath : String} {now : Instant}
    (found : files.find options.dataset = .ok (.file bytes))
    (small : bytes.length ≤ defaultLimit) (planned : options.plan = some planPath)
    (held : files.read planPath = .ok (Utf8.encode (Plan.expectingText column literal.chars)))
    (quiet : options.report = none) {result : GateResult} :
    (run options files now).result = .ok result ↔
      ∃ value expected, numberValue? literal.chars = some value ∧
        Expectation.ofJson? value = some expected ∧
        result = ⟨options.dataset, rows.length,
          ⟨[(.value column expected, expected.accepts literal.cell)]⟩,
          ((Plan.mk [.value column expected]).run (numberFrame literal column rows.length)
            now).outcomes, options.report⟩ := by
  have chosen (frame : Frame) : choosePlan options files frame = Plan.load files planPath := by
    rw [choosePlan, planned]
  have ran (expected : Expectation) :
      ((Plan.mk [.value column expected]).run (numberFrame literal column rows.length) now).result =
        .ok ⟨[(.value column expected, expected.accepts literal.cell)]⟩ :=
    Plan.run_single
      (Check.judge_value_number (List.length_pos_of_ne_nil table.nonempty) expected now)
  rw [run_result_eq_ok_iff quiet]
  simp only [load_number table found small, chosen, Plan.load_expectingText literal.readsAs_chars held]
  constructor
  · rintro ⟨_, _, judged, loaded, ⟨value, expected, read, stated, rfl⟩, finished, rfl⟩
    cases loaded
    rw [ran] at finished
    cases finished
    exact ⟨value, expected, read, stated, by simp [Frame.height, numberFrame]⟩
  · rintro ⟨value, expected, read, stated, rfl⟩
    refine ⟨_, _, _, rfl, ⟨value, expected, read, stated, rfl⟩, ran expected, ?_⟩
    simp [Frame.height, numberFrame]

/-- Where a column holds one number in every row, a plan that expects the number of the column
passes exactly when the two readers agree on it. They agree on every whole number, on numbers of up
to fifty-three bits of digits with up to twenty-two of them behind the point, and on numbers of up
to sixty-four bits where the rounding of their digits does not carry over to their quotient. -/
theorem run_expected_number {literal : NumberLiteral} {column : String} {rows : List (List UInt8)}
    {bytes : List UInt8} (table : NumberTable literal column rows bytes) {options : GateOptions}
    {files : Files} {planPath : String} (now : Instant)
    (found : files.find options.dataset = .ok (.file bytes))
    (small : bytes.length ≤ defaultLimit) (planned : options.plan = some planPath)
    (held : files.read planPath = .ok (Utf8.encode (Plan.expectingText column literal.chars)))
    (quiet : options.report = none) :
    (∀ result, (run options files now).result = .ok result →
      result.records = rows.length ∧
        ∃ expected, result.plan.results = [(.value column expected, result.passed)]) ∧
    ((∃ result, (run options files now).result = .ok result ∧ result.passed = true) ↔
      literal.Agrees) ∧
    (literal.fraction = [] ∨ literal.digits < 2 ^ 53 ∧ literal.places ≤ 22 → literal.Agrees) ∧
    (literal.fraction ≠ [] → literal.digits ≤ maxSignificand → literal.places ≤ maxPower →
      (literal.Agrees ↔ Double.ofQuotient literal.negative literal.digits (10 ^ literal.places) =
        .ofRank literal.negative (rankQuotient (Format.binary64.rank literal.digits 1)
          (powerOfTenRank literal.places)))) := by
  simp only [run_expecting_eq_ok_iff table found small planned held quiet]
  refine ⟨?_, ?_, ?_, NumberLiteral.agrees_iff_rounded⟩
  · rintro _ ⟨value, expected, read, stated, rfl⟩
    exact ⟨rfl, expected, by simp [GateResult.passed, PlanResult.passed]⟩
  · constructor
    · rintro ⟨_, ⟨value, expected, read, stated, rfl⟩, passed⟩
      exact ⟨value, expected, read, stated, by
        simpa [GateResult.passed, PlanResult.passed] using passed⟩
    · rintro ⟨value, expected, read, stated, accepted⟩
      exact ⟨_, ⟨value, expected, read, stated, rfl⟩, by
        simpa [GateResult.passed, PlanResult.passed] using accepted⟩
  · rintro (integral | ⟨few, short⟩)
    · exact NumberLiteral.agrees_of_nil table.readable integral
    · exact NumberLiteral.agrees_of_short table.readable few short

def fourAndHalf : NumberLiteral where
  negative := false
  whole := ['4']
  fraction := ['5']
  wholeDigits := List.all_eq_true.mp (by decide)
  fractionDigits := List.all_eq_true.mp (by decide)
  nonempty := by decide
  unpadded := by decide

/-- The first natural number that is no double, with a point. -/
def firstSkipped : NumberLiteral where
  negative := false
  whole := "9007199254740993".toList
  fraction := ['0']
  wholeDigits := List.all_eq_true.mp (by decide)
  fractionDigits := List.all_eq_true.mp (by decide)
  nonempty := by decide
  unpadded := by decide

/-- A dataset of one column with a number in two rows, and a plan that expects the number of it. -/
def starsFiles (literal : NumberLiteral) : Files :=
  ⟨[(["d.csv"], .file (Utf8.encode
      (tableText [("stars", fun _ => String.ofList literal.chars)] [(), ()] true))),
    (["p.json"], .file (Utf8.encode (Plan.expectingText "stars" literal.chars)))]⟩

def starsOptions : GateOptions :=
  ⟨"d.csv", some "p.json", .none, none⟩

theorem starsTable {literal : NumberLiteral} (fractional : literal.fraction ≠ []) :
    NumberTable literal "stars" [Utf8.encode literal.chars, Utf8.encode literal.chars]
      (Utf8.encode (tableText [("stars", fun _ => String.ofList literal.chars)] [(), ()] true)) :=
  numberTable_tableText (List.cons_ne_nil () [()]) (fun integral => absurd integral fractional)
    ⟨by simp, by simp [PlainChar], by simp [isIndent]⟩ (by simp) (by decide) true

/-- Doubles skip a number that is written with a point, and its column does not hold it. -/
theorem run_expected_number_stars :
    (∃ result, (run starsOptions (starsFiles fourAndHalf) ⟨0, 0⟩).result = .ok result ∧
      result.passed = true) ∧
    ¬ ∃ result, (run starsOptions (starsFiles firstSkipped) ⟨0, 0⟩).result = .ok result ∧
      result.passed = true := by
  have data (literal : NumberLiteral) : (starsFiles literal).find starsOptions.dataset =
      .ok (.file (Utf8.encode
        (tableText [("stars", fun _ => String.ofList literal.chars)] [(), ()] true))) := rfl
  have plan (literal : NumberLiteral) : (starsFiles literal).read "p.json" =
      .ok (Utf8.encode (Plan.expectingText "stars" literal.chars)) := rfl
  constructor
  · have table := starsTable (show fourAndHalf.fraction ≠ [] by decide)
    obtain ⟨-, passes, agrees, -⟩ :=
      run_expected_number table ⟨0, 0⟩ (data fourAndHalf) (by decide +kernel) rfl (plan fourAndHalf)
        rfl
    exact passes.mpr (agrees (.inr (by decide)))
  · have table := starsTable (show firstSkipped.fraction ≠ [] by decide)
    obtain ⟨-, passes, -, rounded⟩ :=
      run_expected_number table ⟨0, 0⟩ (data firstSkipped) (by decide +kernel) rfl
        (plan firstSkipped) rfl
    rw [passes, rounded (by decide) (by decide) (by decide)]
    decide +kernel

end Gate
end DatasetGate
