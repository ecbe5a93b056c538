import DatasetGate.Proofs.Judgements
import DatasetGate.Session

/-!
# The record of a session

A session runs checks one after another, each at its own frame and instant. What a step adds to the
record is fixed by its check and its result, and the record holds nothing else.
-/

set_option autoImplicit false

namespace DatasetGate

open DatasetGate.Calendar

/-- An outcome lists rows of a frame of the given height in order, and tells whether there are any. -/
structure Outcome.Sound (height : Nat) (outcome : Outcome) : Prop where
  increasing : outcome.failedRows.Pairwise (· < ·)
  bounded : ∀ row ∈ outcome.failedRows, row < height
  passed_iff : outcome.passed = true ↔ outcome.failedRows = []
  message : ∃ label, outcome.message = label ++ if outcome.passed then ": true" else ": false"

/-- The predicates that a complete run of a check reports, in order. -/
def Check.kinds : Check → List CheckKind
  | .urls _ => [.scheme, .authority, .path]
  | .date _ => [.dateFormat]
  | .limitDate _ _ => [.lowerBound, .upperBound]
  | .limitNum _ _ => [.threshold]
  | .repoName _ => [.repoName]
  | .repoNameFormat _ => [.repoNameFormat]
  | .value _ _ => [.value]

/-- The check judges an address column that can be read, but its owners or its names are missing. -/
def Check.Unpaired (frame : Frame) : Check → Prop
  | .urls column =>
      (∃ addresses, frame.column? column.name = some addresses ∧
        addresses.type.isTextual = true) ∧
      (frame.column? column.ownerColumn = none ∨ frame.column? column.nameColumn = none)
  | _ => False

namespace Session

/-- One step of a session: a check, and the frame and the instant that it is judged at. -/
structure Step where
  frame : Frame
  now : Instant
  check : Check

/-- Turns to the frame and the instant of a step and runs its check. The record is carried over. -/
def advance (session : Session) (step : Step) : Verdict × Session :=
  Session.run ⟨step.frame, step.now, session.recorded⟩ step.check

/-- Runs steps in order, and keeps each with its verdict. -/
def replay : Session → List Step → List (Step × Verdict) × Session
  | session, [] => ([], session)
  | session, step :: rest =>
      let ran := session.advance step
      let later := ran.2.replay rest
      ((step, ran.1) :: later.1, later.2)

/-- What a verdict reports is what its step must add to the record. -/
structure Step.Answered (step : Step) (verdict : Verdict) : Prop where
  complete : ∀ passed, verdict.result = .ok passed →
    verdict.outcomes.map Outcome.kind = step.check.kinds ∧
      passed = verdict.outcomes.all Outcome.passed
  interrupted : ∀ error, verdict.result = .error error → step.check.Unpaired step.frame →
    verdict.outcomes.map Outcome.kind = [.scheme, .authority]
  refused : ∀ error, verdict.result = .error error → ¬ step.check.Unpaired step.frame →
    verdict.outcomes = []
  named : ∀ outcome ∈ verdict.outcomes, outcome.column = step.check.column
  sound : ∀ outcome ∈ verdict.outcomes, outcome.Sound step.frame.height

end Session

namespace Outcome

theorem sound_ofRows {frame : Frame} {condition : Nat → Bool} {rows : List Nat}
    (found : rows = frame.rowsWithout condition) (kind : CheckKind) (column label : String) :
    (Outcome.ofRows kind column label rows).Sound frame.height where
  increasing := found ▸ frame.rowsWithout_pairwise_lt condition
  bounded row member := by
    have failing : row ∈ frame.rowsWithout condition := found ▸ member
    exact (Frame.mem_rowsWithout.mp failing).1
  passed_iff := by simp [ofRows]
  message := by
    refine ⟨label, ?_⟩
    cases rows with
    | nil => exact String.append_assoc
    | cons row rest => exact String.append_assoc

end Outcome

namespace Check

theorem answered_failed (step : Session.Step) (paired : ¬ step.check.Unpaired step.frame)
    (error : CheckError) : step.Answered (.failed [] error) where
  complete := by simp [Verdict.failed]
  interrupted _ _ unpaired := absurd unpaired paired
  refused := by simp [Verdict.failed]
  named := by simp [Verdict.failed]
  sound := by simp [Verdict.failed]

/-- A check with one predicate reports one outcome or none. -/
theorem answered_ofRows (step : Session.Step) {kind : CheckKind} {label : String}
    {rows : Except CheckError (List Nat)} (kinds : step.check.kinds = [kind])
    (paired : ¬ step.check.Unpaired step.frame)
    (found : ∀ failing, rows = .ok failing →
      ∃ condition, failing = step.frame.rowsWithout condition) :
    step.Answered (Verdict.ofRows kind step.check.column label rows) := by
  cases rows with
  | error error => exact answered_failed step paired error
  | ok failing =>
      obtain ⟨condition, rowsEq⟩ := found failing rfl
      have sound := Outcome.sound_ofRows rowsEq kind step.check.column label
      exact {
        complete := by
          intro passed result
          simp only [Verdict.ofRows, Verdict.ofOutcomes, Except.ok.injEq] at result
          exact ⟨by simp [Verdict.ofRows, Verdict.ofOutcomes, Outcome.ofRows, kinds],
            result.symm⟩
        interrupted := by simp [Verdict.ofRows, Verdict.ofOutcomes]
        refused := by simp [Verdict.ofRows, Verdict.ofOutcomes]
        named := by simp [Verdict.ofRows, Verdict.ofOutcomes, Outcome.ofRows]
        sound := by simpa [Verdict.ofRows, Verdict.ofOutcomes] using sound }

theorem displayCells_eq_error {frame : Frame} {name : String} {error : CheckError}
    (failed : frame.displayCells name = .error error) : frame.column? name = none := by
  rw [Frame.displayCells] at failed
  cases found : frame.column? name with
  | none => rfl
  | some column => simp [Frame.column_eq_ok_iff.mpr found, Except.map] at failed

theorem repositoryPaths_eq_error {frame : Frame} {owner name : String} {error : CheckError}
    (failed : frame.repositoryPaths owner name = .error error) :
    frame.column? owner = none ∨ frame.column? name = none := by
  rw [Frame.repositoryPaths] at failed
  cases owners : frame.displayCells owner with
  | error error => exact .inl (displayCells_eq_error owners)
  | ok owners' =>
      cases names : frame.displayCells name with
      | error error => exact .inr (displayCells_eq_error names)
      | ok names' => simp [owners, names, Except.map] at failed

/-- The addresses of a column are read three times with one result, so only the pairing of owners and
names can fail after an outcome has been reported. -/
theorem answered_judgeUrls (frame : Frame) (now : Instant) (column : UrlColumn)
    (formed : frame.WellFormed) :
    Session.Step.Answered ⟨frame, now, .urls column⟩ (judgeUrls frame column) := by
  cases shown : frame.textCells column.name with
  | error error =>
      have unread : judgeUrls frame column = .failed [] error := by
        simp [judgeUrls, schemeFailures, shown, Except.map]
      have paired : ¬ Check.Unpaired frame (.urls column) := by
        rintro ⟨⟨addresses, found, textual⟩, _⟩
        have readable := Frame.textCells_eq_ok_iff.mpr ⟨addresses, found, textual, rfl⟩
        simp [shown] at readable
      rw [unread]
      exact answered_failed ⟨frame, now, .urls column⟩ paired error
  | ok cells =>
      obtain ⟨schemeRows, schemeFound⟩ : ∃ rows, schemeFailures frame column = .ok rows :=
        ⟨_, by rw [schemeFailures, shown]; rfl⟩
      obtain ⟨authorityRows, authorityFound⟩ :
          ∃ rows, authorityFailures frame column = .ok rows :=
        ⟨_, by rw [authorityFailures, shown]; rfl⟩
      have schemeSound := Outcome.sound_ofRows (schemeFailures_rows formed schemeFound) .scheme
        column.name "Records have right scheme"
      have authoritySound := Outcome.sound_ofRows (authorityFailures_rows formed authorityFound)
        .authority column.name "Records have right authority"
      cases pathFound : pathFailures frame column with
      | error error =>
          obtain ⟨addresses, found, textual, _⟩ := Frame.textCells_eq_ok_iff.mp shown
          have unpaired : Check.Unpaired frame (.urls column) := by
            refine ⟨⟨addresses, found, textual⟩, ?_⟩
            cases joined : frame.repositoryPaths column.ownerColumn column.nameColumn with
            | error error => exact repositoryPaths_eq_error joined
            | ok paths => simp [pathFailures, shown, joined, Except.map] at pathFound
          simp only [judgeUrls, schemeFound, authorityFound, pathFound, Verdict.failed]
          exact {
            complete := by simp
            interrupted := fun _ _ _ => rfl
            refused := fun _ _ paired => absurd unpaired paired
            named := by simp [Outcome.ofRows, Check.column]
            sound := by simp [schemeSound, authoritySound] }
      | ok pathRows =>
          have pathSound := Outcome.sound_ofRows (pathFailures_rows formed pathFound) .path
            column.name "Records have right path"
          simp only [judgeUrls, schemeFound, authorityFound, pathFound, Verdict.ofOutcomes]
          exact {
            complete := fun passed result => ⟨rfl, (Except.ok.inj result).symm⟩
            interrupted := by simp
            refused := by simp
            named := by simp [Outcome.ofRows, Check.column]
            sound := by simp [schemeSound, authoritySound, pathSound] }

theorem answered_judgeWindow (frame : Frame) (now limit : Instant) (column : DateColumn)
    (formed : frame.WellFormed) :
    Session.Step.Answered ⟨frame, now, .limitDate column limit⟩
      (judgeWindow frame now limit column) := by
  cases read : readInstants frame column with
  | error error =>
      simp only [judgeWindow, read]
      exact answered_failed ⟨frame, now, .limitDate column limit⟩ id error
  | ok instants =>
      have views := readInstants_views formed read
      have earlySound := Outcome.sound_ofRows
        (views.failingRows_eq fun _ instant => decide (limit.AtMost instant)) .lowerBound
        column.name ("Records appear after " ++ limit.display)
      have lateSound := Outcome.sound_ofRows
        (views.failingRows_eq fun _ instant => decide (instant.AtMost now)) .upperBound
        column.name ("Records appear before " ++ now.display)
      simp only [judgeWindow, read, Verdict.ofOutcomes]
      exact {
        complete := fun passed result => ⟨rfl, (Except.ok.inj result).symm⟩
        interrupted := by simp
        refused := by simp
        named := by simp [Outcome.ofRows, Check.column]
        sound := by simp [earlySound, lateSound] }

/-- Every check answers a step as its kind and its result demand, one case for each kind. -/
theorem answered_judge (frame : Frame) (now : Instant) (check : Check)
    (formed : frame.WellFormed) :
    Session.Step.Answered ⟨frame, now, check⟩ (check.judge frame now) := by
  cases check with
  | urls column => exact answered_judgeUrls frame now column formed
  | date column =>
      exact answered_ofRows ⟨frame, now, .date column⟩ rfl id
        fun _ found => ⟨_, dateFailures_rows formed found⟩
  | limitDate column limit => exact answered_judgeWindow frame now limit column formed
  | limitNum column limit =>
      exact answered_ofRows ⟨frame, now, .limitNum column limit⟩ rfl id
        fun _ found => ⟨_, limitFailures_rows formed found⟩
  | repoName column =>
      rw [judge, judgeRepoName]
      split
      · exact answered_ofRows ⟨frame, now, .repoName column⟩ rfl id
          fun _ found => ⟨_, repoNameFailures_rows formed found⟩
      · exact answered_failed ⟨frame, now, .repoName column⟩ id _
  | repoNameFormat column =>
      exact answered_ofRows ⟨frame, now, .repoNameFormat column⟩ rfl id
        fun _ found => ⟨_, repoNameFormatFailures_rows formed found⟩
  | value column expected =>
      exact answered_ofRows ⟨frame, now, .value column expected⟩ rfl id
        fun _ found => ⟨_, valueFailures_rows formed found⟩

end Check

namespace Session

theorem advance_recorded (session : Session) (step : Step) :
    (session.advance step).2.recorded =
      session.recorded ++ (session.advance step).1.outcomes :=
  rfl

theorem replay_recorded (session : Session) (steps : List Step) :
    (session.replay steps).2.recorded =
      session.recorded ++ (session.replay steps).1.flatMap fun entry => entry.2.outcomes := by
  induction steps generalizing session with
  | nil => simp [replay]
  | cons step rest ih =>
      simp only [replay, ih, advance_recorded, List.flatMap_cons, List.append_assoc]

theorem replay_append (session : Session) (earlier later : List Step) :
    (session.replay (earlier ++ later)).2 = ((session.replay earlier).2.replay later).2 := by
  induction earlier generalizing session with
  | nil => rfl
  | cons step rest ih => exact ih _

theorem replay_steps (session : Session) (steps : List Step) :
    (session.replay steps).1.map Prod.fst = steps := by
  induction steps generalizing session with
  | nil => rfl
  | cons step rest ih => simp [replay, ih]

theorem replay_answered (session : Session) (steps : List Step)
    (formed : ∀ step ∈ steps, step.frame.WellFormed) :
    ∀ entry ∈ (session.replay steps).1, entry.1.Answered entry.2 := by
  induction steps generalizing session with
  | nil => simp [replay]
  | cons step rest ih =>
      rw [List.forall_mem_cons] at formed
      simp only [replay, List.forall_mem_cons]
      exact ⟨Check.answered_judge step.frame step.now step.check formed.1, ih _ formed.2⟩

/-- However a session goes on, its record only grows at its end. The record is what the steps report,
step by step; every step reports what its check and its result demand, and every outcome that was not
there before is a sound one of the frame of some step. -/
theorem replay_record (session : Session) (steps : List Step)
    (formed : ∀ step ∈ steps, step.frame.WellFormed) :
    (∀ earlier later, steps = earlier ++ later →
      (session.replay earlier).2.recorded <+: (session.replay steps).2.recorded) ∧
    (session.replay steps).1.map Prod.fst = steps ∧
    (session.replay steps).2.recorded =
      session.recorded ++ (session.replay steps).1.flatMap (fun entry => entry.2.outcomes) ∧
    (∀ entry ∈ (session.replay steps).1, entry.1.Answered entry.2) ∧
    ∀ outcome ∈ (session.replay steps).2.recorded, outcome ∈ session.recorded ∨
      ∃ step ∈ steps, outcome.column = step.check.column ∧ outcome.Sound step.frame.height := by
  have recorded := replay_recorded session steps
  have answered := replay_answered session steps formed
  refine ⟨?_, replay_steps session steps, recorded, answered, ?_⟩
  · rintro earlier later rfl
    rw [replay_append, replay_recorded _ later]
    exact List.prefix_append _ _
  · intro outcome member
    rw [recorded, List.mem_append, List.mem_flatMap] at member
    rcases member with old | ⟨entry, reported, outcomeMember⟩
    · exact .inl old
    · have stepMember : entry.1 ∈ steps := by
        rw [← replay_steps session steps]
        exact List.mem_map_of_mem reported
      exact .inr ⟨entry.1, stepMember, (answered entry reported).named outcome outcomeMember,
        (answered entry reported).sound outcome outcomeMember⟩

/-- Addresses without owners, which end in an error after two outcomes, and then a column of numbers
in another frame. -/
def unpairedSteps : List Step :=
  [⟨⟨[⟨"url", .text, [.text "https://github.com/octo/cat", .null]⟩]⟩, ⟨0, 0⟩, .urls .url⟩,
   ⟨⟨[⟨"stars", .integer .signed64, [.integer 3, .null, .integer 12]⟩]⟩, ⟨1, 0⟩,
     .limitNum .stars 10⟩]

theorem unpairedSteps_formed : ∀ step ∈ unpairedSteps, step.frame.WellFormed := by
  intro step member
  simp only [unpairedSteps, List.mem_cons, List.not_mem_nil, or_false] at member
  rcases member with rfl | rfl
  · exact ⟨by simp [Frame.height], by simp [Frame.names], by simp [ColumnType.Holds]⟩
  · exact ⟨by simp [Frame.height], by simp [Frame.names],
      by simp [ColumnType.Holds, IntegerType.least, IntegerType.greatest]⟩

theorem replay_record_unpaired :
    (∀ step ∈ unpairedSteps, step.frame.WellFormed) ∧
    (∀ earlier later, unpairedSteps = earlier ++ later →
      ((start .empty ⟨0, 0⟩).replay earlier).2.recorded <+:
        ((start .empty ⟨0, 0⟩).replay unpairedSteps).2.recorded) ∧
    ((start .empty ⟨0, 0⟩).replay unpairedSteps).2.recorded.map Outcome.failedRows =
      [[1], [1], [0, 1]] ∧
    ∀ entry ∈ ((start .empty ⟨0, 0⟩).replay unpairedSteps).1, entry.1.Answered entry.2 :=
  have record := replay_record (start .empty ⟨0, 0⟩) unpairedSteps unpairedSteps_formed
  ⟨unpairedSteps_formed, record.1, by decide, record.2.2.2.1⟩

end Session
end DatasetGate
