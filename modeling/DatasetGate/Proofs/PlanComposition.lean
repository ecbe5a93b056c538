import DatasetGate.Proofs.PlanRun
import DatasetGate.Session

/-!
# Composing plans

A plan run in a session records what its checks report and hands nothing from one check to the next.
So plans compose, the order of their checks does not matter for what each of them finds, and an
error cuts a run off right behind the check that met it.
-/

set_option autoImplicit false

namespace DatasetGate

open DatasetGate.Calendar

/-- The checks of one plan and then those of another. -/
def Plan.append (plan other : Plan) : Plan :=
  ⟨plan.checks ++ other.checks⟩

namespace Session

/-- Runs checks in a session, one after another. The first error ends the run, and what was recorded
up to there stays. -/
def runChecks : Session → List Check → Except CheckError (List (Check × Bool)) × Session
  | session, [] => (.ok [], session)
  | session, check :: rest =>
      let ran := session.run check
      match ran.1.result with
      | .error error => (.error error, ran.2)
      | .ok passed =>
          let later := ran.2.runChecks rest
          (later.1.map ((check, passed) :: ·), later.2)

def runPlan (session : Session) (plan : Plan) : Except CheckError PlanResult × Session :=
  let ran := session.runChecks plan.checks
  (ran.1.map PlanResult.mk, ran.2)

theorem runChecks_eq (session : Session) (checks : List Check) :
    session.runChecks checks =
      ((Plan.traceOf session.frame session.now checks).results,
        ⟨session.frame, session.now,
          session.recorded ++ (Plan.traceOf session.frame session.now checks).outcomes⟩) := by
  induction checks generalizing session with
  | nil => simp [runChecks, Plan.traceOf, Trace.results, Trace.outcomes]
  | cons check rest ih =>
      cases judged : (check.judge session.frame session.now).result with
      | error error =>
          simp [runChecks, run, Plan.traceOf, Trace.results, Trace.outcomes, judged]
      | ok passed =>
          simp [runChecks, run, Plan.traceOf, Trace.results, Trace.outcomes, judged, ih]

/-- The state that a session carries from check to check is its record alone, and a run only adds to
it what its trace holds. -/
theorem runPlan_eq (session : Session) (plan : Plan) :
    session.runPlan plan =
      ((plan.run session.frame session.now).result,
        ⟨session.frame, session.now,
          session.recorded ++ (plan.run session.frame session.now).outcomes⟩) := by
  rw [runPlan, runChecks_eq]
  rfl

end Session

namespace Plan

variable {frame : Frame} {now : Instant}

/-- A check ends without an error. -/
def Judged (frame : Frame) (now : Instant) (check : Check) : Prop :=
  ∃ passed, (check.judge frame now).result = .ok passed

theorem exists_result_iff {plan : Plan} :
    (∃ result, (plan.run frame now).result = .ok result) ↔
      ∀ check ∈ plan.checks, Judged frame now check :=
  ⟨fun ⟨_, finished⟩ _ member => exists_judged finished member, exists_result⟩

theorem exists_error_iff {plan : Plan} :
    (∃ error, (plan.run frame now).result = .error error) ↔
      ¬ ∀ check ∈ plan.checks, Judged frame now check := by
  rw [← exists_result_iff]
  cases (plan.run frame now).result <;> simp

theorem traceOf_append (earlier later : List Check)
    (judged : ∀ check ∈ earlier, Judged frame now check) :
    traceOf frame now (earlier ++ later) =
      earlier.map (fun check => (check, check.judge frame now)) ++ traceOf frame now later := by
  induction earlier with
  | nil => rfl
  | cons check rest ih =>
      rw [List.forall_mem_cons] at judged
      obtain ⟨passed, own⟩ := judged.1
      simp only [List.cons_append, traceOf, own, List.map_cons, ih judged.2]

/-- The trace of a run without an error has every check with its own verdict. -/
theorem run_eq_map {plan : Plan} (judged : ∀ check ∈ plan.checks, Judged frame now check) :
    plan.run frame now = plan.checks.map fun check => (check, check.judge frame now) := by
  have whole : traceOf frame now (plan.checks ++ []) =
      plan.checks.map (fun check => (check, check.judge frame now)) ++ traceOf frame now [] :=
    traceOf_append plan.checks [] judged
  simpa [run, traceOf] using whole

/-- An error comes from the first check that ends in one, and the trace stops there. -/
theorem traceOf_results_eq_error {checks : List Check} {error : CheckError}
    (failed : (traceOf frame now checks).results = .error error) :
    ∃ earlier check later, checks = earlier ++ check :: later ∧
      (∀ before ∈ earlier, Judged frame now before) ∧
      (check.judge frame now).result = .error error ∧
      traceOf frame now checks =
        (earlier ++ [check]).map fun before => (before, before.judge frame now) := by
  induction checks with
  | nil => simp [traceOf, Trace.results] at failed
  | cons check rest ih =>
      cases own : (check.judge frame now).result with
      | error met =>
          simp only [traceOf, own, Trace.results, Except.error.injEq] at failed
          subst failed
          exact ⟨[], check, rest, rfl, by simp, own, by simp [traceOf, own]⟩
      | ok passed =>
          have later : (traceOf frame now rest).results = .error error := by
            cases found : (traceOf frame now rest).results with
            | error met => simpa [traceOf, own, Trace.results, found, Except.map] using failed
            | ok results => simp [traceOf, own, Trace.results, found, Except.map] at failed
          obtain ⟨earlier, met, behind, rfl, judged, metError, shape⟩ := ih later
          refine ⟨check :: earlier, met, behind, rfl, ?_, metError, ?_⟩
          · rw [List.forall_mem_cons]
            exact ⟨⟨passed, own⟩, judged⟩
          · simp [traceOf, own, shape]

/-- A run ends in the error of a check exactly when all checks before that one end without. -/
theorem run_result_eq_error_iff {plan : Plan} {error : CheckError} :
    (plan.run frame now).result = .error error ↔
      ∃ earlier check later, plan.checks = earlier ++ check :: later ∧
        (∀ before ∈ earlier, Judged frame now before) ∧
        (check.judge frame now).result = .error error := by
  have unwrapped : (plan.run frame now).result = .error error ↔
      (traceOf frame now plan.checks).results = .error error := by
    rw [run, Trace.result]
    cases (traceOf frame now plan.checks).results <;> simp [Except.map]
  rw [unwrapped]
  constructor
  · intro failed
    obtain ⟨earlier, check, later, split, judged, met, -⟩ := traceOf_results_eq_error failed
    exact ⟨earlier, check, later, split, judged, met⟩
  · rintro ⟨earlier, check, later, split, judged, met⟩
    rw [split]
    clear split unwrapped
    induction earlier with
    | nil => simp [traceOf, met, Trace.results]
    | cons before rest ih =>
        rw [List.forall_mem_cons] at judged
        obtain ⟨passed, own⟩ := judged.1
        simp [traceOf, own, Trace.results, ih judged.2, Except.map]

end Plan

namespace Session

variable {session : Session} {plan : Plan}

/-- A check with its result, where it ends without an error. -/
def entryOf (session : Session) (check : Check) : Check × Bool :=
  match (session.run check).1.result with
  | .ok passed => (check, passed)
  | .error _ => (check, false)

/-- What a check records when nothing has been recorded yet. -/
def blockOf (session : Session) (check : Check) : List Outcome :=
  (session.clear.run check).2.recorded

theorem entryOf_fst (session : Session) (check : Check) : (session.entryOf check).1 = check := by
  rw [entryOf]
  split <;> rfl

/-- Where every check ends without an error, a run gives each check its own result, and records the
block of each check behind what was there before. -/
theorem runPlan_of_judged
    (judged : ∀ check ∈ plan.checks, Plan.Judged session.frame session.now check) :
    session.runPlan plan =
      (.ok ⟨plan.checks.map session.entryOf⟩,
        ⟨session.frame, session.now, session.recorded ++ plan.checks.flatMap session.blockOf⟩) := by
  have results : (plan.run session.frame session.now).result =
      .ok ⟨plan.checks.map session.entryOf⟩ := by
    refine Plan.run_result_eq_ok_iff.mpr ⟨?_, ?_⟩
    · simp [Function.comp_def, entryOf_fst]
    · intro entry member
      obtain ⟨check, checkMember, rfl⟩ := List.mem_map.mp member
      obtain ⟨passed, own⟩ := judged check checkMember
      have ran : (session.run check).1.result = .ok passed := own
      simp [entryOf, ran, own]
  have outcomes : (plan.run session.frame session.now).outcomes =
      plan.checks.flatMap session.blockOf := by
    rw [Plan.run_eq_map judged, Trace.outcomes, List.flatMap_map]
    rfl
  rw [runPlan_eq, results, outcomes]

theorem exists_runPlan_ok_iff :
    (∃ result, (session.runPlan plan).1 = .ok result) ↔
      ∀ check ∈ plan.checks, Plan.Judged session.frame session.now check := by
  rw [runPlan_eq]
  exact Plan.exists_result_iff

theorem exists_runPlan_error_iff :
    (∃ error, (session.runPlan plan).1 = .error error) ↔
      ¬ ∀ check ∈ plan.checks, Plan.Judged session.frame session.now check := by
  rw [runPlan_eq]
  exact Plan.exists_error_iff

theorem judged_append_iff {other : Plan} :
    (∀ check ∈ (plan.append other).checks, Plan.Judged session.frame session.now check) ↔
      (∀ check ∈ plan.checks, Plan.Judged session.frame session.now check) ∧
        ∀ check ∈ other.checks, Plan.Judged session.frame session.now check :=
  List.forall_mem_append

theorem judged_perm_iff {permuted : Plan} (order : permuted.checks.Perm plan.checks) :
    (∀ check ∈ permuted.checks, Plan.Judged session.frame session.now check) ↔
      ∀ check ∈ plan.checks, Plan.Judged session.frame session.now check := by
  simp only [order.mem_iff]

theorem passed_perm {checks permuted : List Check} (order : permuted.Perm checks) :
    (PlanResult.mk (permuted.map session.entryOf)).passed =
      (PlanResult.mk (checks.map session.entryOf)).passed :=
  (order.map session.entryOf).all_eq

/-- An error is that of the first check that ends in one. The record then holds what the checks
before it record, and what that check records before it fails. -/
theorem runPlan_eq_error {error : CheckError} (failed : (session.runPlan plan).1 = .error error) :
    ∃ earlier check later, plan.checks = earlier ++ check :: later ∧
      (∃ result, (session.runPlan ⟨earlier⟩).1 = .ok result) ∧
      (session.run check).1.result = .error error ∧
      (session.runPlan plan).2.recorded =
        session.recorded ++ (earlier.flatMap session.blockOf ++ session.blockOf check) := by
  have results : (Plan.traceOf session.frame session.now plan.checks).results = .error error := by
    rw [runPlan_eq, Plan.run, Trace.result] at failed
    cases found : (Plan.traceOf session.frame session.now plan.checks).results with
    | error met => simpa [found, Except.map] using failed
    | ok results => simp [found, Except.map] at failed
  obtain ⟨earlier, check, later, split, judged, met, trace⟩ := Plan.traceOf_results_eq_error results
  refine ⟨earlier, check, later, split, exists_runPlan_ok_iff.mpr judged, met, ?_⟩
  rw [runPlan_eq, Plan.run, trace, Trace.outcomes, List.flatMap_map, List.flatMap_append,
    List.flatMap_singleton]
  rfl

/-- Plans compose: a plan behind another one runs as it would alone. The order of checks changes no
check's result and no check's block of outcomes. An error cuts the run off behind the first check
that ends in one. None of this hangs on what was recorded before. -/
theorem runPlan_compositional (session : Session) (plan other : Plan) :
    (∀ any : Plan, session.runPlan any =
      ((any.run session.frame session.now).result,
        ⟨session.frame, session.now,
          session.recorded ++ (any.run session.frame session.now).outcomes⟩)) ∧
    ((∃ result, (session.runPlan (plan.append other)).1 = .ok result) ↔
      (∃ first, (session.runPlan plan).1 = .ok first) ∧
        ∃ second, (session.runPlan other).1 = .ok second) ∧
    (∀ first second, (session.runPlan plan).1 = .ok first →
      (session.runPlan other).1 = .ok second →
        (session.runPlan (plan.append other)).1 = .ok ⟨first.results ++ second.results⟩ ∧
        (session.runPlan (plan.append other)).2.recorded =
          session.recorded ++ ((session.clear.runPlan plan).2.recorded ++
            (session.clear.runPlan other).2.recorded)) ∧
    (∀ permuted : Plan, permuted.checks.Perm plan.checks →
      ((∃ error, (session.runPlan permuted).1 = .error error) ↔
        ∃ error, (session.runPlan plan).1 = .error error) ∧
      ∀ result, (session.runPlan plan).1 = .ok result →
        result.results = plan.checks.map session.entryOf ∧
        (session.runPlan plan).2.recorded =
          session.recorded ++ plan.checks.flatMap session.blockOf ∧
        ∃ reordered, (session.runPlan permuted).1 = .ok reordered ∧
          reordered.results = permuted.checks.map session.entryOf ∧
          (session.runPlan permuted).2.recorded =
            session.recorded ++ permuted.checks.flatMap session.blockOf ∧
          reordered.passed = result.passed) ∧
    ∀ error, (session.runPlan plan).1 = .error error →
      ∃ earlier check later, plan.checks = earlier ++ check :: later ∧
        (∃ result, (session.runPlan ⟨earlier⟩).1 = .ok result) ∧
        (session.run check).1.result = .error error ∧
        (session.runPlan plan).2.recorded =
          session.recorded ++ (earlier.flatMap session.blockOf ++ session.blockOf check) := by
  refine ⟨runPlan_eq session, ?_, ?_, ?_, fun error => runPlan_eq_error⟩
  · simp only [exists_runPlan_ok_iff, judged_append_iff]
  · intro first second firstRan secondRan
    have firstJudged := exists_runPlan_ok_iff.mp ⟨first, firstRan⟩
    have secondJudged := exists_runPlan_ok_iff.mp ⟨second, secondRan⟩
    have firstAlone := @runPlan_of_judged session.clear plan firstJudged
    have secondAlone := @runPlan_of_judged session.clear other secondJudged
    rw [runPlan_of_judged firstJudged] at firstRan
    rw [runPlan_of_judged secondJudged] at secondRan
    cases firstRan
    cases secondRan
    rw [runPlan_of_judged (judged_append_iff.mpr ⟨firstJudged, secondJudged⟩), firstAlone,
      secondAlone]
    refine ⟨?_, ?_⟩
    · rw [← List.map_append]
      rfl
    · dsimp only [Plan.append, clear]
      rw [List.flatMap_append]
      rfl
  · intro permuted order
    refine ⟨?_, ?_⟩
    · simp only [exists_runPlan_error_iff, judged_perm_iff order]
    · intro result ran
      have judged := exists_runPlan_ok_iff.mp ⟨result, ran⟩
      rw [runPlan_of_judged judged] at ran ⊢
      cases ran
      rw [runPlan_of_judged ((judged_perm_iff order).mpr judged)]
      exact ⟨rfl, rfl, _, rfl, rfl, rfl, passed_perm order⟩

/-- Stars of two repositories, the second without a path, in a session that has recorded a failure.
-/
def starSession : Session :=
  ⟨⟨[⟨"baseRepo", .text, [.text "octo/cat", .null]⟩,
      ⟨"stars", .integer .signed64, [.integer 5, .integer 7]⟩]⟩,
    ⟨0, 0⟩, [.ofRows .scheme "url" "Records have right scheme" [3]]⟩

def starPlan : Plan :=
  ⟨[.limitNum .stars 6, .repoNameFormat .baseRepo]⟩

def refusedPlan : Plan :=
  ⟨[.value "stars" (.integer 5), .repoName .headRepo, .limitNum .stars 6]⟩

theorem runPlan_compositional_stars :
    (starSession.runPlan (starPlan.append starPlan)).1 =
      .ok ⟨[(.limitNum .stars 6, false), (.repoNameFormat .baseRepo, false),
        (.limitNum .stars 6, false), (.repoNameFormat .baseRepo, false)]⟩ ∧
    (∃ reordered, (starSession.runPlan ⟨starPlan.checks.reverse⟩).1 = .ok reordered ∧
      reordered.passed = false) ∧
    ∃ earlier check later, refusedPlan.checks = earlier ++ check :: later ∧
      (starSession.run check).1.result =
        .error (.invalidSelector (Check.refusedRepoName .headRepo)) := by
  have laws := runPlan_compositional starSession starPlan starPlan
  have ran : (starSession.runPlan starPlan).1 =
      .ok ⟨[(.limitNum .stars 6, false), (.repoNameFormat .baseRepo, false)]⟩ := rfl
  refine ⟨(laws.2.2.1 _ _ ran ran).1, ?_, ?_⟩
  · obtain ⟨-, -, reordered, reorderedRan, -, -, passed⟩ :=
      (laws.2.2.2.1 ⟨starPlan.checks.reverse⟩ (List.reverse_perm _)).2 _ ran
    exact ⟨reordered, reorderedRan, passed⟩
  · obtain ⟨earlier, check, later, split, -, met, -⟩ :=
      (runPlan_compositional starSession refusedPlan starPlan).2.2.2.2
        (.invalidSelector (Check.refusedRepoName .headRepo)) rfl
    exact ⟨earlier, check, later, split, met⟩

end Session
end DatasetGate
