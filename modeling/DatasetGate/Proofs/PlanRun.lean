import DatasetGate.Plan.Basic
import Mathlib

/-!
# Runs of plans

A run that ends without an error has judged every check of its plan, and its results are those of the
checks one by one.
-/

set_option autoImplicit false

namespace DatasetGate

open DatasetGate.Calendar

namespace Plan

theorem traceOf_results_eq_ok_iff {frame : Frame} {now : Instant} {checks : List Check}
    {results : List (Check × Bool)} :
    (traceOf frame now checks).results = .ok results ↔
      results.map Prod.fst = checks ∧
        ∀ entry ∈ results, (entry.1.judge frame now).result = .ok entry.2 := by
  induction checks generalizing results with
  | nil =>
      simp only [traceOf, Trace.results, Except.ok.injEq, List.map_eq_nil_iff]
      constructor
      · rintro rfl
        simp
      · exact fun ⟨empty, _⟩ => empty.symm
  | cons check rest ih =>
      cases judged : (check.judge frame now).result with
      | error error =>
          simp only [traceOf, judged, Trace.results]
          constructor
          · simp
          · rintro ⟨shape, correct⟩
            obtain ⟨entry, later, rfl, rfl, -⟩ := List.map_eq_cons_iff.mp shape
            simpa [judged] using correct entry List.mem_cons_self
      | ok passed =>
          simp only [traceOf, judged, Trace.results]
          constructor
          · intro result
            cases later : (traceOf frame now rest).results with
            | error error => simp [later, Except.map] at result
            | ok entries =>
                simp only [later, Except.map, Except.ok.injEq] at result
                subst result
                obtain ⟨shape, correct⟩ := ih.mp later
                refine ⟨by simp [shape], ?_⟩
                simpa [judged] using correct
          · rintro ⟨shape, correct⟩
            obtain ⟨entry, later, rfl, rfl, laterShape⟩ := List.map_eq_cons_iff.mp shape
            rw [List.forall_mem_cons, judged, Except.ok.injEq] at correct
            rw [ih.mpr ⟨laterShape, correct.2⟩, correct.1]
            rfl

theorem run_result_eq_ok_iff {plan : Plan} {frame : Frame} {now : Instant}
    {result : PlanResult} :
    (plan.run frame now).result = .ok result ↔
      result.results.map Prod.fst = plan.checks ∧
        ∀ entry ∈ result.results, (entry.1.judge frame now).result = .ok entry.2 := by
  rw [← traceOf_results_eq_ok_iff]
  cases result with
  | mk results =>
      rw [run, Trace.result]
      cases (traceOf frame now plan.checks).results <;> simp [Except.map]

theorem run_one (check : Check) (frame : Frame) (now : Instant) :
    (Plan.mk [check]).run frame now = [(check, check.judge frame now)] := by
  rw [run, traceOf, traceOf]
  cases (check.judge frame now).result <;> rfl

theorem run_single {frame : Frame} {now : Instant} {check : Check} {passed : Bool}
    (judged : (check.judge frame now).result = .ok passed) :
    ((Plan.mk [check]).run frame now).result = .ok ⟨[(check, passed)]⟩ := by
  rw [run_one, Trace.result, Trace.results, judged]
  rfl

/-- Every check of a complete run has a result. -/
theorem exists_judged {plan : Plan} {frame : Frame} {now : Instant} {result : PlanResult}
    (finished : (plan.run frame now).result = .ok result) {check : Check}
    (member : check ∈ plan.checks) : ∃ passed, (check.judge frame now).result = .ok passed := by
  obtain ⟨shape, correct⟩ := run_result_eq_ok_iff.mp finished
  rw [← shape, List.mem_map] at member
  obtain ⟨entry, entryMember, rfl⟩ := member
  exact ⟨entry.2, correct entry entryMember⟩

/-- A plan runs to its end if each of its checks does. -/
theorem exists_result {plan : Plan} {frame : Frame} {now : Instant}
    (judged : ∀ check ∈ plan.checks, ∃ passed, (check.judge frame now).result = .ok passed) :
    ∃ result, (plan.run frame now).result = .ok result := by
  obtain ⟨results, shape, correct⟩ : ∃ results : List (Check × Bool),
      results.map Prod.fst = plan.checks ∧
        ∀ entry ∈ results, (entry.1.judge frame now).result = .ok entry.2 := by
    generalize plan.checks = checks at judged
    induction checks with
    | nil => exact ⟨[], rfl, by simp⟩
    | cons check rest rest_ih =>
        rw [List.forall_mem_cons] at judged
        obtain ⟨passed, first⟩ := judged.1
        obtain ⟨results, shape, correct⟩ := rest_ih judged.2
        exact ⟨(check, passed) :: results, by simp [shape], by simpa [first] using correct⟩
  exact ⟨⟨results⟩, run_result_eq_ok_iff.mpr ⟨shape, correct⟩⟩

theorem passed_iff_of_run {plan : Plan} {frame : Frame} {now : Instant} {result : PlanResult}
    (finished : (plan.run frame now).result = .ok result) :
    result.passed = true ↔ ∀ check ∈ plan.checks, (check.judge frame now).result = .ok true := by
  obtain ⟨shape, correct⟩ := run_result_eq_ok_iff.mp finished
  rw [PlanResult.passed, List.all_eq_true, ← shape]
  constructor
  · intro passed check member
    obtain ⟨entry, entryMember, rfl⟩ := List.mem_map.mp member
    rw [correct entry entryMember, passed entry entryMember]
  · intro judged entry member
    have own := judged entry.1 (List.mem_map_of_mem member)
    rw [correct entry member] at own
    exact Except.ok.inj own

end Plan
end DatasetGate
