import DatasetGate.Check.Basic

/-!
# Plans

A plan is the list of checks to run on one dataset. A run judges them in order and stops at the first
one that ends in an error; the outcomes reported up to then are kept.
-/

set_option autoImplicit false

namespace DatasetGate

open DatasetGate.Calendar

structure Plan where
  checks : List Check
  deriving DecidableEq

structure PlanResult where
  results : List (Check × Bool)
  deriving DecidableEq

namespace PlanResult

def passed (result : PlanResult) : Bool :=
  result.results.all fun entry => entry.2

def failed (result : PlanResult) : List Check :=
  (result.results.filter fun entry => !entry.2).map (·.1)

end PlanResult

/-- A run: the checks that were judged with their verdicts. Only the last one may be an error. -/
abbrev Trace := List (Check × Verdict)

namespace Trace

def outcomes (trace : Trace) : List Outcome :=
  trace.flatMap fun (_, verdict) => verdict.outcomes

def results : Trace → Except CheckError (List (Check × Bool))
  | [] => .ok []
  | (check, verdict) :: rest =>
      match verdict.result with
      | .error error => .error error
      | .ok passed => (results rest).map ((check, passed) :: ·)

def result (trace : Trace) : Except CheckError PlanResult :=
  trace.results.map PlanResult.mk

end Trace

namespace Plan

def traceOf (frame : Frame) (now : Instant) : List Check → Trace
  | [] => []
  | check :: rest =>
      let verdict := check.judge frame now
      match verdict.result with
      | .ok _ => (check, verdict) :: traceOf frame now rest
      | .error _ => [(check, verdict)]

def run (plan : Plan) (frame : Frame) (now : Instant) : Trace :=
  traceOf frame now plan.checks

end Plan
end DatasetGate
