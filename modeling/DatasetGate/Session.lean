import DatasetGate.Check.Basic

/-!
# Sessions

A session runs checks one after another and keeps a record of all outcomes. The frame and the present
instant may change between checks; the record only grows until it is cleared.
-/

set_option autoImplicit false

namespace DatasetGate

open DatasetGate.Calendar

/-- A frame, the present instant, and the outcomes reported so far. -/
structure Session where
  frame : Frame
  now : Instant
  recorded : List Outcome

namespace Session

def start (frame : Frame) (now : Instant) : Session :=
  ⟨frame, now, []⟩

/-- Runs a check and records what it reported, also when it ends in an error. -/
def run (session : Session) (check : Check) : Verdict × Session :=
  let verdict := check.judge session.frame session.now
  (verdict, ⟨session.frame, session.now, session.recorded ++ verdict.outcomes⟩)

def messages (session : Session) : List String :=
  session.recorded.map Outcome.message

def clear (session : Session) : Session :=
  ⟨session.frame, session.now, []⟩

end Session
end DatasetGate
