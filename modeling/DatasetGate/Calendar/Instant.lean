import DatasetGate.Calendar.Date

/-!
# Instants

Points of universal time with nanoseconds. An instant within a leap second belongs to the second
before it and has more than a thousand million nanoseconds. Instants are ordered by seconds, then by
nanoseconds.
-/

set_option autoImplicit false

namespace DatasetGate.Calendar

open DatasetGate.Text

def nanosPerSecond : Nat := 1000000000

def secondsPerDay : Int := 86400

/-- A time of day. Within a leap second `second` is 60. -/
structure TimeOfDay where
  hour : Nat
  minute : Nat
  second : Nat
  nanos : Nat
  deriving DecidableEq, Repr

/-- A point of universal time: whole seconds from 1970-01-01T00:00:00 and nanoseconds. -/
structure Instant where
  seconds : Int
  nanos : Nat
  deriving DecidableEq, Repr

/-- The fraction of a second as text: none, or three, six or nine digits after a point. -/
def fractionText (nanos : Nat) : String :=
  if nanos = 0 then ""
  else if nanos % 1000000 = 0 then "." ++ zeroPadded 3 (nanos / 1000000)
  else if nanos % 1000 = 0 then "." ++ zeroPadded 6 (nanos / 1000)
  else "." ++ zeroPadded 9 nanos

def TimeOfDay.text (time : TimeOfDay) : String :=
  zeroPadded 2 time.hour ++ ":" ++ zeroPadded 2 time.minute ++ ":" ++ zeroPadded 2 time.second ++
    fractionText time.nanos

/-- The time of day at a second of the day. Nanoseconds from one second on show as a leap
second. -/
def TimeOfDay.ofSecond (second nanos : Nat) : TimeOfDay :=
  let leap := nanos / nanosPerSecond
  ⟨second / 3600, second / 60 % 60, second % 60 + leap, nanos % nanosPerSecond⟩

namespace Instant

def ofCivil (date : Date) (time : TimeOfDay) : Instant :=
  let leap := time.second / 60
  let second := 3600 * time.hour + 60 * time.minute + (time.second - leap)
  ⟨date.toDays * secondsPerDay + (second : Int), time.nanos + leap * nanosPerSecond⟩

def date (instant : Instant) : Date :=
  .ofDays (instant.seconds / secondsPerDay)

def time (instant : Instant) : TimeOfDay :=
  .ofSecond (instant.seconds % secondsPerDay).toNat instant.nanos

def AtMost (a b : Instant) : Prop :=
  a.seconds < b.seconds ∨ a.seconds = b.seconds ∧ a.nanos ≤ b.nanos

instance (a b : Instant) : Decidable (a.AtMost b) := by
  unfold AtMost; infer_instance

def timestamp (instant : Instant) : String :=
  instant.date.text ++ "T" ++ instant.time.text ++ "+00:00"

def display (instant : Instant) : String :=
  instant.date.text ++ " " ++ instant.time.text ++ " UTC"

end Instant
end DatasetGate.Calendar
