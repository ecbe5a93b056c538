import DatasetGate.Calendar.Timestamp
import DatasetGate.Proofs.Calendar.DayCount
import DatasetGate.Proofs.Text.Digits

/-!
# Instants that can be read

What every reader of timestamps returns: fewer nanoseconds than two seconds have, and more than one
second has only at the end of a minute. Such an instant is the one of its own date and time of day.
-/

set_option autoImplicit false

namespace DatasetGate.Calendar

open DatasetGate.Text

/-- An instant that a date and a time of day can have. -/
structure Instant.WellFormed (instant : Instant) : Prop where
  nanos_lt : instant.nanos < 2 * nanosPerSecond
  leap : nanosPerSecond ≤ instant.nanos → instant.seconds % 60 = 59

/-- A time of day whose fields are in range. -/
structure TimeOfDay.InRange (time : TimeOfDay) : Prop where
  hour_le : time.hour ≤ 23
  minute_le : time.minute ≤ 59
  second_le : time.second ≤ 60
  nanos_lt : time.nanos < nanosPerSecond

theorem Instant.wellFormed_ofCivil (date : Date) {time : TimeOfDay} (ranged : time.InRange) :
    (ofCivil date time).WellFormed := by
  obtain ⟨hour, minute, second, nanos⟩ := ranged
  unfold nanosPerSecond at nanos
  constructor
  · simp only [ofCivil, nanosPerSecond]
    omega
  · simp only [ofCivil, nanosPerSecond, secondsPerDay]
    intro leap
    have last : time.second = 60 := by omega
    rw [last]
    omega

/-- Moving an instant by whole minutes leaves a leap second at the end of a minute. -/
theorem Instant.WellFormed.shift {instant : Instant} (formed : instant.WellFormed) {east : Int}
    (minutes : east % 60 = 0) : WellFormed ⟨instant.seconds - east, instant.nanos⟩ := by
  refine ⟨formed.nanos_lt, ?_⟩
  intro leap
  have last := formed.leap leap
  dsimp only
  omega

theorem Instant.WellFormed.time_inRange {instant : Instant} (formed : instant.WellFormed) :
    instant.time.InRange := by
  obtain ⟨nanos, leap⟩ := formed
  unfold nanosPerSecond at nanos leap
  constructor
  all_goals simp only [time, TimeOfDay.ofSecond, nanosPerSecond, secondsPerDay]
  all_goals omega

theorem Instant.WellFormed.ofCivil_eq {instant : Instant} (formed : instant.WellFormed) :
    ofCivil instant.date instant.time = instant := by
  obtain ⟨seconds, nanos⟩ := instant
  obtain ⟨nanos_lt, leap⟩ := formed
  simp only [nanosPerSecond] at nanos_lt leap
  simp only [ofCivil, date, time, Date.toDays_ofDays, TimeOfDay.ofSecond, nanosPerSecond,
    secondsPerDay, Instant.mk.injEq]
  constructor
  · omega
  · omega

namespace Reader

theorem whole_eq_some_iff {α : Type} {reader : Reader α} {cs : List Char} {value : α} :
    reader.whole cs = some value ↔ reader cs = some (value, []) := by
  unfold whole
  split
  · rename_i read
    simp [read]
  · rename_i refused
    constructor
    · intro read
      cases read
    · intro read
      exact absurd read (refused value)

theorem fraction_lt {cs rest : List Char} {nanos : Nat} (read : fraction cs = some (nanos, rest)) :
    nanos < nanosPerSecond := by
  unfold fraction at read
  split at read
  · rename_i digits
    dsimp only at read
    split at read
    · cases read
    · rename_i some_digit
      generalize kept_eq : (digits.takeWhile isDigit).take 9 = kept at read
      have digit : ∀ c ∈ kept, isDigit c = true := by
        intro c member
        rw [← kept_eq] at member
        exact List.mem_takeWhile_imp (List.mem_of_mem_take member)
      have nonempty : kept ≠ [] := by
        intro empty
        rw [empty, List.take_eq_nil_iff] at kept_eq
        rcases kept_eq with nine | none_taken
        · cases nine
        · simp [none_taken] at some_digit
      have short : kept.length ≤ 9 := by
        rw [← kept_eq]
        exact List.length_take_le _ _
      rw [readNatural?_eq_some digit nonempty] at read
      simp only [Option.map_some, Option.some.injEq, Prod.mk.injEq] at read
      obtain ⟨valued, -⟩ := read
      have small := ofDigitChars_lt digit 0
      calc nanos = Nat.ofDigitChars 10 kept 0 * 10 ^ (9 - kept.length) := valued.symm
        _ < 10 ^ kept.length * 10 ^ (9 - kept.length) := by
          apply Nat.mul_lt_mul_of_pos_right
          · simpa using small
          · positivity
        _ = nanosPerSecond := by
          rw [← Nat.pow_add, Nat.add_sub_cancel' short]
          rfl
  · cases read
    decide

theorem inRange_of_checkTime {hour minute second nanos : Nat} {time : TimeOfDay}
    (small : nanos < nanosPerSecond) (checked : checkTime hour minute second nanos = some time) :
    time.InRange := by
  unfold checkTime at checked
  split at checked
  · rename_i ranged
    cases checked
    exact ⟨ranged.1, ranged.2.1, ranged.2.2, small⟩
  · cases checked

theorem inRange_of_strictTime {cs rest : List Char} {time : TimeOfDay}
    (read : strictTime cs = some (time, rest)) : time.InRange := by
  simp only [strictTime, Option.bind_eq_bind, Option.bind_eq_some_iff, Prod.exists] at read
  obtain ⟨_, _, -, _, _, -, _, _, -, _, _, -, _, _, -, nanos, _, fractionRead, _, checked, done⟩ :=
    read
  cases done
  exact inRange_of_checkTime (fraction_lt fractionRead) checked

theorem inRange_of_looseTime {cs rest : List Char} {time : TimeOfDay}
    (read : looseTime cs = some (time, rest)) : time.InRange := by
  simp only [looseTime, Option.bind_eq_bind, Option.bind_eq_some_iff, Prod.exists] at read
  obtain ⟨_, _, -, _, _, -, _, _, -, _, _, -, _, _, -, nanos, _, fractionRead, _, checked, done⟩ :=
    read
  cases done
  exact inRange_of_checkTime (fraction_lt fractionRead) checked

theorem offset_minutes {cs rest : List Char} {east : Int} (read : offset cs = some (east, rest)) :
    east % 60 = 0 := by
  cases cs with
  | nil => cases read
  | cons c cs =>
      simp only [offset] at read
      split at read
      · cases read
        rfl
      · split at read
        · simp only [Option.bind_eq_bind, Option.bind_eq_some_iff, Prod.exists] at read
          obtain ⟨hours, _, -, _, _, -, minutes, _, -, ranged⟩ := read
          split at ranged
          · cases ranged
            split <;> omega
          · cases ranged
        · cases read

theorem wellFormed_of_strictTimestamp {cs rest : List Char} {instant : Instant}
    (read : strictTimestamp cs = some (instant, rest)) : instant.WellFormed := by
  simp only [strictTimestamp, Option.bind_eq_bind, Option.bind_eq_some_iff, Prod.exists] at read
  obtain ⟨date, _, -, _, _, -, time, _, timeRead, east, _, offsetRead, done⟩ := read
  cases done
  exact (Instant.wellFormed_ofCivil date (inRange_of_strictTime timeRead)).shift
    (offset_minutes offsetRead)

theorem wellFormed_of_letterTimestamp {cs rest : List Char} {instant : Instant}
    (read : letterTimestamp cs = some (instant, rest)) : instant.WellFormed := by
  simp only [letterTimestamp, Option.bind_eq_bind, Option.bind_eq_some_iff, Prod.exists] at read
  obtain ⟨date, _, -, _, _, -, time, _, timeRead, done⟩ := read
  cases done
  exact Instant.wellFormed_ofCivil date (inRange_of_looseTime timeRead)

theorem wellFormed_of_blankTimestamp {cs rest : List Char} {instant : Instant}
    (read : blankTimestamp cs = some (instant, rest)) : instant.WellFormed := by
  simp only [blankTimestamp, Option.bind_eq_bind, Option.bind_eq_some_iff, Prod.exists] at read
  obtain ⟨date, _, -, time, _, timeRead, done⟩ := read
  cases done
  exact Instant.wellFormed_ofCivil date (inRange_of_looseTime timeRead)

theorem wellFormed_of_bareDate {cs rest : List Char} {instant : Instant}
    (read : bareDate cs = some (instant, rest)) : instant.WellFormed := by
  simp only [bareDate, Option.map_eq_some_iff, Prod.exists] at read
  obtain ⟨date, _, -, done⟩ := read
  cases done
  exact Instant.wellFormed_ofCivil date ⟨by decide, by decide, by decide, by decide⟩

end Reader

/-- Every instant read from text is well formed, whichever form the text has. -/
theorem wellFormed_of_parseTimestamp? {s : String} {instant : Instant}
    (read : parseTimestamp? s = some instant) : instant.WellFormed := by
  simp only [parseTimestamp?, Option.or_eq_some_iff, Reader.whole_eq_some_iff] at read
  rcases read with (strict | ⟨-, letter⟩) | ⟨-, blank | ⟨-, bare⟩⟩
  · exact Reader.wellFormed_of_strictTimestamp strict
  · exact Reader.wellFormed_of_letterTimestamp letter
  · exact Reader.wellFormed_of_blankTimestamp blank
  · exact Reader.wellFormed_of_bareDate bare

end DatasetGate.Calendar
