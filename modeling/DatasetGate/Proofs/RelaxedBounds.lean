import DatasetGate.Proofs.CheckErrors
import DatasetGate.Proofs.Judgements
import DatasetGate.Proofs.Number.Notation

/-!
# Relaxed bounds

A lower limit, and a later present, can only let more rows pass. Whether a cell can be read hangs on
no bound, so the errors stay the same. A whole number is compared exactly and any other number as a
double; rounding the limit keeps its order, so both comparisons let more pass.
-/

set_option autoImplicit false

namespace DatasetGate

open DatasetGate.Number DatasetGate.Calendar

theorem Calendar.Instant.AtMost.trans {a b c : Instant} (first : a.AtMost b)
    (second : b.AtMost c) : a.AtMost c := by
  unfold Instant.AtMost at first second ⊢
  omega

namespace Check

/-- Two judgements of one column: both end in the same error, or every row that fails in the first
fails in the second. -/
inductive Relaxes : Except CheckError (List Nat) → Except CheckError (List Nat) → Prop
  | error (error : CheckError) : Relaxes (.error error) (.error error)
  | rows {rows stricter : List Nat} (contained : rows ⊆ stricter) :
      Relaxes (.ok rows) (.ok stricter)

section Limit

variable {limit stricter : Int} (ordered : limit ≤ stricter)

include ordered

/-- A number that meets a limit meets every lower one, in whichever way it is compared. -/
theorem meetsLimit?_of_le {cell : Cell} (met : meetsLimit? stricter cell = some true) :
    meetsLimit? limit cell = some true := by
  unfold meetsLimit? at met ⊢
  cases whole : cell.integer? with
  | some number =>
      simp only [whole, Option.some.injEq, decide_eq_true_eq] at met ⊢
      exact ordered.trans met
  | none =>
      simp only [whole] at met ⊢
      obtain ⟨number, read, above⟩ := Option.map_eq_some_iff.mp met
      rw [read, Option.map_some, Double.atMost_trans (Double.atMost_ofInt ordered) above]

theorem failingRows_meetsLimit?_subset (cells : List Cell) :
    failingRows (fun _ passed => passed) (cells.map (meetsLimit? limit)) ⊆
      failingRows (fun _ passed => passed) (cells.map (meetsLimit? stricter)) := by
  intro row failing
  obtain ⟨cell, entry, refused⟩ := mem_failingRows_map_iff.mp failing
  refine mem_failingRows_map_iff.mpr ⟨cell, entry, ?_⟩
  intro passed met
  cases passed with
  | false => rfl
  | true => exact refused true (meetsLimit?_of_le ordered met)

theorem limitFailures_relaxes (frame : Frame) (column : NumericColumn) :
    Relaxes (limitFailures frame limit column) (limitFailures frame stricter column) := by
  have errors : errorOf (limitFailures frame stricter column) =
      errorOf (limitFailures frame limit column) := by
    rw [errorOf_limitFailures, errorOf_limitFailures]
  cases failing : limitFailures frame limit column with
  | error error =>
      rw [failing] at errors
      rw [errorOf_eq_some_iff.mp errors]
      exact .error error
  | ok rows =>
      rw [failing] at errors
      obtain ⟨rows', failing'⟩ := errorOf_eq_none_iff.mp errors
      obtain ⟨target, found, shown⟩ := exists_of_limitFailures failing
      obtain ⟨target', found', shown'⟩ := exists_of_limitFailures failing'
      rw [found, Option.some_inj] at found'
      subst found' shown shown'
      rw [failing']
      exact .rows (failingRows_meetsLimit?_subset ordered target.cells)

end Limit

section Window

variable {limit limit' now now' : Instant} (raised : limit.AtMost limit')
  (advanced : now'.AtMost now)

include raised advanced

omit raised advanced in
/-- Instants that pass the stricter of two tests pass the other one, so fewer rows fail. -/
theorem failingRows_instant?_subset {accepts stricter : Instant → Prop} [DecidablePred accepts]
    [DecidablePred stricter] (implied : ∀ instant, stricter instant → accepts instant)
    (cells : List Cell) :
    failingRows (fun _ instant => decide (accepts instant)) (cells.map Cell.instant?) ⊆
      failingRows (fun _ instant => decide (stricter instant)) (cells.map Cell.instant?) := by
  have law (test : Instant → Prop) [DecidablePred test] (row : Nat) :=
    @mem_failingRows_map_iff _ _ (fun instant => decide (test instant)) Cell.instant? cells row
  intro row failing
  obtain ⟨cell, entry, refused⟩ := (law accepts row).mp failing
  refine (law stricter row).mpr ⟨cell, entry, ?_⟩
  intro instant shown
  have outside := of_decide_eq_false (refused instant shown)
  exact decide_eq_false fun inside => outside (implied instant inside)

theorem judgeWindow_relaxes (frame : Frame) (column : DateColumn) :
    (∃ error, judgeWindow frame now limit column = .failed [] error ∧
        judgeWindow frame now' limit' column = .failed [] error) ∨
      ∃ early late early' late', WindowRows frame now limit column early late ∧
        WindowRows frame now' limit' column early' late' ∧ early ⊆ early' ∧ late ⊆ late' := by
  cases read : readInstants frame column with
  | error error =>
      refine .inl ⟨error, ?_, ?_⟩
      · simp only [judgeWindow, read]
      · simp only [judgeWindow, read]
  | ok instants =>
      refine .inr ⟨_, _, _, _, windowRows_of_readInstants read now limit,
        windowRows_of_readInstants read now' limit', ?_, ?_⟩
      · obtain ⟨target, -, -, rfl⟩ := readInstants_eq_ok_iff.mp read
        exact failingRows_instant?_subset (fun _ after => raised.trans after) target.cells
      · obtain ⟨target, -, -, rfl⟩ := readInstants_eq_ok_iff.mp read
        exact failingRows_instant?_subset (fun _ before => before.trans advanced) target.cells

end Window

/-- Lower limits, and a later present, keep every error and add no failing row. -/
theorem bounds_relaxed {limit stricter : Int} (ordered : limit ≤ stricter)
    {since since' now now' : Instant} (raised : since.AtMost since') (advanced : now'.AtMost now)
    (frame : Frame) :
    (∀ column, Relaxes (limitFailures frame limit column) (limitFailures frame stricter column)) ∧
      ∀ column,
        (∃ error, judgeWindow frame now since column = .failed [] error ∧
            judgeWindow frame now' since' column = .failed [] error) ∨
          ∃ early late early' late', WindowRows frame now since column early late ∧
            WindowRows frame now' since' column early' late' ∧ early ⊆ early' ∧ late ⊆ late' := by
  constructor
  · intro column
    exact limitFailures_relaxes ordered frame column
  · intro column
    exact judgeWindow_relaxes raised advanced frame column

/-- Numbers of every kind beside a limit that is no double, and two instants of one leap second. -/
def mixedFrame : Frame :=
  ⟨[⟨"stars", .text,
      [.null, .text "9007199254740992", .text "9007199254740992.0", .text "nan", .text "1e400"]⟩,
    ⟨"createdAt", .text, [.null, .text "2016-12-31T23:59:60Z", .text "2016-12-31T23:59:60.5Z",
      .text "2017-01-01", .text "2018-01-01"]⟩]⟩

/-- The exact comparison tells the limits apart, the rounded one does not. -/
theorem bounds_relaxed_mixed :
    (2 ^ 53 : Int) ≤ 2 ^ 53 + 1 ∧
    Instant.AtMost ⟨1483228799, 1000000000⟩ ⟨1483228799, 1000000001⟩ ∧
    Instant.AtMost ⟨1483228799, 1500000000⟩ ⟨1483228800, 0⟩ ∧
    Relaxes (limitFailures mixedFrame (2 ^ 53) .stars)
      (limitFailures mixedFrame (2 ^ 53 + 1) .stars) ∧
    limitFailures mixedFrame (2 ^ 53) .stars = .ok [0, 3] ∧
    limitFailures mixedFrame (2 ^ 53 + 1) .stars = .ok [0, 1, 3] ∧
    ∃ early late early' late',
      WindowRows mixedFrame ⟨1483228800, 0⟩ ⟨1483228799, 1000000000⟩ .createdAt early late ∧
      WindowRows mixedFrame ⟨1483228799, 1500000000⟩ ⟨1483228799, 1000000001⟩ .createdAt
        early' late' ∧
      early ⊆ early' ∧ late ⊆ late' ∧
      early = [0] ∧ late = [0, 4] ∧ early' = [0, 1] ∧ late' = [0, 3, 4] := by
  have ordered : (2 ^ 53 : Int) ≤ 2 ^ 53 + 1 := by decide
  have raised : Instant.AtMost ⟨1483228799, 1000000000⟩ ⟨1483228799, 1000000001⟩ := by decide
  have advanced : Instant.AtMost ⟨1483228799, 1500000000⟩ ⟨1483228800, 0⟩ := by decide
  obtain ⟨limits, windows⟩ := bounds_relaxed ordered raised advanced mixedFrame
  have rows : limitFailures mixedFrame (2 ^ 53) .stars = .ok [0, 3] ∧
      limitFailures mixedFrame (2 ^ 53 + 1) .stars = .ok [0, 1, 3] := by
    decide +kernel
  have outside : (judgeWindow mixedFrame ⟨1483228800, 0⟩ ⟨1483228799, 1000000000⟩
        .createdAt).outcomes.map Outcome.failedRows = [[0], [0, 4]] ∧
      (judgeWindow mixedFrame ⟨1483228799, 1500000000⟩ ⟨1483228799, 1000000001⟩
        .createdAt).outcomes.map Outcome.failedRows = [[0, 1], [0, 3, 4]] := by
    decide +kernel
  refine ⟨ordered, raised, advanced, limits .stars, rows.1, rows.2, ?_⟩
  cases windows .createdAt with
  | inl failed =>
      obtain ⟨error, ended, -⟩ := failed
      rw [ended] at outside
      cases outside.1
  | inr found =>
      obtain ⟨early, late, early', late', first, second, earlier, later⟩ := found
      rw [first.failedRows, second.failedRows] at outside
      simp only [List.cons.injEq, and_true] at outside
      exact ⟨early, late, early', late', first, second, earlier, later, outside.1.1, outside.1.2,
        outside.2⟩

end Check
end DatasetGate
