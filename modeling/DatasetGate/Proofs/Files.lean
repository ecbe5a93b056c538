import DatasetGate.Files
import Mathlib

/-!
# Files that were written

What is written at a path is read there. A file is only put where no directory stands, so the
directories that a path leads through are the same before and after it is written, and what other
files hold stays.
-/

set_option autoImplicit false

namespace DatasetGate.Files

variable {files : Files} {place : Place}

theorem node?_put_self (free : files.node? place ≠ some .directory) (node : Node) :
    (files.put place node).node? place = some node := by
  have unfixed : isFixed place = false := by
    rw [← Bool.not_eq_true]
    intro fixed
    exact free (by rw [node?, if_pos fixed])
  simp [node?, unfixed, put]

theorem lookup_filter_ne {other : Place} (different : other ≠ place)
    (entries : List (Place × Node)) :
    (entries.filter fun entry => entry.1 ≠ place).lookup other = entries.lookup other := by
  induction entries with
  | nil => rfl
  | cons entry rest ih =>
      obtain ⟨key, value⟩ := entry
      by_cases removed : key = place
      · have unequal : (other == key) = false := by simpa [removed] using different
        rw [List.filter_cons_of_neg (by simp [removed]), List.lookup_cons, unequal, ih]
      · rw [List.filter_cons_of_pos (by simp [removed]), List.lookup_cons, List.lookup_cons, ih]

theorem node?_put_of_ne {other : Place} (different : other ≠ place) (node : Node) :
    (files.put place node).node? other = files.node? other := by
  have unequal : (other == place) = false := by simpa using different
  simp only [node?, put, List.lookup_cons, unequal, lookup_filter_ne different]

theorem node?_put (files : Files) (place other : Place) (node : Node) :
    (files.put place node).node? other =
      if isFixed other then some .directory
      else if other = place then some node else files.node? other := by
  by_cases same : other = place
  · simp [node?, put, same]
  · rw [node?_put_of_ne same, if_neg same]
    by_cases fixed : isFixed other = true
    · rw [if_pos fixed, node?, if_pos fixed]
    · rw [if_neg fixed]

theorem isFixed_eq_false {files : Files} {place : Place} {bytes : List UInt8}
    (found : files.node? place = some (.file bytes)) : isFixed place = false := by
  rw [← Bool.not_eq_true]
  intro fixed
  rw [node?, if_pos fixed] at found
  cases found

theorem walk_nil_eq_ok_iff {start : Place} {reached : Place × Node} :
    files.walk start [] = .ok reached ↔
      reached.1 = start ∧ files.node? start = some reached.2 := by
  obtain ⟨inside, node⟩ := reached
  rw [walk]
  cases files.node? start <;> simp [eq_comm]

theorem walk_cons_eq_ok_iff {start : Place} {part : String} {rest : List String}
    {reached : Place × Node} :
    files.walk start (part :: rest) = .ok reached ↔
      files.node? start = some .directory ∧
        ∃ next, follow start part = .ok next ∧ files.walk next rest = .ok reached := by
  rw [walk]
  cases files.node? start with
  | none => simp
  | some node =>
      cases node with
      | file bytes => simp
      | directory => cases follow start part <;> simp

/-- A way that ends in a directory leads through directories only, so it is there as long as they
are. -/
theorem walk_of_kept {after : Files} {start inside : Place} {parts : List String}
    (walked : files.walk start parts = .ok (inside, .directory))
    (kept : ∀ other, files.node? other = some .directory → after.node? other = some .directory) :
    after.walk start parts = .ok (inside, .directory) := by
  induction parts generalizing start with
  | nil =>
      obtain ⟨same, found⟩ := walk_nil_eq_ok_iff.mp walked
      exact walk_nil_eq_ok_iff.mpr ⟨same, kept start found⟩
  | cons part rest ih =>
      obtain ⟨found, next, followed, further⟩ := walk_cons_eq_ok_iff.mp walked
      exact walk_cons_eq_ok_iff.mpr ⟨kept start found, next, followed, ih further⟩

theorem directory_put (free : files.node? place ≠ some .directory) (node : Node) {other : Place}
    (found : files.node? other = some .directory) :
    (files.put place node).node? other = some .directory := by
  rw [node?_put_of_ne _ node, found]
  rintro rfl
  exact free found

theorem walk_concat {start inside next : Place} {parts : List String} {last : String}
    {reached : Place × Node} (walked : files.walk start parts = .ok (inside, .directory))
    (followed : follow inside last = .ok next) (there : files.walk next [] = .ok reached) :
    files.walk start (parts ++ [last]) = .ok reached := by
  induction parts generalizing start with
  | nil =>
      obtain ⟨same, found⟩ := walk_nil_eq_ok_iff.mp walked
      dsimp only at same found
      exact walk_cons_eq_ok_iff.mpr ⟨found, next, same ▸ followed, there⟩
  | cons part rest ih =>
      obtain ⟨found, further, first, walkedOn⟩ := walk_cons_eq_ok_iff.mp walked
      exact walk_cons_eq_ok_iff.mpr ⟨found, further, first, ih walkedOn⟩

theorem node?_of_walk {start : Place} {parts : List String} {reached : Place × Node}
    (walked : files.walk start parts = .ok reached) :
    files.node? reached.1 = some reached.2 := by
  induction parts generalizing start with
  | nil =>
      obtain ⟨same, found⟩ := walk_nil_eq_ok_iff.mp walked
      rw [same, found]
  | cons part rest ih =>
      obtain ⟨-, next, -, further⟩ := walk_cons_eq_ok_iff.mp walked
      exact ih further

/-- The parts of a path without the empty ones at its end. -/
def named (parts : List String) : List String :=
  (parts.reverse.dropWhile (· = "")).reverse

theorem named_eq_self {parts : List String} (full : ¬ (named parts).length < parts.length) :
    named parts = parts := by
  have suffix := List.dropWhile_suffix (l := parts.reverse) (fun part : String => part = "")
  have front : named parts <+: parts.reverse.reverse := List.reverse_prefix.mpr suffix
  rw [List.reverse_reverse] at front
  exact front.eq_of_length_le (Nat.not_lt.mp full)

/-- A path has a place for a file where its way leads to a directory, a name is left, and no
directory has that name already. -/
theorem target_eq_ok_iff {path : String} :
    files.target path = .ok place ↔
      pathFault? path = none ∧ ¬ (named (start path).2).length < (start path).2.length ∧
        files.node? place ≠ some .directory ∧
        ∃ inside, files.walk (start path).1 (named (start path).2).dropLast =
            .ok (inside, .directory) ∧
          follow inside ((named (start path).2).getLast?.getD "") = .ok place := by
  constructor
  · intro targeted
    rw [target] at targeted
    cases faulty : pathFault? path with
    | some fault => simp [faulty] at targeted
    | none =>
        simp only [faulty] at targeted
        rw [← named] at targeted
        cases walked : files.walk (start path).1 (named (start path).2).dropLast with
        | error fault => simp only [walked, reduceCtorEq] at targeted
        | ok reached =>
            obtain ⟨inside, node⟩ := reached
            cases node with
            | file bytes => simp only [walked, reduceCtorEq] at targeted
            | directory =>
                simp only [walked] at targeted
                split_ifs at targeted with short
                cases followed : follow inside ((named (start path).2).getLast?.getD "") with
                | error fault => simp only [followed, reduceCtorEq] at targeted
                | ok next =>
                    simp only [followed] at targeted
                    split at targeted
                    · cases targeted
                    · rename_i free
                      cases targeted
                      exact ⟨rfl, short, free, inside, rfl, followed⟩
  · rintro ⟨faultless, full, free, inside, walked, followed⟩
    unfold target
    rw [faultless]
    dsimp only
    rw [← named, walked]
    dsimp only
    rw [if_neg full, followed]
    dsimp only
    split
    · rename_i found
      exact absurd found free
    · rfl

/-- The way to a file that can be written is one to a directory and a last part. -/
theorem exists_of_target {path : String} (targeted : files.target path = .ok place) :
    ∃ parts last inside, (start path).2 = parts ++ [last] ∧
      files.walk (start path).1 parts = .ok (inside, .directory) ∧
      follow inside last = .ok place := by
  obtain ⟨-, full, free, inside, walked, followed⟩ := target_eq_ok_iff.mp targeted
  rw [named_eq_self full] at walked followed
  rcases List.eq_nil_or_concat (start path).2 with empty | ⟨parts, last, ended⟩
  · rw [empty] at walked followed
    cases followed
    exact absurd (node?_of_walk walked) free
  · rw [ended, List.concat_eq_append, List.dropLast_concat] at walked
    rw [ended, List.concat_eq_append, List.getLast?_concat] at followed
    exact ⟨parts, last, inside, by rw [ended, List.concat_eq_append], walked, followed⟩

/-! ### Open files -/

section

variable {after : Files} {path : String} {old bytes : List UInt8}

/-- The place that a path leads to. -/
def place? (files : Files) (path : String) : Option Place :=
  match pathFault? path with
  | some _ => none
  | none => ((files.walk (start path).1 (start path).2).map Prod.fst).toOption

/-- A path leads to a file that can be written, and the file holds the octets. -/
structure Opened (files : Files) (path : String) (place : Place) (bytes : List UInt8) : Prop where
  targeted : files.target path = .ok place
  held : files.node? place = some (.file bytes)

theorem opened_of_kept (targeted : files.target path = .ok place)
    (kept : ∀ other, files.node? other = some .directory → after.node? other = some .directory)
    (held : after.node? place = some (.file bytes)) : Opened after path place bytes where
  targeted := by
    obtain ⟨faultless, full, -, inside, walked, followed⟩ := target_eq_ok_iff.mp targeted
    have free : after.node? place ≠ some .directory := by simp [held]
    exact target_eq_ok_iff.mpr
      ⟨faultless, full, free, inside, walk_of_kept walked kept, followed⟩
  held := held

theorem opened_put (targeted : files.target path = .ok place) (bytes : List UInt8) :
    Opened (files.put place (.file bytes)) path place bytes :=
  have free := (target_eq_ok_iff.mp targeted).2.2.1
  opened_of_kept targeted (fun _ => directory_put free _) (node?_put_self free _)

namespace Opened

theorem append_eq (opened : Opened files path place old) (more : List UInt8) :
    files.append path more = .ok (files.put place (.file (old ++ more))) := by
  simp only [append, opened.targeted, opened.held, Except.map]

theorem walk (opened : Opened files path place old) :
    pathFault? path = none ∧
      files.walk (start path).1 (start path).2 = .ok (place, .file old) := by
  obtain ⟨parts, last, inside, split, walked, followed⟩ := exists_of_target opened.targeted
  refine ⟨(target_eq_ok_iff.mp opened.targeted).1, ?_⟩
  rw [split]
  exact walk_concat walked followed (walk_nil_eq_ok_iff.mpr ⟨rfl, opened.held⟩)

theorem read_eq (opened : Opened files path place old) : files.read path = .ok old := by
  simp only [read, find, opened.walk, Except.map]

theorem place?_eq (opened : Opened files path place old) : files.place? path = some place := by
  simp only [place?, opened.walk, Except.map, Except.toOption]

end Opened

/-- A file that something was appended to is open, also when it was missing before. -/
theorem opened_of_append (appended : files.append path bytes = .ok after) :
    ∃ place held, Opened after path place held := by
  rw [append] at appended
  cases targeted : files.target path with
  | error fault =>
      rw [targeted] at appended
      cases appended
  | ok place =>
      simp only [targeted, Except.map, Except.ok.injEq] at appended
      subst appended
      split
      · exact ⟨place, _, opened_put targeted _⟩
      · exact ⟨place, _, opened_put targeted _⟩

/-- Making directories takes nothing away. -/
theorem node?_of_makeDirectories {start : Place} {parts : List String}
    (made : files.makeDirectories start parts = .ok after) {other : Place} {node : Node}
    (found : files.node? other = some node) : after.node? other = some node := by
  induction parts generalizing files start with
  | nil =>
      cases made
      exact found
  | cons part rest ih =>
      rw [makeDirectories] at made
      cases followed : follow start part with
      | error fault =>
          rw [followed] at made
          cases made
      | ok next =>
          simp only [followed] at made
          cases there : files.node? next with
          | none =>
              simp only [there] at made
              refine ih made ?_
              rw [node?_put_of_ne _ _, found]
              rintro rfl
              rw [there] at found
              cases found
          | some node =>
              cases node with
              | file bytes => simp only [there, reduceCtorEq] at made
              | directory =>
                  simp only [there] at made
                  exact ih made found

/-- A saved file stands in the files in which its directories were made. -/
theorem exists_of_save (saved : files.save path bytes = .ok after) :
    ∃ ready place, files.makeParent path = .ok ready ∧ ready.target path = .ok place ∧
      after = ready.put place (.file bytes) := by
  rw [save] at saved
  cases faulty : pathFault? path with
  | some fault => simp [faulty] at saved
  | none =>
      cases made : files.makeParent path with
      | error fault => simp [faulty, made, Except.bind] at saved
      | ok ready =>
          simp only [faulty, made, Except.bind, write] at saved
          cases targeted : ready.target path with
          | error fault =>
              rw [targeted] at saved
              cases saved
          | ok place =>
              simp only [targeted, Except.map, Except.ok.injEq] at saved
              exact ⟨ready, place, rfl, targeted, saved.symm⟩

theorem opened_of_save (saved : files.save path bytes = .ok after) :
    ∃ place, Opened after path place bytes := by
  obtain ⟨ready, place, -, targeted, rfl⟩ := exists_of_save saved
  exact ⟨place, opened_put targeted bytes⟩

/-- A saved file reads as what was saved, also where its directories had to be made. -/
theorem read_save (saved : files.save path bytes = .ok after) : after.read path = .ok bytes := by
  obtain ⟨place, opened⟩ := opened_of_save saved
  exact opened.read_eq

/-- Saving a file takes nothing away but what the file held before. -/
theorem node?_of_save (saved : files.save path bytes = .ok after) {other : Place} {node : Node}
    (found : files.node? other = some node)
    (apart : node = .directory ∨ after.place? path ≠ some other) :
    after.node? other = some node := by
  obtain ⟨ready, place, made, targeted, rfl⟩ := exists_of_save saved
  have kept := node?_of_makeDirectories made found
  rw [node?_put_of_ne _ _, kept]
  rintro rfl
  obtain rfl | elsewhere := apart
  · exact (target_eq_ok_iff.mp targeted).2.2.1 kept
  · exact elsewhere (opened_put targeted bytes).place?_eq

/-- A file that is open stays so when another one is saved, and if it is not that one it holds what
it held. -/
theorem Opened.save (opened : Opened files path place old) {other : String}
    (saved : files.save other bytes = .ok after) :
    ∃ held, Opened after path place held ∧ (after.place? other ≠ after.place? path → held = old) := by
  have kept {held : List UInt8} (there : after.node? place = some (.file held)) :
      Opened after path place held :=
    opened_of_kept opened.targeted (fun _ found => node?_of_save saved found (.inl rfl)) there
  by_cases covered : after.place? other = some place
  · obtain ⟨reached, own⟩ := opened_of_save saved
    obtain rfl : reached = place := Option.some.inj (own.place?_eq.symm.trans covered)
    refine ⟨bytes, kept own.held, fun apart => absurd ?_ apart⟩
    rw [covered, (kept own.held).place?_eq]
  · exact ⟨old, kept (node?_of_save saved opened.held (.inr covered)), fun _ => rfl⟩

end

end DatasetGate.Files
