import DatasetGate.Proofs.Files

/-!
# Stores that differ in one file

Two stores may hold different octets at one place, where both hold a file, and the same nodes
everywhere else. A path leads to the same place in both, what is read elsewhere is the same, and so
is whether a file can be written; the stores after it still differ at that place only.
-/

set_option autoImplicit false

namespace DatasetGate

/-- Two results with the same error, or with values that are related. -/
@[mk_iff]
inductive MatchedBy {ε α : Type} (related : α → α → Prop) : Except ε α → Except ε α → Prop where
  | error (fault : ε) : MatchedBy related (.error fault) (.error fault)
  | ok {first second : α} (same : related first second) :
      MatchedBy related (.ok first) (.ok second)

namespace Files

/-- Stores that hold the same at every place but that of the log, where each of them holds a file. -/
structure AgreeBut (log : Option Place) (first second : Files) : Prop where
  elsewhere : ∀ place, log ≠ some place → first.node? place = second.node? place
  logged : ∀ place, log = some place →
    ∃ old new, first.node? place = some (.file old) ∧ second.node? place = some (.file new)

namespace AgreeBut

variable {log : Option Place} {first second third : Files}

theorem refl {files : Files}
    (held : ∀ place, log = some place → ∃ bytes, files.node? place = some (.file bytes)) :
    AgreeBut log files files where
  elsewhere _ _ := rfl
  logged place logging :=
    let ⟨bytes, found⟩ := held place logging
    ⟨bytes, bytes, found, found⟩

theorem symm (agree : AgreeBut log first second) : AgreeBut log second first where
  elsewhere place apart := (agree.elsewhere place apart).symm
  logged place logging :=
    let ⟨old, new, held, heldToo⟩ := agree.logged place logging
    ⟨new, old, heldToo, held⟩

theorem trans (agree : AgreeBut log first second) (further : AgreeBut log second third) :
    AgreeBut log first third where
  elsewhere place apart := (agree.elsewhere place apart).trans (further.elsewhere place apart)
  logged place logging :=
    let ⟨old, _, held, _⟩ := agree.logged place logging
    let ⟨_, new, _, heldToo⟩ := further.logged place logging
    ⟨old, new, held, heldToo⟩

theorem node?_cases (agree : AgreeBut log first second) (place : Place) :
    first.node? place = second.node? place ∨
      ∃ old new, first.node? place = some (.file old) ∧ second.node? place = some (.file new) := by
  by_cases logging : log = some place
  · exact .inr (agree.logged place logging)
  · exact .inl (agree.elsewhere place logging)

theorem put (agree : AgreeBut log first second) (place : Place) {node : Node}
    (filed : log = some place → ∃ bytes, node = .file bytes) :
    AgreeBut log (first.put place node) (second.put place node) where
  elsewhere other apart := by rw [node?_put, node?_put, agree.elsewhere other apart]
  logged other logging := by
    obtain ⟨old, new, held, heldToo⟩ := agree.logged other logging
    simp only [node?_put, isFixed_eq_false held, Bool.false_eq_true, if_false]
    by_cases same : other = place
    · obtain ⟨bytes, rfl⟩ := filed (same ▸ logging)
      exact ⟨bytes, bytes, if_pos same, if_pos same⟩
    · exact ⟨old, new, by rw [if_neg same, held], by rw [if_neg same, heldToo]⟩

/-- A walk asks of a place only whether it holds nothing, a file or a directory, so it goes the same
way in both stores. -/
theorem walk (agree : AgreeBut log first second) (place : Place) (parts : List String) :
    MatchedBy (fun reached other => reached.1 = other.1) (first.walk place parts)
      (second.walk place parts) := by
  induction parts generalizing place with
  | nil =>
      simp only [Files.walk]
      obtain same | ⟨old, new, held, heldToo⟩ := agree.node?_cases place
      · rw [same]
        cases second.node? place with
        | none => exact .error _
        | some node => exact .ok rfl
      · rw [held, heldToo]
        exact .ok rfl
  | cons part rest ih =>
      simp only [Files.walk]
      obtain same | ⟨old, new, held, heldToo⟩ := agree.node?_cases place
      · rw [same]
        cases second.node? place with
        | none => exact .error _
        | some node =>
            cases node with
            | file bytes => exact .error _
            | directory =>
                cases follow place part with
                | error fault => exact .error _
                | ok next => exact ih next
      · rw [held, heldToo]
        exact .error _

/-- What is found at a path that does not lead to the log is the same. -/
theorem find_eq (agree : AgreeBut log first second) {path : String}
    (apart : ∀ place, log = some place → first.place? path ≠ some place) :
    first.find path = second.find path := by
  unfold find
  cases faulty : pathFault? path with
  | some fault => rfl
  | none =>
      obtain ⟨fault, walked, walkedToo⟩ | ⟨reached, other, same, walked, walkedToo⟩ :=
        (matchedBy_iff ..).mp (agree.walk (start path).1 (start path).2)
      · simp only [walked, walkedToo]
      · have leads : first.place? path = some reached.1 := by
          simp only [place?, faulty, walked]
          rfl
        have unlogged := agree.elsewhere reached.1 fun logging => apart reached.1 logging leads
        rw [node?_of_walk walked, same, node?_of_walk walkedToo] at unlogged
        simp only [walked, walkedToo]
        exact congrArg Except.ok (Option.some.inj unlogged)

theorem read_eq (agree : AgreeBut log first second) {path : String}
    (apart : ∀ place, log = some place → first.place? path ≠ some place) :
    first.read path = second.read path := by
  rw [read, read, agree.find_eq apart]

theorem readText_eq (agree : AgreeBut log first second) {path : String}
    (apart : ∀ place, log = some place → first.place? path ≠ some place) :
    first.readText path = second.readText path := by
  rw [readText, readText, agree.read_eq apart]

/-- The place of a file to be written does not depend on what files hold. -/
theorem target_eq (agree : AgreeBut log first second) (path : String) :
    first.target path = second.target path := by
  unfold target
  cases pathFault? path with
  | some fault => rfl
  | none =>
      dsimp only
      rw [← named]
      obtain ⟨fault, walked, walkedToo⟩ | ⟨⟨reached, node⟩, ⟨_, other⟩, rfl, walked, walkedToo⟩ :=
        (matchedBy_iff ..).mp (agree.walk (start path).1 (named (start path).2).dropLast)
      · rw [walked, walkedToo]
      · have held := node?_of_walk walked
        have heldToo := node?_of_walk walkedToo
        dsimp only at held heldToo
        rw [walked, walkedToo]
        obtain same | ⟨old, new, file, fileToo⟩ := agree.node?_cases reached
        · rw [held, heldToo] at same
          cases same
          cases node with
          | file bytes => rfl
          | directory =>
              dsimp only
              split_ifs with short
              · rfl
              · cases follow reached ((named (start path).2).getLast?.getD "") with
                | error fault => rfl
                | ok next =>
                    obtain same | ⟨old, new, file, fileToo⟩ := agree.node?_cases next
                    · simp only [same]
                    · simp only [file, fileToo]
        · rw [held] at file
          rw [heldToo] at fileToo
          cases file
          cases fileToo
          rfl

theorem makeDirectories (agree : AgreeBut log first second) (place : Place) (parts : List String) :
    MatchedBy (AgreeBut log) (first.makeDirectories place parts)
      (second.makeDirectories place parts) := by
  induction parts generalizing first second place with
  | nil => exact .ok agree
  | cons part rest ih =>
      simp only [Files.makeDirectories]
      cases follow place part with
      | error fault => exact .error fault
      | ok next =>
          dsimp only
          by_cases logging : log = some next
          · obtain ⟨old, new, held, heldToo⟩ := agree.logged next logging
            rw [held, heldToo]
            exact .error _
          · rw [agree.elsewhere next logging]
            cases second.node? next with
            | none => exact ih (agree.put next fun same => absurd same logging) next
            | some node =>
                cases node with
                | file bytes => exact .error _
                | directory => exact ih agree next

theorem write (agree : AgreeBut log first second) (path : String) (bytes : List UInt8) :
    MatchedBy (AgreeBut log) (first.write path bytes) (second.write path bytes) := by
  rw [Files.write, Files.write, agree.target_eq]
  cases second.target path with
  | error fault => exact .error fault
  | ok place => exact .ok (agree.put place fun _ => ⟨bytes, rfl⟩)

theorem save (agree : AgreeBut log first second) (path : String) (bytes : List UInt8) :
    MatchedBy (AgreeBut log) (first.save path bytes) (second.save path bytes) := by
  unfold Files.save
  cases pathFault? path with
  | some fault => exact .error fault
  | none =>
      obtain ⟨fault, made, madeToo⟩ | ⟨ready, other, same, made, madeToo⟩ :=
        (matchedBy_iff ..).mp
          (agree.makeDirectories (start path).1 (namedParts (start path).2).dropLast)
      · simp only [makeParent, made, madeToo]
        exact .error fault
      · simp only [makeParent, made, madeToo]
        exact same.write path bytes

end AgreeBut

/-- Writing to an open file changes no more than that file. -/
theorem Opened.agreeBut {files : Files} {path : String} {place : Place} {old : List UInt8}
    (opened : Opened files path place old) (bytes : List UInt8) :
    AgreeBut (some place) files (files.put place (.file bytes)) where
  elsewhere other apart :=
    (node?_put_of_ne (fun same => apart (congrArg some same.symm)) _).symm
  logged other logging := by
    cases logging
    exact ⟨old, bytes, opened.held, (opened_put opened.targeted bytes).held⟩

end Files
end DatasetGate
