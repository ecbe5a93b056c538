import DatasetGate.Proofs.Verdicts

/-!
# Addresses as a whole

The three outcomes of a check of addresses are nested: a row with the wrong start or without the
authority also shows the wrong address. So the outcome of the whole address decides the check, and
as the address keeps the path that it is made of, it shows the repository of its row and no other.
-/

set_option autoImplicit false

namespace DatasetGate

/-- Where one condition implies another, the rows without the second are without the first. -/
theorem Frame.rowsWithout_subset {frame : Frame} {whole part : Nat → Bool}
    (implied : ∀ row, whole row = true → part row = true) :
    frame.rowsWithout part ⊆ frame.rowsWithout whole := by
  intro row member
  obtain ⟨bound, failed⟩ := mem_rowsWithout.mp member
  refine mem_rowsWithout.mpr ⟨bound, ?_⟩
  rw [← Bool.not_eq_true]
  intro accepted
  rw [implied row accepted] at failed
  cases failed

namespace AddressShape

/-- An address keeps its path, whatever the path holds. -/
theorem address_injective (shape : AddressShape) : Function.Injective shape.address := by
  intro path other same
  have extended := (String.append_left_inj shape.extension).mp same
  exact (String.append_right_inj _).mp extended

end AddressShape

namespace Check

variable {frame : Frame} {column : UrlColumn}

/-- The row shows the address that its own owner and name make. -/
def showsAddress (frame : Frame) (column : UrlColumn) (row : Nat) : Bool :=
  (frame.textAt? column.name row).any fun text =>
    (frame.pathAt? column.ownerColumn column.nameColumn row).any fun path =>
      text == (AddressShape.ofColumn column).address path

theorem showsAddress_iff {row : Nat} :
    showsAddress frame column row = true ↔
      ∃ owner name, frame.textAt? column.ownerColumn row = some owner ∧
        frame.textAt? column.nameColumn row = some name ∧
        frame.textAt? column.name row =
          some ((AddressShape.ofColumn column).address (owner ++ "/" ++ name)) := by
  simp only [showsAddress, Option.any_eq_true, beq_iff_eq, pathAt?_eq_some_iff]
  constructor
  · rintro ⟨text, shown, path, ⟨owner, name, ownerShown, nameShown, rfl⟩, rfl⟩
    exact ⟨owner, name, ownerShown, nameShown, shown⟩
  · rintro ⟨owner, name, ownerShown, nameShown, shown⟩
    exact ⟨_, shown, _, ⟨owner, name, ownerShown, nameShown, rfl⟩, rfl⟩

theorem any_of_showsAddress {accepts : String → Bool}
    (accepted : ∀ path, accepts ((AddressShape.ofColumn column).address path) = true) {row : Nat}
    (shows : showsAddress frame column row = true) :
    (frame.textAt? column.name row).any accepts = true := by
  obtain ⟨owner, name, -, -, shown⟩ := showsAddress_iff.mp shows
  rw [shown, Option.any_some]
  exact accepted _

/-- A check of addresses without an error has reported three outcomes, and these are their rows. -/
theorem judgeUrls_eq_ofOutcomes (formed : frame.WellFormed) {passed : Bool}
    (judged : (judgeUrls frame column).result = .ok passed) :
    judgeUrls frame column = .ofOutcomes
      [.ofRows .scheme column.name "Records have right scheme"
        (frame.rowsWithout fun row =>
          (frame.textAt? column.name row).any (AddressShape.ofColumn column).startsRight),
       .ofRows .authority column.name "Records have right authority"
        (frame.rowsWithout fun row =>
          (frame.textAt? column.name row).any (AddressShape.ofColumn column).marksRight),
       .ofRows .path column.name "Records have right path"
        (frame.rowsWithout (showsAddress frame column))] := by
  obtain ⟨scheme, authority, path, schemeFound, authorityFound, pathFound, -⟩ :=
    judgeUrls_result_eq_ok judged
  simp only [judgeUrls, schemeFound, authorityFound, pathFound]
  rw [schemeFailures_rows formed schemeFound, authorityFailures_rows formed authorityFound,
    pathFailures_rows formed pathFound]
  rfl

/-- No two paths have one address. The rows that fail by their start or by their authority are among
those that fail by their whole address, so the whole address decides: it passes where every row
shows an owner, a name and the address of just that path. -/
theorem judgeUrls_nested (column : UrlColumn) :
    Function.Injective (AddressShape.ofColumn column).address ∧
    ∀ frame : Frame, frame.WellFormed → ∀ passed, (judgeUrls frame column).result = .ok passed →
      ∃ scheme authority path : Outcome,
        (judgeUrls frame column).outcomes = [scheme, authority, path] ∧
          scheme.kind = .scheme ∧ authority.kind = .authority ∧ path.kind = .path ∧
          scheme.failedRows ⊆ path.failedRows ∧ authority.failedRows ⊆ path.failedRows ∧
          passed = path.passed ∧
          (path.passed = true ↔ ∀ row < frame.height, ∃ owner name,
            frame.textAt? column.ownerColumn row = some owner ∧
              frame.textAt? column.nameColumn row = some name ∧
              frame.textAt? column.name row =
                some ((AddressShape.ofColumn column).address (owner ++ "/" ++ name))) := by
  refine ⟨(AddressShape.ofColumn column).address_injective, ?_⟩
  intro frame formed passed judged
  have schemeRows : frame.rowsWithout (fun row =>
        (frame.textAt? column.name row).any (AddressShape.ofColumn column).startsRight) ⊆
      frame.rowsWithout (showsAddress frame column) :=
    Frame.rowsWithout_subset fun _ =>
      any_of_showsAddress (AddressShape.ofColumn column).startsRight_address
  have authorityRows : frame.rowsWithout (fun row =>
        (frame.textAt? column.name row).any (AddressShape.ofColumn column).marksRight) ⊆
      frame.rowsWithout (showsAddress frame column) :=
    Frame.rowsWithout_subset fun _ =>
      any_of_showsAddress (AddressShape.ofColumn column).marksRight_address
  have outcomes := judgeUrls_eq_ofOutcomes formed judged
  rw [outcomes] at judged ⊢
  refine ⟨_, _, _, rfl, rfl, rfl, rfl, schemeRows, authorityRows, ?_, ?_⟩
  · -- Where no row fails by its address, the other two outcomes have no row left to fail.
    simp only [Verdict.ofOutcomes, Except.ok.injEq] at judged
    rw [← judged, Bool.eq_iff_iff]
    simp only [List.all_cons, List.all_nil, Outcome.ofRows, Bool.and_true, Bool.and_eq_true,
      List.isEmpty_iff]
    constructor
    · exact fun all => all.2.2
    · intro none
      rw [none, List.subset_nil] at schemeRows authorityRows
      exact ⟨schemeRows, authorityRows, none⟩
  · simp only [Outcome.ofRows, List.isEmpty_iff, Frame.rowsWithout_eq_nil_iff, showsAddress_iff]

/-- Addresses of clients whose owners are addresses themselves, are missing, or are not the ones
that the address shows. -/
def nestedFrame : Frame :=
  ⟨[⟨"cowner", .text, [.text "ssh://git@github.com:a", .null, .text "octo", .text "octo"]⟩,
    ⟨"cname", .integer .signed64, [.integer 7, .integer 7, .integer 7, .integer 8]⟩,
    ⟨"csshUrl", .text, [.text "ssh://git@github.com:ssh://git@github.com:a/7.git",
      .text "ssh://git@github.com:octo/7.git", .text "git@github.com:octo/7.git",
      .text "ssh://git@github.com:octo/7.git"]⟩]⟩

theorem nestedFrame_formed : nestedFrame.WellFormed where
  aligned := by simp [nestedFrame, Frame.height]
  distinct := by simp [nestedFrame, Frame.names]
  typed := by simp [nestedFrame, ColumnType.Holds, IntegerType.least, IntegerType.greatest]

theorem judgeUrls_nested_clients :
    nestedFrame.WellFormed ∧ (judgeUrls nestedFrame .csshUrl).result = .ok false ∧
      (judgeUrls nestedFrame .csshUrl).outcomes.map Outcome.failedRows = [[2], [2], [1, 2, 3]] ∧
      ∃ scheme authority path : Outcome,
        (judgeUrls nestedFrame .csshUrl).outcomes = [scheme, authority, path] ∧
          scheme.failedRows ⊆ path.failedRows ∧ authority.failedRows ⊆ path.failedRows := by
  have judged : (judgeUrls nestedFrame .csshUrl).result = .ok false := rfl
  obtain ⟨-, nested⟩ := judgeUrls_nested .csshUrl
  obtain ⟨scheme, authority, path, outcomes, -, -, -, schemeRows, authorityRows, -⟩ :=
    nested nestedFrame nestedFrame_formed false judged
  exact ⟨nestedFrame_formed, judged, rfl, scheme, authority, path, outcomes, schemeRows,
    authorityRows⟩

end Check
end DatasetGate
