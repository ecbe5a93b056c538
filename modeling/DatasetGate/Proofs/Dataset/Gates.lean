import DatasetGate.Dataset.Load
import DatasetGate.Proofs.Dataset.FrameShape
import DatasetGate.Proofs.Text.Blank

/-!
# The gates of a dataset

A file is judged by its size, then by the mark at its start, and only then by what it holds. The bound
on the size matters to the first gate alone, and what passes all gates is a well-formed frame with rows
and with names.
-/

set_option autoImplicit false

namespace DatasetGate.Dataset

open DatasetGate.Text

/-- The file starts with the mark of an encoding in units of two octets. -/
def Marked (bytes : List UInt8) : Prop :=
  [0xFF, 0xFE] <+: bytes ∨ [0xFE, 0xFF] <+: bytes

instance (bytes : List UInt8) : Decidable (Marked bytes) :=
  inferInstanceAs (Decidable (_ ∨ _))

theorem wideEncoding?_eq_some_iff {bytes : List UInt8} {encoding : String} :
    wideEncoding? bytes = some encoding ↔
      encoding = "UTF-16 LE" ∧ [0xFF, 0xFE] <+: bytes ∨
        encoding = "UTF-16 BE" ∧ [0xFE, 0xFF] <+: bytes := by
  unfold wideEncoding?
  split
  · simp [List.cons_prefix_cons, eq_comm]
  · simp [List.cons_prefix_cons, eq_comm]
  · rename_i little big
    simp only [reduceCtorEq, false_iff, not_or, not_and]
    constructor
    · rintro - ⟨rest, rfl⟩
      exact little rest rfl
    · rintro - ⟨rest, rfl⟩
      exact big rest rfl

theorem wideEncoding?_eq_none_iff {bytes : List UInt8} :
    wideEncoding? bytes = none ↔ ¬ Marked bytes := by
  rw [Option.eq_none_iff_forall_ne_some, Marked]
  constructor
  · rintro unmarked (little | big)
    · exact unmarked _ (wideEncoding?_eq_some_iff.mpr (.inl ⟨rfl, little⟩))
    · exact unmarked _ (wideEncoding?_eq_some_iff.mpr (.inr ⟨rfl, big⟩))
  · intro unmarked encoding found
    exact unmarked ((wideEncoding?_eq_some_iff.mp found).imp And.right And.right)

/-- The result of loading a file, gate by gate. -/
theorem load_of_file {files : Files} {path : String} {bytes : List UInt8}
    (found : files.find path = .ok (.file bytes)) (limit : Nat) :
    load files path limit =
      if limit < bytes.length then .error (.tooLarge path bytes.length limit)
      else
        match wideEncoding? bytes with
        | some encoding => .error (.unsupportedEncoding path encoding)
        | none => ofBytes path bytes := by
  have held : files.read path = .ok bytes := by
    simp only [Files.read, found]
  by_cases large : limit < bytes.length
  · have refused : checkSize files path limit = .error (.tooLarge path bytes.length limit) := by
      simp only [checkSize, found, Node.size, large, if_true]
    rw [load, refused, if_pos large]
  · have sized : checkSize files path limit = .ok () := by
      simp only [checkSize, found, Node.size, large, if_false]
    rw [load, sized, if_neg large]
    simp only [checkEncoding, held]
    cases wideEncoding? bytes <;> rfl

theorem isBlankName_iff {name : String} :
    isBlankName name = true ↔ ∀ c ∈ name.toList, isBlank c = true := by
  rw [isBlankName, List.isEmpty_iff]
  constructor
  · intro nothing c member
    obtain ⟨before, after, split, blankBefore, blankAfter⟩ := padded_trim name.toList
    rw [split, nothing, List.append_nil, List.mem_append] at member
    exact member.elim (blankBefore c) (blankAfter c)
  · intro blank
    have padded := @trim_padded name.toList [] [] blank (by simp)
    rw [List.append_nil, List.append_nil] at padded
    exact padded

theorem checkShape_eq_ok_iff {path : String} {frame passed : Frame} :
    checkShape path frame = .ok passed ↔
      0 < frame.height ∧ (∀ name ∈ frame.names, isBlankName name = false) ∧ frame = passed := by
  unfold checkShape
  split
  · rename_i flat
    simp [flat]
  · rename_i tall
    split
    · rename_i blank
      obtain ⟨name, member, blankName⟩ := List.any_eq_true.mp blank
      simp only [reduceCtorEq, false_iff, not_and]
      intro _ named
      rw [named name member] at blankName
      cases blankName
    · rename_i named
      simp only [Except.ok.injEq]
      refine ⟨fun same => ⟨Nat.pos_of_ne_zero tall, ?_, same⟩, fun passed => passed.2.2⟩
      simpa using named

/-- What a file holds is refused as a table or for its shape, and for nothing else. -/
theorem ofBytes_eq_error {path : String} {bytes : List UInt8} {error : DatasetError}
    (refused : ofBytes path bytes = .error error) :
    error = .noTable path ∨ error = .noRecords path ∨ error = .blankColumnName path := by
  unfold ofBytes checkShape at refused
  split at refused
  · exact .inl (Except.error.inj refused).symm
  · split_ifs at refused
    · exact .inr (.inl (Except.error.inj refused).symm)
    · exact .inr (.inr (Except.error.inj refused).symm)

theorem of_ofBytes_eq_ok {path : String} {bytes : List UInt8} {frame : Frame}
    (passed : ofBytes path bytes = .ok frame) :
    frame.WellFormed ∧ 0 < frame.height ∧ ∀ name ∈ frame.names, isBlankName name = false := by
  rw [ofBytes] at passed
  cases read : frame? bytes with
  | none => simp [read] at passed
  | some found =>
      simp only [read] at passed
      obtain ⟨tall, named, rfl⟩ := checkShape_eq_ok_iff.mp passed
      exact ⟨wellFormed_of_frame? read, tall, named⟩

section Gates

variable {files : Files} {path : String} {bytes : List UInt8} {limit : Nat}

theorem load_eq_tooLarge_iff (found : files.find path = .ok (.file bytes)) {other : String}
    {size bound : Nat} :
    load files path limit = .error (.tooLarge other size bound) ↔
      limit < bytes.length ∧ other = path ∧ size = bytes.length ∧ bound = limit := by
  rw [load_of_file found]
  by_cases large : limit < bytes.length
  · simp [large, eq_comm]
  · simp only [large, if_false, false_and, iff_false]
    cases wideEncoding? bytes with
    | some encoding => simp
    | none =>
        intro refused
        simpa using ofBytes_eq_error refused

theorem load_eq_unsupportedEncoding_iff (found : files.find path = .ok (.file bytes))
    (small : bytes.length ≤ limit) {other encoding : String} :
    load files path limit = .error (.unsupportedEncoding other encoding) ↔
      other = path ∧ wideEncoding? bytes = some encoding := by
  rw [load_of_file found, if_neg (Nat.not_lt.mpr small)]
  cases wideEncoding? bytes with
  | some marked => simp [eq_comm]
  | none =>
      simp only [reduceCtorEq, and_false, iff_false]
      intro refused
      simpa using ofBytes_eq_error refused

/-- Behind the first two gates the limit is without influence. -/
theorem load_eq_ofBytes (found : files.find path = .ok (.file bytes))
    (small : bytes.length ≤ limit) (narrow : wideEncoding? bytes = none) :
    load files path limit = ofBytes path bytes := by
  rw [load_of_file found, if_neg (Nat.not_lt.mpr small), narrow]

theorem ofBytes_of_load_eq_ok (found : files.find path = .ok (.file bytes)) {frame : Frame}
    (passed : load files path limit = .ok frame) : ofBytes path bytes = .ok frame := by
  rw [load_of_file found] at passed
  split_ifs at passed
  cases marked : wideEncoding? bytes with
  | some encoding => simp [marked] at passed
  | none => simpa only [marked] using passed

end Gates

/-- The gates stand in one order. A file is too large exactly when it has more octets than the limit;
within the limit it has an unsupported encoding exactly when it starts with a mark of two octets; and
behind these gates the limit is without influence, a table without rows is refused before its names
are looked at, and a frame that passes is well formed, has rows, and has no blank name. -/
theorem load_gates {files : Files} {path : String} {bytes : List UInt8}
    (found : files.find path = .ok (.file bytes)) (limit : Nat) :
    (∀ other size bound, load files path limit = .error (.tooLarge other size bound) ↔
      limit < bytes.length ∧ other = path ∧ size = bytes.length ∧ bound = limit) ∧
    (bytes.length ≤ limit →
      (∀ other encoding, load files path limit = .error (.unsupportedEncoding other encoding) ↔
        other = path ∧ (encoding = "UTF-16 LE" ∧ [0xFF, 0xFE] <+: bytes ∨
          encoding = "UTF-16 BE" ∧ [0xFE, 0xFF] <+: bytes)) ∧
      (¬ Marked bytes →
        (∀ higher, bytes.length ≤ higher → load files path higher = load files path limit) ∧
        (load files path limit = .error (.noTable path) ∨
          load files path limit = .error (.noRecords path) ∨
          load files path limit = .error (.blankColumnName path) ∨
          ∃ frame, load files path limit = .ok frame) ∧
        ∀ frame, frame? bytes = some frame → frame.height = 0 →
          load files path limit = .error (.noRecords path))) ∧
    ∀ frame, load files path limit = .ok frame →
      frame.WellFormed ∧ 0 < frame.height ∧
        ∀ name ∈ frame.names, ∃ c ∈ name.toList, isBlank c = false := by
  refine ⟨fun other size bound => load_eq_tooLarge_iff found, fun small => ⟨?_, ?_⟩, ?_⟩
  · intro other encoding
    rw [load_eq_unsupportedEncoding_iff found small, wideEncoding?_eq_some_iff]
  · intro unmarked
    have narrow := wideEncoding?_eq_none_iff.mpr unmarked
    rw [load_eq_ofBytes found small narrow]
    refine ⟨fun higher enough => load_eq_ofBytes found enough narrow, ?_, ?_⟩
    · cases judged : ofBytes path bytes with
      | error error =>
          rcases ofBytes_eq_error judged with rfl | rfl | rfl
          · exact .inl rfl
          · exact .inr (.inl rfl)
          · exact .inr (.inr (.inl rfl))
      | ok frame => exact .inr (.inr (.inr ⟨frame, rfl⟩))
    · intro frame read flat
      simp only [ofBytes, read, checkShape, if_pos flat]
  · intro frame passed
    obtain ⟨formed, tall, named⟩ := of_ofBytes_eq_ok (ofBytes_of_load_eq_ok found passed)
    refine ⟨formed, tall, fun name member => ?_⟩
    have full : ¬ ∀ c ∈ name.toList, isBlank c = true := by
      rw [← isBlankName_iff, named name member]
      decide
    simpa using full

/-- A file of two octets that are a mark, and a header with a blank name over no rows. -/
def gatedFiles : Files :=
  ⟨[(["mark.csv"], .file [0xFE, 0xFF]), (["flat.csv"], .file [0x61, 0x2C, 0x20, 0x0A])]⟩

theorem load_gates_mark_flat :
    gatedFiles.find "mark.csv" = .ok (.file [0xFE, 0xFF]) ∧
    load gatedFiles "mark.csv" 1 = .error (.tooLarge "mark.csv" 2 1) ∧
    load gatedFiles "mark.csv" 2 = .error (.unsupportedEncoding "mark.csv" "UTF-16 BE") ∧
    gatedFiles.find "flat.csv" = .ok (.file [0x61, 0x2C, 0x20, 0x0A]) ∧
    load gatedFiles "flat.csv" 4 = .error (.noRecords "flat.csv") ∧
    load gatedFiles "flat.csv" defaultLimit = load gatedFiles "flat.csv" 4 := by
  have mark : gatedFiles.find "mark.csv" = .ok (.file [0xFE, 0xFF]) := by decide
  have flat : gatedFiles.find "flat.csv" = .ok (.file [0x61, 0x2C, 0x20, 0x0A]) := by decide
  have unmarked : ¬ Marked [0x61, 0x2C, 0x20, 0x0A] := by decide
  obtain ⟨same, -, empty⟩ := ((load_gates flat 4).2.1 (by decide)).2 unmarked
  refine ⟨mark, ?_, ?_, flat, ?_, same defaultLimit (by decide)⟩
  · exact ((load_gates mark 1).1 "mark.csv" 2 1).mpr (by decide)
  · exact (((load_gates mark 2).2.1 (by decide)).1 "mark.csv" "UTF-16 BE").mpr (by decide)
  · exact empty ⟨[⟨"a", .text, []⟩, ⟨" ", .text, []⟩]⟩ (by decide) rfl

end DatasetGate.Dataset
