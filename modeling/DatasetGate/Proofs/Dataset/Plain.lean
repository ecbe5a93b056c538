import DatasetGate.Dataset.Table
import DatasetGate.Proofs.Text.Utf8

/-!
# Plain delimited text

Text whose fields hold no quotes, commas or line ends. It splits into the lines and fields that it was
put together from, whether or not its last line is ended.
-/

set_option autoImplicit false

namespace DatasetGate.Dataset

open DatasetGate.Text

/-- Octets of a line without quotes. -/
def PlainLine (line : List UInt8) : Prop :=
  ∀ b ∈ line, b ≠ quote ∧ b ≠ lineFeed ∧ b ≠ carriageReturn

/-- Octets of a field without quotes. -/
def PlainField (field : List UInt8) : Prop :=
  PlainLine field ∧ comma ∉ field

/-- A character that needs no quotes. -/
def PlainChar (c : Char) : Prop :=
  c ≠ '"' ∧ c ≠ ',' ∧ c ≠ '\n' ∧ c ≠ '\r'

instance (c : Char) : Decidable (PlainChar c) :=
  inferInstanceAs (Decidable (c ≠ '"' ∧ c ≠ ',' ∧ c ≠ '\n' ∧ c ≠ '\r'))

theorem toNat_of_mem_encodeChar {c : Char} {b : UInt8} (member : b ∈ Utf8.encodeChar c) :
    b.toNat = c.toNat ∨ 128 ≤ b.toNat := by
  have bound : c.toNat < 0x110000 := by
    rcases c.valid with below | ⟨-, below⟩
    · exact Nat.lt_trans below (by norm_num)
    · exact below
  unfold Utf8.encodeChar at member
  simp only at member
  generalize c.toNat = n at bound member
  split_ifs at member with one two three
  all_goals simp only [List.mem_cons, List.not_mem_nil, or_false] at member
  · left
    rw [member, UInt8.toNat_ofNat']
    omega
  · right
    rcases member with rfl | rfl
    all_goals rw [UInt8.toNat_ofNat']
    all_goals omega
  · right
    rcases member with rfl | rfl | rfl
    all_goals rw [UInt8.toNat_ofNat']
    all_goals omega
  · right
    rcases member with rfl | rfl | rfl | rfl
    all_goals rw [UInt8.toNat_ofNat']
    all_goals omega

/-- An ASCII octet of a text is one of its characters. -/
theorem mem_of_mem_encode {cs : List Char} {b : UInt8} (member : b ∈ Utf8.encode cs)
    (ascii : b.toNat < 128) : Char.ofNat b.toNat ∈ cs := by
  obtain ⟨c, charMember, byteMember⟩ := List.mem_flatMap.mp member
  have value : b.toNat = c.toNat := by
    rcases toNat_of_mem_encodeChar byteMember with same | high
    · exact same
    · omega
  rw [value, Char.ofNat_toNat]
  exact charMember

theorem plainLine_encode {cs : List Char} (plain : ∀ c ∈ cs, c ≠ '"' ∧ c ≠ '\n' ∧ c ≠ '\r') :
    PlainLine (Utf8.encode cs) := by
  intro b member
  refine ⟨?_, ?_, ?_⟩
  · rintro rfl
    exact (plain _ (mem_of_mem_encode member (by decide))).1 rfl
  · rintro rfl
    exact (plain _ (mem_of_mem_encode member (by decide))).2.1 rfl
  · rintro rfl
    exact (plain _ (mem_of_mem_encode member (by decide))).2.2 rfl

theorem plainField_encode {cs : List Char} (plain : ∀ c ∈ cs, PlainChar c) :
    PlainField (Utf8.encode cs) := by
  refine ⟨plainLine_encode fun c member => ⟨(plain c member).1, (plain c member).2.2⟩, ?_⟩
  intro member
  exact (plain _ (mem_of_mem_encode member (by decide))).2.1 rfl

theorem splitRecords_line {line : List UInt8} (plain : PlainLine line) (rest : List UInt8) :
    splitRecords false (line ++ lineFeed :: rest) = line :: splitRecords false rest := by
  induction line with
  | nil => simp [splitRecords]
  | cons b line line_ih =>
      obtain ⟨noQuote, noFeed, -⟩ := plain b List.mem_cons_self
      have more := line_ih fun c member => plain c (List.mem_cons_of_mem b member)
      have even : (b == quote) = false := beq_eq_false_iff_ne.mpr noQuote
      rw [List.cons_append, splitRecords, if_neg (fun ends => noFeed ends.1), even, Bool.xor_false,
        more, prepend]

theorem splitRecords_lastLine {line : List UInt8} (plain : PlainLine line) (nonempty : line ≠ []) :
    splitRecords false line = [line] := by
  induction line with
  | nil => exact absurd rfl nonempty
  | cons b line line_ih =>
      obtain ⟨noQuote, noFeed, -⟩ := plain b List.mem_cons_self
      have even : (b == quote) = false := beq_eq_false_iff_ne.mpr noQuote
      rw [splitRecords, if_neg (fun ends => noFeed ends.1), even, Bool.xor_false]
      cases line with
      | nil => rfl
      | cons c line =>
          rw [line_ih (fun d member => plain d (List.mem_cons_of_mem b member))
            (List.cons_ne_nil c line), prepend]

/-- Lines are the records of the text they make, with or without a line feed at its end. -/
theorem splitRecords_lines {first : List UInt8} {lines : List (List UInt8)} {ending : List UInt8}
    (plain : ∀ line ∈ first :: lines, PlainLine line) (nonempty : ∀ line ∈ first :: lines, line ≠ [])
    (ended : ending = [] ∨ ending = [lineFeed]) :
    splitRecords false (first ++ (lines.flatMap (lineFeed :: ·) ++ ending)) = first :: lines := by
  induction lines generalizing first with
  | nil =>
      rcases ended with rfl | rfl
      · simpa using splitRecords_lastLine (plain first (by simp)) (nonempty first (by simp))
      · simpa [splitRecords] using splitRecords_line (plain first (by simp)) []
  | cons line lines lines_ih =>
      have more := lines_ih (fun other member => plain other (List.mem_cons_of_mem first member))
        (fun other member => nonempty other (List.mem_cons_of_mem first member))
      rw [List.flatMap_cons, List.append_assoc, List.cons_append,
        splitRecords_line (plain first List.mem_cons_self), more]

theorem dropReturn_plain {bytes : List UInt8} (plain : PlainLine bytes) :
    dropReturn bytes = bytes := by
  have noReturn : bytes.getLast? ≠ some carriageReturn := by
    intro last
    exact (plain _ (List.mem_of_getLast? last)).2.2 rfl
  rw [dropReturn, if_neg noReturn]

theorem splitFields_comma {stage : FieldStage} (unquoted : stage = .start ∨ stage = .plain)
    {field : List UInt8} (plain : PlainField field) (rest : List UInt8) :
    splitFields stage (field ++ comma :: rest) =
      (splitFields .start rest).map (⟨field, false⟩ :: ·) := by
  induction field generalizing stage with
  | nil => rcases unquoted with rfl | rfl <;> rfl
  | cons b field field_ih =>
      obtain ⟨bytes, noCommas⟩ := plain
      obtain ⟨noQuote, noFeed, -⟩ := bytes b List.mem_cons_self
      have noComma : b ≠ comma := fun same => noCommas (same ▸ List.mem_cons_self)
      have next : stage.next b = .plain := by
        rcases unquoted with rfl | rfl
        · simp [FieldStage.next, noQuote]
        · rfl
      have more := field_ih (.inr rfl) ⟨fun c member => bytes c (List.mem_cons_of_mem b member),
        fun member => noCommas (List.mem_cons_of_mem b member)⟩
      rw [List.cons_append, splitFields, if_neg (fun ends => noComma ends.1),
        if_neg (fun ends => noFeed ends.1), next, more, Option.map_map]
      rfl

/-- Behind its first octet a field is quoted or not for good. -/
theorem splitFields_within {record : List UInt8} (noComma : comma ∉ record)
    (noFeed : lineFeed ∉ record) {stage : FieldStage} (within : stage ≠ .start) :
    splitFields stage record = some [⟨record, stage.close.quoted⟩] := by
  induction record generalizing stage with
  | nil => cases stage <;> rfl
  | cons b rest rest_ih =>
      rw [List.mem_cons, not_or] at noComma noFeed
      have settled : stage.next b ≠ .start ∧
          (stage.next b).close.quoted = stage.close.quoted := by
        cases stage with
        | start => exact absurd rfl within
        | plain => exact ⟨nofun, rfl⟩
        | quoted odd => exact ⟨nofun, rfl⟩
      rw [splitFields, if_neg (fun ends => noComma.1 ends.1.symm),
        if_neg (fun ends => noFeed.1 ends.1.symm), rest_ih noComma.2 noFeed.2 settled.1, settled.2]
      rfl

/-- A record without commas and line feeds is one field, quoted if a quote opens it. -/
theorem splitFields_single {b : UInt8} {rest : List UInt8} (noComma : comma ∉ b :: rest)
    (noFeed : lineFeed ∉ b :: rest) :
    splitFields .start (b :: rest) = some [⟨b :: rest, b == quote⟩] := by
  rw [List.mem_cons, not_or] at noComma noFeed
  have settled : FieldStage.next .start b ≠ .start ∧
      (FieldStage.next .start b).close.quoted = (b == quote) := by
    by_cases opens : b = quote
    · simp [FieldStage.next, opens, FieldStage.close]
    · simp [FieldStage.next, opens, FieldStage.close]
  rw [splitFields, if_neg (fun ends => noComma.1 ends.1.symm),
    if_neg (fun ends => noFeed.1 ends.1.symm),
    splitFields_within noComma.2 noFeed.2 settled.1, settled.2]
  rfl

theorem splitFields_lastField {stage : FieldStage} (unquoted : stage = .start ∨ stage = .plain)
    {field : List UInt8} (plain : PlainField field) :
    splitFields stage field = some [⟨field, false⟩] := by
  obtain ⟨bytes, noComma⟩ := plain
  have noFeed : lineFeed ∉ field := fun member => (bytes _ member).2.1 rfl
  rcases unquoted with rfl | rfl
  · cases field with
    | nil => rfl
    | cons b rest =>
        have noQuote : (b == quote) = false :=
          beq_eq_false_iff_ne.mpr (bytes b List.mem_cons_self).1
        rw [splitFields_single noComma noFeed, noQuote]
  · exact splitFields_within noComma noFeed nofun

/-- Fields with commas between them are the fields of the line they make. -/
theorem splitFields_fields {first : List UInt8} {fields : List (List UInt8)}
    (plain : ∀ field ∈ first :: fields, PlainField field) :
    splitFields .start (first ++ fields.flatMap (comma :: ·)) =
      some ((first :: fields).map fun field => ⟨field, false⟩) := by
  induction fields generalizing first with
  | nil => simpa using splitFields_lastField (.inl rfl) (plain first List.mem_cons_self)
  | cons field fields fields_ih =>
      have more := fields_ih fun other member => plain other (List.mem_cons_of_mem first member)
      rw [List.flatMap_cons, List.cons_append,
        splitFields_comma (.inl rfl) (plain first List.mem_cons_self), more]
      rfl

end DatasetGate.Dataset
