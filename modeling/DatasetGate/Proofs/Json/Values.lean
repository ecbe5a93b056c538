import DatasetGate.Proofs.Json.Reading

/-!
# Values of written JSON

The value of what a written number or string reads as. A whole number is read back if it has 64 bits,
with a sign or without one.
-/

set_option autoImplicit false

namespace DatasetGate.Json

open DatasetGate.Text

theorem takeDigits_eq {digits : List Char} {significand : Nat}
    (fits : Nat.ofDigitChars 10 digits significand ≤ maxSignificand) :
    takeDigits digits significand = (Nat.ofDigitChars 10 digits significand, []) := by
  induction digits generalizing significand with
  | nil => rfl
  | cons c digits digits_ih =>
      rw [Nat.ofDigitChars_cons] at fits ⊢
      have grows : 10 * significand + (c.toNat - '0'.toNat) ≤
          Nat.ofDigitChars 10 digits (10 * significand + (c.toNat - '0'.toNat)) := by
        rw [Nat.ofDigitChars_eq_ofDigitChars_zero]
        exact Nat.le_add_right_of_le (Nat.le_mul_of_pos_left _ (by positivity))
      rw [takeDigits, if_neg (Nat.not_lt.mpr (Nat.le_trans grows fits))]
      exact digits_ih fits

theorem ofText_digits {digits : List Char} (digit : ∀ c ∈ digits, isDigit c = true)
    (negative : Bool) :
    NumberParts.ofText (if negative then '-' :: digits else digits) =
      ⟨negative, digits, none, none⟩ := by
  have taken : digits.takeWhile NumberStage.digit = digits := by
    rw [List.takeWhile_eq_self_iff]
    intro c member
    rw [digit_eq_isDigit, digit c member]
  have dropped : digits.dropWhile NumberStage.digit = [] := by
    rw [List.dropWhile_eq_nil_iff]
    intro c member
    rw [digit_eq_isDigit, digit c member]
  have unsigned : (digits.head? == some '-') = false := by
    rw [beq_eq_false_iff_ne]
    intro signed
    have minus := digit '-' (List.mem_of_mem_head? signed)
    cases minus
  unfold NumberStage.digit at taken dropped
  cases negative with
  | true =>
      simp only [NumberParts.ofText, if_true, List.head?_cons, beq_self_eq_true, List.drop_succ_cons,
        List.drop_zero, taken, dropped]
      rfl
  | false =>
      simp only [NumberParts.ofText, Bool.false_eq_true, if_false, unsigned, taken, dropped]
      rfl

/-- A whole number of 64 bits, with a sign or without one, is read back. -/
theorem numberValue?_whole {n : Int} (low : -0x8000000000000000 ≤ n) (high : n ≤ maxSignificand) :
    numberValue? (toString n).toList = some (.integer n) := by
  have digit : ∀ c ∈ Nat.toDigits 10 n.natAbs, isDigit c = true :=
    fun c member => isDigit_of_mem_toDigits member
  have whole : takeDigits (Nat.toDigits 10 n.natAbs) 0 = (n.natAbs, []) := by
    have value := @Nat.ofDigitChars_ten_toDigits n.natAbs
    rw [takeDigits_eq, value]
    rw [value]
    rw [maxSignificand] at high ⊢
    omega
  rw [toList_toString_int, numberValue?]
  by_cases negative : n < 0
  · have parts := ofText_digits digit true
    have magnitude : 0 < n.natAbs ∧ n.natAbs ≤ 0x8000000000000000 := by omega
    have value : -(n.natAbs : Int) = n := by omega
    rw [if_pos rfl] at parts
    rw [if_pos negative, parts]
    simp only [NumberParts.value?, whole, Option.isNone_none, List.isEmpty_nil, Bool.and_self,
      if_true, Bool.not_true, Bool.false_eq_true, if_false, if_pos magnitude, value]
  · have parts := ofText_digits digit false
    have value : (n.natAbs : Int) = n := by omega
    rw [if_neg (by decide)] at parts
    rw [if_neg negative, parts]
    simp only [NumberParts.value?, whole, Option.isNone_none, List.isEmpty_nil, Bool.and_self,
      if_true, Bool.not_false, value]

theorem numberValue?_integer {n : Int} (fits : FitsInt64 n) :
    numberValue? (toString n).toList = some (.integer n) := by
  obtain ⟨low, high⟩ := fits
  refine numberValue?_whole low ?_
  rw [maxSignificand]
  omega

theorem readPieces_chars (text : String) :
    readPieces (text.toList.map .char) = .ok text := by
  have whole : textOf? (text.toList.map .char) = some text.toList := by
    induction text.toList with
    | nil => rfl
    | cons c rest rest_ih =>
        rw [textOf?] at rest_ih ⊢
        simp [List.mapM_cons, rest_ih]
  simp only [readPieces, whole, String.ofList_toList]

theorem value_null (depth : Nat) : (draftOf .null).value depth = .ok .null := by
  rw [draftOf, Draft.value]

theorem value_bool (depth : Nat) (value : Bool) :
    (draftOf (.bool value)).value depth = .ok (.bool value) := by
  rw [draftOf, Draft.value]

theorem value_string (depth : Nat) (text : String) :
    (draftOf (.string text)).value depth = .ok (.string text) := by
  rw [draftOf, Draft.value, readPieces_chars]
  rfl

theorem value_integer (depth : Nat) {n : Int} (fits : FitsInt64 n) :
    (draftOf (.integer n)).value depth = .ok (.integer n) := by
  simp only [draftOf, Draft.value, numberValue?_integer fits]

theorem value_natural (depth : Nat) {n : Nat} (fits : n ≤ maxSignificand) :
    (draftOf (.integer n)).value depth = .ok (.integer n) := by
  have read : numberValue? (toString (n : Int)).toList = some (.integer n) :=
    numberValue?_whole (by omega) (by omega)
  simp only [draftOf, Draft.value, read]

theorem value_array {depth : Nat} {items : List Json}
    (restored : ∀ item ∈ items, (draftOf item).value depth = .ok item) :
    (draftOf (.array items)).value (depth + 1) = .ok (.array items) := by
  have values : Draft.values depth (itemDrafts items) = .ok items := by
    induction items with
    | nil => rfl
    | cons item items items_ih =>
        rw [itemDrafts, Draft.values, restored item List.mem_cons_self]
        dsimp only
        rw [items_ih fun other member => restored other (List.mem_cons_of_mem item member)]
        rfl
  simp only [draftOf, Draft.value, values]
  rfl

theorem value_object {depth : Nat} {members : List (String × Json)}
    (restored : ∀ member ∈ members, (draftOf member.2).value depth = .ok member.2) :
    (draftOf (.object members)).value (depth + 1) = .ok (.object members) := by
  have values : Draft.memberValues depth (memberDrafts members) = .ok members := by
    induction members with
    | nil => rfl
    | cons member members members_ih =>
        obtain ⟨key, item⟩ := member
        rw [memberDrafts, Draft.memberValues, readPieces_chars,
          restored (key, item) List.mem_cons_self]
        dsimp only
        rw [members_ih fun other member => restored other (List.mem_cons_of_mem _ member)]
        rfl
  simp only [draftOf, Draft.value, values]
  rfl

/-- The text of a value is read as that value if its draft has it. -/
theorem read_chars {value : Json} (written : Written value)
    (restored : (draftOf value).value maxDepth = .ok value) : read (chars value) = .ok value := by
  simp only [read, document_of_readsAs written, restored]

end DatasetGate.Json
