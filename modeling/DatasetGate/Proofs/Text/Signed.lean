import DatasetGate.Proofs.Text.Blank

/-!
# Signed digits

Text that spells a whole number: an optional sign, then one or more ASCII digits. The readers of
whole numbers read what is spelled, and the one with bounds reads exactly what lies within them.
-/

set_option autoImplicit false

namespace DatasetGate.Text

/-- An optional sign and what follows it. The first part says whether the sign is a minus. -/
def splitSign : List Char → Bool × List Char
  | '-' :: rest => (true, rest)
  | '+' :: rest => (false, rest)
  | cs => (false, cs)

def signed (negative : Bool) (magnitude : Nat) : Int :=
  if negative then -(magnitude : Int) else magnitude

theorem natAbs_signed (negative : Bool) (magnitude : Nat) :
    (signed negative magnitude).natAbs = magnitude := by
  cases negative <;> simp [signed]

/-- The sign of a number tells how it is written, zero apart. -/
theorem decide_signed_neg {negative : Bool} {magnitude : Nat}
    (nonzero : signed negative magnitude ≠ 0) :
    decide (signed negative magnitude < 0) = negative := by
  cases negative with
  | false => simp [signed]
  | true =>
      simp only [signed, if_true] at nonzero ⊢
      simpa [Nat.pos_iff_ne_zero] using nonzero

/-- A text spells a number in decimal digits behind an optional sign. -/
@[mk_iff]
structure Spells (cs : List Char) (n : Int) : Prop where
  nonempty : (splitSign cs).2 ≠ []
  digits : ∀ c ∈ (splitSign cs).2, isDigit c = true
  value : signed (splitSign cs).1 (Nat.ofDigitChars 10 (splitSign cs).2 0) = n

theorem mem_cases_splitSign {cs : List Char} {c : Char} (member : c ∈ cs) :
    c = '-' ∨ c = '+' ∨ c ∈ (splitSign cs).2 := by
  unfold splitSign
  split
  · exact (List.mem_cons.mp member).imp_right .inr
  · exact .inr (List.mem_cons.mp member)
  · exact .inr (.inr member)

theorem splitSign_of_digits {cs : List Char} (digits : ∀ c ∈ cs, isDigit c = true) :
    splitSign cs = (false, cs) := by
  apply splitSign.eq_3
  · rintro rest rfl
    cases digits '-' List.mem_cons_self
  · rintro rest rfl
    cases digits '+' List.mem_cons_self

namespace Spells

variable {cs : List Char} {n : Int}

theorem isBlank_eq_false (spelled : Spells cs n) {c : Char} (member : c ∈ cs) :
    isBlank c = false := by
  rcases mem_cases_splitSign member with rfl | rfl | digit
  · decide
  · decide
  · exact isBlank_of_isDigit (spelled.digits c digit)

theorem trim_eq_self (spelled : Spells cs n) : trim cs = cs := by
  apply Text.trim_eq_self
  · intro c first
    exact spelled.isBlank_eq_false (List.mem_of_head? first)
  · intro c last
    exact spelled.isBlank_eq_false (List.mem_of_getLast? last)

/-- Blanks around a number are trimmed, and nothing else is. -/
theorem trim_padded (spelled : Spells cs n) {before after : List Char}
    (blankBefore : ∀ c ∈ before, isBlank c = true) (blankAfter : ∀ c ∈ after, isBlank c = true) :
    trim (before ++ cs ++ after) = cs := by
  rw [Text.trim_padded blankBefore blankAfter, spelled.trim_eq_self]

end Spells

/-- The reader without bounds reads what is spelled. -/
theorem Spells.readInteger? {cs : List Char} {n : Int} (spelled : Spells cs n) :
    readInteger? cs = some n := by
  obtain ⟨nonempty, digits, rfl⟩ := spelled
  have read := readNatural?_eq_some digits nonempty
  unfold Text.readInteger?
  split
  · rw [splitSign] at read ⊢
    rw [read]
    rfl
  · rw [splitSign] at read ⊢
    rw [read]
    rfl
  · rename_i minus plus
    rw [splitSign.eq_3 cs minus plus] at read ⊢
    rw [read]
    rfl

theorem spells_toString (n : Int) : Spells (toString n).toList n := by
  have digits : ∀ c ∈ Nat.toDigits 10 n.natAbs, isDigit c = true :=
    fun c member => isDigit_of_mem_toDigits member
  rw [toList_toString_int, spells_iff]
  split
  · rename_i negative
    refine ⟨Nat.toDigits_ne_nil, digits, ?_⟩
    simp only [splitSign, Nat.ofDigitChars_ten_toDigits, signed, if_true]
    omega
  · rename_i natural
    rw [splitSign_of_digits digits]
    refine ⟨Nat.toDigits_ne_nil, digits, ?_⟩
    simp only [Nat.ofDigitChars_ten_toDigits, signed, Bool.false_eq_true, if_false]
    omega

theorem readInteger?_toString (n : Int) : readInteger? (toString n).toList = some n :=
  (spells_toString n).readInteger?

section Bounded

theorem le_ofDigitChars (cs : List Char) (value : Nat) : value ≤ Nat.ofDigitChars 10 cs value := by
  induction cs generalizing value with
  | nil => exact le_rfl
  | cons c rest rest_ih =>
      rw [Nat.ofDigitChars_cons]
      have more : value ≤ 10 * value + (c.toNat - '0'.toNat) := by omega
      exact more.trans (rest_ih _)

variable {low high : Int} (lowest : low ≤ 0) (highest : 0 ≤ high)

include lowest highest

/-- Magnitudes below one of a number within the bounds are within them too. -/
theorem signed_within {negative : Bool} {less more : Nat} (ordered : less ≤ more)
    (within : low ≤ signed negative more ∧ signed negative more ≤ high) :
    low ≤ signed negative less ∧ signed negative less ≤ high := by
  cases negative <;> simp only [signed, if_true, if_false, Bool.false_eq_true] at * <;> omega

theorem readDigitsWithin_cons {negative : Bool} {c : Char} (digit : isDigit c = true)
    (rest : List Char) (magnitude : Nat) :
    readDigitsWithin negative low high (c :: rest) magnitude =
      let next := 10 * magnitude + (c.toNat - '0'.toNat)
      if low ≤ signed negative next ∧ signed negative next ≤ high then
        readDigitsWithin negative low high rest next
      else .error (if negative then .tooSmall else .tooLarge) := by
  simp only [readDigitsWithin, digitValue?_eq_some digit]
  generalize 10 * magnitude + (c.toNat - '0'.toNat) = next
  cases negative with
  | true =>
      have fits : low ≤ signed true next ∧ signed true next ≤ high ↔ ¬ -(next : Int) < low := by
        simp only [signed, if_true]
        omega
      simp only [fits, ite_not]
      simp
  | false =>
      have fits : low ≤ signed false next ∧ signed false next ≤ high ↔ ¬ high < (next : Int) := by
        simp only [signed, Bool.false_eq_true, if_false]
        omega
      simp only [fits, ite_not]
      simp

/-- A magnitude only grows, so a number within the bounds is never refused on the way. -/
theorem readDigitsWithin_eq_ok_iff {negative : Bool} {cs : List Char} {magnitude : Nat} {n : Int}
    (within : low ≤ signed negative magnitude ∧ signed negative magnitude ≤ high) :
    readDigitsWithin negative low high cs magnitude = .ok n ↔
      (∀ c ∈ cs, isDigit c = true) ∧ signed negative (Nat.ofDigitChars 10 cs magnitude) = n ∧
        low ≤ n ∧ n ≤ high := by
  induction cs generalizing magnitude with
  | nil =>
      rw [readDigitsWithin, Nat.ofDigitChars_nil, ← signed, Except.ok.injEq]
      constructor
      · rintro rfl
        exact ⟨List.forall_mem_nil _, rfl, within⟩
      · exact fun read => read.2.1
  | cons c rest rest_ih =>
      cases digit : isDigit c with
      | false =>
          have none : digitValue? c = none := by simpa [isDigit] using digit
          simp [readDigitsWithin, none, digit]
      | true =>
          rw [readDigitsWithin_cons lowest highest digit, Nat.ofDigitChars_cons]
          simp only [List.forall_mem_cons, digit, true_and]
          split
          · rename_i fits
            exact rest_ih fits
          · rename_i exceeds
            refine iff_of_false ?_ ?_
            · intro read
              cases read
            · rintro ⟨-, rfl, fits⟩
              exact exceeds (signed_within lowest highest (le_ofDigitChars rest _) fits)

theorem readBounded_eq_ok_iff {cs : List Char} {n : Int} :
    readBounded low high cs = .ok n ↔ Spells cs n ∧ low ≤ n ∧ n ≤ high := by
  have zero (negative : Bool) : low ≤ signed negative 0 ∧ signed negative 0 ≤ high := by
    cases negative <;> exact ⟨lowest, highest⟩
  have read : readBounded low high cs = .ok n ↔ (splitSign cs).2 ≠ [] ∧
      readDigitsWithin (splitSign cs).1 low high (splitSign cs).2 0 = .ok n := by
    unfold readBounded
    split
    · simp [splitSign]
    · simp [splitSign]
    · simp [splitSign]
    · rename_i rest filled
      simpa [splitSign] using fun _ => filled
    · rename_i rest filled
      simpa [splitSign] using fun _ => filled
    · rename_i empty _ _ minus plus
      have bare : splitSign cs = (false, cs) := splitSign.eq_3 cs minus plus
      simpa [bare] using fun _ => empty
  rw [read, readDigitsWithin_eq_ok_iff lowest highest (zero _), spells_iff, and_assoc, and_assoc]

/-- A number is read from a text exactly if it is spelled there between blanks. -/
theorem readBounded_trim_eq_ok_iff {text : List Char} {n : Int} :
    readBounded low high (trim text) = .ok n ↔
      (∃ digits, Padded digits text ∧ Spells digits n) ∧ low ≤ n ∧ n ≤ high := by
  rw [readBounded_eq_ok_iff lowest highest]
  refine and_congr_left fun _ => ⟨fun spelled => ⟨_, padded_trim text, spelled⟩, ?_⟩
  rintro ⟨digits, padded, spelled⟩
  rwa [(trim_eq_iff_padded spelled.trim_eq_self).mpr padded]

end Bounded

end DatasetGate.Text
