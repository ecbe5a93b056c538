import DatasetGate.Json.Token
import DatasetGate.Json.Writer
import DatasetGate.Proofs.Text.Digits

/-!
# Tokens of written JSON

The tokens that the lexer makes of the parts a writer puts together: words, whole numbers, quoted
strings, and lists of parts with commas and blanks between them.
-/

set_option autoImplicit false

namespace DatasetGate.Json

open DatasetGate.Text

/-- Text that ends a number before it: none, a comma, the end of an array or object, or a blank. -/
def EndsNumber (rest : List Char) : Prop :=
  ∀ c ∈ rest.head?, c = ',' ∨ c = ']' ∨ c = '\x7d' ∨ isSpace c = true

/-- A text makes the given tokens, whatever follows that ends a number. -/
def Lexes (text : List Char) (made : List Token) : Prop :=
  ∀ rest, EndsNumber rest → Stage.between.scan (text ++ rest) = made ++ Stage.between.scan rest

theorem endsNumber_nil : EndsNumber [] := by
  intro c member
  cases member

theorem endsNumber_cons {c : Char} (ends : c = ',' ∨ c = ']' ∨ c = '\x7d' ∨ isSpace c = true)
    (rest : List Char) : EndsNumber (c :: rest) := by
  intro d member
  cases member
  exact ends

theorem scan_hold {stage : Stage} (next : Stage) {c : Char} {rest : List Char}
    (held : stage.step c rest = .hold next) : stage.scan (c :: rest) = next.scan rest := by
  simp only [Stage.scan, held, Step.hold, List.nil_append]

theorem scan_emit {stage : Stage} {token : Token} {c : Char} {rest : List Char}
    (emitted : stage.step c rest = .emit token) :
    stage.scan (c :: rest) = token :: Stage.between.scan rest := by
  simp only [Stage.scan, emitted, Step.emit, List.singleton_append]

theorem lexes_null : Lexes "null".toList [.null] := by
  intro rest _
  rfl

theorem lexes_bool (value : Bool) : Lexes (toString value).toList [.bool value] := by
  intro rest _
  cases value with
  | true => rfl
  | false => rfl

section Strings

theorem hexValue?_hexDigit {n : Nat} (small : n < 16) : hexValue? (hexDigit n) = some n := by
  revert n
  decide

theorem pushUnit_of_lt {n : Nat} (small : n < 0x20) (pieces : List Piece) :
    pushUnit pieces n = .char (Char.ofNat n) :: pieces := by
  have noLead : ¬ (0xD800 ≤ n ∧ n < 0xDC00) := by omega
  have noTrail : ¬ (0xDC00 ≤ n ∧ n < 0xE000) := by omega
  unfold pushUnit
  rw [if_neg noLead, if_neg noTrail]

theorem scan_shortEscape {mark value : Char} (marked : shortEscape? mark = some value)
    (noUnit : mark ≠ 'u') (pieces : List Piece) (rest : List Char) :
    (Stage.string pieces).scan ('\\' :: mark :: rest) =
      (Stage.string (.char value :: pieces)).scan rest := by
  rw [scan_hold (.escape pieces) rfl]
  apply scan_hold
  simp only [Stage.step, if_neg noUnit, marked]

theorem scan_longEscape {c : Char} (small : c.toNat < 0x20) (pieces : List Piece)
    (rest : List Char) :
    (Stage.string pieces).scan
      ('\\' :: 'u' :: '0' :: '0' :: hexDigit (c.toNat / 16) :: hexDigit (c.toNat % 16) :: rest) =
        (Stage.string (.char c :: pieces)).scan rest := by
  have high : hexValue? (hexDigit (c.toNat / 16)) = some (c.toNat / 16) :=
    hexValue?_hexDigit (by omega)
  have low : hexValue? (hexDigit (c.toNat % 16)) = some (c.toNat % 16) :=
    hexValue?_hexDigit (by omega)
  have whole : 16 * (c.toNat / 16) + c.toNat % 16 = c.toNat := Nat.div_add_mod _ _
  rw [scan_hold (.escape pieces) rfl, scan_hold (.unit pieces 4 0) rfl,
    scan_hold (.unit pieces 3 0) rfl, scan_hold (.unit pieces 2 0) rfl,
    scan_hold (.unit pieces 1 (c.toNat / 16)), scan_hold]
  · simp only [Stage.step, low, Nat.le_refl, if_true, whole, pushUnit_of_lt small,
      Char.ofNat_toNat]
  · simp [Stage.step, high]

theorem scan_quoteChar (c : Char) (pieces : List Piece) (rest : List Char) :
    (Stage.string pieces).scan (quoteChar c ++ rest) =
      (Stage.string (.char c :: pieces)).scan rest := by
  have short := fun (mark : Char) (marked : shortEscape? mark = some c) (noUnit : mark ≠ 'u') =>
    scan_shortEscape marked noUnit pieces rest
  unfold quoteChar
  split_ifs with quote backslash backspace feed line carriage tab control
  · subst quote
    exact short '"' rfl (by decide)
  · subst backslash
    exact short '\\' rfl (by decide)
  · subst backspace
    exact short 'b' rfl (by decide)
  · subst feed
    exact short 'f' rfl (by decide)
  · subst line
    exact short 'n' rfl (by decide)
  · subst carriage
    exact short 'r' rfl (by decide)
  · subst tab
    exact short 't' rfl (by decide)
  · exact scan_longEscape control pieces rest
  · apply scan_hold
    simp only [Stage.step, if_neg quote, if_neg backslash, if_neg control]

theorem scan_quoteChars (text : List Char) (pieces : List Piece) (rest : List Char) :
    (Stage.string pieces).scan (text.flatMap quoteChar ++ rest) =
      (Stage.string ((text.map Piece.char).reverse ++ pieces)).scan rest := by
  induction text generalizing pieces with
  | nil => rfl
  | cons c text text_ih =>
      rw [List.flatMap_cons, List.append_assoc, scan_quoteChar, text_ih]
      simp

theorem scan_quoted (text rest : List Char) :
    Stage.between.scan (quoted text ++ rest) =
      .string (text.map .char) :: Stage.between.scan rest := by
  rw [quoted, List.cons_append, List.cons_append, scan_hold (.string []) rfl, List.append_assoc,
    scan_quoteChars]
  apply scan_emit
  simp [Stage.step]

theorem lexes_quoted (text : List Char) : Lexes (quoted text) [.string (text.map .char)] := by
  intro rest _
  exact scan_quoted text rest

end Strings

section Numbers

theorem digit_eq_isDigit (c : Char) : NumberStage.digit c = isDigit c := by
  unfold NumberStage.digit isDigit digitValue?
  split <;> simp [*]

/-- A run of digits, where digits leave the lexer in its stage of the number. -/
theorem scan_digits {stage : NumberStage}
    (stays : ∀ c, NumberStage.digit c = true → stage.next? c = some stage) {digits : List Char}
    (digit : ∀ c ∈ digits, isDigit c = true) (text rest : List Char) :
    (Stage.number text stage).scan (digits ++ rest) =
      (Stage.number (digits.reverse ++ text) stage).scan rest := by
  induction digits generalizing text with
  | nil => rfl
  | cons c digits digits_ih =>
      have isOne : NumberStage.digit c = true := by
        rw [digit_eq_isDigit]
        exact digit c List.mem_cons_self
      have more := digits_ih (fun d member => digit d (List.mem_cons_of_mem _ member)) (c :: text)
      rw [List.cons_append, scan_hold (.number (c :: text) stage), more]
      · simp
      · simp [Stage.step, stays c isOne]

theorem next?_whole {c : Char} (digit : NumberStage.digit c = true) :
    NumberStage.whole.next? c = some .whole := by
  simp [NumberStage.next?, digit]

theorem next?_fraction {c : Char} (digit : NumberStage.digit c = true) :
    NumberStage.fraction.next? c = some .fraction := by
  simp [NumberStage.next?, digit]

theorem scan_number {stage : NumberStage} (complete : stage.complete = true) (text : List Char)
    {rest : List Char} (ends : EndsNumber rest) :
    (Stage.number text stage).scan rest = .number text.reverse :: Stage.between.scan rest := by
  cases rest with
  | nil => simp [Stage.scan, Stage.finish, complete]
  | cons c rest =>
      have last := ends c (by simp)
      simp only [isSpace, Bool.or_eq_true, decide_eq_true_eq, or_assoc] at last
      have refused : stage.next? c = none := by
        rcases last with rfl | rfl | rfl | rfl | rfl | rfl | rfl <;> cases stage <;> rfl
      have stops : stage.endsBefore c = true := by
        rcases last with rfl | rfl | rfl | rfl | rfl | rfl | rfl
        all_goals simp [NumberStage.endsBefore, complete]
        all_goals exact .inr rfl
      simp [Stage.scan, Stage.step, refused, stops]

theorem scan_sign (n : Nat) (text : List Char) {rest : List Char} (ends : EndsNumber rest) :
    (Stage.number text .sign).scan (Nat.toDigits 10 n ++ rest) =
      .number (text.reverse ++ Nat.toDigits 10 n) :: Stage.between.scan rest := by
  rcases toDigits_eq_cons n with zero | ⟨c, digits, shown, nonzero, digit⟩
  · rw [zero, List.singleton_append, scan_hold (.number ('0' :: text) .zero) rfl,
      scan_number rfl _ ends, List.reverse_cons]
  · have isOne : NumberStage.digit c = true := by rw [digit_eq_isDigit, digit]
    have more : ∀ d ∈ digits, isDigit d = true := fun d member =>
      isDigit_of_mem_toDigits (shown ▸ List.mem_cons_of_mem c member)
    rw [shown, List.cons_append, scan_hold (.number (c :: text) .whole),
      scan_digits (fun _ => next?_whole) more, scan_number rfl _ ends]
    · simp
    · simp [Stage.step, NumberStage.next?, nonzero, isOne]

theorem scan_between_digit {c : Char} (digit : isDigit c = true) (rest : List Char) :
    Stage.between.scan (c :: rest) = (Stage.number [] .sign).scan (c :: rest) := by
  have listed := mem_of_isDigit digit
  simp only [List.mem_cons, List.not_mem_nil, or_false] at listed
  rcases listed with rfl | rfl | rfl | rfl | rfl | rfl | rfl | rfl | rfl | rfl
  all_goals rfl

theorem lexes_integer (n : Int) : Lexes (toString n).toList [.number (toString n).toList] := by
  intro rest ends
  rw [toList_toString_int]
  split
  · rw [List.cons_append, scan_hold (.number ['-'] .sign) rfl, scan_sign _ _ ends]
    rfl
  · have scanned := scan_sign n.natAbs [] ends
    cases shown : Nat.toDigits 10 n.natAbs with
    | nil => exact absurd shown Nat.toDigits_ne_nil
    | cons c digits =>
        have digit : isDigit c = true :=
          isDigit_of_mem_toDigits (shown ▸ List.mem_cons_self)
        rw [shown] at scanned
        rw [List.cons_append, scan_between_digit digit]
        exact scanned

end Numbers

section Parts

/-- Text between tokens. -/
def Spaces (text : List Char) : Prop :=
  ∀ c ∈ text, isSpace c = true

theorem spaces_nil : Spaces [] := by
  intro c member
  cases member

theorem scan_spaces {space : List Char} (blank : Spaces space) (rest : List Char) :
    Stage.between.scan (space ++ rest) = Stage.between.scan rest := by
  induction space with
  | nil => rfl
  | cons c space space_ih =>
      have first : isSpace c = true := blank c List.mem_cons_self
      rw [List.cons_append, scan_hold .between,
        space_ih fun d member => blank d (List.mem_cons_of_mem c member)]
      simp only [Stage.step, start, first, if_true]

theorem joined_cons (separator part : List Char) (parts : List (List Char)) :
    joined separator (part :: parts) = part ++ parts.flatMap (separator ++ ·) := by
  induction parts generalizing part with
  | nil => simp [joined]
  | cons next parts parts_ih =>
      rw [joined, parts_ih, List.flatMap_cons]
      simp

/-- Tokens with commas between them. -/
def separated : List (List Token) → List Token
  | [] => []
  | made :: more => made ++ more.flatMap (.comma :: ·)

variable {space after : List Char}

theorem endsNumber_parts {parts : List (List Char)} {rest : List Char} (ends : EndsNumber rest) :
    EndsNumber (parts.flatMap (',' :: space ++ ·) ++ rest) := by
  cases parts with
  | nil => exact ends
  | cons part parts => exact endsNumber_cons (.inl rfl) _

theorem lexes_parts (blank : Spaces space) {parts : List (List Char)} {mades : List (List Token)}
    (lexed : List.Forall₂ Lexes parts mades) :
    Lexes (parts.flatMap (',' :: space ++ ·)) (mades.flatMap (.comma :: ·)) := by
  induction lexed with
  | nil =>
      intro rest _
      rfl
  | cons first _ more =>
      intro rest ends
      rw [List.flatMap_cons, List.append_assoc, List.append_assoc, List.cons_append,
        scan_emit rfl, scan_spaces blank, first _ (endsNumber_parts ends), more rest ends]
      simp

theorem lexes_joined (blank : Spaces space) {parts : List (List Char)}
    {mades : List (List Token)} (lexed : List.Forall₂ Lexes parts mades) :
    Lexes (joined (',' :: space) parts) (separated mades) := by
  cases lexed with
  | nil =>
      intro rest _
      rfl
  | cons first more =>
      intro rest ends
      rw [joined_cons, separated, List.append_assoc, first _ (endsNumber_parts ends),
        lexes_parts blank more rest ends, List.append_assoc]

theorem endsNumber_spaced (ends : EndsNumber after) {c : Char} (closes : c = ']' ∨ c = '\x7d')
    (rest : List Char) : EndsNumber (after ++ c :: rest) := by
  cases after with
  | nil => exact endsNumber_cons (.inr (closes.imp_right .inl)) rest
  | cons d more => exact ends

/-- Items on lines of their own, or on the line of the brackets. -/
theorem lexes_array (blank : Spaces space) (blankAfter : Spaces after) (ends : EndsNumber after)
    {parts : List (List Char)} {mades : List (List Token)}
    (lexed : List.Forall₂ Lexes parts mades) :
    Lexes ('[' :: space ++ joined (',' :: space) parts ++ after ++ [']'])
      (.openArray :: separated mades ++ [.closeArray]) := by
  intro rest _
  simp only [List.cons_append, List.append_assoc, List.nil_append]
  rw [scan_emit rfl, scan_spaces blank,
    lexes_joined blank lexed _ (endsNumber_spaced ends (.inl rfl) rest), scan_spaces blankAfter,
    scan_emit rfl]

theorem lexes_object (blank : Spaces space) (blankAfter : Spaces after) (ends : EndsNumber after)
    {parts : List (List Char)} {mades : List (List Token)}
    (lexed : List.Forall₂ Lexes parts mades) :
    Lexes ('\x7b' :: space ++ joined (',' :: space) parts ++ after ++ ['\x7d'])
      (.openObject :: separated mades ++ [.closeObject]) := by
  intro rest _
  simp only [List.cons_append, List.append_assoc, List.nil_append]
  rw [scan_emit rfl, scan_spaces blank,
    lexes_joined blank lexed _ (endsNumber_spaced ends (.inr rfl) rest), scan_spaces blankAfter,
    scan_emit rfl]

theorem lexes_member (key : List Char) (blank : Spaces space) {text : List Char}
    {made : List Token} (lexed : Lexes text made) :
    Lexes (quoted key ++ ':' :: space ++ text) (.string (key.map .char) :: .colon :: made) := by
  intro rest ends
  simp only [List.append_assoc, List.cons_append]
  rw [scan_quoted, scan_emit rfl, scan_spaces blank, lexed rest ends]

end Parts

end DatasetGate.Json
