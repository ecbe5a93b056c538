import DatasetGate.Proofs.Json.Lexing

/-!
# Layouts of tokens

A layout of tokens is a text that spells them one after another, with any white space around them.
The lexer makes exactly the tokens of a layout, and every text in which it meets no fault is a
layout of the tokens that it makes.
-/

set_option autoImplicit false

namespace DatasetGate.Json

/-- Where a number stands after more of its characters. -/
def NumberStage.run? : NumberStage → List Char → Option NumberStage
  | stage, [] => some stage
  | stage, c :: rest => (stage.next? c).bind fun next => next.run? rest

/-- A number literal, with a sign or without one. It ends where a number may end. -/
inductive NumeralText : List Char → Prop where
  | unsigned {text : List Char} {stage : NumberStage}
      (run : NumberStage.sign.run? text = some stage) (complete : stage.complete = true) :
      NumeralText text
  | negative {text : List Char} {stage : NumberStage}
      (run : NumberStage.sign.run? text = some stage) (complete : stage.complete = true) :
      NumeralText ('-' :: text)

/-- The number that hexadecimal digits make behind those that were read before. -/
def unitValue? : Nat → List Char → Option Nat
  | value, [] => some value
  | value, c :: rest => (hexValue? c).bind fun digit => unitValue? (16 * value + digit) rest

/-- The characters of a string literal between pieces read before them and behind them, in reverse.
A unit is written as four hexadecimal digits. -/
inductive Spelled : List Piece → List Char → List Piece → Prop where
  | nil (pieces : List Piece) : Spelled pieces [] pieces
  | plain {c : Char} {before after : List Piece} {text : List Char} (noQuote : c ≠ '"')
      (noEscape : c ≠ '\\') (printed : 0x20 ≤ c.toNat)
      (more : Spelled (.char c :: before) text after) : Spelled before (c :: text) after
  | short {mark value : Char} {before after : List Piece} {text : List Char}
      (marked : shortEscape? mark = some value)
      (more : Spelled (.char value :: before) text after) :
      Spelled before ('\\' :: mark :: text) after
  | long {digits : List Char} {value : Nat} {before after : List Piece} {text : List Char}
      (four : digits.length = 4) (read : unitValue? 0 digits = some value)
      (more : Spelled (pushUnit before value) text after) :
      Spelled before ('\\' :: 'u' :: digits ++ text) after

namespace Token

/-- The only spelling of a bracket, a mark or a word. -/
def fixed? : Token → Option (List Char)
  | .openArray => some ['[']
  | .closeArray => some [']']
  | .openObject => some ['\x7b']
  | .closeObject => some ['\x7d']
  | .comma => some [',']
  | .colon => some [':']
  | .null => some ['n', 'u', 'l', 'l']
  | .bool true => some ['t', 'r', 'u', 'e']
  | .bool false => some ['f', 'a', 'l', 's', 'e']
  | .number _ | .string _ | .broken _ => none

/-- A text is a spelling of a token. A string has many. -/
inductive Spells : Token → List Char → Prop where
  | fixed {token : Token} {text : List Char} (spelled : token.fixed? = some text) :
      Spells token text
  | number {text : List Char} (literal : NumeralText text) : Spells (.number text) text
  | string {pieces : List Piece} {body : List Char} (spelled : Spelled [] body pieces) :
      Spells (.string pieces.reverse) ('"' :: body ++ ['"'])

end Token

/-- A text is made of spellings of the tokens, with white space around them. -/
inductive Laid : List Token → List Char → Prop where
  | blank {space : List Char} (blank : Spaces space) : Laid [] space
  | token {space lexeme rest : List Char} {token : Token} {made : List Token} (blank : Spaces space)
      (spells : token.Spells lexeme) (more : Laid made rest) :
      Laid (token :: made) (space ++ lexeme ++ rest)

section Scanning

theorem scan_run {stage last : NumberStage} {digits : List Char}
    (run : stage.run? digits = some last) (text rest : List Char) :
    (Stage.number text stage).scan (digits ++ rest) =
      (Stage.number (digits.reverse ++ text) last).scan rest := by
  induction digits generalizing stage text with
  | nil =>
      cases run
      rfl
  | cons c digits ih =>
      obtain ⟨next, taken, run⟩ := Option.bind_eq_some_iff.mp run
      have more := ih run (c :: text)
      rw [List.cons_append, scan_hold (.number (c :: text) next), more]
      · simp
      · simp only [Stage.step, taken]

theorem isDigit_of_next?_sign {c : Char} {stage : NumberStage}
    (taken : NumberStage.sign.next? c = some stage) : Text.isDigit c = true := by
  rw [← digit_eq_isDigit]
  by_cases zero : c = '0'
  · subst zero
    decide
  · simp only [NumberStage.next?, zero, if_false] at taken
    split at taken
    · assumption
    · cases taken

theorem scan_literal {text : List Char} (literal : NumeralText text) {rest : List Char}
    (ends : EndsNumber rest) :
    Stage.between.scan (text ++ rest) = .number text :: Stage.between.scan rest := by
  cases literal with
  | @unsigned _ stage run complete =>
      cases text with
      | nil =>
          cases run
          cases complete
      | cons c text =>
          obtain ⟨next, taken, _⟩ := Option.bind_eq_some_iff.mp run
          rw [List.cons_append, scan_between_digit (isDigit_of_next?_sign taken),
            ← List.cons_append, scan_run run, scan_number complete _ ends]
          simp
  | negative run complete =>
      rw [List.cons_append, scan_hold (.number ['-'] .sign) rfl, scan_run run,
        scan_number complete _ ends]
      simp

theorem scan_unit {digits : List Char} {value last : Nat}
    (read : unitValue? value digits = some last) {due : Nat} (all : digits.length = due + 1)
    (pieces : List Piece) (rest : List Char) :
    (Stage.unit pieces (due + 1) value).scan (digits ++ rest) =
      (Stage.string (pushUnit pieces last)).scan rest := by
  induction digits generalizing value due with
  | nil => cases all
  | cons c digits ih =>
      obtain ⟨digit, hex, read⟩ := Option.bind_eq_some_iff.mp read
      rw [List.cons_append]
      cases due with
      | zero =>
          obtain rfl := List.length_eq_zero_iff.mp (Nat.succ.inj all)
          cases read
          apply scan_hold
          simp only [Stage.step, hex, Nat.le_refl, if_true]
      | succ due =>
          rw [← ih read (Nat.succ.inj all)]
          apply scan_hold
          have more : ¬ due + 1 + 1 ≤ 1 := by omega
          simp only [Stage.step, hex, if_neg more, Nat.add_sub_cancel]

theorem scan_spelled {before after : List Piece} {text : List Char}
    (spelled : Spelled before text after) (rest : List Char) :
    (Stage.string before).scan (text ++ rest) = (Stage.string after).scan rest := by
  induction spelled with
  | nil => rfl
  | @plain c before after text noQuote noEscape printed _ ih =>
      rw [← ih]
      apply scan_hold
      have noControl : ¬ c.toNat < 0x20 := by omega
      simp only [Stage.step, if_neg noQuote, if_neg noEscape, if_neg noControl]
  | @short mark value before after text marked _ ih =>
      have noUnit : mark ≠ 'u' := by
        rintro rfl
        cases marked
      rw [← ih]
      exact scan_shortEscape marked noUnit before _
  | @long digits value before after text four read _ ih =>
      simp only [List.cons_append, List.append_assoc]
      rw [← ih, scan_hold (.escape before) rfl, scan_hold (.unit before 4 0) rfl,
        scan_unit read four]

/-- A spelling is one token, where nothing behind a number goes on with it. -/
theorem Token.Spells.scan {token : Token} {lexeme : List Char} (spells : token.Spells lexeme)
    {rest : List Char} (ends : ∀ text, token = .number text → EndsNumber rest) :
    Stage.between.scan (lexeme ++ rest) = token :: Stage.between.scan rest := by
  cases spells with
  | fixed spelled =>
      cases token with
      | bool value => cases value <;> cases spelled <;> rfl
      | number _ | string _ | broken _ => cases spelled
      | _ =>
          cases spelled
          rfl
  | number literal => exact scan_literal literal (ends _ rfl)
  | string spelled =>
      rw [List.cons_append, List.cons_append, List.append_assoc, scan_hold (.string []) rfl,
        scan_spelled spelled]
      exact scan_emit rfl

/-- A comma or the end of an array or object. -/
def Token.closes : Token → Bool
  | .comma | .closeArray | .closeObject => true
  | _ => false

/-- What may stand behind a token: a number is followed by a comma or an end. -/
def Token.MayPrecede (token next : Token) : Prop :=
  (∃ text, token = .number text) → next.closes = true

theorem endsNumber_spaces {space : List Char} (blank : Spaces space) : EndsNumber space :=
  fun c member => .inr (.inr (.inr (blank c (List.mem_of_mem_head? member))))

theorem Laid.endsNumber {made : List Token} {text : List Char} (laid : Laid made text)
    (closes : ∀ next ∈ made.head?, next.closes = true) : EndsNumber text := by
  cases laid with
  | blank blank => exact endsNumber_spaces blank
  | @token space lexeme rest token made blank spells _ =>
      cases space with
      | cons c space => exact endsNumber_cons (.inr (.inr (.inr (blank c List.mem_cons_self)))) _
      | nil =>
          have closing := closes token rfl
          cases spells with
          | fixed spelled =>
              cases token <;> cases closing <;> cases spelled
              · exact endsNumber_cons (.inr (.inl rfl)) _
              · exact endsNumber_cons (.inr (.inr (.inl rfl))) _
              · exact endsNumber_cons (.inl rfl) _
          | number => cases closing
          | string => cases closing

/-- The tokens of a layout are those that were laid out. -/
theorem Laid.tokens_eq {made : List Token} {text : List Char} (laid : Laid made text)
    (apart : made.IsChain Token.MayPrecede) : tokens text = made := by
  rw [tokens]
  induction laid with
  | blank blank => simpa [Stage.scan, Stage.finish] using scan_spaces blank []
  | @token space lexeme rest token made blank spells more ih =>
      rw [List.append_assoc, scan_spaces blank, spells.scan, ih apart.tail]
      rintro text rfl
      refine more.endsNumber fun next member => ?_
      obtain ⟨others, rfl⟩ : ∃ others, made = next :: others := by
        cases made with
        | nil => cases member
        | cons other others =>
            cases member
            exact ⟨others, rfl⟩
      exact apart.rel ⟨text, rfl⟩

end Scanning

section Layouts

/-- No token is broken. -/
def Unbroken (made : List Token) : Prop :=
  ∀ reason, .broken reason ∉ made

/-- The rest of the spelling of a token of which the lexer has read a part. -/
inductive Stage.Completes : Stage → List Char → Token → Prop where
  | number {text rest : List Char} {stage last : NumberStage} (run : stage.run? rest = some last)
      (complete : last.complete = true) :
      Completes (.number text stage) rest (.number (text.reverse ++ rest))
  | word (rest : List Char) (token : Token) : Completes (.word rest token) rest token
  | string {before after : List Piece} {body : List Char} (spelled : Spelled before body after) :
      Completes (.string before) (body ++ ['"']) (.string after.reverse)
  | escape {before after : List Piece} {body : List Char}
      (spelled : Spelled before ('\\' :: body) after) :
      Completes (.escape before) (body ++ ['"']) (.string after.reverse)
  | unit {before after : List Piece} {digits body : List Char} {due value last : Nat}
      (all : digits.length = max 1 due) (read : unitValue? value digits = some last)
      (spelled : Spelled (pushUnit before last) body after) :
      Completes (.unit before due value) (digits ++ body ++ ['"']) (.string after.reverse)

/-- A text goes on with the token that the lexer is in, and then is a layout. -/
inductive Stage.Resumes : Stage → List Token → List Char → Prop where
  | between {made : List Token} {text : List Char} (laid : Laid made text) :
      Resumes .between made text
  | within {stage : Stage} {lexeme rest : List Char} {token : Token} {made : List Token}
      (completes : stage.Completes lexeme token) (laid : Laid made rest) :
      Resumes stage (token :: made) (lexeme ++ rest)

theorem Unbroken.tail {token : Token} {made : List Token} (unbroken : Unbroken (token :: made)) :
    Unbroken made :=
  fun reason member => unbroken reason (List.mem_cons_of_mem token member)

theorem Laid.space_cons {made : List Token} {text : List Char} (laid : Laid made text) {c : Char}
    (blank : isSpace c = true) : Laid made (c :: text) := by
  cases laid with
  | blank spaces => exact .blank (List.forall_mem_cons.mpr ⟨blank, spaces⟩)
  | token spaces spells more => exact .token (List.forall_mem_cons.mpr ⟨blank, spaces⟩) spells more

theorem Laid.token_cons {token : Token} {lexeme rest : List Char} {made : List Token}
    (spells : token.Spells lexeme) (laid : Laid made rest) :
    Laid (token :: made) (lexeme ++ rest) :=
  .token spaces_nil spells laid

theorem Stage.Resumes.laid {made : List Token} {text : List Char}
    (resumes : Stage.between.Resumes made text) : Laid made text := by
  cases resumes with
  | between laid => exact laid
  | within completes => cases completes

/-- A token that was begun is spelled by its beginning with the rest of it. -/
theorem Stage.Resumes.laid_of_spells {stage : Stage} {made : List Token} {text : List Char}
    (resumes : stage.Resumes made text) (begun : stage ≠ .between) (lead : List Char)
    (spells : ∀ lexeme token, stage.Completes lexeme token → token.Spells (lead ++ lexeme)) :
    Laid made (lead ++ text) := by
  cases resumes with
  | between => exact absurd rfl begun
  | within completes laid =>
      rw [← List.append_assoc]
      exact .token_cons (spells _ _ completes) laid

/-- One character more goes on with the token that the lexer is in. -/
theorem Stage.Resumes.cons {stage next : Stage} {made : List Token} {text : List Char}
    (resumes : next.Resumes made text) (begun : next ≠ .between) {c : Char}
    (completes : ∀ lexeme token, next.Completes lexeme token →
      stage.Completes (c :: lexeme) token) : stage.Resumes made (c :: text) := by
  cases resumes with
  | between => exact absurd rfl begun
  | within within laid => exact .within (completes _ _ within) laid

theorem scan_cons (stage : Stage) (c : Char) (rest : List Char) :
    stage.scan (c :: rest) = (stage.step c rest).tokens ++
      match (stage.step c rest).next with
      | some next => next.scan rest
      | none => [] := rfl

/-- What the first character of a token can start. -/
inductive Starts : Char → Step → Prop where
  | space {c : Char} (blank : isSpace c = true) : Starts c (.hold .between)
  | mark {c : Char} {token : Token} (spelled : token.fixed? = some [c]) : Starts c (.emit token)
  | string : Starts '"' (.hold (.string []))
  | sign : Starts '-' (.hold (.number ['-'] .sign))
  | digit {c : Char} {stage : NumberStage} (taken : NumberStage.sign.next? c = some stage) :
      Starts c (.hold (.number [c] stage))
  | word {c : Char} {rest : List Char} {token : Token} (spelled : token.fixed? = some (c :: rest)) :
      Starts c (.hold (.word rest token))
  | fault (c : Char) : Starts c (.stop (.fault .malformed))

theorem starts (c : Char) : Starts c (start c) := by
  unfold start
  split_ifs with space openArray closeArray openObject closeObject comma colon quote minus
  · exact .space space
  · exact .mark (by rw [openArray]; rfl)
  · exact .mark (by rw [closeArray]; rfl)
  · exact .mark (by rw [openObject]; rfl)
  · exact .mark (by rw [closeObject]; rfl)
  · exact .mark (by rw [comma]; rfl)
  · exact .mark (by rw [colon]; rfl)
  · subst quote
    exact .string
  · subst minus
    exact .sign
  · split
    · rename_i taken
      exact .digit taken
    · rename_i word _ known
      refine .word ?_
      unfold word? at known
      split at known
      all_goals cases known
      all_goals rfl
    · exact .fault c

section Cons

variable {rest : List Char}
  (resumes : ∀ stage : Stage, Unbroken (stage.scan rest) → stage.Resumes (stage.scan rest) rest)
  (c : Char)

include resumes

/-- Between tokens, a text with one more character is a layout where the rest goes on from every
stage. -/
theorem laid_cons (unbroken : Unbroken (Stage.between.scan (c :: rest))) :
    Laid (Stage.between.scan (c :: rest)) (c :: rest) := by
  rw [scan_cons, Stage.step] at unbroken ⊢
  have begun := starts c
  generalize start c = step at begun unbroken ⊢
  cases begun with
  | space blank => exact (resumes _ unbroken).laid.space_cons blank
  | mark spelled => exact .token_cons (.fixed spelled) (resumes _ unbroken.tail).laid
  | string =>
      refine (resumes _ unbroken).laid_of_spells (by simp) ['"'] fun lexeme token completes => ?_
      cases completes with
      | string spelled => exact .string spelled
  | sign =>
      refine (resumes _ unbroken).laid_of_spells (by simp) ['-'] fun lexeme token completes => ?_
      cases completes with
      | number run complete => exact .number (.negative run complete)
  | digit taken =>
      refine (resumes _ unbroken).laid_of_spells (by simp) [c] fun lexeme token completes => ?_
      cases completes with
      | number run complete =>
          refine .number (.unsigned ?_ complete)
          exact Option.bind_eq_some_iff.mpr ⟨_, taken, run⟩
  | word spelled =>
      refine (resumes _ unbroken).laid_of_spells (by simp) [c] fun lexeme token completes => ?_
      cases completes with
      | word => exact .fixed spelled
  | fault => exact absurd List.mem_cons_self (unbroken _)

theorem resumes_number_cons (text : List Char) (within : NumberStage)
    (unbroken : Unbroken ((Stage.number text within).scan (c :: rest))) :
    (Stage.number text within).Resumes ((Stage.number text within).scan (c :: rest))
      (c :: rest) := by
  rw [scan_cons] at unbroken ⊢
  generalize taken : Stage.step _ c rest = step at unbroken ⊢
  rw [Stage.step] at taken
  split at taken
  · rename_i next goes
    subst taken
    refine (resumes _ unbroken).cons (by simp) fun lexeme token completes => ?_
    cases completes with
    | number run complete =>
        rw [List.reverse_cons, List.append_assoc]
        exact .number (Option.bind_eq_some_iff.mpr ⟨_, goes, run⟩) complete
  · split at taken
    · rename_i ends
      subst taken
      have complete : within.complete = true := (Bool.and_eq_true_iff.mp ends).1
      have whole : Stage.Completes (.number text within) [] (.number (text.reverse ++ [])) :=
        .number rfl complete
      rw [List.append_nil] at whole
      exact .within whole (laid_cons resumes c unbroken.tail)
    · subst taken
      exact absurd List.mem_cons_self (unbroken _)

theorem resumes_word_cons (expected : List Char) (token : Token)
    (unbroken : Unbroken ((Stage.word expected token).scan (c :: rest))) :
    (Stage.word expected token).Resumes ((Stage.word expected token).scan (c :: rest))
      (c :: rest) := by
  cases expected with
  | nil => exact .within (.word [] token) (laid_cons resumes c unbroken.tail)
  | cons first more =>
      rw [scan_cons] at unbroken ⊢
      generalize taken : Stage.step _ c rest = step at unbroken ⊢
      rw [Stage.step] at taken
      split at taken
      · rename_i same
        subst same
        split at taken
        · rename_i last
          subst taken
          rw [List.isEmpty_iff.mp last]
          exact .within (.word [c] token) (resumes .between unbroken.tail).laid
        · subst taken
          refine (resumes _ unbroken).cons (by simp) fun lexeme made completes => ?_
          cases completes with
          | word => exact .word _ _
      · subst taken
        exact absurd List.mem_cons_self (unbroken _)

theorem resumes_string_cons (pieces : List Piece)
    (unbroken : Unbroken ((Stage.string pieces).scan (c :: rest))) :
    (Stage.string pieces).Resumes ((Stage.string pieces).scan (c :: rest)) (c :: rest) := by
  rw [scan_cons] at unbroken ⊢
  generalize taken : Stage.step _ c rest = step at unbroken ⊢
  rw [Stage.step] at taken
  split_ifs at taken with quote escape control
  · subst quote taken
    exact .within (.string (.nil pieces)) (resumes .between unbroken.tail).laid
  · subst escape taken
    refine (resumes _ unbroken).cons (by simp) fun lexeme token completes => ?_
    cases completes with
    | escape spelled => exact .string spelled
  · subst taken
    exact absurd List.mem_cons_self (unbroken _)
  · subst taken
    refine (resumes _ unbroken).cons (by simp) fun lexeme token completes => ?_
    cases completes with
    | string spelled => exact .string (.plain quote escape (Nat.le_of_not_lt control) spelled)

theorem resumes_escape_cons (pieces : List Piece)
    (unbroken : Unbroken ((Stage.escape pieces).scan (c :: rest))) :
    (Stage.escape pieces).Resumes ((Stage.escape pieces).scan (c :: rest)) (c :: rest) := by
  rw [scan_cons] at unbroken ⊢
  generalize taken : Stage.step _ c rest = step at unbroken ⊢
  rw [Stage.step] at taken
  split at taken
  · rename_i long
    subst long taken
    refine (resumes _ unbroken).cons (by simp) fun lexeme token completes => ?_
    cases completes with
    | unit all read spelled =>
        rw [← List.cons_append]
        exact .escape (.long all read spelled)
  · split at taken
    · rename_i marked
      subst taken
      refine (resumes _ unbroken).cons (by simp) fun lexeme token completes => ?_
      cases completes with
      | string spelled => exact .escape (.short marked spelled)
    · subst taken
      exact absurd List.mem_cons_self (unbroken _)

theorem resumes_unit_cons (pieces : List Piece) (due value : Nat)
    (unbroken : Unbroken ((Stage.unit pieces due value).scan (c :: rest))) :
    (Stage.unit pieces due value).Resumes ((Stage.unit pieces due value).scan (c :: rest))
      (c :: rest) := by
  rw [scan_cons] at unbroken ⊢
  generalize taken : Stage.step _ c rest = step at unbroken ⊢
  rw [Stage.step] at taken
  split at taken
  · rename_i digit hex
    dsimp only at taken
    split at taken
    · rename_i last
      subst taken
      refine (resumes _ unbroken).cons (by simp) fun lexeme token completes => ?_
      cases completes with
      | string spelled =>
          have all : [c].length = max 1 due := by simp [last]
          have read : unitValue? value [c] = some (16 * value + digit) := by
            simp [unitValue?, hex]
          exact .unit all read spelled
    · rename_i more
      subst taken
      refine (resumes _ unbroken).cons (by simp) fun lexeme token completes => ?_
      cases completes with
      | @unit _ after digits body _ _ last all read spelled =>
          have longer : (c :: digits).length = max 1 due := by
            rw [List.length_cons]
            omega
          exact .unit longer (Option.bind_eq_some_iff.mpr ⟨digit, hex, read⟩) spelled
  · subst taken
    exact absurd List.mem_cons_self (unbroken _)

end Cons

/-- At the end of a text only a number or a word can be complete. -/
theorem Stage.resumes_finish (stage : Stage) (unbroken : Unbroken stage.finish) :
    stage.Resumes stage.finish [] := by
  cases stage with
  | between => exact .between (.blank spaces_nil)
  | number text within =>
      rw [finish] at unbroken ⊢
      split at unbroken
      · rename_i complete
        have whole : Completes (.number text within) [] (.number (text.reverse ++ [])) :=
          .number rfl complete
        rw [List.append_nil] at whole
        rw [if_pos complete]
        exact .within whole (.blank spaces_nil)
      · exact absurd List.mem_cons_self (unbroken _)
  | word rest token =>
      cases rest with
      | nil => exact .within (.word [] token) (.blank spaces_nil)
      | cons => exact absurd List.mem_cons_self (unbroken _)
  | string => exact absurd List.mem_cons_self (unbroken _)
  | escape => exact absurd List.mem_cons_self (unbroken _)
  | unit => exact absurd List.mem_cons_self (unbroken _)

theorem Stage.resumes_scan (stage : Stage) (text : List Char)
    (unbroken : Unbroken (stage.scan text)) : stage.Resumes (stage.scan text) text := by
  induction text generalizing stage with
  | nil => exact stage.resumes_finish unbroken
  | cons c rest ih =>
      cases stage with
      | between => exact .between (laid_cons ih c unbroken)
      | number text within => exact resumes_number_cons ih c text within unbroken
      | word expected token => exact resumes_word_cons ih c expected token unbroken
      | string pieces => exact resumes_string_cons ih c pieces unbroken
      | escape pieces => exact resumes_escape_cons ih c pieces unbroken
      | unit pieces due value => exact resumes_unit_cons ih c pieces due value unbroken

/-- A text in which the lexer meets no fault is a layout of its tokens. -/
theorem laid_tokens {text : List Char} (unbroken : Unbroken (tokens text)) :
    Laid (tokens text) text :=
  (Stage.resumes_scan .between text unbroken).laid

end Layouts

end DatasetGate.Json
