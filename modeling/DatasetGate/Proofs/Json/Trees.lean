import DatasetGate.Proofs.Json.Layout
import DatasetGate.Proofs.Json.Reading

/-!
# Trees and their texts

A draft without a break is the tree of every text that lays out its tokens, and a text that is read
without a fault is laid out as the tokens of one tree.
-/

set_option autoImplicit false

namespace DatasetGate.Json

mutual

/-- The tokens of a value that is read in full. -/
def Draft.tokens : Draft → List Token
  | .null => [.null]
  | .bool value => [.bool value]
  | .number text => [.number text]
  | .string pieces => [.string pieces]
  | .array items _ => .openArray :: separated (Draft.itemTokens items) ++ [.closeArray]
  | .object members _ => .openObject :: separated (Draft.memberTokens members) ++ [.closeObject]
  | .broken _ => []

def Draft.itemTokens : List Draft → List (List Token)
  | [] => []
  | item :: rest => item.tokens :: Draft.itemTokens rest

def Draft.memberTokens : List (List Piece × Draft) → List (List Token)
  | [] => []
  | (key, item) :: rest => (.string key :: .colon :: item.tokens) :: Draft.memberTokens rest

end

/-- A text is a layout of a tree without breaks. -/
structure Draft.LaidOut (tree : Draft) (text : List Char) : Prop where
  whole : tree.fault? = none
  laid : Laid tree.tokens text

section Reading

mutual

theorem Draft.builds : (tree : Draft) → tree.fault? = none → Builds tree.tokens tree
  | .null, _ => builds_token (by decide) fun _ => rfl
  | .bool _, _ => builds_token (by simp) fun _ => rfl
  | .number _, _ => builds_token (by simp) fun _ => rfl
  | .string _, _ => builds_token (by simp) fun _ => rfl
  | .array items stop, whole => by
      rw [Draft.fault?, Option.or_eq_none_iff, Option.map_eq_none_iff] at whole
      rw [whole.2, Draft.tokens]
      exact builds_array (Draft.builds_items items whole.1)
  | .object members stop, whole => by
      rw [Draft.fault?, Option.or_eq_none_iff, Option.map_eq_none_iff] at whole
      rw [whole.2, Draft.tokens]
      exact builds_object (Draft.builds_members members whole.1)
  | .broken reason, whole => by simp [Draft.fault?] at whole

theorem Draft.builds_items : (items : List Draft) → Draft.firstFault? items = none →
    List.Forall₂ Builds (Draft.itemTokens items) items
  | [], _ => .nil
  | item :: rest, whole => by
      rw [Draft.firstFault?, Option.or_eq_none_iff] at whole
      exact .cons (item.builds whole.1) (Draft.builds_items rest whole.2)

theorem Draft.builds_members : (members : List (List Piece × Draft)) →
    Draft.firstMemberFault? members = none →
      List.Forall₂ BuildsMember (Draft.memberTokens members) members
  | [], _ => .nil
  | (key, item) :: rest, whole => by
      rw [Draft.firstMemberFault?, Option.or_eq_none_iff] at whole
      exact .cons ⟨item.tokens, rfl, item.builds whole.1⟩ (Draft.builds_members rest whole.2)

end

/-- Tokens that may stand where a value has ended. -/
def Follows (made : List Token) : Prop :=
  made.IsChain Token.MayPrecede ∧ ∀ next ∈ made.head?, next.closes = true

theorem follows_nil : Follows [] :=
  ⟨.nil, by simp⟩

theorem Follows.cons {token : Token} {made : List Token}
    (apart : (token :: made).IsChain Token.MayPrecede) (closes : token.closes = true) :
    Follows (token :: made) :=
  ⟨apart, by simpa using closes⟩

/-- A token that is no number may precede any other. -/
theorem isChain_cons (token : Token) {made : List Token} (apart : made.IsChain Token.MayPrecede)
    (noNumber : ∀ text, token ≠ .number text) : (token :: made).IsChain Token.MayPrecede := by
  refine List.isChain_cons.mpr ⟨fun next _ => ?_, apart⟩
  rintro ⟨text, same⟩
  exact absurd same (noNumber text)

mutual

theorem Draft.apart_tokens : (tree : Draft) → {rest : List Token} → Follows rest →
    (tree.tokens ++ rest).IsChain Token.MayPrecede
  | .null, _, follows => isChain_cons _ follows.1 (by simp)
  | .bool _, _, follows => isChain_cons _ follows.1 (by simp)
  | .number _, _, follows =>
      List.isChain_cons.mpr ⟨fun next member _ => follows.2 next member, follows.1⟩
  | .string _, _, follows => isChain_cons _ follows.1 (by simp)
  | .array items _, rest, follows => by
      have ended : Follows (.closeArray :: rest) := .cons (isChain_cons _ follows.1 (by simp)) rfl
      have inner := (Draft.apart_items items ended).1
      simpa [Draft.tokens] using isChain_cons .openArray inner (by simp)
  | .object members _, rest, follows => by
      have ended : Follows (.closeObject :: rest) := .cons (isChain_cons _ follows.1 (by simp)) rfl
      have inner := (Draft.apart_members members ended).1
      simpa [Draft.tokens] using isChain_cons .openObject inner (by simp)
  | .broken _, _, follows => follows.1

theorem Draft.apart_items : (items : List Draft) → {rest : List Token} → Follows rest →
    (separated (Draft.itemTokens items) ++ rest).IsChain Token.MayPrecede ∧
      Follows ((Draft.itemTokens items).flatMap (.comma :: ·) ++ rest)
  | [], _, follows => ⟨follows.1, follows⟩
  | item :: items, rest, follows => by
      have more := (Draft.apart_items items follows).2
      have first := item.apart_tokens more
      refine ⟨by simpa [Draft.itemTokens, separated] using first, ?_⟩
      simpa [Draft.itemTokens] using Follows.cons (isChain_cons .comma first (by simp)) rfl

theorem Draft.apart_members : (members : List (List Piece × Draft)) → {rest : List Token} →
    Follows rest → (separated (Draft.memberTokens members) ++ rest).IsChain Token.MayPrecede ∧
      Follows ((Draft.memberTokens members).flatMap (.comma :: ·) ++ rest)
  | [], _, follows => ⟨follows.1, follows⟩
  | (key, item) :: members, rest, follows => by
      have more := (Draft.apart_members members follows).2
      have first := isChain_cons (.string key)
        (isChain_cons .colon (item.apart_tokens more) (by simp)) (by simp)
      refine ⟨by simpa [Draft.memberTokens, separated] using first, ?_⟩
      simpa [Draft.memberTokens] using
        Follows.cons (isChain_cons .comma first (by simp)) rfl

end

/-- A layout of a tree is read as that tree. -/
theorem Draft.LaidOut.document {tree : Draft} {text : List Char} (laidOut : tree.LaidOut text) :
    Document.ofText text = ⟨tree, none⟩ := by
  have apart := tree.apart_tokens follows_nil
  rw [List.append_nil] at apart
  have read := (tree.builds laidOut.whole).read [] []
  rw [List.append_nil] at read
  rw [Document.ofText, laidOut.laid.tokens_eq apart, read]
  rfl

end Reading

section Breaks

variable (reason : Break)

theorem fault?_stopped (inner : Open) : (inner.stopped reason).fault? ≠ none := by
  cases inner <;> simp [Open.stopped, Draft.fault?]

theorem fault?_around (value : Draft) (outer : Open) :
    (outer.around reason value).fault? ≠ none := by
  cases outer <;> simp [Open.around, Draft.fault?]

/-- A break within open arrays and objects stays one of the whole. -/
theorem fault?_within {value : Draft} (broken : value.fault? ≠ none) (stack : List Open) :
    (Draft.within reason value stack).fault? ≠ none := by
  induction stack generalizing value with
  | nil => exact broken
  | cons inner outer ih => exact ih (fault?_around reason value inner)

theorem fault?_brokenValue (stack : List Open) :
    (Document.brokenValue reason stack).value.fault? ≠ none :=
  fault?_within reason (by simp [Draft.fault?]) stack

theorem fault?_brokenOff (stack : List Open) :
    (Document.brokenOff reason stack).value.fault? ≠ none := by
  cases stack with
  | nil => simp [Document.brokenOff, Draft.fault?]
  | cons inner outer => exact fault?_within reason (fault?_stopped reason inner) outer

end Breaks

section Consumed

theorem itemTokens_append (items more : List Draft) :
    Draft.itemTokens (items ++ more) = Draft.itemTokens items ++ Draft.itemTokens more := by
  induction items with
  | nil => rfl
  | cons item items ih => rw [List.cons_append, Draft.itemTokens, Draft.itemTokens, ih]; rfl

theorem memberTokens_append (members more : List (List Piece × Draft)) :
    Draft.memberTokens (members ++ more) =
      Draft.memberTokens members ++ Draft.memberTokens more := by
  induction members with
  | nil => rfl
  | cons member members ih =>
      rw [List.cons_append, Draft.memberTokens, Draft.memberTokens, ih]
      rfl

/-- Tokens with a comma behind each of them. -/
def followed (mades : List (List Token)) : List Token :=
  mades.flatMap (· ++ [.comma])

theorem separated_concat (mades : List (List Token)) (made : List Token) :
    separated (mades ++ [made]) = followed mades ++ made := by
  cases mades with
  | nil => simp [separated, followed]
  | cons first mades =>
      rw [List.cons_append, separated]
      induction mades generalizing first with
      | nil => simp [followed]
      | cons second mades ih =>
          rw [List.cons_append, List.flatMap_cons, List.cons_append, ih second]
          simp [followed]

/-- The tokens of an open array or object up to where a value or a key may begin. -/
def Open.tokens : Open → List Token
  | .array items => .openArray :: followed (Draft.itemTokens items.reverse)
  | .object members => .openObject :: followed (Draft.memberTokens members.reverse)
  | .member members key =>
      .openObject :: followed (Draft.memberTokens members.reverse) ++ [.string key, .colon]

/-- The tokens of all that is open, from the outermost on. -/
def openings : List Open → List Token
  | [] => []
  | inner :: outer => openings outer ++ inner.tokens

/-- A value is due in an array, or in an object behind a key. -/
def Open.Awaits : Open → Prop
  | .array _ | .member _ _ => True
  | .object _ => False

def Awaiting (stack : List Open) : Prop :=
  ∀ outer ∈ stack, outer.Awaits

/-- The reader stands at a position with the given arrays and objects open behind the given tokens.
-/
inductive Reached : Position → List Open → List Token → Prop where
  | value {stack : List Open} (awaiting : Awaiting stack) : Reached .value stack (openings stack)
  | item {outer : List Open} (awaiting : Awaiting outer) :
      Reached .item (.array [] :: outer) (openings (.array [] :: outer))
  | key {members : List (List Piece × Draft)} {outer : List Open} (awaiting : Awaiting outer) :
      Reached .key (.object members :: outer) (openings (.object members :: outer))
  | keyOrEnd {outer : List Open} (awaiting : Awaiting outer) :
      Reached .keyOrEnd (.object [] :: outer) (openings (.object [] :: outer))
  | colon {members : List (List Piece × Draft)} {key : List Piece} {outer : List Open}
      (awaiting : Awaiting outer) :
      Reached .colon (.member members key :: outer)
        (openings (.object members :: outer) ++ [.string key])
  | afterItem {items : List Draft} {item : Draft} {outer : List Open} (awaiting : Awaiting outer) :
      Reached .afterValue (.array (item :: items) :: outer)
        (openings (.array items :: outer) ++ item.tokens)
  | afterMember {members : List (List Piece × Draft)} {key : List Piece} {value : Draft}
      {outer : List Open} (awaiting : Awaiting outer) :
      Reached .afterValue (.object ((key, value) :: members) :: outer)
        (openings (.member members key :: outer) ++ value.tokens)
  | done (value : Draft) : Reached (.done value) [] value.tokens

theorem reached_finishValue {stack : List Open} (awaiting : Awaiting stack) (value : Draft) :
    Reached (finishValue value stack).1 (finishValue value stack).2
      (openings stack ++ value.tokens) := by
  cases stack with
  | nil => exact .done value
  | cons inner outer =>
      obtain ⟨due, around⟩ := List.forall_mem_cons.mp awaiting
      cases inner with
      | array items => exact .afterItem around
      | object members => cases due
      | member members key => exact .afterMember around

theorem reached_beginValue {token : Token} {stack : List Open} {after : Position × List Open}
    (awaiting : Awaiting stack) (begun : beginValue token stack = .ok after) :
    Reached after.1 after.2 (openings stack ++ [token]) := by
  cases token with
  | openArray =>
      cases begun
      exact .item awaiting
  | openObject =>
      cases begun
      exact .keyOrEnd awaiting
  | null =>
      cases begun
      exact reached_finishValue awaiting .null
  | bool value =>
      cases begun
      exact reached_finishValue awaiting (.bool value)
  | number text =>
      cases begun
      exact reached_finishValue awaiting (.number text)
  | string pieces =>
      cases begun
      exact reached_finishValue awaiting (.string pieces)
  | _ => cases begun

theorem reached_closeArray {outer : List Open} {after : Position × List Open}
    (awaiting : Awaiting outer)
    (closed : continueItems .closeArray (.array [] :: outer) = .ok after) :
    Reached after.1 after.2 (openings (.array [] :: outer) ++ [.closeArray]) := by
  cases closed
  simpa [openings, Open.tokens, Draft.tokens, Draft.itemTokens, separated, followed] using
    reached_finishValue awaiting (.array [] none)

theorem reached_closeObject {outer : List Open} {after : Position × List Open}
    (awaiting : Awaiting outer)
    (closed : continueItems .closeObject (.object [] :: outer) = .ok after) :
    Reached after.1 after.2 (openings (.object [] :: outer) ++ [.closeObject]) := by
  cases closed
  simpa [openings, Open.tokens, Draft.tokens, Draft.memberTokens, separated, followed] using
    reached_finishValue awaiting (.object [] none)

theorem reached_colon {members : List (List Piece × Draft)} {key : List Piece} {outer : List Open}
    (awaiting : Awaiting outer) :
    Reached .value (.member members key :: outer)
      (openings (.object members :: outer) ++ [.string key] ++ [.colon]) := by
  have due : Awaiting (.member members key :: outer) :=
    List.forall_mem_cons.mpr ⟨trivial, awaiting⟩
  simpa [openings, Open.tokens] using Reached.value due

theorem reached_beginMember {token : Token} {members : List (List Piece × Draft)}
    {outer : List Open} {after : Position × List Open} (awaiting : Awaiting outer)
    (begun : beginMember token (.object members :: outer) = .ok after) :
    Reached after.1 after.2 (openings (.object members :: outer) ++ [token]) := by
  cases token with
  | string pieces =>
      cases begun
      exact .colon awaiting
  | broken reason => cases reason <;> cases begun
  | _ => cases begun

theorem openTokens_array_cons (item : Draft) (items : List Draft) :
    (Open.array (item :: items)).tokens = (Open.array items).tokens ++ item.tokens ++ [.comma] := by
  simp [Open.tokens, itemTokens_append, Draft.itemTokens, followed]

theorem openTokens_object_cons (key : List Piece) (value : Draft)
    (members : List (List Piece × Draft)) :
    (Open.object ((key, value) :: members)).tokens =
      (Open.member members key).tokens ++ value.tokens ++ [.comma] := by
  simp [Open.tokens, memberTokens_append, Draft.memberTokens, followed]

/-- An array that is closed behind an item. -/
theorem tokens_array_cons (item : Draft) (items : List Draft) :
    (Draft.array (item :: items).reverse none).tokens =
      (Open.array items).tokens ++ item.tokens ++ [.closeArray] := by
  rw [List.reverse_cons, Draft.tokens, itemTokens_append]
  simp [Draft.itemTokens, separated_concat, Open.tokens]

/-- An object that is closed behind a member. -/
theorem tokens_object_cons (key : List Piece) (value : Draft)
    (members : List (List Piece × Draft)) :
    (Draft.object ((key, value) :: members).reverse none).tokens =
      (Open.member members key).tokens ++ value.tokens ++ [.closeObject] := by
  rw [List.reverse_cons, Draft.tokens, memberTokens_append]
  simp [Draft.memberTokens, separated_concat, Open.tokens]

theorem reached_continueItems {token : Token} {stack : List Open} {consumed : List Token}
    {after : Position × List Open} (reached : Reached .afterValue stack consumed)
    (continued : continueItems token stack = .ok after) :
    Reached after.1 after.2 (consumed ++ [token]) := by
  cases reached with
  | @afterItem items item outer awaiting =>
      cases token with
      | comma =>
          cases continued
          have due : Awaiting (.array (item :: items) :: outer) :=
            List.forall_mem_cons.mpr ⟨trivial, awaiting⟩
          have begun := Reached.value due
          rw [openings, openTokens_array_cons] at begun
          simpa [openings] using begun
      | closeArray =>
          cases continued
          have ended := reached_finishValue awaiting (.array (item :: items).reverse none)
          rw [tokens_array_cons] at ended
          simpa [openings] using ended
      | _ => cases continued
  | @afterMember members key value outer awaiting =>
      cases token with
      | comma =>
          cases continued
          have begun : Reached .key (.object ((key, value) :: members) :: outer) _ := .key awaiting
          rw [openings, openTokens_object_cons] at begun
          simpa [openings] using begun
      | closeObject =>
          cases continued
          have ended := reached_finishValue awaiting
            (.object ((key, value) :: members).reverse none)
          rw [tokens_object_cons] at ended
          simpa [openings] using ended
      | _ => cases continued

/-- The value has no break, and nothing stands behind it. -/
structure Document.Complete (document : Document) : Prop where
  whole : document.value.fault? = none
  alone : document.trailing = none

theorem not_complete_brokenValue (reason : Break) (stack : List Open) :
    ¬ (Document.brokenValue reason stack).Complete :=
  fun complete => fault?_brokenValue reason stack complete.whole

theorem not_complete_brokenOff (reason : Break) (stack : List Open) :
    ¬ (Document.brokenOff reason stack).Complete :=
  fun complete => fault?_brokenOff reason stack complete.whole

variable {position : Position} {stack : List Open} {consumed rest : List Token}

/-- Where the document gets complete, the reader goes on behind the next token. -/
theorem Reached.read_cons {token : Token} (reached : Reached position stack consumed)
    (complete : (Document.read position stack (token :: rest)).Complete) :
    ∃ after : Position × List Open, Reached after.1 after.2 (consumed ++ [token]) ∧
      Document.read position stack (token :: rest) = Document.read after.1 after.2 rest := by
  cases reached with
  | value awaiting =>
      rw [Document.read] at complete ⊢
      split at complete
      · exact ⟨_, reached_beginValue awaiting ‹_›, rfl⟩
      · exact absurd complete (not_complete_brokenValue _ _)
  | item awaiting =>
      rw [Document.read] at complete ⊢
      split at complete
      · rename_i closing
        subst closing
        exact ⟨_, reached_closeArray awaiting rfl, rfl⟩
      · rename_i other
        rw [if_neg other]
        split at complete
        · rename_i begun
          have due : Awaiting (.array [] :: _) := List.forall_mem_cons.mpr ⟨trivial, awaiting⟩
          exact ⟨_, reached_beginValue due begun, rfl⟩
        · exact absurd complete (not_complete_brokenValue _ _)
  | key awaiting =>
      rw [Document.read] at complete ⊢
      split at complete
      · exact ⟨_, reached_beginMember awaiting ‹_›, rfl⟩
      · exact absurd complete (not_complete_brokenOff _ _)
  | keyOrEnd awaiting =>
      rw [Document.read] at complete ⊢
      split at complete
      · rename_i taken
        split at taken
        · rename_i closing
          subst closing
          exact ⟨_, reached_closeObject awaiting taken, rfl⟩
        · exact ⟨_, reached_beginMember awaiting taken, rfl⟩
      · exact absurd complete (not_complete_brokenOff _ _)
  | colon awaiting =>
      rw [Document.read] at complete ⊢
      split at complete
      · rename_i marked
        subst marked
        exact ⟨(.value, _), reached_colon awaiting, rfl⟩
      · exact absurd complete (not_complete_brokenOff _ _)
  | afterItem awaiting =>
      rw [Document.read] at complete ⊢
      split at complete
      · exact ⟨_, reached_continueItems (.afterItem awaiting) ‹_›, rfl⟩
      · exact absurd complete (not_complete_brokenOff _ _)
  | afterMember awaiting =>
      rw [Document.read] at complete ⊢
      split at complete
      · exact ⟨_, reached_continueItems (.afterMember awaiting) ‹_›, rfl⟩
      · exact absurd complete (not_complete_brokenOff _ _)
  | done value => cases complete.alone

/-- Where the document is complete without another token, it was read from those before. -/
theorem Reached.read_nil (reached : Reached position stack consumed)
    (complete : (Document.read position stack []).Complete) :
    (Document.read position stack []).value.tokens = consumed := by
  cases reached with
  | done value => rfl
  | value => exact absurd complete (not_complete_brokenValue _ _)
  | _ => exact absurd complete (not_complete_brokenOff _ _)

/-- The tokens of a tree without breaks are those that it was read from. -/
theorem tokens_of_read (reached : Reached position stack consumed)
    (complete : (Document.read position stack rest).Complete) :
    (Document.read position stack rest).value.tokens = consumed ++ rest := by
  induction rest generalizing position stack consumed with
  | nil => rw [List.append_nil, reached.read_nil complete]
  | cons token rest ih =>
      obtain ⟨after, step, later⟩ := reached.read_cons complete
      rw [later] at complete ⊢
      rw [ih step complete, List.append_assoc, List.singleton_append]

theorem unbroken_separated {mades : List (List Token)} (unbroken : ∀ made ∈ mades, Unbroken made) :
    Unbroken (separated mades) := by
  intro reason member
  cases mades with
  | nil => cases member
  | cons first mades =>
      simp only [separated, List.mem_append, List.mem_flatMap, List.mem_cons, reduceCtorEq,
        false_or] at member
      rcases member with first | ⟨made, listed, inside⟩
      · exact unbroken _ List.mem_cons_self reason first
      · exact unbroken made (List.mem_cons_of_mem _ listed) reason inside

mutual

theorem Draft.unbroken_tokens : (tree : Draft) → Unbroken tree.tokens
  | .null | .bool _ | .number _ | .string _ | .broken _ => by
      intro reason member
      simp [Draft.tokens] at member
  | .array items _ => by
      intro reason member
      simp only [Draft.tokens, List.cons_append, List.mem_cons, List.mem_append, reduceCtorEq,
        false_or, List.not_mem_nil, or_false] at member
      exact unbroken_separated (Draft.unbroken_items items) reason member
  | .object members _ => by
      intro reason member
      simp only [Draft.tokens, List.cons_append, List.mem_cons, List.mem_append, reduceCtorEq,
        false_or, List.not_mem_nil, or_false] at member
      exact unbroken_separated (Draft.unbroken_members members) reason member

theorem Draft.unbroken_items : (items : List Draft) →
    ∀ made ∈ Draft.itemTokens items, Unbroken made
  | [] => by simp [Draft.itemTokens]
  | item :: items => List.forall_mem_cons.mpr ⟨item.unbroken_tokens, Draft.unbroken_items items⟩

theorem Draft.unbroken_members : (members : List (List Piece × Draft)) →
    ∀ made ∈ Draft.memberTokens members, Unbroken made
  | [] => by simp [Draft.memberTokens]
  | (_, item) :: members => by
      refine List.forall_mem_cons.mpr ⟨fun reason member => ?_, Draft.unbroken_members members⟩
      simp only [List.mem_cons, reduceCtorEq, false_or] at member
      exact item.unbroken_tokens reason member

end

/-- Layouts are texts that are read in full, without a fault. -/
theorem laidOut_iff {tree : Draft} {text : List Char} :
    tree.LaidOut text ↔ Document.ofText text = ⟨tree, none⟩ ∧ tree.fault? = none := by
  refine ⟨fun laidOut => ⟨laidOut.document, laidOut.whole⟩, fun ⟨read, whole⟩ => ⟨whole, ?_⟩⟩
  have complete : (Document.ofText text).Complete := by
    rw [read]
    exact ⟨whole, rfl⟩
  have shown : (Document.ofText text).value.tokens = tokens text :=
    tokens_of_read (show Reached .value [] [] from .value (by simp [Awaiting])) complete
  rw [read] at shown
  rw [shown]
  exact laid_tokens (shown ▸ tree.unbroken_tokens)

end Consumed

end DatasetGate.Json
