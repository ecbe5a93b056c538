import DatasetGate.Json.Draft
import DatasetGate.Proofs.Json.Lexing

/-!
# Drafts of written JSON

A text reads as a draft when its tokens, in the place of a value, leave the reader behind that
value. The text of an array or object reads as the array or object of what its parts read as.
-/

set_option autoImplicit false

namespace DatasetGate.Json

open DatasetGate.Text

/-- Tokens are one value, wherever a value is due. The first one does not end an array, so it also
begins the first item of one. -/
structure Builds (made : List Token) (draft : Draft) : Prop where
  opening : ∃ first rest, made = first :: rest ∧ first ≠ .closeArray
  read : ∀ stack rest, Document.read .value stack (made ++ rest) =
    Document.read (finishValue draft stack).1 (finishValue draft stack).2 rest

/-- A text is one value. -/
def ReadsAs (text : List Char) (draft : Draft) : Prop :=
  ∃ made, Lexes text made ∧ Builds made draft

/-- A text is one member of an object. -/
def ReadsAsMember (text : List Char) (member : List Piece × Draft) : Prop :=
  ∃ key space value, Spaces space ∧ text = quoted key ++ ':' :: space ++ value ∧
    member.1 = key.map .char ∧ ReadsAs value member.2

@[simp] theorem finishValue_array (value : Draft) (items : List Draft) (outer : List Open) :
    finishValue value (.array items :: outer) = (.afterValue, .array (value :: items) :: outer) :=
  rfl

@[simp] theorem finishValue_member (value : Draft) (members : List (List Piece × Draft))
    (key : List Piece) (outer : List Open) :
    finishValue value (.member members key :: outer) =
      (.afterValue, .object ((key, value) :: members) :: outer) :=
  rfl

theorem builds_token {token : Token} {draft : Draft} (opens : token ≠ .closeArray)
    (begun : ∀ stack, beginValue token stack = .ok (finishValue draft stack)) :
    Builds [token] draft := by
  refine ⟨⟨token, [], rfl, opens⟩, ?_⟩
  intro stack rest
  rw [List.singleton_append, Document.read]
  simp only [begun]

theorem Builds.read_item {made : List Token} {draft : Draft} (built : Builds made draft)
    (stack : List Open) (rest : List Token) :
    Document.read .item stack (made ++ rest) =
      Document.read (finishValue draft stack).1 (finishValue draft stack).2 rest := by
  obtain ⟨first, more, split, opens⟩ := built.opening
  rw [← built.read stack rest, split, List.cons_append, Document.read, Document.read]
  simp only [opens, if_false]

theorem read_moreItems {mades : List (List Token)} {drafts : List Draft}
    (built : List.Forall₂ Builds mades drafts) (items : List Draft) (stack : List Open)
    (rest : List Token) :
    Document.read .afterValue (.array items :: stack)
        (mades.flatMap (.comma :: ·) ++ .closeArray :: rest) =
      Document.read (finishValue (.array (items.reverse ++ drafts) none) stack).1
        (finishValue (.array (items.reverse ++ drafts) none) stack).2 rest := by
  induction built generalizing items with
  | nil => simp [Document.read, continueItems]
  | cons first _ more_ih =>
      rw [List.flatMap_cons, List.cons_append, List.cons_append, Document.read, List.append_assoc]
      simp only [continueItems, first.read, finishValue_array, more_ih]
      simp

theorem builds_array {mades : List (List Token)} {drafts : List Draft}
    (built : List.Forall₂ Builds mades drafts) :
    Builds (.openArray :: separated mades ++ [.closeArray]) (.array drafts none) := by
  refine ⟨⟨_, _, rfl, by decide⟩, ?_⟩
  intro stack rest
  cases built with
  | nil => rfl
  | cons first more =>
      simp only [separated, List.cons_append, List.append_assoc, Document.read, beginValue,
        first.read_item, finishValue_array, read_moreItems more]
      simp

/-- Tokens are one member of an object. -/
def BuildsMember (made : List Token) (member : List Piece × Draft) : Prop :=
  ∃ value, made = .string member.1 :: .colon :: value ∧ Builds value member.2

theorem BuildsMember.read {made : List Token} {member : List Piece × Draft}
    (built : BuildsMember made member) {position : Position}
    (due : position = .key ∨ position = .keyOrEnd) (members : List (List Piece × Draft))
    (outer : List Open) (rest : List Token) :
    Document.read position (.object members :: outer) (made ++ rest) =
      Document.read .afterValue (.object (member :: members) :: outer) rest := by
  obtain ⟨value, split, valueBuilt⟩ := built
  rw [split, List.cons_append, List.cons_append]
  rcases due with rfl | rfl
  · simp [Document.read, beginMember, valueBuilt.read]
  · simp [Document.read, beginMember, valueBuilt.read]

theorem read_moreMembers {mades : List (List Token)} {added : List (List Piece × Draft)}
    (built : List.Forall₂ BuildsMember mades added) (members : List (List Piece × Draft))
    (stack : List Open) (rest : List Token) :
    Document.read .afterValue (.object members :: stack)
        (mades.flatMap (.comma :: ·) ++ .closeObject :: rest) =
      Document.read (finishValue (.object (members.reverse ++ added) none) stack).1
        (finishValue (.object (members.reverse ++ added) none) stack).2 rest := by
  induction built generalizing members with
  | nil => simp [Document.read, continueItems]
  | cons first _ more_ih =>
      rw [List.flatMap_cons, List.cons_append, List.cons_append, Document.read, List.append_assoc]
      simp only [continueItems, first.read (.inl rfl), more_ih]
      simp

theorem builds_object {mades : List (List Token)} {members : List (List Piece × Draft)}
    (built : List.Forall₂ BuildsMember mades members) :
    Builds (.openObject :: separated mades ++ [.closeObject]) (.object members none) := by
  refine ⟨⟨_, _, rfl, by decide⟩, ?_⟩
  intro stack rest
  cases built with
  | nil => rfl
  | cons first more =>
      simp only [separated, List.cons_append, List.append_assoc, Document.read, beginValue,
        first.read (.inr rfl), read_moreMembers more]
      simp

section Spaced

variable {space after : List Char}

theorem readsAs_array (blank : Spaces space) (blankAfter : Spaces after) (ends : EndsNumber after)
    {parts : List (List Char)} {drafts : List Draft} (read : List.Forall₂ ReadsAs parts drafts) :
    ReadsAs ('[' :: space ++ joined (',' :: space) parts ++ after ++ [']'])
      (.array drafts none) := by
  obtain ⟨mades, lexed, built⟩ : ∃ mades, List.Forall₂ Lexes parts mades ∧
      List.Forall₂ Builds mades drafts := by
    induction read with
    | nil => exact ⟨[], .nil, .nil⟩
    | cons first _ more_ih =>
        obtain ⟨made, lexed, built⟩ := first
        obtain ⟨mades, allLexed, allBuilt⟩ := more_ih
        exact ⟨made :: mades, .cons lexed allLexed, .cons built allBuilt⟩
  exact ⟨_, lexes_array blank blankAfter ends lexed, builds_array built⟩

theorem readsAs_object (blank : Spaces space) (blankAfter : Spaces after) (ends : EndsNumber after)
    {parts : List (List Char)} {members : List (List Piece × Draft)}
    (read : List.Forall₂ ReadsAsMember parts members) :
    ReadsAs ('\x7b' :: space ++ joined (',' :: space) parts ++ after ++ ['\x7d'])
      (.object members none) := by
  obtain ⟨mades, lexed, built⟩ : ∃ mades, List.Forall₂ Lexes parts mades ∧
      List.Forall₂ BuildsMember mades members := by
    induction read with
    | nil => exact ⟨[], .nil, .nil⟩
    | cons first _ more_ih =>
        obtain ⟨key, between, value, blank, split, named, made, lexed, built⟩ := first
        obtain ⟨mades, allLexed, allBuilt⟩ := more_ih
        rw [split]
        exact ⟨_ :: mades, .cons (lexes_member key blank lexed) allLexed,
          .cons ⟨made, by rw [named], built⟩ allBuilt⟩
  exact ⟨_, lexes_object blank blankAfter ends lexed, builds_object built⟩

end Spaced

theorem document_of_readsAs {text : List Char} {draft : Draft} (read : ReadsAs text draft) :
    Document.ofText text = ⟨draft, none⟩ := by
  obtain ⟨made, lexed, built⟩ := read
  have scanned := lexed [] endsNumber_nil
  rw [List.append_nil] at scanned
  rw [Document.ofText, tokens, scanned, built.read]
  rfl

section Written

mutual

/-- What the text of a value reads as. -/
def draftOf : Json → Draft
  | .null => .null
  | .bool value => .bool value
  | .integer value => .number (toString value).toList
  | .float value =>
      match value.exponential? with
      | some text => .number text.toList
      | none => .null
  | .string value => .string (value.toList.map .char)
  | .array items => .array (itemDrafts items) none
  | .object members => .object (memberDrafts members) none

/-- What the texts of items read as. -/
def itemDrafts : List Json → List Draft
  | [] => []
  | item :: rest => draftOf item :: itemDrafts rest

/-- What the texts of members read as. -/
def memberDrafts : List (String × Json) → List (List Piece × Draft)
  | [] => []
  | (key, item) :: rest => (key.toList.map .char, draftOf item) :: memberDrafts rest

end

/-- The text of a value reads as its draft. -/
def Written (value : Json) : Prop :=
  ReadsAs (chars value) (draftOf value)

theorem written_null : Written .null :=
  ⟨_, lexes_null, builds_token (by decide) fun _ => rfl⟩

theorem written_bool (value : Bool) : Written (.bool value) :=
  ⟨_, lexes_bool value, builds_token (by simp) fun _ => rfl⟩

theorem written_integer (value : Int) : Written (.integer value) :=
  ⟨_, lexes_integer value, builds_token (by simp) fun _ => rfl⟩

theorem written_string (value : String) : Written (.string value) :=
  ⟨_, lexes_quoted value.toList, builds_token (by simp) fun _ => rfl⟩

theorem written_array {items : List Json} (written : ∀ item ∈ items, Written item) :
    Written (.array items) := by
  have read : List.Forall₂ ReadsAs (itemChars items) (itemDrafts items) := by
    induction items with
    | nil => exact .nil
    | cons item items items_ih =>
        exact .cons (written item List.mem_cons_self)
          (items_ih fun other member => written other (List.mem_cons_of_mem item member))
  have whole := readsAs_array spaces_nil spaces_nil endsNumber_nil read
  rw [List.append_nil] at whole
  exact whole

theorem written_object {members : List (String × Json)}
    (written : ∀ member ∈ members, Written member.2) : Written (.object members) := by
  have read : List.Forall₂ ReadsAsMember (memberChars members) (memberDrafts members) := by
    induction members with
    | nil => exact .nil
    | cons member members members_ih =>
        obtain ⟨key, item⟩ := member
        exact .cons ⟨key.toList, [], chars item, spaces_nil, by simp, rfl,
            written _ List.mem_cons_self⟩
          (members_ih fun other member => written other (List.mem_cons_of_mem _ member))
  have whole := readsAs_object spaces_nil spaces_nil endsNumber_nil read
  rw [List.append_nil] at whole
  exact whole

end Written

end DatasetGate.Json
