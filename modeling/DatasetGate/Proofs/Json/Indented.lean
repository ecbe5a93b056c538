import DatasetGate.Proofs.Json.Reading

/-!
# Indented JSON

The text of a value on many lines has the tokens of its text on one line: what stands between them
is blank. So both read as the same draft, with a line end behind the text or without.
-/

set_option autoImplicit false

namespace DatasetGate.Json

theorem spaces_newLine (depth : Nat) : Spaces (newLine depth) := by
  intro c member
  rcases List.mem_cons.mp member with rfl | member
  · rfl
  · rw [List.eq_of_mem_replicate member]
    rfl

theorem endsNumber_newLine (depth : Nat) : EndsNumber (newLine depth) :=
  endsNumber_cons (.inr (.inr (.inr rfl))) _

theorem readsAs_bracketedArray (depth : Nat) {parts : List (List Char)} {drafts : List Draft}
    (read : List.Forall₂ ReadsAs parts drafts) :
    ReadsAs (bracketed '[' ']' depth parts) (.array drafts none) := by
  cases parts with
  | nil => exact readsAs_array spaces_nil spaces_nil endsNumber_nil read
  | cons part parts =>
      exact readsAs_array (spaces_newLine (depth + 1)) (spaces_newLine depth)
        (endsNumber_newLine depth) read

theorem readsAs_bracketedObject (depth : Nat) {parts : List (List Char)}
    {members : List (List Piece × Draft)} (read : List.Forall₂ ReadsAsMember parts members) :
    ReadsAs (bracketed '\x7b' '\x7d' depth parts) (.object members none) := by
  cases parts with
  | nil => exact readsAs_object spaces_nil spaces_nil endsNumber_nil read
  | cons part parts =>
      exact readsAs_object (spaces_newLine (depth + 1)) (spaces_newLine depth)
        (endsNumber_newLine depth) read

/-- The text of a value on many lines reads as its draft, however far it is indented. -/
def WrittenLines (value : Json) : Prop :=
  ∀ depth, ReadsAs (indented depth value) (draftOf value)

theorem writtenLines_bool (value : Bool) : WrittenLines (.bool value) := by
  intro depth
  rw [indented]
  exact written_bool value

theorem writtenLines_integer (value : Int) : WrittenLines (.integer value) := by
  intro depth
  rw [indented]
  exact written_integer value

theorem writtenLines_string (value : String) : WrittenLines (.string value) := by
  intro depth
  rw [indented]
  exact written_string value

theorem writtenLines_array {items : List Json} (written : ∀ item ∈ items, WrittenLines item) :
    WrittenLines (.array items) := by
  intro depth
  have read : List.Forall₂ ReadsAs (indentedItems (depth + 1) items) (itemDrafts items) := by
    induction items with
    | nil => exact .nil
    | cons item items items_ih =>
        exact .cons (written item List.mem_cons_self (depth + 1))
          (items_ih fun other member => written other (List.mem_cons_of_mem item member))
  rw [indented, draftOf]
  exact readsAs_bracketedArray depth read

theorem writtenLines_object {members : List (String × Json)}
    (written : ∀ member ∈ members, WrittenLines member.2) : WrittenLines (.object members) := by
  intro depth
  have read : List.Forall₂ ReadsAsMember (indentedMembers (depth + 1) members)
      (memberDrafts members) := by
    induction members with
    | nil => exact .nil
    | cons member members members_ih =>
        obtain ⟨key, item⟩ := member
        have blank : Spaces [' '] := by
          intro c member
          rw [List.mem_singleton.mp member]
          rfl
        exact .cons ⟨key.toList, [' '], indented (depth + 1) item, blank, by simp, rfl,
            written _ List.mem_cons_self (depth + 1)⟩
          (members_ih fun other member => written other (List.mem_cons_of_mem _ member))
  rw [indented, draftOf]
  exact readsAs_bracketedObject depth read

/-- A text with a line end behind it is read as without. -/
theorem document_of_line {text : List Char} {draft : Draft} (read : ReadsAs text draft) :
    Document.ofText (text ++ ['\n']) = ⟨draft, none⟩ := by
  obtain ⟨made, lexed, built⟩ := read
  have scanned := lexed ['\n'] (endsNumber_cons (.inr (.inr (.inr rfl))) [])
  rw [Document.ofText, tokens, scanned, built.read]
  rfl

/-- The truth value that a text, as one whole object, has under a key. -/
def flag? (key : String) (text : List Char) : Option Bool :=
  match Document.ofText text with
  | ⟨.object members none, none⟩ =>
      match members.find? fun member => member.1 = key.toList.map .char with
      | some (_, .bool value) => some value
      | _ => none
  | _ => none

end DatasetGate.Json
