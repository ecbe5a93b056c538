import DatasetGate.Proofs.Json.Indented
import DatasetGate.Proofs.Json.Trees
import DatasetGate.Proofs.Plan.Whole

/-!
# Plans in another layout

A plan is the same however its text is laid out: whatever the order of the members of its objects,
with any further members that it leaves out, and with any white space between its tokens.
-/

set_option autoImplicit false

namespace DatasetGate

open DatasetGate.Json DatasetGate.Text

section Relations

/-- A member that a check of a kind leaves out: it tells neither the kind nor a needed value, and it
can be read. -/
def IsExtra (tag : CheckTag) (member : List Piece × Draft) : Prop :=
  ∃ name value, readPieces member.1 = .ok name ∧ name ≠ "check" ∧ name ∉ tag.fields ∧
    member.2.value memberDepth = .ok value

/-- The tree of a check that has its members in another order, and extra ones among them. A check
that is written as a list stays as it is. -/
inductive CheckRearranged : Draft → Draft → Prop where
  | same (tree : Draft) : CheckRearranged tree tree
  | members {members added others : List (List Piece × Draft)} {key kind : List Piece}
      {tag : CheckTag} (listed : (key, .string kind) ∈ members)
      (named : readPieces key = .ok "check") (known : readPieces kind = .ok tag.name)
      (extra : ∀ member ∈ added, IsExtra tag member) (perm : others.Perm (members ++ added)) :
      CheckRearranged (.object members none) (.object others none)

/-- A member of a plan where checks may be rearranged. -/
inductive MemberRearranged : List Piece × Draft → List Piece × Draft → Prop where
  | same (member : List Piece × Draft) : MemberRearranged member member
  | checks {key : List Piece} {items others : List Draft} (named : readPieces key = .ok "checks")
      (rearranged : List.Forall₂ CheckRearranged items others) :
      MemberRearranged (key, .array items none) (key, .array others none)

/-- The tree of a plan that has its members in another order and extra ones among them, and its
checks rearranged. The value of an extra member may be nested to any depth. -/
inductive PlanRearranged : Draft → Draft → Prop where
  | members {members changed added others : List (List Piece × Draft)}
      (rearranged : List.Forall₂ MemberRearranged members changed)
      (extra : ∀ member ∈ added, ∃ name, readPieces member.1 = .ok name ∧ name ≠ "checks" ∧
        member.2.fault? = none)
      (perm : others.Perm (changed ++ added)) :
      PlanRearranged (.object members none) (.object others none)

end Relations

/-- Extra members tell values that the kind does not need. -/
theorem exists_tells_extra {tag : CheckTag} {added : List (List Piece × Draft)}
    (extra : ∀ member ∈ added, IsExtra tag member) :
    ∃ values : List (String × Json), List.Forall₂ Tells added (values.map .inr) ∧
      ∀ value ∈ values, value.1 ∉ tag.fields := by
  induction added with
  | nil => exact ⟨[], .nil, by simp⟩
  | cons member added ih =>
      obtain ⟨⟨name, value, named, other, unneeded, valued⟩, more⟩ := List.forall_mem_cons.mp extra
      obtain ⟨values, tells, unneededToo⟩ := ih more
      exact ⟨(name, value) :: values, .cons (.value named other valued) tells,
        List.forall_mem_cons.mpr ⟨unneeded, unneededToo⟩⟩

theorem readCheck_rearranged {tree other : Draft} (rearranged : CheckRearranged tree other)
    {check : Check} (read : readCheck tree = .ok check) : readCheck other = .ok check := by
  cases rearranged with
  | same => exact read
  | @members members added others key kind tag listed named known extra perm =>
      obtain ⟨-, own, found, tagged, built⟩ := readCheck_object_eq_ok_iff.mp read
      -- The kind that the listed member names is the one that the check was read with.
      obtain rfl : tag = own := by
        obtain ⟨-, -, told⟩ := readTagged_eq_ok tagged
        obtain ⟨read, kindRead, same⟩ := (told _ _ listed).1 named
        rw [readTag_of_name known, Except.ok.injEq] at kindRead
        rw [kindRead]
        exact (Option.some.inj same).symm
      obtain ⟨values, tellsExtra, unneeded⟩ := exists_tells_extra extra
      obtain ⟨foundToo, taggedToo, permFound⟩ := readTagged_perm tagged tellsExtra perm
      exact readCheck_object_eq_ok_iff.mpr
        ⟨rfl, tag, foundToo, taggedToo, readObject_perm built permFound unneeded⟩

theorem readChecks_rearranged {items others : List Draft}
    (rearranged : List.Forall₂ CheckRearranged items others) {checks : List Check}
    (read : readChecks items = .ok checks) : readChecks others = .ok checks := by
  induction rearranged generalizing checks with
  | nil => exact read
  | cons first _ ih =>
      rw [readChecks] at read ⊢
      split at read
      · cases read
      · rename_i check own
        obtain ⟨later, more, rfl⟩ := except_map_eq_ok_iff.mp read
        rw [readCheck_rearranged first own]
        exact except_map_eq_ok_iff.mpr ⟨later, ih more, rfl⟩

theorem TellsChecks.rearranged {member other : List Piece × Draft}
    (rearranged : MemberRearranged member other) {told : Option (List Check)}
    (tells : TellsChecks member told) : TellsChecks other told := by
  cases rearranged with
  | same => exact tells
  | checks named rearranged =>
      cases tells with
      | checks _ read =>
          refine .checks named ?_
          have own := readChecks_rearranged rearranged (readCheckList_eq_ok read)
          simp only [readCheckList, own, requireEnd, readStop]
          rfl
      | other own different =>
          rw [named, Except.ok.injEq] at own
          exact absurd own.symm different

theorem tellsChecks_rearranged {members others : List (List Piece × Draft)}
    (rearranged : List.Forall₂ MemberRearranged members others) {told : List (Option (List Check))}
    (tells : List.Forall₂ TellsChecks members told) : List.Forall₂ TellsChecks others told := by
  induction rearranged generalizing told with
  | nil => exact tells
  | cons first _ ih =>
      cases tells with
      | cons own more => exact .cons (own.rearranged first) (ih more)

namespace Plan

theorem ofDraft_rearranged {tree other : Draft} (rearranged : PlanRearranged tree other)
    {plan : Plan} (read : ofDraft tree = .ok plan) : ofDraft other = .ok plan := by
  cases rearranged with
  | @members members changed added others rearranged extra perm =>
      obtain ⟨-, own⟩ := ofDraft_object_eq_ok_iff.mp read
      obtain ⟨told, tells, once⟩ := readPlanMembers_eq_ok_iff.mp own
      have changedRead : readPlanMembers changed none = .ok (some plan.checks) :=
        readPlanMembers_eq_ok_iff.mpr ⟨told, tellsChecks_rearranged rearranged tells, once⟩
      refine ofDraft_object_eq_ok_iff.mpr ⟨rfl, readPlanMembers_perm changedRead ?_ perm⟩
      intro member listed
      obtain ⟨name, named, other, whole⟩ := extra member listed
      exact .other named other whole

/-- A plan is read from the layouts of a tree that tells it. -/
theorem ofText_eq_ok_iff {text : List Char} {plan : Plan} :
    ofText text = .ok plan ↔ ∃ tree : Draft, tree.LaidOut text ∧ ofDraft tree = .ok plan := by
  constructor
  · intro read
    rw [ofText] at read
    split at read
    · cases read
    · rename_i own known
      obtain ⟨_, alone, rfl⟩ := except_map_eq_ok_iff.mp read
      refine ⟨(Document.ofText text).value, laidOut_iff.mpr ⟨?_, fault?_of_ofDraft known⟩, known⟩
      generalize Document.ofText text = document at alone
      obtain ⟨value, trailing⟩ := document
      cases trailing with
      | none => rfl
      | some fault => cases alone
  · rintro ⟨tree, laidOut, read⟩
    simp only [ofText, laidOut.document, read, requireAlone]
    rfl

theorem load_eq_ok_iff {files : Files} {path : String} {text : List Char} {plan : Plan}
    (here : files.readText path = .ok text) :
    load files path = .ok plan ↔ ofText text = .ok plan := by
  rw [load, here]
  cases read : ofText text <;> simp [read]

/-- A plan that is loaded from a text is loaded from every text that lays out its tree rearranged.
-/
theorem load_rearranged {files : Files} {path : String} {text : List Char} {plan : Plan}
    (here : files.readText path = .ok text) (loaded : load files path = .ok plan) :
    (∃! tree : Draft, tree.LaidOut text) ∧
      ∀ (tree other : Draft) (otherText : List Char) (otherFiles : Files) (otherPath : String),
        tree.LaidOut text → PlanRearranged tree other → Laid other.tokens otherText →
          otherFiles.readText otherPath = .ok otherText →
            load otherFiles otherPath = .ok plan := by
  obtain ⟨tree, laidOut, read⟩ := ofText_eq_ok_iff.mp ((load_eq_ok_iff here).mp loaded)
  have unique (other : Draft) (laidOutToo : other.LaidOut text) : other = tree := by
    have same := laidOut.document
    rw [laidOutToo.document, Document.mk.injEq] at same
    exact same.1
  refine ⟨⟨tree, laidOut, unique⟩, ?_⟩
  intro own other otherText otherFiles otherPath ownLaid rearranged laid there
  rw [unique own ownLaid] at rearranged
  have readToo := ofDraft_rearranged rearranged read
  exact (load_eq_ok_iff there).mpr
    (ofText_eq_ok_iff.mpr ⟨other, ⟨fault?_of_ofDraft readToo, laid⟩, readToo⟩)

/-- Files with one plan of the given text. -/
def planFile (text : List Char) : Files :=
  ⟨[(["plan.json"], .file (Utf8.encode text))]⟩

theorem readText_planFile (text : List Char) :
    (planFile text).readText "plan.json" = .ok text := by
  have held : (planFile text).read "plan.json" = .ok (Utf8.encode text) := rfl
  simp only [Files.readText, held, Utf8.decode?_encode]

def starsPlan : Plan :=
  ⟨[.limitNum .stars 3, .repoName .baseRepo]⟩

theorem starsPlan_portable : starsPlan.Portable := by
  simp only [Portable, starsPlan, List.forall_mem_cons]
  exact ⟨(by decide : FitsInt64 3), trivial, by simp⟩

def extraNote : List (String × Json) :=
  [("note", .array [.object [("check", .bool true)]])]

/-- A check of repository names has no limit, so that limits are left out whatever they are. -/
def extraLimits : List (String × Json) :=
  [("limit", .bool true), ("limit", .string "none")]

/-- The plan with its members from last to first, and extra ones. -/
def extendedPlan : Json :=
  .object [("version", .integer 2),
    ("checks", .array
      [.object (extraNote ++ [("limit", .integer 3), ("column", .string "stars"),
          ("check", .string "limit_num")]),
        .object (extraLimits ++ [("column", .string "baseRepo"), ("check", .string "repo_name")])])]

theorem planRearranged_extended :
    PlanRearranged (draftOf starsPlan.toJson) (draftOf extendedPlan) := by
  have value {tag : CheckTag} (name : String) {item : Json} (other : name ≠ "check")
      (unneeded : name ∉ tag.fields) (valued : (draftOf item).value memberDepth = .ok item) :
      IsExtra tag (name.toList.map .char, draftOf item) :=
    ⟨name, item, readPieces_chars name, other, unneeded, valued⟩
  have extraOfLimit : ∀ member ∈ memberDrafts extraNote, IsExtra .limitNum member := by
    have inner : (draftOf (.object [("check", .bool true)])).value 123 = .ok _ :=
      value_object (List.forall_mem_singleton.mpr (value_bool 122 true))
    have note := value_array (List.forall_mem_singleton.mpr inner)
    exact List.forall_mem_singleton.mpr (value "note" (by decide) (by decide) note)
  have limit : CheckRearranged (draftOf (Check.limitNum .stars 3).toJson)
      (.object (memberDrafts (extraNote ++ [("limit", .integer 3), ("column", .string "stars"),
        ("check", .string "limit_num")])) none) :=
    .members (.head _) (readPieces_chars _) (readPieces_chars CheckTag.limitNum.name) extraOfLimit
      (List.reverse_perm (memberDrafts (("check", .string "limit_num") ::
        (Check.limitNum .stars 3).members) ++ memberDrafts extraNote))
  have extraOfRepo : ∀ member ∈ memberDrafts extraLimits.reverse, IsExtra .repoName member :=
    List.forall_mem_cons.mpr ⟨value "limit" (by decide) (by decide) (value_string _ "none"),
      List.forall_mem_singleton.mpr (value "limit" (by decide) (by decide) (value_bool _ true))⟩
  have repo : CheckRearranged (draftOf (Check.repoName .baseRepo).toJson)
      (.object (memberDrafts (extraLimits ++ [("column", .string "baseRepo"),
        ("check", .string "repo_name")])) none) :=
    .members (.head _) (readPieces_chars _) (readPieces_chars CheckTag.repoName.name) extraOfRepo
      (List.reverse_perm (memberDrafts (("check", .string "repo_name") ::
        (Check.repoName .baseRepo).members) ++ memberDrafts extraLimits.reverse))
  have extra : ∀ member ∈ memberDrafts [("version", .integer 2)],
      ∃ name, readPieces member.1 = .ok name ∧ name ≠ "checks" ∧ member.2.fault? = none :=
    List.forall_mem_singleton.mpr ⟨"version", readPieces_chars _, by decide, rfl⟩
  exact .members (.cons (.checks (readPieces_chars "checks") (.cons limit (.cons repo .nil))) .nil)
    extra (List.reverse_perm (_ :: _ :: []))

theorem writtenLines_extended : WrittenLines extendedPlan := by
  have note : WrittenLines (.array [.object [("check", .bool true)]]) :=
    writtenLines_array (List.forall_mem_singleton.mpr
      (writtenLines_object (List.forall_mem_singleton.mpr (writtenLines_bool true))))
  have checks : WrittenLines (.array
      [.object (extraNote ++ [("limit", .integer 3), ("column", .string "stars"),
          ("check", .string "limit_num")]),
        .object (extraLimits ++ [("column", .string "baseRepo"),
          ("check", .string "repo_name")])]) := by
    refine writtenLines_array (List.forall_mem_cons.mpr ⟨writtenLines_object ?_,
      List.forall_mem_singleton.mpr (writtenLines_object ?_)⟩)
    · simp [extraNote, note, writtenLines_integer, writtenLines_string]
    · simp [extraLimits, writtenLines_bool, writtenLines_string]
  exact writtenLines_object (List.forall_mem_cons.mpr
    ⟨writtenLines_integer 2, List.forall_mem_singleton.mpr checks⟩)

theorem load_rearranged_extended :
    load (planFile (chars starsPlan.toJson)) "plan.json" = .ok starsPlan ∧
    PlanRearranged (draftOf starsPlan.toJson) (draftOf extendedPlan) ∧
    load (planFile (indented 0 extendedPlan)) "plan.json" = .ok starsPlan := by
  have here := readText_planFile (chars starsPlan.toJson)
  have loaded := (load_eq_ok_iff here).mpr (ofText_toJson starsPlan_portable)
  have plain : (draftOf starsPlan.toJson).LaidOut (chars starsPlan.toJson) :=
    laidOut_iff.mpr ⟨document_of_readsAs
      (written_toJson fun check listed => (starsPlan_portable check listed).writable), rfl⟩
  have extended : (draftOf extendedPlan).LaidOut (indented 0 extendedPlan) :=
    laidOut_iff.mpr ⟨document_of_readsAs (writtenLines_extended 0), rfl⟩
  exact ⟨loaded, planRearranged_extended,
    (load_rearranged here loaded).2 _ _ _ _ _ plain planRearranged_extended extended.laid
      (readText_planFile (indented 0 extendedPlan))⟩

end Plan

end DatasetGate
