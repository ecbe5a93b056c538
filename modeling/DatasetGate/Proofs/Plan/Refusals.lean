import DatasetGate.Proofs.CheckErrors
import DatasetGate.Proofs.GateRun
import DatasetGate.Proofs.Plan.Codec
import DatasetGate.Proofs.PlanComposition

/-!
# Refused columns

A plan is loaded with the kinds and columns that its text states, so a column outside the list of its
kind is refused there. The base repository is the only column whose repository names are judged; a
plan may still name the other one, and is refused when its run comes to that check.
-/

set_option autoImplicit false

namespace DatasetGate

open DatasetGate.Json DatasetGate.Calendar DatasetGate.Text

namespace Json

/-- A draft holds a value under a name: as a member of an object, or in its place in the list that
may stand for the object. -/
inductive Draft.Holds (name : String) (place : Nat) (value : Draft) : Draft → Prop where
  | member {members : List (List Piece × Draft)} {stop : Option Break} {key : List Piece}
      (listed : (key, value) ∈ members) (named : readPieces key = .ok name) :
      Holds name place value (.object members stop)
  | item {items : List Draft} {stop : Option Break} (there : items[place]? = some value) :
      Holds name place value (.array items stop)

def Draft.HoldsText (draft : Draft) (name : String) (place : Nat) (text : String) : Prop :=
  ∃ pieces, readPieces pieces = .ok text ∧ Draft.Holds name place (.string pieces) draft

/-- A draft states a check: its kind and its column. -/
def Draft.States (draft : Draft) (kind column : String) : Prop :=
  draft.HoldsText "check" 0 kind ∧ draft.HoldsText "column" 1 column

/-- The draft of a plan lists a check of a kind for a column. -/
def Draft.Lists (draft : Draft) (kind column : String) : Prop :=
  ∃ items stop, Draft.Holds "checks" 0 (.array items stop) draft ∧
    ∃ item ∈ items, item.States kind column

end Json

theorem Family.columnName_of_find? {α : Type} [Family α] {name : String} {column : α}
    (found : find? α name = some column) : columnName column = name := by
  simpa using List.find?_some found

theorem readColumn_eq_ok {α : Type} [Family α] {value : Json} {column : α}
    (read : readColumn α value = .ok column) : value = .string (Family.columnName column) := by
  cases value with
  | string name =>
      rw [readColumn, Family.select] at read
      cases found : Family.find? α name with
      | none => simp [found] at read
      | some other =>
          simp only [found, Except.ok.injEq] at read
          rw [← read, Family.columnName_of_find? found]
  | _ => simp [readColumn] at read

theorem readName_eq_ok {value : Json} {name : String} (read : readName value = .ok name) :
    value = .string name := by
  cases value with
  | string text =>
      rw [readName, Except.ok.injEq] at read
      rw [read]
  | _ => simp [readName] at read

theorem except_bind_eq_ok_iff {ε α β : Type} {result : Except ε α} {next : α → Except ε β}
    {value : β} :
    result >>= next = .ok value ↔ ∃ found, result = .ok found ∧ next found = .ok value := by
  cases result <;> simp [bind, Except.bind]

/-- A check is built of the kind asked for, and of the column among the members. -/
theorem buildCheck_eq_ok {tag : CheckTag} {members : List (String × Json)} {check : Check}
    (built : buildCheck tag members = .ok check) :
    check.tag = tag ∧ members.lookup "column" = some (.string check.column) := by
  rw [buildCheck, except_bind_eq_ok_iff] at built
  obtain ⟨value, needed, built⟩ := built
  have held : members.lookup "column" = some value := by
    rw [needField] at needed
    cases found : members.lookup "column" <;> simp_all
  rw [held, Option.some.injEq]
  cases tag <;> simp only [except_bind_eq_ok_iff, pure, Except.pure, Except.ok.injEq] at built
  case urls | date | repoName | repoNameFormat =>
    obtain ⟨column, read, rfl⟩ := built
    exact ⟨rfl, readColumn_eq_ok read⟩
  case limitDate | limitNum =>
    obtain ⟨-, -, column, read, -, -, rfl⟩ := built
    exact ⟨rfl, readColumn_eq_ok read⟩
  case value =>
    obtain ⟨-, -, column, read, -, -, rfl⟩ := built
    exact ⟨rfl, readName_eq_ok read⟩

/-- The members that are taken keep their first value, and every one of a needed name is taken. -/
theorem collectFields_eq_ok {tag : CheckTag} {members found taken : List (String × Json)}
    (collected : collectFields tag members found = .ok taken) :
    (∀ name value, found.lookup name = some value → taken.lookup name = some value) ∧
      ∀ member ∈ members, member.1 ∈ tag.fields → taken.lookup member.1 = some member.2 := by
  induction members generalizing found with
  | nil =>
      simp only [collectFields, Except.ok.injEq] at collected
      simp [collected]
  | cons member rest ih =>
      obtain ⟨key, value⟩ := member
      rw [collectFields] at collected
      split at collected
      · rename_i needed
        split at collected
        · cases collected
        · rename_i fresh
          split at collected
          · cases collected
          · obtain ⟨kept, later⟩ := ih collected
            rw [Bool.not_eq_true, Option.isSome_eq_false_iff, Option.isNone_iff_eq_none] at fresh
            refine ⟨fun name other held => kept name other ?_, ?_⟩
            · rw [List.lookup_append, held, Option.some_or]
            · rw [List.forall_mem_cons]
              refine ⟨fun _ => kept key value ?_, later⟩
              rw [List.lookup_append, fresh, Option.none_or, List.lookup_cons_self]
      · rename_i unneeded
        obtain ⟨kept, later⟩ := ih collected
        rw [List.forall_mem_cons]
        exact ⟨kept, fun needed => absurd needed unneeded, later⟩

/-- The members of a check as they are read: its kind is that of the member of that name, and every
other member is found with its value. -/
theorem readTagged_eq_ok {drafts : List (List Piece × Draft)} {tag : Option CheckTag}
    {found : List (String × Json)} {result : Option CheckTag × List (String × Json)}
    (read : readTagged drafts tag found = .ok result) :
    (∀ member ∈ found, member ∈ result.2) ∧ (∀ kind, tag = some kind → result.1 = some kind) ∧
      ∀ key draft, (key, draft) ∈ drafts →
        (readPieces key = .ok "check" → ∃ kind, readTag draft = .ok kind ∧ result.1 = some kind) ∧
        ∀ name, readPieces key = .ok name → name ≠ "check" →
          ∃ value, draft.value memberDepth = .ok value ∧ (name, value) ∈ result.2 := by
  induction drafts generalizing tag found with
  | nil =>
      simp only [readTagged, Except.ok.injEq] at read
      subst read
      simp
  | cons first rest ih =>
      obtain ⟨key, draft⟩ := first
      rw [readTagged] at read
      split at read
      · cases read
      · rename_i named
        split at read
        · cases read
        · rename_i fresh
          split at read
          · cases read
          · rename_i kind kindRead
            obtain ⟨kept, keptKind, later⟩ := ih read
            refine ⟨kept, fun other held => absurd held ?_, fun other item listed => ?_⟩
            · rw [Bool.not_eq_true, Option.isSome_eq_false_iff, Option.isNone_iff_eq_none] at fresh
              simp [fresh]
            · rcases List.mem_cons.mp listed with same | listed
              · cases same
                refine ⟨fun _ => ⟨kind, kindRead, keptKind kind rfl⟩, fun name otherName => ?_⟩
                rw [named, Except.ok.injEq] at otherName
                exact fun different => absurd otherName.symm different
              · exact later other item listed
      · rename_i name other named
        split at read
        · cases read
        · rename_i value valued
          obtain ⟨kept, keptKind, later⟩ := ih read
          refine ⟨fun member held => kept member (List.mem_append_left _ held), keptKind,
            fun second item listed => ?_⟩
          rcases List.mem_cons.mp listed with same | listed
          · cases same
            refine ⟨fun kindNamed => absurd kindNamed (by simpa [named] using other), ?_⟩
            intro secondName secondNamed _
            rw [named, Except.ok.injEq] at secondNamed
            subst secondNamed
            exact ⟨value, valued, kept _ (by simp)⟩
          · exact later second item listed

theorem readTag_eq_ok {pieces : List Piece} {name : String} (named : readPieces pieces = .ok name)
    {tag : CheckTag} (read : readTag (.string pieces) = .ok tag) : tag.name = name := by
  simp only [readTag, named] at read
  cases found : CheckTag.find? name with
  | none => simp [found] at read
  | some other =>
      simp only [found, Except.ok.injEq] at read
      subst read
      simpa using List.find?_some found

theorem value_string_eq {pieces : List Piece} {text : String} (named : readPieces pieces = .ok text)
    (depth : Nat) : (Draft.string pieces).value depth = .ok (.string text) := by
  rw [Draft.value, named]
  rfl

theorem orMismatch_eq_ok {α : Type} {result : Except Mismatch α} {value : α}
    (read : orMismatch result = .ok value) : result = .ok value := by
  cases result <;> simp_all [orMismatch]

theorem CheckTag.column_mem_fields (tag : CheckTag) : "column" ∈ tag.fields := by
  cases tag <;> decide

theorem CheckTag.fields_eq_cons (tag : CheckTag) : ∃ rest, tag.fields = "column" :: rest := by
  cases tag <;> exact ⟨_, rfl⟩

theorem readObject_column {tag : CheckTag} {members : List (String × Json)} {check : Check}
    (read : readObject tag members = .ok check) {column : String}
    (held : ("column", .string column) ∈ members) : check.tag = tag ∧ check.column = column := by
  obtain ⟨taken, collected, built⟩ := except_bind_eq_ok_iff.mp read
  obtain ⟨built, own⟩ := buildCheck_eq_ok built
  have given := (collectFields_eq_ok collected).2 _ held tag.column_mem_fields
  rw [own, Option.some.injEq, Json.string.injEq] at given
  exact ⟨built, given⟩

theorem readList_column {tag : CheckTag} {rest : List Json} {check : Check} {column : String}
    (read : readList tag (.string column :: rest) = .ok check) :
    check.tag = tag ∧ check.column = column := by
  obtain ⟨others, fields⟩ := tag.fields_eq_cons
  rw [readList] at read
  split at read
  · cases read
  · rename_i taken collected
    split at read
    · cases read
    · split at read
      · cases read
      · obtain ⟨built, own⟩ := buildCheck_eq_ok read
        have given := (collectFields_eq_ok collected).2 ("column", .string column)
          (by simp [fields]) tag.column_mem_fields
        rw [own, Option.some.injEq, Json.string.injEq] at given
        exact ⟨built, given⟩

/-- A check is read with the kind and the column that its draft states. -/
theorem readCheck_states {draft : Draft} {check : Check} (read : readCheck draft = .ok check)
    {kind column : String} (states : draft.States kind column) :
    check.name = kind ∧ check.column = column := by
  obtain ⟨⟨kindPieces, kindNamed, kindHeld⟩, columnPieces, columnNamed, columnHeld⟩ := states
  cases kindHeld with
  | @member members stop key kindListed kindKey =>
      cases columnHeld with
      | @member _ _ columnKey columnListed columnKeyNamed =>
          simp only [readCheck] at read
          split at read
          · cases read
          · rename_i tag found tagged
            obtain ⟨-, -, drafts⟩ := readTagged_eq_ok tagged
            obtain ⟨own, ownRead, rfl⟩ := (drafts _ _ kindListed).1 kindKey
            obtain ⟨value, valued, held⟩ := (drafts _ _ columnListed).2 _ columnKeyNamed (by decide)
            rw [value_string_eq columnNamed, Except.ok.injEq] at valued
            subst valued
            split at read
            · cases read
            · rename_i absent
              cases absent
            · rename_i known
              cases known
              obtain ⟨built, columnEq⟩ := readObject_column (orMismatch_eq_ok read) held
              rw [← check.tag_name, built]
              exact ⟨readTag_eq_ok kindNamed ownRead, columnEq⟩
  | @item items stop kindThere =>
      cases columnHeld with
      | @item _ _ columnThere =>
          obtain ⟨rest, rfl⟩ :
              ∃ rest, items = .string kindPieces :: .string columnPieces :: rest := by
            cases items with
            | nil => cases kindThere
            | cons first more =>
                cases more with
                | nil => cases columnThere
                | cons second rest =>
                    cases kindThere
                    cases columnThere
                    exact ⟨rest, rfl⟩
          simp only [readCheck, Draft.values, value_string_eq columnNamed] at read
          split at read
          · cases read
          · rename_i tag tagRead
            split at read
            · cases read
            · cases read
            · rename_i values _ valued _
              obtain ⟨later, -, rfl⟩ := except_map_eq_ok_iff.mp valued
              obtain ⟨built, columnEq⟩ := readList_column (orMismatch_eq_ok read)
              rw [← check.tag_name, built]
              exact ⟨readTag_eq_ok kindNamed tagRead, columnEq⟩

theorem readChecks_mem {items : List Draft} {checks : List Check}
    (read : readChecks items = .ok checks) {item : Draft} (member : item ∈ items) :
    ∃ check ∈ checks, readCheck item = .ok check := by
  induction items generalizing checks with
  | nil => cases member
  | cons first rest ih =>
      rw [readChecks] at read
      split at read
      · cases read
      · rename_i check own
        obtain ⟨later, laterRead, rfl⟩ := except_map_eq_ok_iff.mp read
        rcases List.mem_cons.mp member with rfl | member
        · exact ⟨check, List.mem_cons_self, own⟩
        · obtain ⟨other, listed, otherRead⟩ := ih laterRead member
          exact ⟨other, List.mem_cons_of_mem check listed, otherRead⟩

theorem readCheckList_eq_ok {items : List Draft} {stop : Option Break} {checks : List Check}
    (read : readCheckList (.array items stop) = .ok checks) : readChecks items = .ok checks := by
  rw [readCheckList] at read
  split at read
  · cases read
  · rename_i found own
    obtain ⟨-, -, rfl⟩ := except_map_eq_ok_iff.mp read
    exact own

/-- Among the members of a plan there is one list of checks at most, and it is read. -/
theorem readPlanMembers_eq_ok {drafts : List (List Piece × Draft)}
    {found result : Option (List Check)}
    (read : readPlanMembers drafts found = .ok result) :
    (∀ checks, found = some checks → result = some checks) ∧
      ∀ key draft, (key, draft) ∈ drafts → readPieces key = .ok "checks" →
        ∃ checks, readCheckList draft = .ok checks ∧ result = some checks := by
  induction drafts generalizing found with
  | nil =>
      simp only [readPlanMembers, Except.ok.injEq] at read
      subst read
      simp
  | cons first rest ih =>
      obtain ⟨key, draft⟩ := first
      rw [readPlanMembers] at read
      split at read
      · cases read
      · split at read
        · cases read
        · rename_i fresh
          split at read
          · cases read
          · rename_i checks own
            obtain ⟨kept, later⟩ := ih read
            rw [Bool.not_eq_true, Option.isSome_eq_false_iff, Option.isNone_iff_eq_none] at fresh
            refine ⟨by simp [fresh], fun second item listed named => ?_⟩
            rcases List.mem_cons.mp listed with same | listed
            · cases same
              exact ⟨checks, own, kept checks rfl⟩
            · exact later second item listed named
      · rename_i name other named
        split at read
        · cases read
        · obtain ⟨kept, later⟩ := ih read
          refine ⟨kept, fun second item listed secondNamed => ?_⟩
          rcases List.mem_cons.mp listed with same | listed
          · cases same
            exact absurd secondNamed (by simpa [named] using other)
          · exact later second item listed secondNamed

namespace Plan

/-- A plan is read with every check that its draft lists. -/
theorem ofDraft_lists {draft : Draft} {plan : Plan} (read : ofDraft draft = .ok plan)
    {kind column : String} (lists : draft.Lists kind column) :
    ∃ check ∈ plan.checks, check.name = kind ∧ check.column = column := by
  obtain ⟨items, stop, held, item, member, states⟩ := lists
  obtain ⟨checks, listRead, rfl⟩ : ∃ checks, readCheckList (.array items stop) = .ok checks ∧
      plan = ⟨checks⟩ := by
    cases held with
    | @member members planStop key listed named =>
        simp only [ofDraft] at read
        split at read
        · cases read
        · rename_i found membersRead
          obtain ⟨checks, own, rfl⟩ := (readPlanMembers_eq_ok membersRead).2 _ _ listed named
          split at read
          · cases read
          · rename_i absent
            cases absent
          · rename_i known
            cases known
            exact ⟨checks, own, (Except.ok.inj read).symm⟩
    | @item planItems planStop there =>
        obtain ⟨rest, rfl⟩ : ∃ rest, planItems = .array items stop :: rest := by
          cases planItems with
          | nil => cases there
          | cons first rest =>
              cases there
              exact ⟨rest, rfl⟩
        simp only [ofDraft] at read
        split at read
        · cases read
        · rename_i checks own
          split at read
          · obtain ⟨-, -, rfl⟩ := except_map_eq_ok_iff.mp read
            exact ⟨checks, own, rfl⟩
          · cases read
  obtain ⟨check, listed, own⟩ := readChecks_mem (readCheckList_eq_ok listRead) member
  exact ⟨check, listed, readCheck_states own states⟩

theorem ofText_lists {text : List Char} {plan : Plan} (read : ofText text = .ok plan)
    {kind column : String} (lists : (Document.ofText text).value.Lists kind column) :
    ∃ check ∈ plan.checks, check.name = kind ∧ check.column = column := by
  simp only [ofText] at read
  split at read
  · cases read
  · rename_i found own
    obtain ⟨-, -, rfl⟩ := except_map_eq_ok_iff.mp read
    exact ofDraft_lists own lists

end Plan

namespace Check

/-- The columns that are published for the kinds of checks. A missing list stands for every column.
-/
def allowLists : List (List String × Option (List String)) :=
  [(["urls"], some ["sshUrl", "url", "csshUrl", "curl"]),
   (["date", "limit_date"], some ["createdAt", "pushedAt", "publishedAt"]),
   (["limit_num"],
     some ["stars", "packages", "clients", "relevantClients", "cstars", "files", "number"]),
   (["repo_name"], some ["baseRepo"]), (["repo_name_format"], some ["baseRepo", "headRepo"]),
   (["value"], none)]

theorem supportedColumns_eq_allowLists :
    supportedColumns = allowLists.map fun (kinds, columns) =>
      (", ".intercalate kinds, (columns.map ", ".intercalate).getD "any column") := by
  decide

/-- A kind may check a column. -/
def allows (kind column : String) : Bool :=
  allowLists.any fun (kinds, columns) =>
    kinds.contains kind && columns.all fun columns => columns.contains column

/-- A check that can be written down is allowed its column, one apart. -/
theorem allows_of_ne {check : Check} (other : check ≠ .repoName .headRepo) :
    allows check.name check.column = true := by
  cases check with
  | urls column => cases column <;> decide
  | date column => cases column <;> decide
  | limitDate column limit => cases column <;> rfl
  | limitNum column limit => cases column <;> rfl
  | repoName column => cases column <;> first | decide | exact absurd rfl other
  | repoNameFormat column => cases column <;> decide
  | value column expected => rfl

theorem invalidSelector_mem_defects {frame : Frame} {check : Check} {refusal : InvalidSelector}
    (member : .invalidSelector refusal ∈ check.defects frame) :
    .invalidSelector refusal ∈ check.refusals := by
  have typed (name : String) : .invalidSelector refusal ∉ frame.mistyped name := by
    rw [Frame.mistyped]
    split
    · split <;> simp
    · simp
  have read (name : String) (readable : Cell → Bool) (toError : Nat → String → CheckError)
      (other : ∀ row text, toError row text ≠ .invalidSelector refusal) :
      .invalidSelector refusal ∉ frame.unreadable name readable toError := by
    rw [Frame.unreadable]
    split <;> simp [other]
  have cells : .invalidSelector refusal ∉ check.unreadableCells frame := by
    cases check <;> simp [unreadableCells, read]
  simpa [defects, Frame.missing, typed, cells] using member

/-- One check alone is refused its column, whatever the frame is, and it reports nothing. -/
theorem judge_result_eq_invalidSelector_iff {frame : Frame} {now : Instant} {check : Check}
    {refusal : InvalidSelector} :
    (check.judge frame now).result = .error (.invalidSelector refusal) ↔
      check = .repoName .headRepo ∧ refusal = refusedRepoName .headRepo := by
  constructor
  · intro failed
    rw [← errorOf_eq_some_iff, errorOf_judge] at failed
    have member := invalidSelector_mem_defects (List.mem_of_head? failed)
    cases check with
    | repoName column =>
        cases column with
        | baseRepo => simp [refusals] at member
        | headRepo => exact ⟨rfl, by simpa [refusals, refusedRepoName, RepoColumn.name] using member⟩
    | _ => simp [refusals] at member
  · rintro ⟨rfl, rfl⟩
    rfl

end Check

namespace Plan

/-- A plan that lists a check for a column outside the list of its kind is refused when it is loaded,
one column apart, and the gate goes no further. A run of a plan refuses a column exactly when it
comes to a check of repository names for that column, with nothing reported but what the checks
before it report, whatever the frame is. -/
theorem load_refuses (files : Files) (path : String) :
    (∀ text kind column, files.readText path = .ok text →
      (Document.ofText text).value.Lists kind column → Check.allows kind column = false →
      (kind, column) ≠ ("repo_name", "headRepo") →
        ∃ error, load files path = .error (.invalid path error) ∧
          ∀ (options : GateOptions) (now : Instant) (frame : Frame), options.plan = some path →
            Dataset.load files options.dataset Dataset.defaultLimit = .ok frame →
              Gate.run options files now =
                ⟨Gate.openingEvents options frame, .error (.plan (.invalid path error)), files⟩) ∧
    ∀ plan, load files path = .ok plan →
      ∀ (frame : Frame) (now : Instant) (refusal : InvalidSelector),
      (plan.run frame now).result = .error (.invalidSelector refusal) ↔
        refusal = Check.refusedRepoName .headRepo ∧
          ∃ earlier later, plan.checks = earlier ++ .repoName .headRepo :: later ∧
            (∀ check ∈ earlier, Judged frame now check) ∧
            (plan.run frame now).outcomes =
              earlier.flatMap fun check => (check.judge frame now).outcomes := by
  constructor
  · intro text kind column held lists outside other
    cases read : ofText text with
    | ok plan =>
        obtain ⟨check, -, rfl, rfl⟩ := ofText_lists read lists
        have allowed : Check.allows check.name check.column = true := by
          refine Check.allows_of_ne ?_
          rintro rfl
          exact other rfl
        simp [allowed] at outside
    | error error =>
        have refused : load files path = .error (.invalid path error) := by
          simp only [load, held, read]
        refine ⟨error, refused, fun options now frame chosen loaded => ?_⟩
        simp only [Gate.run, Gate.runKeeping, loaded, Gate.choosePlan, chosen, refused]
  · intro plan _ frame now refusal
    constructor
    · intro failed
      obtain ⟨earlier, check, later, split, judged, met⟩ := run_result_eq_error_iff.mp failed
      obtain ⟨rfl, rfl⟩ := Check.judge_result_eq_invalidSelector_iff.mp met
      refine ⟨rfl, earlier, later, split, judged, ?_⟩
      rw [run, split, traceOf_append _ _ judged, traceOf]
      simp only [met, Trace.outcomes, List.flatMap_append, List.flatMap_map]
      simp [Check.judge, Check.judgeRepoName, Verdict.failed]
    · rintro ⟨rfl, earlier, later, split, judged, -⟩
      exact run_result_eq_error_iff.mpr ⟨earlier, _, later, split, judged, rfl⟩

/-- A plan as it is written that checks the addresses of a column that holds none. -/
def ownerPlan : Json :=
  .object [("checks", .array [.object [("check", .string "urls"), ("column", .string "owner")]])]

theorem written_ownerPlan : Written ownerPlan := by
  have check : Written (.object [("check", .string "urls"), ("column", .string "owner")]) :=
    written_object (by simp [written_string])
  exact written_object (by simpa using written_array (by simpa using check))

theorem ownerPlan_lists : (draftOf ownerPlan).Lists "urls" "owner" :=
  ⟨_, _, .member List.mem_cons_self (readPieces_chars "checks"), _, List.mem_cons_self,
    ⟨_, readPieces_chars "urls", .member List.mem_cons_self (readPieces_chars "check")⟩,
    ⟨_, readPieces_chars "owner",
      .member (List.mem_cons_of_mem _ List.mem_cons_self) (readPieces_chars "column")⟩⟩

/-- A plan that compares the repositories of pull requests' heads with owners and names. -/
def headRepoPlan : Plan :=
  ⟨[.repoName .headRepo]⟩

theorem load_headRepoPlan :
    load ⟨[(["plan.json"], .file (Utf8.encode headRepoPlan.toJson.text.toList))]⟩ "plan.json" =
      .ok headRepoPlan :=
  load_toJson (by simp [Portable, headRepoPlan, Check.Portable]) rfl

theorem load_refuses_owner :
    (∃ error,
      load ⟨[(["plan.json"], .file (Utf8.encode (chars ownerPlan)))]⟩ "plan.json" =
        .error (.invalid "plan.json" error)) ∧
    (headRepoPlan.run .empty ⟨0, 0⟩).result =
      .error (.invalidSelector (Check.refusedRepoName .headRepo)) := by
  have text : Files.readText ⟨[(["plan.json"], .file (Utf8.encode (chars ownerPlan)))]⟩ "plan.json" =
      .ok (chars ownerPlan) := by
    have held : Files.read ⟨[(["plan.json"], .file (Utf8.encode (chars ownerPlan)))]⟩ "plan.json" =
        .ok (Utf8.encode (chars ownerPlan)) := rfl
    simp only [Files.readText, held, Utf8.decode?_encode]
  constructor
  · obtain ⟨error, refused, -⟩ := (load_refuses _ _).1 _ "urls" "owner" text
      (by rw [document_of_readsAs written_ownerPlan]; exact ownerPlan_lists) (by decide) (by decide)
    exact ⟨error, refused⟩
  · exact ((load_refuses _ _).2 _ load_headRepoPlan .empty ⟨0, 0⟩ _).mpr
      ⟨rfl, [], [], rfl, by simp, rfl⟩

/-- Not every column outside the published lists is refused when a plan is loaded: one comes through
to the run. -/
theorem load_admits_headRepo :
    Check.allows "repo_name" "headRepo" = false ∧
    load ⟨[(["plan.json"], .file (Utf8.encode headRepoPlan.toJson.text.toList))]⟩ "plan.json" =
      .ok headRepoPlan ∧
    ¬ ∀ (files : Files) (path : String) (plan : Plan), load files path = .ok plan →
      ∀ (frame : Frame) (now : Instant) (refusal : InvalidSelector),
        (plan.run frame now).result ≠ .error (.invalidSelector refusal) := by
  refine ⟨by decide, load_headRepoPlan, fun admissible => ?_⟩
  exact admissible _ _ _ load_headRepoPlan .empty ⟨0, 0⟩ (Check.refusedRepoName .headRepo) rfl

end Plan

end DatasetGate
