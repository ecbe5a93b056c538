import DatasetGate.Proofs.Plan.Refusals

/-!
# Members in any order

What the members of a check and of a plan tell, each one by itself. Reading succeeds when every
member tells something and no kind, needed value or list of checks is told twice, and the order of
the members does not matter for what is read.
-/

set_option autoImplicit false

namespace DatasetGate

open DatasetGate.Json

theorem toList_inj {α : Type} {value other : Option α} :
    value.toList = other.toList ↔ value = other := by
  cases value <;> cases other <;> simp

/-- Where a value is told already, a further one is one too many. -/
theorem eq_none_of_toList_eq {α : Type} (result : Option α) {known : Option α} {value : α}
    {more : List α} (told : result.toList = known.toList ++ value :: more) : known = none := by
  cases known with
  | none => rfl
  | some other => cases result <;> simp at told

/-- What a member tells of a check: its kind, or a value under a name. -/
inductive Tells : List Piece × Draft → CheckTag ⊕ String × Json → Prop where
  | kind {key : List Piece} {draft : Draft} {tag : CheckTag} (named : readPieces key = .ok "check")
      (read : readTag draft = .ok tag) : Tells (key, draft) (.inl tag)
  | value {key : List Piece} {draft : Draft} {name : String} {value : Json}
      (named : readPieces key = .ok name) (other : name ≠ "check")
      (read : draft.value memberDepth = .ok value) : Tells (key, draft) (.inr (name, value))

/-- The first member of a check tells its kind, where none was told before, or a value. -/
theorem readTagged_cons_eq_ok_iff {first : List Piece × Draft} {rest : List (List Piece × Draft)}
    {tag : Option CheckTag} {found : List (String × Json)}
    {result : Option CheckTag × List (String × Json)} :
    readTagged (first :: rest) tag found = .ok result ↔
      (∃ kind, Tells first (.inl kind) ∧ tag = none ∧
        readTagged rest (some kind) found = .ok result) ∨
      ∃ value, Tells first (.inr value) ∧ readTagged rest tag (found ++ [value]) = .ok result := by
  obtain ⟨key, draft⟩ := first
  constructor
  · intro read
    rw [readTagged] at read
    split at read
    · cases read
    · rename_i named
      split at read
      · cases read
      · rename_i fresh
        split at read
        · cases read
        · rename_i kind kindRead
          refine .inl ⟨kind, .kind named kindRead, ?_, read⟩
          rwa [Bool.not_eq_true, Option.isSome_eq_false_iff, Option.isNone_iff_eq_none] at fresh
    · rename_i name other named
      split at read
      · cases read
      · rename_i value valued
        exact .inr ⟨(name, value), .value named other valued, read⟩
  · rintro (⟨kind, tells, rfl, read⟩ | ⟨value, tells, read⟩)
    · cases tells with
      | kind named kindRead => simpa [readTagged, named, kindRead] using read
    · cases tells with
      | @value _ _ name _ named other valued => simpa [readTagged, named, valued, other] using read

/-- The members of a check are read when each tells something and at most one tells a kind. -/
theorem readTagged_eq_ok_iff {drafts : List (List Piece × Draft)} {tag : Option CheckTag}
    {found : List (String × Json)} {result : Option CheckTag × List (String × Json)} :
    readTagged drafts tag found = .ok result ↔
      ∃ told, List.Forall₂ Tells drafts told ∧
        result.1.toList = tag.toList ++ told.filterMap Sum.getLeft? ∧
        result.2 = found ++ told.filterMap Sum.getRight? := by
  induction drafts generalizing tag found with
  | nil =>
      obtain ⟨kind, values⟩ := result
      simp [readTagged, toList_inj, eq_comm]
  | cons first rest ih =>
      simp only [readTagged_cons_eq_ok_iff, ih]
      constructor
      · rintro (⟨kind, tells, rfl, told, all, kinds, values⟩ |
          ⟨value, tells, told, all, kinds, values⟩)
        · exact ⟨.inl kind :: told, .cons tells all, kinds, values⟩
        · refine ⟨.inr value :: told, .cons tells all, kinds, ?_⟩
          rw [values, List.append_assoc]
          rfl
      · rintro ⟨told, all, kinds, values⟩
        obtain ⟨own, more, tells, rest, rfl⟩ := List.forall₂_cons_left_iff.mp all
        cases own with
        | inl kind =>
            obtain rfl := eq_none_of_toList_eq result.1 kinds
            exact .inl ⟨kind, tells, rfl, more, rest, kinds, values⟩
        | inr value =>
            refine .inr ⟨value, tells, more, rest, kinds, ?_⟩
            rw [values, List.append_assoc]
            rfl

theorem lookup_isSome_iff {entries : List (String × Json)} {name : String} :
    (entries.lookup name).isSome = true ↔ name ∈ entries.map Prod.fst := by
  induction entries with
  | nil => simp
  | cons entry entries ih =>
      obtain ⟨key, value⟩ := entry
      rw [List.lookup_cons, List.map_cons, List.mem_cons, ← ih]
      cases same : name == key with
      | true => simp [beq_iff_eq.mp same]
      | false => simp [beq_eq_false_iff_ne.mp same]

/-- The needed members are taken where each stands once and has no mismatch. -/
theorem collectFields_eq_ok_iff {tag : CheckTag} {members found taken : List (String × Json)}
    (distinct : (found.map Prod.fst).Nodup) :
    collectFields tag members found = .ok taken ↔
      taken = found ++ members.filter (·.1 ∈ tag.fields) ∧ (taken.map Prod.fst).Nodup ∧
        ∀ member ∈ members, member.1 ∈ tag.fields → checkField tag member.1 member.2 = .ok () := by
  induction members generalizing found with
  | nil =>
      simp only [collectFields, Except.ok.injEq, List.filter_nil, List.append_nil]
      constructor
      · rintro rfl
        exact ⟨rfl, distinct, by simp⟩
      · rintro ⟨rfl, -, -⟩
        rfl
  | cons member rest ih =>
      obtain ⟨key, value⟩ := member
      rw [List.forall_mem_cons]
      by_cases needed : key ∈ tag.fields
      · rw [List.filter_cons_of_pos (by simpa using needed)]
        by_cases told : key ∈ found.map Prod.fst
        · rw [collectFields, if_pos needed, if_pos (lookup_isSome_iff.mpr told)]
          refine iff_of_false (by simp) ?_
          rintro ⟨rfl, once, -⟩
          rw [List.map_append, List.nodup_append] at once
          exact once.2.2 key told key List.mem_cons_self rfl
        · have fresh : ((found ++ [(key, value)]).map Prod.fst).Nodup := by
            rw [List.map_append, List.nodup_append]
            refine ⟨distinct, by simp, fun name held other here same => told ?_⟩
            have own : other = key := by simpa using here
            rwa [← own, ← same]
          rw [collectFields, if_pos needed, if_neg (fun held => told (lookup_isSome_iff.mp held))]
          have split : found ++ (key, value) :: rest.filter (·.1 ∈ tag.fields) =
              found ++ [(key, value)] ++ rest.filter (·.1 ∈ tag.fields) := by simp
          cases fits : checkField tag key value with
          | error mismatch => simp [needed]
          | ok =>
              rw [split]
              simpa [needed] using ih fresh
      · have left : collectFields tag ((key, value) :: rest) found =
            collectFields tag rest found := by
          rw [collectFields, if_neg needed]
        rw [left, ih distinct, List.filter_cons_of_neg (by simpa using needed)]
        simp [needed]

theorem lookup_eq_some_iff_mem {entries : List (String × Json)}
    (distinct : (entries.map Prod.fst).Nodup) {name : String} {value : Json} :
    entries.lookup name = some value ↔ (name, value) ∈ entries := by
  induction entries with
  | nil => simp
  | cons entry entries ih =>
      obtain ⟨key, own⟩ := entry
      rw [List.map_cons, List.nodup_cons] at distinct
      rw [List.lookup_cons, List.mem_cons]
      cases same : name == key with
      | true =>
          obtain rfl := beq_iff_eq.mp same
          have absent : (name, value) ∉ entries := fun listed =>
            distinct.1 (List.mem_map.mpr ⟨(name, value), listed, rfl⟩)
          simp [absent, eq_comm]
      | false => simp [ih distinct.2, beq_eq_false_iff_ne.mp same]

theorem lookup_eq_of_perm {entries others : List (String × Json)}
    (distinct : (entries.map Prod.fst).Nodup) (perm : others.Perm entries) (name : String) :
    others.lookup name = entries.lookup name := by
  have distinctToo : (others.map Prod.fst).Nodup := (perm.map Prod.fst).nodup_iff.mpr distinct
  refine Option.ext fun value => ?_
  rw [lookup_eq_some_iff_mem distinctToo, lookup_eq_some_iff_mem distinct, perm.mem_iff]

theorem buildCheck_congr {members others : List (String × Json)}
    (same : ∀ name, others.lookup name = members.lookup name) (tag : CheckTag) :
    buildCheck tag others = buildCheck tag members := by
  simp only [buildCheck, needField, same]

/-- A check is the same with its members in another order, and with more that its kind does not
need. -/
theorem readObject_perm {tag : CheckTag} {members added others : List (String × Json)}
    {check : Check} (read : readObject tag members = .ok check)
    (perm : others.Perm (members ++ added)) (unneeded : ∀ member ∈ added, member.1 ∉ tag.fields) :
    readObject tag others = .ok check := by
  obtain ⟨taken, collected, built⟩ := except_bind_eq_ok_iff.mp read
  obtain ⟨rfl, once, fits⟩ := (collectFields_eq_ok_iff (by simp)).mp collected
  rw [List.nil_append] at once built
  have needed : (others.filter (·.1 ∈ tag.fields)).Perm (members.filter (·.1 ∈ tag.fields)) := by
    have none : added.filter (·.1 ∈ tag.fields) = [] := by simpa using unneeded
    simpa [none] using perm.filter (·.1 ∈ tag.fields)
  have collectedToo : collectFields tag others [] = .ok (others.filter (·.1 ∈ tag.fields)) := by
    refine (collectFields_eq_ok_iff (by simp)).mpr ⟨by simp, ?_, fun member listed need => ?_⟩
    · exact (needed.map Prod.fst).nodup_iff.mpr once
    · rcases List.mem_append.mp (perm.mem_iff.mp listed) with own | more
      · exact fits member own need
      · exact absurd need (unneeded member more)
  rw [readObject, collectedToo]
  exact (buildCheck_congr (lookup_eq_of_perm once needed) tag).trans built

/-- The kind is the same, and so are the values but for their order, when the members of a check are
in another order and there are more that tell no kind. -/
theorem readTagged_perm {members added others : List (List Piece × Draft)} {tag : CheckTag}
    {found values : List (String × Json)}
    (read : readTagged members none [] = .ok (some tag, found))
    (tells : List.Forall₂ Tells added (values.map .inr)) (perm : others.Perm (members ++ added)) :
    ∃ foundToo, readTagged others none [] = .ok (some tag, foundToo) ∧
      foundToo.Perm (found ++ values) := by
  obtain ⟨told, own, kinds, rfl⟩ := readTagged_eq_ok_iff.mp read
  obtain ⟨toldOther, tellsOther, permTold⟩ :=
    List.perm_comp_forall₂ perm (List.rel_append own tells)
  have permKinds := permTold.filterMap Sum.getLeft?
  have permValues := permTold.filterMap Sum.getRight?
  rw [List.filterMap_append, List.filterMap_map] at permKinds permValues
  have single : (toldOther.filterMap Sum.getLeft?).Perm [tag] := by
    rw [show told.filterMap _ = [tag] from kinds.symm] at permKinds
    simpa [Function.comp_def] using permKinds
  refine ⟨toldOther.filterMap Sum.getRight?, readTagged_eq_ok_iff.mpr ⟨_, tellsOther, ?_, rfl⟩, ?_⟩
  · rw [List.perm_singleton.mp single]
    rfl
  · simpa [Function.comp_def] using permValues

/-- What a member tells of a plan: its checks, or nothing. -/
inductive TellsChecks : List Piece × Draft → Option (List Check) → Prop where
  | checks {key : List Piece} {draft : Draft} {checks : List Check}
      (named : readPieces key = .ok "checks") (read : readCheckList draft = .ok checks) :
      TellsChecks (key, draft) (some checks)
  | other {key : List Piece} {draft : Draft} {name : String} (named : readPieces key = .ok name)
      (other : name ≠ "checks") (whole : draft.fault? = none) : TellsChecks (key, draft) none

/-- The first member of a plan tells its checks, where none were told before, or nothing. -/
theorem readPlanMembers_cons_eq_ok_iff {first : List Piece × Draft}
    {rest : List (List Piece × Draft)} {found result : Option (List Check)} :
    readPlanMembers (first :: rest) found = .ok result ↔
      (∃ checks, TellsChecks first (some checks) ∧ found = none ∧
        readPlanMembers rest (some checks) = .ok result) ∨
      TellsChecks first none ∧ readPlanMembers rest found = .ok result := by
  obtain ⟨key, draft⟩ := first
  constructor
  · intro read
    rw [readPlanMembers] at read
    split at read
    · cases read
    · rename_i named
      split at read
      · cases read
      · rename_i fresh
        split at read
        · cases read
        · rename_i checks own
          refine .inl ⟨checks, .checks named own, ?_, read⟩
          rwa [Bool.not_eq_true, Option.isSome_eq_false_iff, Option.isNone_iff_eq_none] at fresh
    · rename_i name other named
      split at read
      · cases read
      · rename_i whole
        exact .inr ⟨.other named other whole, read⟩
  · rintro (⟨checks, tells, rfl, read⟩ | ⟨tells, read⟩)
    · cases tells with
      | checks named own => simpa [readPlanMembers, named, own] using read
    · cases tells with
      | @other _ _ name named other whole => simpa [readPlanMembers, named, whole, other] using read

/-- The members of a plan are read when each tells something and at most one tells checks. -/
theorem readPlanMembers_eq_ok_iff {drafts : List (List Piece × Draft)}
    {found result : Option (List Check)} :
    readPlanMembers drafts found = .ok result ↔
      ∃ told, List.Forall₂ TellsChecks drafts told ∧
        result.toList = found.toList ++ told.reduceOption := by
  induction drafts generalizing found with
  | nil => simp [readPlanMembers, toList_inj, eq_comm]
  | cons first rest ih =>
      simp only [readPlanMembers_cons_eq_ok_iff, ih]
      constructor
      · rintro (⟨checks, tells, rfl, told, all, once⟩ | ⟨tells, told, all, once⟩)
        · exact ⟨some checks :: told, .cons tells all, once⟩
        · exact ⟨none :: told, .cons tells all, once⟩
      · rintro ⟨told, all, once⟩
        obtain ⟨own, more, tells, rest, rfl⟩ := List.forall₂_cons_left_iff.mp all
        cases own with
        | some checks =>
            obtain rfl := eq_none_of_toList_eq result once
            exact .inl ⟨checks, tells, rfl, more, rest, once⟩
        | none => exact .inr ⟨tells, more, rest, once⟩

/-- A plan has the same checks with its members in another order, and with more that tell nothing. -/
theorem readPlanMembers_perm {members added others : List (List Piece × Draft)}
    {checks : List Check} (read : readPlanMembers members none = .ok (some checks))
    (tells : ∀ member ∈ added, TellsChecks member none) (perm : others.Perm (members ++ added)) :
    readPlanMembers others none = .ok (some checks) := by
  obtain ⟨told, own, once⟩ := readPlanMembers_eq_ok_iff.mp read
  have tellsAdded : List.Forall₂ TellsChecks added (added.map fun _ => none) := by
    rw [List.forall₂_map_right_iff, List.forall₂_same]
    exact tells
  obtain ⟨toldOther, tellsOther, permTold⟩ :=
    List.perm_comp_forall₂ perm (List.rel_append own tellsAdded)
  have single : toldOther.reduceOption.Perm [checks] := by
    have permChecks := permTold.filterMap id
    rw [List.filterMap_append, List.filterMap_map,
      show told.filterMap id = [checks] from once.symm] at permChecks
    simpa [List.reduceOption, Function.comp_def] using permChecks
  refine readPlanMembers_eq_ok_iff.mpr ⟨toldOther, tellsOther, ?_⟩
  rw [List.perm_singleton.mp single]
  rfl

end DatasetGate
