import DatasetGate.Proofs.Plan.Members

/-!
# Plans without breaks

What has been read of a plan was read in full: a value, a check or a list of checks that is read has
no break in its draft, and so has a plan.
-/

set_option autoImplicit false

namespace DatasetGate

open DatasetGate.Json

theorem readStop_eq_ok {stop : Option Break} {done : Unit} (read : readStop stop = .ok done) :
    stop = none := by
  cases stop with
  | none => rfl
  | some reason => cases read

theorem requireEnd_eq_ok {stop : Option Break} {done : Unit} (read : requireEnd stop = .ok done) :
    stop = none := by
  cases stop with
  | none => rfl
  | some reason => cases read

mutual

/-- A value that is read has no break. -/
theorem fault?_of_value : (draft : Draft) → {depth : Nat} → {value : Json} →
    draft.value depth = .ok value → draft.fault? = none
  | .null, _, _, _ | .bool _, _, _, _ | .number _, _, _, _ | .string _, _, _, _ => rfl
  | .broken reason, _, _, valued => by simp [Draft.value] at valued
  | .array items stop, depth, value, valued => by
      cases depth with
      | zero => simp [Draft.value] at valued
      | succ depth =>
          rw [Draft.value] at valued
          split at valued
          · cases valued
          · rename_i values itemsRead
            obtain ⟨_, ended, -⟩ := except_map_eq_ok_iff.mp valued
            rw [Draft.fault?, firstFault?_of_values items itemsRead, readStop_eq_ok ended]
            rfl
  | .object members stop, depth, value, valued => by
      cases depth with
      | zero => simp [Draft.value] at valued
      | succ depth =>
          rw [Draft.value] at valued
          split at valued
          · cases valued
          · rename_i values membersRead
            obtain ⟨_, ended, -⟩ := except_map_eq_ok_iff.mp valued
            rw [Draft.fault?, firstMemberFault?_of_memberValues members membersRead,
              readStop_eq_ok ended]
            rfl

theorem firstFault?_of_values : (items : List Draft) → {depth : Nat} → {values : List Json} →
    Draft.values depth items = .ok values → Draft.firstFault? items = none
  | [], _, _, _ => rfl
  | item :: items, depth, values, valued => by
      rw [Draft.values] at valued
      split at valued
      · cases valued
      · rename_i value own
        obtain ⟨_, more, -⟩ := except_map_eq_ok_iff.mp valued
        rw [Draft.firstFault?, fault?_of_value item own, firstFault?_of_values items more]
        rfl

theorem firstMemberFault?_of_memberValues : (members : List (List Piece × Draft)) →
    {depth : Nat} → {values : List (String × Json)} →
      Draft.memberValues depth members = .ok values → Draft.firstMemberFault? members = none
  | [], _, _, _ => rfl
  | (key, item) :: members, depth, values, valued => by
      rw [Draft.memberValues] at valued
      split at valued
      · cases valued
      · split at valued
        · cases valued
        · rename_i value own
          obtain ⟨_, more, -⟩ := except_map_eq_ok_iff.mp valued
          rw [Draft.firstMemberFault?, fault?_of_value item own,
            firstMemberFault?_of_memberValues members more]
          rfl

end

/-- Members have no break where what they tell shows that of each. -/
theorem firstMemberFault?_of_forall₂ {α : Type} {tells : List Piece × Draft → α → Prop}
    (whole : ∀ member told, tells member told → member.2.fault? = none)
    {members : List (List Piece × Draft)} {told : List α}
    (all : List.Forall₂ tells members told) : Draft.firstMemberFault? members = none := by
  induction all with
  | nil => rfl
  | @cons member _ _ _ own _ ih =>
      rw [Draft.firstMemberFault?, whole _ _ own, ih]
      rfl

theorem fault?_of_readTag {draft : Draft} {tag : CheckTag} (read : readTag draft = .ok tag) :
    draft.fault? = none := by
  cases draft with
  | string pieces => rfl
  | _ => simp [readTag] at read

theorem Tells.whole {member : List Piece × Draft} {told : CheckTag ⊕ String × Json}
    (tells : Tells member told) : member.2.fault? = none := by
  cases tells with
  | kind _ read => exact fault?_of_readTag read
  | value _ _ read => exact fault?_of_value _ read

/-- What is read of a check that is written as an object. -/
theorem readCheck_object_eq_ok_iff {members : List (List Piece × Draft)} {stop : Option Break}
    {check : Check} :
    readCheck (.object members stop) = .ok check ↔
      stop = none ∧ ∃ tag found, readTagged members none [] = .ok (some tag, found) ∧
        readObject tag found = .ok check := by
  constructor
  · intro read
    rw [readCheck] at read
    split at read
    · cases read
    · rename_i tag found tagged
      split at read
      · cases read
      · cases read
      · rename_i tag ended
        exact ⟨requireEnd_eq_ok ended, tag, found, tagged, orMismatch_eq_ok read⟩
  · rintro ⟨rfl, tag, found, tagged, built⟩
    simp only [readCheck, tagged, requireEnd, readStop, built, orMismatch]

theorem fault?_of_readCheck {draft : Draft} {check : Check} (read : readCheck draft = .ok check) :
    draft.fault? = none := by
  cases draft with
  | object members stop =>
      obtain ⟨rfl, tag, found, tagged, -⟩ := readCheck_object_eq_ok_iff.mp read
      obtain ⟨told, tells, -⟩ := readTagged_eq_ok_iff.mp tagged
      rw [Draft.fault?, firstMemberFault?_of_forall₂ (fun _ _ own => own.whole) tells]
      rfl
  | array items stop =>
      cases items with
      | nil => cases stop <;> simp [readCheck, requireEnd, readStop] at read
      | cons first rest =>
          rw [readCheck] at read
          split at read
          · cases read
          · rename_i tag kind
            split at read
            · cases read
            · cases read
            · rename_i values _ valued ended
              rw [Draft.fault?, Draft.firstFault?, fault?_of_readTag kind,
                firstFault?_of_values rest valued, requireEnd_eq_ok ended]
              rfl
  | _ => simp [readCheck] at read

theorem firstFault?_of_readChecks {items : List Draft} {checks : List Check}
    (read : readChecks items = .ok checks) : Draft.firstFault? items = none := by
  induction items generalizing checks with
  | nil => rfl
  | cons item items ih =>
      rw [readChecks] at read
      split at read
      · cases read
      · rename_i check own
        obtain ⟨_, more, -⟩ := except_map_eq_ok_iff.mp read
        rw [Draft.firstFault?, fault?_of_readCheck own, ih more]
        rfl

theorem fault?_of_readCheckList {draft : Draft} {checks : List Check}
    (read : readCheckList draft = .ok checks) : draft.fault? = none := by
  cases draft with
  | array items stop =>
      rw [readCheckList] at read
      split at read
      · cases read
      · rename_i found own
        obtain ⟨_, ended, -⟩ := except_map_eq_ok_iff.mp read
        rw [Draft.fault?, firstFault?_of_readChecks own, requireEnd_eq_ok ended]
        rfl
  | _ => simp [readCheckList] at read

theorem TellsChecks.whole {member : List Piece × Draft} {told : Option (List Check)}
    (tells : TellsChecks member told) : member.2.fault? = none := by
  cases tells with
  | checks _ read => exact fault?_of_readCheckList read
  | other _ _ whole => exact whole

/-- What is read of a plan that is written as an object. -/
theorem Plan.ofDraft_object_eq_ok_iff {members : List (List Piece × Draft)} {stop : Option Break}
    {plan : Plan} :
    ofDraft (.object members stop) = .ok plan ↔
      stop = none ∧ readPlanMembers members none = .ok (some plan.checks) := by
  constructor
  · intro read
    rw [ofDraft] at read
    split at read
    · cases read
    · rename_i found own
      split at read
      · cases read
      · cases read
      · rename_i checks ended
        cases read
        exact ⟨requireEnd_eq_ok ended, own⟩
  · rintro ⟨rfl, own⟩
    simp only [ofDraft, own, requireEnd, readStop]

/-- A plan that is read has no break. -/
theorem Plan.fault?_of_ofDraft {draft : Draft} {plan : Plan} (read : ofDraft draft = .ok plan) :
    draft.fault? = none := by
  cases draft with
  | object members stop =>
      obtain ⟨rfl, own⟩ := ofDraft_object_eq_ok_iff.mp read
      obtain ⟨told, tells, -⟩ := readPlanMembers_eq_ok_iff.mp own
      rw [Draft.fault?, firstMemberFault?_of_forall₂ (fun _ _ own => own.whole) tells]
      rfl
  | array items stop =>
      cases items with
      | nil => cases stop <;> simp [ofDraft, requireEnd, readStop] at read
      | cons first rest =>
          rw [ofDraft] at read
          split at read
          · cases read
          · rename_i checks own
            split at read
            · rename_i last
              obtain ⟨_, ended, -⟩ := except_map_eq_ok_iff.mp read
              rw [List.isEmpty_iff.mp last, Draft.fault?, Draft.firstFault?,
                fault?_of_readCheckList own, requireEnd_eq_ok ended]
              rfl
            · cases read
  | _ => simp [ofDraft] at read

end DatasetGate
