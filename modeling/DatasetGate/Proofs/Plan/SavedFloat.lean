import DatasetGate.Proofs.Json.FloatText
import DatasetGate.Proofs.Plan.ExpectedValue

/-!
# Saved expectations of doubles

A plan that expects a double of a column is always loaded again, with a finite double of the same sign
as its expectation. It is the plan that was saved exactly where the reader of plans, which rounds more
than once, comes back to the double; it does for short decimals.
-/

set_option autoImplicit false

namespace DatasetGate.Plan

open DatasetGate.Json DatasetGate.Number DatasetGate.Text

/-- A plan of one check, which expects a double of a column. -/
def expecting (column : String) (x : Double) : Plan :=
  ⟨[.value column (.float x)]⟩

theorem chars_expecting (column : String) (x : Double) :
    chars (expecting column x).toJson = expectingText column (floatText x) := by
  rw [expectingText_eq]
  simp only [expecting, toJson, List.map_cons, List.map_nil, Check.toJson, Check.parameters,
    Expectation.toJson, chars, itemChars, memberChars, joined, List.append_assoc, List.cons_append,
    List.nil_append]
  rfl

/-- The plan that expects a finite double is loaded as the plan that expects what the double is when
it is read again, a finite double of the same sign. That is the saved plan where the digits and the
power of ten shown of the double are doubles themselves. Where it is not, the writer is not at fault:
the decimal that it shows rounds to the double. -/
theorem load_saved_float (column : String) (negative : Bool) {rank : Rank}
    (finite : rank.val < Format.binary64.infinity) {files : Files} {path : String}
    (held : files.read path =
      .ok (Utf8.encode (expecting column (.signed negative rank)).toJson.text.toList)) :
    load files path =
        .ok (expecting column (.ofRank negative (rereadRank (shownDecimal rank)))) ∧
      rereadRank (shownDecimal rank) < Format.binary64.infinity ∧
      (load files path = .ok (expecting column (.signed negative rank)) ↔
        rereadRank (shownDecimal rank) = rank) ∧
      ((shownDecimal rank).digits < 2 ^ 53 → (shownDecimal rank).exponent.natAbs ≤ 22 →
        load files path = .ok (expecting column (.signed negative rank))) ∧
      RoundsTo (shownDecimal rank).value rank := by
  have spelled := spells_floatText negative finite
  rw [text, String.toList_ofList, chars_expecting] at held
  have loaded : load files path =
      .ok (expecting column (.ofRank negative (rereadRank (shownDecimal rank)))) :=
    (load_expectingText spelled.readsAs held).mpr
      ⟨_, _, numberValue?_floatText negative finite, rfl, rfl⟩
  have rounds := shownDecimal_roundsTo finite
  obtain ⟨-, below⟩ := scaleByTen?_shownDecimal finite
  have kept : load files path = .ok (expecting column (.signed negative rank)) ↔
      rereadRank (shownDecimal rank) = rank := by
    rw [loaded]
    simp [expecting, Double.ofRank, Subtype.ext_iff, min_eq_left below.le]
  exact ⟨loaded, below, kept, fun few near => kept.mpr (rereadRank_of_short rounds few near), rounds⟩

/-- The double nearest to three times the twenty-third power of ten. -/
def movedStars : Rank := ⟨4958396687196483698, by decide +kernel⟩

/-- Four and a half. -/
def keptStars : Rank := ⟨4616752568008179712, by decide +kernel⟩

/-- The file of a saved plan that expects a positive double. -/
def starsFile (rank : Rank) : Files :=
  ⟨[(["plan.json"],
    .file (Utf8.encode (expecting "stars" (.signed false rank)).toJson.text.toList))]⟩

/-- One double comes back as its lower neighbour, and another one as it was. -/
theorem load_saved_float_stars :
    load (starsFile movedStars) "plan.json" =
        .ok (expecting "stars" (.ofRank false (movedStars - 1))) ∧
      load (starsFile movedStars) "plan.json" ≠
        .ok (expecting "stars" (.signed false movedStars)) ∧
      load (starsFile keptStars) "plan.json" = .ok (expecting "stars" (.signed false keptStars)) := by
  have moved : rereadRank (shownDecimal movedStars) = movedStars - 1 := by decide +kernel
  have kept : shownDecimal keptStars = ⟨45, -1⟩ := by decide +kernel
  obtain ⟨loaded, -, same, -⟩ := @load_saved_float "stars" false movedStars (by decide +kernel)
    (starsFile movedStars) "plan.json" rfl
  obtain ⟨-, -, -, short, -⟩ := @load_saved_float "stars" false keptStars (by decide +kernel)
    (starsFile keptStars) "plan.json" rfl
  rw [moved] at loaded same
  rw [kept] at short
  exact ⟨loaded, fun unmoved => absurd (same.mp unmoved) (by decide),
    short (by decide) (by decide)⟩

end DatasetGate.Plan
