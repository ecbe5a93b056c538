import DatasetGate.Log.Filter
import DatasetGate.Proofs.GateRun
import DatasetGate.Proofs.PlanComposition

/-!
# Logged events

What the filter of a level lets through. All events of a run come from the program's own parts, so
only their level decides, and a stricter level leaves out the events that do not reach it. The events
that name a column tell the recorded outcomes one by one, also those of a run that ends in an error.
-/

set_option autoImplicit false

namespace DatasetGate

open DatasetGate.Calendar

namespace Log

namespace Threshold

theorem passes_mono {strict loose : Threshold} (stricter : strict.rank ≤ loose.rank)
    {level : Level} (passed : strict.passes level = true) : loose.passes level = true := by
  rw [passes, decide_eq_true_eq] at passed ⊢
  exact passed.trans stricter

end Threshold

namespace Event

/-- An event of one of the program's own parts. -/
def Own (event : Event) : Prop :=
  "ghds".toList.isPrefixOf event.target.toList = true

/-- An event as it is told, without what is open around it. -/
def withoutSpans (event : Event) : Event :=
  { event with spans := [] }

def namesColumn (event : Event) : Bool :=
  (event.fields.lookup "column").isSome

/-- An event of the program that names no column. -/
structure Aside (event : Event) : Prop where
  own : event.Own
  unnamed : event.namesColumn = false

/-- An event that tells an outcome: a warning with the count of its failing rows if it failed. -/
structure Tells (event : Event) (outcome : Outcome) : Prop where
  message : event.message = outcome.message
  check : event.fields.lookup "check" = some (.text outcome.kind.name)
  column : event.fields.lookup "column" = some (.text outcome.column)
  level : event.level = if outcome.passed then .info else .warn
  failedRows : event.fields.lookup "failed_rows" =
    if outcome.passed then none else some (.number outcome.failedCount)

end Event

namespace Filter

variable {threshold strict loose : Threshold} {events : List Event}

/-- All directives for the program's own parts have the threshold of the filter, and each of them is
heavier than the one for all targets. -/
theorem thresholdFor_ofThreshold {target : String}
    (own : "ghds".toList.isPrefixOf target.toList = true) :
    (ofThreshold threshold).thresholdFor target = threshold := by
  simp only [thresholdFor, ofThreshold, List.map_cons, List.map_nil, List.filter_cons,
    Directive.covers, own, Option.isNone_none, Bool.and_self, Bool.true_and, if_true,
    List.filter_nil]
  split_ifs <;> rfl

theorem naming_ofThreshold (span : Span) : (ofThreshold threshold).naming span = [] := by
  simp [naming, ofThreshold]

theorem passes_ofThreshold {event : Event} (own : event.Own) :
    (ofThreshold threshold).passes event.spans event.target event.level =
      threshold.passes event.level := by
  simp only [passes, thresholdFor_ofThreshold own, naming_ofThreshold, List.any_nil]
  simp

theorem apply_append (filter : Filter) (earlier later : List Event) :
    filter.apply (earlier ++ later) = filter.apply earlier ++ filter.apply later := by
  simp only [apply, List.filter_append, List.map_append]

theorem apply_flatMap {α : Type} (filter : Filter) (items : List α) (events : α → List Event) :
    filter.apply (items.flatMap events) = items.flatMap fun item => filter.apply (events item) := by
  simp only [apply, List.filter_flatMap, List.map_flatMap]

theorem withoutSpans_apply (own : ∀ event ∈ events, event.Own) :
    ((ofThreshold threshold).apply events).map Event.withoutSpans =
      (events.map Event.withoutSpans).filter fun event => threshold.passes event.level := by
  rw [apply, List.map_map, List.filter_map,
    List.filter_congr fun event member => passes_ofThreshold (own event member)]
  rfl

/-- A stricter filter lets those events through that the looser one does and that reach its level. -/
theorem apply_stricter (own : ∀ event ∈ events, event.Own) (stricter : strict.rank ≤ loose.rank) :
    ((ofThreshold strict).apply events).map Event.withoutSpans =
      (((ofThreshold loose).apply events).map Event.withoutSpans).filter fun event =>
        strict.passes event.level := by
  rw [withoutSpans_apply own, withoutSpans_apply own, List.filter_filter]
  refine List.filter_congr fun event _ => ?_
  rw [Bool.eq_iff_iff, Bool.and_eq_true]
  exact ⟨fun passed => ⟨passed, Threshold.passes_mono stricter passed⟩, And.left⟩

end Filter
end Log

namespace Gate

open Log

variable {keep : Files → List Event → Files} {options : GateOptions} {files : Files}
  {now : Instant} {threshold : Threshold}

/-- The outcomes that a run records: those of its plan run in a new session on the dataset. -/
def recorded (keep : Files → List Event → Files) (options : GateOptions) (files : Files)
    (now : Instant) : List Outcome :=
  match Dataset.load files options.dataset Dataset.defaultLimit with
  | .error _ => []
  | .ok frame =>
      match choosePlan options (keep files (openingEvents options frame)) frame with
      | .error _ => []
      | .ok plan => ((Session.start frame now).runPlan plan).2.recorded

theorem recorded_of_result {result : GateResult}
    (finished : (runKeeping keep options files now).result = .ok result) :
    result.outcomes = recorded keep options files now := by
  obtain ⟨frame, plan, found, loaded, chosen, -, rfl, -⟩ := runKeeping_result_eq_ok_iff.mp finished
  simp [recorded, loaded, chosen, Session.runPlan_eq, Session.start]

theorem own_of_target {event : Event}
    (known : event.target ∈ [datasetTarget, gateTarget, planTarget, outcomeTarget]) : event.Own := by
  have all : ∀ target ∈ [datasetTarget, gateTarget, planTarget, outcomeTarget],
      "ghds".toList.isPrefixOf target.toList = true := by decide
  exact all event.target known

theorem aside_of_mem_opening {frame : Frame} {event : Event}
    (member : event ∈ openingEvents options frame) : event.Aside := by
  rw [openingEvents, List.mem_append] at member
  rcases member with loaded | ignored
  · simp only [loadedEvents, List.mem_cons, List.not_mem_nil, or_false] at loaded
    obtain rfl | rfl := loaded
    · exact ⟨own_of_target (by simp), rfl⟩
    · exact ⟨own_of_target (by simp), rfl⟩
  · unfold ignoredBoundsEvents at ignored
    split at ignored
    · split at ignored
      · rw [List.mem_singleton.mp ignored]
        exact ⟨own_of_target (by simp), rfl⟩
      · cases ignored
    · cases ignored

theorem aside_planEvent (dataset : String) (plan : Plan) : (planEvent dataset plan).Aside := by
  unfold planEvent
  split
  · exact ⟨own_of_target (by simp), rfl⟩
  · exact ⟨own_of_target (by simp), rfl⟩

theorem own_outcomeEvent (spans : List Span) (outcome : Outcome) :
    (outcomeEvent spans outcome).Own := by
  rw [outcomeEvent]
  split
  · exact own_of_target (by simp)
  · exact own_of_target (by simp)

/-- What is told of a check: its outcomes, and then at most that it ended. -/
theorem exists_checkEvents (dataset : String) (entry : Check × Verdict) :
    ∃ spans ended, checkEvents dataset entry =
        entry.2.outcomes.map (outcomeEvent spans) ++ ended ∧ ∀ event ∈ ended, event.Aside := by
  refine ⟨_, _, rfl, ?_⟩
  cases entry.2.result with
  | error error => exact fun event member => absurd member List.not_mem_nil
  | ok passed => exact List.forall_mem_singleton.mpr ⟨own_of_target (by simp), rfl⟩

theorem own_of_mem_checkEvents {dataset : String} {entry : Check × Verdict} {event : Event}
    (member : event ∈ checkEvents dataset entry) : event.Own := by
  obtain ⟨spans, ended, told, aside⟩ := exists_checkEvents dataset entry
  rw [told, List.mem_append, List.mem_map] at member
  rcases member with ⟨outcome, -, rfl⟩ | finished
  · exact own_outcomeEvent _ outcome
  · exact (aside event finished).own

theorem events_reported (files : Files) (now : Instant) (judged : Judgement) :
    (reported files now judged).events = judged.events := by
  unfold reported
  split
  · rfl
  · split <;> rfl

/-- What a run tells: nothing without a dataset, then what it tells of the dataset, and then, if it
has a plan, what it tells of the plan and of each check. -/
theorem events_cases (keep : Files → List Event → Files) (options : GateOptions) (files : Files)
    (now : Instant) :
    ((runKeeping keep options files now).events = [] ∧ recorded keep options files now = []) ∨
      (∃ frame, (runKeeping keep options files now).events = openingEvents options frame ∧
        recorded keep options files now = []) ∨
      ∃ frame plan, (runKeeping keep options files now).events =
          openingEvents options frame ++ planEvent options.dataset plan ::
            (plan.run frame now).flatMap (checkEvents options.dataset) ∧
        recorded keep options files now = (plan.run frame now).outcomes := by
  cases loaded : Dataset.load files options.dataset Dataset.defaultLimit with
  | error error => exact .inl ⟨by simp [runKeeping, loaded], by simp [recorded, loaded]⟩
  | ok frame =>
      refine .inr ?_
      cases chosen : choosePlan options (keep files (openingEvents options frame)) frame with
      | error error =>
          exact .inl ⟨frame, by simp [runKeeping, loaded, chosen], by simp [recorded, loaded, chosen]⟩
      | ok plan =>
          refine .inr ⟨frame, plan, ?_, ?_⟩
          · simp only [runKeeping, loaded, chosen, events_reported]
            rfl
          · simp [recorded, loaded, chosen, Session.runPlan_eq, Session.start]

theorem own_of_mem_run {event : Event} (member : event ∈ (runKeeping keep options files now).events) :
    event.Own := by
  obtain ⟨told, -⟩ | ⟨frame, told, -⟩ | ⟨frame, plan, told, -⟩ :=
    events_cases keep options files now
  · rw [told] at member
    cases member
  · rw [told] at member
    exact (aside_of_mem_opening member).own
  · rw [told, List.mem_append, List.mem_cons, List.mem_flatMap] at member
    obtain opening | rfl | ⟨entry, -, own⟩ := member
    · exact (aside_of_mem_opening opening).own
    · exact (aside_planEvent _ plan).own
    · exact own_of_mem_checkEvents own

/-! ### Outcomes and the events that tell them -/

theorem tells_outcomeEvent (spans : List Span) (outcome : Outcome) :
    (outcomeEvent spans outcome).Tells outcome := by
  rw [outcomeEvent]
  cases passed : outcome.passed with
  | true => exact ⟨rfl, rfl, rfl, by rw [passed]; rfl, by rw [passed]; rfl⟩
  | false => exact ⟨rfl, rfl, rfl, by rw [passed]; rfl, by rw [passed]; rfl⟩

theorem namesColumn_outcomeEvent (spans : List Span) (outcome : Outcome) :
    (outcomeEvent spans outcome).namesColumn = true := by
  rw [Event.namesColumn, (tells_outcomeEvent spans outcome).column]
  rfl

theorem outcomeEvent_passes (informs : threshold.passes .info = true) (spans : List Span)
    (outcome : Outcome) : threshold.passes (outcomeEvent spans outcome).level = true := by
  rw [(tells_outcomeEvent spans outcome).level]
  cases outcome.passed with
  | true => exact informs
  | false =>
      simp only [Threshold.passes, decide_eq_true_eq] at informs ⊢
      exact le_trans (by decide) informs

theorem withSpans_outcomeEvent (spans shown : List Span) (outcome : Outcome) :
    { outcomeEvent spans outcome with spans := shown } = outcomeEvent shown outcome := by
  simp only [outcomeEvent]
  split <;> rfl

theorem apply_outcomeEvents (informs : threshold.passes .info = true) (spans : List Span)
    (outcomes : List Outcome) :
    (Filter.ofThreshold threshold).apply (outcomes.map (outcomeEvent spans)) =
      outcomes.map (outcomeEvent ((Filter.ofThreshold threshold).shownSpans [] spans)) := by
  have all : ∀ event ∈ outcomes.map (outcomeEvent spans),
      (Filter.ofThreshold threshold).passes event.spans event.target event.level = true := by
    intro event member
    obtain ⟨outcome, -, rfl⟩ := List.mem_map.mp member
    rw [Filter.passes_ofThreshold (own_outcomeEvent spans outcome)]
    exact outcomeEvent_passes informs spans outcome
  rw [Filter.apply, List.filter_eq_self.mpr all, List.map_map]
  refine List.map_congr_left fun outcome _ => ?_
  have around : (outcomeEvent spans outcome).spans = spans := by
    rw [outcomeEvent]
    split <;> rfl
  rw [Function.comp_apply, around, withSpans_outcomeEvent]

theorem filter_namesColumn_apply {filter : Filter} {events : List Event}
    (aside : ∀ event ∈ events, event.Aside) :
    (filter.apply events).filter Event.namesColumn = [] := by
  rw [List.filter_eq_nil_iff]
  intro event member
  obtain ⟨own, kept, rfl⟩ := List.mem_map.mp member
  rw [Bool.not_eq_true]
  exact (aside own (List.mem_of_mem_filter kept)).unnamed

/-- The events of a check that name a column tell its outcomes. -/
theorem checkEvents_tell (informs : threshold.passes .info = true) (dataset : String)
    (entry : Check × Verdict) :
    List.Forall₂ Event.Tells
      (((Filter.ofThreshold threshold).apply (checkEvents dataset entry)).filter Event.namesColumn)
      entry.2.outcomes := by
  obtain ⟨spans, ended, told, aside⟩ := exists_checkEvents dataset entry
  rw [told, Filter.apply_append, List.filter_append, filter_namesColumn_apply aside,
    List.append_nil, apply_outcomeEvents informs, List.filter_eq_self.mpr, List.forall₂_map_left_iff]
  · exact List.forall₂_same.mpr fun outcome _ => tells_outcomeEvent _ outcome
  · intro event member
    obtain ⟨outcome, -, rfl⟩ := List.mem_map.mp member
    exact namesColumn_outcomeEvent _ outcome

theorem trace_tells (informs : threshold.passes .info = true) (dataset : String) (trace : Trace) :
    List.Forall₂ Event.Tells
      (((Filter.ofThreshold threshold).apply (trace.flatMap (checkEvents dataset))).filter
        Event.namesColumn)
      trace.outcomes := by
  rw [Filter.apply_flatMap, List.filter_flatMap, Trace.outcomes]
  induction trace with
  | nil => exact .nil
  | cons entry rest ih =>
      rw [List.flatMap_cons, List.flatMap_cons]
      exact List.rel_append (checkEvents_tell informs dataset entry) ih

/-- The logged events that name a column are, one by one and in order, those of the recorded outcomes. -/
theorem events_tell (informs : threshold.passes .info = true) :
    List.Forall₂ Event.Tells
      (((Filter.ofThreshold threshold).apply (runKeeping keep options files now).events).filter
        Event.namesColumn)
      (recorded keep options files now) := by
  obtain ⟨told, none⟩ | ⟨frame, told, none⟩ | ⟨frame, plan, told, outcomes⟩ :=
    events_cases keep options files now
  · rw [told, none]
    exact .nil
  · rw [told, none, filter_namesColumn_apply fun _ => aside_of_mem_opening]
    exact .nil
  · rw [told, outcomes, Filter.apply_append, List.filter_append,
      filter_namesColumn_apply fun _ => aside_of_mem_opening, List.nil_append, ← List.singleton_append,
      Filter.apply_append, List.filter_append, filter_namesColumn_apply, List.nil_append]
    · exact trace_tells informs options.dataset (plan.run frame now)
    · exact List.forall_mem_singleton.mpr (aside_planEvent _ plan)

end Gate
end DatasetGate
