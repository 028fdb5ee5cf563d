import DeprecatedUse.Pipeline
import Mathlib

/-!
This module contains what a recording holds after a whole history of a pipeline: runs of single
units and of many, removals and changes of the resolver, in any order. What is shown for a unit is
the last batch made for it, and faults leave nothing behind but a message each.
-/

namespace DeprecatedUse

open DeprecatedUse.Java (SourceUnit)

namespace Event

def shown? : Event → Option (UnitId × Batch)
  | .publish unit batch => some (unit, batch)
  | _ => none

def message? : Event → Option (Severity × String)
  | .message severity text => some (severity, text)
  | _ => none

end Event

namespace Recording

theorem diagnosticsFor?_record (r : Recording) (event : Event) (unit : UnitId)
    : (r.record event).diagnosticsFor? unit
        = ((event.shown?.filter (·.1 = unit)).map (·.2)).or (r.diagnosticsFor? unit) := by
  cases event with
  | publish other batch =>
    unfold diagnosticsFor?
    rw [record, Table.find?_insert, Event.shown?]
    by_cases h : other = unit
    · simp [Option.filter_some, h]
    · simp [Option.filter_some, h, Ne.symm h]
  | message | register | notify => rfl

theorem recordAll_append_singleton (r : Recording) (events : List Event) (event : Event)
    : r.recordAll (events ++ [event]) = (r.recordAll events).record event := by
  rw [recordAll, List.foldl_append]
  rfl

theorem recordAll_append (r : Recording) (events events' : List Event)
    : r.recordAll (events ++ events') = (r.recordAll events).recordAll events' := by
  rw [recordAll, List.foldl_append]
  rfl

theorem diagnosticsFor?_recordAll (events : List Event) (unit : UnitId)
    : (recordAll {} events).diagnosticsFor? unit
        = (((events.filterMap Event.shown?).filter (·.1 = unit)).map (·.2)).getLast? := by
  induction events using List.reverseRecOn with
  | nil => rfl
  | append_singleton events event ih =>
    rw [recordAll_append_singleton, diagnosticsFor?_record, ih, List.filterMap_append,
      List.filter_append, List.map_append, List.getLast?_append]
    cases event with
    | publish other batch =>
      by_cases h : other = unit
      · simp [Event.shown?, Option.filter_some, h]
      · simp [Event.shown?, Option.filter_some, h]
    | message | register | notify => rfl

theorem publishCalls_recordAll (events : List Event)
    : (recordAll {} events).publishCalls = (events.filterMap Event.shown?).length := by
  induction events using List.reverseRecOn with
  | nil => rfl
  | append_singleton events event ih =>
    rw [recordAll_append_singleton, List.filterMap_append, List.length_append, ← ih]
    cases event <;> rfl

theorem messages_recordAll (events : List Event)
    : (recordAll {} events).messages = events.filterMap Event.message? := by
  induction events using List.reverseRecOn with
  | nil => rfl
  | append_singleton events event ih =>
    rw [recordAll_append_singleton, List.filterMap_append, ← ih]
    cases event with
    | message => rfl
    | publish | register | notify => exact (List.append_nil _).symm

end Recording

namespace Pipeline

def withResolver (p : Pipeline) (resolve : Resolver) : Pipeline :=
  { p with resolve := resolve }

inductive Step where
  | runUnit (unit : SourceUnit)
  | runUnits (units : List SourceUnit)
  | clear (unit : UnitId)
  | withResolver (resolve : Resolver)

structure Work where
  pipeline : Pipeline
  recording : Recording := {}
  summaries : List Summary := []

namespace Work

def perform (w : Work) : Step → Work
  | .runUnit unit => { w with recording := w.recording.record (w.pipeline.runUnit unit).2 }
  | .runUnits units =>
    { w with
      recording := w.recording.recordAll ((w.pipeline.runUnits units).map (·.2))
      summaries := w.summaries ++ [summarize ((w.pipeline.runUnits units).map (·.1))] }
  | .clear unit => { w with recording := w.recording.record (Pipeline.clear unit) }
  | .withResolver resolve => { w with pipeline := w.pipeline.withResolver resolve }

def performAll (w : Work) (steps : List Step) : Work :=
  steps.foldl perform w

end Work

inductive Deed where
  | ran (p : Pipeline) (unit : SourceUnit)
  | cleared (unit : UnitId)

namespace Deed

/--
The unit and its new batch. A run that faults makes none.
-/
def batch? : Deed → Option (UnitId × Batch)
  | .ran p unit => (Analysis.run p.settings p.resolve unit).result.toOption.map (unit.id, ·)
  | .cleared unit => some (unit, {})

def fault? : Deed → Option AnalysisError
  | .ran p unit =>
    match (Analysis.run p.settings p.resolve unit).result with
    | .ok _ => none
    | .error e => some e
  | .cleared _ => none

def event : Deed → Event
  | .ran p unit => (p.runUnit unit).2
  | .cleared unit => clear unit

def faultMessage (e : AnalysisError) : Severity × String :=
  (.error, "Deprecation analysis failed: " ++ e.message)

theorem shown?_event (d : Deed) : d.event.shown? = d.batch? := by
  cases d with
  | ran p unit =>
    rw [event, batch?, runUnit]
    cases (Analysis.run p.settings p.resolve unit).result <;> rfl
  | cleared unit => rfl

theorem message?_event (d : Deed) : d.event.message? = d.fault?.map faultMessage := by
  cases d with
  | ran p unit =>
    rw [event, fault?, runUnit]
    cases (Analysis.run p.settings p.resolve unit).result <;> rfl
  | cleared unit => rfl

end Deed

def deedsOf (p : Pipeline) : Step → List Deed
  | .runUnit unit => [.ran p unit]
  | .runUnits units => units.map (.ran p)
  | .clear unit => [.cleared unit]
  | .withResolver _ => []

def after (p : Pipeline) : Step → Pipeline
  | .withResolver resolve => p.withResolver resolve
  | _ => p

def deeds (p : Pipeline) : List Step → List Deed
  | [] => []
  | step :: steps => p.deedsOf step ++ (p.after step).deeds steps

def passes (p : Pipeline) : List Step → List (List Deed)
  | [] => []
  | .runUnits units :: steps => units.map (.ran p) :: p.passes steps
  | step :: steps => (p.after step).passes steps

/--
The totals are those of the deeds: every unit is either published or failed, and what is shown for
those that are published adds up.
-/
structure Summary.Counts (s : Summary) (deeds : List Deed) : Prop where
  units : s.units = deeds.length
  outcomes : s.published + s.failed = deeds.length
  published : s.published = (deeds.filterMap Deed.batch?).length
  diagnostics : s.diagnostics = ((deeds.filterMap Deed.batch?).map fun shown => shown.2.size).sum

namespace Work

variable (w : Work) (step : Step) (steps : List Step)

theorem pipeline_perform : (w.perform step).pipeline = w.pipeline.after step := by
  cases step <;> rfl

theorem recording_perform
    : (w.perform step).recording
        = w.recording.recordAll ((w.pipeline.deedsOf step).map Deed.event) := by
  cases step with
  | runUnits units =>
    rw [deedsOf, List.map_map, perform, runUnits, List.map_map]
    rfl
  | runUnit | clear | withResolver => rfl

theorem recording_performAll
    : (w.performAll steps).recording
        = w.recording.recordAll ((w.pipeline.deeds steps).map Deed.event) := by
  induction steps generalizing w with
  | nil => rfl
  | cons step steps ih =>
    rw [performAll, List.foldl_cons, ← performAll, ih, recording_perform, pipeline_perform, deeds,
      List.map_append, Recording.recordAll_append]

end Work

theorem summarize_append_singleton (outcomes : List Outcome) (outcome : Outcome)
    : summarize (outcomes ++ [outcome]) = (summarize outcomes).add outcome := by
  rw [summarize, List.foldl_append]
  rfl

theorem counts_summarize (p : Pipeline) (units : List SourceUnit)
    : (summarize ((p.runUnits units).map (·.1))).Counts (units.map (.ran p)) := by
  induction units using List.reverseRecOn with
  | nil => exact ⟨rfl, rfl, rfl, rfl⟩
  | append_singleton units unit ih =>
    obtain ⟨hunits, houtcomes, hpublished, hdiagnostics⟩ := ih
    rw [runUnits, List.map_append, List.map_append, List.map_singleton, List.map_singleton,
      summarize_append_singleton, ← runUnits, List.map_append, List.map_singleton, runUnit]
    cases hrun : (Analysis.run p.settings p.resolve unit).result with
    | ok batch =>
      have hbatch : (Deed.ran p unit).batch? = some (unit.id, batch) := by
        rw [Deed.batch?, hrun]
        rfl
      constructor
      · simp [Summary.add, hunits]
      · simp only [Summary.add, List.length_append, List.length_singleton]
        omega
      · simp [Summary.add, hpublished, hbatch]
      · simp [Summary.add, hdiagnostics, hbatch]
    | error e =>
      have hbatch : (Deed.ran p unit).batch? = none := by
        rw [Deed.batch?, hrun]
        rfl
      constructor
      · simp [Summary.add, hunits]
      · simp only [Summary.add, List.length_append, List.length_singleton]
        omega
      · simp [Summary.add, hpublished, hbatch]
      · simp [Summary.add, hdiagnostics, hbatch]

namespace Work

theorem summaries_performAll (w : Work) (steps : List Step)
    : ∃ summaries, (w.performAll steps).summaries = w.summaries ++ summaries
        ∧ List.Forall₂ Summary.Counts summaries (w.pipeline.passes steps) := by
  induction steps generalizing w with
  | nil => exact ⟨[], (List.append_nil _).symm, .nil⟩
  | cons step steps ih =>
    obtain ⟨summaries, heq, hcounts⟩ := ih (w.perform step)
    rw [performAll, List.foldl_cons, ← performAll, heq]
    cases step with
    | runUnits units =>
      refine ⟨_ :: summaries, List.append_assoc .., .cons ?_ hcounts⟩
      exact counts_summarize w.pipeline units
    | runUnit | clear | withResolver => exact ⟨summaries, rfl, hcounts⟩

/--
After any steps the batch of a unit is the last one that was made for it, by a run or by its
removal; runs that fault make none. There is one publication for each batch that was made and one
message for each fault, in order, and the totals of each run of many units are those of its deeds.
-/
theorem performAll_records (p : Pipeline) (steps : List Step)
    : let w := performAll { pipeline := p } steps
      (∀ unit, w.recording.diagnosticsFor? unit
          = ((((p.deeds steps).filterMap Deed.batch?).filter (·.1 = unit)).map (·.2)).getLast?)
        ∧ w.recording.publishCalls = ((p.deeds steps).filterMap Deed.batch?).length
        ∧ w.recording.messages = ((p.deeds steps).filterMap Deed.fault?).map Deed.faultMessage
        ∧ List.Forall₂ Summary.Counts w.summaries (p.passes steps) := by
  dsimp only
  have hshown : ((p.deeds steps).map Deed.event).filterMap Event.shown?
      = (p.deeds steps).filterMap Deed.batch? := by
    rw [List.filterMap_map]
    exact List.filterMap_congr fun d _ => Deed.shown?_event d
  have hmessages : ((p.deeds steps).map Deed.event).filterMap Event.message?
      = ((p.deeds steps).filterMap Deed.fault?).map Deed.faultMessage := by
    rw [List.filterMap_map, List.map_filterMap]
    exact List.filterMap_congr fun d _ => Deed.message?_event d
  obtain ⟨summaries, heq, hcounts⟩ := summaries_performAll { pipeline := p } steps
  rw [recording_performAll, Recording.publishCalls_recordAll, Recording.messages_recordAll, hshown,
    hmessages, heq]
  refine ⟨?_, rfl, rfl, hcounts⟩
  intro unit
  rw [Recording.diagnosticsFor?_recordAll, hshown]

end Work

end Pipeline

end DeprecatedUse
