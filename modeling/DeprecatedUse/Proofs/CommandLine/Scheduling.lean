import DeprecatedUse.CommandLine.Check
import DeprecatedUse.Proofs.Java.Uses
import DeprecatedUse.Proofs.Pipeline.History

/-!
This module contains the check of many units at once. The unit of each task is analysed at any time,
all tasks tell one recording what they found, and the report takes the batch of a unit from there
whenever the unit's turn has come and its task has ended. In whatever order the tasks go on, the
report is the one that is made of the units one after another.
-/

namespace DeprecatedUse

open DeprecatedUse.Java (SourceUnit)

def Report.withTimestamp (r : Report) (timestamp : String) : Report :=
  { r with timestamp := timestamp }

namespace Check

inductive Stage where
  | waiting
  | told (outcome : Pipeline.Outcome)
  | ended (outcome : Pipeline.Outcome)
deriving DecidableEq, Repr

def Stage.outcome? : Stage → Option Pipeline.Outcome
  | .waiting => none
  | .told outcome => some outcome
  | .ended outcome => some outcome

structure Task where
  unit : SourceUnit
  stage : Stage := .waiting

def Task.advance (p : Pipeline) (t : Task) : Task × Option Event :=
  match t.stage with
  | .waiting => ({ t with stage := .told (p.runUnit t.unit).1 }, some (p.runUnit t.unit).2)
  | .told outcome => ({ t with stage := .ended outcome }, none)
  | .ended _ => (t, none)

/--
A check under way: the tasks in the order of their units, the recording that they share, and the
report, which is complete as far as the first `reported` units go.
-/
structure Round where
  pipeline : Pipeline
  tasks : List Task
  recording : Recording := {}
  report : Report
  reported : Nat := 0

/--
The task at a place goes on, or the next unit is reported.
-/
inductive Turn where
  | advance (place : Nat)
  | collect
deriving DecidableEq, Repr

def addOutcome (recording : Recording) (r : Report) (u : SourceUnit) : Pipeline.Outcome → Report
  | .published _ _ => r.addUnit u.id u.fingerprint ((recording.diagnosticsFor? u.id).getD {})
  | .failed e => r.addFailure u.id e.message

namespace Round

def start (timestamp : String) (p : Pipeline) (s : Selection) : Round where
  pipeline := p
  tasks := s.units.map ({ unit := · })
  report := Check.report timestamp p { s with units := [] }

def turn (round : Round) : Turn → Round
  | .advance place =>
    match round.tasks[place]? with
    | none => round
    | some t =>
      let (t, event) := t.advance round.pipeline
      { round with
        tasks := round.tasks.set place t
        recording := round.recording.recordAll event.toList }
  | .collect =>
    match round.tasks[round.reported]? with
    | some ⟨u, .ended outcome⟩ =>
      { round with
        report := addOutcome round.recording round.report u outcome
        reported := round.reported + 1 }
    | _ => round

def run (round : Round) (turns : List Turn) : Round :=
  turns.foldl turn round

def Finished (round : Round) : Prop :=
  round.reported = round.tasks.length

instance (round : Round) : Decidable round.Finished :=
  inferInstanceAs (Decidable (_ = _))

def visit (place : Nat) : List Turn :=
  [.advance place, .advance place, .collect]

def inOrder (size : Nat) : List Turn :=
  (List.range size).flatMap visit

/--
What holds however far the tasks have come: the outcome of a task is that of its unit, the batch of
each unit that was published is recorded, and the report is that on the units so far.
-/
structure Sound (timestamp : String) (p : Pipeline) (s : Selection) (round : Round) : Prop where
  pipeline : round.pipeline = p
  units : round.tasks.map Task.unit = s.units
  outcomes : ∀ t, t ∈ round.tasks → ∀ outcome, t.stage.outcome? = some outcome →
    outcome = (p.runUnit t.unit).1
  recorded : ∀ t, t ∈ round.tasks → t.stage.outcome?.isSome → ∀ batch,
    (Analysis.run p.settings p.resolve t.unit).result = .ok batch →
      round.recording.diagnosticsFor? t.unit.id = some batch
  reported : round.reported ≤ s.units.length
  report : round.report
    = Check.report timestamp p { s with units := s.units.take round.reported }

end Round

theorem report_append_singleton (timestamp : String) (p : Pipeline) (s : Selection)
    (units : List SourceUnit) (u : SourceUnit)
    : report timestamp p { s with units := units ++ [u] }
        = addResult (report timestamp p { s with units := units }) u
          (Analysis.run p.settings p.resolve u).result := by
  rw [report, List.foldl_append]
  rfl

theorem outcome_runUnit (p : Pipeline) (u : SourceUnit)
    : (p.runUnit u).1
        = match (Analysis.run p.settings p.resolve u).result with
          | .ok batch => .published u.id batch.size
          | .error e => .failed e := by
  rw [Pipeline.runUnit]
  cases (Analysis.run p.settings p.resolve u).result <;> rfl

theorem addOutcome_eq {recording : Recording} {p : Pipeline} {u : SourceUnit}
    (h : ∀ batch, (Analysis.run p.settings p.resolve u).result = .ok batch →
      recording.diagnosticsFor? u.id = some batch) (r : Report)
    : addOutcome recording r u (p.runUnit u).1
        = addResult r u (Analysis.run p.settings p.resolve u).result := by
  rw [outcome_runUnit]
  cases hresult : (Analysis.run p.settings p.resolve u).result with
  | ok batch =>
    dsimp only
    rw [addOutcome, addResult, h batch hresult, Option.getD_some]
  | error e => rfl

namespace Round

variable {timestamp : String} {p : Pipeline} {s : Selection} {round : Round}

theorem sound_start (timestamp : String) (p : Pipeline) (s : Selection)
    : (start timestamp p s).Sound timestamp p s := by
  have hwaiting : ∀ t, t ∈ (start timestamp p s).tasks → t.stage = .waiting := by
    intro t ht
    obtain ⟨u, -, rfl⟩ := List.mem_map.1 ht
    rfl
  constructor
  · rfl
  · rw [start, List.map_map]
    exact List.map_id _
  · intro t ht outcome houtcome
    rw [hwaiting t ht] at houtcome
    cases houtcome
  · intro t ht houtcome
    rw [hwaiting t ht] at houtcome
    cases houtcome
  · exact Nat.zero_le _
  · rfl

theorem outcome_advance {t : Task}
    (h : ∀ outcome, t.stage.outcome? = some outcome → outcome = (p.runUnit t.unit).1)
    : (t.advance p).1.unit = t.unit
        ∧ (t.advance p).1.stage.outcome? = some (p.runUnit t.unit).1 := by
  obtain ⟨u, stage⟩ := t
  cases stage with
  | waiting => exact ⟨rfl, rfl⟩
  | told outcome => exact ⟨rfl, congrArg some (h outcome rfl)⟩
  | ended outcome => exact ⟨rfl, congrArg some (h outcome rfl)⟩

theorem diagnosticsFor?_runUnit (recording : Recording) (u : SourceUnit) (id : UnitId)
    : (recording.record (p.runUnit u).2).diagnosticsFor? id
        = match (Analysis.run p.settings p.resolve u).result with
          | .ok batch => if u.id = id then some batch else recording.diagnosticsFor? id
          | .error _ => recording.diagnosticsFor? id := by
  have hshown := Pipeline.Deed.shown?_event (.ran p u)
  rw [Pipeline.Deed.event, Pipeline.Deed.batch?] at hshown
  rw [Recording.diagnosticsFor?_record, hshown]
  cases (Analysis.run p.settings p.resolve u).result with
  | ok batch => by_cases h : u.id = id <;> simp [Except.toOption, Option.filter_some, h]
  | error e => rfl

theorem recorded_runUnit {u v : SourceUnit} (hsame : u.id = v.id → u = v) {recording : Recording}
    {batch : Batch} (hbatch : (Analysis.run p.settings p.resolve v).result = .ok batch)
    (h : recording.diagnosticsFor? v.id = some batch)
    : (recording.record (p.runUnit u).2).diagnosticsFor? v.id = some batch := by
  rw [diagnosticsFor?_runUnit]
  split
  · next other hother =>
    split
    · next hid =>
      obtain rfl := hsame hid
      rw [hbatch] at hother
      exact congrArg some (Except.ok.inj hother).symm
    · exact h
  · exact h

def Distinguished (units : List SourceUnit) : Prop :=
  ∀ u, u ∈ units → ∀ v, v ∈ units → u.id = v.id → u = v

theorem mem_units (h : round.Sound timestamp p s) {t : Task} (ht : t ∈ round.tasks)
    : t.unit ∈ s.units := by
  rw [← h.units]
  exact List.mem_map_of_mem ht

theorem length_tasks (h : round.Sound timestamp p s) : round.tasks.length = s.units.length := by
  rw [← h.units, List.length_map]

theorem Sound.recorded_advance (h : round.Sound timestamp p s) (hunits : Distinguished s.units)
    {t : Task} (ht : t ∈ round.tasks) {other : Task}
    (hother : other ∈ round.tasks ∨ other = (t.advance p).1)
    (hsome : other.stage.outcome?.isSome) {batch : Batch}
    (hbatch : (Analysis.run p.settings p.resolve other.unit).result = .ok batch)
    : (round.recording.recordAll (t.advance p).2.toList).diagnosticsFor? other.unit.id
        = some batch := by
  have hkept : other ∈ round.tasks →
      round.recording.diagnosticsFor? other.unit.id = some batch := fun hmem =>
    h.recorded other hmem hsome batch hbatch
  obtain ⟨u, stage⟩ := t
  -- Only a task that has told nothing yet tells something now.
  cases stage with
  | waiting =>
    show (round.recording.record (p.runUnit u).2).diagnosticsFor? other.unit.id = some batch
    obtain hmem | rfl := hother
    · apply recorded_runUnit _ hbatch (hkept hmem)
      exact hunits u (mem_units h ht) other.unit (mem_units h hmem)
    · rw [diagnosticsFor?_runUnit]
      dsimp only [Task.advance] at hbatch ⊢
      rw [hbatch]
      exact if_pos rfl
  | told outcome =>
    obtain hmem | rfl := hother
    · exact hkept hmem
    · exact h.recorded _ ht rfl batch hbatch
  | ended outcome =>
    obtain hmem | rfl := hother
    · exact hkept hmem
    · exact h.recorded _ ht rfl batch hbatch

theorem Sound.advance (h : round.Sound timestamp p s) (hunits : Distinguished s.units)
    (place : Nat) : (round.turn (.advance place)).Sound timestamp p s := by
  rw [turn]
  cases hplace : round.tasks[place]? with
  | none => exact h
  | some t =>
    have ht : t ∈ round.tasks := List.mem_of_getElem? hplace
    obtain ⟨hlt, hget⟩ := List.getElem?_eq_some_iff.1 hplace
    obtain ⟨hunit, houtcome⟩ := outcome_advance (p := p) (h.outcomes t ht)
    dsimp only
    rw [h.pipeline]
    refine ⟨rfl, ?_, ?_, ?_, h.reported, h.report⟩
    · have hbound : place < (round.tasks.map Task.unit).length := by simpa using hlt
      have hsame : t.unit = (round.tasks.map Task.unit)[place] := by simp [hget]
      rw [← h.units, List.map_set, hunit, hsame, List.set_getElem_self]
    · intro other hother outcome hsome
      obtain hother | rfl := List.mem_or_eq_of_mem_set hother
      · exact h.outcomes other hother outcome hsome
      · rw [houtcome] at hsome
        rw [hunit]
        exact (Option.some.inj hsome).symm
    · intro other hother hsome batch hbatch
      exact h.recorded_advance hunits ht (List.mem_or_eq_of_mem_set hother) hsome hbatch

theorem Sound.collect (h : round.Sound timestamp p s)
    : (round.turn .collect).Sound timestamp p s := by
  rw [turn]
  split
  · next u outcome htask =>
    have ht : ⟨u, .ended outcome⟩ ∈ round.tasks := List.mem_of_getElem? htask
    have houtcome : outcome = (p.runUnit u).1 := h.outcomes _ ht outcome rfl
    have hunit : s.units[round.reported]? = some u := by
      rw [← h.units, List.getElem?_map, htask, Option.map_some]
    obtain ⟨hlt, -⟩ := List.getElem?_eq_some_iff.1 hunit
    refine ⟨h.pipeline, h.units, h.outcomes, h.recorded, hlt, ?_⟩
    dsimp only
    rw [List.take_add_one, hunit, Option.toList_some, report_append_singleton, ← h.report,
      houtcome, addOutcome_eq fun batch => h.recorded _ ht rfl batch]
  · exact h

theorem Sound.run (h : round.Sound timestamp p s) (hunits : Distinguished s.units)
    (turns : List Turn) : (round.run turns).Sound timestamp p s := by
  induction turns generalizing round with
  | nil => exact h
  | cons turn turns ih =>
    apply ih
    cases turn with
    | advance place => exact h.advance hunits place
    | collect => exact h.collect

/-! All units can be reported at any time. -/

theorem length_tasks_run (round : Round) (turns : List Turn)
    : (round.run turns).tasks.length = round.tasks.length := by
  induction turns generalizing round with
  | nil => rfl
  | cons turn turns ih =>
    rw [Round.run, List.foldl_cons, ← Round.run, ih]
    unfold Round.turn
    split
    · split
      · rfl
      · exact List.length_set
    · split <;> rfl

theorem run_append (round : Round) (turns more : List Turn)
    : round.run (turns ++ more) = (round.run turns).run more := by
  rw [Round.run, List.foldl_append]
  rfl

theorem getElem?_turn_advance (round : Round) {place : Nat} {t : Task}
    (h : round.tasks[place]? = some t)
    : (round.turn (.advance place)).tasks[place]? = some (t.advance round.pipeline).1 := by
  obtain ⟨hlt, -⟩ := List.getElem?_eq_some_iff.1 h
  rw [turn, h]
  exact List.getElem?_set_self hlt

theorem reported_turn_advance (round : Round) (place : Nat)
    : (round.turn (.advance place)).reported = round.reported := by
  rw [turn]
  split <;> rfl

theorem reported_turn_collect (round : Round) {place : Nat} (hplace : round.reported = place)
    {u : SourceUnit} {outcome : Pipeline.Outcome}
    (h : round.tasks[place]? = some ⟨u, .ended outcome⟩)
    : (round.turn .collect).reported = place + 1 := by
  subst hplace
  rw [turn, h]

theorem advance_advance (p q : Pipeline) (t : Task)
    : ∃ outcome, ((t.advance p).1.advance q).1 = ⟨t.unit, .ended outcome⟩ := by
  obtain ⟨u, stage⟩ := t
  cases stage with
  | waiting => exact ⟨_, rfl⟩
  | told outcome => exact ⟨outcome, rfl⟩
  | ended outcome => exact ⟨outcome, rfl⟩

theorem reported_visit (round : Round) (h : round.reported < round.tasks.length)
    : (round.run (visit round.reported)).reported = round.reported + 1 := by
  obtain ⟨t, htask⟩ : ∃ t, round.tasks[round.reported]? = some t :=
    ⟨_, List.getElem?_eq_getElem h⟩
  let next := round.turn (.advance round.reported)
  obtain ⟨outcome, hended⟩ := advance_advance round.pipeline next.pipeline t
  have htwice := getElem?_turn_advance next (getElem?_turn_advance round htask)
  rw [hended] at htwice
  apply reported_turn_collect (next.turn (.advance round.reported)) _ htwice
  rw [reported_turn_advance, reported_turn_advance]

theorem finished_visits (round : Round) (left : Nat)
    (h : round.reported + left = round.tasks.length)
    : (round.run ((List.range' round.reported left).flatMap visit)).Finished := by
  induction left generalizing round with
  | zero => exact h
  | succ left ih =>
    have hnext := reported_visit round (by omega)
    rw [List.range'_succ, List.flatMap_cons, run_append, ← hnext]
    apply ih
    rw [length_tasks_run, hnext]
    omega

end Round

theorem parse_again {id : UnitId} {text : String} {u : SourceUnit}
    (h : SourceUnit.parse id text = .ok u) : SourceUnit.parse u.id u.text = .ok u := by
  obtain ⟨tokens, -, rfl⟩ := SourceUnit.parse_ok h
  exact h

theorem distinguished_of_parse {units : List SourceUnit}
    (hparse : ∀ u, u ∈ units → SourceUnit.parse u.id u.text = .ok u)
    (htext : ∀ u, u ∈ units → ∀ v, v ∈ units → u.id = v.id → u.text = v.text)
    : Round.Distinguished units := by
  intro u hu v hv hid
  have hread := hparse u hu
  rw [hid, htext u hu v hv hid, hparse v hv] at hread
  exact (Except.ok.inj hread).symm

theorem report_timestamp (timestamp later : String) (p : Pipeline) (s : Selection)
    : report later p s = (report timestamp p s).withTimestamp later := by
  let stamp (r : Report) : Report := r.withTimestamp later
  let fail (r : Report) (e : Java.ParseError) : Report := r.addFailure e.unit e.message
  have hfailures : s.failures.foldl fail (stamp { timestamp := timestamp })
      = stamp (s.failures.foldl fail { timestamp := timestamp }) :=
    List.foldl_hom stamp fun _ _ => rfl
  show s.units.foldl _ (s.failures.foldl fail (stamp { timestamp := timestamp })) = _
  rw [hfailures]
  apply List.foldl_hom stamp
  intro r u
  cases (Analysis.run p.settings p.resolve u).result <;> rfl

namespace Round

theorem Sound.report_eq_of_finished {timestamp : String} {p : Pipeline} {s : Selection}
    {round : Round} (h : round.Sound timestamp p s) (hfinished : round.Finished)
    : round.report = Check.report timestamp p s := by
  rw [h.report, hfinished, length_tasks h, List.take_length]

theorem finished_inOrder (timestamp : String) (p : Pipeline) (s : Selection)
    : ((start timestamp p s).run (inOrder s.units.length)).Finished := by
  rw [inOrder, List.range_eq_range']
  apply finished_visits (start timestamp p s) s.units.length
  rw [start, List.length_map]
  exact Nat.zero_add _

theorem exists_finished {timestamp : String} {p : Pipeline} {s : Selection} {round : Round}
    (h : round.Sound timestamp p s) : ∃ turns, (round.run turns).Finished := by
  refine ⟨_, finished_visits round (round.tasks.length - round.reported) ?_⟩
  have hle := h.reported
  rw [← length_tasks h] at hle
  omega

end Round

/--
However the tasks of the units take their turns, the report so far is the one on the units that have
been reported. It can always be finished, and the finished report is, but for its time, the one of
the check that takes the units one after another.
-/
theorem report_anyOrder {s : Selection}
    (hparse : ∀ u, u ∈ s.units → SourceUnit.parse u.id u.text = .ok u)
    (htext : ∀ u, u ∈ s.units → ∀ v, v ∈ s.units → u.id = v.id → u.text = v.text)
    (p : Pipeline) (timestamp later : String) (turns : List Turn)
    : let round := (Round.start timestamp p s).run turns
      let single := (Round.start later p s).run (Round.inOrder s.units.length)
      round.report = report timestamp p { s with units := s.units.take round.reported }
        ∧ (∃ more, (round.run more).Finished)
        ∧ single.Finished
        ∧ single.report = report later p s
        ∧ (round.Finished → single.report = round.report.withTimestamp later) := by
  have hunits := distinguished_of_parse hparse htext
  have hround := (Round.sound_start timestamp p s).run hunits turns
  have hsingle := (Round.sound_start later p s).run hunits (Round.inOrder s.units.length)
  have hlast := hsingle.report_eq_of_finished (Round.finished_inOrder later p s)
  refine ⟨hround.report, Round.exists_finished hround, Round.finished_inOrder later p s, hlast, ?_⟩
  intro hfinished
  rw [hlast, hround.report_eq_of_finished hfinished, report_timestamp]

theorem exists_unit_of_isOk (id : UnitId) (text : String)
    (h : (SourceUnit.parse id text).isOk)
    : ∃ u, SourceUnit.parse id text = .ok u := by
  cases hparse : SourceUnit.parse id text with
  | error e =>
    rw [hparse] at h
    cases h
  | ok u => exact ⟨u, rfl⟩

/--
Turns for three units: the last task begins first and has ended before any other has begun, and the
second goes on between the steps of the first.
-/
def lastFirst : List Turn :=
  [.advance 2, .advance 2, .collect, .advance 0, .advance 1, .advance 0, .collect, .advance 1,
    .collect, .collect]

theorem finished_lastFirst (timestamp : String) (p : Pipeline) (u v w : SourceUnit)
    : ((Round.start timestamp p ⟨[u, v, w], []⟩).run lastFirst).Finished := by
  simp [Round.run, lastFirst, Round.start, Round.turn, Task.advance, Round.Finished]

theorem report_anyOrder_file_given_twice
    : ∃ u v, SourceUnit.parse "A.java" "class A { void f(B b) { b.old(); } }" = .ok u
        ∧ SourceUnit.parse "B.java" "class B { @Deprecated void old() {} }" = .ok v
        ∧ let p : Pipeline := ⟨{}, (Index.ofUnits [u, v]).resolve⟩
          let round := (Round.start "before" p ⟨[u, v, u], []⟩).run lastFirst
          round.Finished
            ∧ ((Round.start "after" p ⟨[u, v, u], []⟩).run (Round.inOrder 3)).report
              = round.report.withTimestamp "after" := by
  obtain ⟨u, hu⟩ := exists_unit_of_isOk "A.java"
    "class A { void f(B b) { b.old(); } }" (by decide +kernel)
  obtain ⟨v, hv⟩ := exists_unit_of_isOk "B.java"
    "class B { @Deprecated void old() {} }" (by decide +kernel)
  have hdistinct : u.id ≠ v.id := by
    obtain ⟨-, -, rfl⟩ := SourceUnit.parse_ok hu
    obtain ⟨-, -, rfl⟩ := SourceUnit.parse_ok hv
    show "A.java" ≠ "B.java"
    decide
  have hfinished := finished_lastFirst "before" ⟨{}, (Index.ofUnits [u, v]).resolve⟩ u v u
  refine ⟨u, v, hu, hv, hfinished, ?_⟩
  apply (report_anyOrder _ _ _ _ _ _).2.2.2.2 hfinished
  · simp [parse_again hu, parse_again hv]
  · simp [hdistinct, hdistinct.symm]

end Check

end DeprecatedUse
