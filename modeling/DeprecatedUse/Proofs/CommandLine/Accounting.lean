import DeprecatedUse.Proofs.Analysis.DeprecatedUses
import DeprecatedUse.Proofs.CommandLine.Jobs
import DeprecatedUse.Proofs.CommandLine.Scheduling
import DeprecatedUse.Proofs.Workspace.Files

/-!
This module contains the accounts of a check: every file that is asked for becomes one entry of the
report, and deprecation alone lets no check fail unless it is told to. A file of the workspace says
the same however it is asked for, unless its path is shown as that of another file: the units go by
what is shown.
-/

namespace DeprecatedUse

open DeprecatedUse.Java (ParseError SourceUnit)

namespace Check

/-! What is selected. -/

/--
Files are told apart by what is shown of their paths: no two of those that are found or given are
shown alike, and where something stands under what is shown of a file it is this file.
-/
structure ToldApart (here : Place) (w : Workspace) (files : List Path) : Prop where
  apart : Path.ShownApart (w.files ++ files)
  leads : ∀ file, file ∈ w.files → here.hasPath ⟨file.text⟩ = true → here.Same ⟨file.text⟩ file

theorem toldApart_of_isText {w : Workspace} {files : List Path}
    (h : ∀ file, file ∈ w.files ++ files → file.IsText) (here : Place)
    : ToldApart here w files where
  apart := Path.shownApart_of_isText h
  leads file hfile _ := by
    have hshown := (h file (List.mem_append_left files hfile)).ofText_text
    rw [Path.ofText] at hshown
    rw [hshown]
    rfl

structure Picks (here : Place) (s : Selection) (picked : List Path) : Prop where
  units : s.units = picked.filterMap (Workspace.unit? here)
  failures : s.failures = picked.filterMap (Workspace.failure? here)

/--
The units that are known by the places of their files, all of them among these.
-/
def Known (here : Place) (paths : List Path) (known : Table (List Name) SourceUnit) : Prop :=
  ∀ names u, known.find? names = some u →
    ∃ file node, file ∈ paths ∧ here.find file = .ok (names, node)
      ∧ Workspace.readUnit here file = .ok u

section

variable {here : Place} {s : Selection} {picked paths : List Path}
variable {known : Table (List Name) SourceUnit}

theorem picks_loadUnits (here : Place) (w : Workspace)
    : Picks here ⟨(w.loadUnits here).1, (w.loadUnits here).2⟩ w.files :=
  ⟨Workspace.units_loadUnits here w, Workspace.failures_loadUnits here w⟩

theorem Picks.add_unit (h : Picks here s picked) {file : Path} {u : SourceUnit}
    (hread : Workspace.readUnit here file = .ok u)
    : Picks here { s with units := s.units ++ [u] } (picked ++ [file]) := by
  constructor
  · rw [List.filterMap_append, ← h.units, List.filterMap_cons, Workspace.unit?, hread]
    rfl
  · rw [List.filterMap_append, ← h.failures, List.filterMap_cons, Workspace.failure?, hread]
    exact (List.append_nil _).symm

theorem Picks.add_failure (h : Picks here s picked) {file : Path} {e : ParseError}
    (hread : Workspace.readUnit here file = .error e)
    : Picks here { s with failures := s.failures ++ [e] } (picked ++ [file]) := by
  constructor
  · rw [List.filterMap_append, ← h.units, List.filterMap_cons, Workspace.unit?, hread]
    exact (List.append_nil _).symm
  · rw [List.filterMap_append, ← h.failures, List.filterMap_cons, Workspace.failure?, hread]
    rfl

theorem known_byPlace {units : List SourceUnit}
    (h : ∀ u, u ∈ units → here.hasPath ⟨u.id⟩ = true →
      ∃ file, file ∈ paths ∧ here.Same ⟨u.id⟩ file ∧ Workspace.readUnit here file = .ok u)
    : Known here paths (byPlace here units) := by
  rw [byPlace]
  induction units using List.reverseRecOn with
  | nil =>
    intro names u hfind
    cases hfind
  | append_singleton units u ih =>
    have hrest := ih fun v hv => h v (List.mem_append_left _ hv)
    rw [List.foldl_append, List.foldl_cons, List.foldl_nil]
    split
    · exact hrest
    · next names node hfind =>
      intro names' v hv
      rw [Table.find?_insert] at hv
      split at hv
      · next hnames =>
        cases hv
        have hpath : here.hasPath ⟨u.id⟩ = true := by
          rw [Place.hasPath, hfind]
          rfl
        obtain ⟨file, hfile, hsame, hread⟩ := h u (List.mem_append_right _ List.mem_cons_self) hpath
        rw [Place.find_eq_of_same hsame] at hfind
        exact ⟨file, node, hfile, hnames ▸ hfind, hread⟩
      · exact hrest names' v hv

theorem Known.erase (h : Known here paths known) (names : List Name)
    : Known here paths (known.erase names) := by
  intro names' u hfind
  rw [Table.find?_erase] at hfind
  split at hfind
  · cases hfind
  · exact h names' u hfind

theorem picks_selectFile (hknown : Known here paths known) (h : Picks here s picked) (file : Path)
    : ∃ read, here.Same file read ∧ (read ∈ paths ∨ read = file)
        ∧ Known here paths (selectFile here (known, s) file).1
        ∧ Picks here (selectFile here (known, s) file).2 (picked ++ [read]) := by
  rw [selectFile]
  dsimp only
  split
  · next names u hfound =>
    obtain ⟨⟨names', node⟩, hplace, hrest⟩ := Option.bind_eq_some_iff.1 hfound
    obtain ⟨v, hv, hpair⟩ := Option.bind_eq_some_iff.1 hrest
    obtain ⟨rfl, rfl⟩ := Prod.mk.inj (Option.some.inj hpair)
    obtain ⟨read, node', hmem, hread, hunit⟩ := hknown names' v hv
    -- The unit keeps the path it was found by, which need not be the one that is asked for.
    refine ⟨read, ?_, .inl hmem, hknown.erase names', h.add_unit hunit⟩
    cases hfind : here.find file with
    | error e =>
      rw [hfind] at hplace
      cases hplace
    | ok found =>
      rw [hfind] at hplace
      obtain rfl := Option.some.inj hplace
      rw [Place.Same, hfind, hread]
      rfl
  · split
    · next u hread => exact ⟨file, rfl, .inr rfl, hknown, h.add_unit hread⟩
    · next e hread => exact ⟨file, rfl, .inr rfl, hknown, h.add_failure hread⟩

theorem picks_foldl_selectFile (hknown : Known here paths known) (h : Picks here s picked)
    (files : List Path)
    : ∃ read, List.Forall₂ here.Same files read ∧ read ⊆ paths ++ files
        ∧ Picks here (files.foldl (selectFile here) (known, s)).2 (picked ++ read) := by
  induction files generalizing known s picked with
  | nil => exact ⟨[], List.Forall₂.nil, List.nil_subset _, (List.append_nil picked).symm ▸ h⟩
  | cons file files ih =>
    obtain ⟨first, hfirst, hmem, hknown', h'⟩ := picks_selectFile hknown h file
    obtain ⟨read, hread, hsub, hpicks⟩ := ih hknown' h'
    refine ⟨first :: read, List.Forall₂.cons hfirst hread, ?_, ?_⟩
    · refine List.cons_subset.2 ⟨?_, fun p hp => ?_⟩
      · obtain hmem | rfl := hmem
        · exact List.mem_append_left _ hmem
        · exact List.mem_append_right _ List.mem_cons_self
      · obtain hp | hp := List.mem_append.1 (hsub hp)
        · exact List.mem_append_left _ hp
        · exact List.mem_append_right _ (List.mem_cons_of_mem _ hp)
    · rw [List.append_cons]
      exact hpicks

def targets (w : Workspace) (files : List Path) : List Path :=
  if files.isEmpty then w.files else files

def selection (here : Place) (w : Workspace) (files : List Path) : Selection :=
  select here (w.loadUnits here).1 (w.loadUnits here).2 files

theorem ToldApart.known_byPlace {w : Workspace} {files : List Path} (h : ToldApart here w files)
    : Known here w.files (byPlace here (w.loadUnits here).1) := by
  apply Check.known_byPlace
  intro u hu hpath
  rw [Workspace.units_loadUnits, List.mem_filterMap] at hu
  obtain ⟨file, hfile, hunit⟩ := hu
  rw [Workspace.id_of_unit? hunit] at hpath ⊢
  exact ⟨file, hfile, h.leads file hfile hpath, Workspace.unit?_eq_some_iff.1 hunit⟩

theorem ToldApart.picks {w : Workspace} {files : List Path} (h : ToldApart here w files)
    : ∃ read, List.Forall₂ here.Same (targets w files) read ∧ read ⊆ w.files ++ files
        ∧ Picks here (selection here w files) read := by
  rw [targets, selection, select]
  split
  · exact ⟨w.files, List.forall₂_same.2 fun _ _ => rfl, List.subset_append_left _ _,
      picks_loadUnits here w⟩
  · have hnone : Picks here {} [] := ⟨rfl, rfl⟩
    exact picks_foldl_selectFile h.known_byPlace hnone files

/-! How many are selected. -/

theorem length_selectFile (known : Table (List Name) SourceUnit) (s : Selection) (file : Path)
    : (selectFile here (known, s) file).2.failures.length
          + (selectFile here (known, s) file).2.units.length
        = s.failures.length + s.units.length + 1 := by
  rw [selectFile]
  dsimp only
  split
  · rw [List.length_append]
    rfl
  · split
    · rw [List.length_append]
      rfl
    · rw [List.length_append, Nat.add_right_comm]
      rfl

theorem length_foldl_selectFile (state : Table (List Name) SourceUnit × Selection)
    (files : List Path)
    : (files.foldl (selectFile here) state).2.failures.length
          + (files.foldl (selectFile here) state).2.units.length
        = state.2.failures.length + state.2.units.length + files.length := by
  induction files generalizing state with
  | nil => rfl
  | cons file files ih =>
    rw [List.foldl_cons, ih, length_selectFile, List.length_cons, Nat.add_assoc, Nat.add_comm 1]

theorem length_loadUnits (here : Place) (w : Workspace)
    : (w.loadUnits here).2.length + (w.loadUnits here).1.length = w.files.length := by
  rw [Workspace.units_loadUnits, Workspace.failures_loadUnits]
  induction w.files with
  | nil => rfl
  | cons file files ih =>
    rw [List.filterMap_cons, List.filterMap_cons, List.length_cons, ← ih, Workspace.unit?,
      Workspace.failure?]
    cases Workspace.readUnit here file with
    | error e => exact Nat.add_right_comm _ 1 _
    | ok u => rfl

theorem length_selection (here : Place) (w : Workspace) (files : List Path)
    : (selection here w files).failures.length + (selection here w files).units.length
        = if files = [] then w.files.length else files.length := by
  rw [selection, select]
  cases files with
  | nil => exact length_loadUnits here w
  | cons file files =>
    rw [if_neg (List.cons_ne_nil _ _)]
    exact (length_foldl_selectFile _ _).trans (Nat.zero_add _)

end

/-! What is reported. -/

inductive Entry where
  | analysed (shown : Report.Section)
  | failed (failure : Report.Failure)
deriving DecidableEq, Repr

namespace Entry

def section? : Entry → Option Report.Section
  | .analysed shown => some shown
  | .failed _ => none

def failure? : Entry → Option Report.Failure
  | .analysed _ => none
  | .failed failure => some failure

end Entry

/--
The entries are all that the report says, in its order.
-/
structure Lists (r : Report) (entries : List Entry) : Prop where
  units : r.units = entries.filterMap Entry.section?
  failures : r.failures = entries.filterMap Entry.failure?

section

variable {p : Pipeline} {r : Report}

def entryOf (p : Pipeline) (u : SourceUnit) : Entry :=
  match (Analysis.run p.settings p.resolve u).result with
  | .ok batch => .analysed ⟨u.id, u.fingerprint, batch.diagnostics⟩
  | .error e => .failed ⟨u.id, e.message⟩

theorem foldl_addFailure (r : Report) (failures : List ParseError)
    : (failures.foldl (fun r e => r.addFailure e.unit e.message) r).units = r.units
        ∧ (failures.foldl (fun r e => r.addFailure e.unit e.message) r).failures
          = r.failures ++ failures.map fun e => ⟨e.unit, e.message⟩ := by
  induction failures generalizing r with
  | nil => exact ⟨rfl, (List.append_nil _).symm⟩
  | cons e failures ih =>
    rw [List.foldl_cons, (ih _).1, (ih _).2, List.map_cons, List.append_cons]
    exact ⟨rfl, rfl⟩

theorem foldl_addResult (r : Report) (p : Pipeline) (units : List SourceUnit)
    : (units.foldl (fun r u => addResult r u (Analysis.run p.settings p.resolve u).result) r).units
          = r.units ++ (units.map (entryOf p)).filterMap Entry.section?
        ∧ (units.foldl (fun r u => addResult r u (Analysis.run p.settings p.resolve u).result)
            r).failures
          = r.failures ++ (units.map (entryOf p)).filterMap Entry.failure? := by
  induction units generalizing r with
  | nil => exact ⟨(List.append_nil _).symm, (List.append_nil _).symm⟩
  | cons u units ih =>
    rw [List.foldl_cons, (ih _).1, (ih _).2, List.map_cons, List.filterMap_cons,
      List.filterMap_cons, entryOf]
    cases (Analysis.run p.settings p.resolve u).result with
    | error e => exact ⟨rfl, (List.append_cons _ _ _).symm⟩
    | ok batch => exact ⟨(List.append_cons _ _ _).symm, rfl⟩

end

section

variable {here : Place} {settings : CheckSettings} {index : Index}

def entryFor (here : Place) (settings : CheckSettings) (index : Index) (file : Path) : Entry :=
  match Workspace.readUnit here file with
  | .error e => .failed ⟨e.unit, e.message⟩
  | .ok u => entryOf ⟨settings, index.resolve⟩ u

theorem entryOf_of_readUnit (settings : CheckSettings) (index : Index) {file : Path}
    {u : SourceUnit} (h : Workspace.readUnit here file = .ok u)
    : ∃ batch, (Analysis.run settings index.resolve u).result = .ok batch
        ∧ entryOf ⟨settings, index.resolve⟩ u
          = .analysed ⟨file.text, u.fingerprint, batch.diagnostics⟩ := by
  have hunit := Workspace.unit?_eq_some_iff.2 h
  obtain ⟨text, -, hparse⟩ := Workspace.unit?_some hunit
  obtain ⟨batch, hrun⟩ := Analysis.run_index_ok hparse settings index
  refine ⟨batch, hrun, ?_⟩
  rw [entryOf, hrun, Workspace.id_of_unit? hunit]

theorem lists_report (timestamp : String) (settings : CheckSettings) (index : Index)
    {s : Selection} {picked : List Path} (h : Picks here s picked)
    : Lists (report timestamp ⟨settings, index.resolve⟩ s)
        (picked.map (entryFor here settings index)) := by
  constructor
  · rw [report, (foldl_addResult _ _ _).1, (foldl_addFailure _ _).1, h.units, List.nil_append,
      List.filterMap_map, List.filterMap_map, List.filterMap_filterMap]
    apply List.filterMap_congr
    intro file _
    rw [Workspace.unit?, Function.comp_apply, entryFor]
    cases Workspace.readUnit here file <;> rfl
  · -- All that fails has failed before the analysis, so the failures keep the order of the files.
    have hnone : (s.units.map (entryOf ⟨settings, index.resolve⟩)).filterMap Entry.failure?
        = [] := by
      rw [h.units, List.filterMap_eq_nil_iff]
      intro e he
      obtain ⟨u, hu, rfl⟩ := List.mem_map.1 he
      obtain ⟨file, -, hunit⟩ := List.mem_filterMap.1 hu
      have hread := Workspace.unit?_eq_some_iff.1 hunit
      obtain ⟨batch, -, hentry⟩ := entryOf_of_readUnit settings index hread
      rw [hentry]
      rfl
    rw [report, (foldl_addResult _ _ _).2, (foldl_addFailure _ _).2, hnone, h.failures,
      List.nil_append, List.append_nil, List.filterMap_map, List.map_filterMap]
    apply List.filterMap_congr
    intro file _
    rw [Workspace.failure?, Function.comp_apply, entryFor]
    cases hread : Workspace.readUnit here file with
    | error e => rfl
    | ok u =>
      obtain ⟨batch, -, hentry⟩ := entryOf_of_readUnit settings index hread
      dsimp only
      rw [hentry]
      rfl

theorem entryFor_of_same {file g : Path} (h : here.Same file g) {u : SourceUnit}
    (hread : Workspace.readUnit here g = .ok u)
    : ∃ shown told, entryFor here settings index file = .analysed shown
        ∧ entryFor here settings index g = .analysed told
        ∧ shown.fingerprint = told.fingerprint ∧ shown.diagnostics = told.diagnostics := by
  obtain ⟨v, hread', htext, haccesses⟩ := Workspace.readUnit_of_same h hread
  obtain ⟨batch, hrun, hentry⟩ := entryOf_of_readUnit settings index hread
  obtain ⟨batch', hrun', hentry'⟩ := entryOf_of_readUnit settings index hread'
  obtain rfl : batch = batch' := by
    rw [(Analysis.run_ok hrun).1 v haccesses] at hrun'
    exact Except.ok.inj hrun'
  refine ⟨⟨file.text, v.fingerprint, batch.diagnostics⟩,
    ⟨g.text, u.fingerprint, batch.diagnostics⟩, ?_, ?_, congrArg fingerprint htext, rfl⟩
  · rw [entryFor, hread']
    exact hentry'
  · rw [entryFor, hread]
    exact hentry

theorem unit_of_entryFor {file : Path} {told : Report.Section}
    (h : entryFor here settings index file = .analysed told) : told.unit = file.text := by
  rw [entryFor] at h
  cases hread : Workspace.readUnit here file with
  | error e =>
    rw [hread] at h
    cases h
  | ok u =>
    obtain ⟨batch, -, hentry⟩ := entryOf_of_readUnit settings index hread
    rw [hread] at h
    dsimp only at h
    rw [hentry] at h
    cases h
    rfl

theorem filter_sections_eq_nil {files : List Path} {g : Path}
    (h : ∀ file, file ∈ files → file.text ≠ g.text)
    : ((files.map (entryFor here settings index)).filterMap Entry.section?).filter
        (·.unit = g.text) = [] := by
  rw [List.filter_eq_nil_iff]
  intro shown hshown
  obtain ⟨e, he, hsection⟩ := List.mem_filterMap.1 hshown
  obtain ⟨file, hfile, rfl⟩ := List.mem_map.1 he
  cases hentry : entryFor here settings index file with
  | failed failure =>
    rw [hentry] at hsection
    cases hsection
  | analysed told =>
    rw [hentry] at hsection
    obtain rfl := Option.some.inj hsection
    rw [unit_of_entryFor hentry, decide_eq_true_eq]
    exact h file hfile

theorem filter_sections {files : List Path} (hdistinct : files.Pairwise fun p q => p.text ≠ q.text)
    {g : Path} (hg : g ∈ files) {told : Report.Section}
    (htold : entryFor here settings index g = .analysed told)
    : ((files.map (entryFor here settings index)).filterMap Entry.section?).filter
        (·.unit = g.text) = [told] := by
  obtain ⟨front, back, rfl⟩ := List.append_of_mem hg
  obtain ⟨-, hback, hfront⟩ := List.pairwise_append.1 hdistinct
  rw [List.map_append, List.filterMap_append, List.filter_append, List.map_cons,
    List.filterMap_cons, htold, filter_sections_eq_nil fun p hp => hfront p hp g List.mem_cons_self]
  dsimp only [Entry.section?]
  rw [List.nil_append, List.filter_cons, if_pos (decide_eq_true (unit_of_entryFor htold)),
    filter_sections_eq_nil fun q hq => ((List.pairwise_cons.1 hback).1 q hq).symm]

/--
If the file is one of the workspace that can be read, then the entry says what the report on the
whole workspace says in the one section on that file.
-/
def Entry.Agrees (here : Place) (w : Workspace) (whole : Report) (file : Path) (e : Entry) : Prop :=
  ∀ g, g ∈ w.files → here.Same file g → ∀ u, Workspace.readUnit here g = .ok u →
    ∃ shown told, e = .analysed shown
      ∧ whole.units.filter (·.unit = g.text) = [told]
      ∧ shown.fingerprint = told.fingerprint ∧ shown.diagnostics = told.diagnostics

theorem lists_assemble (timestamp : String) (p : Project) {w : Workspace} {files read : List Path}
    (h : Picks here (select here (w.loadUnits here).1 (w.loadUnits here).2 files) read)
    : Lists (assemble timestamp here p w files)
        (read.map (entryFor here p.settings.check (.ofUnits (w.loadUnits here).1))) := by
  have hlists := lists_report timestamp p.settings.check (.ofUnits (w.loadUnits here).1) h
  exact ⟨hlists.units, hlists.failures⟩

theorem exists_entries {w : Workspace} {files : List Path} {here : Place}
    (hnodup : w.files.Nodup) (htold : ToldApart here w files) (timestamp : String) (p : Project)
    : ∃ entries, Lists (assemble timestamp here p w files) entries
        ∧ List.Forall₂ (Entry.Agrees here w (assemble timestamp here p w []))
          (targets w files) entries := by
  have hdistinct : w.files.Pairwise fun p q => p.text ≠ q.text :=
    hnodup.imp_of_mem fun hp hq hne htext => hne <|
      htold.apart _ (List.mem_append_left _ hp) _ (List.mem_append_left _ hq) htext
  obtain ⟨read, hread, -, hpicks⟩ := htold.picks
  have hwhole : Lists (assemble timestamp here p w []) _ :=
    lists_assemble timestamp p (picks_loadUnits here w)
  refine ⟨_, lists_assemble timestamp p hpicks, List.forall₂_map_right_iff.2 (hread.imp ?_)⟩
  intro file place hfile g hg hsame u hunit
  have hplace : here.Same place g := hfile.symm.trans hsame
  obtain ⟨shown, told, hshown, htold, hfingerprint, hdiagnostics⟩ := entryFor_of_same hplace hunit
  refine ⟨shown, told, hshown, ?_, hfingerprint, hdiagnostics⟩
  rw [hwhole.units]
  exact filter_sections hdistinct hg htold

end

/-! How much is reported. -/

/--
The report has an entry for each of so many files and knows no errors.
-/
structure Accounts (r : Report) (size : Nat) : Prop where
  counted : r.summary.unitsAnalyzed + r.summary.unitsFailed = size
  errors : r.summary.errors = 0

namespace Accounts

variable {r : Report} {size : Nat}

theorem addFailure (h : Accounts r size) (unit : UnitId) (error : String)
    : Accounts (r.addFailure unit error) (size + 1) where
  counted := congrArg (· + 1) h.counted
  errors := h.errors

theorem addUnit (h : Accounts r size) (unit : UnitId) (fingerprint : String) {batch : Batch}
    (hbatch : batch.count .error = 0) : Accounts (r.addUnit unit fingerprint batch) (size + 1) where
  counted := by
    rw [← h.counted, Nat.add_right_comm]
    rfl
  errors := by
    rw [Report.addUnit]
    dsimp only
    rw [hbatch, h.errors]

theorem addResult (h : Accounts r size) (p : Pipeline) (u : SourceUnit)
    : Accounts (addResult r u (Analysis.run p.settings p.resolve u).result) (size + 1) := by
  cases hrun : (Analysis.run p.settings p.resolve u).result with
  | error e => exact h.addFailure u.id e.message
  | ok batch => exact h.addUnit u.id u.fingerprint (Analysis.count_error_run hrun)

theorem foldl {α : Type} {add : Report → α → Report}
    (hadd : ∀ r size a, Accounts r size → Accounts (add r a) (size + 1))
    (h : Accounts r size) (as : List α) : Accounts (as.foldl add r) (size + as.length) := by
  induction as generalizing r size with
  | nil => exact h
  | cons a as ih =>
    rw [List.length_cons, Nat.add_comm as.length, ← Nat.add_assoc]
    exact ih (hadd r size a h)

theorem report (timestamp : String) (p : Pipeline) (s : Selection)
    : Accounts (report timestamp p s) (s.failures.length + s.units.length) := by
  have hempty : Accounts { timestamp := timestamp } 0 := ⟨rfl, rfl⟩
  have hfailures := hempty.foldl (fun _ _ (e : ParseError) h => h.addFailure e.unit e.message)
    s.failures
  rw [Nat.zero_add] at hfailures
  exact hfailures.foldl (fun _ _ u h => h.addResult p u) s.units

theorem fails_iff (h : Accounts r size) (denyWarnings : Bool)
    : fails denyWarnings r = true
        ↔ 0 < r.summary.unitsFailed ∨ (denyWarnings = true ∧ 0 < r.summary.total) := by
  have herrors : r.hasErrors = false := by
    rw [Report.hasErrors, h.errors]
    rfl
  rw [fails, herrors, Bool.false_or, Bool.or_eq_true, Bool.and_eq_true, Report.hasFailures,
    decide_eq_true_eq, decide_eq_true_eq]

end Accounts

/-! Any order of the tasks. -/

namespace Round

/--
However far the tasks have come, no batch that is recorded has an error in it, and the report
accounts for what failed before the check and for the units so far.
-/
structure Tallied (failures : Nat) (round : Round) : Prop where
  recorded : ∀ id batch, round.recording.diagnosticsFor? id = some batch → batch.count .error = 0
  accounts : Accounts round.report (failures + round.reported)

theorem tallied_start (timestamp : String) (p : Pipeline) (s : Selection)
    : (start timestamp p s).Tallied s.failures.length where
  recorded _ _ h := nomatch h
  accounts := Accounts.report timestamp p { s with units := [] }

variable {failures : Nat} {round : Round}

theorem Tallied.advance (h : round.Tallied failures) (place : Nat)
    : (round.turn (.advance place)).Tallied failures := by
  rw [turn]
  split
  · exact h
  · next t _ =>
    refine ⟨?_, h.accounts⟩
    obtain ⟨u, stage⟩ := t
    cases stage with
    | told outcome => exact h.recorded
    | ended outcome => exact h.recorded
    | waiting =>
      intro id batch hbatch
      change (round.recording.record (round.pipeline.runUnit u).2).diagnosticsFor? id
        = some batch at hbatch
      rw [diagnosticsFor?_runUnit] at hbatch
      split at hbatch
      · next found hfound =>
        split at hbatch
        · cases hbatch
          exact Analysis.count_error_run hfound
        · exact h.recorded id batch hbatch
      · exact h.recorded id batch hbatch

theorem Tallied.collect (h : round.Tallied failures)
    : (round.turn .collect).Tallied failures := by
  rw [turn]
  split
  · next u outcome _ =>
    refine ⟨h.recorded, ?_⟩
    cases outcome with
    | failed e => exact h.accounts.addFailure u.id e.message
    | published unit n =>
      apply h.accounts.addUnit
      cases hbatch : round.recording.diagnosticsFor? u.id with
      | none => rfl
      | some batch => exact h.recorded u.id batch hbatch
  · exact h

theorem Tallied.run (h : round.Tallied failures) (turns : List Turn)
    : (round.run turns).Tallied failures := by
  induction turns generalizing round with
  | nil => exact h
  | cons turn turns ih =>
    apply ih
    cases turn with
    | advance place => exact h.advance place
    | collect => exact h.collect

end Round

def pipeline (here : Place) (p : Project) (w : Workspace) : Pipeline :=
  ⟨p.settings.check, (Index.ofUnits (w.loadUnits here).1).resolve⟩

def begin (timestamp : String) (here : Place) (p : Project) (w : Workspace) (files : List Path)
    : Round :=
  .start timestamp (pipeline here p w) (selection here w files)

section

variable {timestamp : String} {here : Place} {p : Project} {w : Workspace} {files : List Path}

theorem accounts_assemble (timestamp : String) (here : Place) (p : Project) (w : Workspace)
    (files : List Path)
    : Accounts (assemble timestamp here p w files)
        (if files = [] then w.files.length else files.length) := by
  obtain ⟨hcounted, herrors⟩ := Accounts.report timestamp (pipeline here p w)
    (selection here w files)
  rw [length_selection] at hcounted
  exact ⟨hcounted, herrors⟩

theorem accounts_begin {turns : List Turn}
    (h : ((begin timestamp here p w files).run turns).Finished)
    : Accounts ((begin timestamp here p w files).run turns).report
        (if files = [] then w.files.length else files.length) := by
  have htallied := (Round.tallied_start timestamp (pipeline here p w)
    (selection here w files)).run turns
  have haccounts := htallied.accounts
  rw [← begin, h, Round.length_tasks_run, begin, Round.start, List.length_map,
    length_selection] at haccounts
  exact haccounts

theorem ToldApart.distinguished (h : ToldApart here w files)
    : Round.Distinguished (selection here w files).units := by
  obtain ⟨read, -, hsub, hpicks⟩ := h.picks
  rw [hpicks.units]
  intro u hu v hv hid
  obtain ⟨file, hfile, hunit⟩ := List.mem_filterMap.1 hu
  obtain ⟨file', hfile', hunit'⟩ := List.mem_filterMap.1 hv
  rw [Workspace.id_of_unit? hunit, Workspace.id_of_unit? hunit'] at hid
  obtain rfl := h.apart file (hsub hfile) file' (hsub hfile') hid
  rw [hunit] at hunit'
  exact Option.some.inj hunit'

theorem ToldApart.report_begin (h : ToldApart here w files) {turns : List Turn}
    (hfinished : ((begin timestamp here p w files).run turns).Finished)
    : { ((begin timestamp here p w files).run turns).report with
          metadata := some (metadata w (Index.ofUnits (w.loadUnits here).1).stats) }
        = assemble timestamp here p w files := by
  have hround := (Round.sound_start timestamp (pipeline here p w)
    (selection here w files)).run h.distinguished turns
  rw [begin, hround.report_eq_of_finished hfinished]
  rfl

end

end Check

namespace CommandLine

open Check (Entry)
open Workspace (discover filesBelow wants dropRepeats)

/--
A check that finds its files and can save its report has an entry for each file that it is about. It
knows no errors; it ends with a failure only if a file could not be read, or if something was found
and the flag asks for it. This is so in whatever order the tasks of the units go on. Where what is
shown of their paths tells the files apart, all orders lead to one report, and a file of the
workspace has the same fingerprint and the same diagnostics as in a check of all files, however it
is asked for.
-/
theorem run_check_accounts {s : Setting} {arguments : List String} {i : Invocation}
    {output : Path} {markdown : Option Path} {denyWarnings : Bool} {files : List Path}
    (hrequest : Request.parse? arguments = some (.run i))
    (hcommand : i.command = .check output markdown denyWarnings files)
    {p : Project} (hproject : project s.host.toPlace i = .ok p)
    {w : Workspace} (hdiscover : Workspace.discover s.host p = .ok w)
    {place : Place} (hsaved : (Workspace.placeAfter s.host p).writeAll
      (Check.saves (Check.assemble s.timestamp (Workspace.placeAfter s.host p) p w files) w
        output markdown) = .ok place)
    (turns : List Check.Turn)
    : let here := Workspace.placeAfter s.host p
      let r := Check.assemble s.timestamp here p w files
      let round := (Check.begin s.timestamp here p w files).run turns
      let size := if files = [] then w.files.length else files.length
      (run s arguments).place = place
        ∧ Check.Accounts r size
        ∧ (run s arguments).status
          = (if 0 < r.summary.unitsFailed ∨ (denyWarnings = true ∧ 0 < r.summary.total)
            then 1 else 0)
        ∧ (round.Finished → Check.Accounts round.report size)
        ∧ (Check.ToldApart here w files →
          (round.Finished → { round.report with metadata := r.metadata } = r)
            ∧ ∃ entries, Check.Lists r entries
              ∧ List.Forall₂ (Entry.Agrees here w (Check.assemble s.timestamp here p w []))
                (Check.targets w files) entries) := by
  intro here r round size
  have hrun : run s arguments
      = (runCheck s i output markdown denyWarnings files).finish s.host.toPlace := by
    rw [run, hrequest]
    dsimp only
    rw [runInvocation, hcommand]
  obtain ⟨hplace, hstatus⟩ := (Job.gives_runCheck hproject hdiscover rfl hsaved denyWarnings).finish
  have haccounts : Check.Accounts r size := Check.accounts_assemble s.timestamp here p w files
  refine ⟨?_, haccounts, ?_, Check.accounts_begin, fun htold => ⟨htold.report_begin, ?_⟩⟩
  · rw [hrun, hplace]
  · rw [hrun, hstatus]
    exact if_congr (haccounts.fails_iff denyWarnings) rfl rfl
  · exact Check.exists_entries (Workspace.nodup_files hdiscover) htold s.timestamp p

def callOfOld : Setting where
  host := {
    tree := ({} : FileTree).putFile ["w", "A.java"]
      (Text.Utf8.encode "class A { @Deprecated void old() {} void f(A a) { a.old(); } }")
    folder := ["w"]
    launch := fun _ _ _ => .error .badWord }
  timestamp := ""

theorem eq_ok_of_toOption {ε α : Type} {found : Except ε α} {a : α} (h : found.toOption = some a)
    : found = .ok a := by
  cases found with
  | error e => cases h
  | ok b => exact congrArg Except.ok (Option.some.inj h)

theorem run_check_accounts_file_given_twice
    : let here := callOfOld.host.toPlace
      let p : Project := { root := ⟨"/w"⟩ }
      let w : Workspace := ⟨⟨"/w"⟩, [⟨"/w"⟩], [], [⟨"/w/A.java"⟩]⟩
      let r := Check.assemble "" here p w [⟨"A.java"⟩, ⟨"./A.java"⟩, ⟨"C.java"⟩]
      r.summary.unitsAnalyzed + r.summary.unitsFailed = 3
        ∧ ∃ first second third told,
          Check.Lists r [.analysed first, .analysed second, third]
            ∧ (Check.assemble "" here p w []).units.filter (·.unit = Path.text ⟨"/w/A.java"⟩)
              = [told]
            ∧ first.diagnostics = told.diagnostics
            ∧ second.diagnostics = told.diagnostics := by
  intro here p w r
  have hread : (Workspace.unit? here ⟨"/w/A.java"⟩).isSome := by
    decide +kernel
  obtain ⟨u, hread⟩ := Option.isSome_iff_exists.1 hread
  have hsaved : ((here.writeAll (Check.saves r w ⟨"report.json"⟩ none)).toOption).isSome := by
    decide +kernel
  obtain ⟨place, hsaved⟩ := Option.isSome_iff_exists.1 hsaved
  have hrequest : Request.parse? ["check", "--deny-warnings", "A.java", "./A.java", "C.java"]
      = some (.run ⟨none, none, false, .check ⟨"report.json"⟩ none true
          [⟨"A.java"⟩, ⟨"./A.java"⟩, ⟨"C.java"⟩]⟩) := by
    decide +kernel
  have hproject : (project here ⟨none, none, false, .check ⟨"report.json"⟩ none true
      [⟨"A.java"⟩, ⟨"./A.java"⟩, ⟨"C.java"⟩]⟩).toOption = some p := by
    decide +kernel
  obtain ⟨-, haccounts, -, -, htold⟩ := run_check_accounts (s := callOfOld) hrequest rfl
    (eq_ok_of_toOption hproject) (w := w) (by decide +kernel) (eq_ok_of_toOption hsaved) []
  obtain ⟨-, entries, hlists, hagrees⟩ := htold (Check.toldApart_of_isText (by decide +kernel) here)
  refine ⟨haccounts.counted, ?_⟩
  change List.Forall₂ _ ([⟨"A.java"⟩, ⟨"./A.java"⟩, ⟨"C.java"⟩] : List Path) entries at hagrees
  obtain _ | ⟨hfirst, _ | ⟨hsecond, _ | ⟨-, ⟨⟩⟩⟩⟩ := hagrees
  have hread := Workspace.unit?_eq_some_iff.1 hread
  -- Both arguments lead to one file, so both entries agree with the one that is told of it.
  obtain ⟨first, told, rfl, htold, -, hsame⟩ := hfirst ⟨"/w/A.java"⟩ List.mem_cons_self
    (by decide +kernel) u hread
  obtain ⟨second, told', rfl, htold', -, hsame'⟩ := hsecond ⟨"/w/A.java"⟩ List.mem_cons_self
    (by decide +kernel) u hread
  obtain rfl : told = told' := by
    rw [htold] at htold'
    exact (List.cons.inj htold').1
  exact ⟨first, second, _, told, hlists, htold, hsame, hsame'⟩

def oddName : Name :=
  [97, 0xfe, 46, 106, 97, 118, 97]

def callOfShownAlike : Setting where
  host := {
    tree := (({} : FileTree).putFile ["w", "a\uFFFD.java"] (Text.Utf8.encode "class A {}")).putFile
      ["w", oddName] (Text.Utf8.encode "class B {}")
    folder := ["w"]
    launch := fun _ _ _ => .error .badWord }
  timestamp := ""

theorem discover_shownAlike
    : discover callOfShownAlike.host { root := ⟨"/w"⟩ }
        = .ok ⟨⟨"/w"⟩, [⟨"/w"⟩], [], [⟨"/w/a\uFFFD.java"⟩, Path.join ⟨"/w"⟩ ⟨oddName⟩]⟩ := by
  let files : List Path := [⟨"/w/a\uFFFD.java"⟩, Path.join ⟨"/w"⟩ ⟨oddName⟩]
  have hbelow : (([⟨"/w"⟩] : List Path).flatMap callOfShownAlike.host.filesBelow).filter
      (wants { root := ⟨"/w"⟩ }) = files := by
    decide +kernel
  have hsorted : files.Pairwise fun p q => Path.le p q = true := by
    decide +kernel
  have hfiles : filesBelow callOfShownAlike.host.toPlace { root := ⟨"/w"⟩ } [⟨"/w"⟩] = files := by
    rw [filesBelow, hbelow, List.mergeSort_of_pairwise hsorted]
    simp only [files]
    rw [dropRepeats, if_neg (by decide +kernel), dropRepeats]
    simp
  exact congrArg (fun found => Except.ok (Workspace.mk ⟨"/w"⟩ [⟨"/w"⟩] [] found)) hfiles

/--
Two files are shown alike: the name of one holds a replacement character, that of the other is no
text. A check of the one tells of the other.
-/
theorem not_accounts_shown_alike
    : let here := callOfShownAlike.host.toPlace
      let p : Project := { root := ⟨"/w"⟩ }
      let shown := fun (r : Report) => r.units.map fun told => (told.unit, told.fingerprint)
      ∃ w, discover callOfShownAlike.host p = .ok w
        ∧ ⟨"/w/a\uFFFD.java"⟩ ∈ w.files
        ∧ here.Same ⟨"a\uFFFD.java"⟩ ⟨"/w/a\uFFFD.java"⟩
        ∧ here.readText ⟨"/w/a\uFFFD.java"⟩ = .ok "class A {}"
        ∧ shown (Check.assemble "" here p w [⟨"a\uFFFD.java"⟩])
          = [("/w/a\uFFFD.java", fingerprint "class B {}")]
        ∧ shown (Check.assemble "" here p w [])
          = [("/w/a\uFFFD.java", fingerprint "class A {}"),
            ("/w/a\uFFFD.java", fingerprint "class B {}")]
        ∧ fingerprint "class A {}" ≠ fingerprint "class B {}" := by
  intro here p shown
  refine ⟨_, discover_shownAlike, List.mem_cons_self, by decide +kernel, by decide +kernel,
    by decide +kernel, by decide +kernel, by decide +kernel⟩

end CommandLine

end DeprecatedUse
