import DeprecatedUse.CommandLine.Run
import Mathlib

/-!
This module contains what the jobs of a command line leave behind: the files and the status. What
they print on the way is left open.
-/

namespace DeprecatedUse

/-! What is written to a device changes no file. -/

namespace FileTree

theorem node?_insert_of_ne (t : FileTree) {names place : List Name} (h : names ≠ place)
    (node : Node) : node? ⟨t.nodes.insert place node⟩ names = t.node? names := by
  rw [node?, node?, Table.find?_insert, if_neg h]

theorem node?_makeFolder {t : FileTree} {names : List Name} {node : Node}
    (h : t.node? names = some node) (folder : List Name)
    : (t.makeFolder folder).node? names = some node := by
  rw [makeFolder]
  induction List.range (folder.length + 1) generalizing t with
  | nil => exact h
  | cons n rest ih =>
    rw [List.foldl_cons]
    apply ih
    dsimp only
    split
    · exact h
    · next hnew =>
      rw [node?_insert_of_ne, h]
      rintro rfl
      rw [h] at hnew
      exact hnew rfl

theorem node?_putFile_of_ne {t : FileTree} {names place : List Name} {node : Node}
    (h : t.node? names = some node) (hne : names ≠ place) (content : List UInt8)
    : (t.putFile place content).node? names = some node := by
  rw [putFile, node?_insert_of_ne _ hne, node?_makeFolder h]

theorem node?_putFile_self (t : FileTree) {place : List Name} (h : place ≠ [])
    (content : List UInt8) : (t.putFile place content).node? place = some (.file content) := by
  rw [node?, if_neg h, putFile, Table.find?_insert, if_pos rfl]

end FileTree

namespace Place

theorem step_putFile {t : FileTree} {place : List Name} (hplace : t.node? place ≠ some .folder)
    {content : List UInt8} {names next : List Name} {part : Name}
    (h : step t names part = .ok next) : step (t.putFile place content) names part = .ok next := by
  rw [step] at h ⊢
  split at h
  · cases h
  · cases h
  · cases h
  · cases h
  · next hfolder =>
    have hne : names ≠ place := by
      rintro rfl
      exact hplace hfolder
    rw [FileTree.node?_putFile_of_ne hfolder hne]
    exact h

theorem foldlM_step_putFile {t : FileTree} {place : List Name}
    (hplace : t.node? place ≠ some .folder) {content : List UInt8} {names last : List Name}
    {parts : List Name} (h : parts.foldlM (step t) names = .ok last)
    : parts.foldlM (step (t.putFile place content)) names = .ok last := by
  induction parts generalizing names with
  | nil => exact h
  | cons part parts ih =>
    rw [List.foldlM_cons] at h ⊢
    cases hstep : step t names part with
    | error e =>
      rw [hstep] at h
      cases h
    | ok next =>
      rw [hstep] at h
      rw [step_putFile hplace hstep]
      exact ih h

theorem locate_putFile {here : Place} {place : List Name}
    (hplace : here.tree.node? place ≠ some .folder) {content : List UInt8} {p : Path}
    {names : List Name} (h : here.locate p = .ok names)
    : locate { here with tree := here.tree.putFile place content } p = .ok names := by
  rw [locate] at h ⊢
  split at h
  · cases h
  · split at h
    · cases h
    · next hempty hnul =>
      rw [if_neg hempty, if_neg hnul]
      exact foldlM_step_putFile hplace h

theorem dropTrailing_slash {p : Path} (h : p.bytes.getLast? ≠ some Path.slash)
    : Text.dropTrailing [Path.slash] p.bytes = p.bytes := by
  rw [Text.dropTrailing, List.reverse_eq_iff, Text.dropLeading]
  cases hbytes : p.bytes.reverse with
  | nil => rfl
  | cons c rest =>
    have hne : c ≠ Path.slash := by
      rintro rfl
      rw [List.reverse_eq_iff, List.reverse_cons] at hbytes
      rw [hbytes] at h
      exact h List.getLast?_concat
    simp [List.isPrefixOf?, hne.symm]

theorem writeText_ok {here place : Place} {p : Path} {text : String}
    (h : here.writeText p text = .ok place)
    : place = here
        ∨ ∃ names, here.locate p = .ok names ∧ here.tree.node? names ≠ some .folder
          ∧ place = { here with tree := here.tree.putFile names (Text.Utf8.encode text) } := by
  rw [writeText] at h
  cases hlocate : here.locate (if Text.dropTrailing [Path.slash] p.bytes = []
      then p else ⟨Text.dropTrailing [Path.slash] p.bytes⟩) with
  | error e =>
    rw [hlocate] at h
    cases h
  | ok names =>
    rw [hlocate] at h
    dsimp only [bind, Except.bind] at h
    split at h
    · cases h
    · split at h
      · exact .inl (Except.ok.inj h).symm
      · cases h
    · exact .inl (Except.ok.inj h).symm
    · next hfolder _ _ =>
      split at h
      · cases h
      · next hslash =>
        -- The path ends in no slash, so the place that was asked about is its own.
        rw [dropTrailing_slash hslash] at hlocate
        refine .inr ⟨names, ?_, hfolder, (Except.ok.inj h).symm⟩
        rw [← hlocate]
        split <;> rfl
    · cases h
    · cases h

theorem device?_writeText {here place : Place} {p : Path} {text : String}
    (h : here.writeText p text = .ok place) : place = here ∨ place.device? p = none := by
  obtain hkept | ⟨names, hlocate, hfolder, rfl⟩ := writeText_ok h
  · exact .inl hkept
  · right
    have hroot : names ≠ [] := by
      rintro rfl
      exact hfolder rfl
    rw [device?, find, locate_putFile hfolder hlocate]
    dsimp only [bind, Except.bind]
    rw [FileTree.node?_putFile_self _ hroot]
    rfl

def writeAll (here : Place) (files : List (Path × String)) : Except FileError Place :=
  files.foldlM (fun place (file, text) => place.writeText file text) here

theorem writeAll_cons {here place : Place} {file : Path} {text : String}
    {files : List (Path × String)} (h : here.writeAll ((file, text) :: files) = .ok place)
    : ∃ between, here.writeText file text = .ok between
        ∧ between.writeAll files = .ok place := by
  rw [writeAll, List.foldlM_cons] at h
  dsimp only at h
  cases hwrite : here.writeText file text with
  | error e =>
    rw [hwrite] at h
    cases h
  | ok between =>
    rw [hwrite] at h
    exact ⟨between, rfl, h⟩

end Place

namespace Check

def assemble (timestamp : String) (here : Place) (p : Project) (w : Workspace)
    (files : List Path) : Report :=
  let (units, failures) := w.loadUnits here
  let index := Index.ofUnits units
  { Check.report timestamp ⟨p.settings.check, index.resolve⟩
      (Check.select here units failures files) with
    metadata := some (Check.metadata w index.stats) }

def saves (r : Report) (w : Workspace) (output : Path) (markdown : Option Path) :
    List (Path × String) :=
  (output, r.render) :: (markdown.map fun file => (file, r.markdown w.root)).toList

end Check

namespace CommandLine

def Outcome.mark (o : Outcome) : Place × Nat :=
  (o.place, o.status)

namespace Job

variable {α β : Type} {before between after : Place × Nat}

/--
From the files and the status before it, the job comes to a value, and to the files and the status
after it.
-/
def Gives (before : Place × Nat) (job : Job α) (a : α) (after : Place × Nat) : Prop :=
  ∀ o : Outcome, o.mark = before → ∃ o' : Outcome, job.run o = (.ok a, o') ∧ o'.mark = after

theorem gives_pure (a : α) : Gives before (pure a) a before := by
  intro o ho
  exact ⟨o, rfl, ho⟩

theorem run_bind {job : Job α} {next : α → Job β} {o o' : Outcome} {a : α}
    (h : job.run o = (.ok a, o')) : (job >>= next).run o = (next a).run o' := by
  show (ExceptT.run (job >>= next)).run o = _
  rw [ExceptT.run_bind, StateT.run_bind]
  show (job.run o >>= _ : Id _) = _
  rw [h]
  rfl

theorem Gives.bind {job : Job α} {next : α → Job β} {a : α} {b : β} (h : Gives before job a between)
    (hnext : Gives between (next a) b after) : Gives before (job >>= next) b after := by
  intro o ho
  obtain ⟨o', hrun, ho'⟩ := h o ho
  rw [run_bind hrun]
  exact hnext o' ho'

theorem gives_get {next : Outcome → Job α} {a : α}
    (h : ∀ o : Outcome, o.place = before.1 → Gives before (next o) a after)
    : Gives before (get >>= next) a after := by
  intro o ho
  exact h o (congrArg Prod.fst ho) o ho

theorem gives_modify {f : Outcome → Outcome}
    (h : ∀ o : Outcome, o.mark = before → (f o).mark = after)
    : Gives before (modify f) () after := by
  intro o ho
  exact ⟨f o, rfl, h o ho⟩

theorem gives_print (text : String) : Gives before (print text) () before :=
  gives_modify fun _ ho => ho

theorem gives_tell (i : Invocation) (text : String) : Gives before (tell i text) () before := by
  rw [tell]
  split
  · exact gives_modify fun _ ho => ho
  · exact gives_pure ()

theorem gives_orFail {ε : Type} {message : ε → String} {found : Except ε α} {a : α}
    (h : found = .ok a) : Gives before (orFail message found) a before := by
  rw [h]
  exact gives_pure a

theorem gives_write {here place : Place} {file : Path} {text : String}
    (h : here.writeText file text = .ok place) (status : Nat)
    : Gives (here, status) (write file text) () (place, status) := by
  rw [write]
  apply gives_get
  rintro o rfl
  apply Gives.bind (gives_orFail h)
  -- The stream is looked for in the files after the write, where a new file may hide it.
  have hdevice : place.device? file ≠ none → place = o.place :=
    (Place.device?_writeText h).resolve_right
  split
  · next hstream =>
    rw [hdevice (by rw [hstream]; exact Option.some_ne_none _)]
    exact gives_modify fun _ ho' => ho'
  · next hstream =>
    rw [hdevice (by rw [hstream]; exact Option.some_ne_none _)]
    exact gives_modify fun _ ho' => ho'
  · apply gives_modify
    intro o' ho'
    obtain ⟨-, hstatus⟩ := Prod.mk.inj ho'
    exact congrArg (place, ·) hstatus

theorem gives_loadProject {s : Setting} {i : Invocation} {p : Project}
    (h : project s.host.toPlace i = .ok p) : Gives before (loadProject s i) p before := by
  rw [loadProject, h]
  have hrest : Gives before (do
      tell i (lead s .cyan "Workspace root:" ++ " " ++ p.root.text)
      return p) p before := (gives_tell i _).bind (gives_pure p)
  dsimp only
  split
  · exact (gives_tell i _).bind hrest
  · exact hrest

theorem gives_loadWorkspace {s : Setting} {i : Invocation} {p : Project} {w : Workspace}
    (h : Workspace.discover s.host p = .ok w) {here : Place} (status : Nat)
    : Gives (here, status) (loadWorkspace s i p)
        (w, w.loadUnits (Workspace.placeAfter s.host p))
        (Workspace.placeAfter s.host p, status) := by
  have hmoved : Gives (here, status)
      (modify fun o => { o with place := Workspace.placeAfter s.host p }) ()
      (Workspace.placeAfter s.host p, status) := by
    apply gives_modify
    intro o ho
    obtain ⟨-, hstatus⟩ := Prod.mk.inj ho
    exact congrArg (Workspace.placeAfter s.host p, ·) hstatus
  rw [loadWorkspace]
  apply hmoved.bind
  apply (gives_orFail h).bind
  apply (gives_tell i _).bind
  apply gives_get
  intro o hplace
  rw [hplace]
  dsimp only
  split
  · exact (gives_tell i _).bind (gives_pure _)
  · exact gives_pure _

theorem gives_conclude (place : Place) (text : String) (failed : Bool)
    : Gives (place, 0) (do
        print text
        if failed then
          modify fun o => { o with status := 1 }) () (place, if failed then 1 else 0) := by
  apply (gives_print text).bind
  cases failed with
  | false => exact gives_pure ()
  | true =>
    apply gives_modify
    intro o ho
    obtain ⟨hplace, -⟩ := Prod.mk.inj ho
    exact congrArg (·, 1) hplace

theorem gives_runCheck {s : Setting} {i : Invocation} {output : Path} {markdown : Option Path}
    {files : List Path} {p : Project} {w : Workspace} {here place : Place}
    (hproject : project s.host.toPlace i = .ok p) (hdiscover : Workspace.discover s.host p = .ok w)
    {r : Report}
    (hreport : Check.assemble s.timestamp (Workspace.placeAfter s.host p) p w files = r)
    (hsaved : (Workspace.placeAfter s.host p).writeAll (Check.saves r w output markdown)
      = .ok place)
    (denyWarnings : Bool)
    : Gives (here, 0) (runCheck s i output markdown denyWarnings files) ()
        (place, if Check.fails denyWarnings r then 1 else 0) := by
  rw [Check.saves] at hsaved
  obtain ⟨between, hwrite, hrest⟩ := Place.writeAll_cons hsaved
  rw [runCheck]
  apply (gives_loadProject hproject).bind
  apply (gives_loadWorkspace hdiscover 0).bind
  dsimp only
  apply (gives_tell i _).bind
  apply gives_get
  intro o hplace
  rw [hplace]
  apply (gives_tell i _).bind
  rw [Check.assemble] at hreport
  dsimp only at hreport ⊢
  rw [hreport]
  apply (gives_write hwrite 0).bind
  apply (gives_tell i _).bind
  -- A report in Markdown is one more file to write.
  cases markdown with
  | none =>
    obtain rfl : between = place := Except.ok.inj hrest
    exact gives_conclude between _ _
  | some file =>
    obtain ⟨last, hwrite', hrest'⟩ := Place.writeAll_cons hrest
    obtain rfl : last = place := Except.ok.inj hrest'
    apply (gives_write hwrite' 0).bind
    apply (gives_tell i _).bind
    exact gives_conclude last _ _

theorem Gives.finish {job : Job Unit} {here place : Place} {status : Nat}
    (h : Gives (here, 0) job () (place, status))
    : (job.finish here).place = place ∧ (job.finish here).status = status := by
  obtain ⟨o, hrun, ho⟩ := h { place := here } rfl
  rw [Job.finish, hrun]
  exact Prod.mk.inj ho

end Job

end CommandLine

end DeprecatedUse
