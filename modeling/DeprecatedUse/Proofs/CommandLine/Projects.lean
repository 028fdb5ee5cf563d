import DeprecatedUse.CommandLine.Run
import DeprecatedUse.Proofs.Workspace.Dotted

/-!
This module contains the project that a command line is about. A file with settings and the folder
that it stands in name the same project, and the command does the same under both; only where
nothing is written of the folder, the root is empty and less is found from there.
-/

namespace DeprecatedUse

namespace CommandLine

open DeprecatedUse.Workspace (FindAlike FindsLess)

/-! Naming the project. -/

def Invocation.withConfig (i : Invocation) (file : Path) : Invocation :=
  { i with config := some file, root := none }

def Invocation.withRoot (i : Invocation) (root : Path) : Invocation :=
  { i with config := none, root := some root }

variable {here : Place} {p root : Path} {text : String} {settings : Settings}

theorem project_withConfig (i : Invocation) (hread : here.readText p = .ok text)
    (hsettings : Settings.ofToml? text = some settings)
    : project here (i.withConfig p)
        = .ok ⟨p.parent?.getD (Path.ofNames here.folder), settings⟩ := by
  have hfile := Project.ofFile_eq hread hsettings
  simp only [project, Invocation.withConfig, hfile]
  rfl

theorem project_withRoot (i : Invocation)
    (hread : here.readText (root.join Project.fileName) = .ok text)
    (hsettings : Settings.ofToml? text = some settings)
    : project here (i.withRoot root) = .ok ⟨root, settings⟩ := by
  obtain ⟨-, root', hdiscover⟩ := Project.exists_discover_eq hread hsettings
  simp only [project, Invocation.withRoot, Option.getD_some, hdiscover]
  rfl

theorem runInvocation_withConfig_eq {s : Setting} {i : Invocation} {found : Project}
    (hconfig : project s.host.toPlace (i.withConfig p) = .ok found)
    (hroot : project s.host.toPlace (i.withRoot root) = .ok found)
    (hpath : s.host.hasPath (found.root.join Project.fileName) = true)
    : runInvocation s (i.withConfig p) = runInvocation s (i.withRoot root) := by
  have hload : loadProject s (i.withConfig p) = loadProject s (i.withRoot root) := by
    simp only [loadProject, hconfig, hroot, hpath]
    rfl
  have hconfig : (i.withConfig p).command = i.command := rfl
  have hroot : (i.withRoot root).command = i.command := rfl
  rw [runInvocation, runInvocation, hconfig, hroot]
  split
  · rw [runCheck, runCheck, hload]
    rfl
  · rw [runSymbols, runSymbols, hload]
    rfl

/-! The two ways to name a project. -/

/--
The folder; where nothing is written of it, the dot that stands for the one that relative paths
start from.
-/
def orDot (folder : Path) : Path :=
  if folder.bytes = [] then ⟨[Path.dot]⟩ else folder

/--
A file with settings and the folder that it stands in, given as the root, name projects with the
same settings. Where something is written of the folder the two are one project, so the same files
are found and the commands do the same. For a bare name the root is empty.
-/
theorem project_config_agrees {s : Setting} {p : Path} {text : String} {settings : Settings}
    (hname : p.fileName? = some Project.fileName.bytes) (hread : s.host.readText p = .ok text)
    (hsettings : Settings.ofToml? text = some settings) (i : Invocation)
    : ∃ folder found found',
        p.parent? = some folder
        ∧ folder.components ++ [.name Project.fileName.bytes] = p.components
        ∧ project s.host.toPlace (i.withConfig p) = .ok found
        ∧ project s.host.toPlace (i.withRoot (orDot folder)) = .ok found'
        ∧ found.settings = settings ∧ found'.settings = settings
        ∧ (folder.bytes ≠ [] → FindAlike s.host found found'
          ∧ runInvocation s (i.withConfig p) = runInvocation s (i.withRoot (orDot folder)))
        ∧ (folder.bytes = [] → found.root = ⟨[]⟩ ∧ found'.root = ⟨[Path.dot]⟩
          ∧ FindsLess s.host settings) := by
  obtain ⟨folder, hin⟩ := Path.exists_standsIn hname
  obtain ⟨names, node, hfind⟩ := Place.exists_find_of_readText hread
  obtain ⟨way, hway, hempty, hfull, hjoin⟩ :=
    Place.exists_locate_folder hin (Place.find_ok hfind)
  have hfound := project_withConfig i hread hsettings
  rw [hin.parent, Option.getD_some] at hfound
  -- The folder is reached under what stands for it, so the file is found there under its name.
  have hroot : s.host.locate (orDot folder) = .ok way := by
    rw [orDot]
    split
    · next h =>
      obtain rfl := hempty h
      exact Place.locate_dot hway
    · next h => exact hfull h
  have hread' : s.host.readText ((orDot folder).join Project.fileName) = .ok text := by
    rw [← hread]
    exact Place.readText_eq_of_locate ((hjoin _ hroot).trans (Place.find_ok hfind).symm)
  have hfound' := project_withRoot i hread' hsettings
  refine ⟨folder, _, _, hin.parent, ?_, hfound, hfound', rfl, rfl, fun h => ?_, fun h => ?_⟩
  · have hcomponent : Path.componentOf Project.fileName.bytes = .name Project.fileName.bytes := by
      decide +kernel
    rw [hin.components, hcomponent]
  · have horDot : orDot folder = folder := if_neg h
    rw [horDot] at hfound' hread' ⊢
    exact ⟨Workspace.findAlike_refl _ _, runInvocation_withConfig_eq hfound hfound'
      (Project.exists_discover_eq hread' hsettings).1⟩
  · obtain rfl : folder = ⟨[]⟩ := congrArg Path.mk h
    exact ⟨rfl, rfl, Workspace.findsLess _ _⟩

theorem project_config_agrees_two_slashes
    : let s : Setting := ⟨Workspace.hostWith [["w", "deprecheck.toml"], ["w", "A.java"]], false, ""⟩
      let i : Invocation := { command := .symbols false }
      Path.fileName? ⟨"./w//deprecheck.toml"⟩ = some Project.fileName.bytes
        ∧ s.host.readText ⟨"./w//deprecheck.toml"⟩ = .ok "" ∧ Settings.ofToml? "" = some {}
        ∧ ∃ found found', project s.host.toPlace (i.withConfig ⟨"./w//deprecheck.toml"⟩) = .ok found
          ∧ project s.host.toPlace (i.withRoot ⟨"./w"⟩) = .ok found'
          ∧ FindAlike s.host found found'
          ∧ runInvocation s (i.withConfig ⟨"./w//deprecheck.toml"⟩)
            = runInvocation s (i.withRoot ⟨"./w"⟩) := by
  intro s i
  have hname : Path.fileName? ⟨"./w//deprecheck.toml"⟩ = some Project.fileName.bytes := by
    decide +kernel
  have hread : s.host.readText ⟨"./w//deprecheck.toml"⟩ = .ok "" := by decide +kernel
  have hsettings : Settings.ofToml? "" = some {} := by decide +kernel
  have hparent : Path.parent? ⟨"./w//deprecheck.toml"⟩ = some ⟨"./w"⟩ := by decide +kernel
  obtain ⟨folder, found, found', hfolder, -, hfound, hfound', -, -, hfull, -⟩ :=
    project_config_agrees hname hread hsettings i
  rw [hparent] at hfolder
  obtain rfl := Option.some.inj hfolder
  have horDot : orDot ⟨"./w"⟩ = ⟨"./w"⟩ := if_neg (by decide +kernel)
  rw [horDot] at hfound' hfull
  obtain ⟨halike, hrun⟩ := hfull (by decide +kernel)
  exact ⟨hname, hread, hsettings, found, found', hfound, hfound', halike, hrun⟩

/--
A bare name of a file with settings: the root is empty, and the file beside it is found only from
the dot.
-/
theorem project_bareConfig_finds_nothing
    : let host := Workspace.hostWith [["deprecheck.toml"], ["A.java"]]
      let i : Invocation := { command := .symbols false }
      host.readText ⟨"deprecheck.toml"⟩ = .ok "" ∧ Settings.ofToml? "" = some {}
        ∧ ∃ found found', project host.toPlace (i.withConfig ⟨"deprecheck.toml"⟩) = .ok found
          ∧ project host.toPlace (i.withRoot ⟨"."⟩) = .ok found'
          ∧ ¬ FindAlike host found found' := by
  intro host i
  have hread : host.readText ⟨"deprecheck.toml"⟩ = .ok "" := by decide +kernel
  have hread' : host.readText (Path.join ⟨"."⟩ Project.fileName) = .ok "" := by decide +kernel
  have hsettings : Settings.ofToml? "" = some {} := by decide +kernel
  refine ⟨hread, hsettings, _, _, project_withConfig i hread hsettings,
    project_withRoot i hread' hsettings, ?_⟩
  have hparent : Path.parent? ⟨"deprecheck.toml"⟩ = some ⟨""⟩ := by decide +kernel
  have hdiscover : Workspace.discover host ⟨⟨""⟩, {}⟩ = .ok ⟨⟨""⟩, [⟨""⟩], [], []⟩ := by
    decide +kernel
  have hdiscover' : Workspace.discover host ⟨⟨"."⟩, {}⟩
      = .ok ⟨⟨"."⟩, [⟨"."⟩], [], [⟨"./A.java"⟩]⟩ := by
    decide +kernel
  rw [hparent, Option.getD_some, FindAlike, hdiscover, hdiscover']
  intro h
  cases h

end CommandLine

end DeprecatedUse
