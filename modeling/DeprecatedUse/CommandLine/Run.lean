import DeprecatedUse.CommandLine.Check
import DeprecatedUse.CommandLine.Listing
import DeprecatedUse.CommandLine.Request
import DeprecatedUse.Report.Console

/-!
This module contains the running of a command line: what it prints, the files that it writes, and
the status with which it ends.
-/

namespace DeprecatedUse.CommandLine

open DeprecatedUse.Text (Style Colour)
open DeprecatedUse.Java (ParseError SourceUnit)

structure Setting where
  host : Host
  coloured : Bool := false
  timestamp : String

structure Outcome where
  status : Nat := 0
  output : String := ""
  errors : String := ""
  place : Place

structure Failure where
  message : String
  cause : Option String := none

def Failure.text (f : Failure) : String :=
  "Error: " ++ f.message
    ++ (match f.cause with
      | none => ""
      | some cause => "\n\nCaused by:\n    " ++ cause)
    ++ "\n"

abbrev Job := ExceptT Failure (StateM Outcome)

namespace Job

def print (text : String) : Job Unit :=
  modify fun o => { o with output := o.output ++ text }

def tell (i : Invocation) (text : String) : Job Unit :=
  if i.verbose then modify fun o => { o with errors := o.errors ++ text ++ "\n" } else pure ()

def orFail {ε α : Type} (message : ε → String) : Except ε α → Job α
  | .ok a => pure a
  | .error e => throw { message := message e }

def write (file : Path) (text : String) : Job Unit := do
  let place ← orFail FileError.message ((← get).place.writeText file text)
  match place.device? file with
  | some .output => modify fun o => { o with output := o.output ++ text }
  | some .errors => modify fun o => { o with errors := o.errors ++ text }
  | _ => modify fun o => { o with place := place }

def finish (job : Job Unit) (place : Place) : Outcome :=
  match job.run { place := place } with
  | (.ok (), o) => o
  | (.error f, o) => { o with status := 1, errors := o.errors ++ f.text }

end Job

def lead (s : Setting) (colour : Colour) (word : String) : String :=
  Style.paint { colour := some colour } s.coloured word

def project (place : Place) (i : Invocation) : Except Failure Project :=
  let found : Except Failure Project :=
    match i.config with
    | some file =>
      (Project.ofFile place file).mapError fun e =>
        ⟨"Failed to load config from " ++ file.text, some e.message⟩
    | none =>
      (Project.discover place (i.root.getD (Path.ofNames place.folder))).mapError fun e =>
        ⟨e.message, none⟩
  found.map fun p => { p with root := i.root.getD p.root }

def loadProject (s : Setting) (i : Invocation) : Job Project := do
  let here := s.host.toPlace
  match project here i with
  | .error f => throw f
  | .ok p =>
    if i.config.isNone && !here.hasPath (p.root.join Project.fileName) then
      Job.tell i (lead s .yellow "No config file found, using defaults")
    Job.tell i (lead s .cyan "Workspace root:" ++ " " ++ p.root.text)
    return p

def loadWorkspace (s : Setting) (i : Invocation) (p : Project) :
    Job (Workspace × List SourceUnit × List ParseError) := do
  modify fun o => { o with place := Workspace.placeAfter s.host p }
  let w ← Job.orFail WorkspaceError.message (Workspace.discover s.host p)
  Job.tell i (lead s .cyan "Found" ++ " " ++ toString w.files.length ++ " Java files in "
    ++ toString w.sourceRoots.length ++ " source roots")
  let (units, failures) := w.loadUnits (← get).place
  if !failures.isEmpty then
    Job.tell i ("  " ++ lead s .red (toString failures.length) ++ " files failed to parse")
  return (w, units, failures)

def runCheck (s : Setting) (i : Invocation) (output : Path) (markdown : Option Path)
    (denyWarnings : Bool) (files : List Path) : Job Unit := do
  let p ← loadProject s i
  let (w, units, failures) ← loadWorkspace s i p
  let index := Index.ofUnits units
  let stats := index.stats
  Job.tell i (lead s .cyan "Indexed" ++ " " ++ toString stats.types ++ " types, "
    ++ toString stats.members ++ " members (" ++ toString stats.deprecated ++ " deprecated)")
  let selection := Check.select (← get).place units failures files
  Job.tell i (lead s .cyan "Checking" ++ " " ++ toString selection.units.length ++ " files...")
  let report :=
    { Check.report s.timestamp ⟨p.settings.check, index.resolve⟩ selection with
      metadata := some (Check.metadata w stats) }
  Job.write output report.render
  Job.tell i (lead s .green "Report saved to:" ++ " " ++ output.text)
  if let some file := markdown then
    Job.write file (report.markdown w.root)
    Job.tell i (lead s .green "Markdown report saved to:" ++ " " ++ file.text)
  Job.print (report.console s.coloured w.root)
  if Check.fails denyWarnings report then
    modify fun o => { o with status := 1 }

def runSymbols (s : Setting) (i : Invocation) (deprecatedOnly : Bool) : Job Unit := do
  let p ← loadProject s i
  let (_, units, _) ← loadWorkspace s i p
  Job.print (Listing.render s.coloured deprecatedOnly (Index.ofUnits units))

def runInvocation (s : Setting) (i : Invocation) : Job Unit :=
  match i.command with
  | .check output markdown denyWarnings files => runCheck s i output markdown denyWarnings files
  | .symbols deprecatedOnly => runSymbols s i deprecatedOnly

def run (s : Setting) (arguments : List String) : Outcome :=
  let place := s.host.toPlace
  match Request.parse? arguments with
  | none => { status := 2, place := place }
  | some .version => { output := versionText, place := place }
  | some (.help topic) => { output := topic.text, place := place }
  | some (.run i) => (runInvocation s i).finish place

end DeprecatedUse.CommandLine
