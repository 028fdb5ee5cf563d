import DeprecatedUse.Index
import DeprecatedUse.Pipeline
import DeprecatedUse.Workspace
import DeprecatedUse.Editor.Client

/-!
This module contains the session of an editor: the documents that are open, the index of the
workspace, and what is told whenever one of them changes.
-/

namespace DeprecatedUse.Editor

open DeprecatedUse.Java (ParseError SourceUnit)

structure Document where
  text : String
  analyzed : Option String := none
deriving DecidableEq, Repr, Inhabited

structure Session where
  project : Option Project := none
  index : Index := {}
  documents : Table Uri Document := ∅
deriving Inhabited

inductive Output where
  | event (e : Event)
  | log (severity : Severity) (text : String)
deriving Inhabited

namespace Session

def check (s : Session) : CheckSettings :=
  (s.project.map fun p => p.settings.check).getD {}

def parseErrorBatch (e : ParseError) : Batch :=
  let start := e.position?.getD {}
  Batch.ofList [{
    code := .parseError
    severity := .error
    message := e.message
    span := ⟨start, ⟨start.line, start.column + 2⟩⟩ }]

def judge (s : Session) (uri : Uri) (text : String) : Event × Bool :=
  let unit := unitOf uri
  match SourceUnit.parse unit text with
  | .error e => (.publish unit (parseErrorBatch e), true)
  | .ok u =>
    match Pipeline.runUnit ⟨s.check, s.index.resolve⟩ u with
    | (.published _ _, event) => (event, true)
    | (.failed _, event) => (event, false)

/--
Analyse a document and publish what was found. Unless it is forced, nothing is done for a text that
has been analysed before.
-/
def analyze (s : Session) (uri : Uri) (force : Bool) : Session × List Output :=
  match s.documents.find? uri with
  | none => (s, [])
  | some d =>
    let current := fingerprint d.text
    if !force && d.analyzed == some current then
      (s, [])
    else
      let (event, shown) := s.judge uri d.text
      let documents :=
        if shown then s.documents.insert uri { d with analyzed := some current } else s.documents
      ({ s with documents := documents }, [.event event])

def analyzeOpen (s : Session) : Session × List Output :=
  s.documents.keys.foldl (fun (s, told) uri =>
    let (s, more) := s.analyze uri true
    (s, told ++ more)) (s, [])

def start (here : Place) (s : Session) (root : Option Path) : Session × List Output :=
  match root with
  | none => ({ s with project := none }, [])
  | some root =>
    match Project.discover here root with
    | .ok p => ({ s with project := some p }, [])
    | .error e =>
      ({ s with project := some { root := root } },
        [.log .warning ("Failed to load deprecheck.toml: " ++ e.message)])

def buildIndex (host : Host) (p : Project) : Except WorkspaceError (Index × Nat) := do
  let w ← Workspace.discover host p
  let (units, failures) := w.loadUnits (Workspace.placeAfter host p)
  return (Index.ofUnits units, failures.length)

def indexed (stats : Index.Stats) (failures : Nat) : List Output :=
  [.log .information
      ("Indexed " ++ toString stats.types ++ " types from " ++ toString stats.units ++ " files"),
    .event (.notify "deprecheck/indexed" (.obj [
      ("parseFailures", .nat failures),
      ("stats", .obj [("deprecated", .nat stats.deprecated), ("members", .nat stats.members),
        ("types", .nat stats.types), ("units", .nat stats.units)])]))]

def reindex (host : Host) (s : Session) : Session × List Output :=
  match s.project with
  | none => (s, [])
  | some p =>
    match buildIndex host p with
    | .error e =>
      let (s, told) := s.analyzeOpen
      (s, .event (.message .warning ("Failed to index workspace: " ++ e.message)) :: told)
    | .ok (index, failures) =>
      let (s, told) := analyzeOpen { s with index := index }
      (s, indexed index.stats failures ++ told)

def greeting : List Output :=
  let watchers := Json.obj [("watchers", .arr [.obj [("globPattern", .str "**/*.java")]])]
  [.event (.register "workspace/didChangeWatchedFiles" watchers),
    .log .information "deprecheck LSP server initialized"]

def ready (host : Host) (s : Session) : Session × List Output :=
  let (s, told) := s.reindex host
  (s, greeting ++ told)

def opened (s : Session) (uri : Uri) (text : String) : Session × List Output :=
  analyze { s with documents := s.documents.insert uri { text := text } } uri true

def setText (s : Session) (uri : Uri) (text : String) : Session :=
  { s with documents := s.documents.modify uri fun d => { d with text := text } }

def setSaved (s : Session) (uri : Uri) : Option String → Session
  | none => s
  | some text => s.setText uri text

def changed (s : Session) (uri : Uri) (texts : List String) : Session × List Output :=
  match texts.getLast? with
  | none => (s, [])
  | some text => (s.setText uri text).analyze uri false

def refresh (s : Session) (uri : Uri) (text : String) : Session :=
  match uri.filePath?, SourceUnit.parse (unitOf uri) text with
  | some _, .ok u => { s with index := s.index.add u }
  | _, _ => s

def saved (s : Session) (uri : Uri) (text : Option String) : Session × List Output :=
  let s := s.setSaved uri text
  match s.documents.find? uri with
  | none => (s, [])
  | some d => (s.refresh uri d.text).analyzeOpen

def closed (s : Session) (uri : Uri) : Session × List Output :=
  ({ s with documents := s.documents.erase uri }, [.event (.publish (unitOf uri) {})])

end Session

end DeprecatedUse.Editor
