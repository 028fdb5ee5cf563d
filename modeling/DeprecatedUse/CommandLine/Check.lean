import DeprecatedUse.Index
import DeprecatedUse.Pipeline
import DeprecatedUse.Workspace
import DeprecatedUse.Wire.Report

/-!
This module contains the check of a workspace or of some of its files: which units are analysed, and
the report on them.
-/

namespace DeprecatedUse.Check

open DeprecatedUse.Java (ParseError SourceUnit)

structure Selection where
  units : List SourceUnit := []
  failures : List ParseError := []

def byPlace (here : Place) (units : List SourceUnit) : Table (List Name) SourceUnit :=
  units.foldl (fun known u =>
    match here.find ⟨u.id⟩ with
    | .error _ => known
    | .ok (names, _) => known.insert names u) ∅

/--
Select one more file: the workspace's unit of it, or else the file read on its own. A unit of the
workspace is selected once.
-/
def selectFile (here : Place) (state : Table (List Name) SourceUnit × Selection) (file : Path) :
    Table (List Name) SourceUnit × Selection :=
  let (known, s) := state
  let found := do
    let (names, _) ← (here.find file).toOption
    return (names, ← known.find? names)
  match found with
  | some (names, u) => (known.erase names, { s with units := s.units ++ [u] })
  | none =>
    match Workspace.readUnit here file with
    | .ok u => (known, { s with units := s.units ++ [u] })
    | .error e => (known, { s with failures := s.failures ++ [e] })

/--
Select files, or the whole workspace if none are given. Files from outside of the workspace are
checked against its index and add nothing to it.
-/
def select (here : Place) (units : List SourceUnit) (failures : List ParseError)
    (files : List Path) : Selection :=
  if files.isEmpty then
    ⟨units, failures⟩
  else
    (files.foldl (selectFile here) (byPlace here units, {})).2

def addResult (r : Report) (u : SourceUnit) : Except AnalysisError Batch → Report
  | .ok batch => r.addUnit u.id u.fingerprint batch
  | .error e => r.addFailure u.id e.message

def report (timestamp : String) (p : Pipeline) (s : Selection) : Report :=
  s.units.foldl (fun r u => addResult r u (Analysis.run p.settings p.resolve u).result)
    (s.failures.foldl (fun r e => r.addFailure e.unit e.message) { timestamp := timestamp })

def metadata (w : Workspace) (stats : Index.Stats) : Json :=
  .obj [("index", .obj [("deprecated", .nat stats.deprecated), ("members", .nat stats.members),
      ("types", .nat stats.types), ("units", .nat stats.units)]),
    ("root", .str w.root.text), ("sourceRoots", .strings (w.sourceRoots.map w.relative))]

def fails (denyWarnings : Bool) (r : Report) : Bool :=
  r.hasErrors || r.hasFailures || (denyWarnings && decide (0 < r.summary.total))

end DeprecatedUse.Check
