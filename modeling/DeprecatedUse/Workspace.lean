import DeprecatedUse.BuildInfo
import DeprecatedUse.Java.SourceUnit
import DeprecatedUse.Wire.Settings

/-!
This module contains workspaces: the root folder with its settings, and the Java files that are
found from there.
-/

namespace DeprecatedUse

open DeprecatedUse.Java (ParseError SourceUnit)

inductive SettingsError where
  | unreadable (cause : FileError)
  | malformed
deriving DecidableEq, Repr

def SettingsError.message : SettingsError → String
  | .unreadable cause => "IO error: " ++ cause.message
  | .malformed => "Parse error: "

structure Project where
  root : Path
  settings : Settings := {}
deriving DecidableEq, Repr, Inhabited

namespace Project

def fileName : Path := ⟨"deprecheck.toml"⟩

def ofFile (here : Place) (file : Path) : Except SettingsError Project :=
  match here.readText file with
  | .error e => .error (.unreadable e)
  | .ok text =>
    match Settings.ofToml? text with
    | none => .error .malformed
    | some settings =>
      .ok { root := file.parent?.getD (Path.ofNames here.folder), settings := settings }

def discover (here : Place) (root : Path) : Except SettingsError Project :=
  let file := root.join fileName
  if here.hasPath file then
    ofFile here file
  else
    .ok { root := root }

end Project

structure Workspace where
  root : Path
  sourceRoots : List Path
  classPaths : List String := []
  files : List Path
deriving DecidableEq, Repr, Inhabited

namespace Workspace

def buildInfo (host : Host) (project : Project) : Except WorkspaceError BuildInfo :=
  let settings := project.settings.sources
  match settings.buildInfoFile with
  | some file => BuildInfo.ofFile host (project.root.join (.ofText file))
  | none =>
    if settings.buildInfoCommand = [] then
      .ok {}
    else
      BuildInfo.ofCommand host project.root settings.buildInfoCommand

/--
The place after the build information of a project has been asked for. A command may change files.
-/
def placeAfter (host : Host) (project : Project) : Place :=
  let settings := project.settings.sources
  match settings.buildInfoFile, settings.buildInfoCommand with
  | none, program :: arguments =>
    { host.toPlace with tree := host.filesAfter project.root program arguments }
  | _, _ => host.toPlace

def distinct (paths : List Path) : List Path :=
  paths.foldl (fun kept p => if kept.any (·.same p) then kept else kept ++ [p]) []

def rootsOf (root : Path) (sourcePaths : List String) : List Path :=
  match distinct (sourcePaths.map fun p => root.join (.ofText p)) with
  | [] => [root]
  | roots => roots

def wants (project : Project) (file : Path) : Bool :=
  file.extension? == some "java"
    && !project.settings.sources.excludes (project.root.relativeTo file)

def dropRepeats : List Path → List Path
  | p :: q :: rest => if p.same q then dropRepeats (p :: rest) else p :: dropRepeats (q :: rest)
  | paths => paths
termination_by paths => paths.length

def filesBelow (here : Place) (project : Project) (roots : List Path) : List Path :=
  dropRepeats (((roots.flatMap here.filesBelow).filter (wants project)).mergeSort Path.le)

def discover (host : Host) (project : Project) : Except WorkspaceError Workspace := do
  let info ← buildInfo host project
  let sourceRoots := rootsOf project.root (project.settings.sources.sourcePaths ++ info.sourcePaths)
  return {
    root := project.root
    sourceRoots := sourceRoots
    classPaths := info.classPaths
    files := filesBelow (placeAfter host project) project sourceRoots }

def relative (w : Workspace) (p : Path) : String :=
  w.root.relativeTo p

def readUnit (here : Place) (file : Path) : Except ParseError SourceUnit :=
  match here.readText file with
  | .error e => .error (.unreadable file.text e.message)
  | .ok text => SourceUnit.parse file.text text

def loadUnits (here : Place) (w : Workspace) : List SourceUnit × List ParseError :=
  w.files.foldr (fun file (units, failures) =>
    match readUnit here file with
    | .ok u => (u :: units, failures)
    | .error e => (units, e :: failures)) ([], [])

end Workspace

end DeprecatedUse
