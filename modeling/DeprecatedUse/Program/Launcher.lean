import DeprecatedUse.Program.Shell.Run

/-!
This module contains the programs that a command can name: the shell and the small programs. No
other file is a program.
-/

namespace DeprecatedUse.Program

def environment (here : Place) : List (String × String) :=
  [("HOME", "/root"), ("PATH", searchPath), ("PWD", textOf (Path.ofNames here.folder).bytes)]

def systemTree : FileTree :=
  let folders := ["etc", "home", "lib", "opt", "proc", "root", "sbin", "srv", "sys", "tmp", "var"]
  let tree := folders.foldl (fun t name => t.makeFolder [name]) {}
  let devices : List (String × Device) :=
    [("null", .null), ("full", .full), ("stdin", .input), ("stdout", .output), ("stderr", .errors)]
  let tree := devices.foldl (fun t d => t.putNode ["dev", d.1] (.device d.2)) tree
  let programs := ["cat", "echo", "false", "sh", "true"]
  let places : List (List Name) := [["bin"], ["usr", "bin"]]
  places.foldl (fun t folder => programs.foldl (fun t name =>
    t.putNode (folder ++ [Text.Utf8.encode name]) (.program name)) t) tree

def stepLimit : Nat :=
  100000

def Shell.State.start (here : Place) : Shell.State where
  here := here
  opened := #[.nowhere, .pipe [], .pipe []]
  descriptors := [(0, 0), (1, 1), (2, 2)]
  bindings :=
    let exported := (environment here).foldl (fun t e =>
      Table.insert t e.1 { value := some e.2, exported := true }) ∅
    Shell.ownVariables.foldl (fun t e => t.insert e.1 { value := some e.2 }) exported

def Shell.State.collected (s : Shell.State) (place : Nat) : List UInt8 :=
  match s.opened[place]? with
  | some (.pipe bytes) => bytes
  | _ => []

def shell (here : Place) (arguments : List String) : Result × FileTree :=
  let (r, s) := (Shell.runShell stepLimit arguments).run (Shell.State.start here)
  let status := match r with
    | .error (.killed n) => .signal n
    | _ => .exit (s.status % 256)
  (⟨status, s.collected 1, s.collected 2⟩, s.here.tree)

def standard : Launcher := fun here program arguments =>
  let program := textOf (Text.Utf8.encode program)
  let arguments := arguments.map fun word => textOf (Text.Utf8.encode word)
  match search here (searchFolders searchPath) program with
  | .program _ "sh" => .ok (shell here arguments)
  | .program _ name =>
    match runSmall? here {} arguments name with
    | some course => .ok (course.result, here.tree)
    | none => .error .notAllowed
  | .other => .error .notAllowed
  | .nothing => do
    let _ ← if program.toList.contains '/' then here.find (pathOf program) else throw .notFound
    throw .notFound

end DeprecatedUse.Program
