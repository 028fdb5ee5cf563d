import DeprecatedUse.Clock
import DeprecatedUse.CommandLine.Run
import DeprecatedUse.Program.Launcher
import Std.Time.DateTime.Timestamp

/-!
This module contains the program. It takes in the files that a command line can be about, runs the
command line on them, and writes the files that have changed.
-/

namespace DeprecatedUse.Main

open DeprecatedUse.CommandLine

/--
Whether colours are wanted. They can be asked for, they can be refused, and otherwise a terminal
gets them.
-/
def wantsColours (forced refused usual : Option String) (terminal : Bool) : Bool :=
  if forced.any (· != "0") then
    true
  else
    refused.isNone && usual != some "0" && terminal

def namesOf (path : String) : List Name :=
  ((path.splitOn "/").filter (· != "")).map Text.Utf8.encode

partial def takeIn (tree : FileTree) (names : List Name) : IO FileTree := do
  try
    let path ← IO.FS.realPath (Path.ofNames names).text
    match (← path.metadata).type with
    | .dir =>
      (← path.readDir).foldlM (fun tree entry => do
        let linked := (← entry.path.symlinkMetadata).type == .symlink
        if linked && (← entry.path.isDir) then
          return tree
        takeIn tree (names ++ [(entry.fileName : Name)])) (tree.makeFolder names)
    | .file => return tree.putFile names (← IO.FS.readBinFile path).toList
    | _ => return tree
  catch _ => return tree

def takeInPath (tree : FileTree) (path : Path) : IO FileTree := do
  try
    takeIn tree (namesOf (← IO.FS.realPath path.text).toString)
  catch _ => return tree

def folderOf (path : Path) : Path :=
  match path.parent? with
  | none => path
  | some folder => if folder.bytes = [] then ⟨"."⟩ else folder

def takeInFolder (tree : FileTree) (file : Path) : IO FileTree := do
  try
    return tree.makeFolder (namesOf (← IO.FS.realPath (folderOf file).text).toString)
  catch _ => return tree

def takeInAll (tree : FileTree) (request : Option Request) : IO FileTree := do
  let some (.run i) := request | return tree
  let tree ← i.root.toList.foldlM takeInPath tree
  let tree ← (i.config.toList.map folderOf).foldlM takeInPath tree
  match i.command with
  | .check output markdown _ files =>
    (output :: markdown.toList).foldlM takeInFolder (← files.foldlM takeInPath tree)
  | .symbols _ => return tree

def writeBack (before after : FileTree) : IO Unit :=
  after.nodes.entries.forM fun (names, node) => do
    match node with
    | .file content =>
      if before.node? names != some node then
        IO.FS.writeBinFile (Path.ofNames names).text ⟨content.toArray⟩
    | _ => pure ()

def coloured : IO Bool := do
  return wantsColours (← IO.getEnv "CLICOLOR_FORCE") (← IO.getEnv "NO_COLOR")
    (← IO.getEnv "CLICOLOR") (← (← IO.getStdout).isTty)

def now : IO Moment := do
  let t ← Std.Time.Timestamp.now
  let n := t.toNanosecondsSinceUnixEpoch.toInt.toNat
  return ⟨n / 1000000000, n % 1000000000⟩

def run (arguments : List String) : IO UInt32 := do
  let folder := namesOf (← IO.FS.realPath ".").toString
  let tree ← takeInAll (← takeIn Program.systemTree folder) (Request.parse? arguments)
  let host : Host := { tree := tree, folder := folder, launch := Program.standard }
  let o := CommandLine.run
    { host := host, coloured := ← coloured, timestamp := (← now).render } arguments
  (← IO.getStderr).putStr o.errors
  writeBack tree o.place.tree
  (← IO.getStdout).putStr o.output
  return o.status.toUInt32

end DeprecatedUse.Main

def main (arguments : List String) : IO UInt32 :=
  DeprecatedUse.Main.run arguments
