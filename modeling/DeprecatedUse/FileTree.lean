import DeprecatedUse.Path
import DeprecatedUse.Table
import DeprecatedUse.Text.Utf8

/-!
This module contains trees of files and folders as they are at one moment, and what is found at a
path in them. The root of a tree is always a folder.
-/

namespace DeprecatedUse

inductive FileError where
  | notFound
  | notAllowed
  | notFolder
  | isFolder
  | nameTooLong
  | badPath
  | notText
  | noSpace
  | exists
  | closed
  | badWord
deriving DecidableEq, Repr, Inhabited

namespace FileError

def reason : FileError → String
  | .notFound => "No such file or directory"
  | .notAllowed => "Permission denied"
  | .notFolder => "Not a directory"
  | .isFolder => "Is a directory"
  | .nameTooLong => "File name too long"
  | .badPath => "file name contained an unexpected NUL byte"
  | .notText => "stream did not contain valid UTF-8"
  | .noSpace => "No space left on device"
  | .exists => "File exists"
  | .closed => "Bad file descriptor"
  | .badWord => "nul byte found in provided data"

def number? : FileError → Option Nat
  | .notFound => some 2
  | .notAllowed => some 13
  | .notFolder => some 20
  | .isFolder => some 21
  | .nameTooLong => some 36
  | .noSpace => some 28
  | .exists => some 17
  | .closed => some 9
  | .badPath => none
  | .notText => none
  | .badWord => none

def message (e : FileError) : String :=
  match e.number? with
  | none => e.reason
  | some n => e.reason ++ " (os error " ++ toString n ++ ")"

end FileError

inductive Device where
  | null
  | full
  | input
  | output
  | errors
deriving DecidableEq, Repr, Inhabited

inductive FileTree.Node where
  | file (content : List UInt8)
  | folder
  | device (kind : Device)
  | program (name : String)
deriving DecidableEq, Repr, Inhabited

/--
A tree of files. Places are known by the names that lead to them from the root.
-/
structure FileTree where
  nodes : Table (List Name) FileTree.Node := ∅
deriving Inhabited

namespace FileTree

def node? (t : FileTree) (names : List Name) : Option Node :=
  if names = [] then some .folder else t.nodes.find? names

def makeFolder (t : FileTree) (names : List Name) : FileTree :=
  (List.range (names.length + 1)).foldl
    (fun t n =>
      let folder := names.take n
      if (t.node? folder).isSome then t else ⟨t.nodes.insert folder .folder⟩) t

def putFile (t : FileTree) (names : List Name) (content : List UInt8) : FileTree :=
  ⟨(t.makeFolder names.dropLast).nodes.insert names (.file content)⟩

def putNode (t : FileTree) (names : List Name) (node : Node) : FileTree :=
  ⟨(t.makeFolder names.dropLast).nodes.insert names node⟩

def admitsFolder (t : FileTree) (names : List Name) : Bool :=
  (List.range (names.length + 1)).all fun n =>
    match t.node? (names.take n) with
    | none | some .folder => true
    | _ => false

def admitsFile (t : FileTree) (names : List Name) : Bool :=
  t.node? names != some .folder && t.admitsFolder names.dropLast

def remove (t : FileTree) (names : List Name) : FileTree :=
  (t.nodes.keys.filter names.isPrefixOf).foldl (fun t place => ⟨t.nodes.erase place⟩) t

def filesBelow (t : FileTree) (names : List Name) : List (List Name) :=
  t.nodes.entries.filterMap fun (place, node) =>
    match node with
    | .file _ => names.isPrefixOf? place
    | _ => none

end FileTree

structure Place where
  tree : FileTree
  folder : List Name
deriving Inhabited

namespace Place

def step (t : FileTree) (names : List Name) (part : Name) : Except FileError (List Name) :=
  match t.node? names with
  | none => .error .notFound
  | some (.file _) | some (.device _) | some (.program _) => .error .notFolder
  | some .folder =>
    if Path.isIdle part then
      .ok names
    else if part = [Path.dot, Path.dot] then
      .ok names.dropLast
    else if 255 < part.length then
      .error .nameTooLong
    else
      .ok (names ++ [part])

/--
The names that a path leads to. Nothing has to stand there yet, but the path leads through folders
only.
-/
def locate (here : Place) (p : Path) : Except FileError (List Name) :=
  if p.bytes = [] then
    .error .notFound
  else if p.bytes.contains 0 then
    .error .badPath
  else
    (Text.splitOn Path.slash p.bytes).foldlM (step here.tree)
      (if p.isAbsolute then [] else here.folder)

def find (here : Place) (p : Path) : Except FileError (List Name × FileTree.Node) := do
  let names ← here.locate p
  match here.tree.node? names with
  | none => throw .notFound
  | some node => return (names, node)

def hasPath (here : Place) (p : Path) : Bool :=
  (here.find p).toBool

def device? (here : Place) (p : Path) : Option Device :=
  match here.find p with
  | .ok (_, .device kind) => some kind
  | _ => none

def readBytes (here : Place) (p : Path) : Except FileError (List UInt8) := do
  match ← here.find p with
  | (_, .file content) => return content
  | (_, .device _) => return []
  | (_, .program _) => return [127, 69, 76, 70, 255]
  | (_, .folder) => throw .isFolder

def readText (here : Place) (p : Path) : Except FileError String := do
  match Text.Utf8.decode? (← here.readBytes p) with
  | some text => return text
  | none => throw .notText

def writeText (here : Place) (p : Path) (text : String) : Except FileError Place := do
  let file : Path := ⟨Text.dropTrailing [Path.slash] p.bytes⟩
  let names ← here.locate (if file.bytes = [] then p else file)
  match here.tree.node? names.dropLast, here.tree.node? names with
  | some .folder, some .folder => throw .isFolder
  | some .folder, some (.device .full) => if text = "" then return here else throw .noSpace
  | some .folder, some (.device _) => return here
  | some .folder, _ =>
    if p.bytes.getLast? = some Path.slash then
      throw .isFolder
    return { here with tree := here.tree.putFile names (Text.Utf8.encode text) }
  | some _, _ => throw .notFolder
  | none, _ => throw .notFound

def absolute (here : Place) (p : Path) : Except FileError Path := do
  return Path.ofNames (← here.find p).1

def enter (here : Place) (p : Path) : Except FileError Place := do
  match ← here.find p with
  | (names, .folder) => return { here with folder := names }
  | _ => throw .notFolder

def filesBelow (here : Place) (p : Path) : List Path :=
  match here.find p with
  | .error _ => []
  | .ok (names, _) =>
    (here.tree.filesBelow names).map fun behind =>
      behind.foldl (fun path name => path.join ⟨name⟩) p

end Place

end DeprecatedUse
