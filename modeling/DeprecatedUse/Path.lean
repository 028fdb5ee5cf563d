import DeprecatedUse.Text.Lines
import DeprecatedUse.Text.Utf8

/-!
This module contains paths of files. A path is kept as the bytes it was written as, which need not
be text; it is compared, ordered and cut by its components, so `a//b/.` and `a/b` are one path
written in two ways.
-/

namespace DeprecatedUse

/--
What files and folders are known by: bytes. Those of a text are its UTF-8, but not all bytes are
text.
-/
abbrev Name := List UInt8

instance : Coe String Name := ⟨Text.Utf8.encode⟩

instance : Coe (List String) (List Name) := ⟨List.map Text.Utf8.encode⟩

structure Path where
  bytes : Name
deriving DecidableEq, Repr, Inhabited

namespace Path

abbrev slash : UInt8 := 47

abbrev dot : UInt8 := 46

def ofText (text : String) : Path :=
  ⟨text⟩

/--
The path as it is shown. Where its bytes are no text a replacement character is shown, so two paths
may be shown alike.
-/
def text (p : Path) : String :=
  Text.Utf8.decodeLossy p.bytes

inductive Component where
  | root
  | here
  | parent
  | name (bytes : Name)
deriving DecidableEq, Repr, Inhabited

namespace Component

def bytes : Component → Name
  | .root => [slash]
  | .here => [dot]
  | .parent => [dot, dot]
  | .name bytes => bytes

def text (c : Component) : String :=
  Text.Utf8.decodeLossy c.bytes

def rank : Component → Nat
  | .root => 0
  | .here => 1
  | .parent => 2
  | .name _ => 3

def before (a b : Component) : Bool :=
  decide (a.rank < b.rank) || (a.rank == b.rank && decide (a.bytes < b.bytes))

end Component

/--
The start of a path that its slashes do not divide off, and the parts that its slashes do: the root
slash of an absolute path, or the dot that a relative path begins with.
-/
def dissect (p : Path) : Option Component × List Name :=
  if [slash] <+: p.bytes then
    (some .root, Text.splitOn slash p.bytes.tail)
  else if p.bytes = [dot] then
    (some .here, [[]])
  else if [dot, slash] <+: p.bytes then
    (some .here, Text.splitOn slash p.bytes.tail)
  else
    (none, Text.splitOn slash p.bytes)

def isIdle (part : Name) : Bool :=
  part == [] || part == [dot]

def componentOf (part : Name) : Component :=
  if part = [dot, dot] then .parent else .name part

def components (p : Path) : List Component :=
  let (start, parts) := p.dissect
  start.toList ++ (parts.filter (!isIdle ·)).map componentOf

def isAbsolute (p : Path) : Bool :=
  p.bytes.head? == some slash

def same (p q : Path) : Bool :=
  p.components == q.components

def componentsLe : List Component → List Component → Bool
  | [], _ => true
  | _ :: _, [] => false
  | a :: as, b :: bs => a.before b || (a == b && componentsLe as bs)

def le (p q : Path) : Bool :=
  componentsLe p.components q.components

def join (p q : Path) : Path :=
  if q.isAbsolute || p.bytes = [] then
    q
  else if p.bytes.getLast? = some slash then
    ⟨p.bytes ++ q.bytes⟩
  else
    ⟨p.bytes ++ slash :: q.bytes⟩

def dropIdle (parts : List Name) : List Name :=
  (parts.reverse.dropWhile isIdle).reverse

def parent? (p : Path) : Option Path :=
  let (start, parts) := p.dissect
  match dropIdle parts with
  | [] => if start = some .here then some ⟨[]⟩ else none
  | parts =>
    some ⟨(start.map Component.bytes).getD [] ++ Text.join [slash] (dropIdle parts.dropLast)⟩

def fileName? (p : Path) : Option Name :=
  match p.components.getLast? with
  | some (.name bytes) => some bytes
  | _ => none

/--
The part of a file's name after its last dot. A name whose only dot stands first has none.
-/
def extension? (p : Path) : Option Name := do
  let name ← p.fileName?
  let after := Text.afterLast dot name
  if after.length + 1 < name.length then
    return after
  none

/--
A path as seen from the folder `base`, its components joined by slashes. A path that does not lead
through the folder stays whole.
-/
def relativeTo (base p : Path) : String :=
  let components := (base.components.isPrefixOf? p.components).getD p.components
  "/".intercalate (components.map Component.text)

def ofNames (names : List Name) : Path :=
  ⟨slash :: Text.join [slash] names⟩

end Path

end DeprecatedUse
