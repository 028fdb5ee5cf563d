import DeprecatedUse.Toml.Basic

/-!
This module contains the tables of a document while it is read. A table knows how it came about,
because that decides what may still be added to it: a table is defined once, by a header, by keys
with dots, or as a value.
-/

namespace DeprecatedUse.Toml

inductive Node where
  | leaf (value : Value)
  /--
  A table. It is `implicit` as long as only paths through it have been written, and `dotted` if
  those paths were keys with dots.
  -/
  | table (implicit dotted : Bool) (fields : List (String × Node))
  | tables (items : List (List (String × Node)))
deriving Inhabited

structure Tree where
  implicit : Bool := false
  dotted : Bool := false
  fields : List (String × Node) := []
deriving Inhabited

namespace Tree

def node (t : Tree) : Node :=
  .table t.implicit t.dotted t.fields

def set (t : Tree) (key : String) (node : Node) : Tree :=
  if t.fields.any (·.1 == key) then
    { t with fields := t.fields.map fun (k, n) => if k == key then (k, node) else (k, n) }
  else
    { t with fields := t.fields ++ [(key, node)] }

/--
Change the table that a path leads to, and make the tables on the way that are missing. Keys with
dots do not lead into a table that is defined already.
-/
def along? (dotted : Bool) (change? : Tree → Option Tree) : List String → Tree → Option Tree
  | [], t => change? t
  | key :: path, t =>
    match t.fields.lookup key with
    | none => (along? dotted change? path ⟨true, dotted, []⟩).map fun child => t.set key child.node
    | some (.leaf _) => none
    | some (.table implicit d fields) =>
      if dotted && !implicit then
        none
      else
        (along? dotted change? path ⟨implicit, d, fields⟩).map fun child => t.set key child.node
    | some (.tables items) =>
      (along? dotted change? path ⟨false, false, items.getLastD []⟩).map fun child =>
        t.set key (.tables (items.dropLast ++ [child.fields]))

/--
Add a value at a key whose last part is `key`. The key must be new, and a table that was not made by
keys with dots takes none.
-/
def insert? (path : List String) (key : String) (value : Value) (t : Tree) : Option Tree :=
  along? true (fun t =>
    if t.dotted == path.isEmpty || (t.fields.lookup key).isSome then none
    else some (t.set key (.leaf value))) path t

/--
Open the table of a header. The table may be there already as long as only headers lead through it.
-/
def openTable? (path : List String) (key : String) (t : Tree) : Option Tree :=
  along? false (fun t =>
    match t.fields.lookup key with
    | none => some (t.set key (.table false false []))
    | some (.table true false fields) => some (t.set key (.table false false fields))
    | some _ => none) path t

def openItem? (path : List String) (key : String) (t : Tree) : Option Tree :=
  along? false (fun t =>
    match t.fields.lookup key with
    | none => some (t.set key (.tables [[]]))
    | some (.tables items) => some (t.set key (.tables (items ++ [[]])))
    | some _ => none) path t

mutual

def valueOf : Node → Value
  | .leaf v => v
  | .table _ _ fields => .table (fieldsOf fields)
  | .tables items => .array (itemsOf items)

def fieldsOf : List (String × Node) → List (String × Value)
  | [] => []
  | (key, node) :: rest => (key, valueOf node) :: fieldsOf rest

def itemsOf : List (List (String × Node)) → List Value
  | [] => []
  | fields :: rest => .table (fieldsOf fields) :: itemsOf rest

end

def value (t : Tree) : Value :=
  .table (fieldsOf t.fields)

end Tree

end DeprecatedUse.Toml
