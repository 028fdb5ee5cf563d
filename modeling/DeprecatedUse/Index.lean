import DeprecatedUse.Resolver
import DeprecatedUse.Search
import DeprecatedUse.Java.SourceUnit

/-!
This module contains the index of the types that are declared in a set of source units, with their
supertypes and the deprecation of their members. The index answers queries.
-/

namespace DeprecatedUse

open DeprecatedUse.Java (Deprecation MemberDecl TypeDecl SourceUnit)

namespace Index

/--
The members of a type that uses can refer to: for each name and kind the deprecation of each
overload, in the order of their declarations.
-/
abbrev Members := Table (String × MemberKind) (List (Option Deprecation))

def Members.add (ms : Members) (m : MemberDecl) : Members :=
  if m.kind = .constructor then
    ms
  else
    let key := (m.name, m.kind.use)
    ms.insert key ((ms.find? key).getD [] ++ [m.deprecation])

structure Entry where
  unit : UnitId
  supertypes : List TypeRef
  members : Members

def Entry.of (unit : UnitId) (decl : TypeDecl) : Entry where
  unit := unit
  supertypes := decl.supertypes
  members := decl.members.foldl Members.add ∅

structure Stats where
  units : Nat := 0
  types : Nat := 0
  members : Nat := 0
  deprecated : Nat := 0
deriving DecidableEq, Repr, Inhabited

end Index

/--
The types of a set of units by their full names, and the names that each unit declares.
-/
structure Index where
  types : Table String Index.Entry := ∅
  units : Table UnitId (List String) := ∅
deriving Inhabited

namespace Index

def dropType (unit : UnitId) (types : Table String Entry) (name : String) : Table String Entry :=
  match types.find? name with
  | none => types
  | some e => if e.unit = unit then types.erase name else types

def remove (index : Index) (unit : UnitId) : Index where
  types := ((index.units.find? unit).getD []).foldl (dropType unit) index.types
  units := index.units.erase unit

/--
Add the declarations of a unit, in place of those that it had before. Of two declarations of one
name the later one counts.
-/
def add (index : Index) (u : SourceUnit) : Index :=
  let index := index.remove u.id
  { types := u.declarations.types.foldl
      (fun types decl => types.insert decl.qualifiedName (Entry.of u.id decl)) index.types
    units := index.units.insert u.id (u.declarations.types.map TypeDecl.qualifiedName) }

def ofUnits (units : List SourceUnit) : Index :=
  units.foldl add {}

def containsType (index : Index) (name : String) : Bool :=
  index.types.contains name

def overloads (index : Index) : List (List (Option Deprecation)) :=
  index.types.values.flatMap fun e => e.members.values

def stats (index : Index) : Stats where
  units := index.units.size
  types := index.types.size
  members := index.overloads.flatten.length
  deprecated := index.overloads.flatten.countP Option.isSome

def symbolOf (qualifiedName : String) (kind : MemberKind) : Option Deprecation → Symbol
  | none => { qualifiedName := qualifiedName, kind := kind }
  | some d =>
    { qualifiedName := qualifiedName, kind := kind, deprecated := true,
      replacement := d.replacement, forRemoval := d.forRemoval }

def kindRank : MemberKind → Nat
  | .method => 0
  | .field => 1

def symbolLe (a b : Symbol) : Bool :=
  decide (a.qualifiedName < b.qualifiedName)
    || (a.qualifiedName == b.qualifiedName && decide (kindRank a.kind ≤ kindRank b.kind))

/--
The symbols of all members, in order. A member is listed as deprecated when one of its overloads is.
-/
def symbols (index : Index) : List Symbol :=
  (index.types.entries.flatMap fun (name, e) =>
    e.members.entries.map fun ((member, kind), overloads) =>
      symbolOf (name ++ "." ++ member) kind (overloads.findSome? id)).mergeSort symbolLe

/--
The full name of the type that a reference stands for. The first package of a reference is the
unit's own and hides all others.
-/
def lookupType (index : Index) (ref : TypeRef) : Except ResolutionFailure String :=
  match ref with
  | .qualified name =>
    if index.containsType name then .ok name else .error (.unknownType name)
  | .simple name packages =>
    match (packages.head?.map (qualify · name)).filter index.containsType with
    | some own => .ok own
    | none =>
      match ref.candidates.filter index.containsType with
      | [] => .error (.unknownType name)
      | [single] => .ok single
      | found => .error (.ambiguousType name found)

def supertypes (index : Index) (name : String) : List String :=
  match index.types.find? name with
  | none => []
  | some e => e.supertypes.filterMap fun ref => (index.lookupType ref).toOption

def resolveOverloads (qualifiedName : String) (kind : MemberKind)
    (overloads : List (Option Deprecation)) : Resolution :=
  if overloads.all Option.isNone then
    .ok (symbolOf qualifiedName kind none)
  else if overloads.all Option.isSome then
    .ok (symbolOf qualifiedName kind (overloads.findSome? id))
  else
    .error (.ambiguousOverload qualifiedName)

def ownMember? (index : Index) (member : String) (kind : MemberKind) (type : String) :
    Option Resolution := do
  let e ← index.types.find? type
  let overloads ← e.members.find? (member, kind)
  return resolveOverloads (type ++ "." ++ member) kind overloads

def resolve (index : Index) : Resolver := fun q =>
  match index.lookupType q.receiver with
  | .error failure => .error failure
  | .ok owner =>
    match breadthFirst index.supertypes (index.ownMember? q.member q.kind) index.types.keys
        [owner] with
    | some answer => answer
    | none => .error (.unknownMember owner q.member)

end Index

end DeprecatedUse
