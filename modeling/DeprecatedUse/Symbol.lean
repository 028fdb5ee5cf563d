import DeprecatedUse.Text.Lines

/-!
This module contains what declarations and their uses share: references to types, kinds of members,
and what is known about a member.
-/

namespace DeprecatedUse

abbrev UnitId := String

def lastSegment (name : String) : String :=
  String.ofList (Text.afterLast '.' name.toList)

def qualify (package name : String) : String :=
  if package = "" then name else package ++ "." ++ name

/--
A type as the text of a unit determines it: by its full name, or by a name to look for in packages,
the unit's own package first.
-/
inductive TypeRef where
  | qualified (name : String)
  | simple (name : String) (packages : List String)
deriving DecidableEq, Repr, Inhabited

namespace TypeRef

def name : TypeRef → String
  | .qualified name => name
  | .simple name _ => name

def simpleName (ref : TypeRef) : String :=
  lastSegment ref.name

def candidates : TypeRef → List String
  | .qualified name => [name]
  | .simple name packages => packages.map (qualify · name)

end TypeRef

inductive MemberKind where
  | method
  | field
deriving DecidableEq, Repr, Inhabited

def MemberKind.word : MemberKind → String
  | .method => "method"
  | .field => "field"

structure Symbol where
  /-- The full name of the type, a dot, and the member's name. -/
  qualifiedName : String
  kind : MemberKind
  deprecated : Bool := false
  replacement : Option String := none
  forRemoval : Bool := false
deriving DecidableEq, Repr, Inhabited

def Symbol.memberName (s : Symbol) : String :=
  lastSegment s.qualifiedName

end DeprecatedUse
