import DeprecatedUse.Position
import DeprecatedUse.Symbol
import DeprecatedUse.Java.Deprecation

/-!
This module contains the declarations of a Java text: imports, types and their members.
-/

namespace DeprecatedUse.Java

/--
An import. The path is written without the star of an import on demand.
-/
structure Import where
  path : String
  wildcard : Bool := false
  isStatic : Bool := false
deriving DecidableEq, Repr, Inhabited

/--
A type as a declaration writes it: a name, perhaps with dots, without type arguments, and the number
of array dimensions.
-/
structure TypeName where
  name : String
  dims : Nat := 0
deriving DecidableEq, Repr, Inhabited

def primitiveWords : List String :=
  ["boolean", "byte", "char", "short", "int", "long", "float", "double", "void", "var"]

def TypeName.isReference (type : TypeName) : Bool :=
  type.dims == 0 && !primitiveWords.contains type.name

inductive MemberDecl.Kind where
  | method
  | constructor
  | field
  | enumConstant
deriving DecidableEq, Repr, Inhabited

def MemberDecl.Kind.use : MemberDecl.Kind → MemberKind
  | .method | .constructor => .method
  | .field | .enumConstant => .field

/--
The declaration of a member. Only fields have a type here, and only if it is written in a form that
can be used.
-/
structure MemberDecl where
  name : String
  kind : MemberDecl.Kind
  type : Option TypeName := none
  deprecation : Option Deprecation := none
  span : Span
deriving DecidableEq, Repr, Inhabited

inductive TypeDecl.Kind where
  | classType
  | interfaceType
  | enumType
  | recordType
  | annotationType
deriving DecidableEq, Repr, Inhabited

structure TypeDecl where
  name : String
  qualifiedName : String
  kind : TypeDecl.Kind
  /-- The place of the enclosing type among the types of the text. -/
  outer : Option Nat := none
  supertypes : List TypeRef := []
  deprecation : Option Deprecation := none
  members : List MemberDecl := []
  span : Span
deriving DecidableEq, Repr, Inhabited

def TypeDecl.member? (type : TypeDecl) (name : String) (kind : MemberKind) : Option MemberDecl :=
  type.members.find? fun m => m.name == name && m.kind.use == kind

structure Declarations where
  package : Option String := none
  imports : List Import := []
  types : List TypeDecl := []
deriving DecidableEq, Repr, Inhabited

end DeprecatedUse.Java
