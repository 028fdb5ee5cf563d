import DeprecatedUse.Java.Declaration
import DeprecatedUse.Text.Case

/-!
This module contains the type names that are known inside a unit, and the types that they stand for.
-/

namespace DeprecatedUse.Java

def implicitPackage : String := "java.lang"

def startsWith (p : Char → Bool) (name : String) : Bool :=
  match name.toList with
  | [] => false
  | c :: _ => p c

/--
The type names of a unit. In both tables an earlier entry hides a later one with the same name.
-/
structure TypeNames where
  package : String := ""
  imported : List (String × String) := []
  wildcards : List String := []
  /-- Types declared in the unit, by simple name and by name relative to the package. -/
  declared : List (String × String) := []
deriving Repr, Inhabited

namespace TypeNames

def addImport (names : TypeNames) (i : Import) : TypeNames :=
  if i.isStatic then
    names
  else if i.wildcard then
    { names with wildcards := names.wildcards ++ [i.path] }
  else
    { names with imported := (lastSegment i.path, i.path) :: names.imported }

def relativeName? (package qualifiedName : String) : Option String :=
  ((if package = "" then package else package ++ ".").toList.isPrefixOf? qualifiedName.toList).map
    String.ofList

/--
Add a declared type. Of two types with one simple name the first keeps the simple name, but the name
relative to the package always goes to its type.
-/
def addType (names : TypeNames) (simple qualifiedName : String) : TypeNames :=
  let declared :=
    if (names.declared.lookup simple).isSome then names.declared
    else (simple, qualifiedName) :: names.declared
  match relativeName? names.package qualifiedName with
  | none => { names with declared := declared }
  | some relative => { names with declared := (relative, qualifiedName) :: declared }

/--
The type names of a unit with this package, these imports and these types, each given by its simple
and its full name.
-/
def of (package : Option String) (imports : List Import) (types : List (String × String)) :
    TypeNames :=
  types.foldl (fun names (simple, qualifiedName) => names.addType simple qualifiedName)
    (imports.foldl addImport { package := package.getD "" })

def packages (names : TypeNames) : List String :=
  names.package :: names.wildcards
    ++ if names.package = implicitPackage then [] else [implicitPackage]

/--
The type that a name, perhaps with dots, stands for. Behind a head that starts in lower case the
name is taken to be full, because packages are written so.
-/
def resolve (names : TypeNames) (name : String) : TypeRef :=
  match names.declared.lookup name with
  | some qualifiedName => .qualified qualifiedName
  | none =>
    let known := fun head => (names.imported.lookup head).or (names.declared.lookup head)
    match Text.splitFirst? '.' name.toList with
    | none =>
      match known name with
      | some qualifiedName => .qualified qualifiedName
      | none => .simple name names.packages
    | some (head, rest) =>
      match known (String.ofList head) with
      | some qualifiedName => .qualified (qualifiedName ++ "." ++ String.ofList rest)
      | none =>
        if startsWith Text.isLowercase (String.ofList head) then .qualified name
        else .simple name names.packages

/--
Does a name stand for a type rather than for a variable? Names that nothing is known about are
judged by their first character.
-/
def isTypeName (names : TypeNames) (name : String) : Bool :=
  (names.imported.lookup name).isSome || (names.declared.lookup name).isSome
    || startsWith Text.isUppercase name

def reference? (names : TypeNames) (type : TypeName) : Option TypeRef :=
  if type.isReference then some (names.resolve type.name) else none

end TypeNames

end DeprecatedUse.Java
