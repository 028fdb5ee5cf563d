import DeprecatedUse.Symbol
import DeprecatedUse.Json.Basic

/-!
This module contains the JSON forms of type references and symbols.
-/

namespace DeprecatedUse

namespace TypeRef

def toJson : TypeRef → Json
  | .qualified name => .obj [("kind", .str "qualified"), ("name", .str name)]
  | .simple name packages =>
    .obj [("kind", .str "simple"), ("name", .str name), ("packages", .strings packages)]

def ofKind? (kind : String) (body : Json) : Option TypeRef :=
  if kind = "qualified" then
    match body.record? ["name"] with
    | some [name] => return .qualified (← name.bind Json.str?)
    | _ => none
  else if kind = "simple" then
    match body.record? ["name", "packages"] with
    | some [name, packages] =>
      return .simple (← name.bind Json.str?) (← packages.bind (Json.list? Json.str?))
    | _ => none
  else
    none

/--
Read a reference. The kind is a field of an object or the first item of an array.
-/
def ofJson? (json : Json) : Option TypeRef :=
  match json with
  | .obj _ => (json.field? "kind").bind Json.str? |>.bind (ofKind? · json)
  | .arr (.str kind :: rest) => ofKind? kind (.arr rest)
  | _ => none

end TypeRef

namespace MemberKind

def toJson (kind : MemberKind) : Json :=
  .str kind.word

def ofWord? : String → Option MemberKind
  | "method" => some .method
  | "field" => some .field
  | _ => none

def ofJson? (json : Json) : Option MemberKind :=
  json.choice?.bind ofWord?

end MemberKind

namespace Symbol

def toJson (s : Symbol) : Json :=
  .obj ([("qualified_name", .str s.qualifiedName), ("kind", s.kind.toJson),
      ("deprecated", .bool s.deprecated)]
    ++ Json.optionalField "replacement" .str s.replacement
    ++ [("for_removal", .bool s.forRemoval)])

def ofJson? (json : Json) : Option Symbol :=
  match json.record? ["qualified_name", "kind", "deprecated", "replacement", "for_removal"] with
  | some [qualifiedName, kind, deprecated, replacement, forRemoval] => do
    return {
      qualifiedName := ← qualifiedName.bind Json.str?
      kind := ← kind.bind MemberKind.ofJson?
      deprecated := ← deprecated.bind Json.bool?
      replacement := ← Json.option? Json.str? (replacement.getD .null)
      forRemoval := ← Json.bool? (forRemoval.getD (.bool false)) }
  | _ => none

end Symbol

end DeprecatedUse
