import DeprecatedUse.Java.Doc
import DeprecatedUse.Java.Replacement

/-!
This module contains the deprecation of a declaration. A declaration is deprecated when it carries
the annotation `Deprecated` or when its documentation comment has a deprecation tag.
-/

namespace DeprecatedUse.Java

open DeprecatedUse.Text

structure Annotation where
  name : String
  arguments : String := ""
deriving DecidableEq, Repr, Inhabited

def Annotation.isDeprecated (a : Annotation) : Bool :=
  a.name == "Deprecated" || a.name == "java.lang.Deprecated"

structure Deprecation where
  replacement : Option String := none
  forRemoval : Bool := false
  since : Option String := none
deriving DecidableEq, Repr, Inhabited

namespace Deprecation

def equals? (cs : List Char) : Option (List Char) :=
  match cs.dropWhile isBlank with
  | '=' :: rest => some (rest.dropWhile isBlank)
  | _ => none

def forRemoval? (cs : List Char) : Option Unit := do
  let rest ← equals? (← "forRemoval".toList.isPrefixOf? cs)
  let rest ← "true".toList.isPrefixOf? rest
  if Replacement.startsWithWord rest then none else some ()

def since? (cs : List Char) : Option (List Char) := do
  let rest ← equals? (← "since".toList.isPrefixOf? cs)
  match rest with
  | '"' :: rest =>
    if rest.contains '"' then some (rest.takeWhile (· != '"')) else none
  | _ => none

def of? (annotations : List Annotation) (doc : Option String) : Option Deprecation :=
  let marker := annotations.find? Annotation.isDeprecated
  let tag := doc.bind fun comment => Doc.deprecatedTag? comment.toList
  if marker.isNone && tag.isNone then
    none
  else
    let arguments := ((marker.map Annotation.arguments).getD "").toList
    some {
      replacement := (tag.bind Replacement.hint?).map String.ofList
      forRemoval := (Replacement.searchWord? forRemoval? false arguments).isSome
      since := (Replacement.searchWord? since? false arguments).map String.ofList }

end Deprecation

end DeprecatedUse.Java
