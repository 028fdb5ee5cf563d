import DeprecatedUse.Java.Bracket
import DeprecatedUse.Java.Declaration

/-!
This module contains the reading of types as declarations write them, and of parameter lists.
-/

namespace DeprecatedUse.Java

def endsInDot (name : String) : Bool :=
  name.toList.getLast? == some '.'

namespace TypeName

/--
Read a type on from `name` and `dims`. `angle` type argument lists are open, and `afterAt` says that
the last token was the sign of an annotation.
-/
def readFrom (angle : Nat) (afterAt : Bool) (name : String) (dims : Nat) :
    List Token → Option TypeName
  | [] => if name = "" || endsInDot name then none else some ⟨name, dims⟩
  | t :: rest =>
    if 0 < angle then
      if t.isPunct "<" then readFrom (angle + 1) false name dims rest
      else if t.isPunct ">" then readFrom (angle - 1) false name dims rest
      else readFrom angle false name dims rest
    else if t.isIdent then
      if afterAt || modifierWords.contains t.text then readFrom 0 false name dims rest
      else if name ≠ "" && !endsInDot name then none
      else readFrom 0 false (name ++ t.text) dims rest
    else if t.isPunct "<" then readFrom 1 false name dims rest
    else if t.isPunct "@" then readFrom 0 true name dims rest
    else if t.isPunct "." then readFrom 0 false (name ++ ".") dims rest
    else if t.isPunctOf ["[", "..."] then readFrom 0 false name (dims + 1) rest
    else if t.isPunct "]" then readFrom 0 false name dims rest
    else none

def read? (tokens : List Token) : Option TypeName :=
  readFrom 0 false "" 0 tokens

end TypeName

abbrev Parameter := String × TypeName

namespace Parameter

def nesting (t : Token) : Int :=
  if t.isPunctOf ["<", "("] then 1 else if t.isPunctOf [">", ")"] then -1 else 0

def cut (depth : Int) : List Token → List (List Token)
  | [] => [[]]
  | t :: rest =>
    let depth := depth + nesting t
    if t.isPunct "," && depth == 0 then
      [] :: cut depth rest
    else
      match cut depth rest with
      | [] => [[t]]
      | part :: parts => (t :: part) :: parts

def dropDotted : List Token → List Token
  | dot :: name :: rest => if dot.isPunct "." then dropDotted rest else dot :: name :: rest
  | tokens => tokens

theorem dropDotted_suffix (tokens : List Token) : dropDotted tokens <:+ tokens := by
  fun_induction dropDotted tokens with
  | case1 dot name rest _ ih =>
    exact (ih.trans (List.suffix_cons name rest)).trans (List.suffix_cons dot _)
  | case2 => exact List.suffix_refl _
  | case3 => exact List.suffix_refl _

def dropAnnotations : List Token → List Token
  | [] => []
  | t :: rest =>
    if t.isPunct "@" then dropAnnotations (Bracket.round.group? (dropDotted rest.tail)).2
    else t :: rest
termination_by tokens => tokens.length
decreasing_by
  have h₁ := (Bracket.group?_suffix Bracket.round (dropDotted rest.tail)).length_le
  have h₂ := (dropDotted_suffix rest.tail).length_le
  simp only [List.length_tail] at h₂
  simp only [List.length_cons]
  omega

def read? (tokens : List Token) : Option Parameter :=
  let tokens := dropAnnotations tokens
  match tokens.getLast? with
  | none => none
  | some name =>
    if name.isIdent && name.text != "this" then
      (TypeName.read? tokens.dropLast).map (name.text, ·)
    else
      none

def readAll (tokens : List Token) : List Parameter :=
  (cut 0 tokens).filterMap read?

end Parameter

end DeprecatedUse.Java
