import DeprecatedUse.Java.TypeNames
import DeprecatedUse.Java.WrittenType

/-!
This module contains the reading of declarations from tokens. The reader is tolerant: what it does
not understand it skips. It gives the declarations of a text and the bodies in which members may be
used.

The reader goes over the tokens once. It keeps the types whose bodies are open, the innermost first,
so that neither a type inside a type nor the constants of an enum need a recursion of their own, and
every step reads at least one token.
-/

namespace DeprecatedUse.Java

/--
Tokens in which members may be used: the body of a method or an initializer, with the parameters
that are bound in it, and the place of the type that it belongs to.
-/
structure Body where
  owner : Nat
  parameters : List Parameter := []
  tokens : List Token

structure Modifiers where
  doc : Option String := none
  annotations : List Annotation := []

def Modifiers.deprecation? (m : Modifiers) : Option Deprecation :=
  Deprecation.of? m.annotations m.doc

structure Outline.Entry where
  decl : TypeDecl
  supertypeNames : List String := []

structure Outline where
  package : Option String := none
  imports : List Import := []
  entries : List Outline.Entry := []
  bodies : List Body := []

namespace Outline

def addBody (o : Outline) (body : Body) : Outline :=
  { o with bodies := o.bodies ++ [body] }

def addMember (o : Outline) (owner : Nat) (member : MemberDecl) : Outline :=
  { o with entries := o.entries.modify owner fun e =>
      { e with decl := { e.decl with members := e.decl.members ++ [member] } } }

def qualifiedName (o : Outline) (outer : Option Nat) (name : String) : String :=
  match outer.bind (o.entries[·]?) with
  | some e => e.decl.qualifiedName ++ "." ++ name
  | none => qualify (o.package.getD "") name

def typeNames (o : Outline) : TypeNames :=
  TypeNames.of o.package o.imports
    (o.entries.map fun e => (e.decl.name, e.decl.qualifiedName))

def declarations (o : Outline) : Declarations where
  package := o.package
  imports := o.imports
  types := o.entries.map fun e =>
    { e.decl with supertypes := e.supertypeNames.map o.typeNames.resolve }

end Outline

namespace Reader

def starts (p : Token → Bool) : List Token → Bool
  | [] => false
  | t :: _ => p t

def dottedName (name : String) : List Token → String × List Token
  | [] => (name, [])
  | t :: rest =>
    if t.isIdent || (name != "" && t.isPunct "*") then
      match rest with
      | dot :: next :: more =>
        if dot.isPunct "." && (next.isIdent || next.isPunct "*") then
          dottedName (name ++ t.text ++ ".") (next :: more)
        else
          (name ++ t.text, dot :: next :: more)
      | rest => (name ++ t.text, rest)
    else
      (name, t :: rest)

theorem dottedName_suffix (name : String) (tokens : List Token) :
    (dottedName name tokens).2 <:+ tokens := by
  fun_induction dottedName name tokens with
  | case1 => exact List.suffix_refl _
  | case2 name t _ dot next more _ ih =>
    exact (ih.trans (List.suffix_cons dot _)).trans (List.suffix_cons t _)
  | case3 => exact List.suffix_cons _ _
  | case4 => exact List.suffix_cons _ _
  | case5 => exact List.suffix_refl _

def spaced (tokens : List Token) : String :=
  " ".intercalate (tokens.map Token.text)

def modifiers (m : Modifiers) : List Token → Modifiers × List Token
  | [] => (m, [])
  | t :: rest =>
    if t.kind == .doc then
      modifiers { m with doc := some t.text } rest
    else if t.isWordOf modifierWords then
      modifiers m rest
    else if t.isPunct "@" && starts (fun n => n.isIdent && n.text != "interface") rest then
      let name := dottedName "" rest
      let arguments := Bracket.round.group? name.2
      let found := ⟨name.1, (arguments.1.map spaced).getD ""⟩
      modifiers { m with annotations := m.annotations ++ [found] } arguments.2
    else
      (m, t :: rest)
termination_by tokens => tokens.length
decreasing_by
  all_goals simp only [List.length_cons]
  · omega
  · omega
  · have h₁ := (dottedName_suffix "" rest).length_le
    have h₂ := (Bracket.group?_suffix Bracket.round (dottedName "" rest).2).length_le
    omega

def dropAnnotations : List Token → List Token
  | [] => []
  | t :: rest =>
    if t.isPunct "@" && starts Token.isIdent rest then
      dropAnnotations (Bracket.round.group? (dottedName "" rest).2).2
    else
      t :: rest
termination_by tokens => tokens.length
decreasing_by
  have h₁ := (dottedName_suffix "" rest).length_le
  have h₂ := (Bracket.group?_suffix Bracket.round (dottedName "" rest).2).length_le
  simp only [List.length_cons]
  omega

theorem modifiers_suffix (m : Modifiers) (tokens : List Token) :
    (modifiers m tokens).2 <:+ tokens := by
  fun_induction modifiers m tokens with
  | case1 => exact List.suffix_refl _
  | case2 _ t rest _ ih => exact ih.trans (List.suffix_cons t rest)
  | case3 _ t rest _ _ ih => exact ih.trans (List.suffix_cons t rest)
  | case4 _ t rest _ _ _ _ _ _ ih =>
    exact ((ih.trans (Bracket.group?_suffix _ _)).trans (dottedName_suffix _ _)).trans
      (List.suffix_cons t rest)
  | case5 => exact List.suffix_refl _

theorem dropAnnotations_suffix (tokens : List Token) : dropAnnotations tokens <:+ tokens := by
  fun_induction dropAnnotations tokens with
  | case1 => exact List.suffix_refl _
  | case2 t rest _ ih =>
    exact ((ih.trans (Bracket.group?_suffix _ _)).trans (dottedName_suffix _ _)).trans
      (List.suffix_cons t rest)
  | case3 => exact List.suffix_refl _

/--
The names of a list of supertypes behind `names`. The list also ends where the next clause begins.
-/
def supertypeNames (names : List String) (tokens : List Token) : List String × List Token :=
  let tokens' := dropAnnotations tokens
  if starts (·.isWordOf ["extends", "implements"]) tokens' then
    (names, tokens')
  else
    let name := dottedName "" tokens'
    let names := if name.1 = "" then names else names ++ [name.1]
    match h : (Bracket.angle.group? name.2).2 with
    | [] => (names, [])
    | t :: rest =>
      have : rest.length < tokens.length := by
        have h₁ := (dropAnnotations_suffix tokens).length_le
        have h₂ := (dottedName_suffix "" tokens').length_le
        have h₃ := (Bracket.group?_suffix Bracket.angle name.2).length_le
        rw [h] at h₃
        simp only [List.length_cons, name, tokens'] at h₃ h₂
        omega
      if t.isPunct "," then supertypeNames names rest else (names, t :: rest)
termination_by tokens.length

theorem supertypeNames_suffix (names : List String) (tokens : List Token) :
    (supertypeNames names tokens).2 <:+ tokens := by
  fun_induction supertypeNames names tokens with
  | case1 _ tokens => exact dropAnnotations_suffix tokens
  | case2 _ tokens => exact List.nil_suffix
  | case3 _ tokens _ _ _ _ t rest h _ _ ih =>
    have hs := Bracket.group?_suffix Bracket.angle (dottedName "" (dropAnnotations tokens)).2
    rw [h] at hs
    exact (((ih.trans (List.suffix_cons t rest)).trans hs).trans (dottedName_suffix _ _)).trans
      (dropAnnotations_suffix tokens)
  | case4 _ tokens _ _ _ _ t rest h _ _ =>
    have hs := Bracket.group?_suffix Bracket.angle (dottedName "" (dropAnnotations tokens)).2
    rw [h] at hs
    exact (hs.trans (dottedName_suffix _ _)).trans (dropAnnotations_suffix tokens)

def header (names : List String) : List Token → List String × List Token
  | [] => (names, [])
  | t :: rest =>
    if t.isPunctOf ["\x7b", ";", "\x7d"] then
      (names, t :: rest)
    else if t.isWordOf ["extends", "implements"] then
      let clause := supertypeNames [] rest
      header (names ++ clause.1) clause.2
    else
      header names rest
termination_by tokens => tokens.length
decreasing_by
  all_goals simp only [List.length_cons]
  · have := (supertypeNames_suffix [] rest).length_le
    omega
  · omega

def typeKind? (t : Token) : Option TypeDecl.Kind :=
  if t.isWord "class" then some .classType
  else if t.isWord "interface" then some .interfaceType
  else if t.isWord "enum" then some .enumType
  else if t.isWord "record" then some .recordType
  else none

/--
Where a type is declared: its kind, and the tokens from its name on. Of an annotation type only the
sign and the word before the name are asked for.
-/
def typeStart? : List Token → Option (TypeDecl.Kind × List Token)
  | t :: next :: rest =>
    match typeKind? t with
    | some kind => if next.isIdent then some (kind, next :: rest) else none
    | none =>
      if t.isPunct "@" && next.isWord "interface" then some (.annotationType, rest) else none
  | _ => none

def recordMembers (span : Span) (components : List Parameter) : List MemberDecl :=
  components.flatMap fun (name, type) =>
    [{ name := name, kind := .field, type := some type, span := span },
      { name := name, kind := .method, span := span }]

/--
The header of a type behind its name: the components of a record, the names of the supertypes, and
the tokens from the opening brace of the body on, or from where the header ends without a body.
-/
structure TypeHeader where
  components : List Parameter
  supertypes : List String
  rest : List Token

def typeHeader (kind : TypeDecl.Kind) (tokens : List Token) : TypeHeader :=
  let tokens := (Bracket.angle.group? tokens).2
  let components := if kind = .recordType then Bracket.round.group? tokens else (none, tokens)
  let clauses := header [] components.2
  ⟨Parameter.readAll (components.1.getD []), clauses.1, clauses.2⟩

/--
A type whose body is open, and whether the constants of an enum are still being read there.
-/
structure OpenType where
  place : Nat
  inConstants : Bool := false
deriving DecidableEq, Repr, Inhabited

/--
Read a type from its name on: the outline with the type, the type if its body is opened, and the
tokens after the header or behind the opening brace.
-/
def type (o : Outline) (outer : Option Nat) (m : Modifiers) (kind : TypeDecl.Kind) :
    List Token → Outline × Option OpenType × List Token
  | [] => (o, none, [])
  | name :: rest =>
    if name.isIdent then
      let place := o.entries.length
      let head := typeHeader kind rest
      let decl : TypeDecl :=
        { name := name.text, qualifiedName := o.qualifiedName outer name.text, kind := kind,
          outer := outer, deprecation := m.deprecation?,
          members := recordMembers name.span head.components, span := name.span }
      let o := { o with entries := o.entries ++ [⟨decl, head.supertypes⟩] }
      match head.rest with
      | [] => (o, none, [])
      | t :: after =>
        if t.isPunct "\x7b" then
          (o, some ⟨place, kind = .enumType⟩, after)
        else
          (o, none, t :: after)
    else
      (o, none, name :: rest)

def methodBody : List Token → Option (List Token) × List Token
  | [] => (none, [])
  | t :: rest =>
    if t.isPunct "\x7b" then (some (Bracket.curly.inside rest).1, (Bracket.curly.inside rest).2)
    else if t.isPunct ";" then (none, rest)
    else if t.isPunct "\x7d" then (none, t :: rest)
    else methodBody rest

def isDimension (t : Token) : Bool :=
  t.isPunctOf ["[", "]"]

/--
The declarators of a field from the token behind the first name on. An initializer is a body of the
type.
-/
def declarators (owner : Nat) (field : Token → MemberDecl) (o : Outline) :
    List Token → Outline × List Token
  | [] => (o, [])
  | t :: rest =>
    if t.isPunct "=" then
      let initializer := splitExpression 0 rest
      have := (splitExpression_suffix 0 rest).length_le
      declarators owner field (o.addBody { owner := owner, tokens := initializer.1 }) initializer.2
    else if t.isPunct "," then
      match rest with
      | [] => (o, [])
      | name :: more =>
        if name.isIdent then
          declarators owner field (o.addMember owner (field name)) (more.dropWhile isDimension)
        else
          declarators owner field o ((name :: more).dropWhile isDimension)
    else if t.isPunct ";" then
      (o, rest)
    else
      (o, t :: rest)
termination_by tokens => tokens.length
decreasing_by
  · simp only [List.length_cons]
    omega
  · exact Nat.lt_succ_of_le (Nat.le_succ_of_le (List.dropWhile_suffix isDimension).length_le)
  · exact Nat.lt_succ_of_le (List.dropWhile_suffix isDimension).length_le

def lastIdent? (tokens : List Token) : Option (List Token × Token) :=
  match tokens.reverse.dropWhile (!·.isIdent) with
  | [] => none
  | name :: before => some (before.reverse, name)

/--
Read fields: `head` is what stands before the first comma, semicolon or equals sign, which is
`mark`. A field needs a type, so a name that stands alone is skipped.
-/
def fields (o : Outline) (owner : Nat) (m : Modifiers) (head : List Token) (mark : Token)
    (rest : List Token) : Outline × List Token :=
  match lastIdent? head with
  | none | some ([], _) => (o, rest)
  | some (type, name) =>
    let field := fun t : Token =>
      { name := t.text, kind := .field, type := TypeName.read? type, deprecation := m.deprecation?,
        span := t.span : MemberDecl }
    declarators owner field (o.addMember owner (field name)) (mark :: rest)

/--
Split a member before the mark that says what it is: a parameter list, a body, the end of a
declarator, or the end of the enclosing type. Marks inside type arguments do not count.
-/
def splitMember (angle : Nat) : List Token → List Token × List Token
  | [] => ([], [])
  | t :: rest =>
    if angle = 0 && t.isPunctOf ["(", "=", ";", ",", "\x7b", "\x7d"] then
      ([], t :: rest)
    else
      let angle :=
        if t.isPunct "<" then angle + 1 else if t.isPunct ">" then angle - 1 else angle
      let (head, after) := splitMember angle rest
      (t :: head, after)

def method (o : Outline) (owner : Nat) (m : Modifiers) (head rest : List Token) :
    Outline × List Token :=
  let (inside, rest) := Bracket.round.inside rest
  let (body, rest) := methodBody rest
  let o := match body with
    | none => o
    | some tokens =>
      o.addBody { owner := owner, parameters := Parameter.readAll inside, tokens := tokens }
  match head.getLast? with
  | none => (o, rest)
  | some name =>
    if name.isIdent then
      -- a constructor has no result type before its name
      let kind := if head.length = 1 then .constructor else .method
      (o.addMember owner
        { name := name.text, kind := kind, deprecation := m.deprecation?, span := name.span },
        rest)
    else
      (o, rest)

def member (o : Outline) (owner : Nat) (m : Modifiers) (tokens : List Token) :
    Outline × List Token :=
  let (head, rest) := splitMember 0 (Bracket.angle.group? tokens).2
  match rest with
  | [] => (o, [])
  | mark :: rest =>
    if mark.isPunct "\x7d" then
      (o, mark :: rest)
    else if mark.isPunct "(" then
      method o owner m head rest
    else if mark.isPunct "\x7b" then
      let (inside, rest) := Bracket.curly.inside rest
      (o.addBody { owner := owner, tokens := inside }, rest)
    else
      fields o owner m head mark rest

def stepOutside (o : Outline) (t : Token) (rest : List Token) :
    Outline × List OpenType × List Token :=
  if t.isWord "package" then
    let (name, rest) := dottedName "" rest
    ({ o with package := some name }, [], rest)
  else if t.isWord "import" then
    let isStatic := starts (·.isWord "static") rest
    let (path, rest) := dottedName "" (if isStatic then rest.tail else rest)
    let star := [ '.', '*' ]
    let i : Import :=
      { path := String.ofList (Text.dropTrailing star path.toList),
        wildcard := star.isSuffixOf path.toList, isStatic := isStatic }
    ({ o with imports := o.imports ++ [i] }, [], rest)
  else
    let (m, rest) := modifiers {} (t :: rest)
    match typeStart? rest with
    | some (kind, rest) =>
      let (o, opened, rest) := type o none m kind rest
      (o, opened.toList, rest)
    | none => (o, [], rest)

/--
One step among the constants of the enum at place `owner`, at the token `t`. A semicolon ends the
constants. Arguments and bodies of constants are bodies of the enum.
-/
def stepConstants (o : Outline) (owner : Nat) (outer : List OpenType) (t : Token)
    (rest : List Token) : Outline × List OpenType × List Token :=
  if t.isPunct ";" then
    (o, ⟨owner, false⟩ :: outer, rest)
  else if t.isPunct "\x7d" then
    (o, outer, rest)
  else if t.isPunct "," then
    (o, ⟨owner, true⟩ :: outer, rest)
  else
    match modifiers {} (t :: rest) with
    | (_, []) => (o, ⟨owner, true⟩ :: outer, [])
    | (m, name :: after) =>
      if name.isIdent then
        let arguments := Bracket.round.group? after
        let body := Bracket.curly.group? arguments.2
        let o := o.addMember owner
          { name := name.text, kind := .enumConstant, deprecation := m.deprecation?,
            span := name.span }
        let o := (arguments.1.toList ++ body.1.toList).foldl
          (fun o tokens => o.addBody { owner := owner, tokens := tokens }) o
        (o, ⟨owner, true⟩ :: outer, body.2)
      else
        (o, ⟨owner, true⟩ :: outer, after)

def stepInside (o : Outline) (owner : Nat) (outer : List OpenType) (t : Token)
    (rest : List Token) : Outline × List OpenType × List Token :=
  if t.isPunct "\x7d" then
    (o, outer, rest)
  else if t.isPunct ";" then
    (o, ⟨owner, false⟩ :: outer, rest)
  else
    let (m, rest) := modifiers {} (t :: rest)
    match Bracket.curly.group? rest with
    | (some inside, rest) =>
      (o.addBody { owner := owner, tokens := inside }, ⟨owner, false⟩ :: outer, rest)
    | (none, _) =>
      match typeStart? rest with
      | some (kind, rest) =>
        let (o, opened, rest) := type o (some owner) m kind rest
        (o, opened.toList ++ ⟨owner, false⟩ :: outer, rest)
      | none =>
        if starts (·.isPunct "\x7d") rest then
          (o, ⟨owner, false⟩ :: outer, rest)
        else
          let (o, rest) := member o owner m rest
          (o, ⟨owner, false⟩ :: outer, rest)

/--
What is left of `t :: rest` after a step. A step that reads nothing skips one token.
-/
def leftOver (rest after : List Token) : List Token :=
  if after.length ≤ rest.length then after else rest

theorem length_leftOver_le (rest after : List Token) :
    (leftOver rest after).length ≤ rest.length := by
  unfold leftOver
  split <;> omega

/--
One step inside the types `enclosing`, at the token `t`: the outline, the types that are open then,
and the tokens that are left.
-/
def step (o : Outline) (enclosing : List OpenType) (t : Token) (rest : List Token) :
    Outline × List OpenType × List Token :=
  match enclosing with
  | [] => stepOutside o t rest
  | ⟨owner, true⟩ :: outer => stepConstants o owner outer t rest
  | ⟨owner, false⟩ :: outer => stepInside o owner outer t rest

def outlineFrom (o : Outline) (enclosing : List OpenType) : List Token → Outline
  | [] => o
  | t :: rest =>
    let next := step o enclosing t rest
    outlineFrom next.1 next.2.1 (leftOver rest next.2.2)
termination_by tokens => tokens.length
decreasing_by exact Nat.lt_succ_of_le (length_leftOver_le _ _)

end Reader

def outline (tokens : List Token) : Outline :=
  Reader.outlineFrom {} [] tokens

end DeprecatedUse.Java
