import DeprecatedUse.Search
import DeprecatedUse.Java.Outline
import DeprecatedUse.Java.Scopes

/-!
This module contains the search of a body for uses of members. The search goes over the tokens once
and keeps the local names that are bound, so that the type of a simple receiver is known. The tokens
before the current one are kept nearest first, because receivers are read backwards.
-/

namespace DeprecatedUse.Java

inductive Receiver where
  | name (name : String)
  | qualified (names : List String)
  | self
  | parent
  | ownField (name : String)
  | creation (type : String)
  | other
deriving DecidableEq, Repr, Inhabited

structure Access where
  receiver : Receiver
  receiverType : Option TypeRef
  member : String
  kind : MemberKind
  /-- From the start of the receiver to the end of the member's name. -/
  span : Span
deriving DecidableEq, Repr, Inhabited

/--
What a body is read against: the type names and the types of its unit, and the place of its own
type.
-/
structure Surroundings where
  names : TypeNames
  types : List TypeDecl
  owner : Nat

namespace Surroundings

def supertypes (env : Surroundings) (place : Nat) : List Nat :=
  match env.types[place]? with
  | none => []
  | some type =>
    type.supertypes.filterMap fun ref =>
      env.types.findIdx? fun t => ref.candidates.contains t.qualifiedName

/--
The field of a type with this name: `some none` is a field whose type cannot be used. An enum
constant is a field of the enum's own type.
-/
def ownField? (env : Surroundings) (name : String) (place : Nat) : Option (Option TypeRef) := do
  let type ← env.types[place]?
  let field ← type.member? name .field
  match field.kind with
  | .enumConstant => return some (.qualified type.qualifiedName)
  | _ => return field.type.bind env.names.reference?

def inheritedField? (env : Surroundings) (name : String) (place : Nat) :
    Option (Option TypeRef) :=
  breadthFirst env.supertypes (env.ownField? name) (List.range env.types.length) [place]

/--
The place of a type and the places of the types around it, from inside out. A type stands behind the
type that encloses it.
-/
def enclosing (env : Surroundings) (place : Nat) : List Nat :=
  match env.types[place]?.bind TypeDecl.outer with
  | none => [place]
  | some outer => if outer < place then place :: enclosing env outer else [place]
termination_by place

def field? (env : Surroundings) (name : String) : Option (Option TypeRef) :=
  (env.enclosing env.owner).findSome? (env.inheritedField? name)

end Surroundings

namespace Access

def starts (p : Token → Bool) : List Token → Bool
  | [] => false
  | t :: _ => p t

def noMemberWords : List String := ["class", "new", "this", "super"]

/-! Reading backwards. -/

def chain (names : List Token) : List Token → List Token × List Token
  | dot :: name :: before =>
    if dot.isPunct "." && name.isIdent then chain (name :: names) before
    else (names, dot :: name :: before)
  | before => (names, before)

def dotted (names : List Token) : String :=
  ".".intercalate (names.map Token.text)

def beforeArguments : List Token → List Token
  | [] => []
  | t :: before =>
    if t.isPunct ">" then
      match Bracket.angle.flip.close? 0 before with
      | none => []
      | some (_, before) => before
    else
      t :: before

/--
The creation of an object that ends here, with the parenthesis behind its arguments: the word `new`
and the name of the type.
-/
def creation? : List Token → Option (Token × String)
  | [] => none
  | t :: before =>
    if t.isPunct ")" then
      match Bracket.round.flip.close? 0 before with
      | none => none
      | some (_, before) =>
        match beforeArguments before with
        | [] => none
        | last :: before =>
          if last.isIdent then
            match chain [last] before with
            | (_, []) => none
            | (names, new :: _) => if new.isWord "new" then some (new, dotted names) else none
          else
            none
    else
      none

def receiverOfNames : List String → Receiver
  | ["this"] => .self
  | ["super"] => .parent
  | [name] => .name name
  | ["this", name] => .ownField name
  | names => if names.contains "this" || names.contains "super" then .other else .qualified names

/--
The receiver that ends here, and where it starts. A name behind `new` is the start of a type's name
and no receiver.
-/
def receiver? : List Token → Option (Receiver × Position)
  | [] => none
  | t :: before =>
    if t.isIdent then
      let (names, before) := chain [t] before
      if starts (·.isWord "new") before then
        none
      else if starts (·.isPunctOf [".", "::"]) before then
        some (.other, t.span.start)
      else
        some (receiverOfNames (names.map Token.text), (names.headD t).span.start)
    else
      match creation? (t :: before) with
      | some (new, type) => some (.creation type, new.span.start)
      | none => some (.other, t.span.start)

/--
The names that stand alone between the commas of an untyped parameter list. A name is given its type
if `typed` has one for it that is written out.
-/
def lambdaNames (typed : List Parameter) (depth : Nat) :
    List Token → List (String × Option TypeName)
  | [] => []
  | t :: rest =>
    let depth :=
      if t.isPunctOf ["<", "("] then depth + 1
      else if t.isPunctOf [">", ")"] then depth - 1
      else depth
    let bound :=
      if depth = 0 && t.isIdent && (rest.isEmpty || starts (·.isPunct ",") rest) then
        let type := (typed.find? fun p => p.1 == t.text && p.2.name != "var").map (·.2)
        [(t.text, type)]
      else
        []
    bound ++ lambdaNames typed depth rest

def isLabelPart (t : Token) : Bool :=
  (t.isIdent && !t.isWord "case") || t.isPunctOf [".", ","]

/--
The names that the lambda binds whose arrow stands here. The labels of a switch case bind none.
-/
def lambdaParameters : List Token → List (String × Option TypeName)
  | [] => []
  | t :: before =>
    if t.isIdent then
      if t.text == "default" || starts (·.isWord "case") (before.dropWhile isLabelPart) then []
      else [(t.text, none)]
    else if t.isPunct ")" then
      match Bracket.round.flip.close? 0 before with
      | none => []
      | some (inside, _) =>
        lambdaNames (Parameter.readAll inside.reverse) 0 inside.reverse
    else
      []

def isStatementStart : List Token → Bool
  | [] => true
  | t :: _ => t.isPunctOf [";", "\x7b", "\x7d", "(", ",", ":"]

/-! Local declarations. -/

/--
A local variable: its name, its type if it can be used, and the number of tokens up to its name.
-/
structure Local where
  name : String
  type : Option TypeName
  length : Nat

def splitDotted : List Token → List Token × List Token
  | dot :: name :: rest =>
    if dot.isPunct "." && name.isIdent then
      let (taken, after) := splitDotted rest
      (dot :: name :: taken, after)
    else
      ([], dot :: name :: rest)
  | tokens => ([], tokens)

def splitDims : List Token → List Token × List Token
  | opening :: closing :: rest =>
    if opening.isPunct "[" && closing.isPunct "]" then
      let (taken, after) := splitDims rest
      (opening :: closing :: taken, after)
    else
      ([], opening :: closing :: rest)
  | tokens => ([], tokens)

/--
Split behind the type arguments of which `depth` lists are open. Other tokens than those of types
end the reading.
-/
def splitArgumentsFrom? (depth : Nat) : List Token → Option (List Token × List Token)
  | [] => none
  | t :: rest =>
    if t.isPunct "<" then
      (splitArgumentsFrom? (depth + 1) rest).map fun (taken, after) => (t :: taken, after)
    else if t.isPunct ">" then
      if depth ≤ 1 then
        some ([t], rest)
      else
        (splitArgumentsFrom? (depth - 1) rest).map fun (taken, after) => (t :: taken, after)
    else if t.isIdent || t.isPunctOf [".", ",", "?", "&", "[", "]", "@"] then
      (splitArgumentsFrom? depth rest).map fun (taken, after) => (t :: taken, after)
    else
      none

def splitArguments? (tokens : List Token) : Option (List Token × List Token) :=
  if starts (·.isPunct "<") tokens then splitArgumentsFrom? 0 tokens else some ([], tokens)

def isPlain (t : Token) : Bool :=
  t.isIdent && !reservedWords.contains t.text

def splitType? : List Token → Option (List Token × List Token)
  | [] => none
  | first :: rest =>
    if isPlain first then do
      let (names, rest) := splitDotted rest
      let (arguments, rest) ← splitArguments? rest
      let (dims, rest) := splitDims rest
      return (first :: names ++ arguments ++ dims, rest)
    else
      none

def inferredType? : List Token → Option TypeName
  | equals :: new :: rest =>
    if equals.isPunct "=" && new.isWord "new" then
      let isName := fun t : Token => t.isIdent || t.isPunct "."
      if starts (·.isPunctOf ["(", "<"]) (rest.dropWhile isName) then
        TypeName.read? (rest.takeWhile isName)
      else
        none
    else
      none
  | _ => none

def endsDeclarator : List Token → Bool
  | [] => true
  | t :: _ => t.isPunctOf ["=", ";", ":", ",", ")"]

/--
The local variable that is declared here. A variable in a pattern may be followed by anything. A
variable with brackets behind its name is an array, whose members are not looked up.
-/
def local? (pattern : Bool) (tokens : List Token) : Option Local := do
  let (type, rest) ← splitType? (tokens.dropWhile (·.isWord "final"))
  match rest with
  | [] => none
  | name :: rest =>
    let (dims, after) := splitDims rest
    if isPlain name && (pattern || endsDeclarator after) then
      let written := TypeName.read? type
      let type :=
        if !dims.isEmpty then none
        else if written.any (·.name == "var") then inferredType? after
        else written
      return ⟨name.text, type, tokens.length - rest.length⟩
    else
      none

/-! Reading forwards. -/

structure State where
  scopes : Scopes := {}
  /-- The depths of nesting at which bodies of anonymous classes were entered, innermost first. -/
  anonymous : List Nat := []
  /-- How many tokens are left where an open lambda with an expression ends, innermost first. -/
  lambdaEnds : List Nat := []

def leaveLambdas (left : Nat) (scopes : Scopes) : List Nat → Scopes × List Nat
  | [] => (scopes, [])
  | stop :: stops =>
    if stop = left then leaveLambdas left scopes.pop stops else (scopes, stop :: stops)

def State.at (s : State) (left : Nat) : State :=
  let (scopes, lambdaEnds) := leaveLambdas left s.scopes s.lambdaEnds
  { s with scopes := scopes, lambdaEnds := lambdaEnds }

def State.declare (s : State) (v : Local) : State :=
  { s with scopes := s.scopes.declare v.name v.type }

def step (s : State) (before : List Token) (t : Token) (rest : List Token) : State × Nat :=
  if t.isPunct "\x7b" then
    let scopes := s.scopes.push
    let anonymous :=
      if (creation? before).isSome then scopes.depth :: s.anonymous else s.anonymous
    ({ s with scopes := scopes, anonymous := anonymous }, 0)
  else if t.isPunct "\x7d" then
    let scopes := s.scopes.pop
    ({ s with scopes := scopes, anonymous := s.anonymous.dropWhile (scopes.depth < ·) }, 0)
  else if t.isPunct "->" && !before.isEmpty then
    let scopes := s.scopes.push.declareAll (lambdaParameters before)
    if starts (·.isPunct "\x7b") rest then
      ({ s with scopes := scopes }, 1)
    else
      let stop := (splitExpression 0 rest).2.length
      ({ s with scopes := scopes, lambdaEnds := stop :: s.lambdaEnds }, 0)
  else if t.isWord "instanceof" then
    match local? true rest with
    | none => (s, 0)
    | some v => (s.declare v, 0)
  else if isStatementStart before then
    match local? false (t :: rest) with
    | none => (s, 0)
    | some v => (s.declare v, v.length - 1)
  else
    (s, 0)

/--
The type of a receiver. Inside an anonymous class the words `this` and `super` and the fields around
may mean something else, so there they have no type.
-/
def receiverType? (env : Surroundings) (s : State) : Receiver → Option TypeRef
  | .name name =>
    match s.scopes.lookup? name with
    | some type => type.bind env.names.reference?
    | none =>
      match env.field? name with
      | some type => if s.anonymous.isEmpty then type else none
      | none => if env.names.isTypeName name then some (env.names.resolve name) else none
  | .qualified names =>
    let head := names.headD ""
    if (s.scopes.lookup? head).isSome || (env.field? head).isSome then none
    else if startsWith Text.isUppercase (names.getLastD "") then
      some (env.names.resolve (".".intercalate names))
    else none
  | .self =>
    if s.anonymous.isEmpty then
      env.types[env.owner]?.map fun type => .qualified type.qualifiedName
    else none
  | .parent =>
    if s.anonymous.isEmpty then env.types[env.owner]?.bind fun type => type.supertypes.head?
    else none
  | .ownField name =>
    if s.anonymous.isEmpty then (env.field? name).bind id else none
  | .creation type => some (env.names.resolve type)
  | .other => none

def access? (env : Surroundings) (s : State) (before : List Token) (t : Token)
    (rest : List Token) : Option Access :=
  if t.isPunctOf [".", "::"] then
    match (Bracket.angle.group? rest).2 with
    | [] => none
    | member :: after =>
      if member.isIdent && !noMemberWords.contains member.text then
        (receiver? before).map fun (receiver, start) =>
          { receiver := receiver
            receiverType := receiverType? env s receiver
            member := member.text
            kind := if t.isPunct "::" || starts (·.isPunct "(") after then .method else .field
            span := ⟨start, member.span.stop⟩ }
      else
        none
  else
    none

def scan (env : Surroundings) (s : State) (before : List Token) : List Token → List Access
  | [] => []
  | t :: rest =>
    let s := s.at (rest.length + 1)
    let next := step s before t rest
    (access? env s before t rest).toList
      ++ scan env next.1 ((rest.take next.2).reverse ++ t :: before) (rest.drop next.2)
termination_by tokens => tokens.length
decreasing_by
  simp only [List.length_drop, List.length_cons]
  omega

def ofBody (names : TypeNames) (types : List TypeDecl) (body : Body) : List Access :=
  let bindings := body.parameters.map fun (name, type) => (name, some type)
  scan ⟨names, types, body.owner⟩ { scopes := Scopes.declareAll {} bindings } [] body.tokens

end Access

end DeprecatedUse.Java
