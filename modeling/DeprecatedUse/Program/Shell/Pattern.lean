import DeprecatedUse.Program.Basic

/-!
This module contains the patterns of the shell, and the names of files that match them.
-/

namespace DeprecatedUse.Program.Shell

structure Mark where
  char : Char
  quoted : Bool := false
deriving DecidableEq, Repr, Inhabited

inductive Member where
  | range (low high : Char)
  | named (name : String)
deriving DecidableEq, Repr, Inhabited

def classHolds (name : String) (c : Char) : Bool :=
  match name with
  | "alpha" => c.isAlpha
  | "digit" => c.isDigit
  | "alnum" => c.isAlphanum
  | "upper" => c.isUpper
  | "lower" => c.isLower
  | "space" => c == ' ' || ('\t' ≤ c && c ≤ '\r')
  | "blank" => c == ' ' || c == '\t'
  | "punct" => '!' ≤ c && c ≤ '~' && !c.isAlphanum
  | "xdigit" => c.isDigit || ('a' ≤ c && c ≤ 'f') || ('A' ≤ c && c ≤ 'F')
  | "cntrl" => c < ' ' || c == '\x7f'
  | "print" => ' ' ≤ c && c ≤ '~'
  | "graph" => '!' ≤ c && c ≤ '~'
  | _ => false

def Member.holds (c : Char) : Member → Bool
  | .range low high => decide (low ≤ c) && decide (c ≤ high)
  | .named name => classHolds name c

inductive Wildcard where
  | texts
  | anyChar
  | set (negated : Bool) (members : List Member)
  | exact (c : Char)
deriving DecidableEq, Repr, Inhabited

def members? : Nat → Bool → List Mark → Option (List Member × List Mark)
  | 0, _, _ => none
  | _, _, [] => none
  | fuel + 1, first, m :: rest =>
    if m.char = ']' ∧ ¬ m.quoted ∧ ¬ first then
      some ([], rest)
    else
      match m.char, rest with
      | '[', colon :: more =>
        let name := more.takeWhile fun m => m.char != ':'
        match m.quoted, colon.char, more.drop name.length with
        | false, ':', _ :: ⟨']', _⟩ :: after =>
          (members? fuel false after).map fun (members, after) =>
            (.named (String.ofList (name.map Mark.char)) :: members, after)
        | _, _, _ =>
          (members? fuel false rest).map fun (members, after) =>
            (.range '[' '[' :: members, after)
      | low, ⟨'-', false⟩ :: high :: after =>
        if high.char = ']' ∧ ¬ high.quoted then
          (members? fuel false rest).map fun (members, after) =>
            (.range low low :: members, after)
        else
          (members? fuel false after).map fun (members, after) =>
            (.range low high.char :: members, after)
      | c, rest =>
        (members? fuel false rest).map fun (members, after) => (.range c c :: members, after)

def wildcards : Nat → List Mark → List Wildcard
  | 0, _ => []
  | _, [] => []
  | fuel + 1, ⟨c, true⟩ :: rest => .exact c :: wildcards fuel rest
  | fuel + 1, ⟨'*', false⟩ :: rest => .texts :: wildcards fuel rest
  | fuel + 1, ⟨'?', false⟩ :: rest => .anyChar :: wildcards fuel rest
  | fuel + 1, ⟨'[', false⟩ :: rest =>
    let (negated, inside) := match rest with
      | ⟨'!', false⟩ :: inside => (true, inside)
      | ⟨'^', false⟩ :: inside => (true, inside)
      | inside => (false, inside)
    match members? (inside.length + 1) true inside with
    | some (members, after) => .set negated members :: wildcards fuel after
    | none => .exact '[' :: wildcards fuel rest
  | fuel + 1, ⟨c, false⟩ :: rest => .exact c :: wildcards fuel rest

def Wildcard.matchesAll : List Wildcard → List Char → Bool
  | [], cs => cs.isEmpty
  | .texts :: more, [] => matchesAll more []
  | .texts :: more, c :: cs => matchesAll more (c :: cs) || matchesAll (.texts :: more) cs
  | .anyChar :: more, _ :: cs => matchesAll more cs
  | .set negated members :: more, c :: cs =>
    (members.any (Member.holds c) != negated) && matchesAll more cs
  | .exact x :: more, c :: cs => x == c && matchesAll more cs
  | _, [] => false
termination_by ws cs => ws.length + cs.length

def matchesPattern (pattern : List Mark) (text : List Char) : Bool :=
  Wildcard.matchesAll (wildcards (pattern.length + 1) pattern) text

def trimPattern (atEnd longest : Bool) (pattern : List Mark) (text : List Char) : List Char :=
  let sizes := List.range (text.length + 1)
  let sizes := if longest then sizes.reverse else sizes
  let part := fun n => if atEnd then text.drop (text.length - n) else text.take n
  match sizes.find? fun n => matchesPattern pattern (part n) with
  | none => text
  | some n => if atEnd then text.take (text.length - n) else text.drop n

def hasWildcard (word : List Mark) : Bool :=
  word.any fun m => !m.quoted && (m.char == '*' || m.char == '?' || m.char == '[')

def splitSlashes : List Mark → List (List Mark)
  | [] => [[]]
  | m :: rest =>
    if m.char = '/' then
      [] :: splitSlashes rest
    else
      match splitSlashes rest with
      | [] => [[m]]
      | part :: parts => (m :: part) :: parts

def marksText (word : List Mark) : String :=
  String.ofList (word.map Mark.char)

def entries (here : Place) (folder : Path) : List String :=
  match here.find folder with
  | .ok (names, .folder) =>
    "." :: ".." :: here.tree.nodes.keys.filterMap fun place =>
      match names.isPrefixOf? place with
      | some [name] => some (textOf name)
      | _ => none
  | _ => []

/--
The paths that the parts of a word stand for, each continuing `done`. A dot at the start of a name
has to be written.
-/
def expandPath (here : Place) (done : String) : List (List Mark) → List String
  | [] => [done]
  | part :: rest =>
    let folder := pathOf (if done = "" then "." else done)
    let goOn := fun name : String => done ++ name ++ (if rest.isEmpty then "" else "/")
    if hasWildcard part then
      let hidden := part.head?.any fun m => m.char == '.'
      let names := (entries here folder).filter fun name =>
        (hidden || !name.startsWith ".") && matchesPattern part name.toList
      names.flatMap fun name => expandPath here (goOn name) rest
    else
      (expandPath here (goOn (marksText part)) rest).filter fun path => here.hasPath (pathOf path)

def expandName (here : Place) (word : List Mark) : List String :=
  if hasWildcard word then
    match expandPath here "" (splitSlashes word) with
    | [] => [marksText word]
    | names => names.mergeSort fun a b => decide (a ≤ b)
  else
    [marksText word]

end DeprecatedUse.Program.Shell
