/-!
This module contains scripts of the shell as trees: words with what is put in for their parts,
commands with their redirections, and the ways in which commands are put together.
-/

namespace DeprecatedUse.Program.Shell

inductive Opening where
  | read
  | write (force : Bool)
  | append
  | update
deriving DecidableEq, Repr, Inhabited

mutual

/--
A part of a word. What comes from a quoted part stays together and means itself.
-/
inductive Part where
  | text (characters : List Char) (quoted : Bool)
  | parameter (name : String) (use : Use) (quoted : Bool)
  | output (script : List Job) (quoted : Bool)
  | arithmetic (expression : List Part) (quoted : Bool)
  | meaningless

inductive Use where
  | value
  | length
  | orWord (nonEmpty : Bool) (word : List Part)
  | orAssign (nonEmpty : Bool) (word : List Part)
  | orFail (nonEmpty : Bool) (word : List Part)
  | ifSet (nonEmpty : Bool) (word : List Part)
  | trimmed (atEnd longest : Bool) (pattern : List Part)

inductive Redirect where
  | file (descriptor : Nat) (opening : Opening) (name : List Part)
  | duplicate (descriptor : Nat) (name : List Part)
  | document (descriptor : Nat) (number : Nat)

inductive Command where
  | simple (assignments : List (String × List Part)) (words : List (List Part))
      (redirects : List Redirect)
  | group (body : List Job) (redirects : List Redirect)
  | subshell (body : List Job) (redirects : List Redirect)
  | choice (branches : List (List Job × List Job)) (otherwise : List Job)
      (redirects : List Redirect)
  | loop (goal : Bool) (condition body : List Job) (redirects : List Redirect)
  | each (name : String) (words : List (List Part)) (body : List Job) (redirects : List Redirect)
  | cases (word : List Part) (arms : List (List (List Part) × List Job))
      (redirects : List Redirect)
  | define (name : String) (line : Nat) (body : Command)

/--
Commands whose outputs lead into each other, each with the line where it begins. A negated one fails
if it succeeds.
-/
inductive Pipeline where
  | mk (negated : Bool) (commands : List (Nat × Command))

inductive Job where
  | mk (first : Pipeline) (rest : List (Bool × Pipeline)) (background : Bool)

end

instance : Inhabited Command := ⟨.group [] []⟩

def Pipeline.stages : Pipeline → Nat
  | .mk negated commands => if negated then 1 else commands.length

def Part.isPlain : Part → Bool
  | .text _ quoted => !quoted
  | _ => false

def writtenText (word : List Part) : List Char :=
  word.flatMap fun part =>
    match part with
    | .text cs _ => cs
    | _ => []

def plainText? (word : List Part) : Option (List Char) :=
  if word.all Part.isPlain then some (writtenText word) else none

def consText (c : Char) (quoted : Bool) : List Part → List Part
  | .text cs q :: rest =>
    if q = quoted then .text (c :: cs) q :: rest else .text [c] quoted :: .text cs q :: rest
  | parts => .text [c] quoted :: parts

def isNameStart (c : Char) : Bool :=
  c.isAlpha || c == '_'

def isNameChar (c : Char) : Bool :=
  c.isAlphanum || c == '_'

def isName : List Char → Bool
  | [] => false
  | c :: rest => isNameStart c && rest.all isNameChar

end DeprecatedUse.Program.Shell
