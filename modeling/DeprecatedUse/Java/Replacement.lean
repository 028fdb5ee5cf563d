import DeprecatedUse.Text.Character
import DeprecatedUse.Text.Word

/-!
This module contains the search for the replacement that a deprecation text names: the target of its
first link, or else the symbol in the words "use … instead".

Both patterns leave nothing to try twice: wherever a part of them may be longer or shorter, the
character after it decides. So each is read in one pass from the place where it starts.
-/

namespace DeprecatedUse.Java.Replacement

open DeprecatedUse.Text

def blanks? : List Char → Option (List Char)
  | [] => none
  | c :: rest => if isBlank c then some (rest.dropWhile isBlank) else none

def dropBackquote : List Char → List Char
  | '\x60' :: rest => rest
  | cs => cs

/--
Is `c` the lower-case letter `letter` when case does not count? The long s and the Kelvin sign are
the two characters outside ASCII that fold to an ASCII letter.
-/
def folds (letter c : Char) : Bool :=
  c == letter || c == letter.toUpper || (letter == 's' && c == '\u017f')
    || (letter == 'k' && c == '\u212a')

def foldedWord? : List Char → List Char → Option (List Char)
  | [], cs => some cs
  | _ :: _, [] => none
  | letter :: word, c :: cs => if folds letter c then foldedWord? word cs else none

def startsWithWord : List Char → Bool
  | [] => false
  | c :: _ => isWord c

def isSymbolStart (c : Char) : Bool :=
  c.isAlpha || c == '\u017f' || c == '\u212a' || c == '_' || c == '$'

def isSymbolPart (c : Char) : Bool :=
  isWord c || c == '$' || c == '.' || c == '#'

/--
A parameter list up to its first closing parenthesis, if there is one; one that is opened must be
closed.
-/
def parameters? : List Char → Option (List Char × List Char)
  | '(' :: rest =>
    match rest.dropWhile (· != ')') with
    | [] => none
    | _ :: after => some ('(' :: rest.takeWhile (· != ')') ++ [')'], after)
  | cs => some ([], cs)

def symbol? : List Char → Option (List Char × List Char)
  | [] => none
  | c :: rest =>
    if isSymbolStart c then
      (parameters? (rest.dropWhile isSymbolPart)).map fun (parameters, after) =>
        (c :: rest.takeWhile isSymbolPart ++ parameters, after)
    else
      none

def wording? (cs : List Char) : Option (List Char) := do
  let rest ← foldedWord? "use".toList cs
  let rest ← blanks? rest
  let (symbol, rest) ← symbol? (dropBackquote rest)
  let rest ← blanks? (dropBackquote rest)
  let rest ← foldedWord? "instead".toList rest
  if startsWithWord rest then none else some symbol

/--
The target of the link at the start of the text. Behind the target stands anything but a closing
brace, then a closing brace.
-/
def link? (cs : List Char) : Option (List Char) := do
  let rest ← "\x7b@link".toList.isPrefixOf? cs
  let rest ← blanks? (("plain".toList.isPrefixOf? rest).getD rest)
  let isTarget := fun c => c != '\x7d' && !isBlank c
  let target := rest.takeWhile isTarget
  if target.isEmpty || !(rest.dropWhile isTarget).contains '\x7d' then none else some target

def search? {α : Type} (find? : List Char → Option α) : List Char → Option α
  | [] => none
  | c :: cs =>
    match find? (c :: cs) with
    | some a => some a
    | none => search? find? cs

/--
The first success of `find?` at a place where no word goes on; `inWord` says whether the character
before the text belongs to a word.
-/
def searchWord? {α : Type} (find? : List Char → Option α) (inWord : Bool) :
    List Char → Option α
  | [] => none
  | c :: cs =>
    match if inWord then none else find? (c :: cs) with
    | some a => some a
    | none => searchWord? find? (isWord c) cs

def display (symbol : List Char) : List Char :=
  (match symbol with
    | '#' :: rest => rest
    | cs => cs).map fun c => if c = '#' then '.' else c

def hint? (text : List Char) : Option (List Char) :=
  match (search? link? text).or (searchWord? wording? false text) with
  | none => none
  | some symbol => if (display symbol).isEmpty then none else some (display symbol)

end DeprecatedUse.Java.Replacement
