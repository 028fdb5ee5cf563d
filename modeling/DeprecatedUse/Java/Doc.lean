import DeprecatedUse.Text.Lines

/-!
This module contains the reading of documentation comments: the text under the decoration, and the
text of the tag that marks a declaration as deprecated.
-/

namespace DeprecatedUse.Java.Doc

open DeprecatedUse.Text

def contentLine (line : List Char) : List Char :=
  match trimStart line with
  | '*' :: rest => trim rest
  | rest => trim rest

def content (comment : List Char) : List Char :=
  let inner := dropTrailing ['*', '/'] (dropLeading ['/', '*', '*'] (trim comment))
  trim (join ['\n'] ((splitOn '\n' inner).map contentLine))

def afterTag? (line : List Char) : Option (List Char) :=
  match "@deprecated".toList.isPrefixOf? line with
  | none => none
  | some [] => some []
  | some (c :: rest) => if isBlank c then some (c :: rest) else none

def findTag? : List (List Char) → Option (List Char × List (List Char))
  | [] => none
  | line :: lines =>
    match afterTag? line with
    | some text => some (text, lines)
    | none => findTag? lines

def deprecatedTag? (comment : List Char) : Option (List Char) :=
  (findTag? (splitOn '\n' (content comment))).map fun (text, lines) =>
    trim (join [' '] (trim text :: lines.takeWhile (·.head? != some '@')))

end DeprecatedUse.Java.Doc
