import DeprecatedUse.Program.Shell.Pattern

/-!
This module contains what becomes of a word when everything has been put in: fields, which are the
words that a command gets.
-/

namespace DeprecatedUse.Program.Shell

inductive Piece where
  | char (mark : Mark) (given : Bool)
  | quotes
  | gap
deriving DecidableEq, Repr, Inhabited

namespace Piece

def ofValue (quoted : Bool) (text : String) : List Piece :=
  text.toList.map fun c => .char ⟨c, quoted⟩ (!quoted)

def ofText (quoted : Bool) (cs : List Char) : List Piece :=
  (if quoted then [.quotes] else []) ++ cs.map fun c => .char ⟨c, quoted⟩ false

def give : Piece → Piece
  | .char m _ => .char m (!m.quoted)
  | piece => piece

def ofArguments (quoted : Bool) : List String → List Piece
  | [] => []
  | [argument] => (if quoted then [.quotes] else []) ++ ofValue quoted argument
  | argument :: rest =>
    (if quoted then [.quotes] else []) ++ ofValue quoted argument ++ .gap :: ofArguments quoted rest

def marks (pieces : List Piece) : List Mark :=
  pieces.filterMap fun piece =>
    match piece with
    | .char m _ => some m
    | .gap => some ⟨' ', false⟩
    | .quotes => none

end Piece

structure Field where
  marks : List Mark := []
  quotes : Bool := false
  afterBlank : Bool := false
deriving DecidableEq, Repr, Inhabited

namespace Field

def close (f : Field) : List (List Mark) :=
  if f.marks.isEmpty && !f.quotes then [] else [f.marks.reverse]

def add (separators : List Char) (f : Field) : Piece → List (List Mark) × Field
  | .quotes => ([], { f with quotes := true, afterBlank := false })
  | .gap => (f.close, {})
  | .char m given =>
    if given && separators.contains m.char then
      if m.char == ' ' || m.char == '\t' || m.char == '\n' then
        match f.close with
        | [] => ([], f)
        | closed => (closed, { afterBlank := true })
      else if f.afterBlank then
        ([], {})
      else
        ([f.marks.reverse], {})
    else
      ([], { f with marks := m :: f.marks, afterBlank := false })

end Field

def fields (separators : List Char) (pieces : List Piece) : List (List Mark) :=
  let (done, last) := pieces.foldl (fun (done, f) piece =>
    let (closed, f) := f.add separators piece
    (closed.reverse ++ done, f)) (([], {}) : List (List Mark) × Field)
  done.reverse ++ last.close

/-! The fields of a line that is read into variables. -/

def isBlankSeparator (separators : List Char) (m : Mark) : Bool :=
  !m.quoted && separators.contains m.char && (m.char == ' ' || m.char == '\t' || m.char == '\n')

def dropSeparator (separators : List Char) (line : List Mark) : List Mark :=
  let line := line.dropWhile (isBlankSeparator separators)
  match line with
  | m :: rest =>
    if !m.quoted && separators.contains m.char then
      rest.dropWhile (isBlankSeparator separators)
    else
      line
  | [] => []

def splitLine (separators : List Char) : Nat → List Mark → List String
  | 0, _ => []
  | 1, line =>
    let isSeparator := fun m : Mark => !m.quoted && separators.contains m.char
    let field := line.takeWhile (!isSeparator ·)
    let behind := dropSeparator separators (line.drop field.length)
    if behind.isEmpty then
      [marksText field]
    else
      [marksText (line.reverse.dropWhile (isBlankSeparator separators)).reverse]
  | n + 2, line =>
    let isSeparator := fun m : Mark => !m.quoted && separators.contains m.char
    let field := line.takeWhile (!isSeparator ·)
    marksText field
      :: splitLine separators (n + 1) (dropSeparator separators (line.drop field.length))

def lineMarks (raw : Bool) : List Char → List Mark × Bool
  | [] => ([], false)
  | ['\\'] => if raw then ([⟨'\\', false⟩], false) else ([], true)
  | '\\' :: c :: rest =>
    if raw then
      let (marks, more) := lineMarks raw (c :: rest)
      (⟨'\\', false⟩ :: marks, more)
    else
      let (marks, more) := lineMarks raw rest
      (⟨c, true⟩ :: marks, more)
  | c :: rest =>
    let (marks, more) := lineMarks raw rest
    (⟨c, false⟩ :: marks, more)

end DeprecatedUse.Program.Shell
