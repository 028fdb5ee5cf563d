import DeprecatedUse.Text.Character
import DeprecatedUse.Text.Lines

/-!
This module contains the reading of tables of code points that are written as lines of text.
Entries are separated by blanks, and code points are hexadecimal numbers.
-/

namespace DeprecatedUse.Text

def entriesOf (lines : List String) : List (List Char) :=
  lines.flatMap fun line => splitOn ' ' line.toList

def Ranges.ofLines (lines : List String) : Ranges :=
  (entriesOf lines).map fun entry =>
    match splitFirst? '-' entry with
    | none => (hexNumber entry, hexNumber entry)
    | some (first, last) => (hexNumber first, hexNumber last)

def codePointsOfText (cs : List Char) : List Nat :=
  (splitOn ',' cs).map hexNumber

def rowsOfLines (lines : List String) : List (Nat × List Nat) :=
  (entriesOf lines).filterMap fun entry =>
    (splitFirst? ':' entry).map fun (code, meaning) => (hexNumber code, codePointsOfText meaning)

end DeprecatedUse.Text
