import DeprecatedUse.Text.Composed
import DeprecatedUse.Text.Mark
import DeprecatedUse.Uri.Domain.Direction
import DeprecatedUse.Uri.Domain.Joining
import DeprecatedUse.Uri.Domain.Mapping
import DeprecatedUse.Uri.Domain.Punycode

/-!
This module contains the names of hosts in the characters of ASCII. A name may be spelled with any
letters; the same name always comes out the same.
-/

namespace DeprecatedUse.Uri.Domain

def mark : List Char := ['x', 'n', '-', '-']

def isProper (c : Char) : Bool :=
  !isRefused c && (replacement? c).isNone

/--
Is a label one that a name may have? It is composed, has proper characters only, and does not start
with a mark.
-/
def isLabel (label : List Char) : Bool :=
  Text.composed label == label
    && !label.head?.any Text.isMark
    && label.all isProper
    && joinControlsFit [] label

/--
The label that another one stands for in ASCII. There has to be a character beyond ASCII in it.
-/
def unmarked? (label : List Char) : Option (List Char) := do
  let text ← Punycode.decode? label
  if text.all (·.toNat < 128) || mark.isPrefixOf text then
    none
  return text

def meaning? (label : List Char) : Option (List Char) := do
  let text ← match mark.isPrefixOf? label with
    | none => some label
    | some rest => if label.all (·.toNat < 128) then unmarked? rest else none
  if isLabel text then some text else none

def asciiLabel (label : List Char) : List Char :=
  if label.all (·.toNat < 128) then label else mark ++ Punycode.encode label

def plainSpelling (name : List Char) : List Char :=
  Text.composed (name.flatMap fun c => (replacement? c).getD [c])

def toAscii? (name : List Char) : Option (List Char) := do
  let labels := Text.splitOn '.' (plainSpelling name)
  let meanings ← labels.mapM meaning?
  if meanings.any runsRightToLeft && !meanings.all keepsDirection then
    none
  return Text.join ['.'] (labels.map asciiLabel)

end DeprecatedUse.Uri.Domain
