import DeprecatedUse.Text.Character
import DeprecatedUse.Text.Utf8

/-!
This module contains percent encoding: a byte is written as a percent sign and its two hexadecimal
digits. Which characters have to be written so depends on where they stand; those beyond ASCII
always have to.
-/

namespace DeprecatedUse.Uri

def upperDigit (n : Nat) : Char :=
  if n < 10 then Char.ofNat (n + 48) else Char.ofNat (n + 55)

def encodeByte (b : UInt8) : List Char :=
  ['%', upperDigit (b.toNat / 16), upperDigit (b.toNat % 16)]

def encode (must : Char → Bool) (cs : List Char) : List Char :=
  cs.flatMap fun c =>
    if must c || 0x7f < c.toNat then
      (Text.Utf8.encode c.toString).flatMap encodeByte
    else
      [c]

def decode : List Char → List UInt8
  | [] => []
  | '%' :: a :: b :: rest =>
    match Text.hexValue? a, Text.hexValue? b with
    | some x, some y => (x * 16 + y).toUInt8 :: decode rest
    | _, _ => 37 :: decode (a :: b :: rest)
  | c :: rest => Text.Utf8.encode c.toString ++ decode rest

def isControl (c : Char) : Bool :=
  c.toNat < 0x20 || c.toNat == 0x7f

def mustInFragment (c : Char) : Bool :=
  isControl c || [' ', '"', '<', '>', '\x60'].contains c

def mustInPath (c : Char) : Bool :=
  mustInFragment c || ['#', '?', '\x7b', '\x7d'].contains c

/--
The characters that have to be encoded in a name, so that it is one segment of a path and nothing in
it is read as an escape.
-/
def mustInName (c : Char) : Bool :=
  mustInPath c || ['/', '%', '\\'].contains c

def encodeName (name : List UInt8) : List Char :=
  name.flatMap fun b =>
    if 0x7f < b.toNat || mustInName (Char.ofUInt8 b) then encodeByte b else [Char.ofUInt8 b]

def mustInQuery (special : Bool) (c : Char) : Bool :=
  isControl c || [' ', '"', '#', '<', '>'].contains c || (special && c == '\'')

def mustInUser (c : Char) : Bool :=
  mustInPath c || ['/', ':', ';', '=', '@', '[', '\\', ']', '^', '|'].contains c

end DeprecatedUse.Uri
