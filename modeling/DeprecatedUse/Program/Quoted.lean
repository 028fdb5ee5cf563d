import DeprecatedUse.Program.Basic

/-!
This module contains the way in which programs write the name of a file in a message: as one would
write it in a script, with quotes only if they are needed.
-/

namespace DeprecatedUse.Program.Quoted

def isPlain (c : Char) : Bool :=
  c.isAlphanum || "%+,-./:@]_".toList.contains c

def needsQuotes (c : Char) : Bool :=
  " !\"$&'()*;<=>?[\\^\x60|:".toList.contains c || c < ' ' || '~' < c

def isSpecial : List Char → Bool
  | [] => true
  | ['\x7b'] | ['\x7d'] => true
  | c :: rest => c == '#' || c == '~' || (c :: rest).any needsQuotes

def escape (b : UInt8) : List Char :=
  match b.toNat with
  | 7 => ['\\', 'a']
  | 8 => ['\\', 'b']
  | 9 => ['\\', 't']
  | 10 => ['\\', 'n']
  | 11 => ['\\', 'v']
  | 12 => ['\\', 'f']
  | 13 => ['\\', 'r']
  | n =>
    let digits := Nat.toDigits 8 n
    '\\' :: (List.replicate (3 - digits.length) '0' ++ digits)

def isHidden (b : UInt8) : Bool :=
  b < 32 || 126 < b

def body (escaping : Bool) : List UInt8 → List Char
  | [] => []
  | b :: rest =>
    if isHidden b then
      (if escaping then [] else ['\'', '$', '\'']) ++ escape b ++ body true rest
    else if b = 39 then
      ['\'', '\\', '\'', '\''] ++ body false rest
    else
      (if escaping then ['\'', '\''] else []) ++ Char.ofNat b.toNat :: body false rest

def withoutMark : List Char → List Char
  | '#' :: rest | '~' :: rest => rest
  | cs => cs

/--
The name of a file in a message. Double quotes are taken if there are single ones in the name and
nothing else that double quotes would not hide. A name with a single quote and with a byte at its
end that cannot be seen starts like one behind such a byte.
-/
def name (text : String) : String :=
  let cs := text.toList
  if !isSpecial cs then
    text
  else if cs.contains '\'' && (withoutMark cs).all fun c => isPlain c || c == ' ' || c == '\'' then
    "\"" ++ text ++ "\""
  else
    let bytes := bytesOf text
    let escaping := cs.contains '\'' && bytes.getLast?.any isHidden
    "'" ++ String.ofList (body escaping bytes) ++ "'"

end DeprecatedUse.Program.Quoted
