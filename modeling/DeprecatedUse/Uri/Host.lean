import DeprecatedUse.Text.Lines
import DeprecatedUse.Uri.Domain
import DeprecatedUse.Uri.Percent

/-!
This module contains the hosts of URIs: names, and addresses of four or of sixteen bytes. Addresses
are written in one way only, and names in the characters of ASCII.
-/

namespace DeprecatedUse.Uri

def number? (base : Nat) (ds : List Char) : Option Nat :=
  ds.foldlM (fun n d => do
    let v ← Text.hexValue? d
    if v < base then some (n * base + v) else none) 0

def addressPart? : List Char → Option Nat
  | [] => none
  | '0' :: 'x' :: ds => number? 16 ds
  | '0' :: 'X' :: ds => number? 16 ds
  | '0' :: d :: ds => number? 8 (d :: ds)
  | ds => number? 10 ds

def labels (cs : List Char) : List (List Char) :=
  let parts := Text.splitOn '.' cs
  if parts.getLast? = some [] then parts.dropLast else parts

def endsInNumber (cs : List Char) : Bool :=
  match (labels cs).getLast? with
  | none => false
  | some label => (label != [] && label.all Char.isDigit) || (addressPart? label).isSome

def fourBytes? (cs : List Char) : Option Nat := do
  let parts ← (labels cs).mapM addressPart?
  let last ← parts.getLast?
  let first := parts.dropLast
  let room := Nat.pow 256 (4 - first.length)
  if 3 < first.length || first.any (255 < ·) || room ≤ last then
    none
  return first.foldl (fun n part => n * 256 + part) 0 * room + last

def renderFourBytes (n : Nat) : List Char :=
  (".".intercalate ([16777216, 65536, 256, 1].map fun unit => toString (n / unit % 256))).toList

def byte? (ds : List Char) : Option Nat := do
  if ds = [] ∨ (ds.head? = some '0' ∧ 1 < ds.length) then
    none
  let n ← number? 10 ds
  if 255 < n then none else some n

def bytePieces? (cs : List Char) : Option (List Nat) := do
  match ← (Text.splitOn '.' cs).mapM byte? with
  | [a, b, c, d] => return [a * 256 + b, c * 256 + d]
  | _ => none

/--
The pieces of two bytes on one side of a gap. The last may be an address of four bytes.
-/
def pieces? (cs : List Char) : Option (List Nat) :=
  if cs = [] then
    some []
  else
    let parts := Text.splitOn ':' cs
    let piece? := fun part : List Char =>
      if part = [] ∨ 4 < part.length then none else number? 16 part
    match parts.getLast? with
    | some last =>
      if last.contains '.' then do
        return (← parts.dropLast.mapM piece?) ++ (← bytePieces? last)
      else
        parts.mapM piece?
    | none => none

def splitGap? : List Char → Option (List Char × List Char)
  | [] => none
  | ':' :: ':' :: rest => some ([], rest)
  | c :: rest => (splitGap? rest).map fun (a, b) => (c :: a, b)

def sixteenBytes? (cs : List Char) : Option (List Nat) := do
  match splitGap? cs with
  | none =>
    let ps ← pieces? cs
    if ps.length = 8 then some ps else none
  | some (a, b) =>
    let xs ← pieces? a
    let ys ← pieces? b
    if 7 < xs.length + ys.length then
      none
    return xs ++ List.replicate (8 - xs.length - ys.length) 0 ++ ys

def zeroRuns : List Nat → List Nat
  | [] => []
  | n :: rest =>
    let runs := zeroRuns rest
    (if n = 0 then runs.head?.getD 0 + 1 else 0) :: runs

def renderPieces (ps : List Nat) : List Char :=
  Text.join [':'] (ps.map fun p => Nat.toDigits 16 p)

def renderSixteenBytes (ps : List Nat) : List Char :=
  let runs := zeroRuns ps
  let longest := runs.foldl max 0
  if longest < 2 then
    renderPieces ps
  else
    let start := runs.findIdx (· == longest)
    renderPieces (ps.take start) ++ [':', ':'] ++ renderPieces (ps.drop (start + longest))

def bracketHost? (cs : List Char) : Option (List Char) := do
  if cs.getLast? ≠ some ']' then
    none
  return ['['] ++ renderSixteenBytes (← sixteenBytes? cs.dropLast) ++ [']']

def isForbidden (c : Char) : Bool :=
  ['\x00', '\t', '\n', '\r', ' ', '#', '/', ':', '<', '>', '?', '@', '[', '\\', ']', '^',
    '|'].contains
    c

def netHost? : List Char → Option (List Char)
  | '[' :: rest => bracketHost? rest
  | cs => do
    let spelling ← Text.Utf8.decode? (decode cs)
    let name ← Domain.toAscii? spelling.toList
    if name = [] ∨ name.any fun c => isForbidden c || isControl c || c == '%' then
      none
    if endsInNumber name then
      return renderFourBytes (← fourBytes? name)
    return name

def otherHost? : List Char → Option (List Char)
  | '[' :: rest => bracketHost? rest
  | cs => if cs.any isForbidden then none else some (encode isControl cs)

end DeprecatedUse.Uri
