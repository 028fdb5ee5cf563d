import DeprecatedUse.Json.Basic
import DeprecatedUse.Text.Character

/-!
This module contains the reading of JSON texts. The reader is strict: no comments, no trailing
commas, no control characters in strings, no half of a surrogate pair, and nothing but blanks around
the value. A record's reader (`parseRecord?`) is strict about the fields it wants; what stands in
the others only has to have the form of a value.
-/

namespace DeprecatedUse.Json

def skipBlanks (cs : List Char) : List Char :=
  cs.dropWhile fun c => c == ' ' || c == '\n' || c == '\r' || c == '\t'

def hexUnit? : List Char → Option (Nat × List Char)
  | a :: b :: c :: d :: rest => do
    let a ← Text.hexValue? a
    let b ← Text.hexValue? b
    let c ← Text.hexValue? c
    let d ← Text.hexValue? d
    return (((a * 16 + b) * 16 + c) * 16 + d, rest)
  | _ => none

/--
How strings are read: as text, where the halves of a surrogate pair stand together, or only for
their form, where any four hexadecimal digits make an escape.
-/
inductive Strictness where
  | text
  | form
deriving DecidableEq, Repr, Inhabited

def escapedUnits? (cs : List Char) : Option (Char × List Char) := do
  let (high, rest) ← hexUnit? cs
  if 0xD800 ≤ high ∧ high < 0xDC00 then
    match rest with
    | '\\' :: 'u' :: rest =>
      let (low, rest) ← hexUnit? rest
      if 0xDC00 ≤ low ∧ low < 0xE000 then
        return (Char.ofNat (0x10000 + (high - 0xD800) * 0x400 + (low - 0xDC00)), rest)
      else
        none
    | _ => none
  else if 0xDC00 ≤ high ∧ high < 0xE000 then
    none
  else
    return (Char.ofNat high, rest)

def escapedForm? (cs : List Char) : Option (Char × List Char) :=
  (hexUnit? cs).map fun (unit, rest) => (Char.ofNat unit, rest)

def escaped? (strictness : Strictness) : List Char → Option (Char × List Char)
  | '"' :: rest => some ('"', rest)
  | '\\' :: rest => some ('\\', rest)
  | '/' :: rest => some ('/', rest)
  | 'b' :: rest => some ('\x08', rest)
  | 'f' :: rest => some ('\x0c', rest)
  | 'n' :: rest => some ('\n', rest)
  | 'r' :: rest => some ('\r', rest)
  | 't' :: rest => some ('\t', rest)
  | 'u' :: rest =>
    match strictness with
    | .text => escapedUnits? rest
    | .form => escapedForm? rest
  | _ => none

def stringBody? (strictness : Strictness) :
    Nat → List Char → List Char → Option (String × List Char)
  | 0, _, _ => none
  | fuel + 1, done, cs =>
    match cs with
    | [] => none
    | '"' :: rest => some (String.ofList done.reverse, rest)
    | '\\' :: rest => do
      let (c, rest) ← escaped? strictness rest
      stringBody? strictness fuel (c :: done) rest
    | c :: rest =>
      if c.toNat < 0x20 then none else stringBody? strictness fuel (c :: done) rest

def string? (strictness : Strictness) : List Char → Option (String × List Char)
  | '"' :: rest => stringBody? strictness (rest.length + 1) [] rest
  | _ => none

def digits? (cs : List Char) : Option (List Char × List Char) :=
  match cs.takeWhile Char.isDigit with
  | [] => none
  | ds => some (ds, cs.dropWhile Char.isDigit)

def wholeDigits? : List Char → Option (List Char × List Char)
  | '0' :: rest => if (digits? rest).isSome then none else some (['0'], rest)
  | cs => digits? cs

def fraction? : List Char → Option (List Char × List Char)
  | '.' :: rest => (digits? rest).map fun (ds, rest) => ('.' :: ds, rest)
  | cs => some ([], cs)

def exponent? : List Char → Option (List Char × List Char)
  | e :: rest =>
    if e = 'e' ∨ e = 'E' then
      match rest with
      | '+' :: rest => (digits? rest).map fun (ds, rest) => (e :: '+' :: ds, rest)
      | '-' :: rest => (digits? rest).map fun (ds, rest) => (e :: '-' :: ds, rest)
      | rest => (digits? rest).map fun (ds, rest) => (e :: ds, rest)
    else
      some ([], e :: rest)
  | [] => some ([], [])

def natOfDigits (ds : List Char) : Nat :=
  ds.foldl (fun n d => n * 10 + (d.toNat - 48)) 0

def number? (cs : List Char) : Option (Json × List Char) := do
  let negative := cs.head? == some '-'
  let (whole, rest) ← wholeDigits? (if negative then cs.tail else cs)
  let (fraction, rest) ← fraction? rest
  let (exponent, rest) ← exponent? rest
  let n := natOfDigits whole
  if fraction.isEmpty && exponent.isEmpty && !(negative && n == 0) then
    return (.int (if negative then -n else n), rest)
  else
    let sign := if negative then ['-'] else []
    return (.real (String.ofList (sign ++ whole ++ fraction ++ exponent)), rest)

def word? (word : String) (value : Json) (cs : List Char) : Option (Json × List Char) :=
  (word.toList.isPrefixOf? cs).map (value, ·)

mutual

/--
A value, with blanks allowed before it. Each call for a value, an item or a field uses one unit of
fuel.
-/
def value? (strictness : Strictness) : Nat → List Char → Option (Json × List Char)
  | 0, _ => none
  | fuel + 1, cs =>
    match skipBlanks cs with
    | 'n' :: rest => word? "ull" .null rest
    | 't' :: rest => word? "rue" (.bool true) rest
    | 'f' :: rest => word? "alse" (.bool false) rest
    | '"' :: rest => (string? strictness ('"' :: rest)).map fun (s, rest) => (.str s, rest)
    | '[' :: rest =>
      match skipBlanks rest with
      | ']' :: rest => some (.arr [], rest)
      | rest => items? strictness fuel [] rest
    | '\x7b' :: rest =>
      match skipBlanks rest with
      | '\x7d' :: rest => some (.obj [], rest)
      | rest => fields? strictness fuel [] rest
    | rest => number? rest

def items? (strictness : Strictness) : Nat → List Json → List Char → Option (Json × List Char)
  | 0, _, _ => none
  | fuel + 1, done, cs =>
    match value? strictness fuel cs with
    | none => none
    | some (item, rest) =>
      match skipBlanks rest with
      | ',' :: rest => items? strictness fuel (item :: done) rest
      | ']' :: rest => some (.arr (item :: done).reverse, rest)
      | _ => none

def fields? (strictness : Strictness) :
    Nat → List (String × Json) → List Char → Option (Json × List Char)
  | 0, _, _ => none
  | fuel + 1, done, cs =>
    match string? strictness (skipBlanks cs) with
    | none => none
    | some (name, rest) =>
      match skipBlanks rest with
      | ':' :: rest =>
        match value? strictness fuel rest with
        | none => none
        | some (value, rest) =>
          match skipBlanks rest with
          | ',' :: rest => fields? strictness fuel ((name, value) :: done) rest
          | '\x7d' :: rest => some (.obj ((name, value) :: done).reverse, rest)
          | _ => none
      | _ => none

end

/--
The fields of a record from a field on: those with one of the given names; `done` holds the ones so
far, last first. Names are texts, and so are the values that are kept.
-/
def namedFields? (names : List String) :
    Nat → List (String × Json) → List Char → Option (Json × List Char)
  | 0, _, _ => none
  | fuel + 1, done, cs =>
    match string? .text (skipBlanks cs) with
    | none => none
    | some (name, rest) =>
      match skipBlanks rest with
      | ':' :: rest =>
        let wanted := names.contains name
        match value? (if wanted then .text else .form) fuel rest with
        | none => none
        | some (value, rest) =>
          let done := if wanted then (name, value) :: done else done
          match skipBlanks rest with
          | ',' :: rest => namedFields? names fuel done rest
          | '\x7d' :: rest => some (.obj done.reverse, rest)
          | _ => none
      | _ => none

def complete? : Option (Json × List Char) → Option Json
  | some (json, rest) => if (skipBlanks rest).isEmpty then some json else none
  | none => none

def parse? (text : String) : Option Json :=
  let cs := text.toList
  complete? (value? .text (2 * cs.length + 1) cs)

/--
Read a JSON text for the fields with the given names; an object's other fields are passed over.
-/
def parseRecord? (names : List String) (text : String) : Option Json :=
  let cs := text.toList
  match skipBlanks cs with
  | '\x7b' :: rest =>
    match skipBlanks rest with
    | '\x7d' :: rest => complete? (some (.obj [], rest))
    | rest => complete? (namedFields? names (2 * cs.length + 1) [] rest)
  | _ => parse? text

end DeprecatedUse.Json
