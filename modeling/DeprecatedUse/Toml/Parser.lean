import DeprecatedUse.Toml.Scanner
import DeprecatedUse.Toml.Tree

/-!
This module contains the reading of TOML documents, version 1.0.
-/

namespace DeprecatedUse.Toml

namespace Parser

open Scanner

/--
The items of an array behind its opening bracket or a comma; `done` holds the items so far, last
first.
-/
def items? (value? : Scan Value) : Nat → List Value → Scan Value
  | 0, _, _ => none
  | fuel + 1, done, cs =>
    match skipLines cs with
    | ']' :: rest => some (.array done.reverse, rest)
    | cs =>
      match value? cs with
      | none => none
      | some (item, rest) =>
        match skipLines rest with
        | ',' :: rest => items? value? fuel (item :: done) rest
        | ']' :: rest => some (.array (item :: done).reverse, rest)
        | _ => none

def pair? (value? : Scan Value) (cs : List Char) :
    Option ((List String × String × Value) × List Char) := do
  let (parts, rest) ← key? cs
  match rest with
  | '=' :: rest =>
    let (value, rest) ← value? (skipBlanks rest)
    return ((parts.dropLast, parts.getLastD "", value), rest)
  | _ => none

def pairs? (value? : Scan Value) : Nat → Tree → Scan Value
  | 0, _, _ => none
  | fuel + 1, t, cs =>
    match pair? value? cs with
    | none => none
    | some ((path, key, value), rest) =>
      match Tree.insert? path key value t with
      | none => none
      | some t =>
        match skipBlanks rest with
        | ',' :: rest => pairs? value? fuel t rest
        | '\x7d' :: rest => some (t.value, rest)
        | _ => none

def value? : Nat → Scan Value
  | 0, '[' :: _ => none
  | 0, '\x7b' :: _ => none
  | 0, cs => scalar? cs
  | depth + 1, cs =>
    match cs with
    | '[' :: rest => items? (value? depth) (rest.length + 1) [] rest
    | '\x7b' :: rest =>
      match skipBlanks rest with
      | '\x7d' :: rest => some (.table [], rest)
      | rest => pairs? (value? depth) (rest.length + 1) {} rest
    | cs => scalar? cs

def headerKey? (closing : List Char) (cs : List Char) : Option (List String × List Char) := do
  let (parts, rest) ← key? cs
  let rest ← closing.isPrefixOf? rest
  return (parts, ← lineEnd? rest)

def document? : Nat → Tree → List String → List Char → Option Tree
  | 0, _, _, _ => none
  | fuel + 1, t, header, cs =>
    match skipBlanks cs with
    | [] => some t
    | '[' :: '[' :: rest => do
      let (parts, rest) ← headerKey? [']', ']'] rest
      document? fuel (← Tree.openItem? parts.dropLast (parts.getLastD "") t) parts rest
    | '[' :: rest => do
      let (parts, rest) ← headerKey? [']'] rest
      document? fuel (← Tree.openTable? parts.dropLast (parts.getLastD "") t) parts rest
    | c :: rest =>
      if c == '#' || c == '\n' || c == '\r' then do
        document? fuel t header (← lineEnd? (c :: rest))
      else do
        let ((path, key, value), rest) ← pair? (value? nestingLimit) (c :: rest)
        let t ← Tree.along? false (Tree.insert? path key value) header t
        document? fuel t header (← lineEnd? rest)

end Parser

def parse? (text : String) : Option Value :=
  let cs := match text.toList with
    | '\ufeff' :: rest => rest
    | cs => cs
  (Parser.document? (cs.length + 1) {} [] cs).map Tree.value

end DeprecatedUse.Toml
