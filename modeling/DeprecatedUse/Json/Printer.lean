import DeprecatedUse.Json.Basic

/-!
This module contains the two written forms of a JSON value: on one line without blanks, and with a
line for each item and field, indented by two blanks for each level.
-/

namespace DeprecatedUse.Json

def hexDigit (n : Nat) : Char :=
  if n < 10 then Char.ofNat (n + 48) else Char.ofNat (n + 87)

def escape (c : Char) : List Char :=
  match c with
  | '"' => ['\\', '"']
  | '\\' => ['\\', '\\']
  | '\n' => ['\\', 'n']
  | '\r' => ['\\', 'r']
  | '\t' => ['\\', 't']
  | '\x08' => ['\\', 'b']
  | '\x0c' => ['\\', 'f']
  | c =>
    if c.toNat < 0x20 then
      ['\\', 'u', '0', '0', hexDigit (c.toNat / 16), hexDigit (c.toNat % 16)]
    else
      [c]

def quote (s : String) : String :=
  "\"" ++ String.ofList (s.toList.flatMap escape) ++ "\""

def atom : Json → String
  | .null => "null"
  | .bool b => if b then "true" else "false"
  | .int n => toString n
  | .real lexeme => lexeme
  | .str s => quote s
  | .arr _ => "[]"
  | .obj _ => "\x7b\x7d"

mutual

def compact : Json → String
  | .arr items => "[" ++ ",".intercalate (compactItems items) ++ "]"
  | .obj fields => "\x7b" ++ ",".intercalate (compactFields fields) ++ "\x7d"
  | json => json.atom

def compactItems : List Json → List String
  | [] => []
  | item :: rest => compact item :: compactItems rest

def compactFields : List (String × Json) → List String
  | [] => []
  | (name, value) :: rest => (quote name ++ ":" ++ compact value) :: compactFields rest

end

def newLine (level : Nat) : String :=
  "\n" ++ String.ofList (List.replicate (2 * level) ' ')

/--
Parts of a value, each on a line of its own between an opening and a closing mark. If there are
none, the marks stand side by side.
-/
def block (level : Nat) (start stop : String) (parts : List String) : String :=
  if parts = [] then
    start ++ stop
  else
    start ++ newLine (level + 1) ++ ("," ++ newLine (level + 1)).intercalate parts ++ newLine level
      ++ stop

mutual

def prettyAt (level : Nat) : Json → String
  | .arr items => block level "[" "]" (prettyItems level items)
  | .obj fields => block level "\x7b" "\x7d" (prettyFields level fields)
  | json => json.atom

def prettyItems (level : Nat) : List Json → List String
  | [] => []
  | item :: rest => prettyAt (level + 1) item :: prettyItems level rest

def prettyFields (level : Nat) : List (String × Json) → List String
  | [] => []
  | (name, value) :: rest =>
    (quote name ++ ": " ++ prettyAt (level + 1) value) :: prettyFields level rest

end

def pretty (json : Json) : String :=
  prettyAt 0 json

end DeprecatedUse.Json
