/-!
This module contains JSON values. An object keeps its fields in the order in which they were
written, repeated names included; `Json.canonical` orders them and keeps the last of each name.
-/

namespace DeprecatedUse

/--
A JSON value. A number that is not written as a whole number is kept as it is written.
-/
inductive Json where
  | null
  | bool (value : Bool)
  | int (value : Int)
  | real (lexeme : String)
  | str (value : String)
  | arr (items : List Json)
  | obj (fields : List (String × Json))
deriving Repr, Inhabited

namespace Json

def lookup? (fields : List (String × Json)) (name : String) : Option Json :=
  (fields.reverse.find? (·.1 == name)).map (·.2)

def field? (name : String) : Json → Option Json
  | .obj fields => lookup? fields name
  | _ => none

/--
The values of a record's fields: of an object those with the given names, of an array its items in
the order of the names. An array may be too short, but not too long.
-/
def record? (names : List String) : Json → Option (List (Option Json))
  | .obj fields => some (names.map (lookup? fields))
  | .arr items =>
    if items.length ≤ names.length then
      some (names.zipIdx.map fun (_, i) => items[i]?)
    else
      none
  | _ => none

def fullRecord? (names : List String) : Json → Option (List (Option Json))
  | .arr items => if items.length = names.length then some (items.map some) else none
  | json => json.record? names

def repeats (names : List String) : Json → Bool
  | .obj fields => names.any fun name => 1 < (fields.filter (·.1 == name)).length
  | _ => false

def bool? : Json → Option Bool
  | .bool b => some b
  | _ => none

def str? : Json → Option String
  | .str s => some s
  | _ => none

def nat? (bound : Nat) : Json → Option Nat
  | .int n => if 0 ≤ n ∧ n < bound then some n.toNat else none
  | _ => none

def list? {α : Type} (item? : Json → Option α) : Json → Option (List α)
  | .arr items => items.mapM item?
  | _ => none

def option? {α : Type} (value? : Json → Option α) : Json → Option (Option α)
  | .null => some none
  | json => (value? json).map some

def choice? : Json → Option String
  | .str s => some s
  | .obj [(s, .null)] => some s
  | _ => none

def strings (texts : List String) : Json :=
  .arr (texts.map .str)

def nat (n : Nat) : Json :=
  .int n

def ofOption {α : Type} (encode : α → Json) : Option α → Json
  | none => .null
  | some a => encode a

def optionalField {α : Type} (name : String) (encode : α → Json) :
    Option α → List (String × Json)
  | none => []
  | some a => [(name, encode a)]

def insertField (name : String) (value : Json) : List (String × Json) → List (String × Json)
  | [] => [(name, value)]
  | (n, v) :: rest =>
    if name < n then (name, value) :: (n, v) :: rest
    else if n = name then (name, value) :: rest
    else (n, v) :: insertField name value rest

mutual

def canonical : Json → Json
  | .arr items => .arr (canonicalItems items)
  | .obj fields => .obj (canonicalFields fields [])
  | json => json

def canonicalItems : List Json → List Json
  | [] => []
  | item :: rest => canonical item :: canonicalItems rest

def canonicalFields : List (String × Json) → List (String × Json) → List (String × Json)
  | [], done => done
  | (name, value) :: rest, done => canonicalFields rest (insertField name (canonical value) done)

end

end Json

end DeprecatedUse
