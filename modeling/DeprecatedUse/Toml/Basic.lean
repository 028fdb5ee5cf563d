/-!
This module contains TOML values. What kind of value stands in a document matters, so numbers and
times that are not whole numbers are kept as they are written.
-/

namespace DeprecatedUse.Toml

inductive Value where
  | string (value : String)
  | integer (value : Int)
  | float (lexeme : String)
  | boolean (value : Bool)
  | dateTime (lexeme : String)
  | array (items : List Value)
  | table (fields : List (String × Value))
deriving Repr, Inhabited

namespace Value

/--
The values of a record's fields: of a table those with the given names, of an array its items in the
order of the names. A day or a time of day is a record too, one that has none of the named fields.
-/
def record? (names : List String) : Value → Option (List (Option Value))
  | .table fields => some (names.map fun name => fields.lookup name)
  | .array items => some (names.zipIdx.map fun (_, i) => items[i]?)
  | .dateTime _ => some (names.map fun _ => none)
  | _ => none

def string? : Value → Option String
  | .string s => some s
  | _ => none

def boolean? : Value → Option Bool
  | .boolean b => some b
  | _ => none

def list? {α : Type} (item? : Value → Option α) : Value → Option (List α)
  | .array items => items.mapM item?
  | _ => none

def choice? : Value → Option String
  | .string s => some s
  | .table [(name, .table [])] => some name
  | .table [(name, .array [])] => some name
  | _ => none

end Value

end DeprecatedUse.Toml
