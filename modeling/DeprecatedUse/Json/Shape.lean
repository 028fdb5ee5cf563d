import DeprecatedUse.Json.Basic

/-!
This module contains shapes of JSON values: what a value has to look like where nothing else is
known about it.
-/

namespace DeprecatedUse.Json

inductive Shape where
  | anything
  | flag
  | number (low high : Int)
  | text
  | choice (words : List String)
  | list (item : Shape)
  | nullable (shape : Shape)
  | oneOf (shapes : List Shape)
  | object (shape : Shape)
  /-- The fields of a record by name, each with its shape; other fields do not matter. -/
  | record (names : List String) (shapes : List Shape)
deriving Inhabited

namespace Shape

def ofFields (fields : List (String × Shape)) : Shape :=
  .record (fields.map Prod.fst) (fields.map Prod.snd)

mutual

/--
Does a value have a shape? A record is an object, or an array with one item for each field. A field
that is missing in an object counts as null.
-/
def fits : Shape → Json → Bool
  | .anything, _ => true
  | .flag, json => json.bool?.isSome
  | .number low high, json =>
    match json with
    | .int n => decide (low ≤ n) && decide (n ≤ high)
    | _ => false
  | .text, json => json.str?.isSome
  | .choice words, json => json.choice?.any words.contains
  | .list item, json =>
    match json with
    | .arr items => items.all fun json => fits item json
    | _ => false
  | .nullable shape, json =>
    match json with
    | .null => true
    | json => fits shape json
  | .oneOf shapes, json => fitsAny shapes json
  | .object shape, json =>
    match json with
    | .obj fields => fits shape (.obj fields)
    | _ => false
  | .record names shapes, json =>
    match json with
    | .obj fields => fitsEach shapes (names.map fun name => (lookup? fields name).getD .null)
    | .arr items => fitsEach shapes items
    | _ => false

def fitsAny : List Shape → Json → Bool
  | [], _ => false
  | shape :: rest, json => fits shape json || fitsAny rest json

def fitsEach : List Shape → List Json → Bool
  | [], [] => true
  | shape :: rest, json :: values => fits shape json && fitsEach rest values
  | _, _ => false

end

end Shape

end DeprecatedUse.Json
