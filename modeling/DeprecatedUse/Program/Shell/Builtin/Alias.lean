import DeprecatedUse.Program.Shell.Builtin.Variable

/-!
This module contains the commands for words that stand for other texts, and for the programs that
have been found by their names.
-/

namespace DeprecatedUse.Program.Shell

open Run

/-! Words that stand for other texts. -/

def row (rows : Nat) (name : String) : Nat :=
  let codes := (bytesOf name).map UInt8.toNat
  (codes.head?.getD 0 * 16 + codes.foldl (· + ·) 0) % rows

def setAliases (words : List String) : Run Nat := do
  if words.isEmpty then
    let known := (← get).aliases.entries
    (known.mergeSort fun a b => row 39 a.1 ≤ row 39 b.1).forM fun (name, text) =>
      writeText 1 (aliasText name text ++ "\n")
    return 0
  words.foldlM (fun status word => do
    match splitAssignment word with
    | (name, some text) =>
      if name = "" then
        writeText 2 ("alias: " ++ word ++ " not found\n")
        return 1
      modify fun s => { s with aliases := s.aliases.insert name text }
      return status
    | (name, none) =>
      match (← get).aliases.find? name with
      | some text =>
        writeText 1 (aliasText name text ++ "\n")
        return status
      | none =>
        writeText 2 ("alias: " ++ name ++ " not found\n")
        return 1) 0

def dropAliases (arguments : List String) : Run Nat := do
  match arguments.head?.map String.toList with
  | some ('-' :: 'a' :: _) =>
    modify fun s => { s with aliases := ∅ }
    return 0
  | _ =>
    let words ← withoutOptions arguments
    words.foldlM (fun status name => do
      if (← get).aliases.contains name then
        modify fun s => { s with aliases := s.aliases.erase name }
        return status
      else
        writeText 2 ("unalias: " ++ name ++ " not found\n")
        return 1) 0

/-! Programs that have been found, and programs in the background. -/

def hashNames (arguments : List String) : Run Nat := do
  let (options, words) ← readOptions ['r'] arguments
  if !options.isEmpty then
    modify fun s => { s with known := [] }
    return 0
  if words.isEmpty then
    let known := (← get).known.mergeSort fun a b => row 31 a ≤ row 31 b
    known.forM fun name => do
      match ← lookFor name with
      | .program path _ => writeText 1 (path ++ "\n")
      | _ => pure ()
    return 0
  words.foldlM (fun status name => do
    match ← meaning name with
    | .none =>
      complain (name ++ ": not found")
      return 1
    | .program _ =>
      remember name
      return status
    | _ => return status) 0

end DeprecatedUse.Program.Shell
