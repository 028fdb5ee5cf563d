import DeprecatedUse.Program.Shell.Builtin.Basic

/-!
This module contains the commands that list, declare, forget and read variables.
-/

namespace DeprecatedUse.Program.Shell

open Run

/-! Variables. -/

def listVariables (word : String) (wanted : Variable → Bool) : Run Nat := do
  let known := (← get).bindings.entries.filter fun e => wanted e.2
  let known := known.mergeSort fun a b => decide (a.1 ≤ b.1)
  known.forM fun (name, v) =>
    let value := match v.value with
      | none => ""
      | some text => "=" ++ quoteText text
    writeText 1 (word ++ name ++ value ++ "\n")
  return 0

def splitAssignment (word : String) : String × Option String :=
  let name := word.toList.takeWhile (· != '=')
  match word.toList.drop name.length with
  | [] => (word, none)
  | _ :: value => (String.ofList name, some (String.ofList value))

def declare (f : Variable → Variable) (words : List String) : Run Nat := do
  words.forM fun word => do
    let (name, value) := splitAssignment word
    if !isName name.toList then
      failed (name ++ ": bad variable name")
    match value with
    | some text => assign name text
    | none => pure ()
    change name f
  return 0

def declareKind (word : String) (kind : Variable → Bool) (f : Variable → Variable)
    (arguments : List String) : Run Nat := do
  let (options, words) ← readOptions ['p'] arguments
  if words.isEmpty || !options.isEmpty then
    listVariables (word ++ " ") kind
  else
    declare f words

def exportNames (arguments : List String) : Run Nat :=
  declareKind "export" Variable.exported (fun v => { v with exported := true }) arguments

def protectNames (arguments : List String) : Run Nat :=
  declareKind "readonly" Variable.readOnly (fun v => { v with readOnly := true }) arguments

def declareLocal (words : List String) : Run Nat := do
  match (← get).locals with
  | [] => failed "not in a function"
  | frame :: frames =>
    let (dashes, words) := words.partition (· == "-")
    let names := (words.map fun word => (splitAssignment word).1).filter fun name =>
      (frame.bindings.lookup name).isNone
    modify fun s =>
      let before := names.map fun name => (name, s.bindings.find? name)
      let switches := if dashes.isEmpty then frame.switches else frame.switches <|> some s.switches
      { s with locals := ⟨before ++ frame.bindings, switches⟩ :: frames }
    declare id words

def unsetNames (arguments : List String) : Run Nat := do
  let (options, names) ← readOptions ['f', 'v'] arguments
  names.forM fun name => do
    if options.getLast? == some 'f' then
      modify fun s => { s with functions := s.functions.erase name }
    else if !isName name.toList then
      failed (name ++ ": bad variable name")
    else if (((← get).bindings.find? name).getD {}).readOnly then
      failed (name ++ ": is read only")
    else
      noticeChange name ""
      modify fun s => { s with bindings := s.bindings.erase name }
  return 0

/-! Reading. -/

def readMarks (raw : Bool) : Nat → Run (List Mark × Bool)
  | 0 => return ([], false)
  | n + 1 => do
    let bytes ← takeLine 0
    let ended := bytes.getLast? == some 10
    let text := textOf (if ended then bytes.dropLast else bytes)
    let (marks, more) := lineMarks raw text.toList
    if more && ended then
      let (rest, ended) ← readMarks raw n
      return (marks ++ rest, ended)
    else
      return (marks, ended)

def readerLetters (raw : Bool) : List Char → Run (Bool × Bool)
  | [] => return (raw, false)
  | 'r' :: letters => readerLetters true letters
  | 'p' :: letters => return (raw, letters.isEmpty)
  | c :: _ => failed ("Illegal option -" ++ c.toString)

def readerOptions (raw : Bool) : List String → Run (Bool × List String)
  | [] => return (raw, [])
  | word :: rest => do
    match word.toList with
    | ['-', '-'] => return (raw, rest)
    | '-' :: c :: letters =>
      let (raw, prompts) ← readerLetters raw (c :: letters)
      match prompts, rest with
      | false, rest => readerOptions raw rest
      | true, [] => failed "No arg for -p option"
      | true, _ :: rest => readerOptions raw rest
    | _ => return (raw, word :: rest)

def readNames (arguments : List String) : Run Nat := do
  let (raw, names) ← readerOptions false arguments
  match names.find? fun name => !isName name.toList with
  | some name => failed (name ++ ": bad variable name")
  | none =>
    if names.isEmpty then
      failed "arg count"
    let (marks, ended) ← readMarks raw 1000
    let ifs ← separators
    let texts := splitLine ifs names.length (marks.dropWhile (isBlankSeparator ifs))
    (names.zip texts).forM fun (name, text) => assign name text
    return if ended then 0 else 1

end DeprecatedUse.Program.Shell
