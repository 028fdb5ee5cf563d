import DeprecatedUse.Program.Format
import DeprecatedUse.Program.Shell.Field
import DeprecatedUse.Program.Shell.Reader
import DeprecatedUse.Program.Shell.State
import DeprecatedUse.Program.Shell.Test
import DeprecatedUse.Program.Standard

/-!
This module contains the names of the commands of the shell itself, and those commands that write,
test and move to another folder. Each command takes its arguments and returns its status.
-/

namespace DeprecatedUse.Program.Shell

open Run

/-! Options and texts. -/

def readOptions (known : List Char) : List String → Run (List Char × List String)
  | [] => return ([], [])
  | word :: rest => do
    match word.toList with
    | ['-', '-'] => return ([], rest)
    | '-' :: c :: letters =>
      match (c :: letters).find? fun c => !known.contains c with
      | some c => failed ("Illegal option -" ++ c.toString)
      | none =>
        let (more, words) ← readOptions known rest
        return (c :: letters ++ more, words)
    | _ => return ([], word :: rest)

def withoutOptions (words : List String) : Run (List String) := do
  let (_, words) ← readOptions [] words
  return words

def quoteText (text : String) : String :=
  "'" ++ String.ofList (text.toList.flatMap fun c => if c = '\'' then "'\"'\"'".toList else [c])
    ++ "'"

/-! The names of commands. -/

def plainBuiltins : List String :=
  ["[", "alias", "bg", "cd", "command", "echo", "false", "fg", "getopts", "hash", "jobs", "kill",
    "printf", "pwd", "read", "test", "true", "type", "ulimit", "umask", "unalias", "wait"]

inductive Meaning where
  | special
  | function (line : Nat) (body : Command)
  | plain
  | program (path : String)
  | none

def lookIn (path name : String) : Run Found := do
  return search (← get).here (searchFolders path) name

def lookFor (name : String) : Run Found := do
  match ← value? "PATH" with
  | some path => lookIn path name
  | none => return search (← get).here [] name

def meaningIn (path : Option String) (name : String) : Run Meaning := do
  let s ← get
  if specialBuiltins.contains name then
    return .special
  match s.functions.find? name with
  | some (line, body) => return .function line body
  | none =>
    if plainBuiltins.contains name then
      return .plain
    match ← path.elim (lookFor name) fun path => lookIn path name with
    | .program path _ => return .program path
    | _ => return .none

def meaning (name : String) : Run Meaning :=
  meaningIn none name

def remember (name : String) : Run Unit := do
  if !name.toList.contains '/' then
    modify fun s => { s with known := name :: s.known.filter (· != name) }

def aliasText (name text : String) : String :=
  name ++ "=" ++ quoteText text

def describe (brief : Bool) (path : Option String) (name : String) : Run Nat := do
  let s ← get
  let say := fun (short long : String) => do
    writeText 1 ((if brief then short else name ++ long) ++ "\n")
    return 0
  if keywords.contains name then
    say name " is a shell keyword"
  else
    match s.aliases.find? name with
    | some text => say ("alias " ++ aliasText name text) (" is an alias for " ++ text)
    | none =>
      match ← meaningIn path name with
      | .special => say name " is a special shell builtin"
      | .function _ _ => say name " is a shell function"
      | .plain => say name " is a shell builtin"
      | .program found =>
        if path.isNone then
          remember name
        let tracked := path.isNone && s.known.contains name
        say found ((if tracked then " is a tracked alias for " else " is ") ++ found)
      | .none =>
        if name.toList.contains '/' && (s.here.find (pathOf name)).toOption.isSome then
          say name (" is " ++ name)
        else
          if !brief then
            writeText 1 (name ++ ": not found\n")
          return 127

def describeAll (names : List String) : Run Nat :=
  names.foldlM (fun worst name => do
    let status ← describe false none name
    return max worst status) 0

def statusOf : List String → Run Nat
  | [] => return (← get).status
  | text :: _ => numberOf text

/-! Writing and testing. -/

def echoWords (arguments : List String) : Run Nat := do
  let bytes := match arguments with
    | "-n" :: words => writeEscapedWords false false words
    | words => writeEscapedWords false true words
  writeTo 1 bytes
  return 0

def printFormat (arguments : List String) : Run Nat := do
  match ← withoutOptions arguments with
  | [] => failed "usage: printf format [arg ...]"
  | format :: arguments =>
    let f := writeFormat format.toList (arguments.length + 1) arguments
    f.remarks.forM complain
    writeTo 1 f.bytes
    match f.failure with
    | some text => failed text
    | none => return if f.remarks.isEmpty then 0 else 1

def testCondition (inBrackets : Bool) (arguments : List String) : Run Nat := do
  if inBrackets && arguments.getLast? != some "]" then
    failed "missing ]"
  let words := if inBrackets then arguments.dropLast else arguments
  match Test.holds (← get).here (words.length + 2) words with
  | .ok true => return 0
  | .ok false => return 1
  | .error text => failed text

/-! Folders. -/

def folderText : Run String := do
  return textOf (Path.ofNames (← get).here.folder).bytes

def writeFolder (arguments : List String) : Run Nat := do
  let _ ← readOptions ['L', 'P'] arguments
  writeText 1 ((← folderText) ++ "\n")
  return 0

def isSettled : List Char → Bool
  | '/' :: _ => true
  | ['.'] | ['.', '.'] => true
  | '.' :: '/' :: _ | '.' :: '.' :: '/' :: _ => true
  | _ => false

def folderMeant (target : String) : Run (String × Bool) := do
  let s ← get
  let name := if target = "" then "." else target
  match ← value? "CDPATH" with
  | none => return (name, false)
  | some folders =>
    if isSettled target.toList then
      return (name, false)
    let found := (searchFolders folders).findSome? fun folder =>
      let path := if folder = "" then name else folder ++ "/" ++ name
      match s.here.find (pathOf path) with
      | .ok (_, .folder) => some (path, folder != "")
      | _ => none
    return found.getD (name, false)

def changeFolder (arguments : List String) : Run Nat := do
  let (_, words) ← readOptions ['L', 'P'] arguments
  let target ← match words with
    | [] => pure ((← value? "HOME").getD "")
    | "-" :: _ => pure ((← value? "OLDPWD").getD "")
    | name :: _ => pure name
  let old ← folderText
  let (path, told) ← folderMeant target
  match (← get).here.enter (pathOf path) with
  | .error _ => failed ("can't cd to " ++ target)
  | .ok here =>
    modify fun s => { s with here := here }
    assign "OLDPWD" old
    assign "PWD" (← folderText)
    if told || words.head? == some "-" then
      writeFolder []
    else
      return 0

end DeprecatedUse.Program.Shell
