import DeprecatedUse.Program.Basic
import DeprecatedUse.Program.Escape
import DeprecatedUse.Program.Quoted

/-!
This module contains small programs that write what they are given: `echo`, `cat`, `true` and
`false`. What a program reads comes from its arguments and from its input.
-/

namespace DeprecatedUse.Program

def writeWords (lineFeed : Bool) (words : List String) : List UInt8 :=
  bytesOf (" ".intercalate words) ++ (if lineFeed then [10] else [])

def writeEscapedWords (hexadecimal lineFeed : Bool) (words : List String) : List UInt8 :=
  let (bytes, more) := readEscapes hexadecimal (" ".intercalate words).toList
  if more && lineFeed then bytes ++ [10] else bytes

inductive Written where
  | output (bytes : List UInt8)
  | errors (bytes : List UInt8)
deriving DecidableEq, Repr, Inhabited

structure Course where
  status : Status := .success
  written : List Written := []
deriving DecidableEq, Repr, Inhabited

def Course.result (c : Course) : Result :=
  c.written.foldr (fun piece r =>
    match piece with
    | .output bytes => { r with output := bytes ++ r.output }
    | .errors bytes => { r with errors := bytes ++ r.errors }) { status := c.status }

/--
How a program runs whose output cannot be written: it complains, under its name, at the first piece
that is not empty.
-/
def Course.refused (name : String) (cause : FileError) (c : Course) : Course :=
  let isQuiet := fun
    | .output bytes => bytes.isEmpty
    | .errors _ => true
  let before := c.written.takeWhile isQuiet
  if before.length = c.written.length then
    c
  else
    let text := name ++ ": write error: " ++ cause.reason ++ "\n"
    { status := .exit 1, written := before ++ [.errors (bytesOf text)] }

def isEchoOption (word : String) : Bool :=
  match word.toList with
  | '-' :: c :: rest => (c :: rest).all fun c => c == 'n' || c == 'e' || c == 'E'
  | _ => false

def echo (arguments : List String) : Course :=
  let options := (arguments.takeWhile isEchoOption).flatMap fun word => word.toList.drop 1
  let escapes := (options.filter (· != 'n')).getLast? == some 'e'
  let words := arguments.dropWhile isEchoOption
  let lineFeed := !options.contains 'n'
  { written := [.output (if escapes then writeEscapedWords true lineFeed words
      else writeWords lineFeed words)] }

/-! Files one after another. -/

/--
How `cat` writes: with numbers before lines, marks at their ends, and signs for bytes that cannot be
seen.
-/
structure CatStyle where
  number : Bool := false
  numberFilled : Bool := false
  squeeze : Bool := false
  ends : Bool := false
  tabs : Bool := false
  controls : Bool := false
deriving DecidableEq, Repr, Inhabited

namespace CatStyle

def addLetter? (style : CatStyle) : Char → Option CatStyle
  | 'A' => some { style with ends := true, tabs := true, controls := true }
  | 'b' => some { style with number := true, numberFilled := true }
  | 'e' => some { style with ends := true, controls := true }
  | 'E' => some { style with ends := true }
  | 'n' => some { style with number := true }
  | 's' => some { style with squeeze := true }
  | 't' => some { style with tabs := true, controls := true }
  | 'T' => some { style with tabs := true }
  | 'u' => some style
  | 'v' => some { style with controls := true }
  | _ => none

def longNames : List (String × Option Char) :=
  [("number-nonblank", some 'b'), ("number", some 'n'), ("squeeze-blank", some 's'),
    ("show-nonprinting", some 'v'), ("show-ends", some 'E'), ("show-tabs", some 'T'),
    ("show-all", some 'A'), ("help", none), ("version", none)]

def findLong (written : String) : Except String (Option Char) :=
  let name := written.toList.takeWhile (· != '=')
  let known := longNames.filter fun (long, _) => name.isPrefixOf long.toList
  match known.find? (·.1.toList == name), known with
  | some (long, letter), _ | none, [(long, letter)] =>
    if name.length = written.length then .ok letter
    else .error ("option '--" ++ long ++ "' doesn't allow an argument")
  | none, [] => .error ("unrecognized option '--" ++ written ++ "'")
  | none, known =>
    .error ("option '--" ++ written ++ "' is ambiguous; possibilities:"
      ++ String.join (known.map fun (long, _) => " '--" ++ long ++ "'"))

def signs (style : CatStyle) (b : UInt8) : List UInt8 :=
  let low := fun n : UInt8 =>
    if n < 32 then [94, n + 64] else if n = 127 then [94, 63] else [n]
  if b = 9 then
    if style.tabs then [94, 73] else [9]
  else if !style.controls then
    [b]
  else if b < 128 then
    low b
  else
    [77, 45] ++ low (b - 128)

/--
Where the writing is: the number of the last line, and how many line feeds were the last bytes. A
carriage return is held back until it is known whether it ends a line.
-/
structure Position where
  line : Nat := 0
  feeds : Nat := 1
  held : Bool := false

def writeByte (style : CatStyle) (p : Position) (b : UInt8) : List UInt8 × Position :=
  if style.squeeze && b == 10 && 2 ≤ p.feeds then
    ([], p)
  else
    let counts := style.number && 1 ≤ p.feeds && !(style.numberFilled && b == 10)
    let number := if counts then
        let digits := Nat.toDigits 10 (p.line + 1)
        bytesOf (String.ofList (List.replicate (6 - digits.length) ' ' ++ digits ++ ['\t']))
      else
        []
    let line := if counts then p.line + 1 else p.line
    let held := if p.held then (if b = 10 then [94, 77] else [13]) else []
    if b = 10 then
      (held ++ number ++ (if style.ends then [36, 10] else [10]), ⟨line, p.feeds + 1, false⟩)
    else if b = 13 ∧ style.ends ∧ ¬ style.controls then
      (held ++ number, ⟨line, 0, true⟩)
    else
      (held ++ number ++ style.signs b, ⟨line, 0, false⟩)

def write (style : CatStyle) (p : Position) (bytes : List UInt8) : List UInt8 × Position :=
  if style = {} then
    (bytes, p)
  else
    let (written, p) := bytes.foldl (fun (done, p) b =>
      let (more, p) := style.writeByte p b
      (more.reverse ++ done, p)) (([], p) : List UInt8 × Position)
    (written.reverse, p)

def addWord (style : CatStyle) (word : String) : Except String (Option CatStyle) :=
  match word.toList with
  | '-' :: '-' :: name =>
    (findLong (String.ofList name)).map fun letter => letter.bind style.addLetter?
  | _ :: letters => do
    let style ← letters.foldlM (fun style c =>
      match style.addLetter? c with
      | some style => .ok style
      | none => .error ("invalid option -- '" ++ c.toString ++ "'")) style
    return some style
  | [] => .ok style

def addWords (style : CatStyle) : List String → Except String (Option CatStyle)
  | [] => .ok style
  | word :: words => do
    match ← style.addWord word with
    | none => return none
    | some style => style.addWords words

end CatStyle

def isOption (word : String) : Bool :=
  word.startsWith "-" && word != "-"

/--
Where a program reads and writes: what its input holds, and the files that its input and its output
are, if they are files.
-/
structure Streams where
  input : Except FileError (List UInt8) := .ok []
  source : Option (List Name) := none
  sink : Option (List Name) := none

def catBytes (here : Place) (streams : Streams) (file : String) :
    Except FileError (List UInt8 × Option (List Name)) :=
  if file = "-" ∨ here.device? (pathOf file) = some .input then
    streams.input.map (·, streams.source)
  else
    (here.readBytes (pathOf file)).map (·, (here.locate (pathOf file)).toOption)

/--
Write files one after another. A file is not written to itself, unless it is empty. `begun` tells
that something has been written.
-/
def catFiles (here : Place) (streams : Streams) (style : CatStyle) (p : CatStyle.Position)
    (begun : Bool) : List String → Course
  | [] => { written := if p.held then [.output [13]] else [] }
  | file :: files =>
    let complain := fun (reason : String) =>
      let rest := catFiles here streams style p begun files
      let text := "cat: " ++ Quoted.name file ++ ": " ++ reason ++ "\n"
      { status := .exit 1, written := .errors (bytesOf text) :: rest.written }
    match catBytes here streams file with
    | .ok (bytes, own) =>
      if streams.sink.isSome && streams.sink == own && (begun || !bytes.isEmpty) then
        complain "input file is output file"
      else
        let (bytes, p) := style.write p bytes
        let streams := if file = "-" then { streams with input := .ok [] } else streams
        let rest := catFiles here streams style p (begun || !bytes.isEmpty) files
        { rest with written := .output bytes :: rest.written }
    | .error e => complain e.reason

/--
Write files, or the input where a dash or no file is named. Two dashes end the options.
-/
def cat (here : Place) (streams : Streams) (arguments : List String) : Course :=
  let before := arguments.takeWhile (· != "--")
  let behind := arguments.drop (before.length + 1)
  match CatStyle.addWords {} (before.filter isOption) with
  | .error text =>
    let text := "cat: " ++ text ++ "\nTry 'cat --help' for more information.\n"
    { status := .exit 1, written := [.errors (bytesOf text)] }
  | .ok none => { written := [.output (bytesOf "Usage: cat [OPTION]... [FILE]...\n")] }
  | .ok (some style) =>
    let files := before.filter (!isOption ·) ++ behind
    let files := if files = [] then ["-"] else files
    let course := catFiles here streams style {} false files
    match streams.input with
    | .error .closed =>
      let text := "cat: closing standard input: Bad file descriptor\n"
      let more := if files.contains "-" then [.errors (bytesOf text)] else []
      { course with written := course.written ++ more }
    | _ => course

def closedCat : Course where
  status := .exit 1
  written := [.errors (bytesOf "cat: standard output: Bad file descriptor\n")]

def runSmall? (here : Place) (streams : Streams) (arguments : List String) :
    String → Option Course
  | "echo" => some (echo arguments)
  | "cat" => some (cat here streams arguments)
  | "true" => some {}
  | "false" => some { status := .exit 1 }
  | _ => none

def readsInput (here : Place) (name : String) (arguments : List String) : Bool :=
  name == "cat" && (arguments.all isOption || arguments.any fun word =>
    word == "-" || here.device? (pathOf word) == some .input)

/-! The places of programs. -/

inductive Found where
  | program (path name : String)
  | other
  | nothing
deriving DecidableEq, Repr, Inhabited

def Found.isProgram : Found → Bool
  | .program _ _ => true
  | _ => false

def foundAt (here : Place) (path : String) : Found :=
  match here.find (pathOf path) with
  | .ok (_, .program name) => .program path name
  | .ok _ => .other
  | .error _ => .nothing

def search (here : Place) (folders : List String) (name : String) : Found :=
  if name = "" then
    .nothing
  else if name.toList.contains '/' then
    foundAt here name
  else
    let found := folders.map fun folder =>
      foundAt here (if folder = "" then name else folder ++ "/" ++ name)
    match found.find? Found.isProgram with
    | some program => program
    | none => if found.contains .other then .other else .nothing

def searchPath : String :=
  "/usr/local/sbin:/usr/local/bin:/usr/sbin:/usr/bin:/sbin:/bin"

def searchFolders (path : String) : List String :=
  (Text.splitOn ':' path.toList).map String.ofList

end DeprecatedUse.Program
