import DeprecatedUse.Program.Shell.Builtin

/-!
This module contains the running of scripts: words get their values, and commands are run one after
another. All steps take fuel, of which one unit goes with each step into a script. `tested` tells
that somebody looks at the status of a command, so that its failure does not end the script.
-/

namespace DeprecatedUse.Program.Shell

open Run

/-! What is put in for the parts of a word. -/

def homeOf (home : String) (name : List Char) : Option String :=
  if name = [] then some home else if name = "root".toList then some "/root" else none

/--
The parts of a text in which tildes stand for folders: at its start, and in an assignment behind
colons too. `isLast` tells that the word ends with this text.
-/
def tildeText (home : String) (assignment isLast : Bool) : (atStart : Bool) → List Char → List Part
  | _, [] => []
  | atStart, c :: cs =>
    let plain := consText c false (tildeText home assignment isLast (assignment && c == ':') cs)
    if atStart && c == '~' then
      let name := cs.takeWhile fun c => c != '/' && !(assignment && c == ':')
      match homeOf home name, cs.drop name.length with
      | none, _ => plain
      | some folder, [] => if isLast then [.text folder.toList true] else plain
      | some folder, rest =>
        match plain with
        | .text written false :: parts =>
          .text folder.toList true :: .text (written.drop (name.length + 1)) false :: parts
        | _ => .text folder.toList true :: .text rest false :: []
    else
      plain

def tildeParts (home : String) (assignment : Bool) : List Part → List Part
  | .text cs false :: rest => tildeText home assignment rest.isEmpty true cs ++ rest
  | parts => parts

def assignmentWord? : List Part → Option (String × List Part)
  | .text cs false :: rest =>
    let name := cs.takeWhile (· != '=')
    match cs.drop name.length with
    | [] => none
    | _ :: value =>
      if isName name then
        some (String.ofList name ++ "=", if value.isEmpty then rest else .text value false :: rest)
      else
        none
  | _ => none

def declares (words : List (List Part)) : Bool :=
  match (words.map plainText?).dropWhile (· == some "command".toList) with
  | some name :: _ => ["export", "readonly", "local"].contains (String.ofList name)
  | _ => false

def outputText (bytes : List UInt8) : String :=
  let text := (textOf (bytes.filter (· != 0))).toList
  String.ofList (text.reverse.dropWhile (· == '\n')).reverse

def arithmeticMessage (expression : String) : ArithmeticError → String
  | .expecting what => "arithmetic expression: expecting " ++ what ++ ": \"" ++ expression ++ "\""
  | .divisionByZero => "arithmetic expression: division by zero: \"" ++ expression ++ "\""
  | .illegalNumber text => "Illegal number: " ++ text

def evaluate (expression : String) : Run String := do
  let bindings := (← get).bindings
  let get := fun name => (bindings.find? name).bind Variable.value
  let r := do
    let expr ← Arithmetic.parse expression.toList
    Arithmetic.eval get expr []
  match r with
  | .error e => failed (arithmeticMessage expression e)
  | .ok (n, assigned) =>
    assigned.reverse.forM fun (name, value) => assign name (toString value)
    return toString n

/-! Redirections with their names put in. -/

inductive Target where
  | file (descriptor : Nat) (opening : Opening) (name : String)
  | duplicate (descriptor : Nat) (source : Option Nat)
  | text (descriptor : Nat) (text : String)
deriving DecidableEq, Repr, Inhabited

def deviceDescriptor? (here : Place) (name : String) : Option Nat :=
  match here.device? (pathOf name) with
  | some .input => some 0
  | some .output => some 1
  | some .errors => some 2
  | _ =>
    match "/dev/fd/".toList.isPrefixOf? name.toList with
    | some [d] => if d.isDigit then some (d.toNat - 48) else none
    | _ => none

def openingMessage (kept : Bool) (opening : Opening) (name : String) (e : FileError) : String :=
  let missing := e == .notFound || e == .notFolder
  match opening with
  | .read => "cannot open " ++ name ++ ": " ++ (if missing then "No such file" else e.reason)
  | .write false =>
    (if kept && !missing && e != .exists then "cannot open " else "cannot create ") ++ name ++ ": "
      ++ (if missing then "Directory nonexistent" else e.reason)
  | _ =>
    "cannot create " ++ name ++ ": " ++ (if missing then "Directory nonexistent" else e.reason)

def openFile (opening : Opening) (name : String) : Run (Except FileError Opened) := do
  let here := (← get).here
  let kept := (← get).switches.contains 'C'
  let create := fun (position : Option Nat) => do
    match here.writeText (pathOf name) "" with
    | .error e => return .error e
    | .ok after =>
      modify fun s => { s with here := after }
      return (after.locate (pathOf name)).map fun names => .file names position
  match opening, here.find (pathOf name) with
  | _, .ok (_, .device .full) => return .ok (if opening = .read then .nowhere else .full)
  | _, .ok (_, .device _) => return .ok .nowhere
  | .read, .ok (names, .program _) => return .ok (.file names (some 0))
  | .read, .ok (names, .file _) => return .ok (.file names (some 0))
  | .read, .ok (_, .folder) => return .ok .folder
  | .read, .error e => return .error e
  | .append, .ok (names, .file _) => return .ok (.file names none)
  | .append, _ => create none
  | .update, .ok (names, .file _) => return .ok (.file names (some 0))
  | .update, _ => create (some 0)
  | .write force, found =>
    match found with
    | .ok (_, .file _) => if kept && !force then return .error .exists else create (some 0)
    | _ => create (some 0)

/--
Let a descriptor lead where another one leads. It fails if that one is closed, and nothing is said
where the descriptor for messages is to be led.
-/
def duplicate (descriptor source : Nat) : Run Bool := do
  match ← leadsTo? source with
  | some (place, _) =>
    lead descriptor (some place)
    return true
  | none =>
    if descriptor != 2 then
      complain (toString source ++ ": Bad file descriptor")
    return false

def openTarget : Target → Run Bool
  | .duplicate descriptor none => do
    lead descriptor none
    return true
  | .duplicate descriptor (some source) => duplicate descriptor source
  | .text descriptor text => do
    lead descriptor (← openNew (.pipe (bytesOf text)))
    return true
  | .file descriptor opening name => do
    match deviceDescriptor? (← get).here name with
    | some source => duplicate descriptor source
    | none =>
      match ← openFile opening name with
      | .ok o =>
        lead descriptor (← openNew o)
        return true
      | .error e =>
        complain (openingMessage ((← get).switches.contains 'C') opening name e)
        return false

def openTargets : List Target → Run Bool
  | [] => return true
  | t :: rest => do
    if ← openTarget t then openTargets rest else return false

def Target.descriptor : Target → Nat
  | .file descriptor _ _ | .duplicate descriptor _ | .text descriptor _ => descriptor

def restoreDescriptors (targets : List Target) (before after : State) : State :=
  let changed := fun d : Nat × Nat => (targets.map Target.descriptor).contains d.1
  { after with
    descriptors := before.descriptors.filter changed ++ after.descriptors.filter (!changed ·) }

/-! Shells inside of shells. -/

def comeBack (before after : State) : Run Unit := do
  let (own, others) := after.sent.partition fun (target, _) =>
    target == before.number && !before.inner
  set { before with
    here := { after.here with folder := before.here.folder }
    opened := after.opened
    sent := others }
  learnEnds
  own.forM fun (_, n) => receive n

def inSubshell (step : Run Unit) : Run Nat := do
  let before ← get
  let traps := before.traps.filter fun t => t.2 == ""
  set { before with traps := traps, pending := [], jobs := [], inner := true }
  let r ← outcome step
  let after ← get
  comeBack before after
  match r with
  | .error (.killed n) => throw (.killed n)
  | _ => return after.status % 256

def signalWords? : Nat → Option String
  | 1 => some "Hangup"
  | 3 => some "Quit"
  | 6 => some "Aborted"
  | 9 => some "Killed"
  | 10 => some "User defined signal 1"
  | 11 => some "Segmentation fault"
  | 12 => some "User defined signal 2"
  | 14 => some "Alarm clock"
  | 15 => some "Terminated"
  | _ => none

def ownVariables : List (String × String) :=
  [("IFS", " \t\n"), ("OPTIND", "1"), ("PPID", "999"), ("PS1", "$ "), ("PS2", "> "),
    ("PS4", "+ ")]

def inProgram (step : Run Unit) : Run Nat := do
  let before ← get
  let passed := before.bindings.entries.foldl (fun t e =>
    if e.2.exported then Table.insert t e.1 { e.2 with readOnly := false } else t) ∅
  set { here := before.here, opened := before.opened, descriptors := before.descriptors,
        bindings := ownVariables.foldl (fun t e => t.insert e.1 { value := some e.2 }) passed,
        mask := before.mask,
        number := before.number + 1, ancestors := before.number :: before.ancestors : State }
  assign "PPID" (toString before.number)
  let r ← outcome step
  let after ← get
  comeBack before after
  match r with
  | .error (.killed n) =>
    match signalWords? n with
    | some words => writeText 2 (words ++ "\n")
    | none => pure ()
    return 128 + n
  | _ => return after.status % 256

def keepingVariables {α : Type} (names : List String) (step : Run α) : Run α := do
  let before := (← get).bindings
  let r ← outcome step
  names.forM fun name => putBack name (before.find? name)
  match r with
  | .ok a => return a
  | .error e => throw e

inductive Round where
  | done
  | left
  | skipped
deriving DecidableEq, Repr

def round (step : Run Unit) : Run Round := do
  match ← outcome step with
  | .ok () => return .done
  | .error (.breakLoop n) => if n ≤ 1 then return .left else throw (.breakLoop (n - 1))
  | .error (.continueLoop n) => if n ≤ 1 then return .skipped else throw (.continueLoop (n - 1))
  | .error e => throw e

def inLoop (step : Run Unit) : Run Unit := do
  modify fun s => { s with loops := s.loops + 1 }
  keeping (fun before after => { after with loops := before.loops - 1 }) step

def checkStatus (tested : Bool) : Run Unit := do
  let s ← get
  if s.status != 0 && !tested && s.switches.contains 'e' then
    throw .exit

def tellLost (name : String) : Run Bool := do
  let lost := (← get).lost
  if lost then
    modify fun s => { s with lost := false }
    complain (name ++ ": I/O error")
  return lost

def deepest : Nat :=
  1000

def missingProgram (instead : Bool) (name : String) (found : Found) : Nat × String :=
  if found = .other ∨ name = "" then
    (if instead || name.toList.contains '/' then 126 else 127, name ++ ": Permission denied")
  else
    (127, name ++ ": not found")

def tellRead (c : Cursor) (text : List Char) : Run Unit := do
  if c.fromFile && (← get).switches.contains 'v' then
    writeText 2 (String.ofList text)

def firstLines : Nat → List Char → List Char
  | 0, _ => []
  | _, [] => []
  | n + 1, '\n' :: rest => '\n' :: firstLines n rest
  | n + 1, c :: rest => c :: firstLines (n + 1) rest

mutual

def expandParts : Nat → Bool → List Part → Run (List Piece)
  | 0, _, _ => outOfFuel
  | _, _, [] => return []
  | fuel + 1, parted, part :: rest => do
    let first ← match part with
      | .text cs quoted => pure (Piece.ofText quoted cs)
      | .parameter name use quoted => expandParameter fuel parted name use quoted
      | .output script quoted => do
        pure (Piece.ofValue quoted (← outputOf fuel script))
      | .arithmetic expression quoted => do
        pure (Piece.ofValue quoted (← evaluate (← expandText fuel expression)))
      | .meaningless => failed "Bad substitution"
    return first ++ (← expandParts fuel parted rest)

def expandText : Nat → List Part → Run String
  | 0, _ => outOfFuel
  | fuel + 1, parts => do
    return marksText (Piece.marks (← expandParts fuel false parts))

def expandParameter : Nat → Bool → String → Use → Bool → Run (List Piece)
  | 0, _, _, _, _ => outOfFuel
  | fuel + 1, parted, name, use, quoted => do
    let s ← get
    let many := name == "@" || name == "*"
    let joined ← joinedArguments
    let value? ← if many then pure (if s.arguments.isEmpty then none else some joined)
      else parameter? name
    let counts := fun nonEmpty : Bool => value?.any fun v => !nonEmpty || v != ""
    let whole := if many && (quoted && name == "@" || !quoted && parted) then
        Piece.ofArguments quoted s.arguments
      else
        Piece.ofValue quoted (value?.getD "")
    if value?.isNone && !many && s.switches.contains 'u' then
      match use with
      | .value | .length | .trimmed _ _ _ => failed (name ++ ": parameter not set")
      | _ => pure ()
    match use with
    | .value => return whole
    | .length =>
      let n := if many then s.arguments.length else (value?.getD "").length
      return Piece.ofValue quoted (toString n)
    | .orWord nonEmpty word =>
      if counts nonEmpty then return whole
      return (← expandParts fuel parted word).map Piece.give
    | .orAssign nonEmpty word =>
      if counts nonEmpty then return whole
      if !isName name.toList then
        failed (name ++ ": bad variable name")
      let text ← expandText fuel word
      assign name text
      return Piece.ofValue quoted text
    | .orFail nonEmpty word =>
      if counts nonEmpty then return whole
      let unset := if nonEmpty then "parameter not set or null" else "parameter not set"
      let text ← expandText fuel word
      failed (name ++ ": " ++ (if word.isEmpty then unset else text))
    | .ifSet nonEmpty word =>
      if counts nonEmpty then
        return (← expandParts fuel parted word).map Piece.give
      return []
    | .trimmed atEnd longest pattern =>
      let marks := Piece.marks (← expandParts fuel false pattern)
      let text := trimPattern atEnd longest marks (value?.getD "").toList
      return Piece.ofValue quoted (String.ofList text)

def outputOf : Nat → List Job → Run String
  | 0, _ => outOfFuel
  | fuel + 1, script => do
    let place ← openNew (.pipe [])
    let _ ← makeRoom
    let status ← inSubshell do
      lead 1 (some place)
      runShellBody fuel false script
    modify fun s => { s with substituted := status }
    match (← get).opened[place]? with
    | some (.pipe bytes) => return outputText bytes
    | _ => return ""

def runShellBody : Nat → Bool → List Job → Run Unit
  | 0, _, _ => outOfFuel
  | fuel + 1, tested, jobs => do
    let r ← outcome (runJobs fuel tested jobs)
    runExitTrap fuel
    match r with
    | .ok () => return
    | .error e => throw e

/--
Do what is to be done at the end of a shell. The status stays, unless the shell is told to end with
another one.
-/
def runExitTrap : Nat → Run Unit
  | 0 => outOfFuel
  | fuel + 1 => do
    match (← get).traps.lookup 0 with
    | none => return
    | some action =>
      let status := (← get).status
      modify fun s => { s with traps := s.traps.filter fun t => t.1 != 0, running := none }
      match ← outcome (runText fuel false action) with
      | .error (.killed n) => throw (.killed n)
      | .ok () | .error .leaveFunction => setStatus status
      | .error _ => return

def runPending : Nat → Run Unit
  | 0 => outOfFuel
  | fuel + 1 => do
    match (← get).pending with
    | [] => return
    | n :: more =>
      let status := (← get).status
      modify fun s => { s with pending := more }
      runText fuel false (((← get).traps.lookup n).getD "")
      setStatus status
      runPending fuel

def expandWords : Nat → Bool → List (List Part) → Run (List String)
  | 0, _, _ => outOfFuel
  | _, _, [] => return []
  | fuel + 1, declaring, word :: rest => do
    let home := (← value? "HOME").getD "~"
    let first ← match if declaring then assignmentWord? word else none with
      | some (before, value) => do
        pure [before ++ (← expandText fuel (tildeParts home true value))]
      | none => do
        let pieces ← expandParts fuel true (tildeParts home false word)
        let found := fields (← separators) pieces
        let s ← get
        if s.switches.contains 'f' then
          pure (found.map marksText)
        else
          pure (found.flatMap (expandName s.here))
    return first ++ (← expandWords fuel declaring rest)

def expandRedirects : Nat → List Redirect → Run (List Target)
  | 0, _ => outOfFuel
  | _, [] => return []
  | fuel + 1, redirect :: rest => do
    let home := (← value? "HOME").getD "~"
    let first ← match redirect with
      | .file descriptor opening name => do
        pure (.file descriptor opening (← expandText fuel (tildeParts home false name)))
      | .duplicate descriptor name => do
        match (← expandText fuel name).toList with
        | ['-'] => pure (.duplicate descriptor none)
        | [d] =>
          if d.isDigit then
            pure (.duplicate descriptor (some (d.toNat - 48)))
          else
            failed "Syntax error: Bad fd number"
        | _ => failed "Syntax error: Bad fd number"
      | .document descriptor number => do
        let parts := ((← get).documents.lookup number).getD []
        pure (.text descriptor (← expandText fuel parts))
    return first :: (← expandRedirects fuel rest)

def runText : Nat → Bool → String → Run Unit
  | 0, _, _ => outOfFuel
  | fuel + 1, tested, text => do
    runLines fuel tested false { rest := text.toList }

def runScript : Nat → Bool → List UInt8 → Run Unit
  | 0, _, _ => outOfFuel
  | fuel + 1, tested, bytes => do
    runLines fuel tested false { rest := (textOf bytes).toList, fromFile := true }

def runLines : Nat → Bool → Bool → Cursor → Run Unit
  | 0, _, _, _ => outOfFuel
  | fuel + 1, tested, ran, c => do
    let s ← get
    match readNext { c with aliases := s.aliases.entries, nextDocument := s.nextDocument } with
    | .error e =>
      tellRead c (firstLines (e.line + 1 - c.line) c.rest)
      modify fun s => { s with line := e.line }
      failed ("Syntax error: " ++ e.text)
    | .ok (jobs, after) =>
      tellRead c (c.rest.take (c.rest.length - after.rest.length))
      modify fun s =>
        { s with
          documents := after.documents ++ s.documents
          nextDocument := after.nextDocument }
      runJobs fuel tested jobs
      match after.token with
      | .finish => if !ran && jobs.isEmpty then setStatus 0
      | _ => runLines fuel tested (ran || !jobs.isEmpty) { after with documents := [] }

def runJobs : Nat → Bool → List Job → Run Unit
  | 0, _, _ => outOfFuel
  | _, _, [] => return
  | fuel + 1, tested, .mk first chain background :: rest => do
    if background then
      let place ← openNew .nowhere
      let jobs := (← get).jobs
      let status ← inSubshell do
        lead 0 (some place)
        runPipeline fuel (tested || !chain.isEmpty) first
        runChain fuel tested chain
      modify fun s => { s with jobs := jobs }
      putBehind status (if chain.isEmpty then first.stages else 1)
    else
      runPipeline fuel (tested || !chain.isEmpty) first
      runChain fuel tested chain
    runJobs fuel tested rest

def runChain : Nat → Bool → List (Bool × Pipeline) → Run Unit
  | 0, _, _ => outOfFuel
  | _, _, [] => return
  | fuel + 1, tested, (onSuccess, pipeline) :: rest => do
    if ((← get).status == 0) == onSuccess then
      runPipeline fuel (tested || !rest.isEmpty) pipeline
    runChain fuel tested rest

def runPipeline : Nat → Bool → Pipeline → Run Unit
  | 0, _, _ => outOfFuel
  | fuel + 1, tested, .mk negated commands => do
    if (← get).switches.contains 'n' then
      return
    match commands with
    | [(line, command)] => runCommand fuel (tested || negated) line command
    | commands =>
      let _ ← makeRoom
      runStages fuel (tested || negated) none commands
      checkStatus (tested || negated)
    if negated then
      modify fun s => { s with status := if s.status == 0 then 1 else 0 }

def runStages : Nat → Bool → Option Nat → List (Nat × Command) → Run Unit
  | 0, _, _, _ => outOfFuel
  | _, _, _, [] => return
  | fuel + 1, tested, input, (line, command) :: rest => do
    let output ← if rest.isEmpty then pure none else some <$> openNew (.pipe [])
    let status ← inSubshell do
      match input with
      | some place => lead 0 (some place)
      | none => pure ()
      match output with
      | some place => lead 1 (some place)
      | none => pure ()
      runCommand fuel tested line command
      runExitTrap fuel
    if rest.isEmpty then
      setStatus status
    runStages fuel tested output rest

def runCommand : Nat → Bool → Nat → Command → Run Unit
  | 0, _, _, _ => outOfFuel
  | fuel + 1, tested, line, command => do
    modify fun s => { s with line := line }
    match command with
    | .simple assignments words redirects =>
      runSimple fuel tested assignments words redirects
      checkStatus tested
    | .subshell body redirects =>
      let _ ← makeRoom
      let status ← inSubshell do
        if ← openTargets (← expandRedirects fuel redirects) then
          runShellBody fuel tested body
        else
          setStatus 2
      setStatus status
      checkStatus tested
    | .define name line body =>
      modify fun s => { s with functions := s.functions.insert name (line, body), status := 0 }
    | .group _ redirects | .choice _ _ redirects | .loop _ _ _ redirects | .each _ _ _ redirects
    | .cases _ _ redirects =>
      let targets ← expandRedirects fuel redirects
      keeping (restoreDescriptors targets) do
        if ← openTargets targets then
          runInside fuel tested command
        else
          setStatus 2
    runPending fuel

def runInside : Nat → Bool → Command → Run Unit
  | 0, _, _ => outOfFuel
  | fuel + 1, tested, command => do
    match command with
    | .group body _ => runJobs fuel tested body
    | .choice branches otherwise _ => runChoice fuel tested otherwise branches
    | .loop goal condition body _ => inLoop (runLoop fuel tested goal condition body 0)
    | .each name words body _ =>
      let items ← expandWords fuel false words
      setStatus 0
      inLoop (runEach fuel tested name body items)
    | .cases word arms _ =>
      let text ← expandText fuel word
      setStatus 0
      runArms fuel tested text.toList arms
    | _ => return

def runChoice : Nat → Bool → List Job → List (List Job × List Job) → Run Unit
  | 0, _, _, _ => outOfFuel
  | fuel + 1, tested, otherwise, [] => do
    setStatus 0
    runJobs fuel tested otherwise
  | fuel + 1, tested, otherwise, (condition, body) :: rest => do
    runJobs fuel true condition
    if (← get).status == 0 then
      runJobs fuel tested body
    else
      runChoice fuel tested otherwise rest

def runLoop : Nat → Bool → Bool → List Job → List Job → Nat → Run Unit
  | 0, _, _, _, _, _ => outOfFuel
  | fuel + 1, tested, goal, condition, body, last => do
    match ← round (runJobs fuel true condition) with
    | .left => setStatus last
    | .skipped => runLoop fuel tested goal condition body last
    | .done =>
      if ((← get).status == 0) == goal then
        match ← round (runJobs fuel tested body) with
        | .left => return
        | _ => runLoop fuel tested goal condition body (← get).status
      else
        setStatus last

def runEach : Nat → Bool → String → List Job → List String → Run Unit
  | 0, _, _, _, _ => outOfFuel
  | _, _, _, _, [] => return
  | fuel + 1, tested, name, body, item :: rest => do
    assign name item
    match ← round (runJobs fuel tested body) with
    | .left => return
    | _ => runEach fuel tested name body rest

def runArms : Nat → Bool → List Char → List (List (List Part) × List Job) → Run Unit
  | 0, _, _, _ => outOfFuel
  | _, _, _, [] => return
  | fuel + 1, tested, text, (patterns, body) :: rest => do
    if ← matchesAny fuel text patterns then
      runJobs fuel tested body
    else
      runArms fuel tested text rest

def matchesAny : Nat → List Char → List (List Part) → Run Bool
  | 0, _, _ => outOfFuel
  | _, _, [] => return false
  | fuel + 1, text, pattern :: rest => do
    let marks := Piece.marks (← expandParts fuel false pattern)
    if matchesPattern marks text then return true
    matchesAny fuel text rest

def runSimple : Nat → Bool → List (String × List Part) → List (List Part) → List Redirect → Run Unit
  | 0, _, _, _, _ => outOfFuel
  | fuel + 1, tested, assignments, words, redirects => do
    modify fun s => { s with substituted := 0 }
    let found ← expandWords fuel (declares words) words
    let targets ← expandRedirects fuel redirects
    let errors := (← leadsTo? 2).map Prod.fst
    let special := found.head?.any specialBuiltins.contains
    let stays := (found.dropWhile (· == "command")).head? == some "exec"
    let kept := if found.isEmpty || special then [] else assignments.map Prod.fst
    keeping (restoreDescriptors (if stays then [] else targets)) do
      if ← openTargets targets then
        keepingVariables kept do
          let values ← assignValues fuel (!kept.isEmpty) assignments
          if (← get).switches.contains 'x' then
            traceWords fuel errors
              ((values.map fun (name, value) => name ++ "=" ++ value) ++ found)
          runFields fuel tested found
      else
        setStatus 2
        if special then
          throw .failed

def traceWords : Nat → Option Nat → List String → Run Unit
  | 0, _, _ => outOfFuel
  | fuel + 1, place, words => do
    let switches := (← get).switches
    modify fun s => { s with switches := s.switches.filter (· != 'x') }
    let mark ← expandText fuel (readText ((← value? "PS4").getD ""))
    modify fun s => { s with switches := switches }
    match place with
    | some place => writeAt place (bytesOf (mark ++ " ".intercalate words ++ "\n"))
    | none => return

def assignValues : Nat → Bool → List (String × List Part) → Run (List (String × String))
  | 0, _, _ => outOfFuel
  | _, _, [] => return []
  | fuel + 1, passed, (name, parts) :: rest => do
    let home := (← value? "HOME").getD "~"
    let text ← expandText fuel (tildeParts home true parts)
    assign name text
    if passed then
      change name fun v => { v with exported := true }
    return (name, text) :: (← assignValues fuel passed rest)

def runFields : Nat → Bool → List String → Run Unit
  | 0, _, _ => outOfFuel
  | _, _, [] => do
    setStatus (← get).substituted
  | fuel + 1, tested, name :: arguments => do
    match ← meaning name with
    | .special => runBuiltin fuel tested true name arguments
    | .plain => runBuiltin fuel tested false name arguments
    | .function line body => runFunction fuel tested line body arguments
    | .program _ | .none => runProgram fuel false none name arguments

def runFunction : Nat → Bool → Nat → Command → List String → Run Unit
  | 0, _, _, _, _ => outOfFuel
  | fuel + 1, tested, line, body, arguments => do
    let before ← get
    if deepest ≤ before.locals.length then
      failed ("Maximum function recursion depth (" ++ toString deepest ++ ") reached")
    modify fun s => { s with arguments := arguments, loops := 0, locals := {} :: s.locals }
    let r ← outcome (runCommand fuel tested line body)
    let frame := (← get).locals.head?.getD {}
    frame.bindings.forM fun (name, old) => putBack name old
    modify fun s =>
      { s with
        arguments := before.arguments
        loops := before.loops
        locals := before.locals
        switches := frame.switches.getD s.switches }
    match r with
    | .ok () | .error .leaveFunction => return
    | .error e => throw e

/--
Run a command of the shell. A mistake ends the script only if the command is a special one.
-/
def runBuiltin : Nat → Bool → Bool → String → List String → Run Unit
  | 0, _, _, _, _ => outOfFuel
  | fuel + 1, tested, special, name, arguments => do
    let running := (← get).running
    modify fun s => { s with running := some name }
    let r ← outcome (match name with
      | "eval" => do
        runText fuel tested (" ".intercalate arguments)
        pure (← get).status
      | "." => do
        runFile fuel tested arguments
        pure (← get).status
      | "exec" => do
        runExec fuel arguments
        pure (← get).status
      | "command" => do
        runNamed fuel tested running arguments
        pure (← get).status
      | name => (builtin? name).elim (pure 0) fun run => run arguments)
    let lost ← tellLost name
    modify fun s => { s with running := running }
    match r with
    | .ok status => setStatus (if lost then status ||| 1 else status)
    | .error .failed => if special then throw .failed
    | .error e => throw e

def runFile : Nat → Bool → List String → Run Unit
  | 0, _, _ => outOfFuel
  | fuel + 1, tested, arguments => do
    match ← withoutOptions arguments with
    | [] => return
    | name :: _ =>
      let s ← get
      let folders := searchFolders ((← value? "PATH").getD "")
      let path := if name.toList.contains '/' then some name else
        folders.findSome? fun folder =>
          let path := if folder = "" then name else folder ++ "/" ++ name
          match s.here.find (pathOf path) with
          | .ok (_, .file _) | .ok (_, .program _) => some path
          | _ => none
      match path with
      | none => failed (name ++ ": not found")
      | some path =>
        match s.here.readBytes (pathOf path) with
        | .error .isFolder => setStatus 0
        | .error _ => failed ("cannot open " ++ path ++ ": No such file")
        | .ok bytes =>
          modify fun s => { s with running := some path }
          match ← outcome (runScript fuel tested bytes) with
          | .ok () | .error .leaveFunction => return
          | .error e => throw e

def runExec : Nat → List String → Run Unit
  | 0, _ => outOfFuel
  | _, [] => setStatus 0
  | fuel + 1, name :: arguments => do
    runProgram fuel true none name arguments
    throw .exit

def runNamed : Nat → Bool → Option String → List String → Run Unit
  | 0, _, _, _ => outOfFuel
  | fuel + 1, tested, running, arguments => do
    let (options, words) ← readOptions ['p', 'v', 'V'] arguments
    let path := if options.contains 'p' then some searchPath else none
    match words with
    | [] => setStatus 0
    | name :: rest =>
      if options.any (· != 'p') then
        setStatus (← describe (!options.contains 'V') path name)
      else
        modify fun s => { s with running := running }
        if specialBuiltins.contains name || plainBuiltins.contains name then
          runBuiltin fuel tested false name rest
        else
          runProgram fuel false path name rest

def runProgram : Nat → Bool → Option String → String → List String → Run Unit
  | 0, _, _, _, _ => outOfFuel
  | fuel + 1, instead, path, name, arguments => do
    let here := (← get).here
    let found ← path.elim (lookFor name) fun path => lookIn path name
    let known := match found with
      | .program _ known => known
      | _ => ""
    if known ≠ "" then
      if path.isNone then
        remember name
      let _ ← makeRoom
      learnEnds
    if known = "sh" then
      setStatus (← inProgram (runShell fuel arguments))
    else
      let input ← if (← leadsTo? 0).isNone then pure (.error .closed)
        else if readsInput here known arguments then takeAll 0
        else pure (.ok [])
      let sink := (← leadsTo? 1).map Prod.snd
      let streams : Streams :=
        { input := input, source := ((← leadsTo? 0).map Prod.snd).bind Opened.names?,
          sink := sink.bind Opened.names? }
      let course := match sink with
        | none => if known == "cat" then some closedCat
          else (runSmall? here streams arguments known).map (Course.refused name .closed)
        | some .full => (runSmall? here streams arguments known).map (Course.refused name .noSpace)
        | some _ => runSmall? here streams arguments known
      match course with
      | none =>
        let (status, text) := missingProgram instead name found
        complain text
        setStatus status
      | some course =>
        course.written.forM fun piece =>
          match piece with
          | .output bytes => writeTo 1 bytes
          | .errors bytes => writeTo 2 bytes
        setStatus (match course.status with
          | .exit code => code
          | .signal n => 128 + n)

/--
Run a shell from its arguments: options, then a script or the name of a file with one, then the
arguments of the script. Without a script the input is one.
-/
def runShell : Nat → List String → Run Unit
  | 0, _ => outOfFuel
  | fuel + 1, words => do
    let r ← outcome do
      let r ← readSwitches ['c', 'l'] [] words
      let rest := r.words
      let interactive := (← get).switches.contains 'i'
      if r.own.contains 'c' then
        match rest with
        | [] => failed "-c requires an argument"
        | script :: rest =>
          modify fun s => { s with name := rest.head?.getD s.name, arguments := rest.tail }
          giveUpControl interactive
          runText fuel false script
      else
        match if (← get).switches.contains 's' then none else rest.head? with
        | some file =>
          match (← get).here.readBytes (pathOf file) with
          | .ok bytes =>
            modify fun s => { s with name := file, arguments := rest.tail }
            giveUpControl interactive
            runScript fuel false bytes
          | .error .isFolder => setStatus 0
          | .error _ => failed ("cannot open " ++ file ++ ": No such file")
        | none =>
          modify fun s => { s with arguments := rest }
          switch true 's'
          giveUpControl interactive
          let bytes := (← takeAll 0).toOption.getD []
          runScript fuel false bytes
    modify fun s => { s with running := none }
    match r with
    | .error (.killed n) => throw (.killed n)
    | _ => runExitTrap fuel

end

end DeprecatedUse.Program.Shell
