import DeprecatedUse.Program.Shell.Builtin.Job
import DeprecatedUse.Program.Shell.Builtin.Variable

/-!
This module contains the commands that leave loops, functions and scripts, and those that send
signals and say what is to be done at them.
-/

namespace DeprecatedUse.Program.Shell

open Run

/-! Endings and signals. -/

def leaveLoops (ending : Nat → Ending) (words : List String) : Run Nat := do
  let n ← match words with
    | [] => pure 1
    | word :: _ => numberOf word
  if n = 0 then
    failed ("Illegal number: " ++ toString n)
  let loops := (← get).loops
  if loops = 0 then
    return 0
  setStatus 0
  throw (ending (min n loops))

def endWith (ending : Ending) (words : List String) : Run Nat := do
  setStatus (← statusOf words)
  throw ending

def signalNumber? (word : String) : Option Nat :=
  if word ≠ "" ∧ word.toList.all Char.isDigit then
    word.toNat?.filter (· ≤ 64)
  else
    let name := String.ofList (word.toList.map Char.toUpper)
    if name = "EXIT" then
      some 0
    else
      (List.range 32).find? fun n => Status.signalName? n == some ("SIG" ++ name)

def signalText (n : Nat) : String :=
  if n = 34 then "RTMIN"
  else if n = 64 then "RTMAX"
  else if 34 < n ∧ n < 50 then "RTMIN+" ++ toString (n - 34)
  else if 50 ≤ n then "RTMAX-" ++ toString (64 - n)
  else
    match if n = 16 then none else Status.signalName? n with
    | some name => String.ofList (name.toList.drop 3)
    | none => toString n

def isHarmless (n : Nat) : Bool :=
  n == 17 || n == 18 || n == 23 || n == 28

def receive (n : Nat) : Run Unit := do
  if n = 0 then
    return
  let action := (← get).traps.lookup n
  match if n = 9 then none else action with
  | some _ => modify fun s => { s with pending := s.pending ++ [n] }
  | none => if !isHarmless n then throw (.killed n)

def sendSignal (n : Nat) (words : List String) : Run Nat :=
  words.foldlM (fun status word => do
    let unknown : Run Nat := do
      complain "No such process\n"
      return 1
    match word.toList with
    | '%' :: _ =>
      let _ ← jobOf false (some word)
      unknown
    | '-' :: digits =>
      let _ ← numberOf (String.ofList digits)
      unknown
    | _ =>
      let target ← numberOf word
      let s ← get
      if target = s.number ∧ ¬ s.inner then
        receive n
        return status
      else if target = s.number ∨ target ∈ s.ancestors then
        modify fun s => { s with sent := s.sent ++ [(target, n)] }
        return status
      else
        unknown) 0

structure Sending where
  list : Bool := false
  signal : Option Nat := none
  words : List String

def readSending (sending : Sending) : List String → Run Sending
  | [] => return { sending with words := [] }
  | "--" :: rest => return { sending with words := rest }
  | word :: rest => do
    match word.toList with
    | '-' :: 'l' :: letters =>
      match letters with
      | [] => readSending { sending with list := true } rest
      | c :: _ => failed ("Illegal option -" ++ c.toString)
    | '-' :: 's' :: letters =>
      let named := fun (name : String) => do
        match signalNumber? name with
        | some n => return { sending with signal := some n }
        | none => failed ("invalid signal number or name: " ++ name)
      match letters, rest with
      | [], [] => failed "No arg for -s option"
      | [], name :: rest => readSending (← named name) rest
      | letters, rest => readSending (← named (String.ofList letters)) rest
    | '-' :: c :: _ => failed ("Illegal option -" ++ c.toString)
    | _ => return { sending with words := word :: rest }

def kill (arguments : List String) : Run Nat := do
  let first? := match arguments.head?.map String.toList with
    | some ('-' :: letters) => signalNumber? (String.ofList letters)
    | _ => none
  let sending ← match first? with
    | some n => pure { signal := some n, words := arguments.tail }
    | none => readSending { words := arguments } arguments
  match sending.list, sending.words with
  | true, [] =>
    writeText 1 (String.join ((List.range 65).map fun n => signalText n ++ "\n"))
    return 0
  | true, word :: _ =>
    let n ← numberOf word
    let signal := if 128 < n then n - 128 else n
    if signal = 0 ∨ 64 < signal then
      failed ("invalid signal number or exit status: " ++ word)
    writeText 1 (signalText signal ++ "\n")
    return 0
  | false, [] =>
    failed "Usage: kill [-s sigspec | -signum | -sigspec] [pid | job]... or\nkill -l [exitstatus]"
  | false, words => sendSignal (sending.signal.getD 15) words

def setTraps (arguments : List String) : Run Nat := do
  let set := fun (action : Option String) (words : List String) =>
    words.foldlM (fun status word => do
      match signalNumber? word with
      | none =>
        writeText 2 ("trap: " ++ word ++ ": bad trap\n")
        return 1
      | some n =>
        modify fun s =>
          let others := s.traps.filter fun t => t.1 != n
          { s with traps := (action.map fun a => (n, a)).toList ++ others }
        return status) 0
  match ← withoutOptions arguments with
  | [] =>
    let traps := (← get).traps.mergeSort fun a b => decide (a.1 ≤ b.1)
    traps.forM fun (n, action) =>
      let name := if n = 0 then "EXIT" else signalText n
      writeText 1 ("trap -- " ++ quoteText action ++ " " ++ name ++ "\n")
    return 0
  | [word] => set none [word]
  | "-" :: words => set none words
  | action :: words =>
    if (signalNumber? action).isSome && action.toList.all Char.isDigit then
      set none (action :: words)
    else
      set (some action) words

end DeprecatedUse.Program.Shell
