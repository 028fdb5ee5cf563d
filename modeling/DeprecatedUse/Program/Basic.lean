import DeprecatedUse.FileTree

/-!
This module contains the running of programs, and the host on which everything happens: files, a
folder to start from, and programs.
-/

namespace DeprecatedUse

namespace Program

/-! Texts of programs hold one character for each byte, since what programs are told, read and write
need not be UTF-8. -/

def bytesOf (text : String) : List UInt8 :=
  text.toList.map Char.toUInt8

def textOf (bytes : List UInt8) : String :=
  String.ofList (bytes.map Char.ofUInt8)

def pathOf (text : String) : Path :=
  ⟨bytesOf text⟩

inductive Status where
  | exit (code : Nat)
  | signal (number : Nat)
deriving DecidableEq, Repr, Inhabited

namespace Status

def success : Status :=
  .exit 0

def signalNames : List String :=
  ["SIGHUP", "SIGINT", "SIGQUIT", "SIGILL", "SIGTRAP", "SIGABRT", "SIGBUS", "SIGFPE", "SIGKILL",
    "SIGUSR1", "SIGSEGV", "SIGUSR2", "SIGPIPE", "SIGALRM", "SIGTERM", "SIGSTKFLT", "SIGCHLD",
    "SIGCONT", "SIGSTOP", "SIGTSTP", "SIGTTIN", "SIGTTOU", "SIGURG", "SIGXCPU", "SIGXFSZ",
    "SIGVTALRM", "SIGPROF", "SIGWINCH", "SIGIO", "SIGPWR", "SIGSYS"]

def signalName? : Nat → Option String
  | 0 => none
  | n + 1 => signalNames[n]?

def text : Status → String
  | .exit code => "exit status: " ++ toString code
  | .signal number =>
    "signal: " ++ toString number
      ++ (match signalName? number with
        | none => ""
        | some name => " (" ++ name ++ ")")

end Status

structure Result where
  status : Status := .success
  output : List UInt8 := []
  errors : List UInt8 := []
deriving DecidableEq, Repr, Inhabited

/--
How programs are run in a place: what the program with a name does with its arguments and the files
as it leaves them, or why it cannot be started.
-/
abbrev Launcher :=
  Place → (program : String) → (arguments : List String) → Except FileError (Result × FileTree)

end Program

structure Host extends Place where
  launch : Program.Launcher

namespace Host

/--
Run a program in a folder. The result is what it leaves behind, and the files as it leaves them.
-/
def start (host : Host) (folder : Path) (program : String) (arguments : List String) :
    Except FileError (Program.Result × FileTree) := do
  if (program :: arguments).any (·.toList.contains '\x00') then
    throw .badWord
  host.launch (← host.toPlace.enter folder) program arguments

def run (host : Host) (folder : Path) (program : String) (arguments : List String) :
    Except FileError Program.Result :=
  (host.start folder program arguments).map Prod.fst

/--
The files after a program has been run in a folder. One that cannot be started changes none.
-/
def filesAfter (host : Host) (folder : Path) (program : String) (arguments : List String) :
    FileTree :=
  match host.start folder program arguments with
  | .ok (_, tree) => tree
  | .error _ => host.tree

end Host

end DeprecatedUse
