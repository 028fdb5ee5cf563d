import DeprecatedUse.Program.Shell.Builtin.Alias
import DeprecatedUse.Program.Shell.Builtin.Option
import DeprecatedUse.Program.Shell.Builtin.Rights
import DeprecatedUse.Program.Shell.Builtin.Signal

/-!
This module contains the commands of the shell itself that run no other command, by their names.
-/

namespace DeprecatedUse.Program.Shell

open Run

def builtin? (name : String) : Option (List String → Run Nat) :=
  match name with
  | ":" | "true" => some fun _ => return 0
  | "alias" => some setAliases
  | "unalias" => some dropAliases
  | "hash" => some hashNames
  | "wait" => some waitFor
  | "umask" => some setMask
  | "ulimit" => some setLimit
  | "jobs" => some listJobs
  | "times" =>
    some fun _ => do
      writeText 1 "0m0.000000s 0m0.000000s\n0m0.000000s 0m0.000000s\n"
      return 0
  | "false" => some fun _ => return 1
  | "echo" => some echoWords
  | "printf" => some printFormat
  | "test" => some (testCondition false)
  | "[" => some (testCondition true)
  | "pwd" => some writeFolder
  | "cd" => some changeFolder
  | "export" => some exportNames
  | "readonly" => some protectNames
  | "local" => some declareLocal
  | "unset" => some unsetNames
  | "read" => some readNames
  | "set" => some setArguments
  | "shift" => some shiftArguments
  | "getopts" => some getOption
  | "break" => some (leaveLoops .breakLoop)
  | "continue" => some (leaveLoops .continueLoop)
  | "exit" => some (endWith .exit)
  | "return" => some (endWith .leaveFunction)
  | "kill" => some kill
  | "trap" => some setTraps
  | "type" => some describeAll
  | "bg" | "fg" => some moveJob
  | _ => none

end DeprecatedUse.Program.Shell
