import DeprecatedUse.Path
import DeprecatedUse.CommandLine.Options

/-!
This module contains what can be asked for on the command line, and how it is written.
-/

namespace DeprecatedUse.CommandLine

inductive Command where
  | check (output : Path) (markdown : Option Path) (denyWarnings : Bool) (files : List Path)
  | symbols (deprecatedOnly : Bool)
deriving DecidableEq, Repr

structure Invocation where
  config : Option Path := none
  root : Option Path := none
  verbose : Bool := false
  command : Command
deriving DecidableEq, Repr

inductive Topic where
  | tool
  | check
  | symbols
  | help
deriving DecidableEq, Repr

inductive Request where
  | run (invocation : Invocation)
  | help (topic : Topic)
  | version
deriving DecidableEq, Repr

def sharedFlags : List Flag :=
  [⟨"config", some 'c', true⟩, ⟨"root", some 'r', true⟩, ⟨"verbose", some 'v', false⟩,
    ⟨"help", some 'h', false⟩]

def toolFlags : List Flag :=
  sharedFlags ++ [⟨"version", some 'V', false⟩]

def checkFlags : List Flag :=
  sharedFlags ++ [⟨"output", some 'o', true⟩, ⟨"markdown", some 'm', true⟩,
    ⟨"deny-warnings", none, false⟩]

def symbolsFlags : List Flag :=
  sharedFlags ++ [⟨"deprecated", some 'd', false⟩]

/--
The command with these arguments, given the arguments before it. Of an option that stands in both
places the one behind the command counts.
-/
def invoke (before after : Arguments) (command : Command) : Invocation where
  config := ((after.value? "config").or (before.value? "config")).map .ofText
  root := ((after.value? "root").or (before.value? "root")).map .ofText
  verbose := after.has "verbose" || before.has "verbose"
  command := command

def readCheck (before : Arguments) (arguments : List String) : Except Stop Request := do
  let (a, _) ← readArguments checkFlags true (fun _ => false) {} arguments
  return .run (invoke before a (.check ⟨(a.value? "output").getD "report.json"⟩
    ((a.value? "markdown").map .ofText) (a.has "deny-warnings") (a.words.map .ofText)))

def readSymbols (before : Arguments) (arguments : List String) : Except Stop Request := do
  let (a, _) ← readArguments symbolsFlags false (fun _ => false) {} arguments
  return .run (invoke before a (.symbols (a.has "deprecated")))

def readHelp : List String → Except Stop Request
  | [] => .ok (.help .tool)
  | ["check"] => .ok (.help .check)
  | ["symbols"] => .ok (.help .symbols)
  | ["help"] => .ok (.help .help)
  | _ => .error .badUsage

def stopped (topic : Topic) : Except Stop Request → Option Request
  | .ok request => some request
  | .error .badUsage => none
  | .error .help => some (.help topic)
  | .error .version => some .version

def isCommand (word : String) : Bool :=
  word == "check" || word == "symbols" || word == "help"

def Request.parse? (arguments : List String) : Option Request :=
  match readArguments toolFlags false isCommand {} arguments with
  | .error stop => stopped .tool (.error stop)
  | .ok (before, rest) =>
    match rest with
    | "check" :: rest => stopped .check (readCheck before rest)
    | "symbols" :: rest => stopped .symbols (readSymbols before rest)
    | "help" :: rest => stopped .tool (readHelp rest)
    | _ => none

def versionText : String :=
  "deprecheck 0.1.0\n"

def Topic.text : Topic → String
  | .tool =>
    "deprecheck - Deprecated API usage checks for Java sources\n\n"
      ++ "Usage: deprecheck [OPTIONS] <COMMAND>\n\n"
      ++ "Commands:\n"
      ++ "  check    Report usages of deprecated members\n"
      ++ "  symbols  List the members known to the symbol index\n"
      ++ "  help     Print this message or the help of the given subcommand(s)\n\n"
      ++ "Options:\n"
      ++ "  -c, --config <CONFIG>  Path to config file (default: <root>/deprecheck.toml)\n"
      ++ "  -r, --root <ROOT>      Workspace root (default: current directory)\n"
      ++ "  -v, --verbose          Enable verbose output\n"
      ++ "  -h, --help             Print help\n"
      ++ "  -V, --version          Print version\n"
  | .check =>
    "Report usages of deprecated members\n\n"
      ++ "Usage: deprecheck check [OPTIONS] [FILES]...\n\n"
      ++ "Arguments:\n"
      ++ "  [FILES]...  Files to check (default: every file in the workspace)\n\n"
      ++ "Options:\n"
      ++ "  -c, --config <CONFIG>      Path to config file (default: <root>/deprecheck.toml)\n"
      ++ "  -o, --output <OUTPUT>      Output file for report.json [default: report.json]\n"
      ++ "  -m, --markdown <MARKDOWN>  Also output markdown report\n"
      ++ "  -r, --root <ROOT>          Workspace root (default: current directory)\n"
      ++ "      --deny-warnings        Exit with an error when any usage is found\n"
      ++ "  -v, --verbose              Enable verbose output\n"
      ++ "  -h, --help                 Print help\n"
  | .symbols =>
    "List the members known to the symbol index\n\n"
      ++ "Usage: deprecheck symbols [OPTIONS]\n\n"
      ++ "Options:\n"
      ++ "  -c, --config <CONFIG>  Path to config file (default: <root>/deprecheck.toml)\n"
      ++ "  -d, --deprecated       Only list deprecated members\n"
      ++ "  -r, --root <ROOT>      Workspace root (default: current directory)\n"
      ++ "  -v, --verbose          Enable verbose output\n"
      ++ "  -h, --help             Print help\n"
  | .help =>
    "Print this message or the help of the given subcommand(s)\n\n"
      ++ "Usage: deprecheck help [COMMAND]...\n\n"
      ++ "Arguments:\n"
      ++ "  [COMMAND]...  Print help for the subcommand(s)\n"

end DeprecatedUse.CommandLine
