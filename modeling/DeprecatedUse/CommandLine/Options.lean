import DeprecatedUse.Text.Lines

/-!
This module contains the reading of options and other words from the arguments of a command. An
option has a long name behind two dashes and may have a short one behind one dash; short ones may be
written together. Each option may be given once.
-/

namespace DeprecatedUse.CommandLine

structure Flag where
  long : String
  short : Option Char := none
  takesValue : Bool := false
deriving DecidableEq, Repr

inductive Stop where
  | badUsage
  | help
  | version
deriving DecidableEq, Repr

/--
What the arguments of a command come to: the values of its options by long name, and its other words
in order.
-/
structure Arguments where
  options : List (String × String) := []
  words : List String := []
deriving DecidableEq, Repr

namespace Arguments

def value? (a : Arguments) (long : String) : Option String :=
  a.options.lookup long

def has (a : Arguments) (long : String) : Bool :=
  (a.value? long).isSome

/--
Add an option. Help and version are answered at once; no option is given twice, and no value is
empty.
-/
def addOption (a : Arguments) (flag : Flag) (value : String) : Except Stop Arguments :=
  if flag.long = "help" then
    .error .help
  else if flag.long = "version" then
    .error .version
  else if a.has flag.long || (flag.takesValue && value == "") then
    .error .badUsage
  else
    .ok { a with options := a.options ++ [(flag.long, value)] }

def addWord (takesWords : Bool) (a : Arguments) (word : String) : Except Stop Arguments :=
  if !takesWords || word == "" then .error .badUsage else .ok { a with words := a.words ++ [word] }

end Arguments

inductive Shape where
  | escape
  | long (name : String) (value : Option String)
  | short (letters : List Char)
  | word
deriving DecidableEq, Repr

def Shape.of (argument : String) : Shape :=
  match argument.toList with
  | ['-', '-'] => .escape
  | '-' :: '-' :: rest =>
    match Text.splitFirst? '=' rest with
    | none => .long (String.ofList rest) none
    | some (name, value) => .long (String.ofList name) (some (String.ofList value))
  | '-' :: c :: rest => .short (c :: rest)
  | _ => .word

/--
Add options that are written together. The last one may have its value right behind it, or in the
next argument: then it is returned.
-/
def addShort (flags : List Flag) (a : Arguments) :
    List Char → Except Stop (Arguments × Option Flag)
  | [] => .ok (a, none)
  | c :: rest =>
    match flags.find? (·.short == some c) with
    | none => .error .badUsage
    | some flag =>
      if flag.takesValue then
        match rest with
        | [] => .ok (a, some flag)
        | '=' :: value => (a.addOption flag (String.ofList value)).map (·, none)
        | value => (a.addOption flag (String.ofList value)).map (·, none)
      else
        match a.addOption flag "" with
        | .error stop => .error stop
        | .ok a => addShort flags a rest

/--
Add an option with its long name. If its value is in the next argument, it is returned.
-/
def addLong (flags : List Flag) (a : Arguments) (name : String) (value : Option String) :
    Except Stop (Arguments × Option Flag) :=
  match flags.find? (·.long == name) with
  | none => .error .badUsage
  | some flag =>
    match flag.takesValue, value with
    | true, none => .ok (a, some flag)
    | true, some value => (a.addOption flag value).map (·, none)
    | false, none => (a.addOption flag "").map (·, none)
    | false, some _ => .error .badUsage

/--
Read the arguments of a command up to the first word that `isCommand` knows: that word and what
follows it are the arguments of another command. The first argument that is out of place ends the
reading, whatever follows it.
-/
def readArguments (flags : List Flag) (takesWords : Bool) (isCommand : String → Bool)
    (a : Arguments) : List String → Except Stop (Arguments × List String)
  | [] => .ok (a, [])
  | argument :: rest =>
    if isCommand argument then
      .ok (a, argument :: rest)
    else
      match Shape.of argument with
      | .escape => (rest.foldlM (Arguments.addWord takesWords) a).map (·, [])
      | .word =>
        match Arguments.addWord takesWords a argument with
        | .error stop => .error stop
        | .ok a => readArguments flags takesWords isCommand a rest
      | .long name value =>
        match addLong flags a name value, rest with
        | .error stop, _ => .error stop
        | .ok (a, none), rest => readArguments flags takesWords isCommand a rest
        | .ok (_, some _), [] => .error .badUsage
        | .ok (a, some flag), value :: rest =>
          if Shape.of value = .word then
            match a.addOption flag value with
            | .error stop => .error stop
            | .ok a => readArguments flags takesWords isCommand a rest
          else
            .error .badUsage
      | .short letters =>
        match addShort flags a letters, rest with
        | .error stop, _ => .error stop
        | .ok (a, none), rest => readArguments flags takesWords isCommand a rest
        | .ok (_, some _), [] => .error .badUsage
        | .ok (a, some flag), value :: rest =>
          if Shape.of value = .word then
            match a.addOption flag value with
            | .error stop => .error stop
            | .ok a => readArguments flags takesWords isCommand a rest
          else
            .error .badUsage

end DeprecatedUse.CommandLine
