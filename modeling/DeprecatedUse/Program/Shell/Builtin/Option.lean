import DeprecatedUse.Program.Shell.Builtin.Variable

/-!
This module contains the options of a shell and its arguments, and the commands that change and read
them.
-/

namespace DeprecatedUse.Program.Shell

open Run

/-! Options and arguments. -/

def optionNames : List (String × Char) :=
  [("errexit", 'e'), ("noglob", 'f'), ("ignoreeof", 'I'), ("interactive", 'i'), ("monitor", 'm'),
    ("noexec", 'n'), ("stdin", 's'), ("xtrace", 'x'), ("verbose", 'v'), ("vi", 'V'), ("emacs", 'E'),
    ("noclobber", 'C'), ("allexport", 'a'), ("notify", 'b'), ("nounset", 'u'), ("privileged", 'p')]

def namedOptions : List String :=
  ["nolog", "debug"]

def listOptions (commands : Bool) : Run Unit := do
  let s ← get
  if !commands then
    writeText 1 "Current option settings\n"
  let rows := optionNames.map fun (name, letter) => (name, s.switches.contains letter)
  let more := namedOptions.map fun name => (name, s.named.contains name)
  (rows ++ more).forM fun (name, on) =>
    let blanks := String.ofList (List.replicate (16 - name.length) ' ')
    writeText 1 (if commands then "set " ++ (if on then "-o " else "+o ") ++ name ++ "\n"
      else name ++ blanks ++ (if on then "on" else "off") ++ "\n")

def switch (on : Bool) (letter : Char) : Run Unit :=
  modify fun s =>
    let others := s.switches.filter (· != letter)
    { s with switches := if on then letter :: others else others }

def switchLetter (on : Bool) (letter : Char) : Run Unit := do
  if on && letter == 'V' then
    switch false 'E'
  if on && letter == 'E' then
    switch false 'V'
  switch on letter

def switchNamed (on : Bool) : Option String → Run Unit
  | none => listOptions (!on)
  | some name =>
    match optionNames.lookup name with
    | some letter => switch on letter
    | none =>
      if namedOptions.contains name then
        modify fun s =>
          let others := s.named.filter (· != name)
          { s with named := if on then name :: others else others }
      else
        failed ("Illegal option -o " ++ name)

structure Switches where
  own : List Char := []
  words : List String
  dashes : Bool := false

def readLetters (known : List Char) (on : Bool) (own : List Char) (words : List String) :
    List Char → Run { r : Switches // r.words.length ≤ words.length }
  | [] => return ⟨{ own := own, words := words }, Nat.le_refl _⟩
  | 'o' :: letters => do
    switchNamed on words.head?
    let ⟨r, h⟩ ← readLetters known on own words.tail letters
    return ⟨r, Nat.le_trans h (by simp)⟩
  | letter :: letters => do
    if known.contains letter then
      readLetters known on (letter :: own) words letters
    else
      if !(optionNames.map Prod.snd).contains letter then
        failed ("Illegal option " ++ (if on then "-" else "+") ++ letter.toString)
      switchLetter on letter
      readLetters known on own words letters

def readSwitches (known own : List Char) : List String → Run Switches
  | [] => return { own := own, words := [] }
  | word :: rest => do
    match word.toList with
    | ['-', '-'] => return { own := own, words := rest, dashes := true }
    | ['-'] =>
      switch false 'x'
      switch false 'v'
      return { own := own, words := rest }
    | sign :: letters =>
      if sign == '-' || sign == '+' then
        let ⟨r, _⟩ ← readLetters known (sign == '-') own rest letters
        readSwitches known r.own r.words
      else
        return { own := own, words := word :: rest }
    | [] => return { own := own, words := word :: rest }
termination_by words => words.length
decreasing_by
  simp only [List.length_cons]
  omega

def giveUpControl (asked : Bool) : Run Unit := do
  if asked || (← get).switches.contains 'm' then
    complain "can't access tty; job control turned off"
    switch false 'm'

def setArguments (words : List String) : Run Nat := do
  if words.isEmpty then
    listVariables "" fun v => v.value.isSome
  else
    let r ← readSwitches [] [] words
    giveUpControl false
    if r.dashes || !r.words.isEmpty then
      modify fun s => { s with arguments := r.words, optionOffset := 1 }
    return 0

def shiftArguments (words : List String) : Run Nat := do
  let n ← match words with
    | [] => pure 1
    | word :: _ => numberOf word
  if (← get).arguments.length < n then
    failed "can't shift that many"
  modify fun s => { s with arguments := s.arguments.drop n }
  return 0

/--
What the next option among arguments is: its letter, its own argument, what is to be said about it,
and where the reading goes on.
-/
structure NextOption where
  letter : String
  argument : Option String := none
  remark : String := ""
  index : Nat
  offset : Nat := 1
deriving DecidableEq, Repr, Inhabited

def nextOption (known : List Char) (arguments : List String) (index offset : Nat) :
    Except Nat NextOption :=
  let quiet := known.head? == some ':'
  match (arguments[index - 1]?.map String.toList).getD [] with
  | '-' :: c :: rest =>
    if offset = 1 ∧ c = '-' ∧ rest = [] then
      .error (index + 1)
    else
      match (c :: rest).drop (offset - 1) with
      | [] => .error index
      | letter :: behind =>
        let (after, next) := if behind.isEmpty then (index + 1, 1) else (index, offset + 1)
        let found := known.dropWhile (· != letter)
        if letter = ':' ∨ found = [] then
          .ok {
            letter := "?"
            argument := if quiet then some letter.toString else none
            remark := if quiet then "" else "Illegal option -" ++ letter.toString ++ "\n"
            index := after
            offset := next }
        else if found[1]? = some ':' then
          if !behind.isEmpty then
            .ok {
              letter := letter.toString, argument := some (String.ofList behind)
              index := index + 1 }
          else
            match arguments[index]? with
            | some argument =>
              .ok { letter := letter.toString, argument := some argument, index := index + 2 }
            | none =>
              .ok {
                letter := if quiet then ":" else "?"
                argument := if quiet then some letter.toString else none
                remark := if quiet then "" else "No arg for -" ++ letter.toString ++ " option\n"
                index := index + 1 }
        else
          .ok { letter := letter.toString, argument := some "", index := after, offset := next }
  | _ => .error index

def getOption : List String → Run Nat
  | known :: name :: words => do
    if !isName name.toList then
      failed (name ++ ": bad variable name")
    let s ← get
    let arguments := if words.isEmpty then s.arguments else words
    let index := ((← value? "OPTIND").bind String.toNat?).getD 1
    match nextOption known.toList arguments index s.optionOffset with
    | .error index =>
      assign "OPTIND" (toString index)
      assign name "?"
      return 1
    | .ok o =>
      writeText 2 o.remark
      match o.argument with
      | some text => assign "OPTARG" text
      | none => modify fun s => { s with bindings := s.bindings.erase "OPTARG" }
      assign "OPTIND" (toString o.index)
      modify fun s => { s with optionOffset := o.offset }
      assign name o.letter
      return 0
  | _ => failed "Usage: getopts optstring var [arg...]"

end DeprecatedUse.Program.Shell
