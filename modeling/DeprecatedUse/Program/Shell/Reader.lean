import DeprecatedUse.Program.Shell.Script

/-!
This module contains the reading of scripts. A script is read line by line, so that a line can be
run before the next one is read. All readers take fuel, of which one unit goes with each step into
the text.
-/

namespace DeprecatedUse.Program.Shell

structure ScriptError where
  line : Nat
  text : String
deriving DecidableEq, Repr, Inhabited

inductive Arrow where
  | file (opening : Opening)
  | duplicate
  | document (dropTabs : Bool)
deriving DecidableEq, Repr, Inhabited

inductive Token where
  | finish
  | newline
  | semicolon
  | doubleSemicolon
  | ampersand
  | andThen
  | orElse
  | pipe
  | leftParen
  | rightParen
  | redirect (descriptor : Nat) (arrow : Arrow)
  | word (parts : List Part)
deriving Inhabited

def keywords : List String :=
  ["!", "\x7b", "\x7d", "case", "do", "done", "elif", "else", "esac", "fi", "for", "if", "in",
    "then", "until", "while"]

namespace Token

def keyword? : Token → Option String
  | .word [.text cs false] =>
    let text := String.ofList cs
    if keywords.contains text then some text else none
  | _ => none

def name (atCommand : Bool) (token : Token) : String :=
  let quote := fun text => "\"" ++ text ++ "\""
  match token with
  | .finish => "end of file"
  | .newline => "newline"
  | .semicolon => quote ";"
  | .doubleSemicolon => quote ";;"
  | .ampersand => quote "&"
  | .andThen => quote "&&"
  | .orElse => quote "||"
  | .pipe => quote "|"
  | .leftParen => quote "("
  | .rightParen => quote ")"
  | .redirect _ _ => "redirection"
  | .word parts =>
    match if atCommand then (Token.word parts).keyword? else none with
    | some reserved => quote reserved
    | none => "word"

end Token

structure Awaited where
  number : Nat
  mark : List Char
  dropTabs : Bool
  plain : Bool

/--
An alias whose text has been put in. The text may end with a blank, so that the word behind it may
be an alias too.
-/
structure Replaced where
  name : String
  left : Nat
  opensNext : Bool
deriving DecidableEq, Repr, Inhabited

structure Cursor where
  rest : List Char
  fromFile : Bool := false
  line : Nat := 1
  token : Token := .newline
  tokenLine : Nat := 1
  aliases : List (String × String) := []
  replaced : List Replaced := []
  mayReplace : Bool := false
  awaited : List Awaited := []
  documents : List (Nat × List Part) := []
  nextDocument : Nat := 0
deriving Inhabited

abbrev Reading := StateT Cursor (Except ScriptError)

namespace Reading

def fail {α : Type} (text : String) : Reading α := do
  throw ⟨(← get).line, text⟩

/--
The alias that the token at the cursor is, and what it stands for. An alias is not put in inside of
itself.
-/
def alias? (c : Cursor) : Option (String × String) :=
  match c.token with
  | .word [.text cs false] =>
    let name := String.ofList cs
    if c.replaced.any fun r => r.name == name then none
    else (c.aliases.lookup name).map fun text => (name, text)
  | _ => none

def putIn (name text : String) (c : Cursor) : Cursor :=
  let opensNext := text.endsWith " " || text.endsWith "\t"
  { c with
    rest := text.toList ++ c.rest
    replaced := if text = "" then c.replaced else ⟨name, c.rest.length, opensNext⟩ :: c.replaced }

def comeTo (start : Nat) (c : Cursor) : Cursor :=
  let (gone, stay) := c.replaced.partition fun r => start ≤ r.left
  { c with replaced := stay, mayReplace := gone.any Replaced.opensNext }

def unexpected {α : Type} (expected : Option String) (atCommand : Bool) : Reading α := do
  let expecting := match expected with
    | none => ""
    | some token => " (expecting " ++ token ++ ")"
  fail ((← get).token.name atCommand ++ " unexpected" ++ expecting)

def moveTo (rest : List Char) (lines : Nat) : Reading Unit :=
  modify fun c => { c with rest := rest, line := c.line + lines }

end Reading

open Reading

inductive Limit where
  | operator
  | quote
  | brace
  | textEnd
  | parens (opened : Nat)
deriving DecidableEq, Repr

structure Stretch where
  limit : Limit
  quoted : Bool
deriving DecidableEq, Repr

def endsWord (c : Char) : Bool :=
  [' ', '\t', '\n', ';', '&', '|', '<', '>', '(', ')'].contains c

def splitBackquotes (quoted : Bool) : List Char → Option (List Char × List Char)
  | [] => none
  | '\\' :: c :: rest =>
    (splitBackquotes quoted rest).map fun (text, rest) =>
      if c = '\\' ∨ c = '\x60' ∨ c = '$' ∨ (quoted ∧ c = '"') then (c :: text, rest)
      else ('\\' :: c :: text, rest)
  | c :: rest =>
    if c = '\x60' then
      some ([], rest)
    else
      (splitBackquotes quoted rest).map fun (text, rest) => (c :: text, rest)

def newlines (cs : List Char) : Nat :=
  cs.count '\n'

def isSpecialParameter (c : Char) : Bool :=
  ['@', '*', '#', '?', '-', '$', '!'].contains c

def braceName? (cs : List Char) : Option (String × Bool × List Char) :=
  let plain? := fun cs : List Char =>
    match cs with
    | [] => none
    | c :: rest =>
      if isNameStart c then
        some (String.ofList (cs.takeWhile isNameChar), cs.dropWhile isNameChar)
      else if c.isDigit then
        some (String.ofList (cs.takeWhile Char.isDigit), cs.dropWhile Char.isDigit)
      else if isSpecialParameter c then
        some (c.toString, rest)
      else
        none
  match cs with
  | '#' :: '\x7d' :: rest => some ("#", false, '\x7d' :: rest)
  | '#' :: c :: rest =>
    if isNameChar c then
      (plain? (c :: rest)).map fun (name, rest) => (name, true, rest)
    else if isSpecialParameter c && rest.head? == some '\x7d' then
      some (c.toString, true, rest)
    else
      some ("#", false, c :: rest)
  | cs => (plain? cs).map fun (name, rest) => (name, false, rest)

def arrowOf (first : Char) (rest : List Char) : Arrow × List Char :=
  match first, rest with
  | '>', '>' :: rest => (.file .append, rest)
  | '>', '|' :: rest => (.file (.write true), rest)
  | '>', '&' :: rest => (.duplicate, rest)
  | '>', rest => (.file (.write false), rest)
  | _, '<' :: '-' :: rest => (.document true, rest)
  | _, '<' :: rest => (.document false, rest)
  | _, '&' :: rest => (.duplicate, rest)
  | _, '>' :: rest => (.file .update, rest)
  | _, rest => (.file .read, rest)

def splitDocument (mark : List Char) (dropTabs : Bool) : Nat → List Char → List Char × List Char
  | 0, cs => ([], cs)
  | _, [] => ([], [])
  | fuel + 1, cs =>
    let line := cs.takeWhile (· != '\n')
    let rest := (cs.dropWhile (· != '\n')).drop 1
    let line := if dropTabs then line.dropWhile (· == '\t') else line
    if line = mark then
      ([], rest)
    else
      let ended := (cs.dropWhile (· != '\n')).isEmpty
      let (text, after) := splitDocument mark dropTabs fuel rest
      (line ++ (if ended then [] else ['\n']) ++ text, after)

/--
The parts of a stretch in quotes. Quotes make a word even if nothing stands in them, but not if they
hold the arguments only and there are none.
-/
def quotedParts : List Part → List Part
  | [.parameter "@" .value quoted] => [.parameter "@" .value quoted]
  | parts => .text [] true :: parts

def isQuote (c : Char) : Bool :=
  c == '\\' || c == '\'' || c == '"'

def unquoted : List Char → List Char
  | '\\' :: c :: rest => if c = '\n' then unquoted rest else c :: unquoted rest
  | c :: rest => if isQuote c then unquoted rest else c :: unquoted rest
  | [] => []

def specialBuiltins : List String :=
  [".", ":", "break", "continue", "eval", "exec", "exit", "export", "local", "readonly", "return",
    "set", "shift", "times", "trap", "unset"]

def mayName (name : List Char) : Bool :=
  isName name && !specialBuiltins.contains (String.ofList name)

mutual

def readParts : Nat → Stretch → Reading (List Part)
  | 0, _ => fail "word too long"
  | fuel + 1, stretch => do
    match (← get).rest with
    | [] =>
      match stretch.limit with
      | .operator | .textEnd => return []
      | .quote => fail "Unterminated quoted string"
      | .brace => fail "Missing '\x7d'"
      | .parens _ => fail "Missing '))'"
    | '\\' :: '\n' :: rest =>
      moveTo rest 1
      readParts fuel stretch
    | '\\' :: c :: rest =>
      let escapes := !stretch.quoted || c == '$' || c == '\x60' || c == '\\'
        || (c == '"' && stretch.limit != .textEnd) || (c == '\x7d' && stretch.limit == .brace)
      if escapes then
        moveTo rest 0
        return consText c true (← readParts fuel stretch)
      else
        moveTo (c :: rest) 0
        return consText '\\' stretch.quoted (← readParts fuel stretch)
    | '$' :: rest =>
      moveTo rest 0
      let parts ← readDollar fuel stretch.quoted
      return parts ++ (← readParts fuel stretch)
    | '\x60' :: rest =>
      match splitBackquotes stretch.quoted rest with
      | none => fail "EOF in backquote substitution"
      | some (text, after) =>
        let part ← readBackquoted fuel stretch.quoted text
        moveTo after 0
        return part :: (← readParts fuel stretch)
    | '"' :: rest =>
      match stretch.limit with
      | .quote =>
        moveTo rest 0
        return []
      | .textEnd | .parens _ =>
        moveTo rest 0
        return consText '"' stretch.quoted (← readParts fuel stretch)
      | .operator | .brace =>
        moveTo rest 0
        let parts ← readParts fuel ⟨.quote, true⟩
        return quotedParts parts ++ (← readParts fuel stretch)
    | c :: rest =>
      if c = '\'' ∧ ¬ stretch.quoted then
        let inside := rest.takeWhile (· != '\'')
        match rest.drop inside.length with
        | [] =>
          moveTo [] (newlines inside)
          fail "Unterminated quoted string"
        | _ :: after =>
          moveTo after (newlines inside)
          return .text inside true :: (← readParts fuel stretch)
      else if stretch.limit = .operator ∧ endsWord c then
        return []
      else if stretch.limit = .brace ∧ c = '\x7d' then
        moveTo rest 0
        return []
      else
        let lines := if c = '\n' then 1 else 0
        match stretch.limit, c, rest with
        | .parens 0, ')', ')' :: after =>
          moveTo after 0
          return []
        | .parens n, c, rest =>
          moveTo rest lines
          let opened := if c = '(' then n + 1 else if c = ')' then n - 1 else n
          let stretch := { stretch with limit := .parens opened }
          return consText c stretch.quoted (← readParts fuel stretch)
        | _, c, rest =>
          moveTo rest lines
          return consText c stretch.quoted (← readParts fuel stretch)

def readDollar : Nat → Bool → Reading (List Part)
  | 0, _ => fail "word too long"
  | fuel + 1, quoted => do
    match (← get).rest with
    | '(' :: '(' :: rest =>
      moveTo rest 0
      return [.arithmetic (← readParts fuel ⟨.parens 0, true⟩) quoted]
    | '(' :: rest =>
      let awaited := (← get).awaited
      modify fun c => { c with rest := rest, awaited := [] }
      advance fuel
      let script ← readBody fuel true
      match (← get).token with
      | .rightParen =>
        modify fun c => { c with awaited := awaited }
        return [.output script quoted]
      | _ => unexpected (some "\")\"") true
    | '\x7b' :: rest =>
      match braceName? rest with
      | none =>
        moveTo rest 0
        let _ ← readParts fuel ⟨.brace, quoted⟩
        return [.meaningless]
      | some (name, length, rest) =>
        moveTo rest 0
        return [← readBraces fuel quoted name length]
    | c :: rest =>
      if isNameStart c then
        let cs := c :: rest
        moveTo (cs.dropWhile isNameChar) 0
        return [.parameter (String.ofList (cs.takeWhile isNameChar)) .value quoted]
      else if c.isDigit || isSpecialParameter c then
        moveTo rest 0
        return [.parameter c.toString .value quoted]
      else
        return [.text ['$'] quoted]
    | [] => return [.text ['$'] quoted]

def readBraces : Nat → Bool → String → Bool → Reading Part
  | 0, _, _, _ => fail "word too long"
  | fuel + 1, quoted, name, length => do
    let word := readParts fuel ⟨.brace, quoted⟩
    let operation := fun (nonEmpty : Bool) (c : Char) (rest : List Char) => do
      let use? : Option (Bool → List Part → Use) := match c with
        | '-' => some .orWord
        | '=' => some .orAssign
        | '?' => some .orFail
        | '+' => some .ifSet
        | _ => none
      match use? with
      | none =>
        let _ ← word
        return .meaningless
      | some use =>
        moveTo rest 0
        return .parameter name (use nonEmpty (← word)) quoted
    let trim := fun (atEnd longest : Bool) (rest : List Char) => do
      moveTo rest 0
      let pattern ← readParts fuel ⟨.brace, false⟩
      return .parameter name (.trimmed atEnd longest pattern) quoted
    match length, (← get).rest with
    | _, [] => fail "Missing '\x7d'"
    | true, '\x7d' :: rest =>
      moveTo rest 0
      return .parameter name .length quoted
    | true, _ =>
      let _ ← word
      return .meaningless
    | false, '\x7d' :: rest =>
      moveTo rest 0
      return .parameter name .value quoted
    | false, ':' :: c :: rest => operation true c rest
    | false, '%' :: '%' :: rest => trim true true rest
    | false, '%' :: rest => trim true false rest
    | false, '#' :: '#' :: rest => trim false true rest
    | false, '#' :: rest => trim false false rest
    | false, c :: rest => operation false c rest

def readBackquoted : Nat → Bool → List Char → Reading Part
  | 0, _, _ => fail "word too long"
  | fuel + 1, quoted, text => do
    let outer ← get
    modify fun c => { c with rest := text, line := 1, awaited := [], replaced := [] }
    advance fuel
    let script ← readBody fuel true
    match (← get).token with
    | .finish =>
      modify fun c =>
        { c with
          line := outer.line + newlines text
          awaited := outer.awaited
          replaced := outer.replaced }
      return .output script quoted
    | _ => unexpected none true

def readDocuments : Nat → List Awaited → Reading Unit
  | _, [] => return
  | 0, _ => fail "text too long"
  | fuel + 1, a :: more => do
    let c ← get
    let (text, after) := splitDocument a.mark a.dropTabs (c.rest.length + 1) c.rest
    let lines := newlines (c.rest.take (c.rest.length - after.length))
    let parts ← if a.plain then pure [Part.text text true] else do
      modify fun c => { c with rest := text, awaited := [], replaced := [] }
      readParts fuel ⟨.textEnd, true⟩
    modify fun now =>
      { now with
        rest := after
        token := c.token
        tokenLine := c.tokenLine
        line := c.line + lines
        awaited := more
        replaced := c.replaced
        documents := (a.number, parts) :: now.documents }
    readDocuments fuel more

def advance : Nat → Reading Unit
  | 0 => fail "script too long"
  | fuel + 1 => advanceTo fuel false

def advanceTo : Nat → Bool → Reading Unit
  | 0, _ => fail "script too long"
  | fuel + 1, replacing => do
    let found := fun (token : Token) (rest : List Char) (lines : Nat) =>
      modify fun c : Cursor =>
        let c := comeTo c.rest.length c
        { c with token := token, tokenLine := c.line, rest := rest, line := c.line + lines }
    match (← get).rest with
    | [] => found .finish [] 0
    | '\\' :: '\n' :: rest =>
      moveTo rest 1
      advanceTo fuel replacing
    | '\n' :: rest =>
      found .newline rest 1
      readDocuments fuel (← get).awaited
    | '&' :: '&' :: rest => found .andThen rest 0
    | '|' :: '|' :: rest => found .orElse rest 0
    | ';' :: ';' :: rest => found .doubleSemicolon rest 0
    | c :: rest =>
      match c with
      | ' ' | '\t' =>
        moveTo rest 0
        advanceTo fuel replacing
      | '#' =>
        moveTo (rest.dropWhile (· != '\n')) 0
        advanceTo fuel replacing
      | '&' => found .ampersand rest 0
      | '|' => found .pipe rest 0
      | ';' => found .semicolon rest 0
      | '(' => found .leftParen rest 0
      | ')' => found .rightParen rest 0
      | '<' | '>' =>
        let (arrow, rest) := arrowOf c rest
        found (.redirect (if c = '<' then 0 else 1) arrow) rest 0
      | _ =>
        let line := (← get).line
        modify (comeTo (c :: rest).length)
        let mayReplace := replacing || (← get).mayReplace
        let parts ← readParts fuel ⟨.operator, false⟩
        let after := (← get).rest
        match parts, after with
        | [.text [d] false], arrow :: rest =>
          if d.isDigit && (arrow == '<' || arrow == '>') then
            let (arrow, rest) := arrowOf arrow rest
            found (.redirect (d.toNat - 48) arrow) rest 0
          else
            modify fun c => { c with token := .word parts, tokenLine := line }
        | _, _ => modify fun c => { c with token := .word parts, tokenLine := line }
        let now ← get
        match if mayReplace then alias? now else none with
        | none => return
        | some (name, text) =>
          modify (putIn name text)
          advanceTo fuel true

def replaceAlias : Nat → Reading Unit
  | 0 => fail "script too long"
  | fuel + 1 => do
    let c ← get
    match if c.token.keyword?.isSome then none else alias? c with
    | none => return
    | some (name, text) =>
      modify (putIn name text)
      advance fuel
      replaceAlias fuel

def skipNewlines : Nat → Reading Unit
  | 0 => fail "script too long"
  | fuel + 1 => do
    match (← get).token with
    | .newline =>
      advance fuel
      skipNewlines fuel
    | _ => return

def expect : Nat → String → Reading Unit
  | 0, _ => fail "script too long"
  | fuel + 1, word => do
    if (← get).token.keyword? = some word then
      advance fuel
    else
      unexpected (some ("\"" ++ word ++ "\"")) true

def readBody : Nat → Bool → Reading (List Job)
  | 0, _ => fail "script too long"
  | fuel + 1, mayEnd => do
    skipNewlines fuel
    replaceAlias fuel
    let token := (← get).token
    let closes := match token, token.keyword? with
      | .finish, _ => true
      | .rightParen, _ | .doubleSemicolon, _ => mayEnd
      | _, some word =>
        mayEnd && ["do", "done", "elif", "else", "esac", "fi", "then", "\x7d"].contains word
      | _, none => false
    if closes then
      return []
    let job ← readJob fuel
    match (← get).token with
    | .ampersand =>
      advance fuel
      let (.mk first rest _) := job
      return .mk first rest true :: (← readBody fuel true)
    | .semicolon | .newline =>
      advance fuel
      return job :: (← readBody fuel true)
    | _ => return [job]

def readJob : Nat → Reading Job
  | 0 => fail "script too long"
  | fuel + 1 => do
    let first ← readPipeline fuel
    return .mk first (← readJobRest fuel) false

def readJobRest : Nat → Reading (List (Bool × Pipeline))
  | 0 => fail "script too long"
  | fuel + 1 => do
    let next := fun (onSuccess : Bool) => do
      advance fuel
      skipNewlines fuel
      let pipeline ← readPipeline fuel
      return (onSuccess, pipeline) :: (← readJobRest fuel)
    match (← get).token with
    | .andThen => next true
    | .orElse => next false
    | _ => return []

def readPipeline : Nat → Reading Pipeline
  | 0 => fail "script too long"
  | fuel + 1 => do
    replaceAlias fuel
    let negated := (← get).token.keyword? == some "!"
    if negated then
      advance fuel
    let line := (← get).tokenLine
    let first ← readCommand fuel
    return .mk negated ((line, first) :: (← readPiped fuel))

def readPiped : Nat → Reading (List (Nat × Command))
  | 0 => fail "script too long"
  | fuel + 1 => do
    match (← get).token with
    | .pipe =>
      advance fuel
      skipNewlines fuel
      let line := (← get).tokenLine
      let command ← readCommand fuel
      return (line, command) :: (← readPiped fuel)
    | _ => return []

def readCommand : Nat → Reading Command
  | 0 => fail "script too long"
  | fuel + 1 => do
    replaceAlias fuel
    match (← get).token, (← get).token.keyword? with
    | .leftParen, _ =>
      advance fuel
      let body ← readBody fuel false
      match (← get).token with
      | .rightParen =>
        advance fuel
        return .subshell body (← readRedirects fuel)
      | _ => unexpected (some "\")\"") true
    | _, some "\x7b" =>
      advance fuel
      let body ← readBody fuel false
      expect fuel "\x7d"
      return .group body (← readRedirects fuel)
    | _, some "if" =>
      advance fuel
      let (branches, otherwise) ← readBranches fuel
      expect fuel "fi"
      return .choice branches otherwise (← readRedirects fuel)
    | _, some "while" => readLoop fuel true
    | _, some "until" => readLoop fuel false
    | _, some "for" =>
      advance fuel
      readEach fuel
    | _, some "case" =>
      advance fuel
      match (← get).token with
      | .word word =>
        advance fuel
        skipNewlines fuel
        expect fuel "in"
        let arms ← readArms fuel
        return .cases word arms (← readRedirects fuel)
      | _ => unexpected (some "word") false
    | .word _, none | .redirect _ _, _ => readSimple fuel true [] [] []
    | _, _ => unexpected none true

def readBranches : Nat → Reading (List (List Job × List Job) × List Job)
  | 0 => fail "script too long"
  | fuel + 1 => do
    let condition ← readBody fuel false
    expect fuel "then"
    let body ← readBody fuel false
    match (← get).token.keyword? with
    | some "elif" =>
      advance fuel
      let (branches, otherwise) ← readBranches fuel
      return ((condition, body) :: branches, otherwise)
    | some "else" =>
      advance fuel
      return ([(condition, body)], ← readBody fuel false)
    | _ => return ([(condition, body)], [])

def readLoop : Nat → Bool → Reading Command
  | 0, _ => fail "script too long"
  | fuel + 1, goal => do
    advance fuel
    let condition ← readBody fuel false
    expect fuel "do"
    let body ← readBody fuel false
    expect fuel "done"
    return .loop goal condition body (← readRedirects fuel)

def readEach : Nat → Reading Command
  | 0 => fail "script too long"
  | fuel + 1 => do
    match (← get).token with
    | .word parts =>
      match (plainText? parts).filter isName with
      | none => fail "Bad for loop variable"
      | some name =>
        advance fuel
        skipNewlines fuel
        let words ← if (← get).token.keyword? == some "in" then do
            advance fuel
            let words ← readWords fuel
            match (← get).token with
            | .newline | .semicolon => advance fuel
            | _ => unexpected none false
            pure words
          else do
            match (← get).token with
            | .semicolon => advance fuel
            | _ => pure ()
            pure [[.parameter "@" .value true]]
        skipNewlines fuel
        expect fuel "do"
        let body ← readBody fuel false
        expect fuel "done"
        return .each (String.ofList name) words body (← readRedirects fuel)
    | _ => fail "Bad for loop variable"

def readWords : Nat → Reading (List (List Part))
  | 0 => fail "script too long"
  | fuel + 1 => do
    match (← get).token with
    | .word parts =>
      advance fuel
      return parts :: (← readWords fuel)
    | _ => return []

def readArms : Nat → Reading (List (List (List Part) × List Job))
  | 0 => fail "script too long"
  | fuel + 1 => do
    skipNewlines fuel
    if (← get).token.keyword? = some "esac" then
      advance fuel
      return []
    match (← get).token with
    | .leftParen => advance fuel
    | _ => pure ()
    let patterns ← readPatterns fuel
    let body ← readBody fuel true
    match (← get).token, (← get).token.keyword? with
    | .doubleSemicolon, _ =>
      advance fuel
      return (patterns, body) :: (← readArms fuel)
    | _, some "esac" =>
      advance fuel
      return [(patterns, body)]
    | _, _ => unexpected (some "\";;\"") true

def readPatterns : Nat → Reading (List (List Part))
  | 0 => fail "script too long"
  | fuel + 1 => do
    let pattern := match (← get).token with
      | .word parts => parts
      | _ => []
    advance fuel
    match (← get).token with
    | .pipe =>
      advance fuel
      return pattern :: (← readPatterns fuel)
    | .rightParen =>
      advance fuel
      return [pattern]
    | _ => unexpected (some "\")\"") false

def readRedirect : Nat → Nat → Arrow → Reading Redirect
  | 0, _, _ => fail "script too long"
  | fuel + 1, descriptor, arrow => do
    let before := (← get).rest
    advance fuel
    match (← get).token with
    | .word parts =>
      let written := before.take (before.length - (← get).rest.length)
      let written := written.dropWhile fun c => c == ' ' || c == '\t'
      let redirect ← match arrow with
        | .file opening => pure (Redirect.file descriptor opening parts)
        | .duplicate => pure (Redirect.duplicate descriptor parts)
        | .document dropTabs =>
          let number := (← get).nextDocument
          modify fun c =>
            { c with
              nextDocument := number + 1
              awaited := c.awaited ++
                [⟨number, unquoted written, dropTabs, written.any isQuote⟩] }
          pure (Redirect.document descriptor number)
      advance fuel
      return redirect
    | _ => unexpected none false

def readRedirects : Nat → Reading (List Redirect)
  | 0 => fail "script too long"
  | fuel + 1 => do
    match (← get).token with
    | .redirect descriptor arrow =>
      let redirect ← readRedirect fuel descriptor arrow
      return redirect :: (← readRedirects fuel)
    | _ => return []

/--
A command that is made of words, or the definition of one. `atStart` tells that no word but
assignments has been read so far; what has been read is given last first.
-/
def readSimple : Nat → Bool → List (String × List Part) → List (List Part) → List Redirect →
    Reading Command
  | 0, _, _, _, _ => fail "script too long"
  | fuel + 1, atStart, assignments, words, redirects => do
    if atStart then
      replaceAlias fuel
    match (← get).token with
    | .word parts =>
      let assignment? := match parts with
        | .text cs false :: rest =>
          let name := cs.takeWhile (· != '=')
          match cs.drop name.length with
          | _ :: value =>
            if atStart && isName name then
              some (String.ofList name,
                if value.isEmpty then rest else Part.text value false :: rest)
            else
              none
          | [] => none
        | _ => none
      advance fuel
      match assignment? with
      | some assignment => readSimple fuel true (assignment :: assignments) words redirects
      | none => readSimple fuel false assignments (parts :: words) redirects
    | .redirect descriptor arrow =>
      let redirect ← readRedirect fuel descriptor arrow
      readSimple fuel atStart assignments words (redirect :: redirects)
    | .leftParen =>
      match assignments, words, redirects with
      | [], [word], [] =>
        advance fuel
        match (← get).token with
        | .rightParen =>
          match (plainText? word).filter mayName with
          | none => fail "Bad function name"
          | some name =>
            advance fuel
            skipNewlines fuel
            let line := (← get).tokenLine
            return .define (String.ofList name) line (← readCommand fuel)
        | _ => unexpected (some "\")\"") false
      | _, _, _ => return .simple assignments.reverse words.reverse redirects.reverse
    | _ => return .simple assignments.reverse words.reverse redirects.reverse

end

def readLine : Nat → Reading (List Job)
  | 0 => fail "script too long"
  | fuel + 1 => do
    match (← get).token with
    | .newline | .finish => return []
    | _ =>
      let job ← readJob fuel
      match (← get).token with
      | .ampersand =>
        advance fuel
        let (.mk first rest _) := job
        return .mk first rest true :: (← readLine fuel)
      | .semicolon =>
        advance fuel
        return job :: (← readLine fuel)
      | .newline | .finish => return [job]
      | _ => unexpected none true

def readNext (c : Cursor) : Except ScriptError (List Job × Cursor) :=
  let replaced := c.aliases.foldl (fun n a => n + a.2.length + 1) 1
  let fuel := 8 * c.rest.length + 64 * replaced
  ((do advance fuel; readLine fuel) : Reading (List Job)).run c

def readText (text : String) : List Part :=
  let reading := readParts (8 * text.length + 64) ⟨.textEnd, true⟩
  match reading.run { rest := text.toList } with
  | .ok (parts, _) => parts
  | .error _ => [.text text.toList true]

end DeprecatedUse.Program.Shell
