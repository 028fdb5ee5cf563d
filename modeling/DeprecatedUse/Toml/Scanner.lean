import DeprecatedUse.Text.Character
import DeprecatedUse.Toml.Basic

/-!
This module contains the reading of what has no parts in a TOML text: blanks, comments, strings,
keys, numbers and times.
-/

namespace DeprecatedUse.Toml

abbrev Scan (α : Type) := List Char → Option (α × List Char)

namespace Scanner

/-! Blanks, comments and line breaks. -/

def isBlank (c : Char) : Bool :=
  c == ' ' || c == '\t'

def skipBlanks (cs : List Char) : List Char :=
  cs.dropWhile isBlank

def isPrintable (c : Char) : Bool :=
  c == '\t' || (0x20 ≤ c.toNat && c.toNat != 0x7f)

def newline? : List Char → Option (List Char)
  | '\n' :: rest => some rest
  | '\r' :: '\n' :: rest => some rest
  | _ => none

def skipComment : List Char → List Char
  | '#' :: rest => rest.dropWhile isPrintable
  | cs => cs

def lineEnd? (cs : List Char) : Option (List Char) :=
  match skipComment (skipBlanks cs) with
  | [] => some []
  | cs => newline? cs

def skipLines (cs : List Char) : List Char :=
  match cs with
  | [] => []
  | c :: rest =>
    if isBlank c then
      skipLines rest
    else
      match newline? (skipComment (c :: rest)) with
      | none => c :: rest
      | some after => if after.length < (c :: rest).length then skipLines after else c :: rest
termination_by cs.length
decreasing_by
  · simp only [List.length_cons]
    omega
  · assumption

/-! Strings. -/

def hexChar? (digits : Nat) (cs : List Char) : Option (Char × List Char) := do
  let values ← (cs.take digits).mapM Text.hexValue?
  let n := values.foldl (fun n d => n * 16 + d) 0
  if values.length = digits && (n < 0xD800 || (0xE000 ≤ n && n < 0x110000)) then
    return (Char.ofNat n, cs.drop digits)
  else
    none

def escape? : List Char → Option (Char × List Char)
  | 'b' :: rest => some ('\x08', rest)
  | 't' :: rest => some ('\t', rest)
  | 'n' :: rest => some ('\n', rest)
  | 'f' :: rest => some ('\x0c', rest)
  | 'r' :: rest => some ('\r', rest)
  | '"' :: rest => some ('"', rest)
  | '\\' :: rest => some ('\\', rest)
  | 'u' :: rest => hexChar? 4 rest
  | 'U' :: rest => hexChar? 8 rest
  | _ => none

def basic? : Nat → List Char → Scan String
  | 0, _, _ => none
  | fuel + 1, done, cs =>
    match cs with
    | [] => none
    | '"' :: rest => some (String.ofList done.reverse, rest)
    | '\\' :: rest => do
      let (c, rest) ← escape? rest
      basic? fuel (c :: done) rest
    | c :: rest => if isPrintable c then basic? fuel (c :: done) rest else none

def literal? (cs : List Char) : Option (String × List Char) :=
  let inside := cs.takeWhile fun c => isPrintable c && c != '\''
  match cs.drop inside.length with
  | '\'' :: rest => some (String.ofList inside, rest)
  | _ => none

def skipBreaks : List Char → List Char
  | '\n' :: rest => skipBreaks rest
  | '\r' :: '\n' :: rest => skipBreaks rest
  | c :: rest => if isBlank c then skipBreaks rest else c :: rest
  | [] => []

def skipContinuation? (cs : List Char) : Option (List Char) :=
  (newline? (skipBlanks cs)).map skipBreaks

def closing? (quote : Char) (cs : List Char) : Option (List Char × List Char) :=
  let n := (cs.takeWhile (· == quote)).length
  if n < 3 then none
  else if n ≤ 5 then some (List.replicate (n - 3) quote, cs.drop n)
  else some ([quote, quote], cs.drop 5)

/--
A string over several lines behind its opening quotes. A line break is always read as a line feed.
-/
def multiLine? (quote : Char) : Nat → List Char → Scan String
  | 0, _, _ => none
  | fuel + 1, done, cs =>
    match closing? quote cs with
    | some (quotes, rest) => some (String.ofList (done.reverse ++ quotes), rest)
    | none =>
      match newline? cs with
      | some rest => multiLine? quote fuel ('\n' :: done) rest
      | none =>
        match cs with
        | [] => none
        | c :: rest =>
          if c == '\\' && quote == '"' then
            match skipContinuation? rest with
            | some rest => multiLine? quote fuel done rest
            | none => do
              let (c, rest) ← escape? rest
              multiLine? quote fuel (c :: done) rest
          else if isPrintable c then
            multiLine? quote fuel (c :: done) rest
          else
            none

def dropFirstBreak (cs : List Char) : List Char :=
  (newline? cs).getD cs

def string? : Scan String
  | '"' :: '"' :: '"' :: rest => multiLine? '"' (rest.length + 1) [] (dropFirstBreak rest)
  | '\'' :: '\'' :: '\'' :: rest => multiLine? '\'' (rest.length + 1) [] (dropFirstBreak rest)
  | '"' :: rest => basic? (rest.length + 1) [] rest
  | '\'' :: rest => literal? rest
  | _ => none

/-! Keys. -/

def isBareKey (c : Char) : Bool :=
  c.isAlphanum || c == '-' || c == '_'

def simpleKey? : Scan String
  | '"' :: rest => basic? (rest.length + 1) [] rest
  | '\'' :: rest => literal? rest
  | cs =>
    match cs.takeWhile isBareKey with
    | [] => none
    | name => some (String.ofList name, cs.dropWhile isBareKey)

def keyFrom? : Nat → List String → Scan (List String)
  | 0, _, _ => none
  | fuel + 1, done, cs => do
    let (part, rest) ← simpleKey? (skipBlanks cs)
    match skipBlanks rest with
    | '.' :: rest => keyFrom? fuel (part :: done) rest
    | rest => return ((part :: done).reverse, rest)

def nestingLimit : Nat := 79

def key? (cs : List Char) : Option (List String × List Char) := do
  let (parts, rest) ← keyFrom? (cs.length + 1) [] cs
  if parts.length ≤ nestingLimit then some (parts, rest) else none

/-! Numbers. -/

def digitsFrom (isDigit : Char → Bool) : List Char → List Char × List Char
  | c :: d :: rest =>
    if isDigit c then
      let (ds, after) := digitsFrom isDigit (d :: rest)
      (c :: ds, after)
    else if c == '_' && isDigit d then
      digitsFrom isDigit (d :: rest)
    else
      ([], c :: d :: rest)
  | [c] => if isDigit c then ([c], []) else ([], [c])
  | [] => ([], [])

def digits? (isDigit : Char → Bool) : Scan (List Char)
  | [] => none
  | c :: rest => if isDigit c then some (digitsFrom isDigit (c :: rest)) else none

def sign : List Char → Bool × List Char
  | '+' :: rest => (false, rest)
  | '-' :: rest => (true, rest)
  | cs => (false, cs)

def decimal? : Scan (List Char)
  | '0' :: rest => some (['0'], rest)
  | cs => digits? Char.isDigit cs

def natOf (base : Nat) (ds : List Char) : Nat :=
  ds.foldl (fun n d => n * base + (Text.hexValue? d).getD 0) 0

def bounded? (n : Int) : Option Int :=
  if -9223372036854775808 ≤ n ∧ n ≤ 9223372036854775807 then some n else none

def based? (base : Nat) (cs : List Char) : Option (Value × List Char) := do
  let (ds, rest) ← digits? (fun c => (Text.hexValue? c).any (· < base)) cs
  let n ← bounded? (natOf base ds)
  return (.integer n, rest)

def integer? : Scan Value
  | '0' :: 'x' :: rest => based? 16 rest
  | '0' :: 'o' :: rest => based? 8 rest
  | '0' :: 'b' :: rest => based? 2 rest
  | cs => do
    let (negative, rest) := sign cs
    let (ds, rest) ← decimal? rest
    let n := natOf 10 ds
    let n ← bounded? (if negative then -(n : Int) else n)
    return (.integer n, rest)

def fraction? : Scan (List Char)
  | '.' :: rest => digits? Char.isDigit rest
  | cs => some ([], cs)

def exponent? : Scan (Option Int)
  | c :: rest =>
    if c == 'e' || c == 'E' then do
      let (negative, rest) := sign rest
      let (ds, rest) ← digits? Char.isDigit rest
      let n := natOf 10 ds
      return (some (if negative then -(n : Int) else n), rest)
    else
      some (none, c :: rest)
  | [] => some (none, [])

/--
Is `mantissa * 10 ^ exponent` too great for a floating-point number of sixty-four bits? The least
number that is rounded to infinity lies half a unit above the greatest one that is not.
-/
def overflows (mantissa : Nat) (exponent : Int) : Bool :=
  let magnitude : Int := (Nat.toDigits 10 mantissa).length + exponent
  if mantissa = 0 || magnitude ≤ 308 then
    false
  else if 309 < magnitude then
    true
  else
    let bound := Nat.pow 2 1024 - Nat.pow 2 970
    if 0 ≤ exponent then
      bound ≤ mantissa * Nat.pow 10 exponent.toNat
    else
      bound * Nat.pow 10 (-exponent).toNat ≤ mantissa

def float? (cs : List Char) : Option (Value × List Char) := do
  let (negative, rest) := sign cs
  let (whole, rest) ← decimal? rest
  let (fraction, rest) ← fraction? rest
  let (exponent, rest) ← exponent? rest
  if fraction.isEmpty && exponent.isNone then
    none
  else if !negative
      && overflows (natOf 10 (whole ++ fraction)) (exponent.getD 0 - fraction.length) then
    none
  else
    return (.float (String.ofList (cs.take (cs.length - rest.length))), rest)

def specialFloat? (cs : List Char) : Option (Value × List Char) :=
  match (sign cs).2 with
  | 'i' :: 'n' :: 'f' :: rest => some (.float "inf", rest)
  | 'n' :: 'a' :: 'n' :: rest => some (.float "nan", rest)
  | _ => none

/-! Times. -/

def twoDigits? (least greatest : Nat) : Scan Nat
  | a :: b :: rest =>
    let n := natOf 10 [a, b]
    if a.isDigit && b.isDigit && least ≤ n && n ≤ greatest then some (n, rest) else none
  | _ => none

def mark? (c : Char) : List Char → Option (List Char)
  | x :: rest => if x == c then some rest else none
  | [] => none

def daysIn (year month : Nat) : Nat :=
  if month = 2 then
    if year % 4 = 0 && (year % 100 != 0 || year % 400 = 0) then 29 else 28
  else if [4, 6, 9, 11].contains month then 30
  else 31

def date? (cs : List Char) : Option (List Char) := do
  let digits := cs.take 4
  if digits.length = 4 && digits.all Char.isDigit then
    let (month, rest) ← twoDigits? 1 12 (← mark? '-' (cs.drop 4))
    let (_, rest) ← twoDigits? 1 (daysIn (natOf 10 digits) month) (← mark? '-' rest)
    return rest
  else
    none

def time? (cs : List Char) : Option (List Char) := do
  let (_, rest) ← twoDigits? 0 23 cs
  let (_, rest) ← twoDigits? 0 59 (← mark? ':' rest)
  let (_, rest) ← twoDigits? 0 60 (← mark? ':' rest)
  match rest with
  | '.' :: d :: after => if d.isDigit then return after.dropWhile Char.isDigit else return rest
  | _ => return rest

def skipOffset (cs : List Char) : List Char :=
  match cs with
  | c :: rest =>
    if c == 'Z' || c == 'z' then
      rest
    else if c == '+' || c == '-' then
      let offset := do
        let (_, rest) ← twoDigits? 0 23 rest
        let (_, rest) ← twoDigits? 0 59 (← mark? ':' rest)
        return rest
      offset.getD cs
    else
      cs
  | [] => []

def skipTime (cs : List Char) : List Char :=
  match cs with
  | c :: rest =>
    if c == 'T' || c == 't' || c == ' ' then ((time? rest).map skipOffset).getD cs else cs
  | [] => []

def dateTime? (cs : List Char) : Option (Value × List Char) := do
  let rest ← ((date? cs).map skipTime).or (time? cs)
  return (.dateTime (String.ofList (cs.take (cs.length - rest.length))), rest)

def scalar? (cs : List Char) : Option (Value × List Char) :=
  match cs with
  | '"' :: _ | '\'' :: _ => (string? cs).map fun (s, rest) => (.string s, rest)
  | 't' :: 'r' :: 'u' :: 'e' :: rest => some (.boolean true, rest)
  | 'f' :: 'a' :: 'l' :: 's' :: 'e' :: rest => some (.boolean false, rest)
  | _ => (dateTime? cs).or ((float? cs).or ((specialFloat? cs).or (integer? cs)))

end Scanner

end DeprecatedUse.Toml
