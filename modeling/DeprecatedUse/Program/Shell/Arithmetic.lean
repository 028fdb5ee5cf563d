import DeprecatedUse.Program.Shell.Script
import DeprecatedUse.Text.Character

/-!
This module contains the arithmetic of the shell: whole numbers of sixty-four bits, variables, and
the operators with their precedence.
-/

namespace DeprecatedUse.Program.Shell

inductive Expr where
  | number (value : Int)
  | variable (name : String)
  | assign (name operator : String) (value : Expr)
  | unary (operator : Char) (operand : Expr)
  | binary (operator : String) (left right : Expr)
  | select (condition yes no : Expr)
deriving Inhabited

inductive ArithmeticError where
  | expecting (what : String)
  | divisionByZero
  | illegalNumber (text : String)
deriving DecidableEq, Repr, Inhabited

namespace Arithmetic

inductive Token where
  | number (value : Int)
  | name (text : String)
  | operator (text : String)
  | other (c : Char)
deriving DecidableEq, Repr, Inhabited

def operators : List String :=
  ["<<=", ">>=", "<<", ">>", "<=", ">=", "==", "!=", "&&", "||", "+=", "-=", "*=", "/=", "%=", "&=",
    "^=", "|=", "+", "-", "*", "/", "%", "&", "|", "^", "~", "!", "<", ">", "=", "?", ":", "(", ")"]

def wrap (n : Int) : Int :=
  Int.bmod n 18446744073709551616

def digitsAt (base : Nat) (cs : List Char) : Nat × List Char :=
  let isDigit := fun c => (Text.hexValue? c).any (· < base)
  let ds := cs.takeWhile isDigit
  (ds.foldl (fun n d => n * base + (Text.hexValue? d).getD 0) 0, cs.drop ds.length)

def numberAt (cs : List Char) : Int × List Char :=
  let (n, rest) := match cs with
    | '0' :: x :: d :: ds =>
      if (x = 'x' ∨ x = 'X') ∧ (Text.hexValue? d).isSome then digitsAt 16 (d :: ds)
      else digitsAt 8 cs
    | '0' :: _ => digitsAt 8 cs
    | _ => digitsAt 10 cs
  (min (n : Int) 9223372036854775807, rest)

def tokens : Nat → List Char → List Token
  | 0, _ => []
  | _, [] => []
  | fuel + 1, c :: rest =>
    if c = ' ' ∨ c = '\t' ∨ c = '\n' then
      tokens fuel rest
    else if c.isDigit then
      let (n, rest) := numberAt (c :: rest)
      .number n :: tokens fuel rest
    else if isNameStart c then
      let name := (c :: rest).takeWhile isNameChar
      .name (String.ofList name) :: tokens fuel ((c :: rest).drop name.length)
    else
      match operators.find? fun op => op.toList.isPrefixOf (c :: rest) with
      | none => .other c :: tokens fuel rest
      | some op => .operator op :: tokens fuel ((c :: rest).drop op.length)

def strength? : String → Option Nat
  | "||" => some 1
  | "&&" => some 2
  | "|" => some 3
  | "^" => some 4
  | "&" => some 5
  | "==" | "!=" => some 6
  | "<" | "<=" | ">" | ">=" => some 7
  | "<<" | ">>" => some 8
  | "+" | "-" => some 9
  | "*" | "/" | "%" => some 10
  | _ => none

def assignment? (op : String) : Option String :=
  if ["=", "<<=", ">>=", "+=", "-=", "*=", "/=", "%=", "&=", "^=", "|="].contains op then
    some (String.ofList (op.toList.dropLast))
  else
    none

mutual

def parseWhole : Nat → List Token → Except ArithmeticError (Expr × List Token)
  | 0, _ => .error (.expecting "primary")
  | fuel + 1, tokens => do
    let plain := do
      let (condition, rest) ← parseFrom fuel 1 tokens
      match rest with
      | .operator "?" :: rest =>
        let (yes, rest) ← parseWhole fuel rest
        match rest with
        | .operator ":" :: rest =>
          let (no, rest) ← parseWhole fuel rest
          return (.select condition yes no, rest)
        | _ => throw (.expecting "':'")
      | _ => return (condition, rest)
    match tokens with
    | .name name :: .operator op :: rest =>
      match assignment? op with
      | some op =>
        let (value, rest) ← parseWhole fuel rest
        return (.assign name op value, rest)
      | none => plain
    | _ => plain

def parseFrom : Nat → Nat → List Token → Except ArithmeticError (Expr × List Token)
  | 0, _, _ => .error (.expecting "primary")
  | fuel + 1, least, tokens => do
    let (left, rest) ← parsePrimary fuel tokens
    parseOperators fuel least left rest

def parseOperators : Nat → Nat → Expr → List Token → Except ArithmeticError (Expr × List Token)
  | 0, _, _, _ => .error (.expecting "primary")
  | fuel + 1, least, left, tokens =>
    match tokens with
    | .operator op :: rest =>
      match strength? op with
      | none => .ok (left, tokens)
      | some strength =>
        if strength < least then
          .ok (left, tokens)
        else do
          let (right, rest) ← parseFrom fuel (strength + 1) rest
          parseOperators fuel least (.binary op left right) rest
    | _ => .ok (left, tokens)

def parsePrimary : Nat → List Token → Except ArithmeticError (Expr × List Token)
  | 0, _ => .error (.expecting "primary")
  | fuel + 1, tokens =>
    let unary := fun (c : Char) (rest : List Token) => do
      let (operand, rest) ← parsePrimary fuel rest
      return (Expr.unary c operand, rest)
    match tokens with
    | .number n :: rest => .ok (.number n, rest)
    | .name name :: rest => .ok (.variable name, rest)
    | .operator "(" :: rest => do
      let (inner, rest) ← parseWhole fuel rest
      match rest with
      | .operator ")" :: rest => return (inner, rest)
      | _ => throw (.expecting "')'")
    | .operator "-" :: rest => unary '-' rest
    | .operator "+" :: rest => unary '+' rest
    | .operator "!" :: rest => unary '!' rest
    | .operator "~" :: rest => unary '~' rest
    | _ => .error (.expecting "primary")

end

def parse (text : List Char) : Except ArithmeticError Expr := do
  let read := tokens (text.length + 1) text
  let (expr, rest) ← parseWhole (4 * read.length + 8) read
  if rest.isEmpty then return expr else throw (.expecting "EOF")

def truth (b : Bool) : Int :=
  if b then 1 else 0

def shift (n : Int) (places : Int) : Int :=
  wrap (n * Int.ofNat (Nat.pow 2 (places % 64).toNat))

def bits (n : Int) : Nat :=
  (n % 18446744073709551616).toNat

def apply (op : String) (a b : Int) : Except ArithmeticError Int :=
  let divide := fun f : Int → Int → Int => if b = 0 then .error .divisionByZero else .ok (f a b)
  match op with
  | "|" => .ok (wrap (bits a ||| bits b))
  | "^" => .ok (wrap (bits a ^^^ bits b))
  | "&" => .ok (wrap (bits a &&& bits b))
  | "==" => .ok (truth (a = b))
  | "!=" => .ok (truth (a ≠ b))
  | "<" => .ok (truth (a < b))
  | "<=" => .ok (truth (a ≤ b))
  | ">" => .ok (truth (b < a))
  | ">=" => .ok (truth (b ≤ a))
  | "<<" => .ok (shift a b)
  | ">>" => .ok (Int.fdiv a (Int.ofNat (Nat.pow 2 (b % 64).toNat)))
  | "+" => .ok (wrap (a + b))
  | "-" => .ok (wrap (a - b))
  | "*" => .ok (wrap (a * b))
  | "/" => (divide Int.tdiv).map wrap
  | "%" => divide Int.tmod
  | _ => .ok b

def variableValue (text : String) : Except ArithmeticError Int :=
  let cs := (text.toList.dropWhile (· == ' ')).reverse.dropWhile (· == ' ') |>.reverse
  let (negative, digits) := match cs with
    | '-' :: ds => (true, ds)
    | '+' :: ds => (false, ds)
    | ds => (false, ds)
  if cs = [] then
    .ok 0
  else
    match digits.head?.any Char.isDigit, numberAt digits with
    | true, (n, []) => .ok (if negative then -n else n)
    | _, _ => .error (.illegalNumber text)

def eval (get : String → Option String) :
    Expr → List (String × Int) → Except ArithmeticError (Int × List (String × Int))
  | .number n, vars => .ok (n, vars)
  | .variable name, vars =>
    match vars.lookup name with
    | some n => .ok (n, vars)
    | none => (variableValue ((get name).getD "")).map (·, vars)
  | .assign name op value, vars => do
    let (right, vars) ← eval get value vars
    let result ← if op = "" then pure right else do
      let left ← match vars.lookup name with
        | some n => pure n
        | none => variableValue ((get name).getD "")
      apply op left right
    return (result, (name, result) :: vars)
  | .unary c operand, vars => do
    let (n, vars) ← eval get operand vars
    return (match c with
      | '-' => wrap (-n)
      | '!' => truth (n = 0)
      | '~' => -n - 1
      | _ => n, vars)
  | .binary "&&" left right, vars => do
    let (a, vars) ← eval get left vars
    if a = 0 then
      return (0, vars)
    let (b, vars) ← eval get right vars
    return (truth (b ≠ 0), vars)
  | .binary "||" left right, vars => do
    let (a, vars) ← eval get left vars
    if a ≠ 0 then
      return (1, vars)
    let (b, vars) ← eval get right vars
    return (truth (b ≠ 0), vars)
  | .binary op left right, vars => do
    let (a, vars) ← eval get left vars
    let (b, vars) ← eval get right vars
    return (← apply op a b, vars)
  | .select condition yes no, vars => do
    let (n, vars) ← eval get condition vars
    if n ≠ 0 then eval get yes vars else eval get no vars

end Arithmetic

end DeprecatedUse.Program.Shell
