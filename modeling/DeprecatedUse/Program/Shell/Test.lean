import DeprecatedUse.Program.Basic
import DeprecatedUse.Program.Shell.Arithmetic

/-!
This module contains the conditions that the shell can test: texts, numbers and files.
-/

namespace DeprecatedUse.Program.Shell.Test

def unaryOperators : List String :=
  ["-b", "-c", "-d", "-e", "-f", "-g", "-h", "-k", "-L", "-n", "-O", "-G", "-p", "-r", "-s", "-S",
    "-t", "-u", "-w", "-x", "-z"]

def binaryOperators : List String :=
  ["=", "!=", "<", ">", "-eq", "-ne", "-gt", "-ge", "-lt", "-le", "-nt", "-ot", "-ef"]

def number (text : String) : Except String Int :=
  let cs := (text.toList.dropWhile (· == ' ')).reverse.dropWhile (· == ' ') |>.reverse
  let (negative, ds) := match cs with
    | '-' :: ds => (true, ds)
    | '+' :: ds => (false, ds)
    | ds => (false, ds)
  let n : Nat := ds.foldl (fun n d => n * 10 + (d.toNat - 48)) 0
  if ds ≠ [] ∧ ds.all Char.isDigit ∧ n ≤ 9223372036854775807 then
    .ok (if negative then -n else n)
  else
    .error ("Illegal number: " ++ text)

def unary (here : Place) (operator operand : String) : Bool :=
  let node := (here.find (pathOf operand)).toOption.map Prod.snd
  match operator, node with
  | "-n", _ => operand != ""
  | "-z", _ => operand == ""
  | "-e", node | "-r", node | "-w", node | "-O", node | "-G", node => node.isSome
  | "-d", some .folder | "-x", some .folder | "-x", some (.program _) => true
  | "-f", some (.program _) | "-s", some (.program _) | "-c", some (.device _) => true
  | "-f", some (.file _) => true
  | "-s", some (.file content) => !content.isEmpty
  | "-s", some .folder => true
  | _, _ => false

def binary (here : Place) (left operator right : String) : Except String Bool :=
  let compare := fun test : Int → Int → Bool => do
    let a ← number left
    let b ← number right
    return test a b
  match operator with
  | "=" => .ok (left == right)
  | "!=" => .ok (left != right)
  | "<" => .ok (decide (left < right))
  | ">" => .ok (decide (right < left))
  | "-eq" => compare fun a b => a == b
  | "-ne" => compare fun a b => a != b
  | "-gt" => compare fun a b => decide (b < a)
  | "-ge" => compare fun a b => decide (b ≤ a)
  | "-lt" => compare fun a b => decide (a < b)
  | "-le" => compare fun a b => decide (a ≤ b)
  | "-ef" =>
    .ok (match here.find (pathOf left), here.find (pathOf right) with
      | .ok (a, _), .ok (b, _) => a == b
      | _, _ => false)
  | _ => .ok false

def looksLikeOperand : List String → Bool
  | [_] => true
  | [_, _] => false
  | _ :: op :: next :: _ => binaryOperators.contains op && next != ")"
  | [] => true

mutual

def anyOf (here : Place) : Nat → List String → Except String (Bool × String × List String)
  | 0, _ => .error "too many arguments"
  | fuel + 1, words => do
    let (first, last, rest) ← allOf here fuel words
    match rest with
    | "-o" :: rest =>
      let (more, last, rest) ← anyOf here fuel rest
      return (first || more, last, rest)
    | rest => return (first, last, rest)

def allOf (here : Place) : Nat → List String → Except String (Bool × String × List String)
  | 0, _ => .error "too many arguments"
  | fuel + 1, words => do
    let (first, last, rest) ← single here fuel words
    match rest with
    | "-a" :: rest =>
      let (more, last, rest) ← allOf here fuel rest
      return (first && more, last, rest)
    | rest => return (first, last, rest)

def single (here : Place) : Nat → List String → Except String (Bool × String × List String)
  | 0, _ => .error "too many arguments"
  | fuel + 1, words => do
    match words with
    | [] => return (false, "", [])
    | word :: rest =>
      if word = "!" ∧ rest ≠ [] then
        let (value, last, rest) ← single here fuel rest
        return (!value, last, rest)
      else if word = "(" ∧ rest ≠ [] then
        match rest with
        | ")" :: rest => return (false, ")", rest)
        | rest =>
          let (value, _, rest) ← anyOf here fuel rest
          match rest with
          | ")" :: rest => return (value, ")", rest)
          | _ => throw "closing paren expected"
      else if unaryOperators.contains word && !looksLikeOperand words then
        match rest with
        | [] => throw (word ++ ": argument expected")
        | operand :: rest =>
          if word = "-t" then
            let _ ← number operand
          return (unary here word operand, operand, rest)
      else
        match rest with
        | op :: more =>
          if binaryOperators.contains op then
            match more with
            | [] => throw (op ++ ": argument expected")
            | right :: rest => return (← binary here word op right, right, rest)
          else
            return (word != "", word, rest)
        | [] => return (word != "", word, [])

end

def holds (here : Place) : Nat → List String → Except String Bool
  | 0, _ => .error "too many arguments"
  | fuel + 1, words => do
    let general := do
      let (value, last, rest) ← anyOf here (4 * words.length + 4) words
      if rest.isEmpty then
        return value
      throw ((if last = "" then "" else last ++ ": ") ++ "unexpected operator")
    match words with
    | [] => return false
    | [left, op, right] =>
      if binaryOperators.contains op then
        binary here left op right
      else if left = "(" ∧ right = ")" then
        holds here fuel [op]
      else if left = "!" then
        return !(← holds here fuel [op, right])
      else
        general
    | [first, a, b, last] =>
      if first = "(" ∧ last = ")" then
        holds here fuel [a, b]
      else if first = "!" then
        return !(← holds here fuel [a, b, last])
      else
        general
    | _ => general

end DeprecatedUse.Program.Shell.Test
