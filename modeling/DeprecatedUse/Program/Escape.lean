import DeprecatedUse.Program.Basic
import DeprecatedUse.Text.Character

/-!
This module contains the escapes that programs read in the texts that they write: letters behind a
backslash, and bytes by their numbers.
-/

namespace DeprecatedUse.Program

def digitsIn (base : Nat) : (n value : Nat) → List Char → Nat × List Char
  | n + 1, value, c :: rest =>
    match (Text.hexValue? c).filter (· < base) with
    | some d => digitsIn base n (value * base + d) rest
    | none => (value, c :: rest)
  | _, value, cs => (value, cs)

theorem length_digitsIn (base n value : Nat) (cs : List Char) :
    (digitsIn base n value cs).2.length ≤ cs.length := by
  induction n generalizing value cs with
  | zero => cases cs <;> simp [digitsIn]
  | succ n ih =>
    cases cs with
    | nil => simp [digitsIn]
    | cons c rest =>
      rw [digitsIn]
      split
      · exact Nat.le_trans (ih ..) (by simp)
      · simp

def escaped? : Char → Option Char
  | 'a' => some '\x07'
  | 'b' => some '\x08'
  | 'e' => some '\x1b'
  | 'f' => some '\x0c'
  | 'n' => some '\n'
  | 'r' => some '\r'
  | 't' => some '\t'
  | 'v' => some '\x0b'
  | '\\' => some '\\'
  | _ => none

def escapeBytes (c : Char) : List UInt8 :=
  bytesOf (match escaped? c with
    | some x => x.toString
    | none => String.ofList ['\\', c])

def isOctal (c : Char) : Bool :=
  '0' ≤ c && c ≤ '7'

def octalByte (c : Char) (rest : List Char) : Nat × List Char :=
  if c = '0' ∧ rest.head?.any isOctal then digitsIn 8 3 0 rest else digitsIn 8 3 0 (c :: rest)

theorem length_octalByte (c : Char) (rest : List Char) :
    (octalByte c rest).2.length ≤ rest.length + 1 := by
  rw [octalByte]
  split
  · exact Nat.le_trans (length_digitsIn ..) (Nat.le_succ _)
  · exact length_digitsIn ..

def readEscapes (hexadecimal : Bool) : List Char → List UInt8 × Bool
  | [] => ([], true)
  | '\\' :: 'c' :: _ => ([], false)
  | '\\' :: c :: rest =>
    if isOctal c then
      let (bytes, more) := readEscapes hexadecimal (octalByte c rest).2
      ((octalByte c rest).1.toUInt8 :: bytes, more)
    else if hexadecimal ∧ c = 'x' ∧ rest.head?.any (fun d => (Text.hexValue? d).isSome) then
      let (bytes, more) := readEscapes hexadecimal (digitsIn 16 2 0 rest).2
      ((digitsIn 16 2 0 rest).1.toUInt8 :: bytes, more)
    else
      let (bytes, more) := readEscapes hexadecimal rest
      (escapeBytes c ++ bytes, more)
  | c :: rest =>
    let (bytes, more) := readEscapes hexadecimal rest
    (bytesOf c.toString ++ bytes, more)
termination_by cs => cs.length
decreasing_by
  · have := length_octalByte c rest
    simp only [List.length_cons]
    omega
  · have := length_digitsIn 16 2 0 rest
    simp only [List.length_cons]
    omega
  all_goals
    simp only [List.length_cons]
    omega

end DeprecatedUse.Program
