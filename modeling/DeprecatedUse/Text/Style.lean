/-!
This module contains text in colours for terminals. A style is switched on by a sequence of numbers
before the text and switched off behind it.
-/

namespace DeprecatedUse.Text

inductive Colour where
  | red
  | green
  | yellow
  | cyan
  | brightBlue
deriving DecidableEq, Repr

def Colour.code : Colour → Nat
  | .red => 31
  | .green => 32
  | .yellow => 33
  | .cyan => 36
  | .brightBlue => 94

structure Style where
  bold : Bool := false
  dimmed : Bool := false
  colour : Option Colour := none
deriving DecidableEq, Repr

namespace Style

def codes (s : Style) : List Nat :=
  (if s.bold then [1] else []) ++ (if s.dimmed then [2] else [])
    ++ (s.colour.map Colour.code).toList

def sequence (codes : List Nat) : List Char :=
  ['\x1b', '['] ++ (";".intercalate (codes.map toString)).toList ++ ['m']

def reset : List Char :=
  sequence [0]

def writeBehind (mark extra : List Char) : List Char → List Char
  | [] => []
  | c :: rest =>
    match mark.isPrefixOf? (c :: rest) with
    | none => c :: writeBehind mark extra rest
    | some tail =>
      if tail.length ≤ rest.length then
        mark ++ extra ++ writeBehind mark extra tail
      else
        c :: rest
termination_by cs => cs.length
decreasing_by
  · simp
  · simp
    omega

/--
A text in a style, or as it is when colours are not wanted. Where the text itself switches styles
off, its own style is switched on again.
-/
def paint (s : Style) (coloured : Bool) (text : String) : String :=
  if coloured then
    let start := sequence s.codes
    String.ofList (start ++ writeBehind reset start text.toList ++ reset)
  else
    text

end Style

end DeprecatedUse.Text
