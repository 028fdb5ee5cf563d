import DeprecatedUse.Text.CombiningClass
import DeprecatedUse.Text.Decomposition

/-!
This module contains the composed form of texts. Texts that differ only in the way in which letters
and marks are put together have the same one. A text is handled as the list of its code points.
-/

namespace DeprecatedUse.Text

/-! Korean syllables are put together by counting. -/

def syllableParts? (n : Nat) : Option (List Nat) :=
  if 0xAC00 ≤ n ∧ n < 0xAC00 + 11172 then
    let index := n - 0xAC00
    let lead := 0x1100 + index / 588
    let vowel := 0x1161 + index % 588 / 28
    some (if index % 28 = 0 then [lead, vowel] else [lead, vowel, 0x11A7 + index % 28])
  else
    none

def syllable? (a b : Nat) : Option Nat :=
  if 0x1100 ≤ a ∧ a < 0x1113 ∧ 0x1161 ≤ b ∧ b < 0x1176 then
    some (0xAC00 + ((a - 0x1100) * 21 + (b - 0x1161)) * 28)
  else if 0xAC00 ≤ a ∧ a < 0xAC00 + 11172 ∧ (a - 0xAC00) % 28 = 0 ∧ 0x11A8 ≤ b ∧ b < 0x11C3 then
    some (a + (b - 0x11A7))
  else
    none

/-! Taking apart. -/

def parts? (n : Nat) : Option (List Nat) :=
  (syllableParts? n).or ((compositeRows.lookup n).or (oneWayRows.lookup n))

/--
What a code point stands for in the end; parts are taken apart again, at most `depth` times.
-/
def takeApart : (depth : Nat) → Nat → List Nat
  | 0, n => [n]
  | depth + 1, n =>
    match parts? n with
    | none => [n]
    | some parts => parts.flatMap (takeApart depth)

def greatestDepth : Nat := 4

def insertMark (n : Nat) : List Nat → List Nat
  | [] => [n]
  | m :: rest =>
    if 0 < combiningClass m && combiningClass m < combiningClass n then
      m :: insertMark n rest
    else
      n :: m :: rest

def decomposed (ns : List Nat) : List Nat :=
  (ns.flatMap (takeApart greatestDepth)).foldr insertMark []

/-! Putting together. -/

def composite? (a b : Nat) : Option Nat :=
  (syllable? a b).or ((compositeRows.find? fun (_, parts) => parts == [a, b]).map Prod.fst)

/--
Put marks and letters together from left to right. `starter` is the letter that is worked on, and
`marks` are those behind it that stay, last first.
-/
def composeFrom (starter : Nat) (marks : List Nat) : List Nat → List Nat
  | [] => starter :: marks.reverse
  | n :: rest =>
    let number := combiningClass n
    let reached := match marks with
      | [] => true
      | mark :: _ => decide (combiningClass mark < number)
    match if reached then composite? starter n else none with
    | some whole => composeFrom whole marks rest
    | none =>
      if number = 0 then
        starter :: marks.reverse ++ composeFrom n [] rest
      else
        composeFrom starter (n :: marks) rest

def compose : List Nat → List Nat
  | [] => []
  | n :: rest => if combiningClass n = 0 then composeFrom n [] rest else n :: compose rest

def composed (cs : List Char) : List Char :=
  (compose (decomposed (cs.map Char.toNat))).map Char.ofNat

end DeprecatedUse.Text
