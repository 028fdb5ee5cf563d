/-!
This module contains kinds of characters: sets of code points, written as increasing lists of ranges,
the characters with the Unicode property `White_Space`, and hexadecimal digits.
-/

namespace DeprecatedUse.Text

abbrev Ranges := List (Nat × Nat)

/--
Does a range of the set hold `n`? The ranges increase, so the search ends at the first range that
starts above `n`.
-/
def Ranges.contains : Ranges → Nat → Bool
  | [], _ => false
  | (lo, hi) :: rest, n => decide (lo ≤ n) && (decide (n ≤ hi) || contains rest n)

/-! Blanks. -/

def blankRanges : Ranges :=
  [(0x9, 0xD), (0x20, 0x20), (0x85, 0x85), (0xA0, 0xA0), (0x1680, 0x1680), (0x2000, 0x200A),
  (0x2028, 0x2029), (0x202F, 0x202F), (0x205F, 0x205F), (0x3000, 0x3000)]

def isBlank (c : Char) : Bool :=
  blankRanges.contains c.toNat

/-! Hexadecimal digits. -/

def hexValue? (c : Char) : Option Nat :=
  if '0' ≤ c ∧ c ≤ '9' then some (c.toNat - 48)
  else if 'a' ≤ c ∧ c ≤ 'f' then some (c.toNat - 87)
  else if 'A' ≤ c ∧ c ≤ 'F' then some (c.toNat - 55)
  else none

def hexNumber (ds : List Char) : Nat :=
  ds.foldl (fun n d => n * 16 + (hexValue? d).getD 0) 0

end DeprecatedUse.Text
