import DeprecatedUse.Text.Lines

/-!
This module contains Punycode, which writes a text with the characters of ASCII: first those that it
has, then where the others have to be put in. Each place and code point is counted on from the one
before, and the count is written with digits whose range adapts to the counts before.
-/

namespace DeprecatedUse.Uri.Domain.Punycode

def digit (n : Nat) : Char :=
  if n < 26 then Char.ofNat (n + 97) else Char.ofNat (n + 22)

def digitValue? (c : Char) : Option Nat :=
  if 'a' ≤ c ∧ c ≤ 'z' then some (c.toNat - 97)
  else if 'A' ≤ c ∧ c ≤ 'Z' then some (c.toNat - 65)
  else if '0' ≤ c ∧ c ≤ '9' then some (c.toNat - 22)
  else none

/--
The least digit with which a count goes on at a position; positions are counted in steps of
thirty-six.
-/
def threshold (bias position : Nat) : Nat :=
  min 26 (max 1 (position - bias))

theorem one_le_threshold (bias position : Nat) : 1 ≤ threshold bias position := by
  rw [threshold]
  omega

def settle (n steps : Nat) : Nat :=
  if 455 < n then settle (n / 35) (steps + 36) else steps + 36 * n / (n + 38)
termination_by n
decreasing_by exact Nat.div_lt_self (by omega) (by omega)

def adapt (first : Bool) (count size : Nat) : Nat :=
  let n := if first then count / 700 else count / 2
  settle (n + n / size) 0

def encodeCount (bias position n : Nat) : List Char :=
  let t := threshold bias position
  if n < t then
    [digit n]
  else
    digit (t + (n - t) % (36 - t)) :: encodeCount bias (position + 36) ((n - t) / (36 - t))
termination_by n
decreasing_by
  have := one_le_threshold bias position
  have := Nat.div_le_self (n - threshold bias position) (36 - threshold bias position)
  omega

structure State where
  output : List Char := []
  count : Nat := 0
  bias : Nat := 72
  size : Nat

/--
Go over a character while those with the code point `n` are put in; `ascii` characters were there
from the start.
-/
def State.step (ascii n : Nat) (s : State) (c : Char) : State :=
  if c.toNat < n then
    { s with count := s.count + 1 }
  else if c.toNat = n then
    { output := s.output ++ encodeCount s.bias 36 s.count
      count := 0
      bias := adapt (s.size == ascii) s.count (s.size + 1)
      size := s.size + 1 }
  else
    s

def State.putIn (ascii : Nat) (text : List Char) (next : Nat) (s : State) : List Nat → State
  | [] => s
  | n :: rest =>
    let s := { s with count := s.count + (n - next) * (s.size + 1) }
    let s := text.foldl (State.step ascii n) s
    State.putIn ascii text (n + 1) { s with count := s.count + 1 } rest

def encode (text : List Char) : List Char :=
  let basic := text.filter (·.toNat < 128)
  let others := ((text.map Char.toNat).filter (128 ≤ ·)).mergeSort.eraseDups
  let s := State.putIn basic.length text 128 { size := basic.length } others
  basic ++ (if basic.isEmpty then [] else ['-']) ++ s.output

def decodeCount? (bias position weight sum : Nat) : List Char → Option (Nat × List Char)
  | [] => none
  | c :: rest =>
    match digitValue? c with
    | none => none
    | some d =>
      let t := threshold bias position
      if d < t then
        some (sum + d * weight, rest)
      else
        decodeCount? bias (position + 36) (weight * (36 - t)) (sum + d * weight) rest

theorem length_of_decodeCount? {bias position weight sum : Nat} {cs : List Char}
    {r : Nat × List Char} (h : decodeCount? bias position weight sum cs = some r) :
    r.2.length < cs.length := by
  induction cs generalizing position weight sum with
  | nil => simp [decodeCount?] at h
  | cons c rest ih =>
    rw [decodeCount?] at h
    split at h
    · simp at h
    · dsimp only at h
      split at h
      · cases h
        simp
      · exact Nat.lt_succ_of_lt (ih h)

def isCharacter (n : Nat) : Bool :=
  n < 0xD800 || (0xDFFF < n && n < 0x110000)

/--
Put in the other characters. `next` is the last code point and `place` the place behind the last
character that was put in.
-/
def decodeRest? (bias next place : Nat) (text cs : List Char) : Option (List Char) :=
  if cs.isEmpty then
    some text
  else
    match _h : decodeCount? bias 36 1 place cs with
    | none => none
    | some (count, rest) =>
      let size := text.length + 1
      let n := next + count / size
      if isCharacter n then
        decodeRest? (adapt (place == 0) (count - place) size) n (count % size + 1)
          (text.take (count % size) ++ Char.ofNat n :: text.drop (count % size)) rest
      else
        none
termination_by cs.length
decreasing_by exact length_of_decodeCount? _h

def decode? (cs : List Char) : Option (List Char) :=
  let rest := Text.afterLast '-' cs
  let basic := cs.take (cs.length - rest.length - 1)
  decodeRest? 72 128 0 basic rest

end DeprecatedUse.Uri.Domain.Punycode
