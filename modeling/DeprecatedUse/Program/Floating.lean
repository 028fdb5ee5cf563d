import DeprecatedUse.Text.Character

/-!
This module contains numbers with a fraction, as programs read and write them: a number is kept with
53 binary digits, and is written exactly before it is rounded to the digits that are asked for.
-/

namespace DeprecatedUse.Program

inductive Magnitude where
  | notNumber
  | infinite
  /-- A number of units, each of which is a power of two. -/
  | finite (units : Nat) (power : Int)
deriving DecidableEq, Repr, Inhabited

structure Floating where
  negative : Bool := false
  magnitude : Magnitude := .finite 0 0
deriving DecidableEq, Repr, Inhabited

def roundQuotient (numerator denominator : Nat) : Nat :=
  let q := numerator / denominator
  let r := numerator % denominator
  if 2 * r < denominator ∨ 2 * r = denominator ∧ q % 2 = 0 then q else q + 1

def scaled (base numerator denominator : Nat) (power : Int) : Nat × Nat :=
  if 0 ≤ power then
    (numerator * Nat.pow base power.toNat, denominator)
  else
    (numerator, denominator * Nat.pow base (-power).toNat)

namespace Magnitude

def leastPower : Int :=
  -1074

def ofFraction (numerator denominator : Nat) : Magnitude × Bool :=
  if numerator = 0 then
    (.finite 0 leastPower, false)
  else
    let size : Int := (Nat.log2 numerator : Int) - Nat.log2 denominator
    let guess := max (size - 53) leastPower
    let (n, d) := scaled 2 numerator denominator (-guess)
    let power := if 9007199254740992 ≤ n / d then guess + 1 else guess
    let (n, d) := scaled 2 numerator denominator (-power)
    let rounded := roundQuotient n d
    let (units, power) := if rounded = 9007199254740992 then (4503599627370496, power + 1)
      else (rounded, power)
    if 1024 < (Nat.log2 units : Int) + 1 + power then
      (.infinite, true)
    else
      (.finite units power, decide (units < 4503599627370496) && n % d != 0)

def ofDigits (base digits : Nat) (length : Nat) (power : Int) : Magnitude × Bool :=
  if digits = 0 then
    (.finite 0 leastPower, false)
  else if 5000 < power + length then
    (.infinite, true)
  else if power + length < -5000 then
    (.finite 0 leastPower, true)
  else
    let (n, d) := scaled base digits 1 power
    ofFraction n d

end Magnitude

namespace Floating

/-! Reading. -/

def digit? (base : Nat) (c : Char) : Option Nat :=
  (Text.hexValue? c).filter (· < base)

def readPower (mark : Char) (cs : List Char) : Int × List Char :=
  match cs with
  | [] => (0, [])
  | c :: rest =>
    let (negative, digits) := match rest with
      | '-' :: digits => (true, digits)
      | '+' :: digits => (false, digits)
      | digits => (false, digits)
    let taken := digits.takeWhile Char.isDigit
    if c.toLower ≠ mark ∨ taken.isEmpty then
      (0, cs)
    else
      let n : Int := taken.foldl (fun n d => min 1000000 (n * 10 + (d.toNat - 48))) 0
      (if negative then -n else n, digits.drop taken.length)

def readDigits? (base : Nat) (mark : Char) (unit : Nat) (cs : List Char) :
    Option ((Magnitude × Bool) × List Char) :=
  let isDigit := fun c => (digit? base c).isSome
  let whole := cs.takeWhile isDigit
  let rest := cs.drop whole.length
  let (part, rest) := match rest with
    | '.' :: more =>
      let part := more.takeWhile isDigit
      if whole.isEmpty && part.isEmpty then ([], rest) else (part, more.drop part.length)
    | rest => ([], rest)
  if whole.isEmpty && part.isEmpty then
    none
  else
    let digits := (whole ++ part).foldl (fun n c => n * base + (digit? base c).getD 0) 0
    let (power, rest) := readPower mark rest
    let power := power - unit * part.length
    some (Magnitude.ofDigits (if base = 16 then 2 else base) digits
      (unit * (whole.length + part.length)) power, rest)

def skipNote (cs : List Char) : List Char :=
  match cs with
  | '(' :: rest =>
    let note := rest.takeWhile fun c => c.isAlphanum || c == '_'
    match rest.drop note.length with
    | ')' :: after => after
    | _ => cs
  | _ => cs

def read? (cs : List Char) : Option (Floating × Bool × List Char) := do
  let cs := cs.dropWhile fun c => c == ' ' || ('\t' ≤ c && c ≤ '\r')
  let (negative, cs) := match cs with
    | '-' :: rest => (true, rest)
    | '+' :: rest => (false, rest)
    | rest => (false, rest)
  let starts := fun (word : String) => (cs.take word.length).map Char.toLower == word.toList
  if starts "infinity" then
    return (⟨negative, .infinite⟩, false, cs.drop 8)
  if starts "inf" then
    return (⟨negative, .infinite⟩, false, cs.drop 3)
  if starts "nan" then
    return (⟨negative, .notNumber⟩, false, skipNote (cs.drop 3))
  let hexadecimal := if starts "0x" then readDigits? 16 'p' 4 (cs.drop 2) else none
  let ((m, out), rest) ← hexadecimal <|> readDigits? 10 'e' 1 cs
  return (⟨negative, m⟩, out, rest)

/-! Writing. -/

def placed (always : Bool) (places n : Nat) : String :=
  let digits := Nat.toDigits 10 n
  let digits := List.replicate (places + 1 - digits.length) '0' ++ digits
  let whole := digits.take (digits.length - places)
  String.ofList (whole ++ (if places = 0 ∧ ¬ always then [] else ['.'])
    ++ digits.drop (digits.length - places))

def fixed (always : Bool) (places units : Nat) (power : Int) : String :=
  let (n, d) := scaled 2 (units * Nat.pow 10 places) 1 power
  placed always places (roundQuotient n d)

def leading (places units : Nat) (power : Int) : Nat × Int :=
  if units = 0 then
    (0, 0)
  else
    let (n, d) := scaled 2 units 1 power
    let guess : Int := if d ≤ n then (Nat.toDigits 10 (n / d)).length - 1
      else -((Nat.toDigits 10 (d / n)).length : Int)
    let atLeast := fun (x : Int) =>
      let (a, b) := scaled 10 n d (-x)
      decide (b ≤ a)
    let x := if atLeast (guess + 1) then guess + 1 else guess
    let (a, b) := scaled 10 n d (places - x)
    let digits := roundQuotient a b
    if digits = Nat.pow 10 (places + 1) then (Nat.pow 10 places, x + 1) else (digits, x)

def powerText (mark : String) (width : Nat) (power : Int) : String :=
  let digits := Nat.toDigits 10 power.natAbs
  mark ++ (if power < 0 then "-" else "+")
    ++ String.ofList (List.replicate (width - digits.length) '0' ++ digits)

def scientific (always : Bool) (places units : Nat) (power : Int) : String :=
  let (digits, x) := leading places units power
  placed always places digits ++ powerText "e" 2 x

def withoutZeros (text : String) : String :=
  let cs := text.toList
  if cs.contains '.' then
    let kept := cs.reverse.dropWhile (· == '0')
    String.ofList (if kept.head? == some '.' then kept.tail.reverse else kept.reverse)
  else
    text

def general (always : Bool) (count units : Nat) (power : Int) : String :=
  let count := max 1 count
  let (digits, x) := leading (count - 1) units power
  let trim := fun text => if always then text else withoutZeros text
  if -4 ≤ x ∧ x < count then
    trim (fixed always (count - 1 - x).toNat units power)
  else
    trim (placed always (count - 1) digits) ++ powerText "e" 2 x

def binary (always : Bool) (places : Option Nat) (units : Nat) (power : Int) : String :=
  let shift := if units = 0 then 0
    else min (52 - Nat.log2 units) (power - Magnitude.leastPower).toNat
  let units := units <<< shift
  let x := if units = 0 then 0 else power - shift + 52
  let hex := fun (n : Nat) (width : Nat) =>
    let digits := if n = 0 then [] else Nat.toDigits 16 n
    List.replicate (width - digits.length) '0' ++ digits
  let (whole, part) := match places with
    | none =>
      let all := hex (units % 4503599627370496) 13
      (units / 4503599627370496, (all.reverse.dropWhile (· == '0')).reverse)
    | some p =>
      if p < 13 then
        let n := roundQuotient units (Nat.pow 16 (13 - p))
        (n / Nat.pow 16 p, hex (n % Nat.pow 16 p) p)
      else
        let all := hex (units % 4503599627370496) 13
        (units / 4503599627370496, all ++ List.replicate (p - 13) '0')
  String.ofList (hex whole 1 ++ (if part.isEmpty ∧ ¬ always then [] else ['.']) ++ part)
    ++ powerText "p" 1 x

def digitsFor (letter : Char) (always : Bool) (precision : Option Nat) :
    Magnitude → Bool × String × String
  | .notNumber => (false, "", "nan")
  | .infinite => (false, "", "inf")
  | .finite units power =>
    match letter with
    | 'f' => (true, "", fixed always (precision.getD 6) units power)
    | 'e' => (true, "", scientific always (precision.getD 6) units power)
    | 'g' => (true, "", general always (precision.getD 6) units power)
    | _ => (true, "0x", binary always precision units power)

end Floating

end DeprecatedUse.Program
