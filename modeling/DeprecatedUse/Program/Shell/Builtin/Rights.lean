import DeprecatedUse.Program.Shell.Builtin.Basic

/-!
This module contains the rights of new files, and the limits of programs.
-/

namespace DeprecatedUse.Program.Shell

open Run

/-! Rights of new files. -/

def maskText (mask : Nat) : String :=
  let digits := Nat.toDigits 8 mask
  String.ofList (List.replicate (4 - digits.length) '0' ++ digits)

def maskWords (mask : Nat) : String :=
  let rights := fun bits : Nat =>
    String.ofList ((if bits &&& 4 = 0 then ['r'] else [])
      ++ (if bits &&& 2 = 0 then ['w'] else []) ++ (if bits &&& 1 = 0 then ['x'] else []))
  "u=" ++ rights (mask / 64) ++ ",g=" ++ rights (mask / 8 % 8) ++ ",o=" ++ rights (mask % 8)

def rightBits (granted : Nat) : Char → Option Nat
  | 'r' => some 4
  | 'w' => some 2
  | 'x' => some 1
  | 'X' => some (if granted &&& 73 = 0 then 0 else 1)
  | 's' => some 0
  | 'u' => some (granted / 64)
  | 'g' => some (granted / 8 % 8)
  | 'o' => some (granted % 8)
  | _ => none

def whoBits (who : List Char) : Nat :=
  let everyone := who.isEmpty || who.contains 'a'
  (if everyone || who.contains 'u' then 64 else 0)
    + (if everyone || who.contains 'g' then 8 else 0)
    + (if everyone || who.contains 'o' then 1 else 0)

/--
The rights after changes to them. A change is made of a sign and rights, for those who have been
named last; a comma ends their changes. Rights that somebody has are those from before all changes.
-/
def changeRights (before : Nat) : Nat → List Char → Nat → List Char → Option Nat
  | 0, _, _, _ => none
  | _, _, granted, [] => some granted
  | fuel + 1, who, granted, cs =>
    let more := cs.takeWhile fun c => ['a', 'u', 'g', 'o'].contains c
    let who := who ++ more
    match cs.drop more.length with
    | [] => some granted
    | sign :: rest =>
      let letters := rest.takeWhile fun c => (rightBits before c).isSome
      let bits := letters.foldl (fun bits c => bits ||| (rightBits before c).getD 0) 0
      let one := whoBits who
      let rest := rest.drop letters.length
      let next := fun granted =>
        match rest with
        | [] => some granted
        | ',' :: rest => changeRights before fuel [] granted rest
        | c :: _ =>
          if c == '=' || c == '+' || c == '-' then
            changeRights before fuel (if who.isEmpty then ['a'] else who) granted rest
          else
            none
      match sign with
      | '=' => next ((granted &&& (511 - one * 7)) ||| one * bits)
      | '+' => next (granted ||| one * bits)
      | '-' => next (granted &&& (511 - one * bits))
      | _ => none

def setMask (arguments : List String) : Run Nat := do
  let mask := (← get).mask
  let (options, words) ← readOptions ['S'] arguments
  match words with
  | [] =>
    writeText 1 ((if options.isEmpty then maskText mask else maskWords mask) ++ "\n")
    return 0
  | word :: _ =>
    let cs := word.toList
    if cs.head?.any Char.isDigit then
      if !cs.all isOctal then
        failed ("Illegal number: " ++ word)
      modify fun s => { s with mask := (digitsIn 8 cs.length 0 cs).1 % 512 }
      return 0
    else
      match changeRights (511 - mask) (cs.length + 1) [] (511 - mask) cs with
      | none => failed ("Illegal mode: " ++ word)
      | some granted =>
        modify fun s => { s with mask := 511 - granted }
        return 0

def setLimit (arguments : List String) : Run Nat := do
  let (options, words) ← readOptions "HSatfdscmlpnvwr".toList arguments
  let hard := options.contains 'H' || !options.contains 'S'
  let soft := options.contains 'S' || !options.contains 'H'
  let kind := (options.filter fun c => c != 'H' && c != 'S').getLast?.getD 'f'
  match words with
  | [] =>
    let s ← get
    let limits := if soft then s.softLimits else s.hardLimits
    writeText 1 (((limits.lookup kind).map toString).getD "unlimited" ++ "\n")
    return 0
  | [value] =>
    let limit ← if value == "unlimited" then pure none
      else if value.toList.all Char.isDigit then pure (some (value.toNat?.getD 0))
      else failed "bad number"
    let change := fun (on : Bool) (limits : List (Char × Nat)) =>
      if on then
        (limit.map fun n => (kind, n)).toList ++ limits.filter fun l => l.1 != kind
      else
        limits
    modify fun s =>
      { s with softLimits := change soft s.softLimits, hardLimits := change hard s.hardLimits }
    return 0
  | _ => failed "too many arguments"

end DeprecatedUse.Program.Shell
