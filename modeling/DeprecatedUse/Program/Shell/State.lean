import DeprecatedUse.Program.Basic
import DeprecatedUse.Program.Shell.Script

/-!
This module contains the state of a running shell, and the steps that reading, writing and variables
are made of.
-/

namespace DeprecatedUse.Program.Shell

inductive Opened where
  | nowhere
  | full
  | pipe (bytes : List UInt8)
  | file (names : List Name) (position : Option Nat)
  | folder
deriving DecidableEq, Repr, Inhabited

def Opened.names? : Opened → Option (List Name)
  | .file names _ => some names
  | _ => none

structure Variable where
  value : Option String := none
  exported : Bool := false
  readOnly : Bool := false
deriving DecidableEq, Repr, Inhabited

/--
Why a script does not go on with the next command. The status stands in the state.
-/
inductive Ending where
  | breakLoop (levels : Nat)
  | continueLoop (levels : Nat)
  | leaveFunction
  | exit
  | failed
  | killed (signal : Nat)
deriving DecidableEq, Repr, Inhabited

structure Background where
  place : Nat
  process : Nat
  status : Nat
  stages : Nat := 1
  ended : Bool := false
  waited : Bool := false
deriving DecidableEq, Repr, Inhabited

structure Frame where
  bindings : List (String × Option Variable) := []
  switches : Option (List Char) := none
deriving DecidableEq, Repr, Inhabited

structure State where
  here : Place
  opened : Array Opened := #[]
  descriptors : List (Nat × Nat) := []
  name : String := "sh"
  arguments : List String := []
  bindings : Table String Variable := ∅
  functions : Table String (Nat × Command) := ∅
  aliases : Table String String := ∅
  documents : List (Nat × List Part) := []
  nextDocument : Nat := 0
  status : Nat := 0
  substituted : Nat := 0
  line : Nat := 0
  running : Option String := none
  loops : Nat := 0
  /-- For each function that is being run, what it is to leave as it was. -/
  locals : List Frame := []
  switches : List Char := []
  named : List String := []
  traps : List (Nat × String) := []
  pending : List Nat := []
  lost : Bool := false
  optionOffset : Nat := 1
  mask : Nat := 18
  /-- The limits of programs, which they may raise up to other ones. -/
  softLimits : List (Char × Nat) := []
  hardLimits : List (Char × Nat) := []
  known : List String := []
  jobs : List Background := []
  lastJob : Option Nat := none
  number : Nat := 1000
  inner : Bool := false
  ancestors : List Nat := []
  sent : List (Nat × Nat) := []
deriving Inhabited

/--
A step of a shell. The state is kept when a step ends early.
-/
abbrev Run := ExceptT Ending (StateM State)

namespace Run

def outcome {α : Type} (step : Run α) : Run (Except Ending α) :=
  ExceptT.lift (ExceptT.run step)

def keeping {α : Type} (restore : (before after : State) → State) (step : Run α) : Run α := do
  let before ← get
  let r ← outcome step
  modify (restore before)
  match r with
  | .ok a => return a
  | .error e => throw e

/-! Descriptors. -/

def leadsTo? (descriptor : Nat) : Run (Option (Nat × Opened)) := do
  let s ← get
  return do
    let place ← s.descriptors.lookup descriptor
    let o ← s.opened[place]?
    return (place, o)

def lead (descriptor : Nat) (place : Option Nat) : Run Unit :=
  modify fun s =>
    let others := s.descriptors.filter fun d => d.1 != descriptor
    { s with descriptors := (place.map fun p => (descriptor, p)).toList ++ others }

def openNew (o : Opened) : Run Nat := do
  let place := (← get).opened.size
  modify fun s => { s with opened := s.opened.push o }
  return place

def fileBytes (s : State) (names : List Name) : List UInt8 :=
  match s.here.tree.node? names with
  | some (.file content) => content
  | _ => []

def writeAt (place : Nat) (bytes : List UInt8) : Run Unit :=
  modify fun s =>
    match s.opened[place]? with
    | some (.pipe old) => { s with opened := s.opened.setIfInBounds place (.pipe (old ++ bytes)) }
    | some (.file names position) =>
      let old := fileBytes s names
      let start := position.getD old.length
      let content := old.take start ++ List.replicate (start - old.length) 0 ++ bytes
        ++ old.drop (start + bytes.length)
      { s with
        here := { s.here with tree := s.here.tree.putFile names content }
        opened := s.opened.setIfInBounds place (.file names (position.map (· + bytes.length))) }
    | _ => s

def writeTo (descriptor : Nat) (bytes : List UInt8) : Run Unit := do
  if bytes.isEmpty then
    return
  match ← leadsTo? descriptor with
  | none | some (_, .full) => modify fun s => { s with lost := s.lost || descriptor == 1 }
  | some (place, _) => writeAt place bytes

def writeText (descriptor : Nat) (text : String) : Run Unit :=
  writeTo descriptor (bytesOf text)

def takeFrom (descriptor : Nat) (split : List UInt8 → Nat) :
    Run (Except FileError (List UInt8)) := do
  match ← leadsTo? descriptor with
  | some (place, .pipe bytes) =>
    let n := split bytes
    modify fun s => { s with opened := s.opened.setIfInBounds place (.pipe (bytes.drop n)) }
    return .ok (bytes.take n)
  | some (place, .file names position) =>
    let bytes := fileBytes (← get) names
    let start := position.getD bytes.length
    let n := split (bytes.drop start)
    let after := .file names (some (start + n))
    modify fun s => { s with opened := s.opened.setIfInBounds place after }
    return .ok ((bytes.drop start).take n)
  | some (_, .folder) => return .error .isFolder
  | some (_, .nowhere) | some (_, .full) | none => return .ok []

def takeAll (descriptor : Nat) : Run (Except FileError (List UInt8)) :=
  takeFrom descriptor List.length

def takeLine (descriptor : Nat) : Run (List UInt8) := do
  let r ← takeFrom descriptor fun bytes =>
    let line := (bytes.takeWhile (· != 10)).length
    min (line + 1) bytes.length
  return r.toOption.getD []

/-! Messages and endings. -/

def complain (text : String) : Run Unit := do
  let s ← get
  let command := match s.running with
    | none => ""
    | some name => name ++ ": "
  writeText 2 (s.name ++ ": " ++ toString s.line ++ ": " ++ command ++ text ++ "\n")

def setStatus (status : Nat) : Run Unit :=
  modify fun s => { s with status := status }

def failedWith {α : Type} (status : Nat) (text : String) : Run α := do
  complain text
  setStatus status
  throw .failed

def failed {α : Type} (text : String) : Run α :=
  failedWith 2 text

def outOfFuel {α : Type} : Run α :=
  failed "too many steps"

/-! Variables. -/

def value? (name : String) : Run (Option String) := do
  return ((← get).bindings.find? name).bind Variable.value

def change (name : String) (f : Variable → Variable) : Run Unit := do
  let v := ((← get).bindings.find? name).getD {}
  let new := f v
  if v.readOnly && new.value != v.value then
    failed (name ++ ": is read only")
  modify fun s => { s with bindings := s.bindings.insert name new }

def numberOf (text : String) : Run Nat :=
  let n := text.toList.foldl (fun n d => n * 10 + (d.toNat - 48)) 0
  if text ≠ "" ∧ text.toList.all Char.isDigit ∧ n ≤ 2147483647 then
    return n
  else
    failed ("Illegal number: " ++ text)

def noticeChange (name value : String) : Run Unit := do
  if name == "OPTIND" then
    let _ ← numberOf value
    modify fun s => { s with optionOffset := 1 }
  if name == "PATH" then
    modify fun s => { s with known := [] }

def assign (name value : String) : Run Unit := do
  let s ← get
  noticeChange name value
  if ((s.bindings.find? name).getD {}).readOnly then
    failed (name ++ ": is read only")
  let exports := s.switches.contains 'a'
  change name fun v => { v with value := some value, exported := v.exported || exports }

def putBack (name : String) (old : Option Variable) : Run Unit := do
  modify fun s =>
    match old with
    | none => { s with bindings := s.bindings.erase name }
    | some v => { s with bindings := s.bindings.insert name v }
  if name == "PATH" then
    modify fun s => { s with known := [] }

def separators : Run (List Char) := do
  return ((← value? "IFS").getD " \t\n").toList

def parameter? (name : String) : Run (Option String) := do
  let s ← get
  match name with
  | "#" => return toString s.arguments.length
  | "?" => return toString s.status
  | "-" => return String.ofList ("pubaCEVvxsnmiIfe".toList.filter s.switches.contains)
  | "$" => return toString s.number
  | "!" => return s.lastJob.map toString
  | "0" => return s.name
  | name =>
    if name.toList.all Char.isDigit then
      return (name.toNat?.bind fun n => s.arguments[n - 1]?)
    else
      value? name

def joinedArguments : Run String := do
  let between := match (← get).bindings.find? "IFS" |>.bind Variable.value with
    | none => " "
    | some ifs => String.ofList (ifs.toList.take 1)
  return between.intercalate (← get).arguments

end Run

end DeprecatedUse.Program.Shell
