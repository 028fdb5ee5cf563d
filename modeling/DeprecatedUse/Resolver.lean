import DeprecatedUse.Symbol
import DeprecatedUse.Table

/-!
This module contains the question that a use of a member asks, and what may answer it.
-/

namespace DeprecatedUse

structure Query where
  receiver : TypeRef
  member : String
  kind : MemberKind
deriving DecidableEq, Repr, Inhabited

inductive ResolutionFailure where
  | unknownType (name : String)
  | ambiguousType (name : String) (candidates : List String)
  | unknownMember (owner member : String)
  | ambiguousOverload (name : String)
  | unresolvedReceiver (member : String)
  | backend (cause : String)
deriving DecidableEq, Repr, Inhabited

namespace ResolutionFailure

def message : ResolutionFailure → String
  | .unknownType name => "Unknown type: " ++ name
  | .ambiguousType name candidates =>
    "Ambiguous type '" ++ name ++ "': " ++ ", ".intercalate candidates
  | .unknownMember owner member => "Unknown member '" ++ member ++ "' on " ++ owner
  | .ambiguousOverload name => "Overloads of '" ++ name ++ "' disagree on deprecation"
  | .unresolvedReceiver member => "Receiver type of '" ++ member ++ "' could not be determined"
  | .backend cause => "Resolver backend failed: " ++ cause

def isFault : ResolutionFailure → Bool
  | .backend _ => true
  | _ => false

end ResolutionFailure

abbrev Resolution := Except ResolutionFailure Symbol

abbrev Resolver := Query → Resolution

/--
Answers that are laid down beforehand. Receivers are known by their names as written.
-/
structure CannedAnswers where
  symbols : Table (String × String × MemberKind) Symbol := ∅
  failures : Table (String × String × MemberKind) ResolutionFailure := ∅
  broken : Option String := none

namespace CannedAnswers

def withSymbol (c : CannedAnswers) (receiver : String) (s : Symbol) : CannedAnswers :=
  { c with symbols := c.symbols.insert (receiver, s.memberName, s.kind) s }

def withFailure (c : CannedAnswers) (receiver member : String) (kind : MemberKind)
    (failure : ResolutionFailure) : CannedAnswers :=
  { c with failures := c.failures.insert (receiver, member, kind) failure }

def resolve (c : CannedAnswers) : Resolver := fun q =>
  match c.broken with
  | some cause => .error (.backend cause)
  | none =>
    let key := (q.receiver.name, q.member, q.kind)
    match c.failures.find? key with
    | some failure => .error failure
    | none =>
      match c.symbols.find? key with
      | some s => .ok s
      | none => .error (.unknownMember q.receiver.name q.member)

end CannedAnswers

end DeprecatedUse
