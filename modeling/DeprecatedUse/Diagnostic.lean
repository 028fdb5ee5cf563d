import DeprecatedUse.Position

/-!
This module contains diagnostics and the batches of diagnostics that are shown for a unit.
-/

namespace DeprecatedUse

def sourceTag : String := "deprecheck"

inductive Severity where
  | error
  | warning
  | information
  | hint
deriving DecidableEq, Repr, Inhabited

def Severity.word : Severity → String
  | .error => "error"
  | .warning => "warning"
  | .information => "information"
  | .hint => "hint"

inductive Diagnostic.Code where
  | deprecatedMemberUsage
  | parseError
  | analysisFault
deriving DecidableEq, Repr, Inhabited

def Diagnostic.Code.word : Diagnostic.Code → String
  | .deprecatedMemberUsage => "DEPRECATED_MEMBER_USAGE"
  | .parseError => "PARSE_ERROR"
  | .analysisFault => "ANALYSIS_FAULT"

structure Diagnostic where
  code : Diagnostic.Code
  severity : Severity
  message : String
  span : Span
  source : String := sourceTag
  symbol : Option String := none
deriving DecidableEq, Repr, Inhabited

/--
The diagnostics of one unit. A batch is shown as a whole and takes the place of the one before.
-/
structure Batch where
  diagnostics : List Diagnostic := []
deriving DecidableEq, Repr, Inhabited

namespace Batch

def startsBefore (a b : Diagnostic) : Bool :=
  decide (a.span.start ≤ b.span.start)

def ofList (diagnostics : List Diagnostic) : Batch :=
  ⟨diagnostics.mergeSort startsBefore⟩

def size (b : Batch) : Nat :=
  b.diagnostics.length

def count (b : Batch) (severity : Severity) : Nat :=
  (b.diagnostics.filter (·.severity == severity)).length

def cover? (b : Batch) : Option Span :=
  match b.diagnostics with
  | [] => none
  | d :: rest => some (rest.foldl (fun span d => span.cover d.span) d.span)

end Batch

def Diagnostic.headline (d : Diagnostic) : String :=
  d.severity.word ++ " " ++ d.code.word ++ " " ++ d.span.start.render

end DeprecatedUse
