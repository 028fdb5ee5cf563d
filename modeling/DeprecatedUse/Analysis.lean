import DeprecatedUse.Resolver
import DeprecatedUse.Settings
import DeprecatedUse.Java.SourceUnit

/-!
This module contains the analysis of a unit: every use of a member whose declaration is deprecated
becomes a diagnostic. Uses that cannot be resolved are passed over; only a broken resolver and an
answer that does not fit its question end the analysis.
-/

namespace DeprecatedUse

open DeprecatedUse.Java (Access SourceUnit)

inductive AnalysisError where
  | backend (unit : UnitId) (cause : String)
  | contractViolation (unit : UnitId) (member answered : String) (position : Position)
  | malformed (unit : UnitId) (position : Position)
deriving DecidableEq, Repr

namespace AnalysisError

def unit : AnalysisError → UnitId
  | .backend unit _ => unit
  | .contractViolation unit _ _ _ => unit
  | .malformed unit _ => unit

def message : AnalysisError → String
  | .backend unit cause => unit ++ ": symbol resolver failed: " ++ cause
  | .contractViolation unit member answered position =>
    unit ++ ": resolver answered '" ++ answered ++ "' for '" ++ member ++ "' at " ++ position.render
  | .malformed unit position =>
    unit ++ ": member access without a member name at " ++ position.render

end AnalysisError

structure Analysis where
  result : Except AnalysisError Batch
  queries : List Query := []

namespace Analysis

def messageFor (s : Symbol) : String :=
  "'" ++ s.qualifiedName ++ "' is deprecated"
    ++ (match s.replacement with
      | none => ""
      | some replacement => "; use '" ++ replacement ++ "' instead")
    ++ if s.forRemoval then " and marked for removal" else ""

def diagnosticFor (settings : CheckSettings) (a : Access) (s : Symbol) : Diagnostic where
  code := .deprecatedMemberUsage
  severity := settings.effectiveSeverity
  message := messageFor s
  span := a.span
  symbol := some s.qualifiedName

def fits (member : String) (s : Symbol) : Bool :=
  s.qualifiedName != "" && s.memberName == member

def judge (settings : CheckSettings) (unit : UnitId) (a : Access) :
    Resolution → Except AnalysisError (Option Diagnostic)
  | .error (.backend cause) => .error (.backend unit cause)
  | .error _ => .ok none
  | .ok s =>
    if fits a.member s then
      if s.deprecated && !settings.ignores s.qualifiedName then
        .ok (some (diagnosticFor settings a s))
      else
        .ok none
    else
      .error (.contractViolation unit a.member s.qualifiedName a.span.start)

def queryOf? (a : Access) : Option Query :=
  a.receiverType.map fun receiver => ⟨receiver, a.member, a.kind⟩

def checkAccess (settings : CheckSettings) (resolve : Resolver) (unit : UnitId) (a : Access) :
    Except AnalysisError (Option Diagnostic) :=
  if a.member = "" then
    .error (.malformed unit a.span.start)
  else
    judge settings unit a <|
      match queryOf? a with
      | some q => resolve q
      | none => .error (.unresolvedReceiver a.member)

/--
The diagnostics of some uses in order, up to the first use that ends the analysis, and the queries
made on the way.
-/
def walk (settings : CheckSettings) (resolve : Resolver) (unit : UnitId) :
    List Access → Except AnalysisError (List Diagnostic) × List Query
  | [] => (.ok [], [])
  | a :: rest =>
    let asked := if a.member = "" then [] else (queryOf? a).toList
    match checkAccess settings resolve unit a with
    | .error e => (.error e, asked)
    | .ok found =>
      let (result, queries) := walk settings resolve unit rest
      (result.map (found.toList ++ ·), asked ++ queries)

def run (settings : CheckSettings) (resolve : Resolver) (u : SourceUnit) : Analysis :=
  if settings.enabled then
    let (result, queries) := walk settings resolve u.id u.accesses
    ⟨result.map Batch.ofList, queries⟩
  else
    ⟨.ok {}, []⟩

end Analysis

end DeprecatedUse
