import DeprecatedUse.Diagnostic
import DeprecatedUse.Symbol
import DeprecatedUse.Json.Basic

/-!
This module contains reports: what a check of many units has found, unit by unit, with totals.
-/

namespace DeprecatedUse

namespace Report

structure Version where
  major : Nat := 1
  minor : Nat := 0
deriving DecidableEq, Repr, Inhabited

def Version.render (v : Version) : String :=
  toString v.major ++ "." ++ toString v.minor

structure Summary where
  total : Nat := 0
  errors : Nat := 0
  warnings : Nat := 0
  information : Nat := 0
  hints : Nat := 0
  unitsAnalyzed : Nat := 0
  unitsFailed : Nat := 0
deriving DecidableEq, Repr, Inhabited

structure Section where
  unit : UnitId
  fingerprint : String
  diagnostics : List Diagnostic
deriving DecidableEq, Repr, Inhabited

structure Failure where
  unit : UnitId
  error : String
deriving DecidableEq, Repr, Inhabited

end Report

/--
What a check has found. Units and failures stand in the order in which they were added.
-/
structure Report where
  version : Report.Version := {}
  timestamp : String
  summary : Report.Summary := {}
  units : List Report.Section := []
  failures : List Report.Failure := []
  metadata : Option Json := none
deriving Inhabited

namespace Report

def addUnit (r : Report) (unit : UnitId) (fingerprint : String) (batch : Batch) : Report :=
  let s := r.summary
  { r with
    summary :=
      { s with
        total := s.total + batch.size
        errors := s.errors + batch.count .error
        warnings := s.warnings + batch.count .warning
        information := s.information + batch.count .information
        hints := s.hints + batch.count .hint
        unitsAnalyzed := s.unitsAnalyzed + 1 }
    units := r.units ++ [⟨unit, fingerprint, batch.diagnostics⟩] }

def addFailure (r : Report) (unit : UnitId) (error : String) : Report :=
  { r with
    summary := { r.summary with unitsFailed := r.summary.unitsFailed + 1 }
    failures := r.failures ++ [⟨unit, error⟩] }

def diagnostics (r : Report) : List (UnitId × Diagnostic) :=
  r.units.flatMap fun u => u.diagnostics.map fun d => (u.unit, d)

def hasErrors (r : Report) : Bool :=
  decide (0 < r.summary.errors)

def hasFailures (r : Report) : Bool :=
  decide (0 < r.summary.unitsFailed)

end Report

end DeprecatedUse
