import DeprecatedUse.Analysis
import DeprecatedUse.Sink

/-!
This module contains the run of units: each is analysed and its batch published. A unit whose
analysis is given up is told of in a message and keeps what is shown for it.
-/

namespace DeprecatedUse

open DeprecatedUse.Java (SourceUnit)

structure Pipeline where
  settings : CheckSettings
  resolve : Resolver

namespace Pipeline

inductive Outcome where
  | published (unit : UnitId) (diagnostics : Nat)
  | failed (error : AnalysisError)
deriving DecidableEq, Repr

structure Summary where
  units : Nat := 0
  published : Nat := 0
  failed : Nat := 0
  diagnostics : Nat := 0
deriving DecidableEq, Repr, Inhabited

def Summary.add (s : Summary) : Outcome → Summary
  | .published _ n =>
    { s with units := s.units + 1, published := s.published + 1, diagnostics := s.diagnostics + n }
  | .failed _ => { s with units := s.units + 1, failed := s.failed + 1 }

def runUnit (p : Pipeline) (u : SourceUnit) : Outcome × Event :=
  match (Analysis.run p.settings p.resolve u).result with
  | .ok batch => (.published u.id batch.size, .publish u.id batch)
  | .error e => (.failed e, .message .error ("Deprecation analysis failed: " ++ e.message))

def runUnits (p : Pipeline) (units : List SourceUnit) : List (Outcome × Event) :=
  units.map p.runUnit

def summarize (outcomes : List Outcome) : Summary :=
  outcomes.foldl Summary.add {}

def clear (unit : UnitId) : Event :=
  .publish unit {}

end Pipeline

end DeprecatedUse
