import DeprecatedUse.Diagnostic
import DeprecatedUse.Symbol
import DeprecatedUse.Table
import DeprecatedUse.Json.Basic

/-!
This module contains what an analysis tells the outside, as events, and the recording of events.
-/

namespace DeprecatedUse

inductive Event where
  /-- Show the batch for the unit, in place of all that was shown for it before. -/
  | publish (unit : UnitId) (batch : Batch)
  | message (severity : Severity) (text : String)
  /-- Ask to be told about a method; to ask again changes nothing. -/
  | register (method : String) (options : Json)
  | notify (method : String) (payload : Json)
deriving Inhabited

structure Recording where
  published : Table UnitId Batch := ∅
  publishCalls : Nat := 0
  messages : List (Severity × String) := []
  capabilities : List String := []
  notifications : List (String × Json) := []
deriving Inhabited

namespace Recording

def insertSorted (s : String) : List String → List String
  | [] => [s]
  | t :: rest =>
    if s = t then t :: rest
    else if s < t then s :: t :: rest
    else t :: insertSorted s rest

def record (r : Recording) : Event → Recording
  | .publish unit batch =>
    { r with published := r.published.insert unit batch, publishCalls := r.publishCalls + 1 }
  | .message severity text => { r with messages := r.messages ++ [(severity, text)] }
  | .register method _ => { r with capabilities := insertSorted method r.capabilities }
  | .notify method payload => { r with notifications := r.notifications ++ [(method, payload)] }

def recordAll (r : Recording) (events : List Event) : Recording :=
  events.foldl record r

def diagnosticsFor? (r : Recording) (unit : UnitId) : Option Batch :=
  r.published.find? unit

end Recording

end DeprecatedUse
