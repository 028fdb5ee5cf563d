import DeprecatedUse.Report.Basic
import DeprecatedUse.Wire.Diagnostic
import DeprecatedUse.Json.Printer

/-!
This module contains the JSON form of reports. Failures are left out when there are none, and so is
metadata that was never set.
-/

namespace DeprecatedUse.Report

namespace Version

def toJson (v : Version) : Json :=
  .obj [("major", .nat v.major), ("minor", .nat v.minor)]

def ofJson? (json : Json) : Option Version :=
  match json.record? ["major", "minor"] with
  | some [major, minor] => do
    return ⟨← major.bind (Json.nat? UInt32.size), ← minor.bind (Json.nat? UInt32.size)⟩
  | _ => none

end Version

namespace Summary

def toJson (s : Summary) : Json :=
  .obj [("total", .nat s.total), ("errors", .nat s.errors), ("warnings", .nat s.warnings),
    ("information", .nat s.information), ("hints", .nat s.hints),
    ("units_analyzed", .nat s.unitsAnalyzed), ("units_failed", .nat s.unitsFailed)]

def ofJson? (json : Json) : Option Summary :=
  let count? := fun v : Option Json => v.bind (Json.nat? UInt64.size)
  match json.record? ["total", "errors", "warnings", "information", "hints", "units_analyzed",
      "units_failed"] with
  | some [total, errors, warnings, information, hints, unitsAnalyzed, unitsFailed] => do
    return {
      total := ← count? total
      errors := ← count? errors
      warnings := ← count? warnings
      information := ← count? information
      hints := ← count? hints
      unitsAnalyzed := ← count? unitsAnalyzed
      unitsFailed := ← count? unitsFailed }
  | _ => none

end Summary

namespace Section

def toJson (u : Section) : Json :=
  .obj [("unit", .str u.unit), ("fingerprint", .str u.fingerprint),
    ("diagnostics", .arr (u.diagnostics.map Diagnostic.toJson))]

def ofJson? (json : Json) : Option Section :=
  match json.record? ["unit", "fingerprint", "diagnostics"] with
  | some [unit, fingerprint, diagnostics] => do
    return {
      unit := ← unit.bind Json.str?
      fingerprint := ← fingerprint.bind Json.str?
      diagnostics := ← diagnostics.bind (Json.list? Diagnostic.ofJson?) }
  | _ => none

end Section

namespace Failure

def toJson (f : Failure) : Json :=
  .obj [("unit", .str f.unit), ("error", .str f.error)]

def ofJson? (json : Json) : Option Failure :=
  match json.record? ["unit", "error"] with
  | some [unit, error] => do
    return ⟨← unit.bind Json.str?, ← error.bind Json.str?⟩
  | _ => none

end Failure

def toJson (r : Report) : Json :=
  .obj ([("version", r.version.toJson), ("timestamp", .str r.timestamp),
      ("summary", r.summary.toJson), ("units", .arr (r.units.map Section.toJson))]
    ++ (if r.failures.isEmpty then [] else [("failures", .arr (r.failures.map Failure.toJson))])
    ++ Json.optionalField "metadata" id r.metadata)

def ofJson? (json : Json) : Option Report :=
  match json.record? ["version", "timestamp", "summary", "units", "failures", "metadata"] with
  | some [version, timestamp, summary, units, failures, metadata] => do
    if json.list? some |>.any fun items => items.length < 6 then
      none
    return {
      version := ← version.bind Version.ofJson?
      timestamp := ← timestamp.bind Json.str?
      summary := ← summary.bind Summary.ofJson?
      units := ← units.bind (Json.list? Section.ofJson?)
      failures := ← Json.list? Failure.ofJson? (failures.getD (.arr []))
      metadata := ← Json.option? some (metadata.getD .null) }
  | _ => none

def render (r : Report) : String :=
  r.toJson.pretty

end DeprecatedUse.Report
