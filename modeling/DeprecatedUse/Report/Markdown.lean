import DeprecatedUse.Path
import DeprecatedUse.Report.Basic

/-!
This module contains the markdown form of reports: the totals, the diagnostics under a heading for
each unit that has any, and the failures.
-/

namespace DeprecatedUse.Report

def unitName (root : Path) (unit : UnitId) : String :=
  root.relativeTo ⟨unit⟩

namespace Markdown

def sign : Severity → String
  | .error => "❌"
  | .warning => "⚠️"
  | .information | .hint => "ℹ️"

def summary (s : Summary) : String :=
  "## Summary\n\n"
    ++ "- Files analyzed: " ++ toString s.unitsAnalyzed ++ "\n"
    ++ "- Files failed: " ++ toString s.unitsFailed ++ "\n"
    ++ "- Total diagnostics: " ++ toString s.total ++ "\n"
    ++ "- Warnings: " ++ toString s.warnings ++ "\n"
    ++ "- Info: " ++ toString s.information ++ "\n"
    ++ "- Hints: " ++ toString s.hints ++ "\n\n"

def diagnostic (d : Diagnostic) : String :=
  let line := Position.ordinal d.span.start.line
  "- " ++ sign d.severity ++ " **" ++ d.code.word ++ "** line " ++ toString line ++ ": "
    ++ d.message ++ "\n"

def unitSection (root : Path) (u : Section) : String :=
  "### " ++ unitName root u.unit ++ "\n\n" ++ String.join (u.diagnostics.map diagnostic) ++ "\n"

def failure (f : Failure) : String :=
  "- `" ++ f.unit ++ "`: " ++ f.error ++ "\n"

def findings (root : Path) (r : Report) : String :=
  if r.summary.total = 0 then
    "✅ **No deprecated usages found!**\n"
  else
    "## Diagnostics\n\n"
      ++ String.join ((r.units.filter fun u => !u.diagnostics.isEmpty).map (unitSection root))

def failures (fs : List Failure) : String :=
  if fs.isEmpty then "" else "## Failures\n\n" ++ String.join (fs.map failure) ++ "\n"

end Markdown

def markdown (root : Path) (r : Report) : String :=
  "# Deprecated API Usage Report\n\n"
    ++ "**Version:** " ++ r.version.render ++ "\n\n"
    ++ "**Timestamp:** " ++ r.timestamp ++ "\n\n"
    ++ Markdown.summary r.summary ++ Markdown.findings root r ++ Markdown.failures r.failures

end DeprecatedUse.Report
