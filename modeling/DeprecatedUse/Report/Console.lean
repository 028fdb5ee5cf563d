import DeprecatedUse.Report.Markdown
import DeprecatedUse.Text.Style

/-!
This module contains the form in which reports are shown on a terminal.
-/

namespace DeprecatedUse.Report

open DeprecatedUse.Text (Style)

namespace Console

def rule (coloured : Bool) : String :=
  Style.paint { colour := some .brightBlue } coloured (String.ofList (List.replicate 60 '='))
    ++ "\n"

def heading (coloured : Bool) (text : String) : String :=
  Style.paint { bold := true } coloured text ++ "\n"

def label : Severity → String × Style
  | .error => ("ERROR", { bold := true, colour := some .red })
  | .warning => ("WARN", { bold := true, colour := some .yellow })
  | .information => ("INFO", { colour := some .cyan })
  | .hint => ("HINT", { dimmed := true })

def summary (coloured : Bool) (s : Summary) : String :=
  heading coloured "Summary:"
    ++ "  Files analyzed: " ++ toString s.unitsAnalyzed ++ "\n"
    ++ (if s.unitsFailed = 0 then "" else
      "  Files failed:   "
        ++ Style.paint { bold := true, colour := some .red } coloured (toString s.unitsFailed)
        ++ "\n")
    ++ "  Total diagnostics: " ++ toString s.total ++ "\n"
    ++ "  Warnings: "
    ++ Style.paint { colour := some (if s.warnings = 0 then .green else .yellow) } coloured
      (toString s.warnings) ++ "\n"
    ++ "  Info:     " ++ toString s.information ++ "\n"
    ++ "  Hints:    " ++ toString s.hints ++ "\n\n"

def diagnostic (coloured : Bool) (root : Path) (unit : UnitId) (d : Diagnostic) : String :=
  let (word, style) := label d.severity
  "  [" ++ style.paint coloured word ++ "] " ++ d.code.word ++ ": " ++ d.message ++ "\n"
    ++ "    at " ++ unitName root unit ++ ":" ++ d.span.start.render ++ "\n"

def findings (coloured : Bool) (root : Path) (r : Report) : String :=
  if r.summary.total = 0 then
    if r.failures.isEmpty then
      Style.paint { bold := true, colour := some .green } coloured "✓ No deprecated usages found!"
        ++ "\n"
    else
      ""
  else
    heading coloured "Diagnostics:"
      ++ String.join (r.diagnostics.map fun (unit, d) => diagnostic coloured root unit d) ++ "\n"

def failure (coloured : Bool) (f : Failure) : String :=
  "  " ++ Style.paint { colour := some .red } coloured "✗" ++ " " ++ f.error ++ "\n"

def failures (coloured : Bool) (fs : List Failure) : String :=
  if fs.isEmpty then
    ""
  else
    heading coloured "Failures:" ++ String.join (fs.map (failure coloured)) ++ "\n"

end Console

def console (coloured : Bool) (root : Path) (r : Report) : String :=
  "\n" ++ Console.rule coloured
    ++ Style.paint { bold := true, colour := some .brightBlue } coloured
      "Deprecated API Usage Report" ++ "\n"
    ++ Console.rule coloured ++ "\n"
    ++ "Version: " ++ r.version.render ++ "\n"
    ++ "Timestamp: " ++ r.timestamp ++ "\n\n"
    ++ Console.summary coloured r.summary
    ++ Console.findings coloured root r
    ++ Console.failures coloured r.failures
    ++ Console.rule coloured

end DeprecatedUse.Report
