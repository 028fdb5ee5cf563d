import DeprecatedUse.Diagnostic
import DeprecatedUse.Json.Basic

/-!
This module contains the JSON forms of positions, spans, diagnostics and batches. Lines and columns
are numbers of thirty-two bits.
-/

namespace DeprecatedUse

namespace Position

def toJson (p : Position) : Json :=
  .obj [("line", .nat p.line), ("column", .nat p.column)]

def ofJson? (json : Json) : Option Position :=
  match json.record? ["line", "column"] with
  | some [line, column] => do
    return ⟨← line.bind (Json.nat? UInt32.size), ← column.bind (Json.nat? UInt32.size)⟩
  | _ => none

end Position

namespace Span

def toJson (s : Span) : Json :=
  .obj [("start", s.start.toJson), ("end", s.stop.toJson)]

def ofJson? (json : Json) : Option Span :=
  match json.record? ["start", "end"] with
  | some [start, stop] => do
    return ⟨← start.bind Position.ofJson?, ← stop.bind Position.ofJson?⟩
  | _ => none

end Span

namespace Severity

def toJson (s : Severity) : Json :=
  .str s.word

def ofWord? : String → Option Severity
  | "error" => some .error
  | "warning" => some .warning
  | "information" => some .information
  | "hint" => some .hint
  | _ => none

def ofJson? (json : Json) : Option Severity :=
  json.choice?.bind ofWord?

end Severity

namespace Diagnostic

def Code.toJson (c : Code) : Json :=
  .str c.word

def Code.ofWord? : String → Option Code
  | "DEPRECATED_MEMBER_USAGE" => some .deprecatedMemberUsage
  | "PARSE_ERROR" => some .parseError
  | "ANALYSIS_FAULT" => some .analysisFault
  | _ => none

def Code.ofJson? (json : Json) : Option Code :=
  json.choice?.bind ofWord?

def toJson (d : Diagnostic) : Json :=
  .obj ([("code", d.code.toJson), ("severity", d.severity.toJson), ("message", .str d.message),
      ("span", d.span.toJson), ("source", .str d.source)]
    ++ Json.optionalField "symbol" .str d.symbol)

def ofJson? (json : Json) : Option Diagnostic :=
  match json.record? ["code", "severity", "message", "span", "source", "symbol"] with
  | some [code, severity, message, span, source, symbol] => do
    return {
      code := ← code.bind Code.ofJson?
      severity := ← severity.bind Severity.ofJson?
      message := ← message.bind Json.str?
      span := ← span.bind Span.ofJson?
      source := ← source.bind Json.str?
      symbol := ← Json.option? Json.str? (symbol.getD .null) }
  | _ => none

end Diagnostic

namespace Batch

def toJson (b : Batch) : Json :=
  .arr (b.diagnostics.map Diagnostic.toJson)

def ofJson? (json : Json) : Option Batch :=
  (json.list? Diagnostic.ofJson?).map Batch.mk

end Batch

end DeprecatedUse
