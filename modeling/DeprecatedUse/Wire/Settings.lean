import DeprecatedUse.Settings
import DeprecatedUse.Toml.Parser
import DeprecatedUse.Wire.Diagnostic

/-!
This module contains the written forms of settings: JSON objects, and a TOML document with the
tables `workspace` and `deprecation`. Whatever is missing has its default.
-/

namespace DeprecatedUse

namespace SourceSettings

def toJson (s : SourceSettings) : Json :=
  .obj [("source_paths", .strings s.sourcePaths),
    ("build_info_file", Json.ofOption .str s.buildInfoFile),
    ("build_info_command", .strings s.buildInfoCommand), ("exclude", .strings s.exclude)]

def fieldNames : List String :=
  ["source_paths", "build_info_file", "build_info_command", "exclude"]

def ofJson? (json : Json) : Option SourceSettings :=
  let texts? := fun v : Option Json => Json.list? Json.str? (v.getD (.arr []))
  match json.record? fieldNames with
  | some [sourcePaths, buildInfoFile, buildInfoCommand, exclude] => do
    return {
      sourcePaths := ← texts? sourcePaths
      buildInfoFile := ← Json.option? Json.str? (buildInfoFile.getD .null)
      buildInfoCommand := ← texts? buildInfoCommand
      exclude := ← texts? exclude }
  | _ => none

def ofToml? (value : Toml.Value) : Option SourceSettings :=
  let texts? := fun v : Option Toml.Value => (v.getD (.array [])).list? Toml.Value.string?
  match value.record? fieldNames with
  | some [sourcePaths, buildInfoFile, buildInfoCommand, exclude] => do
    return {
      sourcePaths := ← texts? sourcePaths
      buildInfoFile := ← buildInfoFile.mapM Toml.Value.string?
      buildInfoCommand := ← texts? buildInfoCommand
      exclude := ← texts? exclude }
  | _ => none

end SourceSettings

namespace CheckSettings

def toJson (s : CheckSettings) : Json :=
  .obj [("enabled", .bool s.enabled), ("severity", s.severity.toJson),
    ("ignore", .strings s.ignore)]

def fieldNames : List String :=
  ["enabled", "severity", "ignore"]

def ofJson? (json : Json) : Option CheckSettings :=
  match json.record? fieldNames with
  | some [enabled, severity, ignore] => do
    return {
      enabled := ← (enabled.getD (.bool true)).bool?
      severity := ← Severity.ofJson? (severity.getD (.str "warning"))
      ignore := ← Json.list? Json.str? (ignore.getD (.arr [])) }
  | _ => none

def ofToml? (value : Toml.Value) : Option CheckSettings :=
  match value.record? fieldNames with
  | some [enabled, severity, ignore] => do
    return {
      enabled := ← (enabled.getD (.boolean true)).boolean?
      severity := ← (severity.getD (.string "warning")).choice?.bind Severity.ofWord?
      ignore := ← (ignore.getD (.array [])).list? Toml.Value.string? }
  | _ => none

end CheckSettings

namespace Settings

def ofTomlValue? (value : Toml.Value) : Option Settings :=
  match value.record? ["workspace", "deprecation"] with
  | some [sources, check] => do
    return {
      sources := ← SourceSettings.ofToml? (sources.getD (.table []))
      check := ← CheckSettings.ofToml? (check.getD (.table [])) }
  | _ => none

def ofToml? (text : String) : Option Settings :=
  (Toml.parse? text).bind ofTomlValue?

/-! The document that settings are saved as. -/

def escapeToml (c : Char) : List Char :=
  match c with
  | '"' => ['\\', '"']
  | '\\' => ['\\', '\\']
  | c => [c]

def quoteToml (s : String) : String :=
  "\"" ++ String.ofList (s.toList.flatMap escapeToml) ++ "\""

def listToml : List String → String
  | [] => "[]"
  | [s] => "[" ++ quoteToml s ++ "]"
  | texts => "[\n" ++ String.join (texts.map fun s => "    " ++ quoteToml s ++ ",\n") ++ "]"

def lineToml (key value : String) : String :=
  key ++ " = " ++ value ++ "\n"

def toToml (s : Settings) : String :=
  "[workspace]\n"
    ++ lineToml "source_paths" (listToml s.sources.sourcePaths)
    ++ (match s.sources.buildInfoFile with
      | none => ""
      | some file => lineToml "build_info_file" (quoteToml file))
    ++ lineToml "build_info_command" (listToml s.sources.buildInfoCommand)
    ++ lineToml "exclude" (listToml s.sources.exclude)
    ++ "\n[deprecation]\n"
    ++ lineToml "enabled" (if s.check.enabled then "true" else "false")
    ++ lineToml "severity" (quoteToml s.check.severity.word)
    ++ lineToml "ignore" (listToml s.check.ignore)

end Settings

end DeprecatedUse
