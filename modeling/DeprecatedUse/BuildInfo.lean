import DeprecatedUse.Json.Parser
import DeprecatedUse.Program.Basic

/-!
This module contains build information: where a build system says that sources and compiled
dependencies lie. It is a JSON document, in a file or printed by a command.
-/

namespace DeprecatedUse

structure BuildInfo where
  sourcePaths : List String := []
  classPaths : List String := []
deriving DecidableEq, Repr, Inhabited

inductive WorkspaceError where
  | badBuildInfo
  | command (cause : String)
  | unreadable (path : Path) (cause : FileError)
deriving DecidableEq, Repr

def WorkspaceError.message : WorkspaceError → String
  | .badBuildInfo => "Invalid build info: "
  | .command cause => "Build info command failed: " ++ cause
  | .unreadable path cause => "Failed to read " ++ path.text ++ ": " ++ cause.message

namespace BuildInfo

def fieldNames : List String :=
  ["sourcePaths", "classPaths"]

def toJson (info : BuildInfo) : Json :=
  .obj [("sourcePaths", .strings info.sourcePaths), ("classPaths", .strings info.classPaths)]

def ofJson? (json : Json) : Option BuildInfo :=
  let texts? := fun v : Option Json => Json.list? Json.str? (v.getD (.arr []))
  match json.record? fieldNames with
  | some [sourcePaths, classPaths] => do
    return ⟨← texts? sourcePaths, ← texts? classPaths⟩
  | _ => none

/--
Read a document. Neither of the two fields may be written twice; what other fields hold does not
matter.
-/
def parse (text : String) : Except WorkspaceError BuildInfo :=
  match Json.parseRecord? fieldNames text with
  | none => .error .badBuildInfo
  | some json =>
    if json.repeats fieldNames then
      .error .badBuildInfo
    else
      match ofJson? json with
      | none => .error .badBuildInfo
      | some info => .ok info

def ofFile (host : Host) (file : Path) : Except WorkspaceError BuildInfo :=
  match host.readText file with
  | .error e => .error (.unreadable file e)
  | .ok text => parse text

def ofCommand (host : Host) (folder : Path) : List String → Except WorkspaceError BuildInfo
  | [] => .error (.command "empty build-info command")
  | program :: arguments =>
    match host.run folder program arguments with
    | .error e => .error (.command (program ++ ": " ++ e.message))
    | .ok r =>
      if r.status = .success then
        parse (Text.Utf8.decodeLossy r.output)
      else
        let errors := String.ofList (Text.trim (Text.Utf8.decodeLossy r.errors).toList)
        .error (.command (program ++ " exited with " ++ r.status.text ++ ": " ++ errors))

end BuildInfo

end DeprecatedUse
