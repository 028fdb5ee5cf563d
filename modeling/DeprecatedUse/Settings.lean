import DeprecatedUse.Diagnostic
import DeprecatedUse.Glob

/-!
This module contains the settings of a workspace: where its sources come from, and how uses of
deprecated members are reported.
-/

namespace DeprecatedUse

structure SourceSettings where
  sourcePaths : List String := []
  buildInfoFile : Option String := none
  /-- A command that prints build information; it runs in the root of the workspace. -/
  buildInfoCommand : List String := []
  exclude : List String := []
deriving DecidableEq, Repr, Inhabited

def SourceSettings.excludes (s : SourceSettings) (path : String) : Bool :=
  s.exclude.any (globMatch · path)

structure CheckSettings where
  enabled : Bool := true
  severity : Severity := .warning
  /-- Globs for the full names of members about which nothing is said. -/
  ignore : List String := []
deriving DecidableEq, Repr, Inhabited

namespace CheckSettings

/--
The severity of what is reported. Deprecation is advice and never blocks, so an error becomes a
warning.
-/
def effectiveSeverity (s : CheckSettings) : Severity :=
  match s.severity with
  | .error => .warning
  | severity => severity

def ignores (s : CheckSettings) (qualifiedName : String) : Bool :=
  s.ignore.any (globMatch · qualifiedName)

end CheckSettings

structure Settings where
  sources : SourceSettings := {}
  check : CheckSettings := {}
deriving DecidableEq, Repr, Inhabited

end DeprecatedUse
