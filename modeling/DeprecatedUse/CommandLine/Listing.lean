import DeprecatedUse.Index
import DeprecatedUse.Text.Style

/-!
This module contains the listing of the members of an index.
-/

namespace DeprecatedUse.Listing

open DeprecatedUse.Text (Style)

def pad (width : Nat) (text : String) : String :=
  text ++ String.ofList (List.replicate (width - text.length) ' ')

def line (coloured : Bool) (s : Symbol) : String :=
  let kind := Style.paint { dimmed := true } coloured (pad 7 s.kind.word)
  if s.deprecated then
    "  " ++ kind ++ " " ++ Style.paint { colour := some .yellow } coloured s.qualifiedName ++ " "
      ++ Style.paint { bold := true, colour := some .yellow } coloured "deprecated"
      ++ (if s.forRemoval then
        " " ++ Style.paint { bold := true, colour := some .red } coloured "for removal" else "")
      ++ (match s.replacement with
        | none => ""
        | some r => " (use " ++ Style.paint { colour := some .green } coloured r ++ ")")
      ++ "\n"
  else
    "  " ++ kind ++ " " ++ s.qualifiedName ++ "\n"

def render (coloured deprecatedOnly : Bool) (index : Index) : String :=
  let listed := index.symbols.filter fun s => !deprecatedOnly || s.deprecated
  let stats := index.stats
  String.join (listed.map (line coloured)) ++ "\n" ++ toString listed.length
    ++ " members listed, " ++ toString stats.types ++ " types indexed, "
    ++ toString stats.deprecated ++ " deprecated members\n"

end DeprecatedUse.Listing
