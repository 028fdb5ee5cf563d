import DeprecatedUse.Path
import DeprecatedUse.Uri.Percent

/-!
This module contains URIs and the paths of files that they stand for.
-/

namespace DeprecatedUse

namespace Uri

structure Authority where
  user : Option String := none
  host : String := ""
  /-- The number of the service at the host, unless it is the usual one. -/
  service : Option Nat := none
deriving DecidableEq, Repr, Inhabited

inductive Body where
  | segments (names : List String)
  | opaqueText (text : String)
deriving DecidableEq, Repr, Inhabited

end Uri

structure Uri where
  scheme : String
  authority : Option Uri.Authority := none
  body : Uri.Body
  query : Option String := none
  fragment : Option String := none
deriving DecidableEq, Repr, Inhabited

namespace Uri

def Authority.render (a : Authority) : String :=
  (match a.user with
    | none => ""
    | some user => user ++ "@")
    ++ a.host
    ++ (match a.service with
      | none => ""
      | some number => ":" ++ toString number)

def Body.render : Body → String
  | .segments names => String.join (names.map ("/" ++ ·))
  | .opaqueText text => text

def render (u : Uri) : String :=
  let body := u.body.render
  u.scheme ++ ":"
    ++ (match u.authority with
      | some a => "//" ++ a.render
      | none => if body.startsWith "//" then "/." else "")
    ++ body
    ++ (match u.query with
      | none => ""
      | some query => "?" ++ query)
    ++ (match u.fragment with
      | none => ""
      | some fragment => "#" ++ fragment)

def endsInDrive (path : Name) : Bool :=
  match path.reverse with
  | mark :: letter :: _ :: _ => (Char.ofUInt8 letter).isAlpha && (mark == 58 || mark == 124)
  | _ => false

def filePath? (u : Uri) : Option Path :=
  match u.body with
  | .opaqueText _ => none
  | .segments names =>
    if names ≠ [] ∧ (u.authority.all fun a => a.host == "" || a.host == "localhost") then
      let path := names.flatMap fun n => Path.slash :: decode n.toList
      some ⟨if endsInDrive path then path ++ [Path.slash] else path⟩
    else
      none

def ofPath? (p : Path) : Option Uri :=
  match p.components with
  | .root :: components =>
    let names := components.map fun c => String.ofList (encodeName c.bytes)
    some {
      scheme := "file"
      authority := some {}
      body := .segments (if names.isEmpty then [""] else names) }
  | _ => none

end Uri

end DeprecatedUse
