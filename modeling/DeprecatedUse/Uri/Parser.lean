import DeprecatedUse.Uri.Basic
import DeprecatedUse.Uri.Host

/-!
This module contains the reading of URIs. What can be written in more than one way is brought into
its normal form: the case of schemes and the spelling of hosts, services that go without saying,
segments of dots, and characters that have to be encoded.
-/

namespace DeprecatedUse.Uri

def netSchemes : List (String × Nat) :=
  [("http", 80), ("https", 443), ("ws", 80), ("wss", 443), ("ftp", 21)]

def isNetScheme (scheme : String) : Bool :=
  (netSchemes.lookup scheme).isSome

def isSlash (special : Bool) (c : Char) : Bool :=
  c == '/' || (special && c == '\\')

def clean (cs : List Char) : List Char :=
  let isEdge := fun c : Char => c.toNat ≤ 0x20
  let cs := ((cs.dropWhile isEdge).reverse.dropWhile isEdge).reverse
  cs.filter fun c => c != '\t' && c != '\n' && c != '\r'

def scheme? (cs : List Char) : Option (String × List Char) := do
  let (name, rest) ← Text.splitFirst? ':' cs
  let first ← name.head?
  if first.isAlpha && name.all fun c => c.isAlphanum || c == '+' || c == '-' || c == '.' then
    return (String.ofList (name.map Char.toLower), rest)
  none

structure Cut where
  main : List Char
  query : Option (List Char) := none
  fragment : Option (List Char) := none

def cut (cs : List Char) : Cut :=
  let (before, fragment) := match Text.splitFirst? '#' cs with
    | none => (cs, none)
    | some (before, fragment) => (before, some fragment)
  match Text.splitFirst? '?' before with
  | none => ⟨before, none, fragment⟩
  | some (main, query) => ⟨main, some query, fragment⟩

/-! Paths. -/

def isDrive : List Char → Bool
  | [letter, c] => letter.isAlpha && (c == ':' || c == '|')
  | _ => false

def beginsWithDrive (segment : List Char) : Bool :=
  isDrive (segment.takeWhile (· != '\\'))

def plainDots (segment : List Char) : List Char :=
  match segment with
  | [] => []
  | '%' :: '2' :: c :: rest =>
    if c = 'e' ∨ c = 'E' then '.' :: plainDots rest else '%' :: '2' :: c :: plainDots rest
  | c :: rest => c :: plainDots rest

def shorten (done : List (List Char)) : List (List Char) :=
  if done.getLast?.any beginsWithDrive then done else done.dropLast

/--
The segments of a path without dots, and whether the path was found to start with a drive.
-/
structure Route where
  names : List (List Char) := []
  drive : Bool := false
deriving DecidableEq, Repr, Inhabited

def Route.follow (file : Bool) (route : Route) : List (List Char) → Route
  | [] => route
  | segment :: rest =>
    let dots := plainDots segment
    let closing := if rest.isEmpty then [[]] else []
    if dots = ['.', '.'] then
      follow file { route with names := shorten route.names ++ closing } rest
    else if dots = ['.'] then
      follow file { route with names := route.names ++ closing } rest
    else if file && route.names.isEmpty && isDrive segment then
      follow file ⟨[segment.take 1 ++ [':']], true⟩ rest
    else
      follow file { route with names := route.names ++ [encode mustInPath segment] } rest

def segments (special : Bool) (cs : List Char) : List (List Char) :=
  Text.splitOn '/' (if special then cs.map fun c => if c = '\\' then '/' else c else cs)

def bodyOf (special : Bool) (cs : List Char) : Body :=
  .segments ((Route.follow false {} (segments special cs)).names.map String.ofList)

/-! Authorities. -/

def service? (scheme : String) (digits : List Char) : Option (Option Nat) :=
  if digits = [] then
    some none
  else if digits.all Char.isDigit then do
    let n ← number? 10 digits
    if 65535 < n then
      none
    return if netSchemes.lookup scheme = some n then none else some n
  else
    none

def splitHost (cs : List Char) : List Char × List Char :=
  match cs with
  | '[' :: _ =>
    let inside := cs.takeWhile (· != ']')
    let rest := cs.drop inside.length
    (inside ++ rest.take 1 ++ (rest.drop 1).takeWhile (· != ':'),
      (rest.drop 1).dropWhile (· != ':'))
  | _ => (cs.takeWhile (· != ':'), cs.dropWhile (· != ':'))

def splitUser (cs : List Char) : Option (List Char) × List Char :=
  if cs.contains '@' then
    let host := Text.afterLast '@' cs
    (some (cs.take (cs.length - host.length - 1)), host)
  else
    (none, cs)

def renderUser (cs : List Char) : Option String :=
  let (name, password) := match Text.splitFirst? ':' cs with
    | none => (cs, [])
    | some (name, password) => (name, password)
  let text := encode mustInUser name
    ++ (if password = [] then [] else ':' :: encode mustInUser password)
  if text = [] then none else some (String.ofList text)

def splitService (cs : List Char) : List Char × List Char :=
  let cs := cs.drop 1
  (cs.takeWhile (· != '\\'), cs.dropWhile (· != '\\'))

/--
An authority, and the part of the path that is written together with it. `followed` tells whether
anything stands behind it: only what stands alone may have an at sign and nothing around it.
-/
def authority? (scheme : String) (followed : Bool) (cs : List Char) :
    Option (Authority × List Char) := do
  let (user, rest) := splitUser cs
  if user = some [] ∧ rest = [] ∧ followed then
    none
  let user := user.bind renderUser
  let (host, rest) := splitHost rest
  let host ← if isNetScheme scheme then netHost? host else otherHost? host
  if host = [] ∧ (user.isSome ∨ rest ≠ []) then
    none
  let (digits, path) := splitService rest
  return ({
    user := user
    host := String.ofList host
    service := ← service? scheme digits }, path)

def withTail (special : Bool) (c : Cut) (u : Uri) : Uri :=
  { u with
    query := c.query.map fun q => String.ofList (encode (mustInQuery special) q)
    fragment := c.fragment.map fun f => String.ofList (encode mustInFragment f) }

def withAuthority? (scheme : String) (c : Cut) (cs : List Char) : Option Uri := do
  let special := isNetScheme scheme
  let host := cs.takeWhile (!isSlash special ·)
  let path := cs.drop host.length
  let (a, start) ← authority? scheme (path ≠ [] || c.query.isSome || c.fragment.isSome) host
  let path := start ++ path
  return withTail special c {
    scheme := scheme
    authority := some a
    body :=
      if path = [] ∧ ¬ special then .segments []
      else bodyOf special (if path.head?.any (isSlash special) then path.drop 1 else path) }

/-! Files. -/

/--
A URI of a file. Its path does not begin with an empty segment, and where it starts with a drive the
host does not matter.
-/
def fileUri (c : Cut) (host : List Char) (path : List Char) : Uri :=
  let route := Route.follow true {} (segments true path)
  let names := match route.names.dropWhile List.isEmpty with
    | [] => [[]]
    | names => names
  withTail true c {
    scheme := "file"
    authority := some { host := if route.drive then "" else String.ofList host }
    body := .segments (names.map String.ofList) }

/--
A URI of a file. Behind a host the path starts after the slash, and where no host or only this one
is named, with it.
-/
def file? (c : Cut) : Option Uri := do
  match c.main with
  | a :: b :: rest =>
    if isSlash true a && isSlash true b then
      let host := rest.takeWhile (!isSlash true ·)
      let path := rest.drop host.length
      if isDrive host then
        return fileUri c [] rest
      if host = [] then
        return fileUri c [] path
      let host ← netHost? host
      if host = "localhost".toList then
        return fileUri c [] path
      return fileUri c host (path.drop 1)
    else if isSlash true a then
      return fileUri c [] (b :: rest)
    else
      return fileUri c [] (a :: b :: rest)
  | [a] => return fileUri c [] (if isSlash true a then [] else [a])
  | [] => return fileUri c [] []

def parse? (text : String) : Option Uri := do
  let (scheme, rest) ← scheme? (clean text.toList)
  let c := cut rest
  if scheme = "file" then
    file? c
  else if isNetScheme scheme then
    withAuthority? scheme c (c.main.dropWhile (isSlash true))
  else
    match c.main with
    | '/' :: '/' :: rest => withAuthority? scheme c rest
    | '/' :: rest => return withTail false c { scheme := scheme, body := bodyOf false rest }
    | main =>
      let text := String.ofList (encode isControl main)
      return withTail false c { scheme := scheme, body := .opaqueText text }

end DeprecatedUse.Uri
