import DeprecatedUse.Fingerprint
import DeprecatedUse.Java.Access
import DeprecatedUse.Java.Lexer

/-!
This module contains source units: a text with its declarations and the uses of members in it.
-/

namespace DeprecatedUse.Java

inductive ParseError where
  | lex (unit : UnitId) (cause : LexError)
  | unreadable (unit : UnitId) (cause : String)
deriving DecidableEq, Repr

namespace ParseError

def unit : ParseError → UnitId
  | .lex unit _ => unit
  | .unreadable unit _ => unit

def position? : ParseError → Option Position
  | .lex _ cause => some cause.start
  | .unreadable _ _ => none

def message : ParseError → String
  | .lex unit cause => unit ++ ": " ++ cause.message
  | .unreadable unit cause => "Failed to read " ++ unit ++ ": " ++ cause

end ParseError

structure SourceUnit where
  id : UnitId
  text : String
  declarations : Declarations
  accesses : List Access
deriving Repr, Inhabited

namespace SourceUnit

def sortAccesses (accesses : List Access) : List Access :=
  accesses.mergeSort fun a b => decide (a.span.start ≤ b.span.start)

def ofTokens (id : UnitId) (text : String) (tokens : List Token) : SourceUnit :=
  let o := outline tokens
  let declarations := o.declarations
  { id := id
    text := text
    declarations := declarations
    accesses := sortAccesses (o.bodies.flatMap (Access.ofBody o.typeNames declarations.types)) }

def parse (id : UnitId) (text : String) : Except ParseError SourceUnit :=
  match tokenize text with
  | .error e => .error (.lex id e)
  | .ok tokens => .ok (ofTokens id text tokens)

def fingerprint (u : SourceUnit) : String :=
  DeprecatedUse.fingerprint u.text

end SourceUnit

end DeprecatedUse.Java
