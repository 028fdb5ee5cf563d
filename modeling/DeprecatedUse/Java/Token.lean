import DeprecatedUse.Position

/-!
This module contains the tokens of a Java text.
-/

namespace DeprecatedUse.Java

/--
What a token is. Keywords are identifiers, and a documentation comment is a token of its own because
it may say that a declaration is deprecated.
-/
inductive Token.Kind where
  | ident
  | literal
  | doc
  | punct
deriving DecidableEq, Repr, Inhabited

structure Token where
  kind : Token.Kind
  text : String
  span : Span
deriving DecidableEq, Repr, Inhabited

namespace Token

def isIdent (t : Token) : Bool :=
  t.kind == .ident

def isWord (t : Token) (word : String) : Bool :=
  t.kind == .ident && t.text == word

def isWordOf (t : Token) (words : List String) : Bool :=
  t.kind == .ident && words.contains t.text

def isPunct (t : Token) (mark : String) : Bool :=
  t.kind == .punct && t.text == mark

def isPunctOf (t : Token) (marks : List String) : Bool :=
  t.kind == .punct && marks.contains t.text

end Token

def modifierWords : List String :=
  ["public", "protected", "private", "static", "final", "abstract", "native", "synchronized",
    "transient", "volatile", "strictfp", "default", "sealed"]

def reservedWords : List String :=
  ["assert", "break", "case", "catch", "class", "continue", "do", "else", "enum", "false",
    "finally", "for", "goto", "if", "import", "instanceof", "interface", "new", "null", "package",
    "return", "super", "switch", "synchronized", "this", "throw", "throws", "true", "try", "while",
    "yield"]

end DeprecatedUse.Java
