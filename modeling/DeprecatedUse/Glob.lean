import DeprecatedUse.Text.Utf8

/-!
This module contains glob patterns. In a pattern `*` stands for any text without a slash or a dot,
`**` for any text, and `**/` for nothing or any text that ends in a slash; everything else stands
for itself. Pattern and text are compared by their bytes in UTF-8: 42 is the star, 47 the slash and
46 the dot.
-/

namespace DeprecatedUse.Glob

def isSegment (b : UInt8) : Bool :=
  b != 47 && b != 46

def holdsAfter (skip : UInt8 → Bool) (p : List UInt8 → Bool) : List UInt8 → Bool
  | [] => p []
  | b :: text => p (b :: text) || (skip b && holdsAfter skip p text)

def holdsAfterSlash (p : List UInt8 → Bool) : List UInt8 → Bool
  | [] => false
  | b :: text => (b == 47 && p text) || holdsAfterSlash p text

def matchBytes : List UInt8 → List UInt8 → Bool
  | [], text => text.isEmpty
  | 42 :: 42 :: 47 :: rest, text => matchBytes rest text || holdsAfterSlash (matchBytes rest) text
  | 42 :: 42 :: rest, text => holdsAfter (fun _ => true) (matchBytes rest) text
  | 42 :: rest, text => holdsAfter isSegment (matchBytes rest) text
  | _ :: _, [] => false
  | b :: rest, x :: text => x == b && matchBytes rest text

end DeprecatedUse.Glob

namespace DeprecatedUse

def globMatch (pattern text : String) : Bool :=
  Glob.matchBytes (Text.Utf8.encode pattern) (Text.Utf8.encode text)

end DeprecatedUse
