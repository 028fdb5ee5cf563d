/-!
This module contains fingerprints of texts: the SHA-256 digest of the UTF-8 form, in hexadecimal.
-/

namespace DeprecatedUse

namespace Fingerprint

def roundConstants : List UInt32 :=
  [0x428a2f98, 0x71374491, 0xb5c0fbcf, 0xe9b5dba5, 0x3956c25b, 0x59f111f1, 0x923f82a4, 0xab1c5ed5,
    0xd807aa98, 0x12835b01, 0x243185be, 0x550c7dc3, 0x72be5d74, 0x80deb1fe, 0x9bdc06a7, 0xc19bf174,
    0xe49b69c1, 0xefbe4786, 0x0fc19dc6, 0x240ca1cc, 0x2de92c6f, 0x4a7484aa, 0x5cb0a9dc, 0x76f988da,
    0x983e5152, 0xa831c66d, 0xb00327c8, 0xbf597fc7, 0xc6e00bf3, 0xd5a79147, 0x06ca6351, 0x14292967,
    0x27b70a85, 0x2e1b2138, 0x4d2c6dfc, 0x53380d13, 0x650a7354, 0x766a0abb, 0x81c2c92e, 0x92722c85,
    0xa2bfe8a1, 0xa81a664b, 0xc24b8b70, 0xc76c51a3, 0xd192e819, 0xd6990624, 0xf40e3585, 0x106aa070,
    0x19a4c116, 0x1e376c08, 0x2748774c, 0x34b0bcb5, 0x391c0cb3, 0x4ed8aa4a, 0x5b9cca4f, 0x682e6ff3,
    0x748f82ee, 0x78a5636f, 0x84c87814, 0x8cc70208, 0x90befffa, 0xa4506ceb, 0xbef9a3f7, 0xc67178f2]

structure Words where
  a : UInt32
  b : UInt32
  c : UInt32
  d : UInt32
  e : UInt32
  f : UInt32
  g : UInt32
  h : UInt32

def Words.start : Words :=
  ⟨0x6a09e667, 0xbb67ae85, 0x3c6ef372, 0xa54ff53a, 0x510e527f, 0x9b05688c, 0x1f83d9ab, 0x5be0cd19⟩

def Words.add (x y : Words) : Words :=
  ⟨x.a + y.a, x.b + y.b, x.c + y.c, x.d + y.d, x.e + y.e, x.f + y.f, x.g + y.g, x.h + y.h⟩

def Words.toList (w : Words) : List UInt32 :=
  [w.a, w.b, w.c, w.d, w.e, w.f, w.g, w.h]

def rotateRight (x n : UInt32) : UInt32 :=
  (x >>> n) ||| (x <<< (32 - n))

def round (w : Words) (input : UInt32 × UInt32) : Words :=
  let s1 := rotateRight w.e 6 ^^^ rotateRight w.e 11 ^^^ rotateRight w.e 25
  let choice := (w.e &&& w.f) ^^^ ((w.e ^^^ 0xffffffff) &&& w.g)
  let t1 := w.h + s1 + choice + input.1 + input.2
  let s0 := rotateRight w.a 2 ^^^ rotateRight w.a 13 ^^^ rotateRight w.a 22
  let majority := (w.a &&& w.b) ^^^ (w.a &&& w.c) ^^^ (w.b &&& w.c)
  ⟨t1 + (s0 + majority), w.a, w.b, w.c, w.d + t1, w.e, w.f, w.g⟩

def extend : Nat → List UInt32 → List UInt32
  | 0, schedule => schedule
  | n + 1, schedule =>
    let word := fun back => schedule.getD (back - 1) 0
    let x := word 15
    let y := word 2
    let s0 := rotateRight x 7 ^^^ rotateRight x 18 ^^^ (x >>> 3)
    let s1 := rotateRight y 17 ^^^ rotateRight y 19 ^^^ (y >>> 10)
    extend n ((word 16 + s0 + word 7 + s1) :: schedule)

def block (w : Words) (words : List UInt32) : Words :=
  w.add ((roundConstants.zip (extend 48 words.reverse).reverse).foldl round w)

def wordsOfBytes : List UInt8 → List UInt32
  | a :: b :: c :: d :: rest =>
    ((((a.toUInt32 <<< 8 ||| b.toUInt32) <<< 8) ||| c.toUInt32) <<< 8 ||| d.toUInt32)
      :: wordsOfBytes rest
  | _ => []

/--
The bytes behind a message of `length` bytes: a one bit, zeros up to a block's last eight bytes, and
the number of bits.
-/
def padding (length : Nat) : List UInt8 :=
  (0x80 : UInt8) :: List.replicate ((119 - length % 64) % 64) 0
    ++ (List.range 8).reverse.map fun i => UInt8.ofNat ((length * 8) >>> (8 * i))

def blocks (w : Words) (words : List UInt32) : Words :=
  if words.isEmpty then
    w
  else
    blocks (block w (words.take 16)) (words.drop 16)
termination_by words.length
decreasing_by
  cases words with
  | nil => simp_all
  | cons x xs => simp only [List.length_drop, List.length_cons]; omega

def digest (bytes : List UInt8) : List UInt32 :=
  (blocks Words.start (wordsOfBytes (bytes ++ padding bytes.length))).toList

def hex (digits n : Nat) : List Char :=
  (List.range digits).reverse.map fun i =>
    let d := n >>> (4 * i) % 16
    if d < 10 then Char.ofNat (d + 48) else Char.ofNat (d + 87)

end Fingerprint

def fingerprint (text : String) : String :=
  String.ofList ((Fingerprint.digest text.toUTF8.toList).flatMap fun w => Fingerprint.hex 8 w.toNat)

end DeprecatedUse
