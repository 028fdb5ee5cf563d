import DeprecatedUse.Program.Escape
import DeprecatedUse.Program.Floating

/-!
This module contains formats: texts with places that arguments are written into.
-/

namespace DeprecatedUse.Program

/--
How an argument is written: filled up to a width, on the left or on the right, with blanks or zeros.
-/
structure Directive where
  flags : List Char := []
  width : Nat := 0
  precision : Option Nat := none
deriving DecidableEq, Repr, Inhabited

/--
What the writing of a format comes to: its bytes, the arguments that are left, what is said about
arguments, and whether the writing has to end.
-/
structure Formatted where
  bytes : List UInt8 := []
  left : List String := []
  remarks : List String := []
  ended : Bool := false
  failure : Option String := none
deriving Inhabited

namespace Directive

def pad (d : Directive) (bytes : List UInt8) : List UInt8 :=
  let fill := List.replicate (d.width - bytes.length) 32
  if d.flags.contains '-' then bytes ++ fill else fill ++ bytes

def writeBytes (d : Directive) (bytes : List UInt8) : List UInt8 :=
  d.pad (match d.precision with
    | none => bytes
    | some n => bytes.take n)

def writeNumber (d : Directive) (fills : Bool) (sign digits : String) : List UInt8 :=
  let zeros := if fills && d.flags.contains '0' && !d.flags.contains '-' then
      d.width - sign.length - digits.length
    else
      0
  d.pad (bytesOf (sign ++ String.ofList (List.replicate zeros '0') ++ digits))

def sign (d : Directive) (negative : Bool) : String :=
  if negative then "-"
  else if d.flags.contains '+' then "+"
  else if d.flags.contains ' ' then " "
  else ""

def digits (d : Directive) (base n : Nat) : List Char :=
  let digits := if n = 0 then [] else Nat.toDigits base n
  List.replicate (d.precision.getD 1 - digits.length) '0' ++ digits

def writeInteger (d : Directive) (letter : Char) (n : Int) : List UInt8 :=
  let unsigned := (n % 18446744073709551616).toNat
  let marked := d.flags.contains '#'
  let write := fun (sign : String) (digits : List Char) =>
    d.writeNumber d.precision.isNone sign (String.ofList digits)
  match letter with
  | 'o' =>
    let digits := d.digits 8 unsigned
    write "" (if marked && digits.head? != some '0' then '0' :: digits else digits)
  | 'x' => write (if marked && unsigned != 0 then "0x" else "") (d.digits 16 unsigned)
  | 'X' =>
    write (if marked && unsigned != 0 then "0X" else "") ((d.digits 16 unsigned).map Char.toUpper)
  | 'u' => write "" (d.digits 10 unsigned)
  | _ => write (d.sign (n < 0)) (d.digits 10 n.natAbs)

def writeFloating (d : Directive) (letter : Char) (x : Floating) : List UInt8 :=
  let (fills, mark, digits) :=
    Floating.digitsFor letter.toLower (d.flags.contains '#') d.precision x.magnitude
  let write := fun (mark digits : String) => d.writeNumber fills (d.sign x.negative ++ mark) digits
  if letter.isUpper then write mark.toUpper digits.toUpper else write mark digits

end Directive

def quotedNumber? (text : String) : Option Nat :=
  match text.toList with
  | '\'' :: rest | '"' :: rest =>
    some (((bytesOf (String.ofList rest)).map UInt8.toNat).head?.getD 0)
  | _ => none

def conversionRemarks (text : String) (read : Bool) (rest : List Char) (out : Bool) :
    List String :=
  if text = "" then []
  else if !read then [text ++ ": expected numeric value"]
  else if !rest.isEmpty then [text ++ ": not completely converted"]
  else if out then [text ++ ": Numerical result out of range"]
  else []

def numberArgument (signed : Bool) (text : String) : Int × List String :=
  match quotedNumber? text with
  | some n => (n, [])
  | none =>
    let cs := text.toList.dropWhile fun c => c == ' ' || ('\t' ≤ c && c ≤ '\r')
    let (negative, cs) := match cs with
      | '-' :: rest => (true, rest)
      | '+' :: rest => (false, rest)
      | rest => (false, rest)
    let isHex := fun (rest : List Char) => rest.head?.any fun c => (Text.hexValue? c).isSome
    let (base, ds) := match cs with
      | '0' :: 'x' :: rest => if isHex rest then (16, rest) else (8, cs)
      | '0' :: 'X' :: rest => if isHex rest then (16, rest) else (8, cs)
      | '0' :: rest => (8, '0' :: rest)
      | rest => (10, rest)
    let (n, rest) := digitsIn base ds.length 0 ds
    let limit := if !signed then 18446744073709551615
      else if negative then 9223372036854775808 else 9223372036854775807
    let out := limit < n
    let value : Int := if out then limit else n
    (if negative && (signed || !out) then -value else value,
      conversionRemarks text (rest.length != ds.length) rest out)

def floatingArgument (text : String) : Floating × List String :=
  match quotedNumber? text with
  | some n => ({ magnitude := .finite n 0 }, [])
  | none =>
    match Floating.read? text.toList with
    | some (x, out, rest) => (x, conversionRemarks text true rest out)
    | none => ({}, conversionRemarks text false [] false)

def writeArgument (d : Directive) (letter : Char) (written : List Char) (arguments : List String) :
    Formatted :=
  let argument := arguments.head?.getD ""
  let left := arguments.tail
  if letter = 's' then
    { bytes := d.writeBytes (bytesOf argument), left := left }
  else if letter = 'c' then
    { bytes := d.pad [(bytesOf argument).head?.getD 0], left := left }
  else if letter = 'b' then
    let (bytes, more) := readEscapes false argument.toList
    { bytes := d.writeBytes bytes, left := left, ended := !more }
  else if "diouxX".toList.contains letter then
    let (n, remarks) := numberArgument (letter == 'd' || letter == 'i') argument
    { bytes := d.writeInteger letter n, left := left, remarks := remarks }
  else if "aAeEfFgG".toList.contains letter then
    let (x, remarks) := floatingArgument argument
    { bytes := d.writeFloating letter x, left := left, remarks := remarks }
  else
    { left := arguments, failure := some (String.ofList written ++ ": invalid directive") }

def readSize (cs : List Char) (arguments : List String) :
    Int × List String × List Char × List String :=
  match cs with
  | '*' :: rest =>
    let (n, remarks) := numberArgument true (arguments.head?.getD "")
    (n, remarks, rest, arguments.tail)
  | cs =>
    let (n, rest) := digitsIn 10 cs.length 0 cs
    (n, [], rest, arguments)

def fillFormat : Nat → List Char → List String → Formatted
  | 0, _, arguments => { left := arguments }
  | _, [], arguments => { left := arguments }
  | fuel + 1, '\\' :: c :: rest, arguments =>
    let (bytes, rest) := if isOctal c then
        let (n, rest) := digitsIn 8 3 0 (c :: rest)
        ([n.toUInt8], rest)
      else
        (escapeBytes c, rest)
    let f := fillFormat fuel rest arguments
    { f with bytes := bytes ++ f.bytes }
  | fuel + 1, '%' :: '%' :: rest, arguments =>
    let f := fillFormat fuel rest arguments
    { f with bytes := bytesOf "%" ++ f.bytes }
  | fuel + 1, '%' :: cs, arguments =>
    let flags := cs.takeWhile fun c => ['#', '-', '+', ' ', '0'].contains c
    let (width, widthRemarks, rest, arguments) := readSize (cs.drop flags.length) arguments
    let flags := if width < 0 then '-' :: flags else flags
    let (precision, moreRemarks, rest, arguments) := match rest with
      | '.' :: rest => readSize rest arguments
      | rest => (-1, [], rest, arguments)
    let precision := if precision < 0 then none else some precision.toNat
    match rest with
    | [] => { left := arguments, failure := some "missing format character" }
    | letter :: rest =>
      let written := '%' :: cs.take (cs.length - rest.length)
      let one := writeArgument ⟨flags, width.natAbs, precision⟩ letter written arguments
      let remarks := widthRemarks ++ moreRemarks ++ one.remarks
      if one.ended || one.failure.isSome then
        { one with remarks := remarks }
      else
        let f := fillFormat fuel rest one.left
        { f with bytes := one.bytes ++ f.bytes, remarks := remarks ++ f.remarks }
  | fuel + 1, c :: rest, arguments =>
    let f := fillFormat fuel rest arguments
    { f with bytes := bytesOf c.toString ++ f.bytes }

/--
Write a format again and again until it has taken all arguments. One that takes none is written
once.
-/
def writeFormat (format : List Char) : Nat → List String → Formatted
  | 0, _ => {}
  | n + 1, arguments =>
    let f := fillFormat (format.length + 1) format arguments
    if f.left = [] ∨ f.left.length = arguments.length ∨ f.ended ∨ f.failure.isSome then
      f
    else
      let more := writeFormat format n f.left
      { more with bytes := f.bytes ++ more.bytes, remarks := f.remarks ++ more.remarks }

end DeprecatedUse.Program
