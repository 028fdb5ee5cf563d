import DeprecatedUse.Java.Token
import DeprecatedUse.Text.Alphanumeric
import DeprecatedUse.Text.Character

/-!
This module contains the lexer. It cuts a text into pieces, each a token or a gap between tokens
(blanks and comments that document nothing), and keeps the tokens with their spans. Every piece is
not empty and the pieces together are the text, so the lexer ends; it fails only on a block comment
or a text block that is never closed.
-/

namespace DeprecatedUse.Java

open DeprecatedUse.Text

inductive Unclosed where
  | comment
  | textBlock
deriving DecidableEq, Repr

structure LexError where
  unclosed : Unclosed
  start : Position
deriving DecidableEq, Repr

def LexError.message (e : LexError) : String :=
  match e.unclosed with
  | .comment => "unterminated block comment starting at " ++ e.start.render
  | .textBlock => "unterminated text block starting at " ++ e.start.render

namespace Lexer

def isIdentStart (c : Char) : Bool :=
  isAlphabetic c || c == '_' || c == '$'

def isIdentPart (c : Char) : Bool :=
  isAlphabetic c || isNumeric c || c == '_' || c == '$'

def isExponentMark (c : Char) : Bool :=
  c == 'e' || c == 'E' || c == 'p' || c == 'P'

def startsWithDigit : List Char → Bool
  | [] => false
  | c :: _ => c.isDigit

def splitComment? : List Char → Option (List Char × List Char)
  | [] => none
  | '*' :: '/' :: rest => some (['*', '/'], rest)
  | c :: rest => (splitComment? rest).map fun (taken, rest) => (c :: taken, rest)

/--
Split behind the three quotes that close a text block. A backslash takes the next character with it.
-/
def splitTextBlock? : List Char → Option (List Char × List Char)
  | [] => none
  | ['\\'] => none
  | '\\' :: c :: rest => (splitTextBlock? rest).map fun (taken, rest) => ('\\' :: c :: taken, rest)
  | '"' :: '"' :: '"' :: rest => some (['"', '"', '"'], rest)
  | c :: rest => (splitTextBlock? rest).map fun (taken, rest) => (c :: taken, rest)

/--
Split behind the quote that closes a string or character literal, or before the line feed that a
literal without closing quote runs into. A backslash takes the next character with it.
-/
def splitQuoted (quote : Char) : List Char → List Char × List Char
  | [] => ([], [])
  | ['\\'] => (['\\'], [])
  | '\\' :: c :: rest =>
    let (taken, rest) := splitQuoted quote rest
    ('\\' :: c :: taken, rest)
  | c :: rest =>
    if c = '\n' then
      ([], c :: rest)
    else if c = quote then
      ([c], rest)
    else
      let (taken, rest) := splitQuoted quote rest
      (c :: taken, rest)

/--
Split behind a number whose last character so far is `last`: letters, digits and underscores, a
point before a digit, and a sign behind an exponent mark.
-/
def splitNumber (last : Char) : List Char → List Char × List Char
  | [] => ([], [])
  | c :: rest =>
    if c.isAlphanum || c == '_' || (c == '.' && startsWithDigit rest)
        || ((c == '+' || c == '-') && isExponentMark last) then
      let (taken, rest) := splitNumber c rest
      (c :: taken, rest)
    else
      ([], c :: rest)

/--
The first piece of a text, less its first character: its kind, or `none` for a gap, the characters
that belong to it, and the characters after it.
-/
structure Piece where
  kind : Option Token.Kind
  tail : List Char
  rest : List Char

def Piece.run (kind : Option Token.Kind) (p : Char → Bool) (cs : List Char) : Piece where
  kind := kind
  tail := cs.takeWhile p
  rest := cs.dropWhile p

def cut (c : Char) (cs : List Char) : Except Unclosed Piece :=
  match c, cs with
  | '/', '/' :: _ => .ok (.run none (· != '\n') cs)
  | '/', '*' :: rest =>
    match splitComment? rest with
    | none => .error .comment
    | some (taken, after) =>
      -- `/**/` is an empty comment: its second star belongs to the closing mark
      let isDoc := ['*'].isPrefixOf taken && !(['*', '/'].isPrefixOf taken)
      .ok ⟨if isDoc then some .doc else none, '*' :: taken, after⟩
  | '"', '"' :: '"' :: rest =>
    match splitTextBlock? rest with
    | none => .error .textBlock
    | some (taken, after) => .ok ⟨some .literal, '"' :: '"' :: taken, after⟩
  | '.', '.' :: '.' :: rest => .ok ⟨some .punct, ['.', '.'], rest⟩
  | ':', ':' :: rest => .ok ⟨some .punct, [':'], rest⟩
  | '-', '>' :: rest => .ok ⟨some .punct, ['>'], rest⟩
  | _, _ =>
    if isBlank c then
      .ok (.run none isBlank cs)
    else if isIdentStart c then
      .ok (.run (some .ident) isIdentPart cs)
    else if c.isDigit || (c == '.' && startsWithDigit cs) then
      let (taken, after) := splitNumber c cs
      .ok ⟨some .literal, taken, after⟩
    else if c == '"' || c == '\'' then
      let (taken, after) := splitQuoted c cs
      .ok ⟨some .literal, taken, after⟩
    else
      .ok ⟨some .punct, [], cs⟩

theorem splitComment?_append {cs taken rest : List Char}
    (h : splitComment? cs = some (taken, rest)) :
    taken ++ rest = cs := by
  fun_induction splitComment? cs generalizing taken rest with
  | case1 => simp at h
  | case2 =>
    simp only [Option.some.injEq, Prod.mk.injEq] at h
    obtain ⟨rfl, rfl⟩ := h
    rfl
  | case3 c cs _ ih =>
    obtain ⟨⟨t, r⟩, hs, he⟩ := Option.map_eq_some_iff.1 h
    simp only [Prod.mk.injEq] at he
    obtain ⟨rfl, rfl⟩ := he
    simp [ih hs]

theorem splitTextBlock?_append {cs taken rest : List Char}
    (h : splitTextBlock? cs = some (taken, rest)) : taken ++ rest = cs := by
  fun_induction splitTextBlock? cs generalizing taken rest with
  | case1 => simp at h
  | case2 => simp at h
  | case3 c cs ih =>
    obtain ⟨⟨t, r⟩, hs, he⟩ := Option.map_eq_some_iff.1 h
    simp only [Prod.mk.injEq] at he
    obtain ⟨rfl, rfl⟩ := he
    simp [ih hs]
  | case4 =>
    simp only [Option.some.injEq, Prod.mk.injEq] at h
    obtain ⟨rfl, rfl⟩ := h
    rfl
  | case5 c cs _ _ _ ih =>
    obtain ⟨⟨t, r⟩, hs, he⟩ := Option.map_eq_some_iff.1 h
    simp only [Prod.mk.injEq] at he
    obtain ⟨rfl, rfl⟩ := he
    simp [ih hs]

theorem splitQuoted_append (quote : Char) (cs : List Char) :
    (splitQuoted quote cs).1 ++ (splitQuoted quote cs).2 = cs := by
  fun_induction splitQuoted quote cs <;> simp_all

theorem splitNumber_append (last : Char) (cs : List Char) :
    (splitNumber last cs).1 ++ (splitNumber last cs).2 = cs := by
  fun_induction splitNumber last cs <;> simp_all

theorem cut_append {c : Char} {cs : List Char} {p : Piece} (h : cut c cs = .ok p) :
    p.tail ++ p.rest = cs := by
  unfold cut at h
  split at h
  · simp only [Except.ok.injEq] at h
    subst h
    simp [Piece.run]
  · split at h
    · simp at h
    · rename_i hs
      simp only [Except.ok.injEq] at h
      subst h
      simp [splitComment?_append hs]
  · split at h
    · simp at h
    · rename_i hs
      simp only [Except.ok.injEq] at h
      subst h
      simp [splitTextBlock?_append hs]
  · simp only [Except.ok.injEq] at h
    subst h
    simp
  · simp only [Except.ok.injEq] at h
    subst h
    simp
  · simp only [Except.ok.injEq] at h
    subst h
    simp
  · split at h
    · simp only [Except.ok.injEq] at h
      subst h
      simp [Piece.run]
    · split at h
      · simp only [Except.ok.injEq] at h
        subst h
        simp [Piece.run]
      · split at h
        · simp only [Except.ok.injEq] at h
          subst h
          exact splitNumber_append c cs
        · split at h
          · simp only [Except.ok.injEq] at h
            subst h
            exact splitQuoted_append c cs
          · simp only [Except.ok.injEq] at h
            subst h
            simp

theorem cut_rest_length_le {c : Char} {cs : List Char} {p : Piece} (h : cut c cs = .ok p) :
    p.rest.length ≤ cs.length := by
  rw [← cut_append h]
  simp

def tokensFrom (start : Position) : List Char → Except LexError (List Token)
  | [] => .ok []
  | c :: cs =>
    match h : cut c cs with
    | .error unclosed => .error ⟨unclosed, start⟩
    | .ok piece =>
      have := cut_rest_length_le h
      let stop := start.advanceAll (c :: piece.tail)
      match tokensFrom stop piece.rest with
      | .error e => .error e
      | .ok tokens =>
        match piece.kind with
        | none => .ok tokens
        | some kind => .ok (⟨kind, String.ofList (c :: piece.tail), ⟨start, stop⟩⟩ :: tokens)
termination_by cs => cs.length
decreasing_by simp only [List.length_cons]; omega

end Lexer

def tokenize (text : String) : Except LexError (List Token) :=
  Lexer.tokensFrom {} text.toList

end DeprecatedUse.Java
