import DeprecatedUse.Java.Lexer
import DeprecatedUse.Proofs.Java.Cursor.Basic
import DeprecatedUse.Proofs.Java.Tiling
import Mathlib

/-!
This module contains the lexer as a run over the characters of a text by position, and its agreement
with the lexer that cuts texts into pieces. Positions have thirty-two bits, so the run is sure to end
without a fault only if the text is not longer than that.
-/

namespace DeprecatedUse.Java

open DeprecatedUse.Text

namespace Cursor

structure Head where
  index : Nat := 0
  position : Position := {}

section Definitions

variable (chars : List Char)

def startsAt (pos : Nat) : List Char → Bool
  | [] => true
  | c :: cs => chars[pos]? == some c && startsAt (pos + 1) cs

def bump? (head : Head) : Run (Option Head) :=
  match chars[head.index]? with
  | none => pure none
  | some c =>
    if c = '\n' then do
      let line ← add32 head.position.line 1
      pure (some ⟨head.index + 1, ⟨line, 0⟩⟩)
    else do
      let column ← add32 head.position.column (Position.units16 c)
      pure (some ⟨head.index + 1, ⟨head.position.line, column⟩⟩)

def bump : Nat → Head → Run Head
  | 0, head => pure head
  | n + 1, head => do
    let next ← bump? chars head
    bump n (next.getD head)

def bumpWhile (p : Char → Bool) (head : Head) : Run Head :=
  if chars[head.index]?.any p then do
    let next ← bump chars 1 head
    by apply bumpWhile; exacts [p, next]
  else
    pure head
partial_fixpoint

def closeComment (head : Head) : Run (Option Head) :=
  if startsAt chars head.index ['*', '/'] then do
    let next ← bump chars 2 head
    pure (some next)
  else do
    match ← bump? chars head with
    | none => pure none
    | some next => by apply closeComment; exact next
partial_fixpoint

def closeTextBlock (head : Head) : Run (Option Head) :=
  if startsAt chars head.index ['\\'] then do
    let next ← bump chars 2 head
    by apply closeTextBlock; exact next
  else if startsAt chars head.index ['"', '"', '"'] then do
    let next ← bump chars 3 head
    pure (some next)
  else do
    match ← bump? chars head with
    | none => pure none
    | some next => by apply closeTextBlock; exact next
partial_fixpoint

/--
Go over the rest of a number. The character before the first one of a text is none.
-/
def number (head : Head) : Run Head :=
  match chars[head.index]? with
  | none => pure head
  | some c =>
    let exponentSign := (c == '+' || c == '-')
      && (head.index != 0 && chars[head.index - 1]?.any Lexer.isExponentMark)
    let fraction := c == '.' && chars[head.index + 1]?.any Char.isDigit
    if c.isAlphanum || c == '_' || fraction || exponentSign then do
      let next ← bump chars 1 head
      by apply number; exact next
    else
      pure head
partial_fixpoint

def quoted (quote : Char) (head : Head) : Run Head :=
  match chars[head.index]? with
  | none => pure head
  | some c =>
    if c = '\\' then do
      let next ← bump chars 2 head
      by apply quoted; exacts [quote, next]
    else if c = '\n' then
      pure head
    else if c = quote then
      bump chars 1 head
    else do
      let next ← bump chars 1 head
      by apply quoted; exacts [quote, next]
partial_fixpoint

/--
Go over the first piece of the text from `head` on, which starts with `c`: its kind, or `none` for a
gap, and the place behind it.
-/
def piece (c : Char) (head : Head) : Run (Except Unclosed (Option Token.Kind × Head)) :=
  if isBlank c then do
    let next ← bump chars 1 head
    pure (.ok (none, next))
  else if startsAt chars head.index ['/', '/'] then do
    let next ← bumpWhile chars (· != '\n') head
    pure (.ok (none, next))
  else if startsAt chars head.index ['/', '*'] then do
    let isDoc := startsAt chars head.index ['/', '*', '*']
      && !startsAt chars head.index ['/', '*', '*', '/']
    let next ← bump chars 2 head
    match ← closeComment chars next with
    | none => pure (.error .comment)
    | some next => pure (.ok (if isDoc then some .doc else none, next))
  else if Lexer.isIdentStart c then do
    let next ← bumpWhile chars Lexer.isIdentPart head
    pure (.ok (some .ident, next))
  else if c.isDigit || (c == '.' && chars[head.index + 1]?.any Char.isDigit) then do
    let next ← number chars head
    pure (.ok (some .literal, next))
  else if startsAt chars head.index ['"', '"', '"'] then do
    let next ← bump chars 3 head
    match ← closeTextBlock chars next with
    | none => pure (.error .textBlock)
    | some next => pure (.ok (some .literal, next))
  else if c == '"' || c == '\'' then do
    let next ← bump chars 1 head
    let next ← quoted chars c next
    pure (.ok (some .literal, next))
  else if startsAt chars head.index ['.', '.', '.'] then do
    let next ← bump chars 3 head
    pure (.ok (some .punct, next))
  else if startsAt chars head.index [':', ':'] || startsAt chars head.index ['-', '>'] then do
    let next ← bump chars 2 head
    pure (.ok (some .punct, next))
  else do
    let next ← bump chars 1 head
    pure (.ok (some .punct, next))

def tokensFrom (head : Head) (tokens : List Token) : Run (Except LexError (List Token)) :=
  match chars[head.index]? with
  | none => pure (.ok tokens)
  | some c => do
    match ← piece chars c head with
    | .error unclosed => pure (.error ⟨unclosed, head.position⟩)
    | .ok (none, next) => by apply tokensFrom; exacts [next, tokens]
    | .ok (some kind, next) => do
      let text ← slice chars head.index next.index
      by
        apply tokensFrom
        exacts [next, tokens ++ [⟨kind, String.ofList text, ⟨head.position, next.position⟩⟩]]
partial_fixpoint

end Definitions

def tokenize (text : String) : Run (Except LexError (List Token)) :=
  tokensFrom text.toList {} []

/-! The run goes over the characters that the lexer takes. -/

def units16 (cs : List Char) : Nat :=
  (cs.map Position.units16).sum

namespace Head

/--
From this place on `rest` is left, and every place in it can be told with thirty-two bits.
-/
structure At (chars : List Char) (head : Head) (rest : List Char) : Prop where
  drop : chars.drop head.index = rest
  line : head.position.line + units16 rest < UInt32.size
  column : head.position.column + units16 rest < UInt32.size

def beyond (head : Head) (taken : List Char) : Head where
  index := head.index + taken.length
  position := head.position.advanceAll taken

theorem beyond_append (head : Head) (xs ys : List Char)
    : head.beyond (xs ++ ys) = (head.beyond xs).beyond ys := by
  simp only [beyond, List.length_append, Position.advanceAll_append, Nat.add_assoc]

theorem beyond_cons (head : Head) (c : Char) (cs : List Char)
    : head.beyond (c :: cs) = (head.beyond [c]).beyond cs :=
  beyond_append head [c] cs

theorem units16_cons (c : Char) (cs : List Char)
    : units16 (c :: cs) = Position.units16 c + units16 cs := by
  simp only [units16, List.map_cons, List.sum_cons]

theorem units16_pos (c : Char) : 0 < Position.units16 c := by
  unfold Position.units16
  split <;> omega

theorem At.beyond_singleton {chars rest : List Char} {head : Head} {c : Char}
    (h : head.At chars (c :: rest)) : (head.beyond [c]).At chars rest := by
  have hpos := units16_pos c
  have hline := h.line
  have hcolumn := h.column
  rw [units16_cons] at hline hcolumn
  refine ⟨drop_succ h.drop, ?_, ?_⟩
  all_goals
    simp only [beyond, Position.advanceAll, List.foldl_cons, List.foldl_nil, Position.advance]
    split
    all_goals
      dsimp only
      omega

theorem At.beyond {chars rest : List Char} {head : Head} {taken : List Char}
    (h : head.At chars (taken ++ rest)) : (head.beyond taken).At chars rest := by
  induction taken generalizing head with
  | nil => exact h
  | cons c cs ih =>
    rw [beyond_cons]
    exact ih h.beyond_singleton

end Head

variable {chars : List Char}

theorem startsAt_eq {pos : Nat} {rest : List Char} (h : chars.drop pos = rest) (cs : List Char)
    : startsAt chars pos cs = cs.isPrefixOf rest := by
  induction cs generalizing pos rest with
  | nil => rw [startsAt, List.isPrefixOf_nil_left]
  | cons c cs ih =>
    cases rest with
    | nil =>
      rw [startsAt, getElem?_of_drop_nil h]
      rfl
    | cons d rest =>
      rw [startsAt, getElem?_of_drop_cons h, ih (drop_succ h), List.isPrefixOf_cons_cons]
      congr 1
      rw [Bool.eq_iff_iff, beq_iff_eq, beq_iff_eq, Option.some.injEq]
      exact eq_comm

theorem bump?_nil {head : Head} (h : head.At chars []) : bump? chars head = pure none := by
  rw [bump?, getElem?_of_drop_nil h.drop]

theorem bump?_cons {head : Head} {c : Char} {rest : List Char} (h : head.At chars (c :: rest))
    : bump? chars head = pure (some (head.beyond [c])) := by
  have hpos := Head.units16_pos c
  have hline := h.line
  have hcolumn := h.column
  rw [Head.units16_cons] at hline hcolumn
  rw [bump?, getElem?_of_drop_cons h.drop]
  dsimp only
  simp only [Head.beyond, Position.advanceAll, List.foldl_cons, List.foldl_nil, Position.advance]
  split
  · rw [add32_eq (by omega), pure_bind]
    rfl
  · rw [add32_eq (by omega), pure_bind]
    rfl

theorem bump_eq (taken : List Char) {n : Nat} {head : Head} {rest : List Char}
    (hn : taken.length = n) (h : head.At chars (taken ++ rest))
    : bump chars n head = pure (head.beyond taken) := by
  induction taken generalizing n head with
  | nil =>
    subst hn
    rfl
  | cons c cs ih =>
    subst hn
    rw [List.length_cons, bump, bump?_cons h, pure_bind, Option.getD_some,
      ih rfl h.beyond_singleton, ← Head.beyond_cons]

theorem bump_end {head : Head} (h : head.At chars []) (n : Nat)
    : bump chars n head = pure head := by
  induction n with
  | zero => rfl
  | succ n ih => rw [bump, bump?_nil h, pure_bind, Option.getD_none, ih]

theorem bumpWhile_eq {p : Char → Bool} {head : Head} {rest : List Char} (h : head.At chars rest)
    : bumpWhile chars p head = pure (head.beyond (rest.takeWhile p)) := by
  induction rest generalizing head with
  | nil =>
    rw [bumpWhile, getElem?_of_drop_nil h.drop]
    rfl
  | cons c cs ih =>
    rw [bumpWhile, getElem?_of_drop_cons h.drop, List.takeWhile_cons, Option.any_some]
    split
    · rw [bump_eq (n := 1) [c] rfl h, pure_bind, ih h.beyond_singleton, ← Head.beyond_cons]
    · rfl

theorem closeComment_eq {head : Head} {rest : List Char} (h : head.At chars rest)
    : closeComment chars head
        =
      pure ((Lexer.splitComment? rest).map fun split => head.beyond split.1) := by
  fun_induction Lexer.splitComment? rest generalizing head with
  | case1 =>
    rw [closeComment, startsAt_eq h.drop, bump?_nil h]
    rfl
  | case2 rest =>
    rw [closeComment, startsAt_eq h.drop, bump_eq (n := 2) ['*', '/'] rfl h]
    rfl
  | case3 c cs hclose ih =>
    have hstarts : ['*', '/'].isPrefixOf (c :: cs) = false := by
      rw [Bool.eq_false_iff, ne_eq, List.isPrefixOf_iff_prefix]
      rintro ⟨rest, hrest⟩
      rw [List.cons_append, List.cons.injEq] at hrest
      exact hclose rest hrest.1.symm hrest.2.symm
    rw [closeComment, startsAt_eq h.drop, hstarts, bump?_cons h, pure_bind]
    dsimp only
    rw [ih h.beyond_singleton, Option.map_map]
    simp only [Function.comp_def, ← Head.beyond_cons]
    rfl

theorem ne_backslash {c : Char} {cs : List Char} (hlast : c = '\\' → cs = [] → False)
    (hescape : ∀ d rest, c = '\\' → cs = d :: rest → False) : c ≠ '\\' := by
  intro hc
  cases cs with
  | nil => exact hlast hc rfl
  | cons d rest => exact hescape d rest hc rfl

theorem closeTextBlock_eq {head : Head} {rest : List Char} (h : head.At chars rest)
    : closeTextBlock chars head
        =
      pure ((Lexer.splitTextBlock? rest).map fun split => head.beyond split.1) := by
  fun_induction Lexer.splitTextBlock? rest generalizing head with
  | case1 =>
    rw [closeTextBlock, startsAt_eq h.drop, startsAt_eq h.drop, bump?_nil h]
    rfl
  | case2 =>
    -- The backslash takes a character with it that is not there.
    have hend := h.beyond_singleton
    have hbump : bump chars 2 head = pure (head.beyond ['\\']) := by
      rw [bump, bump?_cons h, pure_bind, Option.getD_some, bump_end hend]
    have hnone : closeTextBlock chars (head.beyond ['\\']) = pure none := by
      rw [closeTextBlock, startsAt_eq hend.drop, startsAt_eq hend.drop, bump?_nil hend]
      rfl
    rw [closeTextBlock, startsAt_eq h.drop, hbump, pure_bind, hnone]
    rfl
  | case3 c cs ih =>
    have hnext : (head.beyond ['\\', c]).At chars cs := Head.At.beyond h
    rw [closeTextBlock, startsAt_eq h.drop, bump_eq (n := 2) ['\\', c] rfl h, pure_bind, ih hnext,
      Option.map_map]
    simp only [Function.comp_def, ← Head.beyond_append]
    rfl
  | case4 rest =>
    rw [closeTextBlock, startsAt_eq h.drop, startsAt_eq h.drop,
      bump_eq (n := 3) ['"', '"', '"'] rfl h]
    rfl
  | case5 c cs hlast hescape hquotes ih =>
    have hslash : ['\\'].isPrefixOf (c :: cs) = false := by
      rw [List.isPrefixOf_cons_cons, beq_eq_false_iff_ne.2 (ne_backslash hlast hescape).symm]
      rfl
    have hclose : ['"', '"', '"'].isPrefixOf (c :: cs) = false := by
      rw [Bool.eq_false_iff, ne_eq, List.isPrefixOf_iff_prefix]
      rintro ⟨rest, hrest⟩
      rw [List.cons_append, List.cons.injEq] at hrest
      exact hquotes rest hrest.1.symm hrest.2.symm
    rw [closeTextBlock, startsAt_eq h.drop, startsAt_eq h.drop, hslash, hclose, bump?_cons h,
      pure_bind]
    dsimp only
    rw [ih h.beyond_singleton, Option.map_map]
    simp only [Function.comp_def, ← Head.beyond_cons]
    rfl

theorem number_eq {head : Head} {last : Char} {rest : List Char} (h : head.At chars rest)
    (hindex : head.index ≠ 0) (hlast : chars[head.index - 1]? = some last)
    : number chars head = pure (head.beyond (Lexer.splitNumber last rest).1) := by
  induction rest generalizing head last with
  | nil =>
    rw [number, getElem?_of_drop_nil h.drop]
    rfl
  | cons c cs ih =>
    have hdigit : chars[head.index + 1]?.any Char.isDigit = Lexer.startsWithDigit cs := by
      rw [getElem?_of_drop h.drop]
      cases cs with
      | nil => rfl
      | cons d cs => rfl
    have hnext : chars[(head.beyond [c]).index - 1]? = some c := getElem?_of_drop_cons h.drop
    rw [number, getElem?_of_drop_cons h.drop, Lexer.splitNumber]
    dsimp only
    rw [hdigit, hlast, Option.any_some, bne_iff_ne.2 hindex, Bool.true_and]
    split
    · rw [bump_eq (n := 1) [c] rfl h, pure_bind, ih h.beyond_singleton (Nat.succ_ne_zero _) hnext,
        ← Head.beyond_cons]
    · rfl

theorem quoted_eq {quote : Char} {head : Head} {rest : List Char} (h : head.At chars rest)
    : quoted chars quote head = pure (head.beyond (Lexer.splitQuoted quote rest).1) := by
  fun_induction Lexer.splitQuoted quote rest generalizing head with
  | case1 =>
    rw [quoted, getElem?_of_drop_nil h.drop]
    rfl
  | case2 =>
    -- The text ends behind the backslash, so the step over two characters goes one.
    have hend := h.beyond_singleton
    have hbump : bump chars 2 head = pure (head.beyond ['\\']) := by
      rw [bump, bump?_cons h, pure_bind, Option.getD_some, bump_end hend]
    have hstop : quoted chars quote (head.beyond ['\\']) = pure (head.beyond ['\\']) := by
      rw [quoted, getElem?_of_drop_nil hend.drop]
    rw [quoted, getElem?_of_drop_cons h.drop]
    dsimp only
    rw [if_pos rfl, hbump, pure_bind, hstop]
  | case3 c cs taken after hsplit ih =>
    have hnext : (head.beyond ['\\', c]).At chars cs := Head.At.beyond h
    rw [quoted, getElem?_of_drop_cons h.drop]
    dsimp only
    rw [if_pos rfl, bump_eq (n := 2) ['\\', c] rfl h, pure_bind, ih hnext, ← Head.beyond_append,
      hsplit]
    rfl
  | case4 rest =>
    rw [quoted, getElem?_of_drop_cons h.drop]
    rfl
  | case5 cs hlast hescape hline =>
    rw [quoted, getElem?_of_drop_cons h.drop]
    dsimp only
    rw [if_neg (ne_backslash hlast hescape), if_neg hline, if_pos rfl,
      bump_eq (n := 1) [quote] rfl h]
  | case6 c cs hlast hescape hline hquote taken after hsplit ih =>
    rw [quoted, getElem?_of_drop_cons h.drop]
    dsimp only
    rw [if_neg (ne_backslash hlast hescape), if_neg hline, if_neg hquote,
      bump_eq (n := 1) [c] rfl h, pure_bind, ih h.beyond_singleton, ← Head.beyond_append, hsplit]
    rfl

theorem isPrefixOf_taken {mark rest taken after : List Char} (hmark : mark.length ≤ 2)
    (h : Lexer.splitComment? rest = some (taken, after))
    : mark.isPrefixOf rest = mark.isPrefixOf taken := by
  obtain ⟨body, rfl, -⟩ := Lexer.splitComment?_some h
  have hrest := Lexer.splitComment?_append h
  rw [Bool.eq_iff_iff, List.isPrefixOf_iff_prefix, List.isPrefixOf_iff_prefix, ← hrest]
  constructor
  · intro hprefix
    apply List.prefix_of_prefix_length_le hprefix (List.prefix_append _ _)
    rw [List.length_append, List.length_cons, List.length_singleton]
    omega
  · intro hprefix
    exact hprefix.trans (List.prefix_append _ _)

theorem piece_comment {head : Head} {rest : List Char} (h : head.At chars ('/' :: '*' :: rest))
    : piece chars '/' head
        =
      pure ((Lexer.cut '/' ('*' :: rest)).map fun p => (p.kind, head.beyond ('/' :: p.tail))) := by
  have hrest : (head.beyond ['/', '*']).At chars rest := Head.At.beyond h
  have hclose := closeComment_eq hrest
  rw [piece, startsAt_eq h.drop, startsAt_eq h.drop, startsAt_eq h.drop,
    startsAt_eq h.drop, bump_eq (n := 2) ['/', '*'] rfl h, pure_bind, hclose, Lexer.cut]
  cases hsplit : Lexer.splitComment? rest with
  | none => rfl
  | some split =>
    obtain ⟨taken, after⟩ := split
    -- Whether the comment documents something is seen in its first characters.
    have hstar : ['*'].isPrefixOf rest = ['*'].isPrefixOf taken :=
      isPrefixOf_taken (by decide) hsplit
    have hempty : ['*', '/'].isPrefixOf rest = ['*', '/'].isPrefixOf taken :=
      isPrefixOf_taken (by decide) hsplit
    rw [Option.map_some, pure_bind]
    dsimp only
    rw [← Head.beyond_append, ← hstar, ← hempty]
    rfl

theorem piece_textBlock {head : Head} {rest : List Char}
    (h : head.At chars ('"' :: '"' :: '"' :: rest))
    : piece chars '"' head
        =
      pure ((Lexer.cut '"' ('"' :: '"' :: rest)).map
        fun p => (p.kind, head.beyond ('"' :: p.tail))) := by
  have hrest : (head.beyond ['"', '"', '"']).At chars rest := Head.At.beyond h
  have hclose := closeTextBlock_eq hrest
  have hident : Lexer.isIdentStart '"' = false := by decide
  have hblank : isBlank '"' = false := by decide
  have hdigit : ('"'.isDigit || '"' == '.' && chars[head.index + 1]?.any Char.isDigit) = false :=
    rfl
  unfold piece
  simp only [startsAt_eq h.drop]
  rw [hident, hblank, hdigit, bump_eq (n := 3) ['"', '"', '"'] rfl h, pure_bind, hclose, Lexer.cut]
  cases hsplit : Lexer.splitTextBlock? rest with
  | none => rfl
  | some split =>
    rw [Option.map_some, pure_bind]
    dsimp only
    rw [← Head.beyond_append]
    rfl

theorem isPrefixOf_eq_false {xs ys : List Char} (h : ∀ rest, ys ≠ xs ++ rest)
    : xs.isPrefixOf ys = false := by
  rw [Bool.eq_false_iff, ne_eq, List.isPrefixOf_iff_prefix]
  rintro ⟨rest, hrest⟩
  exact h rest hrest.symm

theorem piece_other {head : Head} {c : Char} {cs : List Char} (h : head.At chars (c :: cs))
    (hblank : isBlank c = false)
    (hmarks : ∀ mark, mark ∈ [['/', '/'], ['/', '*'], ['"', '"', '"'], ['.', '.', '.'], [':', ':'],
      ['-', '>']] → mark.isPrefixOf (c :: cs) = false)
    : piece chars c head
        =
      pure (.ok (if Lexer.isIdentStart c then
          (some .ident, head.beyond (c :: cs.takeWhile Lexer.isIdentPart))
        else if c.isDigit || (c == '.' && Lexer.startsWithDigit cs) then
          (some .literal, head.beyond (c :: (Lexer.splitNumber c cs).1))
        else if c == '"' || c == '\'' then
          (some .literal, head.beyond (c :: (Lexer.splitQuoted c cs).1))
        else
          (some .punct, head.beyond [c]))) := by
  have hdigit : chars[head.index + 1]?.any Char.isDigit = Lexer.startsWithDigit cs := by
    rw [getElem?_of_drop h.drop]
    cases cs with
    | nil => rfl
    | cons d cs => rfl
  unfold piece
  simp only [startsAt_eq h.drop]
  rw [hblank, hdigit, hmarks ['/', '/'] (by simp), hmarks ['/', '*'] (by simp),
    hmarks ['"', '"', '"'] (by simp), hmarks ['.', '.', '.'] (by simp), hmarks [':', ':'] (by simp),
    hmarks ['-', '>'] (by simp)]
  simp only [Bool.false_eq_true, ↓reduceIte, Bool.or_self]
  split
  · next hident =>
    have hpart : Lexer.isIdentPart c = true := by
      grind [Lexer.isIdentStart, Lexer.isIdentPart]
    rw [bumpWhile_eq h, List.takeWhile_cons, if_pos hpart, pure_bind]
  · split
    · next hnumber =>
      -- The run looks at the first character once more, which belongs to the number.
      have hfirst : (c.isAlphanum || c == '_' || (c == '.' && Lexer.startsWithDigit cs)) := by
        grind [Char.isAlphanum]
      have hnext : chars[(head.beyond [c]).index - 1]? = some c := getElem?_of_drop_cons h.drop
      rw [number, getElem?_of_drop_cons h.drop]
      dsimp only
      rw [hdigit, hfirst, Bool.true_or, if_pos rfl, bump_eq (n := 1) [c] rfl h, pure_bind,
        number_eq h.beyond_singleton (Nat.succ_ne_zero _) hnext, ← Head.beyond_cons, pure_bind]
    · split
      · rw [bump_eq (n := 1) [c] rfl h, pure_bind, quoted_eq h.beyond_singleton, ← Head.beyond_cons,
          pure_bind]
      · rw [bump_eq (n := 1) [c] rfl h, pure_bind]

theorem piece_eq {head : Head} {c : Char} {cs : List Char} (h : head.At chars (c :: cs))
    (hblank : isBlank c = false)
    : piece chars c head
        =
      pure ((Lexer.cut c cs).map fun p => (p.kind, head.beyond (c :: p.tail))) := by
  unfold Lexer.cut
  split
  · rw [piece, hblank, startsAt_eq h.drop, bumpWhile_eq h]
    rfl
  · exact piece_comment h
  · exact piece_textBlock h
  · have hident : Lexer.isIdentStart '.' = false := by decide
    have hsecond : chars[head.index + 1]? = some '.' := getElem?_of_drop h.drop 1
    unfold piece
    simp only [startsAt_eq h.drop]
    rw [hblank, hident, hsecond, bump_eq (n := 3) ['.', '.', '.'] rfl h]
    rfl
  · have hident : Lexer.isIdentStart ':' = false := by decide
    unfold piece
    simp only [startsAt_eq h.drop]
    rw [hblank, hident, bump_eq (n := 2) [':', ':'] rfl h]
    rfl
  · have hident : Lexer.isIdentStart '-' = false := by decide
    unfold piece
    simp only [startsAt_eq h.drop]
    rw [hblank, hident, bump_eq (n := 2) ['-', '>'] rfl h]
    rfl
  · next hline hblock hquotes hdots hcolons harrow =>
    -- No mark of several characters begins here, so both go on to the single ones.
    have hmarks : ∀ mark, mark ∈ [['/', '/'], ['/', '*'], ['"', '"', '"'], ['.', '.', '.'],
        [':', ':'], ['-', '>']] → mark.isPrefixOf (c :: cs) = false := by
      intro mark hmark
      apply isPrefixOf_eq_false
      intro rest hrest
      simp only [List.mem_cons, List.not_mem_nil, or_false] at hmark
      rcases hmark with rfl | rfl | rfl | rfl | rfl | rfl
      · rw [List.cons_append, List.cons.injEq] at hrest
        exact hline rest hrest.1 hrest.2
      · rw [List.cons_append, List.cons.injEq] at hrest
        exact hblock rest hrest.1 hrest.2
      · rw [List.cons_append, List.cons.injEq] at hrest
        exact hquotes rest hrest.1 hrest.2
      · rw [List.cons_append, List.cons.injEq] at hrest
        exact hdots rest hrest.1 hrest.2
      · rw [List.cons_append, List.cons.injEq] at hrest
        exact hcolons rest hrest.1 hrest.2
      · rw [List.cons_append, List.cons.injEq] at hrest
        exact harrow rest hrest.1 hrest.2
    rw [piece_other h hblank hmarks, hblank, if_neg Bool.false_ne_true]
    split
    · rfl
    · split
      · rfl
      · split
        · rfl
        · rfl

theorem cut_blank {c : Char} (hc : isBlank c = true) (cs : List Char)
    : Lexer.cut c cs = .ok (.run none isBlank cs) := by
  unfold Lexer.cut
  split
  · cases hc
  · cases hc
  · cases hc
  · cases hc
  · cases hc
  · cases hc
  · rw [if_pos hc]

theorem tokensFrom_blank {c : Char} (hc : isBlank c = true) (start : Position) (cs : List Char)
    : Lexer.tokensFrom start (c :: cs) = Lexer.tokensFrom (start.advance c) cs := by
  rw [Lexer.tokensFrom_cut_ok (cut_blank hc cs)]
  dsimp only [Lexer.Piece.run]
  cases cs with
  | nil => rfl
  | cons d cs =>
    rw [List.takeWhile_cons, List.dropWhile_cons]
    split
    · next hd =>
      rw [Lexer.tokensFrom_cut_ok (cut_blank hd cs)]
      rfl
    · rfl

theorem tokensFrom_eq {head : Head} {rest : List Char} (h : head.At chars rest)
    (tokens : List Token)
    : tokensFrom chars head tokens
        =
      pure ((Lexer.tokensFrom head.position rest).map (tokens ++ ·)) := by
  cases rest with
  | nil =>
    rw [tokensFrom, getElem?_of_drop_nil h.drop, Lexer.tokensFrom]
    simp only [Except.map, List.append_nil]
  | cons c cs =>
    rw [tokensFrom, getElem?_of_drop_cons h.drop]
    dsimp only
    cases hblank : isBlank c with
    | true =>
      rw [piece, if_pos hblank, bump_eq (n := 1) [c] rfl h, pure_bind, pure_bind]
      dsimp only
      rw [tokensFrom_eq h.beyond_singleton, tokensFrom_blank hblank]
      rfl
    | false =>
      rw [piece_eq h hblank, pure_bind]
      cases hcut : Lexer.cut c cs with
      | error unclosed =>
        rw [Lexer.tokensFrom_cut_error hcut]
        rfl
      | ok p =>
        obtain ⟨kind, tail, after⟩ := p
        have hcs : tail ++ after = cs := Lexer.cut_append hcut
        have hnext : (head.beyond (c :: tail)).At chars after := by
          apply Head.At.beyond
          rw [List.cons_append, hcs]
          exact h
        have hle : after.length ≤ cs.length := Lexer.cut_rest_length_le hcut
        rw [Lexer.tokensFrom_cut_ok hcut]
        -- Blanks and comments only move the head; any other piece adds its token.
        cases kind with
        | none => exact tokensFrom_eq hnext tokens
        | some kind =>
          have hslice
              : slice chars head.index (head.beyond (c :: tail)).index = pure (c :: tail) := by
            apply slice_eq (Nat.le_of_lt (lt_length h.drop))
            rw [h.drop, ← hcs]
            rfl
          dsimp only [Except.map]
          rw [hslice, pure_bind, tokensFrom_eq hnext]
          change _ = pure (Except.map _ (Except.map _
            (Lexer.tokensFrom (head.beyond (c :: tail)).position after)))
          cases Lexer.tokensFrom (head.beyond (c :: tail)).position after with
          | error e => rfl
          | ok found =>
            simp only [Except.map, List.append_assoc, List.singleton_append]
            rfl
termination_by rest.length

theorem tokenize_run {text : String} (h : units16 text.toList < UInt32.size)
    : tokenize text = pure (Java.tokenize text) := by
  have hstart : Head.At text.toList {} text.toList := by
    refine ⟨rfl, ?_, ?_⟩
    · rw [Nat.zero_add]
      exact h
    · rw [Nat.zero_add]
      exact h
  rw [tokenize, tokensFrom_eq hstart, Java.tokenize]
  cases Lexer.tokensFrom {} text.toList with
  | error e => rfl
  | ok tokens => rfl

end Cursor

/--
In a text whose positions fit into thirty-two bits, the tokens and the gaps around them are the
text, and the spans of the tokens are true. Such a text has no tokens only if, where tokens and gaps
stop, a comment or a text block is opened that is never closed.
-/
theorem tokenize_tiles (text : String) (h : Cursor.units16 text.toList < 2 ^ 32)
    : Cursor.tokenize text = pure (tokenize text)
        ∧ match tokenize text with
          | .ok tokens => Tiles [] tokens text.toList []
          | .error e => ∃ tokens covered rest, covered ++ rest = text.toList
              ∧ Tiles [] tokens covered rest
              ∧ e.start = .behind covered
              ∧ LeavesOpen e.unclosed rest := by
  refine ⟨Cursor.tokenize_run h, ?_⟩
  have haccounts := Lexer.accounts_tokensFrom [] text.toList
  change Accounts [] text.toList (tokenize text) at haccounts
  cases htokens : tokenize text with
  | ok tokens =>
    rw [htokens] at haccounts
    exact haccounts
  | error e =>
    rw [htokens] at haccounts
    exact haccounts

theorem tokenize_tiles_two_units
    : ∃ tokens, Cursor.tokenize "a = \"𝔘\\\n\"; // b" = pure (.ok tokens)
        ∧ tokens.map (fun t => t.span.stop) = [⟨0, 1⟩, ⟨0, 3⟩, ⟨1, 1⟩, ⟨1, 2⟩]
        ∧ Tiles [] tokens "a = \"𝔘\\\n\"; // b".toList [] := by
  have hcheck : (tokenize "a = \"𝔘\\\n\"; // b").toOption.any fun tokens =>
      tokens.map (fun t => t.span.stop) = [⟨0, 1⟩, ⟨0, 3⟩, ⟨1, 1⟩, ⟨1, 2⟩] := by
    decide +kernel
  obtain ⟨tokens, htokens, hstops⟩ := exists_tokenize_ok hcheck
  obtain ⟨hrun, htiles⟩ := tokenize_tiles "a = \"𝔘\\\n\"; // b" (by decide)
  rw [htokens] at hrun htiles
  exact ⟨tokens, hrun, of_decide_eq_true hstops, htiles⟩

end DeprecatedUse.Java
