import DeprecatedUse.Proofs.Java.Lexemes
import Mathlib

/-!
This module contains the cutting of a text by the lexer. The tokens and the gaps between them are
the whole text, each token knows where it starts and stops, and a text without tokens is one that
leaves a comment or a text block open.
-/

namespace DeprecatedUse

open DeprecatedUse.Text

namespace Position

/--
The position behind a text: the number of its line feeds, and the number of UTF-16 code units since
the last one.
-/
def behind (cs : List Char) : Position where
  line := cs.count '\n'
  column := ((cs.reverse.takeWhile (· != '\n')).map units16).sum

theorem behind_concat (cs : List Char) (c : Char) : behind (cs ++ [c]) = (behind cs).advance c := by
  unfold behind advance
  by_cases hc : c = '\n'
  · subst hc
    simp
  · have hne : (c != '\n') = true := bne_iff_ne.2 hc
    rw [if_neg hc, List.count_append, List.count_singleton, List.reverse_append]
    simp [hc, hne, Nat.add_comm]

theorem advanceAll_behind (before cs : List Char)
    : (behind before).advanceAll cs = behind (before ++ cs) := by
  induction cs generalizing before with
  | nil => simp [advanceAll]
  | cons c cs ih =>
    calc (behind before).advanceAll (c :: cs)
      _ = ((behind before).advance c).advanceAll cs := rfl
      _ = (behind (before ++ [c])).advanceAll cs := by rw [behind_concat]
      _ = behind (before ++ [c] ++ cs) := ih _
      _ = behind (before ++ c :: cs) := by rw [List.append_assoc, List.singleton_append]

end Position

namespace Java

/-! The forms of gaps and tokens. -/

/--
A block comment, up to the first closing mark behind its opening mark.
-/
def IsBlockComment (cs : List Char) : Prop :=
  ∃ body, cs = '/' :: '*' :: (body ++ ['*', '/']) ∧ ¬ ['*', '/'] <:+: body ++ ['*']

/--
Does a comment document something? The shortest comment has two stars, but no second one behind the
opening mark.
-/
def Documents (cs : List Char) : Prop :=
  ['/', '*', '*'] <+: cs ∧ ¬ ['/', '*', '*', '/'] <+: cs

/--
What may stand between two tokens, if `after` is the text behind it: blanks, line comments up to the
line feed or the end of the text, and block comments that document nothing.
-/
inductive Gap : List Char → List Char → Prop where
  | nil (after : List Char) : Gap [] after
  | blank {c : Char} {gap after : List Char} (hc : isBlank c = true) (h : Gap gap after) :
      Gap (c :: gap) after
  | lineComment {comment gap after : List Char} (hcomment : '\n' ∉ comment)
      (hstop : ∀ c, (gap ++ after).head? = some c → c = '\n') (h : Gap gap after) :
      Gap ('/' :: '/' :: (comment ++ gap)) after
  | blockComment {comment gap after : List Char} (hcomment : IsBlockComment comment)
      (hdoc : ¬ Documents comment) (h : Gap gap after) : Gap (comment ++ gap) after

def IsLexeme : Token.Kind → List Char → Prop
  | .ident, cs => ∃ c tail, cs = c :: tail ∧ Lexer.isIdentStart c = true
      ∧ ∀ x, x ∈ tail → Lexer.isIdentPart x = true
  | .literal, cs => ∃ c tail, cs = c :: tail
      ∧ (c.isDigit = true ∨ c = '"' ∨ c = '\'' ∨ (c = '.' ∧ Lexer.startsWithDigit tail = true))
  | .doc, cs => IsBlockComment cs ∧ Documents cs
  | .punct, cs => cs ∈ [['.', '.', '.'], [':', ':'], ['-', '>']]
      ∨ ∃ c, cs = [c] ∧ isBlank c = false ∧ Lexer.isIdentStart c = false ∧ c.isDigit = false
        ∧ c ≠ '"' ∧ c ≠ '\''

theorem IsLexeme.ne_nil {kind : Token.Kind} {cs : List Char} (h : IsLexeme kind cs) : cs ≠ [] := by
  rintro rfl
  cases kind with
  | ident =>
    obtain ⟨c, tail, hcs, -⟩ := h
    cases hcs
  | literal =>
    obtain ⟨c, tail, hcs, -⟩ := h
    cases hcs
  | doc =>
    obtain ⟨⟨body, hcs, -⟩, -⟩ := h
    cases hcs
  | punct =>
    rcases h with h | ⟨c, hcs, -⟩
    · simp at h
    · cases hcs

def isEscaped (cs : List Char) : Bool :=
  cs.foldl (fun escaped c => c == '\\' && !escaped) false

/--
The text starts with an opening mark that no closing mark follows.
-/
def LeavesOpen : Unclosed → List Char → Prop
  | .comment, cs => ∃ body, cs = '/' :: '*' :: body ∧ ¬ ['*', '/'] <:+: body
  | .textBlock, cs => ∃ body, cs = '"' :: '"' :: '"' :: body
      ∧ ∀ inside after, body = inside ++ '"' :: '"' :: '"' :: after → isEscaped inside = true

/--
The tokens and the gaps around them are a text that stands behind `before` and is followed by
`after`. The span of a token says where its characters stand.
-/
inductive Tiles : List Char → List Token → List Char → List Char → Prop where
  | gap {before gap after : List Char} (h : Gap gap after) : Tiles before [] gap after
  | token {before gap text after : List Char} {t : Token} {tokens : List Token}
      (hgap : Gap gap (t.text.toList ++ text ++ after))
      (hne : t.text ≠ "")
      (hlexeme : IsLexeme t.kind t.text.toList)
      (hstart : t.span.start = .behind (before ++ gap))
      (hstop : t.span.stop = .behind (before ++ gap ++ t.text.toList))
      (h : Tiles (before ++ gap ++ t.text.toList) tokens text after) :
      Tiles before (t :: tokens) (gap ++ t.text.toList ++ text) after

theorem Gap.append {gap gap' after : List Char} (h : Gap gap (gap' ++ after))
    (h' : Gap gap' after) : Gap (gap ++ gap') after := by
  generalize hbehind : gap' ++ after = behind at h
  induction h with
  | nil => exact h'
  | blank hc _ ih => exact .blank hc (ih hbehind)
  | @lineComment comment gap _ hcomment hstop _ ih =>
    subst hbehind
    have hgap : Gap ('/' :: '/' :: (comment ++ (gap ++ gap'))) after := by
      refine .lineComment hcomment ?_ (ih rfl)
      rw [List.append_assoc]
      exact hstop
    rw [List.cons_append, List.cons_append, List.append_assoc]
    exact hgap
  | @blockComment comment gap _ hcomment hdoc _ ih =>
    rw [List.append_assoc]
    exact .blockComment hcomment hdoc (ih hbehind)

theorem Gap.ofBlanks {cs after : List Char} (h : ∀ c, c ∈ cs → isBlank c = true)
    : Gap cs after := by
  induction cs with
  | nil => exact .nil after
  | cons c cs ih =>
    rw [List.forall_mem_cons] at h
    exact .blank h.1 (ih h.2)

theorem Gap.ofLine (cs : List Char)
    : Gap ('/' :: '/' :: cs.takeWhile (· != '\n')) (cs.dropWhile (· != '\n')) := by
  have hgap : Gap ('/' :: '/' :: (cs.takeWhile (· != '\n') ++ [])) (cs.dropWhile (· != '\n')) := by
    refine .lineComment ?_ ?_ (.nil _)
    · intro hmem
      have hline := List.all_eq_true.1 List.all_takeWhile '\n' hmem
      simp at hline
    · intro c hc
      have hline := List.head?_dropWhile_not (· != '\n') cs
      rw [List.nil_append] at hc
      rw [hc] at hline
      simpa using hline
  rwa [List.append_nil] at hgap

theorem Tiles.cons {before piece text after : List Char} {t : Token} {tokens : List Token}
    (htext : t.text.toList = piece) (hlexeme : IsLexeme t.kind piece)
    (hstart : t.span.start = .behind before) (hstop : t.span.stop = .behind (before ++ piece))
    (h : Tiles (before ++ piece) tokens text after)
    : Tiles before (t :: tokens) (piece ++ text) after := by
  subst htext
  have hne : t.text ≠ "" := by
    intro hempty
    apply hlexeme.ne_nil
    rw [hempty]
    rfl
  rw [← List.append_nil before] at hstart hstop h
  exact .token (.nil _) hne hlexeme hstart hstop h

theorem Tiles.prepend {before piece text after : List Char} {tokens : List Token}
    (hpiece : Gap piece (text ++ after)) (h : Tiles (before ++ piece) tokens text after)
    : Tiles before tokens (piece ++ text) after := by
  cases h with
  | gap hgap => exact .gap (hpiece.append hgap)
  | @token _ gap text _ t tokens hgap hne hlexeme hstart hstop htokens =>
    rw [List.append_assoc before] at hstart hstop htokens
    have hpiece' : Gap piece (gap ++ (t.text.toList ++ text ++ after)) := by
      simpa using hpiece
    have htiles : Tiles before (t :: tokens) (piece ++ gap ++ t.text.toList ++ text) after :=
      .token (hpiece'.append hgap) hne hlexeme hstart hstop htokens
    simpa using htiles

/-! What the splitters find. -/

namespace Lexer

theorem splitComment?_some {cs taken rest : List Char} (h : splitComment? cs = some (taken, rest))
    : ∃ body, taken = body ++ ['*', '/'] ∧ ¬ ['*', '/'] <:+: body ++ ['*'] := by
  fun_induction splitComment? cs generalizing taken rest with
  | case1 => cases h
  | case2 =>
    simp only [Option.some.injEq, Prod.mk.injEq] at h
    refine ⟨[], h.1.symm, ?_⟩
    intro hinfix
    have := hinfix.length_le
    simp at this
  | case3 c cs hmark ih =>
    obtain ⟨⟨taken', rest'⟩, hsplit, heq⟩ := Option.map_eq_some_iff.1 h
    simp only [Prod.mk.injEq] at heq
    obtain ⟨rfl, rfl⟩ := heq
    obtain ⟨body, rfl, hbody⟩ := ih hsplit
    refine ⟨c :: body, rfl, ?_⟩
    rw [List.cons_append, List.infix_cons_iff]
    rintro (hstart | hinfix)
    · -- A closing mark in front would have been found.
      have hcs := splitComment?_append hsplit
      cases body with
      | nil => simp at hstart
      | cons b body =>
        simp only [List.cons_append, List.cons_prefix_cons] at hstart
        obtain ⟨rfl, rfl, -⟩ := hstart
        exact hmark _ rfl hcs.symm
    · exact hbody hinfix

theorem splitComment?_none {cs : List Char} (h : splitComment? cs = none)
    : ¬ ['*', '/'] <:+: cs := by
  fun_induction splitComment? cs with
  | case1 => simp
  | case2 => cases h
  | case3 c cs hmark ih =>
    rw [List.infix_cons_iff]
    rintro (hstart | hinfix)
    · obtain ⟨after, hafter⟩ := hstart
      simp only [List.cons_append, List.nil_append, List.cons.injEq] at hafter
      exact hmark after hafter.1.symm hafter.2.symm
    · exact ih (Option.map_eq_none_iff.1 h) hinfix

theorem splitTextBlock?_none {cs : List Char} (h : splitTextBlock? cs = none)
    (inside after : List Char) (hcs : cs = inside ++ '"' :: '"' :: '"' :: after)
    : isEscaped inside = true := by
  fun_induction splitTextBlock? cs generalizing inside with
  | case1 => simp at hcs
  | case2 =>
    cases inside with
    | nil => simp at hcs
    | cons c inside => simp at hcs
  | case3 c cs ih =>
    -- The backslash takes the next character with it, so both leave the rest as it is.
    cases inside with
    | nil => simp at hcs
    | cons a inside =>
      cases inside with
      | nil =>
        simp only [List.cons_append, List.cons.injEq] at hcs
        rw [← hcs.1]
        rfl
      | cons b inside =>
        simp only [List.cons_append, List.cons.injEq] at hcs
        obtain ⟨rfl, rfl, hcs⟩ := hcs
        have hinside := ih (Option.map_eq_none_iff.1 h) inside hcs
        simpa [isEscaped] using hinside
  | case4 => cases h
  | case5 c cs hone htwo hquotes ih =>
    cases inside with
    | nil =>
      simp only [List.nil_append, List.cons.injEq] at hcs
      exact absurd hcs.2 (hquotes after hcs.1)
    | cons a inside =>
      simp only [List.cons_append, List.cons.injEq] at hcs
      obtain ⟨rfl, hcs⟩ := hcs
      have hinside := ih (Option.map_eq_none_iff.1 h) inside hcs
      have ha : (c == '\\') = false := by
        rw [beq_eq_false_iff_ne]
        rintro rfl
        cases cs with
        | nil => exact hone rfl rfl
        | cons b cs => exact htwo b cs rfl rfl
      simpa [isEscaped, ha] using hinside

theorem isBlockComment_of_splitComment? {cs taken rest : List Char}
    (h : splitComment? cs = some (taken, rest)) : IsBlockComment ('/' :: '*' :: taken) := by
  obtain ⟨body, rfl, hbody⟩ := splitComment?_some h
  exact ⟨body, rfl, hbody⟩

theorem documents_iff {taken : List Char}
    : (['*'].isPrefixOf taken && !(['*', '/'].isPrefixOf taken)) = true
        ↔
      Documents ('/' :: '*' :: taken) := by
  rw [Bool.and_eq_true, Bool.not_eq_true', ← Bool.not_eq_true, List.isPrefixOf_iff_prefix,
    List.isPrefixOf_iff_prefix]
  unfold Documents
  rw [List.cons_prefix_cons, List.cons_prefix_cons, List.cons_prefix_cons, List.cons_prefix_cons]
  simp

theorem startsWithDigit_splitNumber {last : Char} {cs : List Char}
    (h : startsWithDigit cs = true) : startsWithDigit (splitNumber last cs).1 = true := by
  cases cs with
  | nil => cases h
  | cons c cs =>
    rw [startsWithDigit] at h
    simp [splitNumber, Char.isAlphanum, h, startsWithDigit]

theorem tokensFrom_cut_error {c : Char} {cs : List Char} {unclosed : Unclosed}
    (h : cut c cs = .error unclosed) (start : Position)
    : tokensFrom start (c :: cs) = .error ⟨unclosed, start⟩ := by
  rw [tokensFrom]
  split
  · next hcut =>
    rw [h, Except.error.injEq] at hcut
    rw [hcut]
  · next hcut =>
    rw [h] at hcut
    cases hcut

theorem tokensFrom_cut_ok {c : Char} {cs : List Char} {piece : Piece} (h : cut c cs = .ok piece)
    (start : Position)
    : tokensFrom start (c :: cs)
        =
      let stop := start.advanceAll (c :: piece.tail)
      match piece.kind with
      | none => tokensFrom stop piece.rest
      | some kind =>
        (tokensFrom stop piece.rest).map
          (⟨kind, String.ofList (c :: piece.tail), ⟨start, stop⟩⟩ :: ·) := by
  rw [tokensFrom]
  split
  · next hcut =>
    rw [h] at hcut
    cases hcut
  · next piece' hcut =>
    rw [h, Except.ok.injEq] at hcut
    subst hcut
    dsimp only
    cases tokensFrom (start.advanceAll (c :: piece.tail)) piece.rest with
    | error e => cases piece.kind <;> rfl
    | ok tokens => cases piece.kind <;> rfl

/--
A piece behind its first character is a gap or a token of its kind.
-/
def Piece.Fits (c : Char) (piece : Piece) : Prop :=
  match piece.kind with
  | none => Gap (c :: piece.tail) piece.rest
  | some kind => IsLexeme kind (c :: piece.tail)

theorem cutComment_fits {cs : List Char} {piece : Piece} (h : cutComment cs = .ok piece)
    : piece.Fits '/' := by
  rw [cutComment] at h
  split at h
  · cases h
  · next taken after hsplit =>
    have hcomment := isBlockComment_of_splitComment? hsplit
    rw [Except.ok.injEq] at h
    subst h
    unfold Piece.Fits
    dsimp only
    by_cases hdoc : Documents ('/' :: '*' :: taken)
    · rw [if_pos (documents_iff.2 hdoc)]
      exact ⟨hcomment, hdoc⟩
    · rw [if_neg (mt documents_iff.1 hdoc)]
      have hgap := Gap.blockComment hcomment hdoc (.nil after)
      rwa [List.append_nil] at hgap

theorem cutTextBlock_fits {cs : List Char} {piece : Piece} (h : cutTextBlock cs = .ok piece)
    : piece.Fits '"' := by
  rw [cutTextBlock] at h
  split at h
  · cases h
  · rw [Except.ok.injEq] at h
    subst h
    exact ⟨_, _, rfl, .inr (.inl rfl)⟩

theorem cutOther_fits (c : Char) (cs : List Char) : (cutOther c cs).Fits c := by
  unfold cutOther
  split
  · next hblank => exact .blank hblank (Gap.ofBlanks (List.all_eq_true.1 List.all_takeWhile))
  · next hblank =>
    split
    · next hstart => exact ⟨c, _, rfl, hstart, List.all_eq_true.1 List.all_takeWhile⟩
    · next hstart =>
      split
      · next hdigit =>
        rw [Bool.or_eq_true, Bool.and_eq_true, beq_iff_eq] at hdigit
        refine ⟨c, _, rfl, ?_⟩
        rcases hdigit with hdigit | ⟨hpoint, hdigit⟩
        · exact .inl hdigit
        · exact .inr (.inr (.inr ⟨hpoint, startsWithDigit_splitNumber hdigit⟩))
      · next hdigit =>
        rw [Bool.or_eq_true, not_or, Bool.not_eq_true] at hdigit
        split
        · next hquote =>
          rw [Bool.or_eq_true, beq_iff_eq, beq_iff_eq] at hquote
          refine ⟨c, _, rfl, ?_⟩
          rcases hquote with hquote | hquote
          · exact .inr (.inl hquote)
          · exact .inr (.inr (.inl hquote))
        · next hquote =>
          rw [Bool.or_eq_true, beq_iff_eq, beq_iff_eq, not_or] at hquote
          rw [Bool.not_eq_true] at hblank hstart
          exact .inr ⟨c, rfl, hblank, hstart, hdigit.1, hquote.1, hquote.2⟩

theorem cut_ok {c : Char} {cs : List Char} {piece : Piece} (h : cut c cs = .ok piece)
    : piece.Fits c := by
  rw [cut_eq] at h
  split at h
  · next hline =>
    obtain ⟨rfl, rest, rfl⟩ := hline
    cases h
    exact Gap.ofLine rest
  · split at h
    · next hblock =>
      rw [hblock.1]
      exact cutComment_fits h
    · split at h
      · next htext =>
        rw [htext.1]
        exact cutTextBlock_fits h
      · split at h
        · next hdots =>
          obtain ⟨rfl, -⟩ := hdots
          cases h
          exact .inl (by simp)
        · split at h
          · next hcolons =>
            obtain ⟨rfl, -⟩ := hcolons
            cases h
            exact .inl (by simp)
          · split at h
            · next harrow =>
              obtain ⟨rfl, -⟩ := harrow
              cases h
              exact .inl (by simp)
            · cases h
              exact cutOther_fits c cs

theorem cutComment_error {cs : List Char} {unclosed : Unclosed}
    (h : cutComment cs = .error unclosed) : LeavesOpen unclosed ('/' :: '*' :: cs) := by
  rw [cutComment] at h
  split at h
  · next hsplit =>
    cases h
    exact ⟨cs, rfl, splitComment?_none hsplit⟩
  · cases h

theorem cutTextBlock_error {cs : List Char} {unclosed : Unclosed}
    (h : cutTextBlock cs = .error unclosed) : LeavesOpen unclosed ('"' :: '"' :: '"' :: cs) := by
  rw [cutTextBlock] at h
  split at h
  · next hsplit =>
    cases h
    exact ⟨cs, rfl, splitTextBlock?_none hsplit⟩
  · cases h

theorem cut_error {c : Char} {cs : List Char} {unclosed : Unclosed}
    (h : cut c cs = .error unclosed) : LeavesOpen unclosed (c :: cs) := by
  rw [cut_eq] at h
  split at h
  · cases h
  · split at h
    · next hblock =>
      obtain ⟨rfl, rest, rfl⟩ := hblock
      exact cutComment_error h
    · split at h
      · next htext =>
        obtain ⟨rfl, rest, rfl⟩ := htext
        exact cutTextBlock_error h
      · split at h
        · cases h
        · split at h
          · cases h
          · split at h
            · cases h
            · cases h

end Lexer

/--
What the lexer may answer about a text that stands behind `before`: tokens that are all of it but
gaps, or an error where such tokens stop and something is left open.
-/
def Accounts (before cs : List Char) : Except LexError (List Token) → Prop
  | .ok tokens => Tiles before tokens cs []
  | .error e => ∃ tokens covered rest, covered ++ rest = cs ∧ Tiles before tokens covered rest
      ∧ e.start = .behind (before ++ covered) ∧ LeavesOpen e.unclosed rest

theorem Accounts.gap {before piece rest : List Char} {answer : Except LexError (List Token)}
    (hpiece : Gap piece rest) (h : Accounts (before ++ piece) rest answer)
    : Accounts before (piece ++ rest) answer := by
  cases answer with
  | ok tokens =>
    apply Tiles.prepend (h := h)
    rwa [List.append_nil]
  | error e =>
    obtain ⟨tokens, covered, rest', rfl, htiles, hstart, hopen⟩ := h
    refine ⟨tokens, piece ++ covered, rest', ?_, htiles.prepend hpiece, ?_, hopen⟩
    · rw [List.append_assoc]
    · rw [hstart, List.append_assoc]

theorem Accounts.token {before piece rest : List Char} {t : Token}
    {answer : Except LexError (List Token)} (htext : t.text.toList = piece)
    (hlexeme : IsLexeme t.kind piece) (hstart : t.span.start = .behind before)
    (hstop : t.span.stop = .behind (before ++ piece))
    (h : Accounts (before ++ piece) rest answer)
    : Accounts before (piece ++ rest) (answer.map (t :: ·)) := by
  cases answer with
  | ok tokens => exact Tiles.cons htext hlexeme hstart hstop h
  | error e =>
    obtain ⟨tokens, covered, rest', rfl, htiles, herror, hopen⟩ := h
    refine ⟨t :: tokens, piece ++ covered, rest', ?_,
      Tiles.cons htext hlexeme hstart hstop htiles, ?_, hopen⟩
    · rw [List.append_assoc]
    · rw [herror, List.append_assoc]

theorem Lexer.accounts_tokensFrom (before cs : List Char)
    : Accounts before cs (tokensFrom (.behind before) cs) := by
  cases cs with
  | nil =>
    rw [tokensFrom]
    exact Tiles.gap (.nil [])
  | cons c cs =>
    cases hcut : cut c cs with
    | error unclosed =>
      rw [tokensFrom_cut_error hcut]
      refine ⟨[], [], c :: cs, rfl, .gap (.nil _), ?_, cut_error hcut⟩
      rw [List.append_nil]
    | ok piece =>
      have hle : piece.rest.length ≤ cs.length := cut_rest_length_le hcut
      have ih := accounts_tokensFrom (before ++ c :: piece.tail) piece.rest
      have hpiece := cut_ok hcut
      rw [tokensFrom_cut_ok hcut, ← cut_append hcut, ← List.cons_append]
      dsimp only
      rw [Position.advanceAll_behind]
      cases hkind : piece.kind with
      | none =>
        rw [Piece.Fits, hkind] at hpiece
        exact ih.gap hpiece
      | some kind =>
        rw [Piece.Fits, hkind] at hpiece
        exact ih.token String.toList_ofList hpiece rfl rfl
termination_by cs.length

end Java

end DeprecatedUse
