import DeprecatedUse.Java.Lexer

/-!
This module contains what the lexer makes sure of about single tokens and about their order: an
identifier is not empty and holds no dot, and each token starts behind the start of all tokens
before it. So a token of a text is known by its span.
-/

namespace DeprecatedUse

namespace Position

theorem not_advance_le (p : Position) (c : Char) : ¬ p.advance c ≤ p := by
  unfold advance
  split
  · rw [le_def]
    dsimp only
    omega
  · have hunits : 0 < units16 c := by
      unfold units16
      split <;> omega
    rw [le_def]
    dsimp only
    omega

theorem le_advanceAll (p : Position) (cs : List Char) : p ≤ p.advanceAll cs := by
  induction cs generalizing p with
  | nil =>
    rw [le_def]
    right
    exact ⟨rfl, Nat.le_refl _⟩
  | cons c cs ih =>
    have hstep : p ≤ p.advance c := (le_total p (p.advance c)).resolve_right (not_advance_le p c)
    exact le_trans hstep (ih (p.advance c))

theorem not_advanceAll_cons_le (p : Position) (c : Char) (cs : List Char)
    : ¬ p.advanceAll (c :: cs) ≤ p := by
  intro h
  apply not_advance_le p c
  exact le_trans (le_advanceAll (p.advance c) cs) h

end Position

namespace Java

open DeprecatedUse.Text

namespace Lexer

theorem tokensFrom_cons_ok {start : Position} {c : Char} {cs : List Char} {tokens : List Token}
    (h : tokensFrom start (c :: cs) = .ok tokens)
    : ∃ piece rest,
        cut c cs = .ok piece
          ∧ tokensFrom (start.advanceAll (c :: piece.tail)) piece.rest = .ok rest
          ∧ ((piece.kind = none ∧ tokens = rest)
            ∨ ∃ kind, piece.kind = some kind
              ∧ tokens = ⟨kind, String.ofList (c :: piece.tail),
                  ⟨start, start.advanceAll (c :: piece.tail)⟩⟩ :: rest) := by
  rw [tokensFrom] at h
  split at h
  · cases h
  · next piece hcut =>
    dsimp only at h
    split at h
    · cases h
    · next rest hrest =>
      refine ⟨piece, rest, hcut, hrest, ?_⟩
      split at h
      · next hkind =>
        rw [Except.ok.injEq] at h
        exact .inl ⟨hkind, h.symm⟩
      · next kind hkind =>
        rw [Except.ok.injEq] at h
        exact .inr ⟨kind, hkind, h.symm⟩

theorem tokensFrom_induction {motive : Position → List Char → List Token → Prop}
    (nil : ∀ start, motive start [] [])
    (gap : ∀ start c cs piece rest, cut c cs = .ok piece → piece.kind = none
      → motive (start.advanceAll (c :: piece.tail)) piece.rest rest → motive start (c :: cs) rest)
    (token : ∀ start c cs piece kind rest, cut c cs = .ok piece → piece.kind = some kind
      → motive (start.advanceAll (c :: piece.tail)) piece.rest rest
      → motive start (c :: cs)
          (⟨kind, String.ofList (c :: piece.tail),
            ⟨start, start.advanceAll (c :: piece.tail)⟩⟩ :: rest))
    (start : Position) (cs : List Char) (tokens : List Token)
    (h : tokensFrom start cs = .ok tokens) : motive start cs tokens := by
  cases cs with
  | nil =>
    rw [tokensFrom, Except.ok.injEq] at h
    subst h
    exact nil start
  | cons c cs =>
    obtain ⟨piece, rest, hcut, hrest, htokens⟩ := tokensFrom_cons_ok h
    have hlt : piece.rest.length < (c :: cs).length := Nat.lt_succ_of_le (cut_rest_length_le hcut)
    have ih := tokensFrom_induction nil gap token _ _ _ hrest
    rcases htokens with ⟨hkind, rfl⟩ | ⟨kind, hkind, rfl⟩
    · exact gap _ _ _ _ _ hcut hkind ih
    · exact token _ _ _ _ _ _ hcut hkind ih
termination_by cs.length

/-! A piece is told by the mark that it begins with, or by its first character. -/

def cutComment (cs : List Char) : Except Unclosed Piece :=
  match splitComment? cs with
  | none => .error .comment
  | some (taken, after) =>
    .ok ⟨if ['*'].isPrefixOf taken && !(['*', '/'].isPrefixOf taken) then some .doc else none,
      '*' :: taken, after⟩

def cutTextBlock (cs : List Char) : Except Unclosed Piece :=
  match splitTextBlock? cs with
  | none => .error .textBlock
  | some (taken, after) => .ok ⟨some .literal, '"' :: '"' :: taken, after⟩

def cutOther (c : Char) (cs : List Char) : Piece :=
  if isBlank c then
    .run none isBlank cs
  else if isIdentStart c then
    .run (some .ident) isIdentPart cs
  else if c.isDigit || (c == '.' && startsWithDigit cs) then
    ⟨some .literal, (splitNumber c cs).1, (splitNumber c cs).2⟩
  else if c == '"' || c == '\'' then
    ⟨some .literal, (splitQuoted c cs).1, (splitQuoted c cs).2⟩
  else
    ⟨some .punct, [], cs⟩

theorem cut_eq (c : Char) (cs : List Char)
    : cut c cs
        =
      if c = '/' ∧ ['/'] <+: cs then .ok (.run none (· != '\n') cs)
      else if c = '/' ∧ ['*'] <+: cs then cutComment (cs.drop 1)
      else if c = '"' ∧ ['"', '"'] <+: cs then cutTextBlock (cs.drop 2)
      else if c = '.' ∧ ['.', '.'] <+: cs then .ok ⟨some .punct, ['.', '.'], cs.drop 2⟩
      else if c = ':' ∧ [':'] <+: cs then .ok ⟨some .punct, [':'], cs.drop 1⟩
      else if c = '-' ∧ ['>'] <+: cs then .ok ⟨some .punct, ['>'], cs.drop 1⟩
      else .ok (cutOther c cs) := by
  unfold cut
  split
  · simp
  · rw [if_neg (by simp), if_pos (by simp)]
    rfl
  · rw [if_neg (by simp), if_neg (by simp), if_pos (by simp)]
    rfl
  · simp
  · simp
  · simp
  · next hline hblock htext hdots hcolons harrow =>
    -- In the last case none of the marks begins here.
    have hother : ∀ {mark : List Char} {first : Char},
        (∀ rest, c = first → cs = mark ++ rest → False) → ¬ (c = first ∧ mark <+: cs) := by
      rintro mark first hnot ⟨hc, rest, hcs⟩
      exact hnot rest hc hcs.symm
    rw [if_neg (hother hline), if_neg (hother hblock), if_neg (hother htext),
      if_neg (hother hdots), if_neg (hother hcolons), if_neg (hother harrow)]
    unfold cutOther
    split
    · rfl
    · split
      · rfl
      · split
        · rfl
        · split <;> rfl

theorem cutComment_kind {cs : List Char} {piece : Piece} (h : cutComment cs = .ok piece)
    : piece.kind = none ∨ piece.kind = some .doc := by
  rw [cutComment] at h
  split at h
  · cases h
  · cases h
    dsimp only
    split
    · exact .inr rfl
    · exact .inl rfl

theorem cutTextBlock_kind {cs : List Char} {piece : Piece} (h : cutTextBlock cs = .ok piece)
    : piece.kind = some .literal := by
  rw [cutTextBlock] at h
  split at h
  · cases h
  · cases h
    rfl

theorem cutOther_ident {c : Char} {cs : List Char} (h : (cutOther c cs).kind = some .ident)
    : isIdentStart c = true ∧ ∀ x, x ∈ (cutOther c cs).tail → isIdentPart x = true := by
  unfold cutOther at h ⊢
  split at h
  · cases h
  · next hblank =>
    split at h
    · next hstart =>
      rw [if_neg hblank, if_pos hstart]
      exact ⟨hstart, List.all_eq_true.1 List.all_takeWhile⟩
    · split at h
      · cases h
      · split at h
        · cases h
        · cases h

theorem cut_ident {c : Char} {cs : List Char} {piece : Piece} (h : cut c cs = .ok piece)
    (hkind : piece.kind = some .ident)
    : isIdentStart c = true ∧ ∀ x, x ∈ piece.tail → isIdentPart x = true := by
  rw [cut_eq] at h
  split at h
  · cases h
    cases hkind
  · split at h
    · obtain hcomment | hcomment := cutComment_kind h
      · rw [hcomment] at hkind
        cases hkind
      · rw [hcomment] at hkind
        cases hkind
    · split at h
      · rw [cutTextBlock_kind h] at hkind
        cases hkind
      · split at h
        · cases h
          cases hkind
        · split at h
          · cases h
            cases hkind
          · split at h
            · cases h
              cases hkind
            · cases h
              exact cutOther_ident hkind

theorem dot_not_isIdentStart : isIdentStart '.' = false := by
  decide

theorem dot_not_isIdentPart : isIdentPart '.' = false := by
  decide

end Lexer

theorem exists_tokenize_ok {text : String} {p : List Token → Bool}
    (h : (tokenize text).toOption.any p)
    : ∃ tokens, tokenize text = .ok tokens ∧ p tokens := by
  cases htokens : tokenize text with
  | error e =>
    rw [htokens] at h
    cases h
  | ok tokens =>
    rw [htokens] at h
    exact ⟨tokens, rfl, h⟩

def Token.onFirstLine (kind : Token.Kind) (text : String) (column : Nat) : Token :=
  ⟨kind, text, ⟨⟨0, column⟩, ⟨0, column + text.length⟩⟩⟩

def IsName (name : String) : Prop :=
  name ≠ "" ∧ '.' ∉ name.toList

instance (name : String) : Decidable (IsName name) :=
  inferInstanceAs (Decidable (_ ∧ _))

theorem isName_of_mem_tokenize {text : String} {tokens : List Token}
    (h : tokenize text = .ok tokens) {t : Token} (ht : t ∈ tokens) (hident : t.isIdent = true)
    : IsName t.text := by
  suffices hall : ∀ t : Token, t ∈ tokens → t.isIdent = true → IsName t.text from
    hall t ht hident
  refine Lexer.tokensFrom_induction (motive := fun _ _ tokens =>
    ∀ t : Token, t ∈ tokens → t.isIdent = true → IsName t.text) ?_ ?_ ?_ {} text.toList tokens h
  · intro _ t ht
    cases ht
  · intro _ _ _ _ _ _ _ ih
    exact ih
  · intro _ c _ piece kind rest hcut hkind ih t ht hident
    rw [List.mem_cons] at ht
    rcases ht with rfl | ht
    · have hk : kind = .ident := by simpa [Token.isIdent] using hident
      subst hk
      obtain ⟨hstart, hpart⟩ := Lexer.cut_ident hcut hkind
      constructor
      · intro hempty
        have := congrArg String.toList hempty
        simp at this
      · rw [String.toList_ofList, List.mem_cons]
        rintro (hdot | hdot)
        · rw [← hdot, Lexer.dot_not_isIdentStart] at hstart
          cases hstart
        · have hbad := hpart _ hdot
          rw [Lexer.dot_not_isIdentPart] at hbad
          cases hbad
    · exact ih t ht hident

theorem pairwise_start_tokenize {text : String} {tokens : List Token}
    (h : tokenize text = .ok tokens)
    : tokens.Pairwise fun a b => ¬ b.span.start ≤ a.span.start := by
  suffices hall : (∀ t : Token, t ∈ tokens → ({} : Position) ≤ t.span.start)
      ∧ tokens.Pairwise fun a b => ¬ b.span.start ≤ a.span.start from hall.2
  refine Lexer.tokensFrom_induction (motive := fun start _ tokens =>
    (∀ t : Token, t ∈ tokens → start ≤ t.span.start)
      ∧ tokens.Pairwise fun a b => ¬ b.span.start ≤ a.span.start) ?_ ?_ ?_ {} text.toList tokens h
  · intro start
    exact ⟨by simp, List.Pairwise.nil⟩
  · intro start c _ piece rest _ _ ih
    refine ⟨?_, ih.2⟩
    intro t ht
    exact Position.le_trans (Position.le_advanceAll start _) (ih.1 t ht)
  · intro start c _ piece kind rest _ _ ih
    constructor
    · intro t ht
      rw [List.mem_cons] at ht
      rcases ht with rfl | ht
      · exact (Position.le_total start start).elim id id
      · exact Position.le_trans (Position.le_advanceAll start _) (ih.1 t ht)
    · rw [List.pairwise_cons]
      refine ⟨?_, ih.2⟩
      intro t ht hle
      apply Position.not_advanceAll_cons_le start c piece.tail
      exact Position.le_trans (ih.1 t ht) hle

/-! Tokens in their order. -/

def InOrder (tokens : List Token) : Prop :=
  tokens.Pairwise fun a b => ¬ b.span.start ≤ a.span.start

namespace InOrder

variable {tokens before rest : List Token} {t : Token}

theorem span_ne (h : InOrder (before ++ t :: rest)) {a : Token} (ha : a ∈ before)
    : a.span ≠ t.span := by
  intro heq
  unfold InOrder at h
  rw [List.pairwise_append] at h
  apply h.2.2 a ha t List.mem_cons_self
  rw [heq]
  exact (Position.le_total _ _).elim id id

theorem not_mem (h : InOrder (before ++ t :: rest)) : t ∉ before :=
  fun ht => h.span_ne ht rfl

theorem nodup (h : InOrder tokens) : tokens.Nodup := by
  apply h.imp
  intro a b hnot heq
  apply hnot
  rw [heq]
  exact (Position.le_total _ _).elim id id

theorem takeWhile_span (h : InOrder (before ++ t :: rest))
    : (before ++ t :: rest).takeWhile (·.span != t.span) = before := by
  rw [List.takeWhile_append_of_pos, List.takeWhile_cons_of_neg, List.append_nil]
  · simp
  · intro a ha
    simpa using h.span_ne ha

theorem dropWhile_span (h : InOrder (before ++ t :: rest))
    : (before ++ t :: rest).dropWhile (·.span != t.span) = t :: rest := by
  rw [List.dropWhile_append_of_pos, List.dropWhile_cons_of_neg]
  · simp
  · intro a ha
    simpa using h.span_ne ha

end InOrder

end Java

end DeprecatedUse
