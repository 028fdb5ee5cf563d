import DeprecatedUse.Proofs.Java.Cursor.Lexer
import Mathlib.Data.List.Forall2

/-!
This module contains the lexing of texts that differ in a comment. The lexer looks ahead by two
characters at most, so the pieces in front of the comment are the same, and behind it the tokens are
the same but for their spans.
-/

namespace DeprecatedUse

theorem Position.eq_of_behind_eq {before before' after after' : List Char}
    (h : before ++ after = before' ++ after') (hbehind : behind before = behind before')
    : before = before' := by
  have hwithin : ∀ {before before' : List Char}, before <+: before' →
      behind before = behind before' → before = before' := by
    rintro before before' ⟨more, rfl⟩ hbehind
    cases more with
    | nil => rw [List.append_nil]
    | cons c more =>
      have hle := not_advanceAll_cons_le (behind before) c more
      rw [advanceAll_behind, ← hbehind] at hle
      exact absurd ((le_total _ _).elim id id) hle
  rcases List.prefix_or_prefix_of_prefix (List.prefix_append before after)
    (h ▸ List.prefix_append before' after') with hle | hle
  · exact hwithin hle hbehind
  · exact (hwithin hle hbehind.symm).symm

namespace Java

open DeprecatedUse.Text

namespace Lexer

/-! The first piece of a text depends on two characters behind it. -/

theorem splitComment?_cons {c : Char} {cs : List Char} (h : ¬ ['*', '/'] <+: c :: cs)
    : splitComment? (c :: cs) = (splitComment? cs).map fun (taken, rest) => (c :: taken, rest) := by
  rw [splitComment?.eq_def]
  split
  · next heq => cases heq
  · next rest heq =>
    rw [heq] at h
    exact absurd ⟨rest, rfl⟩ h
  · next c' cs' hne heq =>
    rw [List.cons.injEq] at heq
    rw [heq.1, heq.2]

theorem splitComment?_of_unclosed {body : List Char} (h : ¬ ['*', '/'] <:+: body ++ ['*'])
    (rest : List Char)
    : splitComment? (body ++ '*' :: '/' :: rest) = some (body ++ ['*', '/'], rest) := by
  induction body with
  | nil => rfl
  | cons c body ih =>
    have hbody : ¬ ['*', '/'] <:+: body ++ ['*'] := by
      intro hwithin
      exact h (hwithin.trans (List.suffix_cons c _).isInfix)
    have hfirst : ¬ ['*', '/'] <+: c :: (body ++ '*' :: '/' :: rest) := by
      rintro ⟨more, hmore⟩
      rw [List.cons_append, List.cons_append, List.nil_append, List.cons.injEq] at hmore
      apply h
      cases body with
      | nil => cases hmore.2
      | cons next body =>
        rw [List.cons_append, List.cons.injEq] at hmore
        rw [← hmore.1, ← hmore.2.1]
        exact List.infix_append' [] _ _
    rw [List.cons_append, splitComment?_cons hfirst, ih hbody]
    rfl

theorem splitComment?_look {taken rest : List Char}
    (h : splitComment? (taken ++ rest) = some (taken, rest)) (rest' : List Char)
    : splitComment? (taken ++ rest') = some (taken, rest') := by
  obtain ⟨body, rfl, hbody⟩ := splitComment?_some h
  rw [List.append_assoc]
  exact splitComment?_of_unclosed hbody rest'

theorem three_le_of_splitTextBlock? {cs taken rest : List Char}
    (h : splitTextBlock? cs = some (taken, rest)) : 3 ≤ taken.length := by
  fun_induction splitTextBlock? cs generalizing taken with
  | case1 => cases h
  | case2 => cases h
  | case3 c cs ih =>
    obtain ⟨⟨taken', rest'⟩, hsplit, heq⟩ := Option.map_eq_some_iff.1 h
    cases heq
    exact Nat.le_trans (ih hsplit) (Nat.le_add_right _ 2)
  | case4 cs =>
    cases h
    exact Nat.le_refl 3
  | case5 c cs _ _ _ ih =>
    obtain ⟨⟨taken', rest'⟩, hsplit, heq⟩ := Option.map_eq_some_iff.1 h
    cases heq
    exact Nat.le_trans (ih hsplit) (Nat.le_succ _)

theorem splitTextBlock?_cons {c : Char} {cs : List Char} (hc : c ≠ '\\')
    (hquotes : ¬ ['"', '"', '"'] <+: c :: cs)
    : splitTextBlock? (c :: cs)
        =
      (splitTextBlock? cs).map fun (taken, rest) => (c :: taken, rest) := by
  rw [splitTextBlock?.eq_def]
  split
  · next heq => cases heq
  · next heq => exact absurd (List.cons.inj heq).1 hc
  · next heq => exact absurd (List.cons.inj heq).1 hc
  · next rest heq =>
    rw [heq] at hquotes
    exact absurd ⟨rest, rfl⟩ hquotes
  · next heq =>
    rw [List.cons.injEq] at heq
    rw [heq.1, heq.2]

theorem splitTextBlock?_look {cs taken rest : List Char}
    (h : splitTextBlock? cs = some (taken, rest)) (rest' : List Char)
    : splitTextBlock? (taken ++ rest') = some (taken, rest') := by
  fun_induction splitTextBlock? cs generalizing taken with
  | case1 => cases h
  | case2 => cases h
  | case3 c cs ih =>
    obtain ⟨⟨taken', rest''⟩, hsplit, heq⟩ := Option.map_eq_some_iff.1 h
    cases heq
    rw [List.cons_append, List.cons_append, splitTextBlock?, ih hsplit]
    rfl
  | case4 cs =>
    cases h
    rfl
  | case5 c cs hlast hescape hquotes ih =>
    obtain ⟨⟨taken', rest''⟩, hsplit, heq⟩ := Option.map_eq_some_iff.1 h
    cases heq
    have hthree := three_le_of_splitTextBlock? hsplit
    have hcs := splitTextBlock?_append hsplit
    -- What is taken is long enough to tell that no three quotes stand here.
    have hnot : ¬ ['"', '"', '"'] <+: c :: (taken' ++ rest') := by
      intro hstarts
      have htaken : ['"', '"', '"'] <+: c :: taken' :=
        List.prefix_of_prefix_length_le hstarts (List.prefix_append (c :: taken') rest')
          (Nat.le_trans hthree (Nat.le_succ _))
      have hwhole := htaken.trans (List.prefix_append (c :: taken') rest)
      rw [List.cons_append, hcs] at hwhole
      obtain ⟨more, hmore⟩ := hwhole
      rw [List.cons_append, List.cons.injEq] at hmore
      exact hquotes more hmore.1.symm hmore.2.symm
    rw [List.cons_append, splitTextBlock?_cons (Cursor.ne_backslash hlast hescape) hnot, ih hsplit]
    rfl

theorem run_look {kind kind' : Option Token.Kind} {p : Char → Bool} {tail z : List Char} {a : Char}
    (h : Piece.run kind p (tail ++ a :: z) = ⟨kind', tail, a :: z⟩) (z' : List Char)
    : Piece.run kind p (tail ++ a :: z') = ⟨kind', tail, a :: z'⟩ := by
  rw [Piece.run, Piece.mk.injEq] at h ⊢
  obtain ⟨hkind, htake, -⟩ := h
  have htail : ∀ x ∈ tail, p x = true := by
    rw [← htake]
    exact List.all_eq_true.1 List.all_takeWhile
  have ha : ¬ p a = true := by
    intro ha
    rw [List.takeWhile_append_of_pos htail, List.takeWhile_cons_of_pos ha] at htake
    simp at htake
  rw [List.takeWhile_append_of_pos htail, List.takeWhile_cons_of_neg ha,
    List.dropWhile_append_of_pos htail, List.dropWhile_cons_of_neg ha]
  exact ⟨hkind, List.append_nil tail, rfl⟩

theorem splitNumber_look {last : Char} {taken z : List Char} {a b : Char}
    (h : splitNumber last (taken ++ a :: b :: z) = (taken, a :: b :: z)) (z' : List Char)
    : splitNumber last (taken ++ a :: b :: z') = (taken, a :: b :: z') := by
  have hdigit : ∀ cs : List Char, startsWithDigit (cs ++ a :: b :: z')
      = startsWithDigit (cs ++ a :: b :: z) := by
    intro cs
    cases cs <;> rfl
  induction taken generalizing last with
  | nil =>
    rw [List.nil_append, splitNumber] at h ⊢
    split at h
    · cases h
    · next hend =>
      rw [if_neg]
      exact hend
  | cons c taken ih =>
    rw [List.cons_append, splitNumber] at h ⊢
    rw [hdigit]
    split at h
    · next hpart =>
      rw [Prod.mk.injEq, List.cons.injEq] at h
      rw [if_pos hpart, ih (Prod.ext h.1.2 h.2)]
    · cases h

theorem splitQuoted_cons {quote c : Char} (hc : c ≠ '\\') (cs : List Char)
    : splitQuoted quote (c :: cs)
        =
      if c = '\n' then ([], c :: cs)
      else if c = quote then ([c], cs)
      else (c :: (splitQuoted quote cs).1, (splitQuoted quote cs).2) := by
  rw [splitQuoted.eq_def]
  split
  · next heq => cases heq
  · next heq => exact absurd (List.cons.inj heq).1 hc
  · next heq => exact absurd (List.cons.inj heq).1 hc
  · next heq =>
    rw [List.cons.injEq] at heq
    rw [heq.1, heq.2]

theorem splitQuoted_look {quote : Char} {cs taken z : List Char} {a : Char}
    (h : splitQuoted quote cs = (taken, a :: z)) (z' : List Char)
    : splitQuoted quote (taken ++ a :: z') = (taken, a :: z') := by
  fun_induction splitQuoted quote cs generalizing taken with
  | case1 => cases h
  | case2 => cases h
  | case3 c cs taken' rest' hsplit ih =>
    cases h
    rw [List.cons_append, List.cons_append, splitQuoted, ih hsplit]
  | case4 cs =>
    cases h
    rfl
  | case5 cs hlast hescape hline =>
    cases h
    rw [List.singleton_append, splitQuoted_cons (Cursor.ne_backslash hlast hescape), if_neg hline,
      if_pos rfl]
  | case6 c cs hlast hescape hline hquote taken' rest' hsplit ih =>
    cases h
    rw [List.cons_append, splitQuoted_cons (Cursor.ne_backslash hlast hescape), if_neg hline,
      if_neg hquote, ih hsplit]

theorem prefix_look {mark : List Char} (hmark : mark.length ≤ 2) (tail : List Char) (a b : Char)
    (z z' : List Char) : mark <+: tail ++ a :: b :: z' ↔ mark <+: tail ++ a :: b :: z := by
  have htake : ∀ z, (tail ++ a :: b :: z).take mark.length = (tail ++ [a, b]).take mark.length := by
    intro z
    rw [List.append_cons, List.append_cons, List.append_assoc tail]
    apply List.take_append_of_le_length
    rw [List.length_append]
    exact Nat.le_trans hmark (Nat.le_add_left 2 tail.length)
  rw [List.prefix_iff_eq_take, List.prefix_iff_eq_take, htake z, htake z']

theorem cutComment_look {tail z : List Char} {kind : Option Token.Kind}
    (h : cutComment ((tail ++ z).drop 1) = .ok ⟨kind, tail, z⟩) (z' : List Char)
    : cutComment ((tail ++ z').drop 1) = .ok ⟨kind, tail, z'⟩ := by
  rw [cutComment] at h
  split at h
  · cases h
  · next taken after hsplit =>
    rw [Except.ok.injEq, Piece.mk.injEq] at h
    obtain ⟨rfl, rfl, rfl⟩ := h
    have hlook := splitComment?_look hsplit z'
    rw [cutComment, List.cons_append, List.drop_succ_cons, List.drop_zero, hlook]

theorem cutTextBlock_look {tail z : List Char} {kind : Option Token.Kind}
    (h : cutTextBlock ((tail ++ z).drop 2) = .ok ⟨kind, tail, z⟩) (z' : List Char)
    : cutTextBlock ((tail ++ z').drop 2) = .ok ⟨kind, tail, z'⟩ := by
  rw [cutTextBlock] at h
  split at h
  · cases h
  · next taken after hsplit =>
    rw [Except.ok.injEq, Piece.mk.injEq] at h
    obtain ⟨rfl, rfl, rfl⟩ := h
    have hlook := splitTextBlock?_look hsplit z'
    rw [cutTextBlock, List.cons_append, List.cons_append, List.drop_succ_cons, List.drop_succ_cons,
      List.drop_zero, hlook]

theorem cutOther_look {c : Char} {tail z : List Char} {a b : Char} {kind : Option Token.Kind}
    (h : cutOther c (tail ++ a :: b :: z) = ⟨kind, tail, a :: b :: z⟩) (z' : List Char)
    : cutOther c (tail ++ a :: b :: z') = ⟨kind, tail, a :: b :: z'⟩ := by
  -- No choice looks further ahead than the two characters that are kept.
  have hdigit : startsWithDigit (tail ++ a :: b :: z') = startsWithDigit (tail ++ a :: b :: z) := by
    cases tail <;> rfl
  unfold cutOther at h ⊢
  rw [hdigit]
  split
  · next hblank =>
    rw [if_pos hblank] at h
    exact run_look h _
  · next hblank =>
    rw [if_neg hblank] at h
    split
    · next hstart =>
      rw [if_pos hstart] at h
      exact run_look h _
    · next hstart =>
      rw [if_neg hstart] at h
      split
      · next hnumber =>
        rw [if_pos hnumber, Piece.mk.injEq] at h
        rw [splitNumber_look (Prod.ext h.2.1 h.2.2), ← h.1]
      · next hnumber =>
        rw [if_neg hnumber] at h
        split
        · next hquote =>
          rw [if_pos hquote, Piece.mk.injEq] at h
          rw [splitQuoted_look (Prod.ext h.2.1 h.2.2), ← h.1]
        · next hquote =>
          rw [if_neg hquote, Piece.mk.injEq] at h
          rw [← h.1, ← h.2.1]
          rfl

theorem cut_look {c : Char} {tail z : List Char} {a b : Char} {kind : Option Token.Kind}
    (h : cut c (tail ++ a :: b :: z) = .ok ⟨kind, tail, a :: b :: z⟩) (z' : List Char)
    : cut c (tail ++ a :: b :: z') = .ok ⟨kind, tail, a :: b :: z'⟩ := by
  have hlook : ∀ mark : List Char, mark.length ≤ 2 →
      (mark <+: tail ++ a :: b :: z' ↔ mark <+: tail ++ a :: b :: z) :=
    fun mark hmark => prefix_look hmark tail a b z z'
  rw [cut_eq] at h ⊢
  simp only [hlook ['/'] (by decide), hlook ['*'] (by decide), hlook ['"', '"'] (by decide),
    hlook ['.', '.'] (by decide), hlook [':'] (by decide), hlook ['>'] (by decide)]
  split
  · next hline =>
    rw [if_pos hline, Except.ok.injEq] at h
    rw [run_look h]
  · next hline =>
    rw [if_neg hline] at h
    split
    · next hblock =>
      rw [if_pos hblock] at h
      exact cutComment_look h _
    · next hblock =>
      rw [if_neg hblock] at h
      split
      · next htext =>
        rw [if_pos htext] at h
        exact cutTextBlock_look h _
      · next htext =>
        rw [if_neg htext] at h
        -- a mark of its own is the whole piece
        have hmark : ∀ {kind' : Option Token.Kind} {mark : List Char} {n : Nat}, mark.length = n →
            (Except.ok ⟨kind', mark, (tail ++ a :: b :: z).drop n⟩ : Except Unclosed Piece)
              = .ok ⟨kind, tail, a :: b :: z⟩ →
            (Except.ok ⟨kind', mark, (tail ++ a :: b :: z').drop n⟩ : Except Unclosed Piece)
              = .ok ⟨kind, tail, a :: b :: z'⟩ := by
          intro kind' mark n hn hpiece
          rw [Except.ok.injEq, Piece.mk.injEq] at hpiece ⊢
          obtain ⟨hkind, rfl, -⟩ := hpiece
          refine ⟨hkind, rfl, ?_⟩
          rw [← hn, List.drop_left]
        split
        · next hdots =>
          rw [if_pos hdots] at h
          exact hmark rfl h
        · next hdots =>
          rw [if_neg hdots] at h
          split
          · next hcolons =>
            rw [if_pos hcolons] at h
            exact hmark rfl h
          · next hcolons =>
            rw [if_neg hcolons] at h
            split
            · next harrow =>
              rw [if_pos harrow] at h
              exact hmark rfl h
            · next harrow =>
              rw [if_neg harrow, Except.ok.injEq] at h
              rw [cutOther_look h]

/-! Texts that differ in a comment. -/

def Shifted (t t' : Token) : Prop :=
  t'.kind = t.kind ∧ t'.text = t.text

theorem tokensFrom_shifted {start : Position} {cs : List Char} {tokens : List Token}
    (h : tokensFrom start cs = .ok tokens) (start' : Position)
    : ∃ tokens', tokensFrom start' cs = .ok tokens' ∧ List.Forall₂ Shifted tokens tokens' := by
  refine tokensFrom_induction (motive := fun _ cs tokens => ∀ start',
    ∃ tokens', tokensFrom start' cs = .ok tokens' ∧ List.Forall₂ Shifted tokens tokens')
    ?_ ?_ ?_ start cs tokens h start'
  · intro _ start'
    exact ⟨[], by rw [tokensFrom], .nil⟩
  · intro _ c cs piece rest hcut hkind ih start'
    obtain ⟨tokens', htokens', hshifted⟩ := ih (start'.advanceAll (c :: piece.tail))
    refine ⟨tokens', ?_, hshifted⟩
    rw [tokensFrom_cut_ok hcut, hkind]
    exact htokens'
  · intro _ c cs piece kind rest hcut hkind ih start'
    obtain ⟨tokens', htokens', hshifted⟩ := ih (start'.advanceAll (c :: piece.tail))
    refine ⟨⟨kind, String.ofList (c :: piece.tail),
      ⟨start', start'.advanceAll (c :: piece.tail)⟩⟩ :: tokens', ?_, .cons ⟨rfl, rfl⟩ hshifted⟩
    rw [tokensFrom_cut_ok hcut, hkind]
    dsimp only
    rw [htokens']
    rfl

theorem tokensFrom_plainComment {comment : List Char} (hcomment : IsBlockComment comment)
    (hdoc : ¬ Documents comment) (start : Position) (after : List Char)
    : tokensFrom start (comment ++ after) = tokensFrom (start.advanceAll comment) after := by
  obtain ⟨body, rfl, hbody⟩ := hcomment
  have hcut : cut '/' ('*' :: (body ++ ['*', '/'] ++ after))
      = .ok ⟨none, '*' :: (body ++ ['*', '/']), after⟩ := by
    rw [← documents_iff] at hdoc
    rw [cut, List.append_assoc]
    dsimp only [List.cons_append, List.nil_append]
    rw [splitComment?_of_unclosed hbody]
    dsimp only
    rw [if_neg hdoc]
  rw [List.cons_append, List.cons_append, tokensFrom_cut_ok hcut]

theorem exists_look (before z z' : List Char)
    : ∃ a b w w', before ++ '/' :: '*' :: z = a :: b :: w
        ∧ before ++ '/' :: '*' :: z' = a :: b :: w' := by
  match before with
  | [] => exact ⟨_, _, _, _, rfl, rfl⟩
  | [_] => exact ⟨_, _, _, _, rfl, rfl⟩
  | _ :: _ :: _ => exact ⟨_, _, _, _, rfl, rfl⟩

theorem cut_comment {c : Char} {cs : List Char} {piece : Piece} (h : cut c cs = .ok piece)
    {before comment comment' after : List Char} (hrest : piece.rest = before ++ comment ++ after)
    (hcomment : IsBlockComment comment) (hcomment' : IsBlockComment comment')
    : cut c (piece.tail ++ (before ++ comment' ++ after))
        =
      .ok { piece with rest := before ++ comment' ++ after } := by
  obtain ⟨body, rfl, -⟩ := hcomment
  obtain ⟨body', rfl, -⟩ := hcomment'
  have hcs := cut_append h
  rw [hrest] at hcs
  rw [List.append_assoc] at *
  obtain ⟨a, b, w, w', hlook, hlook'⟩ := exists_look before (body ++ ['*', '/'] ++ after)
    (body' ++ ['*', '/'] ++ after)
  rw [List.cons_append, List.cons_append] at *
  rw [hlook] at hcs hrest
  rw [hlook']
  apply cut_look
  rw [hcs, ← hrest]
  exact h

/--
The comment `d` stands behind `before` and in front of `after`. With another comment in its place
that documents nothing there are the other tokens, of which those behind it stand elsewhere.
-/
structure CommentAt (start : Position) (cs : List Char) (front : List Token) (d : Token)
    (back : List Token) (before after : List Char) : Prop where
  text : cs = before ++ d.text.toList ++ after
  block : IsBlockComment d.text.toList
  span_start : d.span.start = start.advanceAll before
  other : ∀ comment, IsBlockComment comment → ¬ Documents comment →
    ∃ back', tokensFrom start (before ++ comment ++ after) = .ok (front ++ back')
      ∧ List.Forall₂ Shifted back back'

theorem CommentAt.behind {start : Position} {c : Char} {cs : List Char} {piece : Piece}
    (hcut : cut c cs = .ok piece) {front back : List Token} {d : Token} {before after : List Char}
    (h : CommentAt (start.advanceAll (c :: piece.tail)) piece.rest front d back before after)
    : CommentAt start (c :: cs)
        ((piece.kind.map fun kind => ⟨kind, String.ofList (c :: piece.tail),
          ⟨start, start.advanceAll (c :: piece.tail)⟩⟩).toList ++ front) d back
        (c :: piece.tail ++ before) after where
  text := by
    rw [← cut_append hcut, h.text]
    simp only [List.cons_append, List.append_assoc]
  block := h.block
  span_start := by
    rw [h.span_start, Position.advanceAll_append]
  other := by
    intro comment hcomment hdoc
    obtain ⟨back', hback', hshifted⟩ := h.other comment hcomment hdoc
    refine ⟨back', ?_, hshifted⟩
    have hcut' := cut_comment hcut h.text h.block hcomment
    rw [List.append_assoc, List.append_assoc, List.cons_append, ← List.append_assoc before,
      tokensFrom_cut_ok hcut']
    cases hkind : piece.kind with
    | none => exact hback'
    | some kind =>
      dsimp only
      rw [hback']
      rfl

theorem CommentAt.first {start : Position} {c : Char} {cs : List Char} {piece : Piece}
    (hcut : cut c cs = .ok piece) (hkind : piece.kind = some .doc) {back : List Token}
    (hback : tokensFrom (start.advanceAll (c :: piece.tail)) piece.rest = .ok back)
    : CommentAt start (c :: cs) []
        ⟨.doc, String.ofList (c :: piece.tail), ⟨start, start.advanceAll (c :: piece.tail)⟩⟩ back
        [] piece.rest where
  text := by
    rw [String.toList_ofList, ← cut_append hcut]
    rfl
  block := by
    have hlexeme := cut_ok hcut
    rw [Piece.Fits, hkind] at hlexeme
    rw [String.toList_ofList]
    exact hlexeme.1
  span_start := rfl
  other := by
    intro comment hcomment hdoc
    obtain ⟨back', hback', hshifted⟩ := tokensFrom_shifted hback (start.advanceAll comment)
    refine ⟨back', ?_, hshifted⟩
    rw [List.nil_append, tokensFrom_plainComment hcomment hdoc, hback', List.nil_append]

theorem exists_commentAt {start : Position} {cs : List Char} {front back : List Token} {d : Token}
    (h : tokensFrom start cs = .ok (front ++ d :: back)) (hd : d.kind = .doc)
    : ∃ before after, CommentAt start cs front d back before after := by
  cases cs with
  | nil =>
    rw [tokensFrom] at h
    simp at h
  | cons c cs =>
    obtain ⟨piece, rest, hcut, hrest, htokens⟩ := tokensFrom_cons_ok h
    have hlt : piece.rest.length < (c :: cs).length := Nat.lt_succ_of_le (cut_rest_length_le hcut)
    -- A piece without a token shifts the comment; a token is the comment or stands in front of it.
    rcases htokens with ⟨hkind, rfl⟩ | ⟨kind, hkind, htokens⟩
    · obtain ⟨before, after, hat⟩ := exists_commentAt hrest hd
      have hbehind := hat.behind hcut
      rw [hkind] at hbehind
      exact ⟨_, _, hbehind⟩
    · cases front with
      | nil =>
        rw [List.nil_append, List.cons.injEq] at htokens
        obtain ⟨rfl, rfl⟩ := htokens
        dsimp only at hd
        subst hd
        exact ⟨[], piece.rest, .first hcut hkind hrest⟩
      | cons t front =>
        rw [List.cons_append, List.cons.injEq] at htokens
        obtain ⟨rfl, rfl⟩ := htokens
        obtain ⟨before, after, hat⟩ := exists_commentAt hrest hd
        have hbehind := hat.behind hcut
        rw [hkind] at hbehind
        exact ⟨_, _, hbehind⟩
termination_by cs.length

end Lexer

theorem tokenize_otherComment {before after comment : String} {front back : List Token} {d : Token}
    (h : tokenize (before ++ d.text ++ after) = .ok (front ++ d :: back)) (hd : d.kind = .doc)
    (hstart : d.span.start = .behind before.toList) (hcomment : IsBlockComment comment.toList)
    (hdoc : ¬ Documents comment.toList)
    : ∃ back', tokenize (before ++ comment ++ after) = .ok (front ++ back')
        ∧ List.Forall₂ Lexer.Shifted back back' := by
  obtain ⟨before', after', hat⟩ := Lexer.exists_commentAt h hd
  have htext := hat.text
  rw [String.toList_append, String.toList_append, List.append_assoc, List.append_assoc] at htext
  have hbehind : Position.behind before.toList = .behind before' := by
    rw [← hstart, hat.span_start]
    exact Position.advanceAll_behind [] before'
  obtain rfl := Position.eq_of_behind_eq htext hbehind
  rw [List.append_cancel_left_eq, List.append_cancel_left_eq] at htext
  obtain ⟨back', hback', hshifted⟩ := hat.other comment.toList hcomment hdoc
  refine ⟨back', ?_, hshifted⟩
  rw [tokenize, String.toList_append, String.toList_append, htext]
  exact hback'

end Java

end DeprecatedUse
