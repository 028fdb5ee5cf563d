import DeprecatedUse.Proofs.Java.Commented.Texts
import DeprecatedUse.Proofs.Text.Splitting

/-!
This module contains the lexing of tokens that are written one below the other. A token is read from
its own characters: in front of a line feed and at the end of the text it ends where it ended
before.
Only a literal that ends in an escaping backslash would take the line feed with it, and there is no
text behind such a literal.
-/

namespace DeprecatedUse.Java

namespace Lexer

theorem startsWithDigit_append {cs : List Char} (h : startsWithDigit cs = true) (rest : List Char)
    : startsWithDigit (cs ++ rest) = true := by
  cases cs with
  | nil => cases h
  | cons c cs => exact h

/--
The text ends here or goes on in a new line.
-/
def Breaks : List Char → Prop
  | [] => True
  | c :: _ => c = '\n'

section Breaks

variable {z : List Char} (hz : Breaks z)

include hz

theorem startsWithDigit_of_breaks {cs : List Char} (h : startsWithDigit (cs ++ z) = true)
    : startsWithDigit cs = true := by
  cases cs with
  | nil =>
    cases z with
    | nil => cases h
    | cons c z =>
      cases hz
      cases h
  | cons c cs => exact h

theorem prefix_breaks {mark tail : List Char} (hmark : '\n' ∉ mark) (h : mark <+: tail ++ z)
    : mark <+: tail := by
  induction mark generalizing tail with
  | nil => exact List.nil_prefix
  | cons m mark ih =>
    rw [List.mem_cons, not_or] at hmark
    cases tail with
    | nil =>
      cases z with
      | nil => cases List.prefix_nil.1 h
      | cons c z =>
        cases hz
        exact absurd (List.cons_prefix_cons.1 h).1.symm hmark.1
    | cons c tail =>
      rw [List.cons_append, List.cons_prefix_cons] at h
      exact List.cons_prefix_cons.2 ⟨h.1, ih hmark.2 h.2⟩

theorem run_breaks {kind kind' : Option Token.Kind} {p : Char → Bool} {cs tail rest : List Char}
    (hp : p '\n' = false) (h : Piece.run kind p cs = ⟨kind', tail, rest⟩)
    : Piece.run kind p (tail ++ z) = ⟨kind', tail, z⟩ := by
  rw [Piece.run, Piece.mk.injEq] at h ⊢
  obtain ⟨hkind, rfl, -⟩ := h
  have htail : ∀ x ∈ cs.takeWhile p, p x = true := List.all_eq_true.1 List.all_takeWhile
  rw [List.takeWhile_append_of_pos htail, List.dropWhile_append_of_pos htail]
  cases z with
  | nil => exact ⟨hkind, List.append_nil _, rfl⟩
  | cons c z =>
    cases hz
    have hstop : ¬ p '\n' = true := Bool.eq_false_iff.1 hp
    rw [List.takeWhile_cons_of_neg hstop, List.dropWhile_cons_of_neg hstop]
    exact ⟨hkind, List.append_nil _, rfl⟩

theorem splitNumber_of_breaks (last : Char) : splitNumber last z = ([], z) := by
  cases z with
  | nil => rfl
  | cons c z =>
    cases hz
    rfl

theorem splitNumber_breaks (last : Char) (cs : List Char)
    : splitNumber last ((splitNumber last cs).1 ++ z) = ((splitNumber last cs).1, z) := by
  fun_induction splitNumber last cs with
  | case1 last => exact splitNumber_of_breaks hz last
  | case2 last c cs hpart taken rest hsplit ih =>
    rw [hsplit] at ih
    -- the digit behind a point belongs to the number too
    have hdigit : startsWithDigit cs = true → startsWithDigit (taken ++ z) = true := by
      intro hcs
      have htaken : startsWithDigit (splitNumber c cs).1 = true := startsWithDigit_splitNumber hcs
      rw [hsplit] at htaken
      exact startsWithDigit_append htaken z
    have hpart' : (c.isAlphanum || c == '_' || (c == '.' && startsWithDigit (taken ++ z))
        || ((c == '+' || c == '-') && isExponentMark last)) = true := by
      simp only [Bool.or_eq_true, Bool.and_eq_true] at hpart ⊢
      exact hpart.imp_left (Or.imp_right (And.imp_right hdigit))
    rw [List.cons_append, splitNumber, if_pos hpart', ih]
  | case3 last c cs hpart => exact splitNumber_of_breaks hz last

theorem splitQuoted_of_breaks (quote : Char) : splitQuoted quote z = ([], z) := by
  cases z with
  | nil => rfl
  | cons c z =>
    cases hz
    rw [splitQuoted_cons (by decide), if_pos rfl]

theorem splitQuoted_breaks {quote : Char} {cs taken rest : List Char}
    (h : splitQuoted quote cs = (taken, rest)) (hend : rest = [] → z = [])
    : splitQuoted quote (taken ++ z) = (taken, z) := by
  fun_induction splitQuoted quote cs generalizing taken with
  | case1 =>
    cases h
    exact splitQuoted_of_breaks hz quote
  | case2 =>
    cases h
    rw [hend rfl]
    rfl
  | case3 c cs taken' rest' hsplit ih =>
    cases h
    rw [List.cons_append, List.cons_append, splitQuoted, ih hsplit]
  | case4 cs =>
    cases h
    exact splitQuoted_of_breaks hz quote
  | case5 cs hlast hescape hline =>
    cases h
    rw [List.singleton_append, splitQuoted_cons (Cursor.ne_backslash hlast hescape), if_neg hline,
      if_pos rfl]
  | case6 c cs hlast hescape hline hquote taken' rest' hsplit ih =>
    cases h
    rw [List.cons_append, splitQuoted_cons (Cursor.ne_backslash hlast hescape), if_neg hline,
      if_neg hquote, ih hsplit]

end Breaks

theorem cutComment_tail {cs tail rest : List Char} {kind : Option Token.Kind}
    (h : cutComment cs = .ok ⟨kind, tail, rest⟩) : ['*'] <+: tail := by
  rw [cutComment] at h
  split at h
  · cases h
  · cases h
    exact List.prefix_append ['*'] _

theorem cutTextBlock_tail {cs tail rest : List Char} {kind : Option Token.Kind}
    (h : cutTextBlock cs = .ok ⟨kind, tail, rest⟩) : ['"', '"'] <+: tail := by
  rw [cutTextBlock] at h
  split at h
  · cases h
  · cases h
    exact List.prefix_append ['"', '"'] _

theorem cutOther_breaks {c : Char} {tail rest z : List Char} {kind : Token.Kind}
    (h : cutOther c (tail ++ rest) = ⟨some kind, tail, rest⟩) (hz : Breaks z)
    (hend : rest = [] → z = []) : cutOther c (tail ++ z) = ⟨some kind, tail, z⟩ := by
  unfold cutOther at h ⊢
  split at h
  · cases h
  · next hblank =>
    rw [if_neg hblank]
    split at h
    · next hstart =>
      rw [if_pos hstart]
      exact run_breaks hz (by decide) h
    · next hstart =>
      rw [if_neg hstart]
      split at h
      · next hnumber =>
        rw [Piece.mk.injEq] at h
        obtain ⟨hkind, htail, -⟩ := h
        -- A number that begins with its point shows its first digit in the tail already.
        have hnumber' : (c.isDigit || (c == '.' && startsWithDigit (tail ++ z))) = true := by
          simp only [Bool.or_eq_true, Bool.and_eq_true] at hnumber ⊢
          refine hnumber.imp_right (And.imp_right fun hdigit => ?_)
          rw [← htail]
          exact startsWithDigit_append (startsWithDigit_splitNumber hdigit) z
        have hsplit := splitNumber_breaks hz c (tail ++ rest)
        rw [htail] at hsplit
        rw [if_pos hnumber', hsplit, hkind]
      · next hnumber =>
        have hnumber' : ¬ (c.isDigit || (c == '.' && startsWithDigit (tail ++ z))) = true := by
          simp only [Bool.or_eq_true, Bool.and_eq_true] at hnumber ⊢
          refine mt (Or.imp_right (And.imp_right fun hdigit => ?_)) hnumber
          exact startsWithDigit_append (startsWithDigit_of_breaks hz hdigit) rest
        rw [if_neg hnumber']
        split at h
        · next hquote =>
          rw [Piece.mk.injEq] at h
          rw [if_pos hquote, splitQuoted_breaks hz (Prod.ext h.2.1 h.2.2) hend, h.1]
        · next hquote =>
          rw [Piece.mk.injEq] at h
          rw [if_neg hquote, ← h.2.1, ← h.1]
          rfl

theorem cut_breaks {c : Char} {cs tail rest z : List Char} {kind : Token.Kind}
    (h : cut c cs = .ok ⟨some kind, tail, rest⟩) (hz : Breaks z) (hend : rest = [] → z = [])
    : cut c (tail ++ z) = .ok ⟨some kind, tail, z⟩ := by
  have hcs : tail ++ rest = cs := cut_append h
  subst hcs
  -- No mark holds a line feed, so none begins in front of `z` that had not begun before.
  have hmark : ∀ {first : Char} {mark : List Char}, '\n' ∉ mark →
      ¬ (c = first ∧ mark <+: tail ++ rest) → ¬ (c = first ∧ mark <+: tail ++ z) := by
    rintro first mark hline hnot ⟨hc, hstarts⟩
    exact hnot ⟨hc, (prefix_breaks hz hline hstarts).trans (List.prefix_append tail rest)⟩
  rw [cut_eq] at h ⊢
  split at h
  · rw [Except.ok.injEq] at h
    cases h
  · next hline =>
    rw [if_neg (hmark (by decide) hline)]
    split at h
    · next hblock =>
      have hopening := (cutComment_tail h).trans (List.prefix_append tail z)
      rw [if_pos ⟨hblock.1, hopening⟩]
      exact cutComment_look h z
    · next hblock =>
      rw [if_neg (hmark (by decide) hblock)]
      split at h
      · next htext =>
        have hopening := (cutTextBlock_tail h).trans (List.prefix_append tail z)
        rw [if_pos ⟨htext.1, hopening⟩]
        exact cutTextBlock_look h z
      · next htext =>
        rw [if_neg (hmark (by decide) htext)]
        split at h
        · next hdots =>
          cases h
          rw [if_pos ⟨hdots.1, List.prefix_append ['.', '.'] z⟩]
          rfl
        · next hdots =>
          rw [if_neg (hmark (by decide) hdots)]
          split at h
          · next hcolons =>
            cases h
            rw [if_pos ⟨hcolons.1, List.prefix_append [':'] z⟩]
            rfl
          · next hcolons =>
            rw [if_neg (hmark (by decide) hcolons)]
            split at h
            · next harrow =>
              cases h
              rw [if_pos ⟨harrow.1, List.prefix_append ['>'] z⟩]
              rfl
            · next harrow =>
              rw [if_neg (hmark (by decide) harrow)]
              rw [Except.ok.injEq] at h ⊢
              exact cutOther_breaks h hz hend

/-! Texts of tokens. -/

def linesBehind (tokens : List Token) : List Char :=
  tokens.flatMap fun t => '\n' :: t.text.toList

theorem breaks_linesBehind (tokens : List Token) : Breaks (linesBehind tokens) := by
  cases tokens with
  | nil => trivial
  | cons t tokens => rfl

theorem tokensFrom_lineFeed (start : Position) (cs : List Char)
    : tokensFrom start ('\n' :: cs) = tokensFrom (start.advance '\n') cs :=
  Cursor.tokensFrom_blank (by decide) start cs

theorem tokensFrom_linesBehind {start : Position} {cs : List Char} {tokens : List Token}
    (h : tokensFrom start cs = .ok tokens) (start' : Position)
    : ∃ tokens', tokensFrom start' (linesBehind tokens) = .ok tokens'
        ∧ List.Forall₂ Shifted tokens tokens' := by
  suffices hall : (cs = [] → tokens = []) ∧ ∀ start',
      ∃ tokens', tokensFrom start' (linesBehind tokens) = .ok tokens'
        ∧ List.Forall₂ Shifted tokens tokens' from hall.2 start'
  refine tokensFrom_induction (motive := fun _ cs tokens => (cs = [] → tokens = []) ∧ ∀ start',
    ∃ tokens', tokensFrom start' (linesBehind tokens) = .ok tokens'
      ∧ List.Forall₂ Shifted tokens tokens') ?_ ?_ ?_ start cs tokens h
  · intro _
    refine ⟨fun _ => rfl, fun start' => ⟨[], ?_, .nil⟩⟩
    rw [linesBehind, List.flatMap_nil, tokensFrom]
  · intro _ c cs piece rest _ _ ih
    exact ⟨fun hnil => absurd hnil (List.cons_ne_nil c cs), ih.2⟩
  · rintro _ c cs ⟨kind', tail, after⟩ kind rest hcut rfl ⟨hend, ih⟩
    refine ⟨fun hnil => absurd hnil (List.cons_ne_nil c cs), fun start' => ?_⟩
    have hend' : after = [] → linesBehind rest = [] := by
      intro hafter
      rw [hend hafter]
      rfl
    have hcut' := cut_breaks hcut (breaks_linesBehind rest) hend'
    -- In front of each token stands a line feed, and behind that it is read again.
    let first := start'.advance '\n'
    obtain ⟨tokens', htokens', hshifted⟩ := ih (first.advanceAll (c :: tail))
    have hread := tokensFrom_cut_ok hcut' first
    dsimp only at hread
    rw [htokens'] at hread
    refine ⟨⟨kind, String.ofList (c :: tail), ⟨first, first.advanceAll (c :: tail)⟩⟩ :: tokens',
      ?_, .cons ⟨rfl, rfl⟩ hshifted⟩
    rw [linesBehind, List.flatMap_cons, String.toList_ofList, List.cons_append, List.cons_append,
      tokensFrom_lineFeed]
    exact hread

theorem toList_lines (t : Token) (tokens : List Token)
    : ("\n".intercalate ((t :: tokens).map Token.text)).toList
        =
      t.text.toList ++ linesBehind tokens := by
  have hjoin := Text.join_cons ['\n'] t.text.toList (tokens.map fun t => t.text.toList)
  rw [List.flatMap_map] at hjoin
  rw [String.toList_intercalate, List.map_map]
  exact hjoin

theorem map_eq_of_shifted {tokens tokens' : List Token} (h : List.Forall₂ Shifted tokens tokens')
    : tokens'.map (fun t => (t.kind, t.text)) = tokens.map fun t => (t.kind, t.text) := by
  induction h with
  | nil => rfl
  | cons hshifted _ ih => rw [List.map_cons, List.map_cons, ih, hshifted.1, hshifted.2]

end Lexer

/--
The tokens of a text that are written one below the other have the same kinds and texts when they
are read again.
-/
theorem tokenize_lines {text : String} {tokens : List Token} (h : tokenize text = .ok tokens)
    : ∃ tokens', tokenize ("\n".intercalate (tokens.map Token.text)) = .ok tokens'
        ∧ tokens'.map (fun t => (t.kind, t.text)) = tokens.map fun t => (t.kind, t.text) := by
  cases tokens with
  | nil =>
    refine ⟨[], ?_, rfl⟩
    rw [tokenize, List.map_nil, String.intercalate_nil]
    exact Lexer.tokensFrom.eq_1 _
  | cons t tokens =>
    obtain ⟨lines, hlines, hshifted⟩ := Lexer.tokensFrom_linesBehind h {}
    rw [Lexer.linesBehind, List.flatMap_cons, List.cons_append, Lexer.tokensFrom_lineFeed] at hlines
    obtain ⟨tokens', htokens', hshifted'⟩ := Lexer.tokensFrom_shifted hlines {}
    refine ⟨tokens', ?_, ?_⟩
    · rw [tokenize, Lexer.toList_lines]
      exact htokens'
    · rw [Lexer.map_eq_of_shifted hshifted', Lexer.map_eq_of_shifted hshifted]

theorem tokenize_lines_close
    : let text := "x=1.5e-3+.5..f/***/'\\\\'::\"open\n->\"\\"
      let texts := ["x", "=", "1.5e-3", "+", ".5", ".", ".", "f", "/***/", "'\\\\'", "::", "\"open",
        "->", "\"\\"]
      ∃ tokens, tokenize text = .ok tokens ∧ tokens.map Token.text = texts
        ∧ ∃ tokens', tokenize ("\n".intercalate (tokens.map Token.text)) = .ok tokens'
          ∧ tokens'.map (fun t => (t.kind, t.text)) = tokens.map fun t => (t.kind, t.text) := by
  intro text texts
  have hcheck : (tokenize text).toOption.any fun tokens => tokens.map Token.text == texts := by
    decide +kernel
  obtain ⟨tokens, htokens, htexts⟩ := exists_tokenize_ok hcheck
  exact ⟨tokens, htokens, eq_of_beq htexts, tokenize_lines htokens⟩

end DeprecatedUse.Java
