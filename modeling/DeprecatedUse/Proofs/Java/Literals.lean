import DeprecatedUse.Proofs.Java.Cursor.Lexer
import DeprecatedUse.Proofs.Java.Reprinting

/-!
This module contains the lines of literals. A string or character literal ends at its closing quote
or in front of a line feed. A backslash takes the character behind it into the literal, whatever it
is: a line feed behind a backslash ends nothing, and what stands in the next line is part of the
literal. There is no other way for a literal to leave its line, unless it is a text block.
-/

namespace DeprecatedUse.Java

def escaped : List Char → List Char
  | '\\' :: c :: rest => c :: escaped rest
  | _ :: rest => escaped rest
  | [] => []

theorem escaped_cons {c : Char} (hc : c ≠ '\\') (cs : List Char)
    : escaped (c :: cs) = escaped cs := by
  rw [escaped]
  rintro d rest rfl rfl
  exact hc rfl

theorem escaped_sublist (cs : List Char) : (escaped cs).Sublist cs := by
  fun_induction escaped cs with
  | case1 c rest ih => exact (ih.cons_cons c).cons '\\'
  | case2 c rest _ ih => exact ih.cons c
  | case3 => exact List.Sublist.refl []

theorem isEscaped_cons {c : Char} (hc : c ≠ '\\') (cs : List Char)
    : isEscaped (c :: cs) = isEscaped cs := by
  rw [isEscaped, List.foldl_cons, beq_eq_false_iff_ne.2 hc]
  rfl

theorem isEscaped_backslash (c : Char) (cs : List Char)
    : isEscaped ('\\' :: c :: cs) = isEscaped cs := by
  rw [isEscaped, List.foldl_cons, List.foldl_cons]
  simp [isEscaped]

def ClosedBy (quote : Char) (cs : List Char) : Prop :=
  ∃ inside, cs = inside ++ [quote] ∧ isEscaped inside = false

theorem ClosedBy.cons {quote c : Char} {cs : List Char} (h : ClosedBy quote cs) (hc : c ≠ '\\')
    : ClosedBy quote (c :: cs) := by
  obtain ⟨inside, rfl, hinside⟩ := h
  exact ⟨c :: inside, rfl, (isEscaped_cons hc inside).trans hinside⟩

theorem ClosedBy.escape {quote : Char} {cs : List Char} (h : ClosedBy quote cs) (c : Char)
    : ClosedBy quote ('\\' :: c :: cs) := by
  obtain ⟨inside, rfl, hinside⟩ := h
  exact ⟨'\\' :: c :: inside, rfl, (isEscaped_backslash c inside).trans hinside⟩

structure Token.IsOrdinaryLiteral (t : Token) : Prop where
  literal : t.kind = .literal
  not_block : ¬ ['"', '"', '"'] <+: t.text.toList

def Token.IsUnclosed (t : Token) : Prop :=
  ∃ quote behind, (quote = '"' ∨ quote = '\'') ∧ t.text.toList = quote :: behind
    ∧ ¬ ClosedBy quote behind

namespace Lexer

theorem count_splitQuoted (quote : Char) (cs : List Char)
    : (splitQuoted quote cs).1.count '\n' = (escaped (splitQuoted quote cs).1).count '\n' := by
  fun_induction splitQuoted quote cs with
  | case1 => rfl
  | case2 => rfl
  | case3 c cs taken rest hsplit ih =>
    rw [hsplit] at ih
    dsimp only at ih ⊢
    rw [escaped, List.count_cons_of_ne (by decide), List.count_cons, List.count_cons, ih]
  | case4 cs => rfl
  | case5 cs hlast hescape hline =>
    rw [escaped_cons (Cursor.ne_backslash hlast hescape), List.count_cons_of_ne hline]
    rfl
  | case6 c cs hlast hescape hline hquote taken rest hsplit ih =>
    rw [hsplit] at ih
    dsimp only at ih ⊢
    rw [escaped_cons (Cursor.ne_backslash hlast hescape), List.count_cons_of_ne hline, ih]

theorem breaks_splitQuoted {quote : Char} {cs : List Char}
    (h : ¬ ClosedBy quote (splitQuoted quote cs).1) : Breaks (splitQuoted quote cs).2 := by
  fun_induction splitQuoted quote cs with
  | case1 => trivial
  | case2 => trivial
  | case3 c cs taken rest hsplit ih =>
    rw [hsplit] at ih
    exact ih (mt (·.escape c) h)
  | case4 cs => rfl
  | case5 cs hlast hescape hline => exact absurd ⟨[], rfl, rfl⟩ h
  | case6 c cs hlast hescape hline hquote taken rest hsplit ih =>
    rw [hsplit] at ih
    exact ih (mt (·.cons (Cursor.ne_backslash hlast hescape)) h)

theorem lineFeed_not_mem_splitNumber (last : Char) (cs : List Char)
    : '\n' ∉ (splitNumber last cs).1 := by
  fun_induction splitNumber last cs with
  | case1 last => exact List.not_mem_nil
  | case2 last c cs hpart taken rest hsplit ih =>
    rw [hsplit] at ih
    rw [List.mem_cons, not_or]
    refine ⟨?_, ih⟩
    rintro rfl
    cases hpart
  | case3 last c cs hpart => exact List.not_mem_nil

theorem cutOther_literal {c : Char} {cs tail rest : List Char}
    (h : cutOther c cs = ⟨some .literal, tail, rest⟩)
    : (c ≠ '"' ∧ c ≠ '\'' ∧ '\n' ∉ c :: tail)
        ∨ ((c = '"' ∨ c = '\'') ∧ splitQuoted c cs = (tail, rest)) := by
  rw [cutOther] at h
  split at h
  · cases h
  · split at h
    · cases h
    · split at h
      · next hnumber =>
        rw [Piece.mk.injEq] at h
        obtain ⟨-, rfl, -⟩ := h
        have hne : ∀ {d : Char}, d.isDigit = false → d ≠ '.' → c ≠ d := by
          rintro d hdigit hdot rfl
          rw [hdigit, beq_eq_false_iff_ne.2 hdot] at hnumber
          cases hnumber
        refine .inl ⟨hne (by decide) (by decide), hne (by decide) (by decide), ?_⟩
        rw [List.mem_cons, not_or]
        exact ⟨(hne (by decide) (by decide)).symm, lineFeed_not_mem_splitNumber c cs⟩
      · split at h
        · next hquote =>
          rw [Piece.mk.injEq] at h
          rw [Bool.or_eq_true, beq_iff_eq, beq_iff_eq] at hquote
          exact .inr ⟨hquote, Prod.ext h.2.1 h.2.2⟩
        · cases h

theorem cutComment_ne_literal {cs tail rest : List Char}
    : cutComment cs ≠ .ok ⟨some .literal, tail, rest⟩ := by
  intro h
  obtain hkind | hkind := cutComment_kind h
  · cases hkind
  · cases hkind

theorem cut_literal {c : Char} {cs tail rest : List Char}
    (h : cut c cs = .ok ⟨some .literal, tail, rest⟩) (hblock : ¬ ['"', '"', '"'] <+: c :: tail)
    : cutOther c cs = ⟨some .literal, tail, rest⟩ := by
  rw [cut_eq] at h
  split at h
  · cases h
  · split at h
    · exact absurd h cutComment_ne_literal
    · split at h
      · next htext =>
        rw [htext.1, List.cons_prefix_cons] at hblock
        exact absurd ⟨rfl, cutTextBlock_tail h⟩ hblock
      · split at h
        · cases h
        · split at h
          · cases h
          · split at h
            · cases h
            · exact Except.ok.inj h

structure CutAt (text : List Char) (t : Token) (front : List Char) (c : Char)
    (tail rest : List Char) : Prop where
  text_eq : text = front ++ t.text.toList ++ rest
  chars : t.text.toList = c :: tail
  span : t.span = ⟨.behind front, .behind (front ++ t.text.toList)⟩
  cut : cut c (tail ++ rest) = .ok ⟨some t.kind, tail, rest⟩

theorem exists_cutAt {text : List Char} {tokens : List Token} (h : tokensFrom {} text = .ok tokens)
    {t : Token} (ht : t ∈ tokens) : ∃ front c tail rest, CutAt text t front c tail rest := by
  -- the induction moves along the text, so what has been read varies
  suffices hall : ∀ before, Position.behind [] = .behind before →
      ∀ t ∈ tokens, ∃ front c tail rest, CutAt (before ++ text) t front c tail rest from
    hall [] rfl t ht
  refine tokensFrom_induction (motive := fun start cs tokens =>
    ∀ before, start = .behind before →
      ∀ t ∈ tokens, ∃ front c tail rest, CutAt (before ++ cs) t front c tail rest)
    ?_ ?_ ?_ (.behind []) text tokens h
  · intro start before _ t ht
    cases ht
  · rintro _ c cs piece rest hcut _ ih before rfl t ht
    rw [Position.advanceAll_behind] at ih
    rw [← cut_append hcut, ← List.cons_append, ← List.append_assoc]
    exact ih _ rfl t ht
  · rintro _ c cs piece kind rest hcut hkind ih before rfl t ht
    rw [Position.advanceAll_behind] at *
    rw [← cut_append hcut, ← List.cons_append, ← List.append_assoc]
    obtain rfl | ht := List.mem_cons.1 ht
    · refine ⟨before, c, piece.tail, piece.rest, ?_⟩
      rw [← cut_append hcut] at hcut
      exact
        { text_eq := by rw [String.toList_ofList]
          chars := String.toList_ofList
          span := by rw [String.toList_ofList]
          cut := by rw [hcut, ← hkind] }
    · exact ih _ rfl t ht

end Lexer

/--
A literal that is no text block and has no closing quote ends in front of the first line feed that
its backslashes do not take with them, or where the text ends. In a text whose positions fit into
thirty-two bits, such a literal spans as many lines more than one as its backslashes take line feeds
with them, whether it is closed or not. So it stays on its line exactly if they take none.
-/
theorem ordinaryLiteral_lines {text : String} {tokens : List Token}
    (h : tokenize text = .ok tokens) {t : Token} (ht : t ∈ tokens) (hliteral : t.IsOrdinaryLiteral)
    : ∃ front rest, text.toList = front ++ t.text.toList ++ rest
        ∧ (t.IsUnclosed → Lexer.Breaks rest)
        ∧ (Cursor.units16 text.toList < 2 ^ 32 → Cursor.tokenize text = pure (.ok tokens)
          ∧ t.span = ⟨.behind front, .behind (front ++ t.text.toList)⟩
          ∧ t.span.stop.line = t.span.start.line + (escaped t.text.toList).count '\n'
          ∧ (t.span.start.line = t.span.stop.line ↔ '\n' ∉ escaped t.text.toList)) := by
  obtain ⟨front, c, tail, rest, hat⟩ := Lexer.exists_cutAt h ht
  have hcut := hat.cut
  have hblock := hliteral.not_block
  rw [hliteral.literal] at hcut
  rw [hat.chars] at hblock
  have hpiece := Lexer.cutOther_literal (Lexer.cut_literal hcut hblock)
  -- A number holds no line feed, and what is quoted holds only those that are escaped.
  have hcount : (c :: tail).count '\n' = (escaped (c :: tail)).count '\n' := by
    obtain ⟨-, -, hline⟩ | ⟨hquote, hsplit⟩ := hpiece
    · rw [List.count_eq_zero.2 hline, eq_comm, List.count_eq_zero]
      exact mt (escaped_sublist _).mem hline
    · have htail := Lexer.count_splitQuoted c (tail ++ rest)
      rw [hsplit] at htail
      have hne : c ≠ '\\' ∧ c ≠ '\n' := by
        obtain rfl | rfl := hquote <;> decide
      rw [escaped_cons hne.1, List.count_cons_of_ne hne.2]
      exact htail
  have hlines : t.span.stop.line = t.span.start.line + (escaped t.text.toList).count '\n' := by
    rw [hat.span, hat.chars, ← hcount]
    exact List.count_append
  refine ⟨front, rest, hat.text_eq, ?_, ?_⟩
  · rintro ⟨quote, behind, hquote, hchars, hopen⟩
    rw [hat.chars, List.cons.injEq] at hchars
    obtain ⟨rfl, rfl⟩ := hchars
    obtain ⟨hdouble, hsingle, -⟩ | ⟨-, hsplit⟩ := hpiece
    · exact absurd hquote (not_or.2 ⟨hdouble, hsingle⟩)
    · have hbreaks : ¬ ClosedBy c (Lexer.splitQuoted c (tail ++ rest)).1
          → Lexer.Breaks (Lexer.splitQuoted c (tail ++ rest)).2 := Lexer.breaks_splitQuoted
      rw [hsplit] at hbreaks
      exact hbreaks hopen
  · intro hfits
    refine ⟨?_, hat.span, hlines, ?_⟩
    · rw [Cursor.tokenize_run hfits, h]
    · rw [hlines, ← List.count_eq_zero]
      omega

theorem ordinaryLiteral_lines_two
    : let text := "x = 'a\\'\\\n\\\\b\ny = \"\";"
      let t : Token := ⟨.literal, "'a\\'\\\n\\\\b", ⟨⟨0, 4⟩, ⟨1, 3⟩⟩⟩
      ∃ tokens, Cursor.tokenize text = pure (.ok tokens) ∧ t ∈ tokens ∧ t.IsOrdinaryLiteral
        ∧ t.span.stop.line = t.span.start.line + (escaped t.text.toList).count '\n'
        ∧ ∃ front rest, text.toList = front ++ t.text.toList ++ rest
          ∧ (t.IsUnclosed → Lexer.Breaks rest) := by
  intro text t
  have hcheck : (tokenize text).toOption.any fun tokens => tokens.contains t := by
    decide +kernel
  obtain ⟨tokens, htokens, ht⟩ := exists_tokenize_ok hcheck
  have ht : t ∈ tokens := List.contains_iff_mem.1 ht
  have hliteral : t.IsOrdinaryLiteral := ⟨rfl, by decide +kernel⟩
  obtain ⟨front, rest, htext, hbreaks, hplaced⟩ := ordinaryLiteral_lines htokens ht hliteral
  obtain ⟨hrun, -, hlines, -⟩ := hplaced (by decide)
  exact ⟨tokens, hrun, ht, hliteral, hlines, front, rest, htext, hbreaks⟩

/--
The backslash at the end of the first line takes the line feed with it, and with it the next line.
-/
theorem ordinaryLiteral_leaves_line
    : ∃ tokens t, tokenize "s = \"open\\\nx.y();" = .ok tokens ∧ t ∈ tokens ∧ t.IsOrdinaryLiteral
        ∧ t.span.start.line ≠ t.span.stop.line := by
  let t : Token := ⟨.literal, "\"open\\\nx.y();", ⟨⟨0, 4⟩, ⟨1, 6⟩⟩⟩
  have hcheck : (tokenize "s = \"open\\\nx.y();").toOption.any fun tokens => tokens.contains t := by
    decide +kernel
  obtain ⟨tokens, htokens, ht⟩ := exists_tokenize_ok hcheck
  exact ⟨tokens, t, htokens, List.contains_iff_mem.1 ht, ⟨rfl, by decide +kernel⟩, by decide⟩

end DeprecatedUse.Java
