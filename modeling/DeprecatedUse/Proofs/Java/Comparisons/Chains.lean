import DeprecatedUse.Proofs.Java.Searching

/-!
This module contains the search of chains of names: the use at each dot is found, on the names
before it. Where a type is read, a chain is read as the name of one.
-/

namespace DeprecatedUse.Java.Access

theorem exists_of_starts {p : Token → Bool} {tokens : List Token} (h : starts p tokens = true)
    : ∃ t rest, tokens = t :: rest ∧ p t = true := by
  cases tokens with
  | nil => cases h
  | cons t rest => exact ⟨t, rest, rfl, h⟩

inductive Dotted where
  | name (name : Token) (hname : isPlain name = true)
  | field (owner : Dotted) (dot name : Token) (hdot : dot.isPunct "." = true)
    (hname : isPlain name = true)

namespace Dotted

def first : Dotted → Token
  | name n _ => n
  | field owner _ _ _ _ => owner.first

def more : Dotted → List Token
  | name _ _ => []
  | field owner dot n _ _ => owner.more ++ [dot, n]

def tokens (c : Dotted) : List Token :=
  c.first :: c.more

def names : Dotted → List Token
  | name n _ => [n]
  | field owner _ n _ _ => owner.names ++ [n]

def dots : Dotted → Nat
  | name _ _ => 0
  | field owner _ _ _ _ => owner.dots + 1

def uses (env : Surroundings) (s : State) : Dotted → List Access
  | name _ _ => []
  | field owner _ n _ _ =>
    let receiver := receiverOfNames (owner.names.map Token.text)
    owner.uses env s ++
      [{ receiver := receiver
         receiverType := receiverType? env s receiver
         member := n.text
         kind := .field
         span := ⟨owner.first.span.start, n.span.stop⟩ }]

theorem isPlain_first (c : Dotted) : isPlain c.first = true := by
  induction c with
  | name n hname => exact hname
  | field owner dot n hdot hname ih => exact ih

theorem more_of_dots {c : Dotted} (h : c.dots = 0) : c.more = [] := by
  cases c with
  | name => rfl
  | field => cases h

theorem more_field (owner : Dotted) {dot n : Token} (hdot : dot.isPunct "." = true)
    (hname : isPlain n = true) (rest : List Token)
    : (field owner dot n hdot hname).more ++ rest = owner.more ++ dot :: n :: rest := by
  rw [more, List.append_assoc]
  rfl

theorem starts_more (c : Dotted) (rest : List Token) (h : c.dots ≠ 0)
    : starts (·.isPunct ".") (c.more ++ rest) = true := by
  induction c generalizing rest with
  | name => exact absurd rfl h
  | field owner dot n hdot hname ih =>
    rw [more_field]
    by_cases howner : owner.dots = 0
    · rw [more_of_dots howner]
      exact hdot
    · exact ih _ howner

theorem starts_more_eq_false (c : Dotted) {p : Token → Bool} {t : Token} (ht : p t = false)
    (hdot : ∀ u, u.isPunct "." = true → p u = false) (rest : List Token)
    : starts p (c.more ++ t :: rest) = false := by
  by_cases hdots : c.dots = 0
  · rw [more_of_dots hdots]
    exact ht
  · obtain ⟨u, rest', hmore, hu⟩ := exists_of_starts (c.starts_more (t :: rest) hdots)
    rw [hmore]
    exact hdot u hu

theorem tokens_field (owner : Dotted) {dot n : Token} (hdot : dot.isPunct "." = true)
    (hname : isPlain n = true)
    : (field owner dot n hdot hname).tokens = owner.tokens ++ [dot, n] :=
  rfl

theorem mem_tokens {c : Dotted} {t : Token} (h : t ∈ c.tokens)
    : t.isIdent = true ∨ t.isPunct "." = true := by
  induction c with
  | name n hname =>
    rw [List.mem_singleton.1 h]
    exact .inl (isIdent_of_isPlain hname)
  | field owner dot n hdot hname ih =>
    rw [tokens_field, List.mem_append] at h
    rcases h with h | h
    · exact ih h
    · rcases List.mem_pair.1 h with rfl | rfl
      · exact .inr hdot
      · exact .inl (isIdent_of_isPlain hname)

theorem names_head (c : Dotted) : c.names.head? = some c.first := by
  induction c with
  | name => rfl
  | field owner dot n hdot hname ih => rw [names, List.head?_append, ih, first, Option.some_or]

theorem chain_tokens (c : Dotted) (outer : List Token)
    (h : starts (·.isPunct ".") outer = false)
    : ∃ last before, c.tokens.reverse ++ outer = last :: before ∧ last.isIdent = true
        ∧ ∀ names, chain (last :: names) before = (c.names ++ names, outer) := by
  induction c with
  | name n hname =>
    refine ⟨n, outer, rfl, isIdent_of_isPlain hname, ?_⟩
    intro names
    match outer with
    | [] => rfl
    | [t] => rfl
    | t :: t' :: outer =>
      rw [starts] at h
      rw [chain, h, Bool.false_and, if_neg Bool.false_ne_true]
      rfl
  | field owner dot n hdot hname ih =>
    obtain ⟨last, before, htokens, hlast, hchain⟩ := ih
    refine ⟨n, dot :: last :: before, ?_, isIdent_of_isPlain hname, ?_⟩
    · rw [tokens_field, List.reverse_append, List.append_assoc, htokens]
      rfl
    · intro names
      rw [chain, hdot, hlast, Bool.true_and, if_pos rfl, hchain, Dotted.names, List.append_assoc,
        List.singleton_append]

theorem receiver?_tokens (c : Dotted) {t : Token} {mark : String} {outer : List Token}
    (ht : t.isPunct mark = true) (hmark : mark ∉ [".", "::"])
    : receiver? (c.tokens.reverse ++ t :: outer)
        =
      some (receiverOfNames (c.names.map Token.text), c.first.span.start) := by
  have hdot : t.isPunct "." = false := by
    rw [Token.isPunct_of_isPunct ht, beq_eq_false_iff_ne]
    rintro rfl
    exact hmark (by decide)
  have hdots : t.isPunctOf [".", "::"] = false := by
    rw [Token.isPunctOf_of_isPunct ht, Bool.eq_false_iff, ne_eq, List.contains_iff_mem]
    exact hmark
  obtain ⟨last, before, htokens, hlast, hchain⟩ := c.chain_tokens (t :: outer) hdot
  have hhead : c.names.headD last = c.first := by
    rw [List.headD_eq_head?_getD, names_head, Option.getD_some]
  rw [htokens, receiver?, if_pos hlast, hchain, List.append_nil]
  simp only [starts, Token.isWord_of_isPunct ht, hdots, Bool.false_eq_true, if_false, hhead]

theorem access?_dot (env : Surroundings) (s : State) (c : Dotted) {t dot n : Token} {mark : String}
    {outer rest : List Token} (ht : t.isPunct mark = true) (hmark : mark ∉ [".", "::"])
    (hdot : dot.isPunct "." = true) (hname : isPlain n = true)
    (hrest : starts (·.isPunct "(") rest = false)
    : (access? env s (c.tokens.reverse ++ t :: outer) dot (n :: rest)).toList
        =
      [{ receiver := receiverOfNames (c.names.map Token.text)
         receiverType := receiverType? env s (receiverOfNames (c.names.map Token.text))
         member := n.text
         kind := .field
         span := ⟨c.first.span.start, n.span.stop⟩ }] := by
  have hident := isIdent_of_isPlain hname
  have hmember : noMemberWords.contains n.text = false := by
    rw [isPlain, Bool.and_eq_true, Bool.not_eq_true', Bool.eq_false_iff, ne_eq,
      List.contains_iff_mem] at hname
    rw [Bool.eq_false_iff, ne_eq, List.contains_iff_mem]
    intro hmem
    exact hname.2 ((by decide : noMemberWords ⊆ reservedWords) hmem)
  have hangle : ¬ n.isPunct Bracket.angle.opening = true := by
    rw [Cursor.isPunct_of_isIdent hident]
    exact Bool.false_ne_true
  rw [access?, Token.isPunctOf_of_isPunct hdot, if_pos (by decide), Cursor.group?_other hangle]
  dsimp only
  rw [hident, hmember, Bool.not_false, Bool.and_true, if_pos rfl,
    c.receiver?_tokens ht hmark, Token.isPunct_of_isPunct hdot, hrest]
  rfl

end Dotted

theorem isStatementStart_mark {t : Token} {mark : String} {before : List Token}
    (ht : t.isPunct mark = true) (hmark : mark ∉ [";", "\x7b", "\x7d", "(", ",", ":"])
    : isStatementStart (t :: before) = false := by
  rw [isStatementStart, Token.isPunctOf_of_isPunct ht, Bool.eq_false_iff, ne_eq,
    List.contains_iff_mem]
  exact hmark

theorem access?_other (env : Surroundings) (s : State) (before : List Token) {t : Token}
    (rest : List Token) (ht : t.isPunctOf [".", "::"] = false)
    : access? env s before t rest = none := by
  rw [access?, ht, if_neg Bool.false_ne_true]

theorem searches_mark (env : Surroundings) {s : State} {before : List Token} {t : Token}
    {rest : List Token} {mark : String} (ht : t.isPunct mark = true)
    (hmark : mark ∈ ["(", "<", "&", ">"]) (hmarked : Moment.Marked ⟨s, before, t :: rest⟩)
    : Searches env ⟨s, before, t :: rest⟩ [] ⟨s, t :: before, rest⟩ := by
  have hother : ∀ marks, (∀ m ∈ ["(", "<", "&", ">"], m ∉ marks)
      → mark ∉ marks ∧ t.isPunctOf marks = false := by
    intro marks hmarks
    rw [Token.isPunctOf_of_isPunct ht, Bool.eq_false_iff, ne_eq, List.contains_iff_mem]
    exact ⟨hmarks _ hmark, hmarks _ hmark⟩
  have h := searches_single env hmarked (hother _ (by decide)).2
    (step_of_isPunct ht (hother _ (by decide)).1)
  rw [access?_other env s before rest (hother _ (by decide)).2] at h
  exact h

namespace Dotted

theorem searches_more (env : Surroundings) {s : State} (c : Dotted) {t : Token} {mark : String}
    {outer rest : List Token} (ht : t.isPunct mark = true) (hmark : mark ∉ [".", "::"])
    (hrest : starts (·.isPunct "(") rest = false)
    (hmarked : Moment.Marked ⟨s, c.first :: t :: outer, c.more ++ rest⟩)
    : Searches env ⟨s, c.first :: t :: outer, c.more ++ rest⟩ (c.uses env s)
        ⟨s, c.tokens.reverse ++ t :: outer, rest⟩ := by
  induction c generalizing rest with
  | name n hname => exact .refl _
  | field owner dot n hdot hname ih =>
    have hident := isIdent_of_isPlain hname
    rw [more_field] at hmarked ⊢
    have howner := ih (by rw [starts, Token.isPunct_of_isPunct hdot]; rfl) hmarked
    have hatDot := howner.marked hmarked
    have hdotEnd : endsExpression dot = false := by
      rw [endsExpression, Token.isPunctOf_of_isPunct hdot]
      rfl
    have hnameEnd : endsExpression n = false := Token.isPunctOf_of_isIdent hident _
    have hdotStep := searches_single env hatDot hdotEnd
      (step_of_isPunct hdot (by decide))
    have hatName := hdotStep.marked hatDot
    have hnameStep := searches_single env hatName hnameEnd
      (step_inside (Token.isPunctOf_of_isIdent hident _) (isWord_of_isPlain hname (by decide))
        (isStatementStart_mark hdot (by decide)))
    rw [access?_other env s _ _ (Token.isPunctOf_of_isIdent hident _)] at hnameStep
    rw [owner.access?_dot env s ht hmark hdot hname hrest] at hdotStep
    have h := (howner.trans hdotStep).trans hnameStep
    rw [Option.toList_none, List.append_nil] at h
    rw [tokens_field, List.reverse_append, List.append_assoc]
    exact h

theorem searches_tokens (env : Surroundings) {s : State} (c : Dotted) {t : Token} {mark : String}
    {outer rest : List Token} (ht : t.isPunct mark = true)
    (hmark : mark ∉ [".", "::", ";", "\x7b", "\x7d", "(", ",", ":"])
    (hrest : starts (·.isPunct "(") rest = false)
    (hmarked : Moment.Marked ⟨s, t :: outer, c.tokens ++ rest⟩)
    : Searches env ⟨s, t :: outer, c.tokens ++ rest⟩ (c.uses env s)
        ⟨s, c.tokens.reverse ++ t :: outer, rest⟩ := by
  have hident := isIdent_of_isPlain c.isPlain_first
  have hfirst := searches_single env hmarked (Token.isPunctOf_of_isIdent hident _)
    (step_inside (Token.isPunctOf_of_isIdent hident _)
      (isWord_of_isPlain c.isPlain_first (by decide))
      (isStatementStart_mark ht fun h => hmark (by simp_all)))
  have hmore := c.searches_more env ht (fun h => hmark (by simp_all)) hrest (hfirst.marked hmarked)
  rw [access?_other env s _ _ (Token.isPunctOf_of_isIdent hident _)] at hfirst
  exact hfirst.trans hmore

/-! Chains in types. -/

theorem splitDotted_more (c : Dotted) (rest : List Token)
    : splitDotted (c.more ++ rest) = (c.more ++ (splitDotted rest).1, (splitDotted rest).2) := by
  induction c generalizing rest with
  | name => rfl
  | field owner dot n hdot hname ih =>
    rw [more_field, more_field, ih, splitDotted, hdot, isIdent_of_isPlain hname, Bool.and_self,
      if_pos rfl]

end Dotted

theorem splitArgumentsFrom?_inner {inner : List Token}
    (h : ∀ t ∈ inner, t.isIdent = true ∨ t.isPunctOf [".", ",", "?", "&", "[", "]", "@"] = true)
    (depth : Nat) (rest : List Token)
    : splitArgumentsFrom? depth (inner ++ rest)
        =
      (splitArgumentsFrom? depth rest).map fun split => (inner ++ split.1, split.2) := by
  induction inner with
  | nil => cases hsplit : splitArgumentsFrom? depth rest <;> simp [hsplit]
  | cons t inner ih =>
    have hangle : ∀ mark ∈ ["<", ">"], t.isPunct mark = false := by
      intro mark hmem
      rw [Bool.eq_false_iff]
      intro ht
      rcases h t List.mem_cons_self with hpart | hpart
      · rw [Token.isIdent_of_isPunct ht] at hpart
        cases hpart
      · rw [Token.isPunctOf_of_isPunct ht, List.contains_iff_mem] at hpart
        exact (by decide : ∀ m ∈ ["<", ">"], m ∉ [".", ",", "?", "&", "[", "]", "@"]) _ hmem hpart
    rw [List.cons_append, splitArgumentsFrom?, hangle "<" (by decide), hangle ">" (by decide),
      if_neg Bool.false_ne_true, if_neg Bool.false_ne_true,
      if_pos (by rw [Bool.or_eq_true]; exact h t List.mem_cons_self),
      ih fun t' ht' => h t' (List.mem_cons_of_mem _ ht'), Option.map_map]
    rfl

theorem splitDotted_of_starts {tokens : List Token} (h : starts (·.isPunct ".") tokens = false)
    : splitDotted tokens = ([], tokens) := by
  match tokens with
  | [] => rfl
  | [t] => rfl
  | t :: t' :: tokens =>
    rw [starts] at h
    rw [splitDotted, h, Bool.false_and, if_neg Bool.false_ne_true]

theorem splitDims_of_starts {tokens : List Token} (h : starts (·.isPunct "[") tokens = false)
    : splitDims tokens = ([], tokens) := by
  match tokens with
  | [] => rfl
  | [t] => rfl
  | t :: t' :: tokens =>
    rw [starts] at h
    rw [splitDims, h, Bool.false_and, if_neg Bool.false_ne_true]

end DeprecatedUse.Java.Access
