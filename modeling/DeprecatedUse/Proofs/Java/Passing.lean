import DeprecatedUse.Proofs.Java.Nesting
import DeprecatedUse.Proofs.Java.Reading

/-!
This module contains what the parts of the reader of declarations take from a text with nested
brackets. Names, annotations, headers and members are taken with braces in whole pairs.
-/

namespace DeprecatedUse.Java

namespace Token

theorem isBrace_eq (t : Token) : t.isBrace = (t.isPunct "\x7b" || t.isPunct "\x7d") := by
  simp only [isBrace, isPunctOf, isPunct, List.contains_cons, List.contains_nil, Bool.or_false,
    Bool.and_or_distrib_left]

theorem isBrace_iff {t : Token}
    : t.isBrace = true ↔ t.kind = .punct ∧ (t.text = "\x7b" ∨ t.text = "\x7d") := by
  rw [isBrace_eq, Bool.or_eq_true, isPunct_iff, isPunct_iff, and_or_left]

theorem isPunctOf_cons (t : Token) (mark : String) (marks : List String)
    : t.isPunctOf (mark :: marks) = (t.isPunct mark || t.isPunctOf marks) := by
  simp only [isPunctOf, isPunct, List.contains_cons, Bool.and_or_distrib_left]

theorem isBrace_of_isPunctOf {t : Token} {marks : List String} (h : t.isPunctOf marks = true)
    (hopening : "\x7b" ∉ marks) (hclosing : "\x7d" ∉ marks) : t.isBrace = false := by
  unfold isPunctOf at h
  rw [Bool.and_eq_true, List.contains_iff_mem] at h
  rw [Bool.eq_false_iff, isBrace_eq, ne_eq, Bool.or_eq_true, isPunct_iff, isPunct_iff]
  rintro (⟨-, htext⟩ | ⟨-, htext⟩)
  · rw [htext] at h
    exact hopening h.2
  · rw [htext] at h
    exact hclosing h.2

theorem isBrace_of_isIdent {t : Token} (h : t.isIdent = true) : t.isBrace = false := by
  unfold isIdent at h
  unfold isBrace isPunctOf
  rw [eq_of_beq h]
  rfl

theorem isIdent_of_isWordOf {t : Token} {words : List String} (h : t.isWordOf words = true)
    : t.isIdent = true := by
  unfold isWordOf at h
  rw [Bool.and_eq_true] at h
  exact h.1

theorem isIdent_of_isWord {t : Token} {word : String} (h : t.isWord word = true)
    : t.isIdent = true := by
  unfold isWord at h
  rw [Bool.and_eq_true] at h
  exact h.1

theorem isBrace_of_isPunct {t : Token} {mark : String} (h : t.isPunct mark = true)
    : t.isBrace = ["\x7b", "\x7d"].contains mark := by
  rw [isPunct_iff] at h
  unfold isBrace isPunctOf
  rw [h.1, h.2]
  rfl

end Token

namespace Reader

theorem isBrace_of_dotted {t : Token} {p : Bool} (h : (t.isIdent || (p && t.isPunct "*")) = true)
    : t.isBrace = false := by
  rw [Bool.or_eq_true, Bool.and_eq_true] at h
  rcases h with h | ⟨-, h⟩
  · exact Token.isBrace_of_isIdent h
  · exact Token.isBrace_of_isPunct h

theorem dottedName_passes (name : String) (tokens : List Token)
    : Passes tokens (dottedName name tokens).2 := by
  fun_induction dottedName name tokens with
  | case1 => exact Passes.refl _
  | case2 name t ht dot next more hdot ih =>
    rw [Bool.and_eq_true] at hdot
    exact (ih.cons (Token.isBrace_of_isPunct hdot.1)).cons (isBrace_of_dotted ht)
  | case3 name t ht => exact Passes.skip (isBrace_of_dotted ht) _
  | case4 name t ht rest => exact Passes.skip (isBrace_of_dotted ht) _
  | case5 => exact Passes.refl _

theorem round_mem_nesting : Bracket.round ∈ Bracket.nesting := by
  simp [Bracket.nesting]

theorem curly_mem_nesting : Bracket.curly ∈ Bracket.nesting := by
  simp [Bracket.nesting]

theorem annotation_passes {t : Token} {rest : List Token} (h : Closes (t :: rest))
    (hsign : t.isPunct "@" = true)
    : Passes (t :: rest) (Bracket.round.group? (dottedName "" rest).2).2 := by
  have hname := dottedName_passes "" rest
  have hrest := (h.suffix (List.suffix_cons t rest)).suffix hname.suffix
  have hgroup := hname.trans (Bracket.group?_passes round_mem_nesting hrest)
  exact hgroup.cons (Token.isBrace_of_isPunct hsign)

theorem modifiers_passes (m : Modifiers) {tokens : List Token} (h : Closes tokens)
    : Passes tokens (modifiers m tokens).2 := by
  fun_induction modifiers m tokens with
  | case1 => exact Passes.refl _
  | case2 m t rest hdoc ih =>
    have hbrace : t.isBrace = false := by
      unfold Token.isBrace Token.isPunctOf
      rw [eq_of_beq hdoc]
      rfl
    exact (ih (h.suffix (List.suffix_cons t rest))).cons hbrace
  | case3 m t rest _ hword ih =>
    exact (ih (h.suffix (List.suffix_cons t rest))).cons
      (Token.isBrace_of_isIdent (Token.isIdent_of_isWordOf hword))
  | case4 m t rest _ _ hsign name arguments _ ih =>
    rw [Bool.and_eq_true] at hsign
    have hsigned := annotation_passes h hsign.1
    exact hsigned.trans (ih (h.suffix hsigned.suffix))
  | case5 => exact Passes.refl _

theorem dropAnnotations_passes {tokens : List Token} (h : Closes tokens)
    : Passes tokens (dropAnnotations tokens) := by
  fun_induction dropAnnotations tokens with
  | case1 => exact Passes.refl _
  | case2 t rest hsign ih =>
    rw [Bool.and_eq_true] at hsign
    have hsigned := annotation_passes h hsign.1
    exact hsigned.trans (ih (h.suffix hsigned.suffix))
  | case3 => exact Passes.refl _

/-! Headers. -/

/--
Every angle bracket that is opened in the header from `start` up to `stop` is closed, and between
the two braces stand only in whole pairs.
-/
def AnglesBalanced (start stop : List Token) : Prop :=
  ∀ t rest, t :: rest <:+ start → stop <:+ rest → t.isPunct "<" = true →
    ∃ inner after, Bracket.angle.close? 0 rest = some (inner, after) ∧ Whole inner

theorem AnglesBalanced.suffix {start stop rest : List Token} (h : AnglesBalanced start stop)
    (hrest : rest <:+ start) : AnglesBalanced rest stop := by
  intro t after hafter
  exact h t after (hafter.trans hrest)

theorem anglesBalanced_cons {t : Token} {rest stop : List Token}
    : AnglesBalanced (t :: rest) stop
        ↔
      (stop <:+ rest → t.isPunct "<" = true →
        ∃ group, group ∈ Bracket.angle.close? 0 rest ∧ Whole group.1)
        ∧ AnglesBalanced rest stop := by
  constructor
  · intro h
    refine ⟨?_, h.suffix (List.suffix_cons t rest)⟩
    intro hstop ht
    obtain ⟨inner, after, hclose, hinner⟩ := h t rest (List.suffix_refl _) hstop ht
    exact ⟨(inner, after), hclose, hinner⟩
  · rintro ⟨hfirst, hrest⟩ t' rest' hsuffix hstop ht
    rw [List.suffix_cons_iff] at hsuffix
    rcases hsuffix with heq | hsuffix
    · rw [List.cons.injEq] at heq
      obtain ⟨rfl, rfl⟩ := heq
      obtain ⟨⟨inner, after⟩, hclose, hinner⟩ := hfirst hstop ht
      exact ⟨inner, after, hclose, hinner⟩
    · exact hrest t' rest' hsuffix hstop ht

instance AnglesBalanced.decidable (stop : List Token)
    : (start : List Token) → Decidable (AnglesBalanced start stop)
  | [] => isTrue fun _ _ hsuffix => nomatch List.suffix_nil.1 hsuffix
  | _ :: rest =>
    have := AnglesBalanced.decidable stop rest
    decidable_of_iff _ anglesBalanced_cons.symm

theorem angle_passes {tokens stop : List Token} (h : AnglesBalanced tokens stop)
    (hstop : stop <:+ (Bracket.angle.group? tokens).2)
    : Passes tokens (Bracket.angle.group? tokens).2 := by
  cases tokens with
  | nil => exact Passes.refl _
  | cons t rest =>
    rw [Bracket.group?] at hstop ⊢
    split
    · next ht =>
      rw [if_pos ht] at hstop
      obtain ⟨inner, after, hclose, hinner⟩ := h t rest (List.suffix_refl _)
        (hstop.trans (Bracket.inside_suffix _ _)) ht
      obtain ⟨last, hlast, hrest⟩ := Bracket.close?_append hclose
      unfold Bracket.inside
      rw [hclose]
      refine ⟨t :: (inner ++ [last]), ?_, ?_⟩
      · rw [← hrest]
        simp
      · have hlast' : Whole [last] := Whole.nil.cons (Token.isBrace_of_isPunct hlast)
        exact (hinner.append hlast').cons (Token.isBrace_of_isPunct ht)
    · exact Passes.refl _

theorem supertype_passes {tokens stop : List Token} (hcloses : Closes tokens)
    (hangles : AnglesBalanced tokens stop)
    (hstop : stop <:+ (Bracket.angle.group? (dottedName "" (dropAnnotations tokens)).2).2)
    : Passes tokens (Bracket.angle.group? (dottedName "" (dropAnnotations tokens)).2).2 := by
  have hname := (dropAnnotations_passes hcloses).trans
    (dottedName_passes "" (dropAnnotations tokens))
  exact hname.trans (angle_passes (hangles.suffix hname.suffix) hstop)

theorem supertypeNames_passes {names : List String} {tokens stop : List Token}
    (hcloses : Closes tokens) (hangles : AnglesBalanced tokens stop)
    (hstop : stop <:+ (supertypeNames names tokens).2)
    : Passes tokens (supertypeNames names tokens).2 := by
  fun_induction supertypeNames names tokens with
  | case1 => exact dropAnnotations_passes hcloses
  | case2 names tokens _ _ _ _ hnil =>
    have hsupertype := supertype_passes hcloses hangles (by rw [hnil]; exact hstop)
    rw [hnil] at hsupertype
    exact hsupertype
  | case3 names tokens _ _ _ _ t rest hgroup _ hcomma ih =>
    have hstop' : stop <:+ t :: rest :=
      (hstop.trans (supertypeNames_suffix _ _)).trans (List.suffix_cons t rest)
    have hsupertype := supertype_passes hcloses hangles (by rw [hgroup]; exact hstop')
    rw [hgroup] at hsupertype
    have hrest := (List.suffix_cons t rest).trans hsupertype.suffix
    exact hsupertype.trans ((ih (hcloses.suffix hrest) (hangles.suffix hrest) hstop).cons
      (Token.isBrace_of_isPunct hcomma))
  | case4 names tokens _ _ _ _ t rest hgroup _ _ =>
    have hsupertype := supertype_passes hcloses hangles (by rw [hgroup]; exact hstop)
    rw [hgroup] at hsupertype
    exact hsupertype

theorem header_passes {names : List String} {tokens stop : List Token}
    (hcloses : Closes tokens) (hangles : AnglesBalanced tokens stop)
    (hstop : stop <:+ (header names tokens).2) : Passes tokens (header names tokens).2 := by
  fun_induction header names tokens with
  | case1 => exact Passes.refl _
  | case2 => exact Passes.refl _
  | case3 names t rest _ hword _ ih =>
    have hrest := hcloses.suffix (List.suffix_cons t rest)
    have hangles' := hangles.suffix (List.suffix_cons t rest)
    have hclause := supertypeNames_passes hrest hangles' (hstop.trans (header_suffix _ _))
    have hheader := ih (hrest.suffix hclause.suffix) (hangles'.suffix hclause.suffix) hstop
    exact (hclause.trans hheader).cons
      (Token.isBrace_of_isIdent (Token.isIdent_of_isWordOf hword))
  | case4 names t rest hends _ ih =>
    have hbrace : t.isBrace = false := by
      rw [Bool.eq_false_iff]
      intro hbrace
      exact hends (Token.isPunctOf_mono hbrace (by simp))
    have hrest := List.suffix_cons t rest
    exact (ih (hcloses.suffix hrest) (hangles.suffix hrest) hstop).cons hbrace

theorem typeHeader_passes {kind : TypeDecl.Kind} {tokens : List Token} (hcloses : Closes tokens)
    (hangles : AnglesBalanced tokens (typeHeader kind tokens).rest)
    : Passes tokens (typeHeader kind tokens).rest := by
  have hcloses' := hcloses.suffix (Bracket.group?_suffix Bracket.angle tokens)
  have hcomponents : Passes (Bracket.angle.group? tokens).2
      (if kind = .recordType then Bracket.round.group? (Bracket.angle.group? tokens).2
        else (none, (Bracket.angle.group? tokens).2)).2 := by
    split
    · exact Bracket.group?_passes round_mem_nesting hcloses'
    · exact Passes.refl _
  unfold typeHeader at hangles ⊢
  dsimp only at hangles ⊢
  generalize (if kind = .recordType then Bracket.round.group? (Bracket.angle.group? tokens).2
    else (none, (Bracket.angle.group? tokens).2)) = components at hangles hcomponents ⊢
  have hstop := header_suffix [] components.2
  have hangle := angle_passes hangles (hstop.trans hcomponents.suffix)
  have hstart := hangle.trans hcomponents
  exact hstart.trans (header_passes (hcloses.suffix hstart.suffix)
    (hangles.suffix hstart.suffix) (List.suffix_refl _))

/-! Members. -/

theorem methodBody_passes {tokens : List Token} (h : Closes tokens)
    : Passes tokens (methodBody tokens).2 := by
  fun_induction methodBody tokens with
  | case1 => exact Passes.refl _
  | case2 t rest ht => exact Bracket.inside_passes curly_mem_nesting ht h
  | case3 t rest _ ht => exact Passes.skip (Token.isBrace_of_isPunct ht) rest
  | case4 => exact Passes.refl _
  | case5 t rest hopening _ hclosing ih =>
    have hbrace : t.isBrace = false := by
      rw [Token.isBrace_eq, Bool.eq_false_iff.2 hopening, Bool.eq_false_iff.2 hclosing]
      rfl
    exact (ih (h.suffix (List.suffix_cons t rest))).cons hbrace

theorem dropWhile_isDimension_passes (tokens : List Token)
    : Passes tokens (tokens.dropWhile isDimension) := by
  induction tokens with
  | nil => exact Passes.refl _
  | cons t rest ih =>
    rw [List.dropWhile_cons]
    split
    · next ht => exact ih.cons (Token.isBrace_of_isPunctOf ht (by simp) (by simp))
    · exact Passes.refl _

theorem declarators_passes (owner : Nat) (field : Token → MemberDecl) (o : Outline)
    {tokens : List Token} (h : Closes tokens)
    : Passes tokens (declarators owner field o tokens).2 := by
  fun_induction declarators owner field o tokens with
  | case1 => exact Passes.refl _
  | case2 o t rest ht _ _ ih =>
    have hrest := h.suffix (List.suffix_cons t rest)
    have hexpression := splitExpression_passes hrest
    exact (hexpression.trans (ih (hrest.suffix hexpression.suffix))).cons
      (Token.isBrace_of_isPunct ht)
  | case3 o t _ ht => exact Passes.skip (Token.isBrace_of_isPunct ht) []
  | case4 o t _ ht name more hname ih =>
    have hmore := h.suffix ((List.suffix_cons name more).trans (List.suffix_cons t _))
    have hdimensions := dropWhile_isDimension_passes more
    exact ((hdimensions.trans (ih (hmore.suffix hdimensions.suffix))).cons
      (Token.isBrace_of_isIdent hname)).cons (Token.isBrace_of_isPunct ht)
  | case5 o t _ ht name more _ ih =>
    have hmore := h.suffix (List.suffix_cons t (name :: more))
    have hdimensions := dropWhile_isDimension_passes (name :: more)
    exact (hdimensions.trans (ih (hmore.suffix hdimensions.suffix))).cons
      (Token.isBrace_of_isPunct ht)
  | case6 o t rest _ _ ht => exact Passes.skip (Token.isBrace_of_isPunct ht) rest
  | case7 => exact Passes.refl _

theorem splitMember_cons {angle : Nat} {t : Token} {rest : List Token}
    (h : angle ≠ 0 ∨ t.isPunctOf ["(", "=", ";", ",", "\x7b", "\x7d"] = false)
    : splitMember angle (t :: rest)
        =
      (t :: (splitMember (if t.isPunct "<" then angle + 1 else
          if t.isPunct ">" then angle - 1 else angle) rest).1,
        (splitMember (if t.isPunct "<" then angle + 1 else
          if t.isPunct ">" then angle - 1 else angle) rest).2) := by
  have hnot :
      ¬ (decide (angle = 0) && t.isPunctOf ["(", "=", ";", ",", "\x7b", "\x7d"]) = true := by
    rw [Bool.and_eq_true, decide_eq_true_eq]
    rintro ⟨hangle, hmark⟩
    rcases h with h | h
    · exact h hangle
    · rw [h] at hmark
      cases hmark
  rw [splitMember, if_neg hnot]

theorem splitMember_close {depth : Nat} {tokens inner after : List Token}
    (h : Bracket.angle.close? depth tokens = some (inner, after))
    : ∃ last, last.isPunct ">" = true
        ∧ splitMember (depth + 1) tokens
            = (inner ++ last :: (splitMember 0 after).1, (splitMember 0 after).2) := by
  induction tokens generalizing depth inner with
  | nil => cases h
  | cons t rest ih =>
    rw [splitMember_cons (.inl (Nat.succ_ne_zero depth))]
    rw [Bracket.close?] at h
    -- Any other token is taken, and the rest closes by the induction.
    have hmap : ∀ {depth'}, ((Bracket.angle.close? depth' rest).map
        fun group => (t :: group.1, group.2)) = some (inner, after) →
        ∃ last, last.isPunct ">" = true
          ∧ (t :: (splitMember (depth' + 1) rest).1, (splitMember (depth' + 1) rest).2)
            = (inner ++ last :: (splitMember 0 after).1, (splitMember 0 after).2) := by
      intro depth' hmap
      obtain ⟨⟨inner', after'⟩, hclose, heq⟩ := Option.map_eq_some_iff.1 hmap
      rw [Prod.mk.injEq] at heq
      obtain ⟨rfl, rfl⟩ := heq
      obtain ⟨last, hlast, hsplit⟩ := ih hclose
      exact ⟨last, hlast, by rw [hsplit]; rfl⟩
    by_cases hopening : t.isPunct "<" = true
    · rw [if_pos hopening]
      exact hmap ((if_pos hopening).symm.trans h)
    · have h := (if_neg hopening).symm.trans h
      rw [if_neg hopening]
      by_cases hclosing : t.isPunct ">" = true
      · have h := (if_pos hclosing).symm.trans h
        rw [if_pos hclosing]
        cases depth with
        | zero =>
          rw [if_pos rfl, Option.some.injEq, Prod.mk.injEq] at h
          obtain ⟨rfl, rfl⟩ := h
          exact ⟨t, hclosing, rfl⟩
        | succ depth =>
          rw [if_neg (Nat.succ_ne_zero depth)] at h
          exact hmap h
      · rw [if_neg hclosing]
        exact hmap ((if_neg hclosing).symm.trans h)

theorem splitMember_whole {tokens : List Token}
    (h : AnglesBalanced tokens (splitMember 0 tokens).2) : Whole (splitMember 0 tokens).1 := by
  -- An angle bracket takes its whole group at once, so the induction is on the length.
  induction hlength : tokens.length using Nat.strongRecOn generalizing tokens with
  | ind n ih =>
    cases tokens with
    | nil => exact Whole.nil
    | cons t rest =>
      by_cases hmark : t.isPunctOf ["(", "=", ";", ",", "\x7b", "\x7d"] = true
      · rw [splitMember, if_pos (by rw [hmark]; rfl)]
        exact Whole.nil
      · rw [Bool.not_eq_true] at hmark
        have hbrace : t.isBrace = false := by
          rw [Bool.eq_false_iff]
          intro hbrace
          rw [Token.isPunctOf_mono hbrace (by simp)] at hmark
          cases hmark
        rw [splitMember_cons (.inr hmark)] at h ⊢
        by_cases hopening : t.isPunct "<" = true
        · rw [if_pos hopening] at h ⊢
          obtain ⟨inner, after, hclose, hinner⟩ := h t rest (List.suffix_refl _)
            (splitMember_suffix _ _) hopening
          obtain ⟨last, hlast, hsplit⟩ := splitMember_close hclose
          have hafter := (Bracket.close?_suffix hclose).trans (List.suffix_cons t rest)
          have hlt : after.length < n := by
            rw [← hlength]
            exact Nat.lt_succ_of_le (Bracket.close?_suffix hclose).length_le
          rw [hsplit] at h ⊢
          have hrest := ih after.length hlt (h.suffix hafter) rfl
          exact (hinner.append (hrest.cons (Token.isBrace_of_isPunct hlast))).cons hbrace
        · rw [if_neg hopening] at h ⊢
          have hsame : (if t.isPunct ">" then 0 - 1 else 0) = 0 := by
            split
            · rfl
            · rfl
          rw [hsame] at h ⊢
          have hlt : rest.length < n := by
            rw [← hlength]
            exact Nat.lt_succ_self _
          exact (ih rest.length hlt (h.suffix (List.suffix_cons t rest)) rfl).cons hbrace

/-! Starts of declarations. -/

theorem typeStart?_passes {tokens rest : List Token} {kind : TypeDecl.Kind}
    (h : typeStart? tokens = some (kind, rest)) : Passes tokens rest := by
  have hword : ∀ {t : Token}, typeKind? t ≠ none → t.isBrace = false := by
    intro t ht
    apply Token.isBrace_of_isIdent
    cases hident : t.isIdent with
    | true => rfl
    | false =>
      exfalso
      apply ht
      unfold Token.isIdent at hident
      unfold typeKind? Token.isWord
      rw [hident]
      rfl
  unfold typeStart? at h
  split at h
  · next t next rest' =>
    split at h
    · next kind' hkind =>
      split at h
      · rw [Option.some.injEq, Prod.mk.injEq] at h
        rw [← h.2]
        exact Passes.skip (hword (by rw [hkind]; simp)) _
      · cases h
    · split at h
      · next hsign =>
        rw [Option.some.injEq, Prod.mk.injEq] at h
        rw [Bool.and_eq_true] at hsign
        rw [← h.2]
        exact (Passes.skip (Token.isBrace_of_isIdent (Token.isIdent_of_isWord hsign.2)) _).cons
          (Token.isBrace_of_isPunct hsign.1)
      · cases h
  · cases h

theorem leftOver_passes {t : Token} (ht : t.isBrace = false) {rest after : List Token}
    (h : Passes (t :: rest) after) : Passes (t :: rest) (leftOver rest after) := by
  unfold leftOver
  split
  · exact h
  · exact Passes.skip ht rest

theorem suffix_of_cons_suffix_cons {a b : Token} {tokens rest : List Token}
    (h : a :: tokens <:+ b :: rest) : tokens <:+ rest := by
  rw [List.suffix_cons_iff] at h
  rcases h with h | h
  · rw [List.cons.injEq] at h
    obtain ⟨-, rfl⟩ := h
    exact List.suffix_refl tokens
  · exact (List.suffix_cons a tokens).trans h

theorem modifiers_mark {t : Token} (hkind : t.kind = .punct) (htext : t.text ≠ "@") (m : Modifiers)
    (rest : List Token) : (modifiers m (t :: rest)).2 = t :: rest := by
  rw [modifiers]
  simp [Token.isWordOf, Token.isIdent, Token.isPunct, hkind, htext]

theorem modifiers_brace {t : Token} (ht : t.isBrace = true) (m : Modifiers) (rest : List Token)
    : (modifiers m (t :: rest)).2 = t :: rest := by
  rw [Token.isBrace_iff] at ht
  apply modifiers_mark ht.1
  rcases ht.2 with htext | htext
  · rw [htext]
    decide
  · rw [htext]
    decide

theorem typeStart?_brace {t : Token} (ht : t.isBrace = true) (rest : List Token)
    : typeStart? (t :: rest) = none := by
  rw [Token.isBrace_iff] at ht
  cases rest with
  | nil => rfl
  | cons next rest =>
    rcases ht with ⟨hkind, htext | htext⟩
    · simp [typeStart?, typeKind?, Token.isWord, Token.isPunct, hkind, htext]
    · simp [typeStart?, typeKind?, Token.isWord, Token.isPunct, hkind, htext]

end Reader

end DeprecatedUse.Java
