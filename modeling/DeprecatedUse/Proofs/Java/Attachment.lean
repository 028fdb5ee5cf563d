import DeprecatedUse.Proofs.Java.Enclosure
import DeprecatedUse.Proofs.Java.Lexemes
import Mathlib

/-!
This module contains the attachment of declarations to the types around them. In a text with nested
brackets the reader attaches each declaration to the type whose braces enclose it, exactly if it
passes over no brace on its way.
-/

namespace DeprecatedUse.Java

def bracesAround (tokens : List Token) (span : Span) : List Token :=
  openBraces (tokens.takeWhile (·.span != span))

def encloser? (tokens : List Token) (types : List TypeDecl) (span : Span) : Option Nat :=
  (bracesAround tokens span).findSome? fun b =>
    types.findIdx? fun d => bodyBrace? tokens d == some b

def IsNameAt (tokens : List Token) (span : Span) (name : String) : Prop :=
  ∃ t, t ∈ tokens ∧ t.isIdent = true ∧ t.text = name ∧ t.span = span

/--
Declarations are attached to the types around them. Wherever the reader stands, the types that it
takes for open are those whose braces are open there; the outer type of a type is the one that
encloses its name; and the name of a member stands in the braces of its type and in no others inside
of them, unless it is a component of a record.
-/
structure Attached (tokens : List Token) : Prop where
  inside : ∀ {before rest : List Token} {o : Outline} {enclosing : List Reader.OpenType},
    before ++ rest = tokens → Reader.Reached tokens o enclosing rest →
    ∃ own around, openBraces before = own ++ around
      ∧ List.Forall₂ (fun e b => o.HasBody tokens e.place b) enclosing own
      ∧ ∀ b, b ∈ around → ∀ place, ¬ o.HasBody tokens place b
  outer : ∀ d, d ∈ (outline tokens).declarations.types →
    IsNameAt tokens d.span d.name
      ∧ d.outer = encloser? tokens (outline tokens).declarations.types d.span
  member : ∀ d, d ∈ (outline tokens).declarations.types → ∀ m, m ∈ d.members →
    (d.kind = .recordType ∧ m.span = d.span)
      ∨ IsNameAt tokens m.span m.name
        ∧ ∃ b, bodyBrace? tokens d = some b ∧ (bracesAround tokens m.span).head? = some b

def PassesNoBrace (tokens : List Token) : Prop :=
  ∀ {o : Outline} {enclosing : List Reader.OpenType} {rest : List Token},
    Reader.Reached tokens o enclosing rest → Reader.KeepsBraces enclosing rest

instance (tokens : List Token) : Decidable (PassesNoBrace tokens) :=
  decidable_of_iff
    (Reader.everywhere (fun enclosing rest => decide (Reader.KeepsBraces enclosing rest)) {} []
      tokens = true) <| by
    rw [Reader.everywhere_iff]
    simp only [decide_eq_true_eq]
    rfl

/-! From the invariant to the attachment. -/

namespace Outline

variable {tokens : List Token} {o : Outline} {place : Nat} {b : Token}

theorem mem_types {d : TypeDecl} (h : d ∈ o.declarations.types)
    : ∃ e, e ∈ o.entries
        ∧ { e.decl with supertypes := e.supertypeNames.map o.typeNames.resolve } = d :=
  List.mem_map.1 h

theorem hasBody_iff
    : o.HasBody tokens place b
        ↔
      ∃ d, o.declarations.types[place]? = some d ∧ bodyBrace? tokens d = some b := by
  unfold HasBody declarations
  dsimp only
  rw [List.getElem?_map]
  constructor
  · rintro ⟨e, he, hb⟩
    rw [he]
    exact ⟨_, rfl, hb⟩
  · rintro ⟨d, hd, hb⟩
    obtain ⟨e, he, rfl⟩ := Option.map_eq_some_iff.1 hd
    exact ⟨e, he, hb⟩

theorem findIdx?_of_hasBody
    (hdistinct : ∀ place', o.HasBody tokens place' b → place' = place)
    (h : o.HasBody tokens place b)
    : (o.declarations.types.findIdx? fun d => bodyBrace? tokens d == some b) = some place := by
  obtain ⟨d, hd, hb⟩ := hasBody_iff.1 h
  obtain ⟨hlt, hget⟩ := List.getElem?_eq_some_iff.1 hd
  rw [List.findIdx?_eq_some_iff_getElem]
  refine ⟨hlt, ?_, ?_⟩
  · rw [hget, hb]
    exact beq_self_eq_true _
  · intro place' hplace' heq
    have hbody : o.HasBody tokens place' b :=
      hasBody_iff.2 ⟨_, List.getElem?_eq_getElem (Nat.lt_trans hplace' hlt), eq_of_beq heq⟩
    rw [hdistinct place' hbody] at hplace'
    exact Nat.lt_irrefl _ hplace'

theorem findIdx?_of_not_hasBody (h : ∀ place, ¬ o.HasBody tokens place b)
    : (o.declarations.types.findIdx? fun d => bodyBrace? tokens d == some b) = none := by
  rw [List.findIdx?_eq_none_iff]
  intro d hd
  rw [List.mem_iff_getElem?] at hd
  obtain ⟨place, hplace⟩ := hd
  rw [beq_eq_false_iff_ne]
  exact fun hb => h place (hasBody_iff.2 ⟨d, hplace, hb⟩)

end Outline

theorem Attached.of_aligned {tokens : List Token} (horder : InOrder tokens)
    (h : ∀ {o : Outline} {enclosing : List Reader.OpenType} {rest : List Token},
      Reader.Reached tokens o enclosing rest →
      ∃ before, before ++ rest = tokens ∧ Aligned tokens before o enclosing)
    : Attached tokens := by
  -- The outline is that of the last state, so its alignment says where each name stands.
  obtain ⟨enclosing, hreached⟩ := Reader.reached_outline tokens
  obtain ⟨before, hbefore, haligned⟩ := h hreached
  rw [List.append_nil] at hbefore
  subst hbefore
  refine ⟨?_, ?_, ?_⟩
  · intro before' rest o enclosing htokens hreached
    obtain ⟨start, hstart, haligned⟩ := h hreached
    rw [← htokens] at hstart
    rw [← List.append_cancel_right hstart]
    exact haligned.inside
  · intro d hd
    obtain ⟨e, he, rfl⟩ := Outline.mem_types hd
    obtain ⟨start, t, rest, rfl, hident, hname, hspan, houter⟩ := haligned.outer e he
    refine ⟨⟨t, by simp, hident, hname, hspan⟩, ?_⟩
    unfold encloser? bracesAround
    dsimp only
    rw [← hspan, horder.takeWhile_span]
    cases hplace : e.decl.outer with
    | none =>
      rw [hplace] at houter
      symm
      rw [List.findSome?_eq_none_iff]
      intro b hb
      exact Outline.findIdx?_of_not_hasBody (houter b hb)
    | some place =>
      rw [hplace] at houter
      obtain ⟨b, hb, hhead⟩ := houter
      obtain ⟨braces, hbraces⟩ := List.head?_eq_some_iff.1 hhead
      rw [hbraces, List.findSome?_cons, Outline.findIdx?_of_hasBody _ hb]
      exact fun place' hb' => haligned.distinct _ _ b hb' hb
  · intro d hd m hm
    obtain ⟨e, he, rfl⟩ := Outline.mem_types hd
    rcases haligned.member e he m hm with hrecord | ⟨start, t, rest, rfl, hident, hname, hspan, hb⟩
    · exact .inl hrecord
    · refine .inr ⟨⟨t, by simp, hident, hname, hspan⟩, ?_⟩
      unfold bracesAround
      rw [← hspan, horder.takeWhile_span]
      exact hb

/-! From the attachment to the steps. -/

theorem Outline.HasBody.eq {tokens : List Token} {o : Outline} {place : Nat} {b b' : Token}
    (h : o.HasBody tokens place b) (h' : o.HasBody tokens place b') : b = b' := by
  obtain ⟨e, he, hb⟩ := h
  obtain ⟨e', he', hb'⟩ := h'
  rw [he, Option.some.injEq] at he'
  rw [← he', hb, Option.some.injEq] at hb'
  exact hb'

theorem openBraces_concat_ne {before rest : List Token} {t b : Token} {braces braces' : List Token}
    (hnested : Nested (before ++ t :: rest)) (horder : InOrder (before ++ t :: rest))
    (ht : t.isBrace = true) (hbefore : openBraces before = b :: braces)
    (hafter : openBraces (before ++ [t]) = b :: braces') : False := by
  rw [Token.isBrace_eq, Bool.or_eq_true] at ht
  rcases ht with ht | ht
  · rw [openBraces_opening hnested ht, List.cons.injEq] at hafter
    apply horder.not_mem
    apply mem_of_mem_openBraces
    rw [hbefore, hafter.1]
    exact List.mem_cons_self
  · obtain ⟨b', hclosing⟩ := openBraces_closing hnested ht
    -- The brace would be open twice.
    have hnodup : (openBraces before).Nodup := by
      apply (openBraces_sublist before).nodup
      rw [List.nodup_reverse]
      exact (List.nodup_append.1 horder.nodup).1
    rw [hbefore, List.cons.injEq] at hclosing
    rw [hbefore, hclosing.2, hafter, List.nodup_cons] at hnodup
    exact hnodup.1 List.mem_cons_self

theorem whole_of_head?_openBraces {before taken rest stack : List Token} {b : Token}
    (hnested : Nested (before ++ (taken ++ rest))) (horder : InOrder (before ++ (taken ++ rest)))
    (htaken : braces? [] taken = some stack) (hb : b ∈ before)
    (hhead : (openBraces (before ++ taken)).head? = some b) : Whole taken := by
  rw [openBraces_append_of_braces? hnested htaken] at hhead
  cases stack with
  | nil => exact htaken
  | cons brace stack =>
    rw [List.cons_append, List.head?_cons, Option.some.injEq] at hhead
    have hbrace : brace ∈ taken := by
      have hmem := (braces?_sublist htaken).subset List.mem_cons_self
      simpa using hmem
    have hnodup := horder.nodup
    rw [List.nodup_append] at hnodup
    exact absurd hhead.symm (hnodup.2.2 b hb brace (List.mem_append_left rest hbrace))

namespace Attached

variable {tokens before rest : List Token} {o : Outline} {owner : Nat}
  {outer : List Reader.OpenType}

theorem openBraces_eq (h : Attached tokens) {e : Reader.OpenType}
    (htokens : before ++ rest = tokens) (hreached : Reader.Reached tokens o (e :: outer) rest)
    : ∃ b braces, openBraces before = b :: braces ∧ o.HasBody tokens e.place b := by
  obtain ⟨own, around, hbraces, hown, -⟩ := h.inside htokens hreached
  obtain ⟨b, others, hb, -, rfl⟩ := List.forall₂_cons_left_iff.1 hown
  exact ⟨b, others ++ around, hbraces, hb⟩

theorem keepsBraces_constants (h : Attached tokens) (hnested : Nested tokens)
    (horder : InOrder tokens) (htokens : before ++ rest = tokens)
    (hreached : Reader.Reached tokens o (⟨owner, true⟩ :: outer) rest)
    : Reader.KeepsBraces (⟨owner, true⟩ :: outer) rest := by
  unfold Reader.KeepsBraces
  dsimp only
  cases rest with
  | nil => exact .inr (by rw [Reader.modifiers]; rfl)
  | cons t rest =>
    cases ht : t.isPunct "\x7d" with
    | true => exact .inl ht
    | false =>
      right
      cases hbehind : (Reader.modifiers {} (t :: rest)).2 with
      | nil => rfl
      | cons name after =>
        rw [Reader.starts, Bool.eq_false_iff]
        intro hname
        subst htokens
        obtain ⟨taken, htaken, hwhole⟩ := Reader.modifiers_passes {} (closes_of_nested hnested)
        rw [hbehind] at htaken
        have hafter : after <:+ rest := Reader.suffix_of_cons_suffix_cons ⟨taken, htaken⟩
        -- The step leaves the outline and the open types as they are.
        have hnext : Reader.Reached (before ++ t :: rest) o (⟨owner, true⟩ :: outer) after := by
          have hstep := hreached.step
          unfold Reader.step at hstep
          dsimp only at hstep
          rw [Reader.stepConstants_skips o owner outer ht hbehind hname] at hstep
          dsimp only at hstep
          rw [Reader.leftOver_of_suffix hafter] at hstep
          exact hstep
        have hsplit : before ++ taken ++ name :: after = before ++ t :: rest := by
          rw [List.append_assoc, htaken]
        have hsplit' : before ++ taken ++ [name] ++ after = before ++ t :: rest := by
          rw [← hsplit]
          simp
        obtain ⟨b, braces, hbraces, hb⟩ := h.openBraces_eq rfl hreached
        obtain ⟨b', braces', hbraces', hb'⟩ := h.openBraces_eq hsplit' hnext
        rw [hb'.eq hb] at hbraces'
        rw [← openBraces_append hwhole] at hbraces
        rw [← hsplit] at hnested horder
        exact openBraces_concat_ne hnested horder hname hbraces hbraces'

theorem exists_firstField {e : Outline.Entry} (he : o.entries[owner]? = some e) {t : Token}
    (hreached : Reader.Reached tokens o (⟨owner, false⟩ :: outer) (t :: rest))
    {type : List Token} {name : Token}
    (hfield : Reader.firstField? (Reader.modifiers {} (t :: rest)).2 = some (type, name))
    : ∃ d, d ∈ (outline tokens).declarations.types ∧ d.kind = e.decl.kind ∧ d.span = e.decl.span
        ∧ ∃ m, m ∈ d.members ∧ m.span = name.span := by
  obtain ⟨field, hspan, hgrows⟩ := Reader.member_firstField hfield o owner
    (Reader.modifiers {} (t :: rest)).1
  have hnext := hreached.step.grows
  unfold Reader.step at hnext
  dsimp only at hnext
  rw [Reader.stepInside_firstField hfield] at hnext
  have hadded := List.getElem?_modify_eq (fun e : Outline.Entry =>
    { e with decl := { e.decl with members := e.decl.members ++ [field] } }) owner o.entries
  rw [he] at hadded
  obtain ⟨e', he', hkind, hspan', hmembers⟩ := hgrows.trans hnext owner _ hadded
  refine ⟨_, List.mem_map_of_mem (List.mem_of_getElem? he'), hkind, hspan', field, ?_, hspan⟩
  apply hmembers
  simp

theorem keepsBraces_fields (h : Attached tokens) (hnested : Nested tokens)
    (horder : InOrder tokens) (hheaders : HeadersBalanced tokens)
    (htokens : before ++ rest = tokens)
    (hreached : Reader.Reached tokens o (⟨owner, false⟩ :: outer) rest)
    (haligned : Aligned tokens before o (⟨owner, false⟩ :: outer))
    : Reader.KeepsBraces (⟨owner, false⟩ :: outer) rest := by
  unfold Reader.KeepsBraces
  dsimp only
  intro type name hfield
  cases rest with
  | nil =>
    rw [Reader.modifiers] at hfield
    cases hfield
  | cons t rest =>
    obtain ⟨b, braces, hbraces, e, he, hb⟩ := h.openBraces_eq htokens hreached
    obtain ⟨d, hd, hkind, hdspan, m, hm, hmspan⟩ := exists_firstField he hreached hfield
    have hangles := hheaders hreached
      (Reader.headerOf?_member (Reader.firstField?_typeStart? hfield))
    obtain ⟨-, start, stop, after, hsplit, hstart, hhead⟩ :=
      Reader.firstField?_split hfield hangles
    subst htokens
    obtain ⟨taken, htaken, hwhole⟩ := Reader.modifiers_passes {} (closes_of_nested hnested)
    have hname : before ++ taken ++ start ++ type ++ name :: (stop ++ after)
        = before ++ t :: rest := by
      rw [← htaken, ← hsplit]
      simp
    have hopen : openBraces (before ++ taken ++ start) = b :: braces := by
      rw [openBraces_append hstart, openBraces_append hwhole, hbraces]
    rcases h.member d hd m hm with ⟨-, hspan⟩ | ⟨-, b', hb', haround⟩
    · -- The name of the field does not stand where the name of its type stands.
      obtain ⟨first, t', rest', hfirst, -, -, hspan', -⟩ :=
        haligned.outer e (List.mem_of_getElem? he)
      rw [← hname] at horder
      refine absurd ?_ (horder.span_ne (a := t') ?_)
      · rw [hspan', ← hdspan, ← hspan, hmspan]
      · rw [← hfirst]
        simp
    · obtain ⟨stack, hstack, -⟩ := Option.bind_eq_some_iff.1
        ((braces?_append [] type (name :: stop)).symm.trans hhead)
      rw [bodyBrace?_congr hkind hdspan, hb, Option.some.injEq] at hb'
      unfold bracesAround at haround
      rw [← hname] at horder hnested haround
      rw [hmspan, horder.takeWhile_span, ← hb'] at haround
      rw [List.append_assoc (before ++ taken ++ start)] at hnested horder
      refine whole_of_head?_openBraces hnested horder hstack ?_ haround
      apply mem_of_mem_openBraces
      rw [hopen]
      exact List.mem_cons_self

theorem keepsBraces (h : Attached tokens) (hnested : Nested tokens) (horder : InOrder tokens)
    (hheaders : HeadersBalanced tokens) {enclosing : List Reader.OpenType}
    (hreached : Reader.Reached tokens o enclosing rest) (htokens : before ++ rest = tokens)
    (haligned : Aligned tokens before o enclosing) : Reader.KeepsBraces enclosing rest := by
  cases enclosing with
  | nil => trivial
  | cons e outer =>
    obtain ⟨owner, inConstants⟩ := e
    cases inConstants with
    | true => exact h.keepsBraces_constants hnested horder htokens hreached
    | false => exact h.keepsBraces_fields hnested horder hheaders htokens hreached haligned

theorem passesNoBrace (h : Attached tokens) (hnested : Nested tokens) (horder : InOrder tokens)
    (hheaders : HeadersBalanced tokens) : PassesNoBrace tokens := by
  intro o enclosing rest hreached
  obtain ⟨before, htokens, haligned⟩ := Aligned.of_reached hnested horder hheaders
    (h.keepsBraces hnested horder hheaders) hreached
  exact h.keepsBraces hnested horder hheaders hreached htokens haligned

end Attached

/--
In a text with nested brackets and balanced headers every declaration is attached to the type that
encloses it, exactly if the reader passes over no brace.
-/
theorem attached_iff_passesNoBrace {text : String} {tokens : List Token}
    (hlex : tokenize text = .ok tokens) (hnested : Nested tokens)
    (hheaders : HeadersBalanced tokens) : Attached tokens ↔ PassesNoBrace tokens := by
  have horder : InOrder tokens := pairwise_start_tokenize hlex
  constructor
  · intro h
    exact h.passesNoBrace hnested horder hheaders
  · intro h
    apply Attached.of_aligned horder
    exact Aligned.of_reached hnested horder hheaders fun hreached _ _ => h hreached

theorem attached_enum_in_generic_class
    : ∃ tokens, tokenize
            "class A<T> \x7b @B int x; enum E \x7b /** p */ P \x7b int i; \x7d; int y; \x7d \x7d"
          = .ok tokens
        ∧ Attached tokens := by
  have hcheck :
      tokenize "class A<T> \x7b @B int x; enum E \x7b /** p */ P \x7b int i; \x7d; int y; \x7d \x7d"
        |>.toOption.any fun tokens =>
          decide (Nested tokens ∧ HeadersBalanced tokens ∧ PassesNoBrace tokens) := by
    decide +kernel
  obtain ⟨tokens, hlex, hcheck⟩ := exists_tokenize_ok hcheck
  rw [decide_eq_true_eq] at hcheck
  obtain ⟨hnested, hheaders, hbraces⟩ := hcheck
  exact ⟨tokens, hlex, (attached_iff_passesNoBrace hlex hnested hheaders).2 hbraces⟩

/--
A comment before the brace that ends the constants of an enum makes the reader pass over this brace.
-/
theorem not_attached_comment_after_constants
    : ∃ tokens, tokenize "enum E \x7b A, /** last */ \x7d class B \x7b int x; \x7d" = .ok tokens
        ∧ Nested tokens ∧ HeadersBalanced tokens ∧ ¬ Attached tokens := by
  have hcheck :
      tokenize "enum E \x7b A, /** last */ \x7d class B \x7b int x; \x7d"
        |>.toOption.any fun tokens =>
          decide (Nested tokens ∧ HeadersBalanced tokens ∧ ¬ PassesNoBrace tokens) := by
    decide +kernel
  obtain ⟨tokens, hlex, hcheck⟩ := exists_tokenize_ok hcheck
  rw [decide_eq_true_eq] at hcheck
  obtain ⟨hnested, hheaders, hbraces⟩ := hcheck
  refine ⟨tokens, hlex, hnested, hheaders, ?_⟩
  intro h
  exact hbraces (h.passesNoBrace hnested (pairwise_start_tokenize hlex) hheaders)

end DeprecatedUse.Java
