import DeprecatedUse.Proofs.Java.Commented.Outlines
import DeprecatedUse.Proofs.Java.Commented.Texts
import DeprecatedUse.Proofs.Java.Commented.Uses
import DeprecatedUse.Proofs.Java.Layout
import Mathlib

/-!
This module contains what documentation comments inside of bodies do to source units. They make no
difference to the declarations. In front of a statement that declares no variable they are only
comments, but they hide the declaration of a variable.
-/

namespace DeprecatedUse.Java

variable {d : Token}

/-! Bodies without the comment. -/

/--
In the body the comment stands behind the end of a statement, or first, and in front of a statement
that declares no variable.
-/
def Body.PlainAt (body : Body) (d : Token) : Prop :=
  Access.EndsStatement (body.tokens.takeWhile (· != d)).reverse
    ∧ Access.StartsPlain (body.tokens.dropWhile (· != d)).tail

instance (body : Body) (d : Token) : Decidable (body.PlainAt d) :=
  inferInstanceAs (Decidable (_ ∧ _))

theorem erased_append {x y : List Token} (h : (x ++ d :: y).Nodup)
    : erased d (x ++ d :: y) = x ++ y := by
  rw [List.nodup_middle, List.nodup_cons, List.mem_append, not_or] at h
  rw [erased, List.filter_append, ← erased, ← erased, erased_self, erased_of_not_mem h.1.1,
    erased_of_not_mem h.1.2]

theorem Access.ofBody_without (hd : d.kind = .doc) {body : Body} (hnodup : body.tokens.Nodup)
    (hmem : d ∈ body.tokens) (hplain : body.PlainAt d) (names : TypeNames) (types : List TypeDecl)
    : ofBody names types (body.without d) = ofBody names types body := by
  obtain ⟨x, y, htokens⟩ := List.append_of_mem hmem
  rw [htokens] at hnodup
  have hx : ∀ t ∈ x, (t != d) = true := by
    intro t ht
    rw [bne_iff_ne]
    rintro rfl
    rw [List.nodup_middle, List.nodup_cons] at hnodup
    exact hnodup.1 (List.mem_append_left y ht)
  rw [Body.PlainAt, htokens, List.takeWhile_append_of_pos hx, List.dropWhile_append_of_pos hx,
    List.takeWhile_cons_of_neg (by simp), List.dropWhile_cons_of_neg (by simp), List.append_nil]
    at hplain
  rw [ofBody_doc hd names types htokens hplain.1 hplain.2, Body.without, htokens,
    erased_append hnodup]

theorem Outline.eq_of_mem_tokens {o : Outline} (h : o.bodyTokens.Nodup) {body body' : Body}
    (hbody : body ∈ o.bodies) (hbody' : body' ∈ o.bodies) (hmem : d ∈ body.tokens)
    (hmem' : d ∈ body'.tokens) : body = body' := by
  by_contra hne
  rw [bodyTokens, List.nodup_flatMap] at h
  have hsymm : Std.Symm (Function.onFun List.Disjoint Body.tokens) :=
    ⟨fun _ _ hdisjoint => List.disjoint_symm hdisjoint⟩
  exact h.2.forall hbody hbody' hne hmem hmem'

/-! Tokens that stand elsewhere. -/

theorem annotationArguments_subset (tokens : List Token)
    : Reader.annotationArguments tokens ⊆ tokens := by
  cases tokens with
  | nil => exact List.Subset.refl _
  | cons t rest =>
    rw [Reader.annotationArguments]
    split
    · intro a ha
      cases hgroup : (Bracket.round.group? (Reader.dottedName "" rest).2).1 with
      | none =>
        rw [hgroup] at ha
        cases ha
      | some inside =>
        rw [hgroup] at ha
        have hname := (Bracket.group?_isInfix hgroup).subset ha
        exact List.mem_cons_of_mem t ((Reader.dottedName_suffix "" rest).subset hname)
    · exact List.nil_subset _

theorem alike_of_shifted {tokens tokens' : List Token} (hnodup : tokens.Nodup)
    (h : List.Forall₂ Lexer.Shifted tokens tokens') : Alike tokens tokens' := by
  have hlike : List.Forall₂ Token.Like tokens tokens' := h.imp fun _ _ hshifted =>
    ⟨hshifted.1, fun _ => hshifted.2⟩
  refine ⟨hlike, ?_⟩
  obtain ⟨r, rfl⟩ := Relabelling.exists_map hlike hnodup
  rw [List.forall₂_map_right_iff, List.forall₂_same] at h
  intro n _
  rw [← List.map_drop, Relabelling.annotationArguments_map, List.map_map, List.map_inj_left]
  intro t ht
  exact (h t (List.mem_of_mem_drop (annotationArguments_subset _ ht))).2

namespace SourceUnit

theorem ofTokens_erased (hd : d.kind = .doc) {tokens : List Token} (hnodup : tokens.Nodup)
    {body : Body} (hbody : body ∈ (outline tokens).bodies) (hmem : d ∈ body.tokens)
    (id id' : UnitId) (text text' : String)
    : (ofTokens id' text' (erased d tokens)).declarations = (ofTokens id text tokens).declarations
      ∧ (body.PlainAt d →
        (ofTokens id' text' (erased d tokens)).accesses = (ofTokens id text tokens).accesses) := by
  have houtline := outline_erased hd hnodup (List.mem_flatMap.2 ⟨body, hbody, hmem⟩)
  have hbodies : (outline tokens).bodyTokens.Nodup := hnodup.sublist (bodyTokens_outline tokens)
  unfold ofTokens
  rw [houtline]
  refine ⟨rfl, ?_⟩
  intro hplain
  dsimp only
  congr 1
  rw [Outline.without, List.flatMap_map]
  apply List.flatMap_congr
  intro body' hbody'
  by_cases hmem' : d ∈ body'.tokens
  · obtain rfl := Outline.eq_of_mem_tokens hbodies hbody hbody' hmem hmem'
    exact Access.ofBody_without hd ((List.nodup_flatMap.1 hbodies).1 body hbody) hmem hplain _ _
  · rw [Body.without, erased_of_not_mem hmem']
    rfl

/--
A documentation comment in a body may be replaced by a comment that documents nothing: the
declarations are the same. In front of a statement that declares no variable the uses of members and
the types of their receivers are the same too, and so is their order if the positions of both texts
fit into thirty-two bits.
-/
theorem parse_plainComment {before after : String} {tokens : List Token}
    (h : tokenize (before ++ d.text ++ after) = .ok tokens) (hd : d.kind = .doc)
    (hstart : d.span.start = .behind before.toList) {body : Body}
    (hbody : body ∈ (outline tokens).bodies) (hmem : d ∈ body.tokens) {comment : String}
    (hcomment : IsBlockComment comment.toList) (hdoc : ¬ Documents comment.toList) (id id' : UnitId)
    : ∃ u u', parse id (before ++ d.text ++ after) = .ok u
        ∧ parse id' (before ++ comment ++ after) = .ok u'
        ∧ u'.declarations.withoutSpans = u.declarations.withoutSpans
        ∧ (body.PlainAt d →
          Cursor.units16 (before ++ d.text ++ after).toList < 2 ^ 32 →
          Cursor.units16 (before ++ comment ++ after).toList < 2 ^ 32 →
          Cursor.parse id (before ++ d.text ++ after) = pure (.ok u)
            ∧ Cursor.parse id' (before ++ comment ++ after) = pure (.ok u')
            ∧ u'.accesses.map Access.withoutSpan = u.accesses.map Access.withoutSpan) := by
  have horder : InOrder tokens := pairwise_start_tokenize h
  obtain ⟨front, back, rfl⟩ := List.append_of_mem ((outline_bodies hbody).subset hmem)
  obtain ⟨back', htokens', hshifted⟩ := tokenize_otherComment h hd hstart hcomment hdoc
  have horder' : InOrder (front ++ back) :=
    horder.sublist ((List.sublist_cons_self d back).append_left front)
  have hshifted' : List.Forall₂ Lexer.Shifted (front ++ back) (front ++ back') :=
    List.rel_append (List.forall₂_same.2 fun _ _ => ⟨rfl, rfl⟩) hshifted
  obtain ⟨hdeclarations, haccesses⟩ := ofTokens_erased hd horder.nodup hbody hmem id id'
    (before ++ d.text ++ after) (before ++ comment ++ after)
  rw [erased_append horder.nodup] at hdeclarations haccesses
  obtain ⟨hdeclarations', haccesses'⟩ := ofTokens_alike horder' (pairwise_start_tokenize htokens')
    (alike_of_shifted horder'.nodup hshifted') id' id' (before ++ comment ++ after)
    (before ++ comment ++ after)
  have hparse := parse_of_tokenize id h
  have hparse' := parse_of_tokenize id' htokens'
  refine ⟨_, _, hparse, hparse', ?_, ?_⟩
  · rw [hdeclarations', hdeclarations]
  · intro hplain hfits hfits'
    refine ⟨?_, ?_, ?_⟩
    · rw [Cursor.parse_run id hfits, hparse]
    · rw [Cursor.parse_run id' hfits', hparse']
    · rw [haccesses', haccesses hplain]

theorem parse_plainComment_before_call
    : ∃ u u',
        Cursor.parse "A" "class A \x7b void m() \x7b f.g(); /** d */ h.i(); \x7d \x7d"
            = pure (.ok u)
          ∧ Cursor.parse "A" "class A \x7b void m() \x7b f.g(); /*- d */ h.i(); \x7d \x7d"
            = pure (.ok u')
          ∧ u'.declarations.withoutSpans = u.declarations.withoutSpans
          ∧ u'.accesses.map Access.withoutSpan = u.accesses.map Access.withoutSpan := by
  have hcheck :
      tokenize "class A \x7b void m() \x7b f.g(); /** d */ h.i(); \x7d \x7d"
        |>.toOption.any fun tokens => (outline tokens).bodies.any fun body =>
          body.tokens.contains ⟨.doc, "/** d */", ⟨⟨0, 28⟩, ⟨0, 36⟩⟩⟩
            && decide (body.PlainAt ⟨.doc, "/** d */", ⟨⟨0, 28⟩, ⟨0, 36⟩⟩⟩) := by
    decide +kernel
  obtain ⟨tokens, h, hcheck⟩ := exists_tokenize_ok hcheck
  rw [List.any_eq_true] at hcheck
  obtain ⟨body, hbody, hcheck⟩ := hcheck
  rw [Bool.and_eq_true, List.contains_iff_mem, decide_eq_true_eq] at hcheck
  have hcomment : IsBlockComment "/*- d */".toList :=
    ⟨"- d ".toList, by decide, by decide⟩
  have hdoc : ¬ Documents "/*- d */".toList := fun hdoc =>
    absurd hdoc.1 (by decide)
  obtain ⟨u, u', -, -, hdeclarations, haccesses⟩ :=
    @parse_plainComment ⟨.doc, "/** d */", ⟨⟨0, 28⟩, ⟨0, 36⟩⟩⟩
      "class A \x7b void m() \x7b f.g(); " " h.i(); \x7d \x7d" tokens h rfl rfl body hbody
      hcheck.1 "/*- d */" hcomment hdoc "A" "A"
  obtain ⟨hrun, hrun', haccesses⟩ := haccesses hcheck.2 (by decide) (by decide)
  exact ⟨u, u', hrun, hrun', hdeclarations, haccesses⟩

/--
A comment in front of the declaration of a variable hides it: the receiver is taken for the
parameter of the same name.
-/
theorem docComment_hides_local
    : (match
        parse "A" ("class A \x7b void m(Old t) \x7b new R() \x7b void run() \x7b "
          ++ "/** d */ Tab t = x; t.close(); \x7d \x7d; \x7d \x7d"),
        parse "A" ("class A \x7b void m(Old t) \x7b new R() \x7b void run() \x7b "
          ++ "/*- d */ Tab t = x; t.close(); \x7d \x7d; \x7d \x7d") with
        | .ok u, .ok u' => (u.accesses.map Access.receiverType, u'.accesses.map Access.receiverType)
        | _, _ => ([], []))
      = ([some (.simple "Old" ["", "java.lang"])], [some (.simple "Tab" ["", "java.lang"])]) := by
  decide +kernel

end SourceUnit

end DeprecatedUse.Java
