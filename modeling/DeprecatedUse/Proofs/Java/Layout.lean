import DeprecatedUse.Proofs.Java.Cursor.Accesses
import DeprecatedUse.Proofs.Java.Relabelling.Uses
import DeprecatedUse.Proofs.Java.Uses
import Mathlib

/-!
This module contains the independence of source units from the layout of their texts. Two texts
whose tokens differ only in their spans and in literals outside of annotations declare the same and
use the same members in the same order.
-/

namespace DeprecatedUse.Java

def Token.Like (t t' : Token) : Prop :=
  t'.kind = t.kind ∧ (t.kind ≠ .literal → t'.text = t.text)

/--
Tokens that differ at most in their spans and in literals outside of the arguments of annotations.
-/
structure Alike (tokens tokens' : List Token) : Prop where
  pointwise : List.Forall₂ Token.Like tokens tokens'
  arguments : ∀ n, n < tokens.length →
    (Reader.annotationArguments (tokens'.drop n)).map Token.text
      = (Reader.annotationArguments (tokens.drop n)).map Token.text

instance (t t' : Token) : Decidable (t.Like t') :=
  inferInstanceAs (Decidable (t'.kind = t.kind ∧ (t.kind ≠ .literal → t'.text = t.text)))

/-! Tokens that are alike are relabelled tokens. -/

namespace Relabelling

protected def id : Relabelling where
  apply t := t
  kind_apply _ := rfl
  text_apply _ _ := rfl

def update (r : Relabelling) {t t' : Token} (h : t.Like t') : Relabelling where
  apply a := if a = t then t' else r.apply a
  kind_apply a := by
    split
    · next heq =>
      rw [heq]
      exact h.1
    · exact r.kind_apply a
  text_apply a hkind := by
    split
    · next heq =>
      subst heq
      exact h.2 hkind
    · exact r.text_apply a hkind

theorem exists_map {tokens tokens' : List Token} (h : List.Forall₂ Token.Like tokens tokens')
    (hnodup : tokens.Nodup) : ∃ r : Relabelling, tokens.map r.apply = tokens' := by
  induction h with
  | nil => exact ⟨.id, rfl⟩
  | @cons t t' tokens tokens' hlike _ ih =>
    rw [List.nodup_cons] at hnodup
    obtain ⟨r, rfl⟩ := ih hnodup.2
    refine ⟨r.update hlike, ?_⟩
    rw [List.map_cons, List.cons.injEq]
    refine ⟨if_pos rfl, ?_⟩
    apply List.map_congr_left
    intro a ha
    apply if_neg
    rintro rfl
    exact hnodup.1 ha

theorem annotationArguments_map (r : Relabelling) (tokens : List Token)
    : Reader.annotationArguments (tokens.map r.apply)
        =
      (Reader.annotationArguments tokens).map r.apply := by
  cases tokens with
  | nil => rfl
  | cons t rest =>
    have hstarts := Reader.starts_map (p := fun n => n.isIdent && n.text != "interface") r fun t =>
      Reader.isIdent_and_text_apply r t "interface"
    rw [List.map_cons, Reader.annotationArguments, Reader.annotationArguments, r.isPunct_apply,
      hstarts, Reader.dottedName_map, Prod.map_snd, Bracket.group?_map, Prod.map_fst]
    split
    · cases (Bracket.round.group? (Reader.dottedName "" rest).2).1 with
      | none => rfl
      | some inside => rfl
    · rfl

theorem keepsArguments_of_alike {r : Relabelling} {tokens : List Token}
    (h : Alike tokens (tokens.map r.apply)) : r.KeepsArguments tokens := by
  intro rest hrest t ht
  obtain ⟨before, rfl⟩ := hrest
  cases rest with
  | nil => cases ht
  | cons first rest =>
    have hlt : before.length < (before ++ first :: rest).length := by simp
    have harguments := h.arguments before.length hlt
    rw [← List.map_drop, List.drop_left, annotationArguments_map, List.map_map,
      List.map_inj_left] at harguments
    exact harguments t ht

theorem start_le_iff {r : Relabelling} {tokens : List Token} (h : InOrder tokens)
    (h' : InOrder (tokens.map r.apply)) {t u : Token} (ht : t ∈ tokens) (hu : u ∈ tokens)
    : (r.apply t).span.start ≤ (r.apply u).span.start ↔ t.span.start ≤ u.span.start := by
  let Kept : Token → Token → Prop := fun t u =>
    ((r.apply t).span.start ≤ (r.apply u).span.start ↔ t.span.start ≤ u.span.start)
      ∧ ((r.apply u).span.start ≤ (r.apply t).span.start ↔ u.span.start ≤ t.span.start)
  have hsymm : Std.Symm Kept := ⟨fun _ _ h => ⟨h.2, h.1⟩⟩
  -- Which of two tokens stands first says which starts first, on both sides.
  have hpairs : tokens.Pairwise Kept := by
    refine (h.and (List.pairwise_map.1 h')).imp ?_
    rintro t u ⟨hnot, hnot'⟩
    refine ⟨iff_of_true ?_ ?_, iff_of_false hnot' hnot⟩
    · exact (Position.le_total _ _).resolve_right hnot'
    · exact (Position.le_total _ _).resolve_right hnot
  have hrefl : ∀ t, t ∈ tokens → Kept t t := by
    intro t _
    have hle : ∀ p : Position, p ≤ p := fun p => (Position.le_total p p).elim id id
    exact ⟨iff_of_true (hle _) (hle _), iff_of_true (hle _) (hle _)⟩
  exact (List.Pairwise.forall_of_forall hrefl hpairs ht hu).1

end Relabelling

/-! The order of uses. -/

theorem forall₂_mergeSort {α β : Type} {R : α → β → Prop} {le : α → α → Bool} {le' : β → β → Bool}
    {xs : List α} {ys : List β} (h : List.Forall₂ R xs ys)
    (hle : ∀ {a a' b b'}, R a a' → R b b' → le a b = le' a' b')
    : List.Forall₂ R (xs.mergeSort le) (ys.mergeSort le') := by
  -- Both lists are the sides of one list of pairs, which is sorted once.
  obtain ⟨pairs, rfl, rfl, hpairs⟩ : ∃ pairs : List (α × β), pairs.map Prod.fst = xs
      ∧ pairs.map Prod.snd = ys ∧ ∀ p, p ∈ pairs → R p.1 p.2 := by
    induction h with
    | nil => exact ⟨[], rfl, rfl, by simp⟩
    | @cons x y xs ys hxy _ ih =>
      obtain ⟨pairs, rfl, rfl, hpairs⟩ := ih
      exact ⟨(x, y) :: pairs, rfl, rfl, List.forall_mem_cons.2 ⟨hxy, hpairs⟩⟩
  rw [← List.map_mergeSort (r := fun p q => le p.1 q.1) fun _ _ _ _ => rfl,
    ← List.map_mergeSort (r := fun p q => le p.1 q.1) fun p hp q hq => hle (hpairs p hp) (hpairs q hq),
    List.forall₂_map_left_iff, List.forall₂_map_right_iff, List.forall₂_same]
  intro p hp
  exact hpairs p (List.mem_mergeSort.1 hp)

namespace SourceUnit

theorem sortAccesses_agrees {r : Relabelling} {tokens : List Token} {accesses accesses' : List Access}
    (horder : InOrder tokens) (horder' : InOrder (tokens.map r.apply))
    (h : List.Forall₂ (Access.Agrees r tokens) accesses accesses')
    : List.Forall₂ (Access.Agrees r tokens) (sortAccesses accesses) (sortAccesses accesses') := by
  refine forall₂_mergeSort h ?_
  intro a a' b b' ha hb
  obtain ⟨t, ht, hta, hta'⟩ := ha.start
  obtain ⟨u, hu, hub, hub'⟩ := hb.start
  rw [decide_eq_decide, hta, hta', hub, hub']
  exact (Relabelling.start_le_iff horder horder' ht hu).symm

theorem ofTokens_alike {tokens tokens' : List Token} (horder : InOrder tokens)
    (horder' : InOrder tokens') (h : Alike tokens tokens') (id id' : UnitId) (text text' : String)
    : (ofTokens id' text' tokens').declarations.withoutSpans
          = (ofTokens id text tokens).declarations.withoutSpans
        ∧ (ofTokens id' text' tokens').accesses.map Access.withoutSpan
          = (ofTokens id text tokens).accesses.map Access.withoutSpan := by
  obtain ⟨r, rfl⟩ := Relabelling.exists_map h.pointwise horder.nodup
  have hagrees := outline_agrees (Relabelling.keepsArguments_of_alike h)
  refine ⟨hagrees.declarations, ?_⟩
  have haccesses := sortAccesses_agrees horder horder' (flatMap_ofBody_agrees hagrees)
  unfold ofTokens
  dsimp only
  rw [← List.forall₂_eq_eq_eq, List.forall₂_map_left_iff, List.forall₂_map_right_iff]
  refine haccesses.flip.imp ?_
  intro a a' ha
  exact ha.withoutSpan

/--
Two texts whose positions fit into thirty-two bits, and whose tokens differ at most in their spans
and in literals outside of the arguments of annotations, are read alike: package, imports, types,
members and deprecations are the same, and so are the uses of members and their order.
-/
theorem parse_alike {text text' : String} {tokens tokens' : List Token}
    (hfits : Cursor.units16 text.toList < 2 ^ 32) (hfits' : Cursor.units16 text'.toList < 2 ^ 32)
    (h : tokenize text = .ok tokens) (h' : tokenize text' = .ok tokens')
    (halike : Alike tokens tokens') (id id' : UnitId)
    : ∃ u u', Cursor.parse id text = pure (.ok u) ∧ Cursor.parse id' text' = pure (.ok u')
        ∧ parse id text = .ok u ∧ parse id' text' = .ok u'
        ∧ u'.declarations.withoutSpans = u.declarations.withoutSpans
        ∧ u'.accesses.map Access.withoutSpan = u.accesses.map Access.withoutSpan := by
  have hparse : parse id text = .ok (ofTokens id text tokens) := parse_of_tokenize id h
  have hparse' : parse id' text' = .ok (ofTokens id' text' tokens') := parse_of_tokenize id' h'
  refine ⟨ofTokens id text tokens, ofTokens id' text' tokens', ?_, ?_, hparse, hparse', ?_⟩
  · rw [Cursor.parse_run id hfits, hparse]
  · rw [Cursor.parse_run id' hfits', hparse']
  · exact ofTokens_alike (pairwise_start_tokenize h) (pairwise_start_tokenize h') halike ..

theorem parse_alike_other_string_and_layout
    : ∃ u u',
        Cursor.parse "A" "class A \x7b @B(\"x\") void m() \x7b f.g(\"y\").h(1); \x7d \x7d"
            = pure (.ok u)
          ∧ Cursor.parse "A"
              "class A\n\x7b@B( \"x\" )void m(\n) /* z */ \x7bf.g(\"zz\").h(22);\x7d\x7d"
            = pure (.ok u')
          ∧ u'.declarations.withoutSpans = u.declarations.withoutSpans
          ∧ u'.accesses.map Access.withoutSpan = u.accesses.map Access.withoutSpan := by
  have hcheck :
      tokenize "class A \x7b @B(\"x\") void m() \x7b f.g(\"y\").h(1); \x7d \x7d"
        |>.toOption.any fun tokens =>
          tokenize "class A\n\x7b@B( \"x\" )void m(\n) /* z */ \x7bf.g(\"zz\").h(22);\x7d\x7d"
            |>.toOption.any fun tokens' =>
              decide (List.Forall₂ Token.Like tokens tokens' ∧ ∀ n, n < tokens.length →
                (Reader.annotationArguments (tokens'.drop n)).map Token.text
                  = (Reader.annotationArguments (tokens.drop n)).map Token.text) := by
    decide +kernel
  obtain ⟨tokens, h, hcheck⟩ := exists_tokenize_ok hcheck
  obtain ⟨tokens', h', hcheck⟩ := exists_tokenize_ok hcheck
  rw [decide_eq_true_eq] at hcheck
  obtain ⟨u, u', hrun, hrun', -, -, hdeclarations, haccesses⟩ :=
    parse_alike (by decide) (by decide) h h' ⟨hcheck.1, hcheck.2⟩ "A" "A"
  exact ⟨u, u', hrun, hrun', hdeclarations, haccesses⟩

end SourceUnit

end DeprecatedUse.Java
