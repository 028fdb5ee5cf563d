import DeprecatedUse.Proofs.Java.Cursor.Groups

/-!
This module contains the splitting of tokens at brackets and at the ends of expressions where one of
the tokens is a documentation comment. The comment is no bracket and no mark, so without it the
tokens are split at the same place.
-/

namespace DeprecatedUse.Java

variable {d : Token}

namespace Token

theorem isPunct_of_doc (h : d.kind = .doc) (mark : String) : d.isPunct mark = false := by
  rw [isPunct, h]
  rfl

theorem isPunctOf_of_doc (h : d.kind = .doc) (marks : List String) : d.isPunctOf marks = false := by
  rw [isPunctOf, h]
  rfl

theorem isIdent_of_doc (h : d.kind = .doc) : d.isIdent = false := by
  rw [isIdent, h]
  rfl

theorem isWord_of_doc (h : d.kind = .doc) (word : String) : d.isWord word = false := by
  rw [isWord, h]
  rfl

end Token

/--
A split of `x ++ (e ++ y)` and the split of `x ++ (e' ++ y)` at the same place: before the tokens in
which the two differ, or behind them.
-/
inductive Apart (e e' x y : List Token)
    : List Token × List Token → List Token × List Token → Prop where
  | before (taken rest : List Token) (h : rest <:+ x)
    : Apart e e' x y (taken, rest ++ (e ++ y)) (taken, rest ++ (e' ++ y))
  | behind (inside after : List Token) (h : inside <+: y) (h' : after <:+ y)
    : Apart e e' x y (x ++ (e ++ inside), after) (x ++ (e' ++ inside), after)

namespace Bracket

theorem close?_append_of_no_bracket {b : Bracket} {e : List Token}
    (he : ∀ t ∈ e, t.isPunct b.opening = false ∧ t.isPunct b.closing = false) (depth : Nat)
    (y : List Token)
    : b.close? depth (e ++ y) = (b.close? depth y).map fun group => (e ++ group.1, group.2) := by
  induction e with
  | nil => cases h : b.close? depth y <;> simp [h]
  | cons t e ih =>
    obtain ⟨hopening, hclosing⟩ := he t List.mem_cons_self
    rw [List.cons_append, close?, hopening, hclosing, if_neg Bool.false_ne_true,
      if_neg Bool.false_ne_true, ih fun t' ht' => he t' (List.mem_cons_of_mem _ ht'),
      Option.map_map]
    rfl

theorem close?_apart {b : Bracket} {e e' : List Token}
    (he : ∀ t ∈ e, t.isPunct b.opening = false ∧ t.isPunct b.closing = false)
    (he' : ∀ t ∈ e', t.isPunct b.opening = false ∧ t.isPunct b.closing = false) (depth : Nat)
    (x y : List Token)
    : Option.Rel (Apart e e' x y) (b.close? depth (x ++ (e ++ y)))
        (b.close? depth (x ++ (e' ++ y))) := by
  obtain ⟨depth', happend⟩ := Cursor.close?_append_eq b depth x
  rw [happend, happend]
  cases hclose : b.close? depth x with
  | some group =>
    obtain ⟨inside, after⟩ := group
    exact .some (.before inside after (close?_suffix hclose))
  | none =>
    rw [close?_append_of_no_bracket he, close?_append_of_no_bracket he']
    cases hrest : b.close? depth' y with
    | none => exact .none
    | some group =>
      obtain ⟨inside, after⟩ := group
      exact .some (.behind inside after (close?_isPrefix hrest) (close?_suffix hrest))

theorem close?_doc (hd : d.kind = .doc) (b : Bracket) (depth : Nat) (x y : List Token)
    : Option.Rel (Apart [d] [] x y) (b.close? depth (x ++ d :: y)) (b.close? depth (x ++ y)) := by
  have hdoc : ∀ t ∈ [d], t.isPunct b.opening = false ∧ t.isPunct b.closing = false := by
    intro t ht
    rw [List.mem_singleton] at ht
    rw [ht, d.isPunct_of_doc hd, d.isPunct_of_doc hd]
    exact ⟨rfl, rfl⟩
  exact close?_apart hdoc (List.forall_mem_nil _) depth x y

theorem inside_apart {b : Bracket} {e e' x y : List Token}
    (h : Option.Rel (Apart e e' x y) (b.close? 0 (x ++ (e ++ y))) (b.close? 0 (x ++ (e' ++ y))))
    : Apart e e' x y (b.inside (x ++ (e ++ y))) (b.inside (x ++ (e' ++ y))) := by
  unfold inside
  generalize b.close? 0 (x ++ (e ++ y)) = r, b.close? 0 (x ++ (e' ++ y)) = r' at h
  cases h with
  | some h => exact h
  | none => exact .behind y [] (List.prefix_refl y) List.nil_suffix

end Bracket

theorem splitExpression_doc (hd : d.kind = .doc) (depth : Nat) (x y : List Token)
    : Apart [d] [] x y (splitExpression depth (x ++ d :: y)) (splitExpression depth (x ++ y)) := by
  induction x generalizing depth with
  | nil =>
    rw [List.nil_append, List.nil_append, splitExpression, d.isPunctOf_of_doc hd,
      d.isPunctOf_of_doc hd, d.isPunctOf_of_doc hd, Bool.and_false, if_neg Bool.false_ne_true,
      if_neg Bool.false_ne_true, if_neg Bool.false_ne_true]
    exact .behind _ _ ⟨_, splitExpression_append depth y⟩ (splitExpression_suffix depth y)
  | cons t x ih =>
    -- A token that is taken on both sides is taken before what follows it.
    have hcons : ∀ {r r'}, Apart [d] [] x y r r' →
        Apart [d] [] (t :: x) y (t :: r.1, r.2) (t :: r'.1, r'.2) := by
      intro r r' h
      cases h with
      | before taken rest h => exact .before (t :: taken) rest (h.trans (List.suffix_cons t x))
      | behind inside after h h' => exact .behind inside after h h'
    rw [List.cons_append, List.cons_append, splitExpression, splitExpression]
    split
    · exact hcons (ih _)
    · split
      · exact .before [] (t :: x) (List.suffix_refl _)
      · exact hcons (ih _)

theorem kind_of_splitExpression {depth : Nat} {tokens after : List Token} {t : Token}
    (h : (splitExpression depth tokens).2 = t :: after) : t.kind = .punct := by
  induction tokens generalizing depth with
  | nil => cases h
  | cons t' rest ih =>
    rw [splitExpression] at h
    split at h
    · exact ih h
    · split at h
      · next hmark =>
        rw [List.cons.injEq] at h
        rw [Bool.and_eq_true, Token.isPunctOf, Bool.and_eq_true, beq_iff_eq] at hmark
        rw [← h.1]
        exact hmark.2.1
      · exact ih h

end DeprecatedUse.Java
