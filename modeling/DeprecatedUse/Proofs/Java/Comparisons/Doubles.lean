import DeprecatedUse.Proofs.Java.Comparisons.Chains

/-!
This module contains the recognition of declarations of local variables where two `&` are adjacent.
No type has such a pair, but a declaration with it is accepted exactly where the one with a single
`&` is, and of the same name.
-/

namespace DeprecatedUse.Java.Access

def dropPairs (p q : Token → Bool) : List Token → List Token
  | t :: u :: rest => if p t && q u then dropPairs p q rest else t :: u :: rest
  | tokens => tokens

theorem splitDotted_snd (tokens : List Token)
    : (splitDotted tokens).2 = dropPairs (·.isPunct ".") Token.isIdent tokens := by
  fun_induction splitDotted tokens with
  | case1 dot name rest hmark taken after hsplit ih =>
    rw [hsplit] at ih
    rw [dropPairs, if_pos hmark, ← ih]
  | case2 dot name rest hmark => rw [dropPairs, if_neg hmark]
  | case3 tokens hshort => rw [dropPairs]; exact hshort

theorem splitDims_snd (tokens : List Token)
    : (splitDims tokens).2 = dropPairs (·.isPunct "[") (·.isPunct "]") tokens := by
  fun_induction splitDims tokens with
  | case1 opening closing rest hmark taken after hsplit ih =>
    rw [hsplit] at ih
    rw [dropPairs, if_pos hmark, ← ih]
  | case2 opening closing rest hmark => rw [dropPairs, if_neg hmark]
  | case3 tokens hshort => rw [dropPairs]; exact hshort

theorem dropPairs_of_starts {p q : Token → Bool} {tokens : List Token} (h : starts p tokens = false)
    : dropPairs p q tokens = tokens := by
  match tokens with
  | [] => rfl
  | [t] => rfl
  | t :: u :: rest =>
    rw [starts] at h
    rw [dropPairs, h, Bool.false_and, if_neg Bool.false_ne_true]

inductive Doubles : List Token → List Token → Prop where
  | refl (tokens : List Token) : Doubles tokens tokens
  | here {t t' : Token} (ht : t.isPunct "&" = true) (ht' : t'.isPunct "&" = true)
    (rest : List Token) : Doubles (t :: t' :: rest) (t :: rest)
  | cons (t : Token) {tokens tokens' : List Token} (h : Doubles tokens tokens') :
    Doubles (t :: tokens) (t :: tokens')

namespace Doubles

variable {tokens tokens' : List Token}

theorem of_append {t t' : Token} (ht : t.isPunct "&" = true) (ht' : t'.isPunct "&" = true)
    (x y : List Token) : Doubles (x ++ t :: t' :: y) (x ++ t :: y) := by
  induction x with
  | nil => exact .here ht ht' y
  | cons u x ih => exact .cons u ih

theorem dropWhile_isWord (h : Doubles tokens tokens') (word : String)
    : Doubles (tokens.dropWhile (·.isWord word)) (tokens'.dropWhile (·.isWord word)) := by
  induction h with
  | refl => exact .refl _
  | here ht ht' rest =>
    rw [List.dropWhile_cons_of_neg (by simp [Token.isWord_of_isPunct ht]),
      List.dropWhile_cons_of_neg (by simp [Token.isWord_of_isPunct ht])]
    exact .here ht ht' rest
  | cons t h ih =>
    rw [List.dropWhile_cons, List.dropWhile_cons]
    split
    · exact ih
    · exact .cons t h

theorem starts_eq (h : Doubles tokens tokens') (p : Token → Bool)
    : starts p tokens = starts p tokens' := by
  cases h <;> rfl

theorem dropPairs {p q : Token → Bool}
    (hp : ∀ t : Token, t.isPunct "&" = true → p t = false)
    (hq : ∀ t : Token, t.isPunct "&" = true → q t = false) (h : Doubles tokens tokens')
    : Doubles (Access.dropPairs p q tokens) (Access.dropPairs p q tokens') := by
  -- No pair that is dropped holds an ampersand, so the double is kept whole wherever it stands.
  fun_induction Access.dropPairs p q tokens generalizing tokens' with
  | case1 t u rest hmark ih =>
    rw [Bool.and_eq_true] at hmark
    cases h with
    | refl =>
      rw [Access.dropPairs, hmark.1, hmark.2, Bool.and_self, if_pos rfl]
      exact .refl _
    | here ht =>
      rw [hp t ht] at hmark
      cases hmark.1
    | cons _ h =>
      cases h with
      | refl =>
        rw [Access.dropPairs, hmark.1, hmark.2, Bool.and_self, if_pos rfl]
        exact .refl _
      | here hu =>
        rw [hq u hu] at hmark
        cases hmark.2
      | cons _ h =>
        rw [Access.dropPairs, hmark.1, hmark.2, Bool.and_self, if_pos rfl]
        exact ih h
  | case2 t u rest hmark =>
    have hstays : Access.dropPairs p q tokens' = tokens' := by
      cases h with
      | refl => rw [Access.dropPairs, if_neg hmark]
      | here ht => exact dropPairs_of_starts (hp t ht)
      | cons _ h =>
        cases h with
        | refl => rw [Access.dropPairs, if_neg hmark]
        | here => rw [Access.dropPairs, if_neg hmark]
        | cons => rw [Access.dropPairs, if_neg hmark]
    rw [hstays]
    exact h
  | case3 tokens hshort =>
    cases h with
    | refl =>
      rw [Access.dropPairs]
      · exact .refl _
      · exact hshort
    | here => exact absurd rfl (hshort _ _ _)
    | cons t h =>
      cases h with
      | refl =>
        rw [Access.dropPairs]
        · exact .refl _
        · exact hshort
      | here => exact absurd rfl (hshort _ _ _)
      | cons => exact absurd rfl (hshort _ _ _)

theorem endsDeclarator_eq (h : Doubles tokens tokens')
    : endsDeclarator tokens = endsDeclarator tokens' := by
  cases h <;> rfl

theorem isPunct_eq_false {t : Token} (h : t.isPunct "&" = true) {mark : String} (hmark : mark ≠ "&")
    : t.isPunct mark = false := by
  rw [Token.isPunct_of_isPunct h, beq_eq_false_iff_ne]
  exact hmark.symm

theorem splitDotted (h : Doubles tokens tokens')
    : Doubles (Access.splitDotted tokens).2 (Access.splitDotted tokens').2 := by
  rw [splitDotted_snd, splitDotted_snd]
  exact h.dropPairs (fun _ ht => isPunct_eq_false ht (by decide)) fun _ => Token.isIdent_of_isPunct

theorem splitDims (h : Doubles tokens tokens')
    : Doubles (Access.splitDims tokens).2 (Access.splitDims tokens').2 := by
  rw [splitDims_snd, splitDims_snd]
  exact h.dropPairs (fun _ ht => isPunct_eq_false ht (by decide)) fun _ ht =>
    isPunct_eq_false ht (by decide)

/--
What is left behind the two readings of one thing, where both read it.
-/
def Alike : Option (List Token × List Token) → Option (List Token × List Token) → Prop :=
  Option.Rel fun split split' => Doubles split.2 split'.2

theorem Alike.map {r r' : Option (List Token × List Token)} (h : Alike r r')
    (f f' : List Token × List Token → List Token) : Alike
      (r.map fun split => (f split, split.2)) (r'.map fun split => (f' split, split.2)) := by
  cases h with
  | none => exact .none
  | some h => exact .some h

theorem splitArgumentsFrom? (h : Doubles tokens tokens') (depth : Nat)
    : Alike (Access.splitArgumentsFrom? depth tokens)
        (Access.splitArgumentsFrom? depth tokens') := by
  induction h generalizing depth with
  | refl tokens =>
    cases Access.splitArgumentsFrom? depth tokens with
    | none => exact .none
    | some split => exact .some (.refl _)
  | @here t t' ht ht' rest =>
    -- An ampersand belongs to type arguments and changes no depth, be it one or two.
    have hinner : ∀ {u : Token}, u.isPunct "&" = true
        → u.isPunctOf [".", ",", "?", "&", "[", "]", "@"] = true := by
      intro u hu
      rw [Token.isPunctOf_of_isPunct hu]
      rfl
    have hone : ∀ u ∈ [t], u.isIdent = true
        ∨ u.isPunctOf [".", ",", "?", "&", "[", "]", "@"] = true :=
      List.forall_mem_singleton.2 (.inr (hinner ht))
    have htwo : ∀ u ∈ [t, t'], u.isIdent = true
        ∨ u.isPunctOf [".", ",", "?", "&", "[", "]", "@"] = true :=
      List.forall_mem_cons.2 ⟨.inr (hinner ht), List.forall_mem_singleton.2 (.inr (hinner ht'))⟩
    have hread := splitArgumentsFrom?_inner hone depth rest
    have hread' := splitArgumentsFrom?_inner htwo depth rest
    rw [List.cons_append, List.nil_append] at hread
    rw [List.cons_append, List.cons_append, List.nil_append] at hread'
    rw [hread, hread']
    cases Access.splitArgumentsFrom? depth rest with
    | none => exact .none
    | some split => exact .some (.refl _)
  | @cons t tokens tokens' h ih =>
    rw [Access.splitArgumentsFrom?, Access.splitArgumentsFrom?]
    split
    · exact (ih _).map _ _
    · split
      · split
        · exact .some h
        · exact (ih _).map _ _
      · split
        · exact (ih _).map _ _
        · exact .none

theorem splitArguments? (h : Doubles tokens tokens')
    : Alike (Access.splitArguments? tokens) (Access.splitArguments? tokens') := by
  unfold Access.splitArguments?
  rw [h.starts_eq]
  split
  · exact h.splitArgumentsFrom? 0
  · exact .some h

theorem splitType? (h : Doubles tokens tokens')
    : Alike (Access.splitType? tokens) (Access.splitType? tokens') := by
  cases h with
  | refl tokens =>
    cases Access.splitType? tokens with
    | none => exact .none
    | some split => exact .some (.refl _)
  | here ht ht' rest =>
    rw [Access.splitType?, Access.splitType?, isPlain, Token.isIdent_of_isPunct ht]
    exact .none
  | @cons t tokens tokens' h =>
    rw [Access.splitType?, Access.splitType?]
    split
    · dsimp only [Option.bind_eq_bind]
      have harguments := h.splitDotted.splitArguments?
      generalize Access.splitArguments? (Access.splitDotted tokens).2 = r,
        Access.splitArguments? (Access.splitDotted tokens').2 = r' at harguments
      cases harguments with
      | none => exact .none
      | some h => exact .some h.splitDims
    · exact .none

theorem localBehind_name (h : Doubles tokens tokens') (pattern : Bool)
    (whole whole' type type' : List Token)
    : (Cursor.localBehind pattern whole type tokens).map Local.name
        =
      (Cursor.localBehind pattern whole' type' tokens').map Local.name := by
  have hname : ∀ (name : Token) {rest rest' : List Token} {whole whole' type type' : List Token},
      Doubles rest rest' →
        (Cursor.localBehind pattern whole type (name :: rest)).map Local.name
          =
        (Cursor.localBehind pattern whole' type' (name :: rest')).map Local.name := by
    intro name rest rest' whole whole' type type' h
    rw [Cursor.localBehind, Cursor.localBehind]
    dsimp only
    rw [h.splitDims.endsDeclarator_eq]
    split
    · rfl
    · rfl
  cases h with
  | refl =>
    cases tokens with
    | nil => rfl
    | cons name rest => exact hname name (.refl _)
  | @here t t' ht ht' rest =>
    rw [Cursor.localBehind, Cursor.localBehind, isPlain, Token.isIdent_of_isPunct ht]
    rfl
  | cons name h => exact hname name h

theorem local?_name (h : Doubles tokens tokens') (pattern : Bool)
    : (local? pattern tokens).map Local.name = (local? pattern tokens').map Local.name := by
  rw [Cursor.local?_eq, Cursor.local?_eq]
  have htype := (h.dropWhile_isWord "final").splitType?
  generalize Access.splitType? (tokens.dropWhile (·.isWord "final")) = r,
    Access.splitType? (tokens'.dropWhile (·.isWord "final")) = r' at htype
  cases htype with
  | none => rfl
  | some h => exact h.localBehind_name pattern _ _ _ _

end Doubles

end DeprecatedUse.Java.Access
