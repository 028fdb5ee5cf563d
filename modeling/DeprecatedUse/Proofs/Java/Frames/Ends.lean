import DeprecatedUse.Proofs.Java.Fields.Declarations
import DeprecatedUse.Proofs.Java.Nesting
import DeprecatedUse.Proofs.Java.Searching

/-!
This module contains the ends of the expressions of lambdas. The end of an expression is fixed where
its arrow stands: it does not lie inside of a group of brackets that starts in the expression, nor
behind a group around it.
-/

namespace DeprecatedUse.Java

namespace Token

theorem isPunctOf_disjoint {t : Token} {marks marks' : List String}
    (h : t.isPunctOf marks = true) (hmarks : ∀ mark ∈ marks, mark ∉ marks')
    : t.isPunctOf marks' = false := by
  rw [isPunctOf, Bool.and_eq_true, List.contains_iff_mem] at h
  rw [isPunctOf, h.1, Bool.true_and, Bool.eq_false_iff, ne_eq, List.contains_iff_mem]
  exact hmarks _ h.2

theorem not_bracket_of_isPunct {t : Token} {mark : String} (h : t.isPunct mark = true)
    (hmark : mark ∉ ["(", "[", "\x7b", ")", "]", "\x7d"])
    : t.isOpening = false ∧ t.isClosing = false := by
  rw [← isPunctOf_opening, ← isPunctOf_closing, isPunctOf_of_isPunct h, isPunctOf_of_isPunct h,
    Bool.eq_false_iff, Bool.eq_false_iff, ne_eq, ne_eq, List.contains_iff_mem,
    List.contains_iff_mem]
  exact ⟨fun hmem => hmark (List.mem_append_left [")", "]", "\x7d"] hmem),
    fun hmem => hmark (List.mem_append_right ["(", "[", "\x7b"] hmem)⟩

theorem not_bracket_of_isIdent {t : Token} (h : t.isIdent = true)
    : t.isOpening = false ∧ t.isClosing = false := by
  rw [← isPunctOf_opening, ← isPunctOf_closing]
  exact ⟨isPunctOf_of_isIdent h _, isPunctOf_of_isIdent h _⟩

end Token

/-! Expressions and nested tokens. -/

theorem splitExpression_over {stack tokens : List Token} (hnest : nest? stack tokens = some [])
    (henclosed : EnclosedIn stack tokens) (base back : List Token)
    : (splitExpression (stack ++ base).length (tokens ++ back)).2
        =
      (splitExpression base.length back).2 := by
  induction tokens generalizing stack with
  | nil =>
    rw [nest?_nil, Option.some.injEq] at hnest
    rw [hnest]
    rfl
  | cons t tokens ih =>
    rw [nest?_cons, Option.bind_eq_some_iff] at hnest
    obtain ⟨next, hstep, hnest⟩ := hnest
    obtain ⟨hinside, henclosed⟩ := enclosedIn_cons.1 henclosed
    have hinside' : t.isPunctOf [",", ";"] = true → stack ++ base ≠ [] := fun ht hnil =>
      hinside ht (List.append_eq_nil_iff.1 hnil).1
    rw [List.cons_append, splitExpression_cons (nestStep_frame hstep base) hinside']
    exact ih hnest (henclosed next hstep)

namespace Access

theorem splitExpression_ends {t : Token} (h : endsExpression t = true) (rest : List Token)
    : splitExpression 0 (t :: rest) = ([], t :: rest) := by
  have hopening : t.isPunctOf ["(", "[", "\x7b"] = false :=
    Token.isPunctOf_disjoint h (by decide)
  rw [endsExpression] at h
  rw [splitExpression, hopening, h]
  rfl

theorem endsExpression_of_isClosing {t : Token} (h : t.isClosing = true)
    : endsExpression t = true := by
  rw [← Token.isPunctOf_closing] at h
  exact Token.isPunctOf_mono h (by simp)

def EndsAll (back : List Token) : Prop :=
  back = [] ∨ starts endsExpression back = true

theorem length_splitExpression_of_endsAll {back : List Token} (h : EndsAll back)
    : (splitExpression 0 back).2.length = back.length := by
  rcases h with rfl | h
  · rfl
  · cases back with
    | nil => rfl
    | cons t rest => rw [splitExpression_ends h]

theorem le_splitExpression {above base tokens back : List Token}
    (h : nest? (above ++ base) tokens = some []) (hback : base = [] → EndsAll back)
    : back.length ≤ (splitExpression above.length (tokens ++ back)).2.length := by
  -- The splitter counts the brackets of `above`, which are opened within, and not those of `base`.
  induction tokens generalizing above with
  | nil =>
    rw [nest?_nil, Option.some.injEq, List.append_eq_nil_iff] at h
    obtain ⟨rfl, hbase⟩ := h
    exact (length_splitExpression_of_endsAll (hback hbase)).ge
  | cons t tokens ih =>
    rw [nest?_cons, Option.bind_eq_some_iff] at h
    obtain ⟨next, hstep, hrest⟩ := h
    rw [List.cons_append, splitExpression, Token.isPunctOf_opening, Token.isPunctOf_closing]
    split
    · next hopening =>
      rw [nestStep_opening hopening, Option.some.injEq] at hstep
      subst hstep
      exact ih (show nest? (t :: above ++ base) tokens = some [] from hrest)
    · next hopening =>
      rw [Bool.not_eq_true] at hopening
      split
      · simp only [List.length_cons, List.length_append]
        omega
      · next hgoes =>
        by_cases hclosing : t.isClosing = true
        · obtain ⟨last, hlast, hstack⟩ := nestStep_closing hclosing hstep
          cases above with
          | nil =>
            have hends := endsExpression_of_isClosing hclosing
            rw [endsExpression] at hends
            rw [hends] at hgoes
            exact absurd rfl hgoes
          | cons last' above =>
            rw [List.cons_append, List.cons.injEq] at hstack
            obtain ⟨rfl, rfl⟩ := hstack
            rw [if_pos hclosing]
            exact ih hrest
        · rw [Bool.not_eq_true] at hclosing
          rw [nestStep_other hopening hclosing, Option.some.injEq] at hstep
          subst hstep
          rw [hclosing, if_neg Bool.false_ne_true]
          exact ih hrest

/-! Open expressions. -/

def EndsAt (e : Nat) (left : List Token) : Prop :=
  left.length < e ∨ ∃ depth, (splitExpression depth left).2.length = e

namespace EndsAt

variable {e : Nat} {left rest : List Token}

theorem tail {t : Token} (h : EndsAt e (t :: rest)) : EndsAt e rest := by
  rcases h with h | ⟨depth, h⟩
  · left
    rw [List.length_cons] at h
    omega
  · rw [splitExpression] at h
    split at h
    · exact .inr ⟨_, h⟩
    · split at h
      · left
        rw [← h, List.length_cons]
        omega
      · exact .inr ⟨_, h⟩

theorem suffix (h : EndsAt e left) (hrest : rest <:+ left) : EndsAt e rest := by
  obtain ⟨taken, rfl⟩ := hrest
  induction taken with
  | nil => exact h
  | cons t taken ih => exact ih h.tail

theorem enclosed {tokens back : List Token} (h : EndsAt e (tokens ++ back))
    (hnested : Nested tokens) (henclosed : Enclosed tokens)
    : e ≤ back.length ∨ (tokens ++ back).length < e := by
  rcases h with h | ⟨depth, h⟩
  · exact .inr h
  · left
    have hover := splitExpression_over hnested henclosed (List.replicate depth default) back
    rw [List.nil_append, List.length_replicate] at hover
    rw [← h, hover]
    exact (splitExpression_suffix depth back).length_le

end EndsAt

def Moment.Ending (m : Moment) : Prop :=
  ∀ e ∈ m.state.lambdaEnds, EndsAt e m.left

theorem Moment.ending_start (body : Body) : (start body).Ending :=
  List.forall_mem_nil _

theorem Moment.Ending.behind {s : State} {before rest : List Token} {t : Token}
    (h : Ending ⟨s, before, t :: rest⟩) : (Moment.behind s before t rest).Ending := by
  intro e he
  have hrest : EndsAt e rest := by
    rcases List.mem_cons.1 (step_lambdaEnds _ before t rest he) with rfl | he
    · exact .inr ⟨0, rfl⟩
    · exact (h e (at_lambdaEnds_subset s _ he)).tail
  exact hrest.suffix (List.drop_suffix _ rest)

theorem Searches.ending {env : Surroundings} {m m' : Moment} {found : List Access}
    (h : Searches env m found m') (hending : m.Ending) : m'.Ending := by
  induction h with
  | refl => exact hending
  | step _ ih => exact ih hending.behind

/-! Lambdas inside of tokens. -/

def Contained (tokens back : List Token) : Prop :=
  ∀ x t y, tokens = x ++ t :: y → t.isPunct "->" = true
    → starts (·.isPunct "\x7b") (y ++ back) = false
    → back.length ≤ (splitExpression 0 (y ++ back)).2.length

namespace Contained

variable {tokens tokens' back : List Token}

theorem of_nested (h : Nested tokens) (hback : EndsAll back) : Contained tokens back := by
  rintro x t y rfl ht -
  obtain ⟨hopening, hclosing⟩ := Token.not_bracket_of_isPunct ht (by decide)
  unfold Nested at h
  rw [nest?_append, Option.bind_eq_some_iff] at h
  obtain ⟨stack, -, h⟩ := h
  rw [nest?_cons, nestStep_other hopening hclosing, Option.bind_some] at h
  exact le_splitExpression (show nest? ([] ++ stack) y = some [] from h) fun _ => hback

theorem group {inner : List Token} (h : Nested inner) {t c : Token} (ht : t.isOpening = true)
    (hc : c.isClosing = true) (back : List Token) : Contained (t :: (inner ++ [c])) back := by
  have hinner : Contained inner (c :: back) :=
    of_nested h (.inr (endsExpression_of_isClosing hc))
  rintro x u y heq hu hbrace
  obtain ⟨hopening, hclosing⟩ := Token.not_bracket_of_isPunct hu (by decide)
  cases x with
  | nil =>
    rw [← (List.cons.inj heq).1, ht] at hopening
    cases hopening
  | cons t' x =>
    have hsplit : inner ++ [c] = x ++ u :: y := (List.cons.inj heq).2
    rcases List.eq_nil_or_concat' y with rfl | ⟨y', c', rfl⟩
    · rw [← (List.cons.inj (List.append_inj' hsplit rfl).2).1, hc] at hclosing
      cases hclosing
    · rw [← List.cons_append, ← List.append_assoc] at hsplit
      obtain ⟨hinner', hlast⟩ := List.append_inj' hsplit rfl
      rw [← hlast, List.append_assoc, List.singleton_append] at hbrace ⊢
      have hle := hinner x u y' hinner' hu hbrace
      rw [List.length_cons] at hle
      omega

theorem append (h : Contained tokens (tokens' ++ back)) (h' : Contained tokens' back)
    : Contained (tokens ++ tokens') back := by
  rintro x t y heq ht hbrace
  rcases List.append_eq_append_iff.1 heq with ⟨front, rfl, hrest⟩ | ⟨behind, rfl, hrest⟩
  · exact h' front t y hrest ht hbrace
  · cases behind with
    | nil =>
      rw [List.nil_append] at hrest
      exact h' [] t y hrest.symm ht hbrace
    | cons u behind =>
      rw [List.cons_append, List.cons.injEq] at hrest
      obtain ⟨rfl, rfl⟩ := hrest
      rw [List.append_assoc] at hbrace ⊢
      have hle := h x t behind rfl ht hbrace
      rw [List.length_append] at hle
      omega

theorem of_not_mem (h : ∀ t ∈ tokens, t.isPunct "->" = false) : Contained tokens back := by
  rintro x t y rfl ht -
  rw [h t (by simp)] at ht
  cases ht

end Contained

end Access

end DeprecatedUse.Java
