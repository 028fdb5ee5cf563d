import DeprecatedUse.Proofs.Java.Frames.Classes

/-!
This module contains how far the blocks that the search has open mirror those of the text: one for
each brace and one for each lambda with an expression around a token. They do at every token up to
the first declaration that reaches past the end of a lambda around it. Behind it the block of this
lambda is open to the end of the body.
-/

namespace DeprecatedUse.Java

namespace Access

/-! Lambdas around a token. -/

/--
How many tokens are left where the lambdas with expressions end whose arrows stand before these
tokens, the nearest first. An arrow that a body begins with is none of a lambda.
-/
def lambdaStops : List Token → List Token → List Nat
  | [], _ => []
  | t :: before, left =>
    if t.isPunct "->" && !before.isEmpty && !starts (·.isPunct "\x7b") left then
      (splitExpression 0 left).2.length :: lambdaStops before (t :: left)
    else
      lambdaStops before (t :: left)

def lambdasAround (before left : List Token) : List Nat :=
  (lambdaStops before left).filter (· < left.length)

/--
The blocks around the next token: that of the body, those of the braces that are open, and those of
the lambdas around the token.
-/
def blocksAround (before left : List Token) : Nat :=
  1 + (openBraces before.reverse).length + (lambdasAround before left).length

theorem lambdasAround_cons (before : List Token) (t : Token) (rest : List Token)
    : lambdasAround before (t :: rest)
        =
      (lambdaStops before (t :: rest)).filter (· ≤ rest.length) := by
  refine List.filter_congr fun e _ => ?_
  rw [List.length_cons, decide_eq_decide]
  exact Nat.lt_succ_iff

theorem length_splitExpression_le {depth depth' : Nat} (h : depth ≤ depth') (tokens : List Token)
    : (splitExpression depth' tokens).2.length ≤ (splitExpression depth tokens).2.length := by
  induction tokens generalizing depth depth' with
  | nil => exact Nat.le_refl _
  | cons t rest ih =>
    have hle := (splitExpression_suffix depth' (t :: rest)).length_le
    rw [splitExpression] at hle ⊢
    rw [splitExpression]
    split
    · exact ih (Nat.succ_le_succ h)
    · next hopening =>
      rw [if_neg hopening] at hle
      by_cases hends : (depth = 0 && t.isPunctOf [")", "]", "\x7d", ",", ";"]) = true
      · rw [if_pos hends]
        exact hle
      · have hends' : ¬ (depth' = 0 && t.isPunctOf [")", "]", "\x7d", ",", ";"]) = true := by
          intro hends'
          rw [Bool.and_eq_true, decide_eq_true_iff] at hends hends'
          exact hends ⟨by omega, hends'.2⟩
        rw [if_neg hends, if_neg hends']
        apply ih
        split
        · omega
        · exact h

theorem endsAt_of_mem_lambdaStops {e : Nat} {before left : List Token}
    (h : e ∈ lambdaStops before left) : EndsAt e left := by
  induction before generalizing left with
  | nil => cases h
  | cons t before ih =>
    rw [lambdaStops] at h
    split at h
    · obtain rfl | h := List.mem_cons.1 h
      · exact .inr ⟨0, rfl⟩
      · exact (ih h).tail
    · exact (ih h).tail

theorem pairwise_lambdaStops (before left : List Token)
    : ((lambdaStops before left).filter (· ≤ left.length)).Pairwise (· ≥ ·) := by
  induction before generalizing left with
  | nil => exact .nil
  | cons t before ih =>
    have hrest : ((lambdaStops before (t :: left)).filter (· ≤ left.length)).Pairwise (· ≥ ·) := by
      refine (ih (t :: left)).sublist (List.monotone_filter_right _ fun e he => ?_)
      rw [decide_eq_true_iff] at he ⊢
      exact Nat.le_succ_of_le he
    rw [lambdaStops]
    split
    · rw [List.filter_cons]
      split
      · refine List.pairwise_cons.2 ⟨fun e he => ?_, hrest⟩
        obtain ⟨hmem, hle⟩ := List.mem_filter.1 he
        obtain hlt | ⟨depth, rfl⟩ := (endsAt_of_mem_lambdaStops hmem).tail
        · rw [decide_eq_true_iff] at hle
          omega
        · exact length_splitExpression_le (Nat.zero_le depth) left
      · exact hrest
    · exact hrest

theorem lambdaStops_append {taken : List Token} (h : ∀ u ∈ taken, u.isPunct "->" = false)
    (before left : List Token)
    : lambdaStops (taken.reverse ++ before) left = lambdaStops before (taken ++ left) := by
  induction taken using List.reverseRecOn generalizing left with
  | nil => rfl
  | append_singleton taken t ih =>
    rw [List.forall_mem_append, List.forall_mem_singleton] at h
    rw [List.reverse_append, List.reverse_singleton, List.singleton_append, List.cons_append,
      lambdaStops, h.2, Bool.false_and, Bool.false_and, if_neg Bool.false_ne_true, ih h.1,
      List.append_assoc, List.singleton_append]

theorem leaveLambdas_eq_filter {left : Nat} {stops : List Nat} (hsorted : stops.Pairwise (· ≥ ·))
    (hle : ∀ e ∈ stops, e ≤ left) (scopes : Scopes)
    : (leaveLambdas left scopes stops).2 = stops.filter (· < left) := by
  induction stops generalizing scopes with
  | nil => rfl
  | cons stop stops ih =>
    rw [List.pairwise_cons] at hsorted
    rw [List.forall_mem_cons] at hle
    rw [leaveLambdas]
    split
    · next heq =>
      rw [ih hsorted.2 hle.2, List.filter_cons_of_neg]
      simp [heq]
    · next hne =>
      symm
      rw [List.filter_eq_self]
      intro e he
      rw [decide_eq_true_iff]
      obtain rfl | he := List.mem_cons.1 he
      · omega
      · have hge := hsorted.1 e he
        omega

/-! Single steps. -/

theorem step_lambdaEnds_eq (s : State) (before : List Token) (t : Token) (rest : List Token)
    : (step s before t rest).1.lambdaEnds
        =
      if t.isPunct "->" && !before.isEmpty && !starts (·.isPunct "\x7b") rest then
        (splitExpression 0 rest).2.length :: s.lambdaEnds
      else
        s.lambdaEnds := by
  have hbrace : ∀ mark, t.isPunct mark = true → mark ≠ "->" → t.isPunct "->" = false := by
    intro mark ht hne
    rw [Token.isPunct_of_isPunct ht]
    exact beq_eq_false_iff_ne.2 hne
  rw [step]
  split
  · next ht => simp [hbrace _ ht (by decide)]
  split
  · next ht => simp [hbrace _ ht (by decide)]
  split
  · next harrow =>
    rw [harrow, Bool.true_and]
    dsimp only
    split
    · next hrest => simp [hrest]
    · next hrest => simp [hrest]
  · next harrow =>
    rw [Bool.not_eq_true] at harrow
    rw [harrow, Bool.false_and, if_neg Bool.false_ne_true]
    split
    · split <;> rfl
    · split
      · split <;> rfl
      · rfl

theorem isIdent_of_local? {t : Token} {rest : List Token} {v : Local}
    (h : local? false (t :: rest) = some v) : t.isIdent = true ∧ t.isWord "instanceof" = false := by
  rw [Cursor.local?_eq, Option.bind_eq_some_iff] at h
  obtain ⟨split, hsplit, -⟩ := h
  rw [List.dropWhile_cons] at hsplit
  split at hsplit
  · next hfinal =>
    rw [Token.isWord, Bool.and_eq_true] at hfinal
    refine ⟨hfinal.1, ?_⟩
    rw [Token.isWord, hfinal.1, eq_of_beq hfinal.2]
    decide
  · rw [splitType?] at hsplit
    split at hsplit
    · next hplain =>
      exact ⟨isIdent_of_isPlain hplain, isWord_of_isPlain hplain (by decide)⟩
    · cases hsplit

theorem step_of_local? {before rest : List Token} {t : Token} {v : Local}
    (hstart : isStatementStart before = true) (h : local? false (t :: rest) = some v) (s : State)
    : step s before t rest = (s.declare v, v.length - 1) := by
  obtain ⟨hident, hword⟩ := isIdent_of_local? h
  rw [step_other (Token.isPunctOf_of_isIdent hident _) hword, if_pos hstart, h]

theorem length_pos_of_local? {pattern : Bool} {tokens : List Token} {v : Local}
    (h : local? pattern tokens = some v) : 0 < v.length := by
  rw [Cursor.local?_eq] at h
  obtain ⟨⟨type, behind⟩, htype, h⟩ := Option.bind_eq_some_iff.1 h
  obtain ⟨happend, -⟩ := splitType?_isTypePart htype
  cases behind with
  | nil => cases h
  | cons name rest =>
    rw [Cursor.localBehind] at h
    dsimp only at h
    rw [Option.ite_none_right_eq_some, Option.some.injEq] at h
    obtain ⟨-, rfl⟩ := h
    have hlength := (List.dropWhile_suffix (l := tokens) (·.isWord "final")).length_le
    rw [← happend, List.length_append, List.length_cons] at hlength
    dsimp only
    omega

theorem step_skip (s : State) (before : List Token) (t : Token) (rest : List Token)
    : (step s before t rest).2 = 0
      ∨ (step s before t rest).2 = 1 ∧ t.isPunct "->" = true
        ∧ starts (·.isPunct "\x7b") rest = true
      ∨ isStatementStart before = true
        ∧ ∃ v, local? false (t :: rest) = some v ∧ (step s before t rest).2 = v.length - 1 := by
  rw [step]
  split
  · exact .inl rfl
  split
  · exact .inl rfl
  split
  · next harrow =>
    rw [Bool.and_eq_true] at harrow
    dsimp only
    split
    · next hrest => exact .inr (.inl ⟨rfl, harrow.1, hrest⟩)
    · exact .inl rfl
  split
  · split <;> exact .inl rfl
  split
  · next hstart =>
    split
    · exact .inl rfl
    · next v hv => exact .inr (.inr ⟨hstart, v, hv, rfl⟩)
  · exact .inl rfl

/-! Moments of the search. -/

namespace Moment

def Opens (m : Moment) : Prop :=
  m.state.lambdaEnds = (lambdaStops m.before m.left).filter (· ≤ m.left.length)

/--
A declaration is read here that reaches past the end of a lambda around it.
-/
def Oversteps (m : Moment) : Prop :=
  isStatementStart m.before = true
    ∧ ∃ v, local? false m.left = some v
      ∧ ∃ e ∈ lambdasAround m.before m.left, m.left.length < e + v.length

/--
The search has as many blocks open as there are around, and all its lambdas end later on.
-/
structure Mirrors (m : Moment) : Prop where
  depth : (m.state.at m.left.length).scopes.depth = blocksAround m.before m.left
  ends : ∀ e ∈ (m.state.at m.left.length).lambdaEnds, e < m.left.length

theorem opens_start (body : Body) : (start body).Opens :=
  rfl

variable {m : Moment} {s : State} {before rest : List Token} {t : Token}

theorem Opens.lambdaEnds (h : m.Opens)
    : m.state.lambdaEnds = (lambdaStops m.before m.left).filter (· ≤ m.left.length) :=
  h

theorem Opens.onTime (h : m.Opens) : m.OnTime := by
  intro e he
  rw [h.lambdaEnds] at he
  exact of_decide_eq_true (List.mem_filter.1 he).2

theorem Opens.at_lambdaEnds (h : m.Opens)
    : (m.state.at m.left.length).lambdaEnds = lambdasAround m.before m.left := by
  have hsorted := pairwise_lambdaStops m.before m.left
  rw [← h.lambdaEnds] at hsorted
  rw [State.at_eq, leaveLambdas_eq_filter hsorted h.onTime, h.lambdaEnds, List.filter_filter,
    lambdasAround]
  refine List.filter_congr fun e _ => ?_
  grind

theorem Opens.at_cons_lambdaEnds (h : Opens ⟨s, before, t :: rest⟩)
    : (s.at (rest.length + 1)).lambdaEnds = lambdasAround before (t :: rest) :=
  h.at_lambdaEnds

theorem not_arrow_of_skipped (s : State) (before : List Token) (t : Token) (rest : List Token)
    : ∀ u ∈ rest.take (step s before t rest).2, u.isPunct "->" = false := by
  intro u hu
  rw [Bool.eq_false_iff]
  intro harrow
  obtain htype | hbrace := step_skips s before t rest u hu
  · rw [isTypePart_eq_false harrow (by decide)] at htype
    cases htype
  · rw [Token.isPunct_of_isPunct harrow] at hbrace
    exact absurd hbrace (by decide)

theorem Opens.behind (h : Opens ⟨s, before, t :: rest⟩)
    (hontime : (Moment.behind s before t rest).OnTime) : (Moment.behind s before t rest).Opens := by
  have hends : (step (s.at (rest.length + 1)) before t rest).1.lambdaEnds
      = (lambdaStops (t :: before) rest).filter (· ≤ rest.length) := by
    rw [step_lambdaEnds_eq, h.at_cons_lambdaEnds, lambdasAround_cons, lambdaStops]
    split
    · rw [List.filter_cons_of_pos]
      exact decide_eq_true (splitExpression_suffix 0 rest).length_le
    · rfl
  have hstops := lambdaStops_append (not_arrow_of_skipped (s.at (rest.length + 1)) before t rest)
    (t :: before) (rest.drop (step (s.at (rest.length + 1)) before t rest).2)
  rw [List.take_append_drop] at hstops
  -- No lambda ends among the tokens that were read with `t`.
  rw [Opens, Moment.behind, hends, hstops]
  refine List.filter_congr fun e he => ?_
  rw [decide_eq_decide]
  constructor
  · intro hle
    refine hontime e ?_
    rw [Moment.behind, hends]
    exact List.mem_filter.2 ⟨he, decide_eq_true hle⟩
  · intro hle
    exact hle.trans (List.drop_suffix _ rest).length_le

theorem Opens.onTime_behind (h : Opens ⟨s, before, t :: rest⟩)
    (hover : ¬ Oversteps ⟨s, before, t :: rest⟩) : (Moment.behind s before t rest).OnTime := by
  intro e he
  rw [Moment.behind] at he ⊢
  dsimp only at he ⊢
  rw [List.length_drop]
  have hle : ∀ e ∈ lambdasAround before (t :: rest), e ≤ rest.length := by
    rw [lambdasAround_cons]
    exact fun e he => of_decide_eq_true (List.mem_filter.1 he).2
  rw [step_lambdaEnds_eq, h.at_cons_lambdaEnds] at he
  obtain hzero | ⟨hone, harrow, hbrace⟩ | ⟨hstart, v, hlocal, hlength⟩ :=
    step_skip (s.at (rest.length + 1)) before t rest
  · rw [hzero]
    split at he
    · obtain rfl | he := List.mem_cons.1 he
      · exact (splitExpression_suffix 0 rest).length_le
      · exact hle e he
    · exact hle e he
  · -- An expression does not end at the brace behind the arrow.
    rw [hbrace, Bool.not_true, Bool.and_false, if_neg Bool.false_ne_true] at he
    rw [hone]
    obtain ⟨hmem, hlt⟩ := List.mem_filter.1 he
    cases rest with
    | nil => cases hbrace
    | cons opening inside =>
      obtain hpassed | ⟨depth, rfl⟩ := (endsAt_of_mem_lambdaStops hmem).tail
      · rw [decide_eq_true_iff, List.length_cons] at hlt
        omega
      · have hopening : opening.isPunctOf ["(", "[", "\x7b"] = true := by
          rw [Token.isPunctOf_of_isPunct hbrace]
          decide
        rw [splitExpression, if_pos hopening]
        exact (splitExpression_suffix (depth + 1) inside).length_le
  · have harrow : t.isPunct "->" = false := by
      rw [Bool.eq_false_iff]
      intro harrow
      rw [local?_of_isPunct harrow rest] at hlocal
      cases hlocal
    rw [harrow, Bool.false_and, Bool.false_and, if_neg Bool.false_ne_true] at he
    have hwithin : ¬ rest.length + 1 < e + v.length := fun hlt =>
      hover ⟨hstart, v, hlocal, e, he, hlt⟩
    have hpos := length_pos_of_local? hlocal
    rw [hlength]
    omega

theorem Opens.not_onTime_behind (h : Opens ⟨s, before, t :: rest⟩)
    (hover : Oversteps ⟨s, before, t :: rest⟩) : ¬ (Moment.behind s before t rest).OnTime := by
  intro hontime
  obtain ⟨hstart, v, hlocal, e, he, hlt⟩ := hover
  have hpos := length_pos_of_local? hlocal
  have hle := hontime e (by
    rw [Moment.behind, step_of_local? hstart hlocal]
    exact h.at_cons_lambdaEnds ▸ he)
  rw [Moment.behind, step_of_local? hstart hlocal] at hle
  dsimp only at hle hlt
  rw [List.length_drop] at hle
  rw [List.length_cons] at hlt
  have hlong := length_le_of_local? hlocal
  rw [List.length_cons] at hlong
  omega

end Moment

/-! Runs of the search. -/

namespace Searches

variable {env : Surroundings} {body : Body} {m m' : Moment} {found found' : List Access}

theorem length_le (h : Searches env m found m') : m'.left.length ≤ m.left.length := by
  obtain ⟨_, hbinds⟩ := h.exists_binds 0
  exact hbinds.suffix.length_le

theorem depth_at (h : Searches env (Moment.start body) found m) (hnested : Nested body.tokens)
    (hleft : m.left ≠ [])
    : (m.state.at m.left.length).scopes.depth
        =
      1 + (openBraces m.before.reverse).length
        + (m.state.at m.left.length).lambdaEnds.length := by
  obtain ⟨htokens, bound, frames, lambdas, hwithin⟩ := h.exists_within hnested
  have hlength := congrArg List.length htokens
  rw [List.length_append] at hlength
  obtain ⟨frames', lambdas', hat, -, -⟩ := hwithin.leave (region_body hnested)
    (List.length_pos_of_ne_nil hleft) (by rw [List.append_nil]; omega)
  obtain ⟨opened, hopened, hframes⟩ := hat.frames
  have hbraces : openBraces m.before.reverse = opened := by
    rw [openBraces, hopened, Option.getD_some]
  have hnone : (Moment.start body).state.lambdaEnds = [] := rfl
  have hone : (Moment.start body).state.scopes.depth = 1 := Scopes.depth_declareAll _ _
  rw [hat.depth_eq, hat.lambdaEnds, hnone, List.append_nil, hbraces, hone, hframes]
  omega

theorem opens (h : Searches env m found m') (hopens : m.Opens) (hontime : m'.OnTime)
    : m'.Opens := by
  induction h with
  | refl => exact hopens
  | step h ih =>
    obtain ⟨_, hbinds⟩ := h.exists_binds 0
    exact ih (hopens.behind (hbinds.onTime hontime)) hontime

theorem opens_of_not_oversteps (h : Searches env m found m') (hopens : m.Opens)
    (hover : ∀ found₁ m₁, Searches env m found₁ m₁ → m'.left.length < m₁.left.length →
      ¬ m₁.Oversteps)
    : m'.Opens := by
  induction h with
  | refl => exact hopens
  | @step s before t rest found m' h ih =>
    have hlt : m'.left.length < (t :: rest).length :=
      Nat.lt_succ_of_le (h.length_le.trans (List.drop_suffix _ rest).length_le)
    have hontime := hopens.onTime_behind (hover [] _ (.refl _) hlt)
    exact ih (hopens.behind hontime) fun found₁ m₁ h₁ => hover _ m₁ (.step h₁)

end Searches

/-! Braces. -/

theorem lambdasAround_of_contained {tokens back : List Token} (h : Contained tokens back)
    (before : List Token)
    : lambdasAround (tokens.reverse ++ before) back
        =
      (lambdaStops before (tokens ++ back)).filter (· < back.length) := by
  have hfront : ∀ x y, tokens = x ++ y
      → (lambdaStops (x.reverse ++ before) (y ++ back)).filter (· < back.length)
        = (lambdaStops before (tokens ++ back)).filter (· < back.length) := by
    intro x
    induction x using List.reverseRecOn with
    | nil =>
      rintro y rfl
      rfl
    | append_singleton x t ih =>
      intro y htokens
      rw [List.append_assoc, List.singleton_append] at htokens
      rw [← ih (t :: y) htokens, List.reverse_append, List.reverse_singleton,
        List.singleton_append, List.cons_append, lambdaStops, List.cons_append]
      split
      · next harrow =>
        rw [Bool.and_eq_true, Bool.and_eq_true, Bool.not_eq_true', Bool.not_eq_true'] at harrow
        have hle := h x t y htokens harrow.1.1 harrow.2
        rw [List.filter_cons_of_neg]
        simpa using hle
      · rfl
  exact hfront tokens [] (List.append_nil tokens).symm

namespace Block

variable (b : Block)

def IsClosedAt (m : Moment) : Prop :=
  m.before = b.inner.reverse ++ b.opening :: b.head.reverse ∧ m.left = b.closing :: b.back

theorem lambdasAround_closing
    : lambdasAround (b.inner.reverse ++ b.opening :: b.head.reverse) (b.closing :: b.back)
        =
      lambdasAround b.head.reverse (b.opening :: (b.inner ++ b.closing :: b.back)) := by
  have hcontained : Contained b.inner (b.closing :: b.back) :=
    .of_nested b.nested (.inr (endsExpression_of_isClosing b.closing_isClosing))
  have harrow : b.opening.isPunct "->" = false := by
    rw [Token.isPunct_of_isPunct b.opening_eq]
    decide
  rw [lambdasAround_of_contained hcontained, lambdaStops, harrow, Bool.false_and, Bool.false_and,
    if_neg Bool.false_ne_true, lambdasAround]
  refine List.filter_congr fun e he => ?_
  have hside := b.le_or_lt_of_endsAt (endsAt_of_mem_lambdaStops he)
  rw [decide_eq_decide]
  simp only [List.length_cons, List.length_append] at hside ⊢
  omega

theorem blocksAround_closing (h : Nested b.tokens)
    : blocksAround (b.inner.reverse ++ b.opening :: b.head.reverse) (b.closing :: b.back)
        =
      blocksAround b.head.reverse (b.opening :: (b.inner ++ b.closing :: b.back)) + 1 := by
  have hbefore : (b.inner.reverse ++ b.opening :: b.head.reverse).reverse
      = b.head ++ [b.opening] ++ b.inner := by
    simp
  rw [blocksAround, blocksAround, lambdasAround_closing, hbefore,
    openBraces_append (.of_nested b.nested), openBraces_opening h b.opening_eq,
    List.reverse_reverse, List.length_cons]
  omega

end Block

/--
At a token the blocks that are open are those around it, exactly if no declaration before it reaches
past the end of a lambda around that declaration. Then a closing brace leaves as many blocks open as
there are around its opening brace.
-/
theorem mirrors_iff {env : Surroundings} {body : Body} {found : List Access} {m : Moment}
    (hnested : Nested body.tokens) (hsearch : Searches env (Moment.start body) found m)
    (hleft : m.left ≠ [])
    : (m.Mirrors ↔ ∀ found' m', Searches env (Moment.start body) found' m' →
          m.left.length < m'.left.length → ¬ m'.Oversteps)
        ∧ (m.Mirrors → ∀ b : Block, b.IsClosedAt m →
          (m.state.at m.left.length).scopes.pop.depth
            = blocksAround b.head.reverse (b.opening :: (b.inner ++ b.closing :: b.back))) := by
  have hdepth := hsearch.depth_at hnested hleft
  refine ⟨⟨?_, ?_⟩, ?_⟩
  · intro hmirrors found' m' hsearch' hlt hover
    -- A lambda that was left open behind `m'` would still be open at `m`.
    have hontime : m.OnTime := by
      intro e he
      by_contra hpast
      rw [Nat.not_le] at hpast
      have hstays : e ∈ (m.state.at m.left.length).lambdaEnds :=
        mem_leaveLambdas he (Nat.ne_of_gt hpast) m.state.scopes
      exact absurd (hmirrors.ends e hstays) (Nat.not_lt_of_gt hpast)
    obtain ⟨_, hbinds⟩ := hsearch.exists_binds 0
    obtain ⟨_, hbinds'⟩ := hsearch'.exists_binds 0
    obtain ⟨_, hrest, -⟩ := hbinds.split hbinds' (Nat.le_of_lt hlt)
    have hopens := hsearch'.opens (Moment.opens_start body) (hrest.onTime hontime)
    obtain ⟨s, before, left⟩ := m'
    cases left with
    | nil => exact absurd hlt (Nat.not_lt_zero _)
    | cons t rest =>
      obtain ⟨_, hbehind, -⟩ := hrest.behind (Nat.le_of_lt_succ hlt)
      exact hopens.not_onTime_behind hover (hbehind.onTime hontime)
  · intro hover
    have hopens := hsearch.opens_of_not_oversteps (Moment.opens_start body) hover
    rw [hopens.at_lambdaEnds] at hdepth
    refine ⟨hdepth, ?_⟩
    rw [hopens.at_lambdaEnds]
    exact fun e he => of_decide_eq_true (List.mem_filter.1 he).2
  · rintro hmirrors b ⟨hbefore, hclosing⟩
    have htokens : b.tokens = body.tokens := by
      rw [(hsearch.exists_within hnested).1, hbefore, hclosing]
      simp [Block.tokens]
    rw [Scopes.depth_pop, hmirrors.depth, hbefore, hclosing,
      b.blocksAround_closing (htokens ▸ hnested)]
    have hpositive : 0 < blocksAround b.head.reverse
        (b.opening :: (b.inner ++ b.closing :: b.back)) := by
      rw [blocksAround]
      omega
    omega

def lambdaClass : Block where
  head := [.onFirstLine .ident "f" 0, .onFirstLine .punct "(" 1, .onFirstLine .ident "x" 2,
    .onFirstLine .punct "->" 4, .onFirstLine .ident "new" 7, .onFirstLine .ident "R" 11,
    .onFirstLine .punct "(" 12, .onFirstLine .punct ")" 13]
  opening := .onFirstLine .punct "\x7b" 15
  inner := [.onFirstLine .ident "int" 17, .onFirstLine .ident "y" 21, .onFirstLine .punct ";" 22]
  closing := .onFirstLine .punct "\x7d" 24
  back := [.onFirstLine .punct ")" 25, .onFirstLine .punct ";" 26]
  opening_eq := by decide
  closing_eq := by decide
  nested := by decide

def behindClass : Moment :=
  ((Moment.start ⟨0, [], lambdaClass.tokens⟩).follow 1 11).2

theorem mirrors_iff_lambdaClass
    : ∃ found, Nested lambdaClass.tokens
        ∧ Searches ⟨{}, [], 0⟩ (.start ⟨0, [], lambdaClass.tokens⟩) found behindClass
        ∧ behindClass.left ≠ [] ∧ lambdaClass.IsClosedAt behindClass
        ∧ (behindClass.state.at 3).scopes.depth = 3
        ∧ (∀ found' m', Searches ⟨{}, [], 0⟩ (.start ⟨0, [], lambdaClass.tokens⟩) found' m' →
          3 < m'.left.length → ¬ m'.Oversteps)
        ∧ (behindClass.state.at 3).scopes.pop.depth
          = blocksAround lambdaClass.head.reverse (lambdaClass.tokens.drop 8) := by
  obtain ⟨found, hsearch⟩ : ∃ found,
      Searches ⟨{}, [], 0⟩ (.start ⟨0, [], lambdaClass.tokens⟩) found behindClass :=
    Searches.follow _ 1 11 _
  have hnested : Nested lambdaClass.tokens := by decide +kernel
  have hleft : behindClass.left ≠ [] := by decide +kernel
  have hlength : behindClass.left.length = 3 := by decide +kernel
  have hmirrors : behindClass.Mirrors := ⟨by decide +kernel, by decide +kernel⟩
  have hclosed : lambdaClass.IsClosedAt behindClass := ⟨by decide +kernel, by decide +kernel⟩
  obtain ⟨hiff, hbraces⟩ := mirrors_iff hnested hsearch hleft
  have hdepth := hbraces hmirrors lambdaClass hclosed
  rw [hlength] at hdepth
  refine ⟨found, hnested, hsearch, hleft, hclosed, by decide +kernel, fun found' m' h hlt => ?_,
    hdepth⟩
  exact hiff.1 hmirrors found' m' h (hlength ▸ hlt)

/--
The statements `f(x -> c ? d : a < b, e > g); x.close();` from column 28 on.
-/
def twoComparisons : List Token :=
  [.onFirstLine .ident "f" 28, .onFirstLine .punct "(" 29, .onFirstLine .ident "x" 30,
    .onFirstLine .punct "->" 32, .onFirstLine .ident "c" 35, .onFirstLine .punct "?" 37,
    .onFirstLine .ident "d" 39, .onFirstLine .punct ":" 41, .onFirstLine .ident "a" 43,
    .onFirstLine .punct "<" 45, .onFirstLine .ident "b" 47, .onFirstLine .punct "," 48,
    .onFirstLine .ident "e" 50, .onFirstLine .punct ">" 52, .onFirstLine .ident "g" 54,
    .onFirstLine .punct ")" 55, .onFirstLine .punct ";" 56, .onFirstLine .ident "x" 58,
    .onFirstLine .punct "." 59, .onFirstLine .ident "close" 60, .onFirstLine .punct "(" 65,
    .onFirstLine .punct ")" 66, .onFirstLine .punct ";" 67]

def atComparison : Moment :=
  ((Moment.start ⟨0, [], twoComparisons⟩).follow 1 8).2

def atClose : Moment :=
  ((Moment.start ⟨0, [], twoComparisons⟩).follow 1 12).2

/--
Two comparisons are read as a declaration that reaches over the end of a lambda. Its block is still
open in the next statement, so the name of its parameter hides the field there.
-/
theorem twoComparisons_overstep
    : ∃ tokens found found',
        tokenize "class A { Old x; void m() { f(x -> c ? d : a < b, e > g); x.close(); } }"
          = .ok tokens
        ∧ (outline tokens).bodies = [⟨0, [], twoComparisons⟩] ∧ Nested twoComparisons
        ∧ Searches ⟨(outline tokens).typeNames, (outline tokens).declarations.types, 0⟩
            (.start ⟨0, [], twoComparisons⟩) found atComparison
        ∧ atComparison.Oversteps
        ∧ Searches ⟨(outline tokens).typeNames, (outline tokens).declarations.types, 0⟩
            (.start ⟨0, [], twoComparisons⟩) found' atClose
        ∧ atClose.left.head? = some (.onFirstLine .punct "." 59)
        ∧ blocksAround atClose.before atClose.left = 1
        ∧ (atClose.state.at atClose.left.length).scopes.depth = 2
        ∧ (∃ e ∈ (atClose.state.at atClose.left.length).lambdaEnds, atClose.left.length < e)
        ∧ ((outline tokens).bodies.flatMap (Access.ofBody (outline tokens).typeNames
            (outline tokens).declarations.types)).map (·.receiverType) = [none] := by
  have hcheck : (tokenize
      "class A { Old x; void m() { f(x -> c ? d : a < b, e > g); x.close(); } }"
      |>.toOption.any fun tokens =>
        decide ((outline tokens).bodies.map (fun body => (body.owner, body.parameters, body.tokens))
            = [(0, [], twoComparisons)]
          ∧ ((outline tokens).bodies.flatMap (Access.ofBody (outline tokens).typeNames
              (outline tokens).declarations.types)).map (·.receiverType) = [none])) = true := by
    decide +kernel
  obtain ⟨tokens, htokens, hcheck⟩ := exists_tokenize_ok hcheck
  rw [decide_eq_true_eq] at hcheck
  obtain ⟨hbodies, huses⟩ := hcheck
  obtain ⟨⟨owner, parameters, own⟩, hsingle, hbody⟩ := List.map_eq_singleton_iff.1 hbodies
  rw [Prod.mk.injEq, Prod.mk.injEq] at hbody
  obtain ⟨rfl, rfl, rfl⟩ := hbody
  obtain ⟨found, hsearch⟩ := Searches.follow
    ⟨(outline tokens).typeNames, (outline tokens).declarations.types, 0⟩ 1 8
    (.start ⟨0, [], twoComparisons⟩)
  obtain ⟨found', hsearch'⟩ := Searches.follow
    ⟨(outline tokens).typeNames, (outline tokens).declarations.types, 0⟩ 1 12
    (.start ⟨0, [], twoComparisons⟩)
  have hover : atComparison.Oversteps := by
    refine ⟨by decide +kernel, _, rfl, ?_⟩
    decide +kernel
  exact ⟨tokens, found, found', htokens, hsingle, by decide +kernel, hsearch, hover, hsearch',
    by decide +kernel, by decide +kernel, by decide +kernel, by decide +kernel, huses⟩

end Access

end DeprecatedUse.Java
