import DeprecatedUse.Proofs.Java.Frames.Creations

/-!
This module contains the bodies of classes inside of a body. The search remembers the depths of the
bodies of anonymous classes that are open, and there the words `this` and `super` and the fields
behind `this` have no type. Bodies of local types are not remembered, so there they have the type
that they have in the body around.
-/

namespace DeprecatedUse.Java

open Reader (curly_mem_nesting)

namespace Access

/-! Blocks. -/

structure Block where
  head : List Token
  opening : Token
  inner : List Token
  closing : Token
  back : List Token
  opening_eq : opening.isPunct "\x7b" = true
  closing_eq : closing.isPunct "\x7d" = true
  nested : Nested inner

namespace Block

def tokens (b : Block) : List Token :=
  b.head ++ b.opening :: (b.inner ++ b.closing :: b.back)

def IsOpen (b : Block) (m : Moment) : Prop :=
  ∃ x y, b.inner = x ++ y ∧ m.before = x.reverse ++ b.opening :: b.head.reverse
    ∧ m.left = y ++ b.closing :: b.back

/--
The search takes the block for the body of an anonymous class.
-/
def IsCreation (b : Block) : Prop :=
  (creation? b.head.reverse).isSome = true

variable (b : Block)

theorem closing_isClosing : b.closing.isClosing = true :=
  Token.isClosing_of_isPunct curly_mem_nesting b.closing_eq

theorem closing_isTypePart : isTypePart b.closing = false :=
  isTypePart_eq_false b.closing_eq (by decide)

theorem closing_isPunct : b.closing.isPunct "\x7b" = false := by
  rw [Token.isPunct_of_isPunct b.closing_eq]
  rfl

/--
The search has entered the block in the state `s₀` and has passed the tokens `x` of it.
-/
structure Entered (s₀ : State) (x : List Token) (m : Moment) : Prop where
  before : m.before = x.reverse ++ b.opening :: b.head.reverse
  left : ∃ y, b.inner = x ++ y ∧ m.left = y ++ b.closing :: b.back
  around : ∀ e ∈ s₀.lambdaEnds.head?,
    e ≤ b.back.length ∨ (b.inner ++ b.closing :: b.back).length < e
  within : ∃ bound frames lambdas,
    Within s₀ b.inner (b.closing :: b.back) x bound frames lambdas m.state

namespace Entered

variable {b} {s₀ s : State} {x before rest : List Token} {t : Token} {m : Moment}

theorem region (h : b.Entered s₀ x m) : Region s₀ b.inner (b.closing :: b.back) where
  whole := .of_nested b.nested
  contained := .of_nested b.nested (.inr (endsExpression_of_isClosing b.closing_isClosing))
  outer := by
    intro e he
    rcases h.around e he with hle | hlt
    · exact .inl (Nat.le_succ_of_le hle)
    · exact .inr hlt

theorem isOpen (h : b.Entered s₀ x m) : b.IsOpen m := by
  obtain ⟨y, hinner, hleft⟩ := h.left
  exact ⟨x, y, hinner, h.before, hleft⟩

theorem depth_le (h : b.Entered s₀ x m) : s₀.scopes.depth ≤ m.state.scopes.depth := by
  obtain ⟨bound, frames, lambdas, hwithin⟩ := h.within
  rw [hwithin.depth_eq]
  exact Nat.le_add_left _ _

theorem rest_eq (h : b.Entered s₀ b.inner ⟨s, before, t :: rest⟩) : rest = b.back := by
  obtain ⟨y, hinner, hleft⟩ := h.left
  obtain rfl : y = [] := List.append_right_eq_self.1 hinner.symm
  exact (List.cons.inj hleft).2

theorem behind (h : b.Entered s₀ x ⟨s, before, t :: rest⟩)
    (hopen : ¬ (x = b.inner ∧ t = b.closing))
    : s₀.scopes.depth ≤ (s.at (rest.length + 1)).scopes.depth
        ∧ ∃ x', b.Entered s₀ x' (Moment.behind s before t rest) := by
  obtain ⟨y, hinner, hleft⟩ := h.left
  obtain ⟨bound, frames, lambdas, hwithin⟩ := h.within
  dsimp only at hleft hwithin
  -- The block ends here or holds the next token, and that it ends is excluded.
  cases y with
  | nil =>
    rw [List.append_nil] at hinner
    exact absurd ⟨hinner.symm, (List.cons.inj hleft).1⟩ hopen
  | cons u y =>
    rw [List.cons_append, List.cons.injEq] at hleft
    obtain ⟨rfl, rfl⟩ := hleft
    have hle : (b.closing :: b.back).length
        ≤ (Moment.behind s before t (y ++ b.closing :: b.back)).left.length := by
      have hskip := step_stops b.closing_isTypePart b.closing_isPunct
        (s.at ((y ++ b.closing :: b.back).length + 1)) before t y b.back
      rw [Moment.behind, List.drop_append_of_le_length hskip, List.length_append]
      exact Nat.le_add_left _ _
    obtain ⟨hdepth, taken, y', frames', lambdas', s', rfl, hmoment, hwithin'⟩ :=
      hwithin.behind h.region hinner hle
    refine ⟨hdepth, x ++ t :: taken, ?_, ⟨y', ?_, ?_⟩, h.around, ?_⟩
    · have hbefore : before = x.reverse ++ b.opening :: b.head.reverse := h.before
      rw [hmoment, hbefore, List.reverse_append, List.append_assoc]
    · rw [hinner, List.append_assoc, List.cons_append]
    · rw [hmoment]
    · rw [hmoment]
      exact ⟨_, _, _, hwithin'⟩

theorem depth_closing (h : b.Entered s₀ b.inner ⟨s, before, b.closing :: b.back⟩)
    (hpassed : ∀ e ∈ s.lambdaEnds, e ≤ (b.closing :: b.back).length)
    : (s.at (b.closing :: b.back).length).scopes.depth = s₀.scopes.depth := by
  obtain ⟨bound, frames, lambdas, hwithin⟩ := h.within
  obtain ⟨opened, hopened, hlength⟩ := hwithin.frames
  rw [h.region.whole, Option.some.injEq] at hopened
  subst hopened
  rw [List.length_nil, Nat.zero_add] at hlength
  have hlambdas : ∀ e ∈ lambdas, e = (b.closing :: b.back).length := by
    intro e he
    have hle := hpassed e (by rw [hwithin.lambdaEnds]; exact List.mem_append_left _ he)
    have hends := hwithin.ends e he
    omega
  have haround : ∀ e ∈ s₀.lambdaEnds.head?, e ≠ (b.closing :: b.back).length := by
    intro e he
    have hside := h.around e he
    rw [List.length_append] at hside
    rw [List.length_cons] at hside ⊢
    omega
  have hscopes : s.scopes = (s₀.scopes.declareAll bound).stack frames := hwithin.scopes
  have hends : s.lambdaEnds = lambdas ++ s₀.lambdaEnds := hwithin.lambdaEnds
  rw [State.at_eq, hscopes, hends, leaveLambdas_all hlambdas hlength,
    leaveLambdas_of_ne haround]
  exact Scopes.depth_declareAll _ _

end Entered

end Block

/-! Depths that are remembered. -/

@[simp]
theorem State.at_anonymous (s : State) (left : Nat) : (s.at left).anonymous = s.anonymous :=
  rfl

theorem mem_step_anonymous {s : State} {before : List Token} {t : Token} {rest : List Token}
    {d : Nat} (hd : d ∈ s.anonymous) (hdepth : d ≤ (step s before t rest).1.scopes.depth)
    : d ∈ (step s before t rest).1.anonymous := by
  have heffect := step_effect s before t rest
  generalize step s before t rest = next at heffect hdepth ⊢
  cases heffect with
  | enter ht =>
    dsimp only
    split
    · exact List.mem_cons_of_mem _ hd
    · exact hd
  | leave ht =>
    dsimp only at hdepth ⊢
    -- Only depths beyond what is open now are dropped.
    generalize s.anonymous = depths at hd
    induction depths with
    | nil => cases hd
    | cons d' depths ih =>
      rw [List.dropWhile_cons]
      split
      · next hlt =>
        rcases List.mem_cons.1 hd with rfl | hd
        · rw [decide_eq_true_eq] at hlt
          omega
        · exact ih hd
      · exact hd
  | block => exact hd
  | expression => exact hd
  | other =>
    dsimp only
    cases declared? before t rest with
    | none => exact hd
    | some v => exact hd

/-! Behind the brace of a creation. -/

theorem step_opening {t : Token} (ht : t.isPunct "\x7b" = true) (s : State)
    (before rest : List Token)
    : step s before t rest
        =
      ({ s with
          scopes := s.scopes.push
          anonymous := if (creation? before).isSome then (s.scopes.depth + 1) :: s.anonymous
            else s.anonymous },
        0) := by
  rw [step, if_pos ht]
  rfl

theorem Binds.tokens_eq {depth : Nat} {m m' : Moment} {bound : List Binding}
    (h : Binds depth m bound m') : m'.tokens = m.tokens := by
  induction h with
  | refl => rfl
  | step _ ih => rw [ih, Moment.tokens_behind]

theorem Block.le_or_lt_of_endsAt (b : Block) {e : Nat}
    (h : EndsAt e (b.opening :: (b.inner ++ b.closing :: b.back)))
    : e ≤ b.back.length ∨ (b.opening :: (b.inner ++ b.closing :: b.back)).length < e := by
  have hgroup : Bracket.curly.IsGroup (b.opening :: (b.inner ++ [b.closing])) :=
    ⟨_, _, _, rfl, b.opening_eq, b.nested, b.closing_eq⟩
  have hlist : b.opening :: (b.inner ++ b.closing :: b.back)
      = b.opening :: (b.inner ++ [b.closing]) ++ b.back := by
    simp
  rw [hlist] at h ⊢
  exact h.enclosed (hgroup.nested curly_mem_nesting) (hgroup.enclosed curly_mem_nesting)

theorem Block.entered (b : Block) {s : State}
    (hending : Moment.Ending ⟨s, b.head.reverse, b.opening :: (b.inner ++ b.closing :: b.back)⟩)
    (hcreation : b.IsCreation)
    : ∃ s₀, s₀.scopes.depth
          = (s.at ((b.inner ++ b.closing :: b.back).length + 1)).scopes.depth + 1
        ∧ s₀.anonymous = s₀.scopes.depth :: s.anonymous
        ∧ Moment.behind s b.head.reverse b.opening (b.inner ++ b.closing :: b.back)
          = ⟨s₀, b.opening :: b.head.reverse, b.inner ++ b.closing :: b.back⟩
        ∧ b.Entered s₀ []
          ⟨s₀, b.opening :: b.head.reverse, b.inner ++ b.closing :: b.back⟩ := by
  generalize hat : s.at ((b.inner ++ b.closing :: b.back).length + 1) = s'
  refine ⟨{ s' with scopes := s'.scopes.push, anonymous := s'.scopes.push.depth :: s.anonymous },
    rfl, rfl, ?_, rfl, ⟨b.inner, rfl, rfl⟩, ?_, [], [], [], .refl _ _ _⟩
  · have hsome : (creation? b.head.reverse).isSome = true := hcreation
    rw [Moment.behind, hat, step_opening b.opening_eq, if_pos hsome, ← hat]
    rfl
  · intro e he
    have hends : EndsAt e (b.opening :: (b.inner ++ b.closing :: b.back)) := by
      refine hending e ?_
      rw [← hat] at he
      exact at_lambdaEnds_subset s _ (List.mem_of_mem_head? he)
    have hside := b.le_or_lt_of_endsAt hends
    rw [List.length_cons] at hside
    omega

theorem Block.Entered.mem_anonymous {b : Block} {s₀ : State} {x : List Token} {m m' : Moment}
    {depth : Nat} {bound : List Binding} (h : b.Entered s₀ x m) (hbinds : Binds depth m bound m')
    (hle : (b.closing :: b.back).length ≤ m'.left.length)
    (hmem : s₀.scopes.depth ∈ m.state.anonymous) : s₀.scopes.depth ∈ m'.state.anonymous := by
  induction hbinds generalizing x with
  | refl => exact hmem
  | @step s before t rest bound m' hrest ih =>
    have hopen : ¬ (x = b.inner ∧ t = b.closing) := by
      rintro ⟨rfl, rfl⟩
      have hlt := hrest.length_le
      rw [h.rest_eq] at hlt
      exact absurd (hle.trans hlt) (Nat.not_succ_le_self _)
    obtain ⟨-, x', hbehind⟩ := h.behind hopen
    refine ih hbehind hle ?_
    exact mem_step_anonymous hmem hbehind.depth_le

theorem Block.IsCreation.head_eq {b : Block} (h : b.IsCreation)
    : ∃ front p, b.head.reverse = p :: front ∧ p.isPunct ")" = true := by
  unfold IsCreation at h
  cases hhead : b.head.reverse with
  | nil =>
    rw [hhead] at h
    cases h
  | cons p front =>
    refine ⟨front, p, rfl, ?_⟩
    by_contra hp
    rw [hhead, creation?, if_neg hp] at h
    cases h

theorem Block.anonymous_ne_nil {b : Block} (hcreation : b.IsCreation) {env : Surroundings}
    {body : Body} {found : List Access} {m : Moment} (h : Searches env (Moment.start body) found m)
    (hopen : b.IsOpen m) : m.state.anonymous ≠ [] := by
  obtain ⟨x, y, hinner, hbefore, hleft⟩ := hopen
  obtain ⟨bound, hbinds⟩ := h.exists_binds 0
  -- The block is entered behind the parenthesis of the creation, to which the search comes.
  obtain ⟨front, p, hhead, hp⟩ := hcreation.head_eq
  have htokens : (Moment.start body).left
      = front.reverse ++ p :: b.opening :: (b.inner ++ b.closing :: b.back) := by
    have htokens : m.tokens = [].reverse ++ (Moment.start body).left := hbinds.tokens_eq
    rw [Moment.tokens, hbefore, hleft, hhead] at htokens
    rw [hinner]
    simpa using htokens.symm
  have hstart : Moment.start body = ⟨(Moment.start body).state, [],
      front.reverse ++ p :: b.opening :: (b.inner ++ b.closing :: b.back)⟩ := by
    rw [← htokens]
    rfl
  have hlength : m.left.length ≤ (b.inner ++ b.closing :: b.back).length := by
    rw [hleft, hinner, List.append_assoc]
    exact (List.suffix_append x _).length_le
  have htype : isTypePart p = false := isTypePart_eq_false hp (by decide)
  have hbrace : p.isPunct "\x7b" = false := by
    rw [Token.isPunct_of_isPunct hp]
    rfl
  obtain ⟨found₁, s₁, hsearch⟩ := exists_searches env htype hbrace front.reverse
    (b.opening :: (b.inner ++ b.closing :: b.back)) (Moment.start body).state []
  rw [← hstart, List.reverse_reverse, List.append_nil] at hsearch
  obtain ⟨bound₁, hround⟩ := hsearch.exists_binds 0
  obtain ⟨bound₂, hround', -⟩ := hbinds.split hround (by simp only [List.length_cons]; omega)
  have hmoment : Moment.behind s₁ front p (b.opening :: (b.inner ++ b.closing :: b.back))
      = ⟨s₁.at ((b.inner ++ b.closing :: b.back).length + 2), b.head.reverse,
          b.opening :: (b.inner ++ b.closing :: b.back)⟩ := by
    rw [Moment.behind, step_of_isPunct hp (by decide), hhead]
    rfl
  have hending := (hsearch.ending (Moment.ending_start body)).behind
  obtain ⟨bound₃, hopening, -⟩ := hround'.behind (by rw [List.length_cons]; omega)
  rw [hmoment] at hending hopening
  obtain ⟨s₀, -, hanonymous, hmoment', hentered⟩ := b.entered hending hcreation
  obtain ⟨bound₄, hinside, -⟩ := hopening.behind hlength
  rw [hmoment'] at hinside
  have hmem := hentered.mem_anonymous hinside
    (by rw [hleft, List.length_append]; exact Nat.le_add_left _ _)
    (by rw [hanonymous]; exact List.mem_cons_self)
  exact List.ne_nil_of_mem hmem

/-! Lambdas that end on time. -/

/--
No lambda is open whose end the search has jumped over.
-/
def Moment.OnTime (m : Moment) : Prop :=
  ∀ e ∈ m.state.lambdaEnds, e ≤ m.left.length

theorem mem_leaveLambdas {left e : Nat} {stops : List Nat} (he : e ∈ stops) (hne : e ≠ left)
    (scopes : Scopes) : e ∈ (leaveLambdas left scopes stops).2 := by
  induction stops generalizing scopes with
  | nil => cases he
  | cons stop stops ih =>
    rw [leaveLambdas]
    split
    · next hstop =>
      rcases List.mem_cons.1 he with rfl | he
      · exact absurd hstop hne
      · exact ih he scopes.pop
    · exact he

theorem lambdaEnds_subset_step (s : State) (before : List Token) (t : Token) (rest : List Token)
    : s.lambdaEnds ⊆ (step s before t rest).1.lambdaEnds := by
  have heffect := step_effect s before t rest
  generalize step s before t rest = next at heffect ⊢
  cases heffect with
  | enter => exact List.Subset.refl _
  | leave => exact List.Subset.refl _
  | block => exact List.Subset.refl _
  | expression => exact List.subset_cons_self _ _
  | other =>
    cases declared? before t rest with
    | none => exact List.Subset.refl _
    | some v => exact List.Subset.refl _

theorem Moment.OnTime.of_behind {s : State} {before rest : List Token} {t : Token}
    (h : (Moment.behind s before t rest).OnTime) : OnTime ⟨s, before, t :: rest⟩ := by
  intro e he
  by_contra hlt
  rw [Nat.not_le, List.length_cons] at hlt
  have hat : e ∈ (s.at (rest.length + 1)).lambdaEnds :=
    mem_leaveLambdas he (Nat.ne_of_gt hlt) s.scopes
  have hle : e ≤ (Moment.behind s before t rest).left.length :=
    h e (lambdaEnds_subset_step _ before t rest hat)
  rw [Moment.behind, List.length_drop] at hle
  omega

theorem Binds.onTime {depth : Nat} {m m' : Moment} {bound : List Binding}
    (h : Binds depth m bound m') (hontime : m'.OnTime) : m.OnTime := by
  induction h with
  | refl => exact hontime
  | step _ ih => exact (ih hontime).of_behind

/-! Outside of creations. -/

theorem step_closing {t : Token} (ht : t.isPunct "\x7d" = true) (s : State)
    (before rest : List Token)
    : step s before t rest
        =
      ({ s with
          scopes := s.scopes.pop
          anonymous := s.anonymous.dropWhile (s.scopes.pop.depth < ·) },
        0) := by
  rw [step, Token.isPunct_of_isPunct ht, if_neg (by decide), if_pos ht]

theorem step_anonymous {t : Token} (ht : t.isBrace = false) (s : State) (before rest : List Token)
    : (step s before t rest).1.anonymous = s.anonymous := by
  rw [Token.isBrace_eq, Bool.or_eq_false_iff] at ht
  have heffect := step_effect s before t rest
  generalize step s before t rest = next at heffect ⊢
  cases heffect with
  | enter ht' => exact absurd ht' (Bool.eq_false_iff.1 ht.1)
  | leave ht' => exact absurd ht' (Bool.eq_false_iff.1 ht.2)
  | block => rfl
  | expression => rfl
  | other =>
    cases declared? before t rest with
    | none => rfl
    | some v => rfl

theorem le_of_mem_dropWhile {depths : List Nat} (h : depths.Pairwise (· > ·)) {n d : Nat}
    (hd : d ∈ depths.dropWhile (n < ·)) : d ≤ n := by
  induction depths with
  | nil => cases hd
  | cons d' depths ih =>
    rw [List.pairwise_cons] at h
    rw [List.dropWhile_cons] at hd
    split at hd
    · exact ih h.2 hd
    · next hle =>
      rw [decide_eq_true_eq, Nat.not_lt] at hle
      rcases List.mem_cons.1 hd with rfl | hd
      · exact hle
      · exact (Nat.le_of_lt (h.1 d hd)).trans hle

/--
What is remembered are the depths of the blocks around, the innermost first, that the search takes
for bodies of anonymous classes.
-/
structure Moment.Tracked (m : Moment) : Prop where
  sorted : m.state.anonymous.Pairwise (· > ·)
  entered : ∀ d ∈ m.state.anonymous, ∃ (b : Block) (s₀ : State) (x : List Token),
    b.IsCreation ∧ b.Entered s₀ x m ∧ s₀.scopes.depth = d ∧ 1 < d

theorem Moment.Tracked.stays {s : State} {before rest : List Token} {t : Token}
    (h : Tracked ⟨s, before, t :: rest⟩) (hontime : OnTime ⟨s, before, t :: rest⟩) {d : Nat}
    (hd : d ∈ s.anonymous)
    : d ≤ (s.at (rest.length + 1)).scopes.depth
        ∧ ((t.isPunct "\x7d" = true → d ≤ (s.at (rest.length + 1)).scopes.pop.depth)
          → ∃ (b : Block) (s₀ : State) (x : List Token), b.IsCreation
            ∧ b.Entered s₀ x (Moment.behind s before t rest) ∧ s₀.scopes.depth = d ∧ 1 < d) := by
  obtain ⟨b, s₀, x, hcreation, hentered, rfl, hd'⟩ := h.entered d hd
  by_cases hclosing : x = b.inner ∧ t = b.closing
  · obtain ⟨rfl, rfl⟩ := hclosing
    obtain rfl := hentered.rest_eq
    have hdepth := hentered.depth_closing hontime
    rw [List.length_cons] at hdepth
    refine ⟨hdepth.ge, fun hle => ?_⟩
    have hle' := hle b.closing_eq
    rw [Scopes.depth_pop, hdepth] at hle'
    omega
  · obtain ⟨hdepth, x', hbehind⟩ := hentered.behind hclosing
    exact ⟨hdepth, fun _ => ⟨b, s₀, x', hcreation, hbehind, rfl, hd'⟩⟩

theorem Moment.exists_entered {s : State} {before rest : List Token} {t : Token}
    (hnested : Nested (before.reverse ++ t :: rest)) (hending : Ending ⟨s, before, t :: rest⟩)
    (hopening : t.isPunct "\x7b" = true) (hcreation : (creation? before).isSome = true)
    : ∃ (b : Block) (s₀ : State), b.IsCreation ∧ b.Entered s₀ [] (Moment.behind s before t rest)
        ∧ s₀.scopes.depth = (s.at (rest.length + 1)).scopes.depth + 1 := by
  obtain ⟨inner, closing, back, rfl, hinner, hpair, -⟩ :=
    hnested.split (Token.isOpening_of_isPunct curly_mem_nesting hopening)
  have hclosing : closing.isPunct "\x7d" = true :=
    (Token.closedBy_iff hpair curly_mem_nesting).1 hopening
  let b : Block := ⟨before.reverse, t, inner, closing, back, hopening, hclosing, hinner⟩
  have hhead : b.head.reverse = before := List.reverse_reverse before
  have hcreation' : b.IsCreation := by
    rw [Block.IsCreation, hhead]
    exact hcreation
  obtain ⟨s₀, hdepth, -, hmoment, hentered⟩ :=
    b.entered (by rw [hhead]; exact hending) hcreation'
  rw [hhead] at hmoment hentered
  rw [← hmoment] at hentered
  exact ⟨b, s₀, hcreation', hentered, hdepth⟩

theorem Moment.Tracked.behind {s : State} {before rest : List Token} {t : Token}
    (h : Tracked ⟨s, before, t :: rest⟩) (hnested : Nested (before.reverse ++ t :: rest))
    (hending : Ending ⟨s, before, t :: rest⟩) (hontime : OnTime ⟨s, before, t :: rest⟩)
    : (Moment.behind s before t rest).Tracked := by
  by_cases hopening : t.isPunct "\x7b" = true
  · have hother : ¬ t.isPunct "\x7d" = true := by
      rw [Token.isPunct_of_isPunct hopening]
      decide
    have hanonymous : (Moment.behind s before t rest).state.anonymous
        = if (creation? before).isSome then
            ((s.at (rest.length + 1)).scopes.depth + 1) :: s.anonymous
          else s.anonymous := by
      rw [Moment.behind, step_opening hopening]
      rfl
    have hstay := fun d (hd : d ∈ s.anonymous) =>
      (h.stays hontime hd).2 fun hclosing => absurd hclosing hother
    split at hanonymous
    · next hcreation =>
      obtain ⟨b, s₀, hcreation', hentered, hdepth⟩ :=
        exists_entered hnested hending hopening hcreation
      refine ⟨?_, ?_⟩
      · rw [hanonymous, List.pairwise_cons]
        exact ⟨fun d hd => Nat.lt_succ_of_le (h.stays hontime hd).1, h.sorted⟩
      · rw [hanonymous, List.forall_mem_cons]
        exact ⟨⟨b, s₀, [], hcreation', hentered, hdepth, Nat.succ_lt_succ (Nat.succ_pos _)⟩, hstay⟩
    · refine ⟨?_, ?_⟩
      · rw [hanonymous]
        exact h.sorted
      · rw [hanonymous]
        exact hstay
  · by_cases hclosing : t.isPunct "\x7d" = true
    · have hanonymous : (Moment.behind s before t rest).state.anonymous
          = s.anonymous.dropWhile ((s.at (rest.length + 1)).scopes.pop.depth < ·) := by
        rw [Moment.behind, step_closing hclosing]
        rfl
      have hsublist := List.dropWhile_sublist
        (fun d => decide ((s.at (rest.length + 1)).scopes.pop.depth < d)) (l := s.anonymous)
      refine ⟨?_, ?_⟩
      · rw [hanonymous]
        exact h.sorted.sublist hsublist
      · rw [hanonymous]
        intro d hd
        exact (h.stays hontime (hsublist.subset hd)).2 fun _ => le_of_mem_dropWhile h.sorted hd
    · have hbrace : t.isBrace = false := by
        rw [Token.isBrace_eq, Bool.eq_false_iff.2 hopening, Bool.eq_false_iff.2 hclosing]
        rfl
      have hanonymous : (Moment.behind s before t rest).state.anonymous = s.anonymous :=
        step_anonymous hbrace _ before rest
      refine ⟨?_, ?_⟩
      · rw [hanonymous]
        exact h.sorted
      · rw [hanonymous]
        exact fun d hd => (h.stays hontime hd).2 fun h => absurd h hclosing

theorem Moment.tracked_start (body : Body) : (start body).Tracked where
  sorted := .nil
  entered := List.forall_mem_nil _

theorem Binds.tracked {depth : Nat} {m m' : Moment} {bound : List Binding}
    (h : Binds depth m bound m') (htracked : m.Tracked) (hnested : Nested m.tokens)
    (hending : m.Ending) (hontime : m'.OnTime) : m'.Tracked := by
  induction h with
  | refl => exact htracked
  | step h ih =>
    exact ih (htracked.behind hnested hending (h.onTime hontime).of_behind)
      (by rw [Moment.tokens_behind]; exact hnested) hending.behind hontime

/-! Receivers. -/

end Access

/--
The receivers that stand for the object itself, for its parent and for its own fields.
-/
def Receiver.IsOwn : Receiver → Prop
  | .self => True
  | .parent => True
  | .ownField _ => True
  | _ => False

namespace Access

theorem receiverType?_of_isOwn {receiver : Receiver} (h : receiver.IsOwn) (env : Surroundings)
    (s : State)
    : receiverType? env s receiver
        =
      if s.anonymous.isEmpty then receiverType? env {} receiver else none := by
  cases receiver with
  | self => rfl
  | parent => rfl
  | ownField => rfl
  | _ => exact h.elim

/-! Uses at a moment. -/

def Moment.use? (env : Surroundings) : Moment → Option Access
  | ⟨_, _, []⟩ => none
  | ⟨s, before, t :: rest⟩ => access? env (s.at (rest.length + 1)) before t rest

theorem Moment.receiverType_of_use? {env : Surroundings} {m : Moment} {a : Access}
    (h : m.use? env = some a)
    : ∃ left, a.receiverType = receiverType? env (m.state.at left) a.receiver := by
  obtain ⟨s, before, left⟩ := m
  cases left with
  | nil => cases h
  | cons t rest =>
    refine ⟨rest.length + 1, ?_⟩
    unfold use? access? at h
    dsimp only at h
    split at h
    · split at h
      · cases h
      · split at h
        · obtain ⟨⟨receiver, start⟩, -, rfl⟩ := Option.map_eq_some_iff.1 h
          rfl
        · cases h
    · cases h

/-! Bodies of classes. -/

def EndsInTypeHead (tokens : List Token) : Prop :=
  ∃ front declaration word name header, tokens = front ++ declaration
    ∧ (∀ t ∈ front.getLast?, t.isPunctOf [";", "\x7b", "\x7d"] = true)
    ∧ (Reader.modifiers {} declaration).2 = word :: name :: header
    ∧ word.isWordOf ["class", "interface", "enum", "record"] = true ∧ name.isIdent = true
    ∧ ∀ t ∈ header, t.isPunctOf [";", "\x7b", "\x7d"] = false

/--
The block is the body of an anonymous class or of a local type.
-/
def Block.IsClassBody (b : Block) : Prop :=
  (∃ type, EndsInCreation type b.head) ∨ EndsInTypeHead b.head

/--
In the body of an anonymous class `this` and `super` and the fields behind `this` have no type. So
they have a type in no body of a class, exactly if each body of a class lies in one that the search
takes for the body of an anonymous class, or the body around gives them no type.
-/
theorem receiverType_isOwn_iff {env : Surroundings} {body : Body} {found : List Access}
    {m : Moment} {a : Access} (hnested : Nested body.tokens)
    (hsearch : Searches env (Moment.start body) found m) (ha : m.use? env = some a)
    (hown : a.receiver.IsOwn)
    : (∀ b : Block, b.IsOpen m → (∃ type : NamedType, type.IsSimple ∧ EndsInCreation type b.head)
          → a.receiverType = none)
        ∧ (m.OnTime → ((a.receiverType ≠ none → ∀ b : Block, b.IsOpen m → ¬ b.IsClassBody)
          ↔ ((∃ b : Block, b.IsOpen m ∧ b.IsClassBody)
            → (∃ b : Block, b.IsOpen m ∧ b.IsCreation)
              ∨ receiverType? env {} a.receiver = none))) := by
  have htype : a.receiverType
      = if m.state.anonymous.isEmpty then receiverType? env {} a.receiver else none := by
    obtain ⟨left, htype⟩ := Moment.receiverType_of_use? ha
    rw [htype, receiverType?_of_isOwn hown, State.at_anonymous]
  have hcreation : ∀ b : Block, b.IsOpen m → b.IsCreation → a.receiverType = none := by
    intro b hopen hb
    rw [htype, if_neg]
    rw [List.isEmpty_iff]
    exact b.anonymous_ne_nil hb hsearch hopen
  refine ⟨?_, fun hontime => ⟨?_, ?_⟩⟩
  · rintro b hopen ⟨type, hsimple, hb⟩
    exact hcreation b hopen (creation?_of_endsInCreation hsimple hb)
  · rintro hclaim ⟨b, hopen, hb⟩
    by_contra hneither
    rw [not_or, not_exists] at hneither
    obtain ⟨hnone, hgiven⟩ := hneither
    -- Nothing is remembered, as each remembered depth is that of a creation around.
    have hempty : m.state.anonymous = [] := by
      obtain ⟨bound, hbinds⟩ := hsearch.exists_binds 0
      have htracked := hbinds.tracked (Moment.tracked_start body) hnested
        (Moment.ending_start body) hontime
      refine List.eq_nil_iff_forall_not_mem.2 fun d hd => ?_
      obtain ⟨b', s₀, x, hb', hentered, -⟩ := htracked.entered d hd
      exact hnone b' ⟨hentered.isOpen, hb'⟩
    rw [hempty, List.isEmpty_nil, if_pos rfl] at htype
    rw [← htype] at hgiven
    exact hclaim hgiven b hopen hb
  · intro hblocks hgiven b hopen hb
    rcases hblocks ⟨b, hopen, hb⟩ with ⟨b', hopen', hb'⟩ | hnone
    · exact hgiven (hcreation b' hopen' hb')
    · rw [hnone, ite_self] at htype
      exact hgiven htype

theorem Searches.follow (env : Surroundings) (depth n : Nat) (m : Moment)
    : ∃ found, Searches env m found (m.follow depth n).2 := by
  induction n generalizing m with
  | zero => exact ⟨[], .refl m⟩
  | succ n ih =>
    obtain ⟨s, before, left⟩ := m
    cases left with
    | nil => exact ⟨[], .refl _⟩
    | cons t rest =>
      obtain ⟨found, h⟩ := ih (Moment.behind s before t rest)
      exact ⟨_, .step h⟩

def callThis : List Token :=
  [.onFirstLine .ident "void" 31, .onFirstLine .ident "f" 36, .onFirstLine .punct "(" 37,
    .onFirstLine .punct ")" 38, .onFirstLine .punct "\x7b" 40, .onFirstLine .ident "this" 42,
    .onFirstLine .punct "." 46, .onFirstLine .ident "x" 47, .onFirstLine .punct "(" 48,
    .onFirstLine .punct ")" 49, .onFirstLine .punct ";" 50, .onFirstLine .punct "\x7d" 52]

def classBlock (head back : List Token) : Block where
  head := head
  opening := .onFirstLine .punct "\x7b" 29
  inner := callThis
  closing := .onFirstLine .punct "\x7d" 54
  back := back
  opening_eq := by decide
  closing_eq := by decide
  nested := by decide

def atThis (b : Block) : Moment :=
  ((Moment.start ⟨0, [], b.tokens⟩).follow 1 (b.head.length + 7)).2

def newRunner : Block :=
  classBlock [.onFirstLine .ident "new" 21, .onFirstLine .ident "R" 25, .onFirstLine .punct "(" 26,
    .onFirstLine .punct ")" 27] []

theorem receiverType_isOwn_iff_newRunner
    : ∃ (a : Access) (env : Surroundings) (found : List Access),
        env.types.map TypeDecl.qualifiedName = ["A"]
        ∧ Nested newRunner.tokens
        ∧ Searches env (.start ⟨0, [], newRunner.tokens⟩) found (atThis newRunner)
        ∧ (atThis newRunner).use? env = some a ∧ a.receiver = .self
        ∧ newRunner.IsOpen (atThis newRunner)
        ∧ receiverType? env {} a.receiver = some (.qualified "A") ∧ a.receiverType = none := by
  let env : Surroundings := ⟨{}, [⟨"A", "A", .classType, none, [], none, [], ⟨⟨0, 6⟩, ⟨0, 7⟩⟩⟩], 0⟩
  obtain ⟨found, hsearch⟩ := Searches.follow env 1 11 (.start ⟨0, [], newRunner.tokens⟩)
  have huse : ((atThis newRunner).use? env).isSome = true := by
    decide +kernel
  obtain ⟨a, ha⟩ := Option.isSome_iff_exists.1 huse
  have hreceiver : ((atThis newRunner).use? env).map (·.receiver) = some .self := by
    decide +kernel
  rw [ha, Option.map_some, Option.some.injEq] at hreceiver
  have hopen : newRunner.IsOpen (atThis newRunner) :=
    ⟨callThis.take 6, callThis.drop 6, by decide +kernel, by decide +kernel, by decide +kernel⟩
  have hnested : Nested newRunner.tokens := by
    decide +kernel
  have hown : a.receiver.IsOwn := by
    rw [hreceiver]
    trivial
  obtain ⟨hcreation, -⟩ := receiverType_isOwn_iff hnested hsearch ha hown
  refine ⟨a, env, found, rfl, hnested, hsearch, ha, hreceiver, hopen, ?_,
    hcreation newRunner hopen ⟨.name (.onFirstLine .ident "R" 25) (by decide) (by decide)
      (by decide), trivial, ?_⟩⟩
  · rw [hreceiver]
    rfl
  · refine ⟨[], _, _, rfl, by decide, .onFirstLine .punct "(" 26, [], .onFirstLine .punct ")" 27,
      rfl, by decide, rfl, by decide⟩

def localClass : Block :=
  classBlock [.onFirstLine .ident "class" 21, .onFirstLine .ident "L" 27] []

/--
In a local class `this` has the type of the class around.
-/
theorem localClass_typed
    : ∃ (tokens : List Token) (a : Access) (found : List Access),
        tokenize "class A { void m() { class L { void f() { this.x(); } } } }" = .ok tokens
        ∧ (outline tokens).bodies = [⟨0, [], localClass.tokens⟩] ∧ Nested localClass.tokens
        ∧ Searches ⟨(outline tokens).typeNames, (outline tokens).declarations.types, 0⟩
            (.start ⟨0, [], localClass.tokens⟩) found (atThis localClass)
        ∧ (atThis localClass).use? ⟨(outline tokens).typeNames, (outline tokens).declarations.types,
            0⟩ = some a
        ∧ a.receiver = .self ∧ a.receiverType = some (.qualified "A")
        ∧ localClass.IsOpen (atThis localClass) ∧ localClass.IsClassBody := by
  have hcheck : (tokenize "class A { void m() { class L { void f() { this.x(); } } } }"
      |>.toOption.any fun tokens =>
        decide ((outline tokens).bodies.map (fun body => (body.owner, body.parameters, body.tokens))
            = [(0, [], localClass.tokens)]
          ∧ ((atThis localClass).use? ⟨(outline tokens).typeNames,
              (outline tokens).declarations.types, 0⟩).map (fun a => (a.receiver, a.receiverType))
            = some (.self, some (.qualified "A")))) = true := by
    decide +kernel
  obtain ⟨tokens, htokens, hcheck⟩ := exists_tokenize_ok hcheck
  rw [decide_eq_true_eq] at hcheck
  obtain ⟨hbodies, huse⟩ := hcheck
  obtain ⟨⟨owner, parameters, own⟩, hsingle, hbody⟩ := List.map_eq_singleton_iff.1 hbodies
  rw [Prod.mk.injEq, Prod.mk.injEq] at hbody
  obtain ⟨rfl, rfl, rfl⟩ := hbody
  obtain ⟨a, ha, hreceiver⟩ := Option.map_eq_some_iff.1 huse
  rw [Prod.mk.injEq] at hreceiver
  obtain ⟨found, hsearch⟩ := Searches.follow _ 1 9 (.start ⟨0, [], localClass.tokens⟩)
  refine ⟨tokens, a, found, htokens, hsingle, by decide +kernel, hsearch, ha, hreceiver.1,
    hreceiver.2, ⟨callThis.take 6, callThis.drop 6, by decide +kernel, by decide +kernel,
      by decide +kernel⟩, .inr ?_⟩
  refine ⟨[], localClass.head, .onFirstLine .ident "class" 21, .onFirstLine .ident "L" 27, [], rfl,
    by simp, ?_, by decide, by decide, List.forall_mem_nil _⟩
  change (Reader.modifiers {} [.onFirstLine .ident "class" 21, .onFirstLine .ident "L" 27]).2 = _
  rw [Reader.modifiers]
  rfl

end Access

end DeprecatedUse.Java
