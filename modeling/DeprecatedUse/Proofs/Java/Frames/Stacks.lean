import DeprecatedUse.Proofs.Java.Frames.Ends

/-!
This module contains the blocks that the search of a body has open inside of a stretch of tokens:
one for each brace and one for each lambda of the stretch that is still open, on top of the blocks
around the stretch. So behind the stretch the blocks around it are what they were, up to the names
that were bound right in it.
-/

namespace DeprecatedUse.Java

abbrev Binding := String × Option TypeName

namespace Scopes

def stack (s : Scopes) : List Frame → Scopes
  | [] => s
  | frame :: frames => ⟨frame, frames ++ s.innermost :: s.outer⟩

variable (s : Scopes) (frame : Frame) (frames : List Frame)

@[simp]
theorem push_stack : (s.stack frames).push = s.stack ([] :: frames) := by
  cases frames with
  | nil => rfl
  | cons frame frames => rfl

@[simp]
theorem pop_stack : (s.stack (frame :: frames)).pop = s.stack frames := by
  cases frames with
  | nil => rfl
  | cons frame frames => rfl

theorem depth_stack : (s.stack frames).depth = frames.length + s.depth := by
  cases frames with
  | nil => exact (Nat.zero_add s.depth).symm
  | cons frame frames =>
    simp only [stack, depth, List.length_append, List.length_cons]
    omega

theorem declare_stack (name : String) (type : Option TypeName)
    : (s.stack (frame :: frames)).declare name type
        =
      s.stack (((name, type) :: frame) :: frames) :=
  rfl

theorem declareAll_stack (bindings : List Binding)
    : (s.stack (frame :: frames)).declareAll bindings
        =
      s.stack ((bindings.reverse ++ frame) :: frames) := by
  induction bindings generalizing frame with
  | nil => rfl
  | cons binding bindings ih =>
    change (s.stack ((binding :: frame) :: frames)).declareAll bindings = _
    rw [ih, List.reverse_cons, List.append_assoc, List.singleton_append]

theorem declareAll_append (bindings bindings' : List Binding)
    : s.declareAll (bindings ++ bindings') = (s.declareAll bindings).declareAll bindings' :=
  List.foldl_append

@[simp]
theorem depth_declareAll (bindings : List Binding) : (s.declareAll bindings).depth = s.depth := by
  induction bindings generalizing s with
  | nil => rfl
  | cons binding bindings ih => exact ih (s.declare binding.1 binding.2)

theorem lookup?_declareAll (bindings : List Binding) (name : String)
    : (s.declareAll bindings).lookup? name
        =
      (bindings.reverse.lookup name).or (s.lookup? name) := by
  induction bindings generalizing s with
  | nil => rfl
  | cons binding bindings ih =>
    obtain ⟨name', type⟩ := binding
    have hdeclare : (s.declare name' type).lookup? name
        = ([(name', type)].lookup name).or (s.lookup? name) := by
      simp only [lookup?, declare, List.findSome?_cons, List.lookup_cons, List.lookup_nil]
      cases name == name' with
      | true => rfl
      | false => rfl
    change ((s.declare name' type).declareAll bindings).lookup? name = _
    rw [ih, hdeclare, List.reverse_cons, List.lookup_append, Option.or_assoc]

end Scopes

namespace Access

/-! Single steps. -/

def declared? (before : List Token) (t : Token) (rest : List Token) : Option Local :=
  if t.isBrace || t.isPunct "->" && !before.isEmpty then none
  else if t.isWord "instanceof" then local? true rest
  else if isStatementStart before then local? false (t :: rest)
  else none

/--
What the search does at a token: it enters or leaves a block, it enters a lambda with a block or
with an expression, or it goes on in the same block and may bind a variable there.
-/
inductive Effect (s : State) (before : List Token) (t : Token) (rest : List Token) :
    State × Nat → Prop where
  | enter (ht : t.isPunct "\x7b" = true) :
    Effect s before t rest
      ({ s with
          scopes := s.scopes.push
          anonymous := if (creation? before).isSome then (s.scopes.depth + 1) :: s.anonymous
            else s.anonymous },
        0)
  | leave (ht : t.isPunct "\x7d" = true) :
    Effect s before t rest
      ({ s with
          scopes := s.scopes.pop
          anonymous := s.anonymous.dropWhile (s.scopes.pop.depth < ·) },
        0)
  | block {opening : Token} {inside : List Token} (hbefore : before ≠ [])
    (ht : t.isPunct "->" = true) (hrest : rest = opening :: inside)
    (hopening : opening.isPunct "\x7b" = true) :
    Effect s before t rest
      ({ s with scopes := s.scopes.push.declareAll (lambdaParameters before) }, 1)
  | expression (hbefore : before ≠ []) (ht : t.isPunct "->" = true)
    (hrest : starts (·.isPunct "\x7b") rest = false) :
    Effect s before t rest
      ({ s with
          scopes := s.scopes.push.declareAll (lambdaParameters before)
          lambdaEnds := (splitExpression 0 rest).2.length :: s.lambdaEnds },
        0)
  | other {n : Nat} (ht : t.isBrace = false) (hn : ∀ u ∈ rest.take n, u.isBrace = false)
    (hle : n ≤ rest.length) :
    Effect s before t rest ((declared? before t rest).elim s s.declare, n)

theorem isBrace_of_isTypePart {t : Token} (h : isTypePart t = true) : t.isBrace = false := by
  rw [isTypePart, Bool.or_eq_true] at h
  rcases h with h | h
  · exact Token.isPunctOf_of_isIdent h _
  · exact Token.isPunctOf_disjoint h (by decide)

theorem declared?_of_isBrace {t : Token} (h : t.isBrace = true) (before rest : List Token)
    : declared? before t rest = none := by
  rw [declared?, h]
  rfl

theorem declared?_of_arrow {t : Token} (h : t.isPunct "->" = true) {before : List Token}
    (hbefore : before ≠ []) (rest : List Token) : declared? before t rest = none := by
  rw [declared?, h, List.isEmpty_eq_false_iff.2 hbefore, Bool.not_false, Bool.and_self,
    Bool.or_true, if_pos rfl]

theorem length_le_of_local? {pattern : Bool} {tokens : List Token} {v : Local}
    (h : local? pattern tokens = some v) : v.length ≤ tokens.length := by
  rw [Cursor.local?_eq] at h
  obtain ⟨⟨type, behind⟩, -, h⟩ := Option.bind_eq_some_iff.1 h
  cases behind with
  | nil => cases h
  | cons name rest =>
    rw [Cursor.localBehind] at h
    dsimp only at h
    rw [Option.ite_none_right_eq_some, Option.some.injEq] at h
    obtain ⟨-, rfl⟩ := h
    exact Nat.sub_le _ _

theorem step_effect (s : State) (before : List Token) (t : Token) (rest : List Token)
    : Effect s before t rest (step s before t rest) := by
  have hnone : ∀ u ∈ rest.take 0, u.isBrace = false := List.forall_mem_nil _
  unfold step
  split
  · next ht => exact .enter ht
  · next hopening =>
    split
    · next ht => exact .leave ht
    · next hclosing =>
      have hbrace : t.isBrace = false := by
        rw [Token.isBrace_eq, Bool.eq_false_iff.2 hopening, Bool.eq_false_iff.2 hclosing]
        rfl
      split
      · next harrow =>
        rw [Bool.and_eq_true, Bool.not_eq_true', List.isEmpty_eq_false_iff] at harrow
        dsimp only
        split
        · next hrest =>
          cases rest with
          | nil => cases hrest
          | cons opening inside => exact .block harrow.2 harrow.1 rfl hrest
        · next hrest => exact .expression harrow.2 harrow.1 (Bool.eq_false_of_not_eq_true hrest)
      · next harrow =>
        rw [Bool.not_eq_true] at harrow
        -- In all the branches left, a step declares what it reads and passes no brace.
        have hother : ∀ found n, declared? before t rest = found
            → (∀ u ∈ rest.take n, u.isBrace = false) → n ≤ rest.length
            → Effect s before t rest (found.elim s s.declare, n) := by
          rintro found n rfl hn hle
          exact .other hbrace hn hle
        split
        · next hword =>
          have hdeclared : declared? before t rest = local? true rest := by
            rw [declared?, hbrace, harrow, hword]
            rfl
          split
          · next hlocal => exact hother none 0 (hdeclared.trans hlocal) hnone (Nat.zero_le _)
          · next v hlocal => exact hother (some v) 0 (hdeclared.trans hlocal) hnone (Nat.zero_le _)
        · next hword =>
          rw [Bool.not_eq_true] at hword
          have hdeclared : declared? before t rest
              = if isStatementStart before then local? false (t :: rest) else none := by
            rw [declared?, hbrace, harrow, hword]
            rfl
          split
          · next hstart =>
            rw [if_pos hstart] at hdeclared
            split
            · next hlocal => exact hother none 0 (hdeclared.trans hlocal) hnone (Nat.zero_le _)
            · next v hlocal =>
              have hle := length_le_of_local? hlocal
              rw [List.length_cons] at hle
              refine hother (some v) (v.length - 1) (hdeclared.trans hlocal) ?_ (by omega)
              intro u hu
              refine isBrace_of_isTypePart (local?_isTypePart hlocal u ?_)
              cases hlength : v.length with
              | zero =>
                rw [hlength] at hu
                cases hu
              | succ n =>
                rw [hlength] at hu
                exact List.mem_cons_of_mem t hu
          · next hstart =>
            rw [if_neg hstart] at hdeclared
            exact hother none 0 hdeclared hnone (Nat.zero_le _)

theorem step_le (s : State) (before : List Token) (t : Token) (rest : List Token)
    : (step s before t rest).2 ≤ rest.length := by
  have heffect := step_effect s before t rest
  generalize step s before t rest = next at heffect ⊢
  cases heffect with
  | enter => exact Nat.zero_le _
  | leave => exact Nat.zero_le _
  | block _ _ hrest =>
    rw [hrest]
    exact Nat.succ_le_succ (Nat.zero_le _)
  | expression => exact Nat.zero_le _
  | other _ _ hle => exact hle

/-! The path of the search. -/

/--
The search goes from the first moment to the second one, and on the way it binds these names where
just `depth` blocks are open.
-/
inductive Binds (depth : Nat) : Moment → List Binding → Moment → Prop where
  | refl (m : Moment) : Binds depth m [] m
  | step {s : State} {before : List Token} {t : Token} {rest : List Token} {bound : List Binding}
      {m : Moment} (h : Binds depth (Moment.behind s before t rest) bound m) :
      Binds depth ⟨s, before, t :: rest⟩
        ((if (s.at (rest.length + 1)).scopes.depth = depth then
          (declared? before t rest).toList.map fun v => (v.name, v.type) else []) ++ bound) m

theorem Searches.exists_binds {env : Surroundings} {m m' : Moment} {found : List Access}
    (h : Searches env m found m') (depth : Nat) : ∃ bound, Binds depth m bound m' := by
  induction h with
  | refl m => exact ⟨[], .refl m⟩
  | step _ ih =>
    obtain ⟨bound, hbound⟩ := ih
    exact ⟨_, hbound.step⟩

theorem Binds.suffix {depth : Nat} {m m' : Moment} {bound : List Binding}
    (h : Binds depth m bound m') : m'.left <:+ m.left := by
  induction h with
  | refl => exact List.suffix_refl _
  | step _ ih => exact (ih.trans (List.drop_suffix _ _)).trans (List.suffix_cons _ _)

/-! Inside of a stretch of tokens. -/

/--
A stretch of tokens that holds braces only in whole pairs, whose lambdas end in it, and inside of
which no lambda ends that was open before.
-/
structure Region (s₀ : State) (tokens back : List Token) : Prop where
  whole : Whole tokens
  contained : Contained tokens back
  outer : ∀ e ∈ s₀.lambdaEnds.head?, e ≤ back.length ∨ (tokens ++ back).length < e

/--
What is known in a stretch of tokens behind its front `x`, if the stretch was entered in the state
`s₀`: the names `bound` are bound right in the stretch, and `frames` are the blocks of the braces
and the lambdas that have been opened in it and are still open.
-/
structure Within (s₀ : State) (tokens back x : List Token) (bound : List Binding)
    (frames : List Scopes.Frame) (lambdas : List Nat) (s : State) : Prop where
  scopes : s.scopes = (s₀.scopes.declareAll bound).stack frames
  lambdaEnds : s.lambdaEnds = lambdas ++ s₀.lambdaEnds
  frames : ∃ opened, braces? [] x = some opened ∧ frames.length = opened.length + lambdas.length
  ends : ∀ e ∈ lambdas, back.length ≤ e ∧ e < (tokens ++ back).length

theorem leaveLambdas_stack {left : Nat} {base : List Nat} (hbase : ∀ e ∈ base.head?, e ≠ left)
    (s : Scopes) {frames : List Scopes.Frame} {lambdas : List Nat}
    (hlength : lambdas.length ≤ frames.length)
    : ∃ n ≤ lambdas.length,
        leaveLambdas left (s.stack frames) (lambdas ++ base)
            = (s.stack (frames.drop n), lambdas.drop n ++ base)
          ∧ ∀ e ∈ (lambdas.drop n).head?, e ≠ left := by
  induction lambdas generalizing frames with
  | nil =>
    refine ⟨0, Nat.le_refl 0, ?_, by simp⟩
    cases base with
    | nil => rfl
    | cons e base => exact if_neg (hbase e rfl)
  | cons e lambdas ih =>
    by_cases he : e = left
    · cases frames with
      | nil => cases hlength
      | cons frame frames =>
        obtain ⟨n, hn, hleave, hhead⟩ := ih (Nat.le_of_succ_le_succ hlength)
        refine ⟨n + 1, Nat.succ_le_succ hn, ?_, hhead⟩
        rw [List.cons_append, leaveLambdas, if_pos he, Scopes.pop_stack]
        exact hleave
    · refine ⟨0, Nat.zero_le _, ?_, ?_⟩
      · rw [List.cons_append, leaveLambdas, if_neg he]
        rfl
      · rintro e' ⟨⟩
        exact he

theorem State.at_eq (s : State) (left : Nat)
    : s.at left
        =
      { s with
        scopes := (leaveLambdas left s.scopes s.lambdaEnds).1
        lambdaEnds := (leaveLambdas left s.scopes s.lambdaEnds).2 } :=
  rfl

namespace Within

variable {s₀ s : State} {tokens back x y : List Token} {bound : List Binding}
  {frames : List Scopes.Frame} {lambdas : List Nat}

theorem refl (s₀ : State) (tokens back : List Token) : Within s₀ tokens back [] [] [] [] s₀ where
  scopes := rfl
  lambdaEnds := rfl
  frames := ⟨[], rfl, rfl⟩
  ends := List.forall_mem_nil _

theorem depth_eq (h : Within s₀ tokens back x bound frames lambdas s)
    : s.scopes.depth = frames.length + s₀.scopes.depth := by
  rw [h.scopes, Scopes.depth_stack, Scopes.depth_declareAll]

theorem depth_eq_iff (h : Within s₀ tokens back x bound frames lambdas s)
    : s.scopes.depth = s₀.scopes.depth ↔ frames = [] := by
  rw [h.depth_eq, ← List.length_eq_zero_iff]
  omega

theorem leave (h : Within s₀ tokens back x bound frames lambdas s) (hregion : Region s₀ tokens back)
    {left : Nat} (hlt : back.length < left) (hle : left ≤ (tokens ++ back).length)
    : ∃ frames' lambdas', Within s₀ tokens back x bound frames' lambdas' (s.at left)
        ∧ (∀ e ∈ lambdas'.head?, e ≠ left) ∧ lambdas' ⊆ lambdas := by
  obtain ⟨opened, hopened, hlength⟩ := h.frames
  have hbase : ∀ e ∈ s₀.lambdaEnds.head?, e ≠ left := by
    intro e he
    have houter := hregion.outer e he
    omega
  obtain ⟨n, hn, hleave, hhead⟩ := leaveLambdas_stack hbase (s₀.scopes.declareAll bound)
    (show lambdas.length ≤ frames.length by omega)
  refine ⟨frames.drop n, lambdas.drop n, ?_, hhead, List.drop_subset n lambdas⟩
  rw [State.at_eq, h.scopes, h.lambdaEnds, hleave]
  refine ⟨rfl, rfl, ⟨opened, hopened, ?_⟩, fun e he => h.ends e (List.mem_of_mem_drop he)⟩
  rw [List.length_drop, List.length_drop]
  omega

theorem pass (h : Within s₀ tokens back x bound frames lambdas s) {taken : List Token}
    (htaken : ∀ u ∈ taken, u.isBrace = false)
    : Within s₀ tokens back (x ++ taken) bound frames lambdas s where
  scopes := h.scopes
  lambdaEnds := h.lambdaEnds
  frames := by
    obtain ⟨opened, hopened, hlength⟩ := h.frames
    refine ⟨opened, ?_, hlength⟩
    rw [braces?_append, hopened, Option.bind_some]
    clear hopened hlength
    induction taken with
    | nil => rfl
    | cons u taken ih =>
      rw [List.forall_mem_cons] at htaken
      rw [braces?_cons, braceStep_other htaken.1]
      exact ih htaken.2
  ends := h.ends

theorem enter (h : Within s₀ tokens back x bound frames lambdas s) {t : Token}
    (ht : t.isPunct "\x7b" = true) (frame : Scopes.Frame) (anonymous : List Nat)
    : Within s₀ tokens back (x ++ [t]) bound (frame :: frames) lambdas
        { s with
          scopes := (s₀.scopes.declareAll bound).stack (frame :: frames)
          anonymous := anonymous } where
  scopes := rfl
  lambdaEnds := h.lambdaEnds
  frames := by
    obtain ⟨opened, hopened, hlength⟩ := h.frames
    refine ⟨t :: opened, ?_, ?_⟩
    · rw [braces?_append, hopened, Option.bind_some, braces?_cons]
      unfold braceStep
      rw [if_pos ht]
      rfl
    · rw [List.length_cons, List.length_cons, hlength, Nat.add_right_comm]
  ends := h.ends

theorem exit (h : Within s₀ tokens back x bound frames lambdas s) (hregion : Region s₀ tokens back)
    {t : Token} (htokens : tokens = x ++ t :: y) (ht : t.isPunct "\x7d" = true)
    (anonymous : List Nat)
    : ∃ frames', Within s₀ tokens back (x ++ [t]) bound frames' lambdas
        { s with scopes := s.scopes.pop, anonymous := anonymous } := by
  obtain ⟨opened, hopened, hlength⟩ := h.frames
  have hopening : ¬ t.isPunct "\x7b" = true := by
    rw [Token.isPunct_of_isPunct ht]
    decide
  have hwhole := hregion.whole
  rw [Whole, htokens, braces?_append, hopened, Option.bind_some, braces?_cons,
    Option.bind_eq_some_iff] at hwhole
  obtain ⟨opened', hstep, -⟩ := hwhole
  -- Braces match in the region, so the brace closes one that the region has opened.
  have hcloses : ∃ last, opened = last :: opened' := by
    unfold braceStep at hstep
    rw [if_neg hopening, if_pos ht] at hstep
    split at hstep
    · cases hstep
    · next last opened'' =>
      rw [Option.some.injEq] at hstep
      exact ⟨last, by rw [hstep]⟩
  obtain ⟨last, rfl⟩ := hcloses
  rw [List.length_cons] at hlength
  cases frames with
  | nil =>
    rw [List.length_nil] at hlength
    omega
  | cons frame frames =>
    rw [List.length_cons] at hlength
    refine ⟨frames, ?_, h.lambdaEnds, ⟨opened', ?_, by omega⟩, h.ends⟩
    · rw [← Scopes.pop_stack _ frame, ← h.scopes]
    · rw [braces?_append, hopened, Option.bind_some, braces?_cons, hstep]
      rfl

theorem enterLambda (h : Within s₀ tokens back x bound frames lambdas s) {e : Nat}
    (he : back.length ≤ e) (he' : e < (tokens ++ back).length) (frame : Scopes.Frame)
    : Within s₀ tokens back x bound (frame :: frames) (e :: lambdas)
        { s with
          scopes := (s₀.scopes.declareAll bound).stack (frame :: frames)
          lambdaEnds := e :: s.lambdaEnds } where
  scopes := rfl
  lambdaEnds := by
    rw [h.lambdaEnds]
    rfl
  frames := by
    obtain ⟨opened, hopened, hlength⟩ := h.frames
    refine ⟨opened, hopened, ?_⟩
    rw [List.length_cons, List.length_cons, hlength, Nat.add_assoc]
  ends := List.forall_mem_cons.2 ⟨⟨he, he'⟩, h.ends⟩

theorem declare (h : Within s₀ tokens back x bound frames lambdas s) (v : Local)
    : ∃ frames', Within s₀ tokens back x
        (bound ++ if s.scopes.depth = s₀.scopes.depth then [(v.name, v.type)] else [])
        frames' lambdas (s.declare v) := by
  have hdepth := h.depth_eq_iff
  obtain ⟨opened, hopened, hlength⟩ := h.frames
  cases frames with
  | nil =>
    rw [if_pos (hdepth.2 rfl)]
    refine ⟨[], ?_, h.lambdaEnds, ⟨opened, hopened, hlength⟩, h.ends⟩
    rw [State.declare, h.scopes, Scopes.declareAll_append]
    rfl
  | cons frame frames =>
    rw [if_neg fun heq => absurd (hdepth.1 heq) (List.cons_ne_nil _ _), List.append_nil]
    refine ⟨((v.name, v.type) :: frame) :: frames, ?_, h.lambdaEnds, ⟨opened, hopened, ?_⟩, h.ends⟩
    · rw [State.declare, h.scopes, Scopes.declare_stack]
    · rw [← hlength]
      rfl

theorem step (h : Within s₀ tokens back x bound frames lambdas s) (hregion : Region s₀ tokens back)
    {before : List Token} {t : Token} (htokens : tokens = x ++ t :: y)
    (hskip : (Access.step s before t (y ++ back)).2 ≤ y.length)
    : ∃ frames' lambdas', Within s₀ tokens back
        (x ++ t :: y.take (Access.step s before t (y ++ back)).2)
        (bound ++ if s.scopes.depth = s₀.scopes.depth then
          (declared? before t (y ++ back)).toList.map fun v => (v.name, v.type) else [])
        frames' lambdas' (Access.step s before t (y ++ back)).1 := by
  have heffect := step_effect s before t (y ++ back)
  generalize Access.step s before t (y ++ back) = next at heffect hskip ⊢
  -- At braces and arrows nothing is bound in the block that is open before them.
  have hnone : declared? before t (y ++ back) = none → (bound ++ if s.scopes.depth
      = s₀.scopes.depth then (declared? before t (y ++ back)).toList.map fun v => (v.name, v.type)
        else []) = bound := by
    intro hdeclared
    rw [hdeclared, Option.toList_none, List.map_nil, ite_self, List.append_nil]
  cases heffect with
  | enter ht =>
    rw [hnone (declared?_of_isBrace (Token.isBrace_of_isPunct ht) _ _)]
    refine ⟨[] :: frames, lambdas, ?_⟩
    rw [List.take_zero, h.scopes, Scopes.push_stack]
    exact h.enter ht [] _
  | leave ht =>
    rw [hnone (declared?_of_isBrace (Token.isBrace_of_isPunct ht) _ _)]
    obtain ⟨frames', hframes'⟩ := h.exit hregion htokens ht
      (s.anonymous.dropWhile (s.scopes.pop.depth < ·))
    exact ⟨frames', lambdas, hframes'⟩
  | @block opening inside hbefore ht hrest hopening =>
    cases y with
    | nil => cases hskip
    | cons opening' y =>
      obtain ⟨rfl, rfl⟩ := List.cons.inj hrest
      rw [hnone (declared?_of_arrow ht hbefore _)]
      refine ⟨((lambdaParameters before).reverse ++ []) :: frames, lambdas, ?_⟩
      have hpass : Within s₀ tokens back (x ++ [t]) bound frames lambdas s :=
        h.pass (List.forall_mem_singleton.2 (Token.isBrace_of_isPunct ht))
      have henter := hpass.enter hopening ((lambdaParameters before).reverse ++ []) s.anonymous
      rw [List.append_assoc] at henter
      rw [h.scopes, Scopes.push_stack, Scopes.declareAll_stack]
      exact henter
  | expression hbefore ht hrest =>
    rw [hnone (declared?_of_arrow ht hbefore _)]
    have hle : back.length ≤ (splitExpression 0 (y ++ back)).2.length :=
      hregion.contained x t y htokens ht hrest
    have hlt : (splitExpression 0 (y ++ back)).2.length < (tokens ++ back).length := by
      have hsuffix := (splitExpression_suffix 0 (y ++ back)).length_le
      simp only [htokens, List.length_append, List.length_cons] at hsuffix ⊢
      omega
    have hpass : Within s₀ tokens back (x ++ [t]) bound frames lambdas s :=
      h.pass (List.forall_mem_singleton.2 (Token.isBrace_of_isPunct ht))
    have hlambda := hpass.enterLambda hle hlt ((lambdaParameters before).reverse ++ [])
    refine ⟨((lambdaParameters before).reverse ++ []) :: frames,
      (splitExpression 0 (y ++ back)).2.length :: lambdas, ?_⟩
    rw [h.scopes, Scopes.push_stack, Scopes.declareAll_stack]
    exact hlambda
  | @other n ht hn =>
    have htake : ∀ u ∈ t :: y.take n, u.isBrace = false := by
      refine List.forall_mem_cons.2 ⟨ht, ?_⟩
      rw [List.take_append_of_le_length hskip] at hn
      exact hn
    have hpass := h.pass htake
    cases declared? before t (y ++ back) with
    | none =>
      rw [Option.toList_none, List.map_nil, ite_self, List.append_nil]
      exact ⟨frames, lambdas, hpass⟩
    | some v =>
      obtain ⟨frames', hframes'⟩ := hpass.declare v
      exact ⟨frames', lambdas, hframes'⟩

theorem behind (h : Within s₀ tokens back x bound frames lambdas s)
    (hregion : Region s₀ tokens back) {before : List Token} {t : Token}
    (htokens : tokens = x ++ t :: y)
    (hle : back.length ≤ (Moment.behind s before t (y ++ back)).left.length)
    : s₀.scopes.depth ≤ (s.at ((y ++ back).length + 1)).scopes.depth
        ∧ ∃ taken y' frames' lambdas' s', y = taken ++ y'
          ∧ Moment.behind s before t (y ++ back) = ⟨s', (t :: taken).reverse ++ before, y' ++ back⟩
          ∧ Within s₀ tokens back (x ++ t :: taken)
              (bound ++ if (s.at ((y ++ back).length + 1)).scopes.depth = s₀.scopes.depth then
                (declared? before t (y ++ back)).toList.map fun v => (v.name, v.type) else [])
              frames' lambdas' s' := by
  have htotal : (tokens ++ back).length = x.length + (y.length + 1) + back.length := by
    rw [htokens, List.length_append, List.length_append, List.length_cons]
  have hlength : (y ++ back).length = y.length + back.length := List.length_append
  obtain ⟨frames', lambdas', hat, -, -⟩ := h.leave hregion
    (show back.length < (y ++ back).length + 1 by omega)
    (show (y ++ back).length + 1 ≤ (tokens ++ back).length by omega)
  have hskip : (Access.step (s.at ((y ++ back).length + 1)) before t (y ++ back)).2
      ≤ y.length := by
    have hrest := step_le (s.at ((y ++ back).length + 1)) before t (y ++ back)
    rw [Moment.behind, List.length_drop] at hle
    omega
  obtain ⟨frames'', lambdas'', hstep⟩ := hat.step hregion htokens hskip
  refine ⟨?_, _, _, frames'', lambdas'', _, (List.take_append_drop _ y).symm, ?_, hstep⟩
  · rw [hat.depth_eq]
    exact Nat.le_add_left _ _
  · rw [Moment.behind, List.take_append_of_le_length hskip, List.drop_append_of_le_length hskip,
      List.reverse_cons, List.append_assoc, List.singleton_append]

theorem binds (h : Within s₀ tokens back x bound frames lambdas s)
    (hregion : Region s₀ tokens back) {before : List Token} {bound' : List Binding} {m : Moment}
    (hbinds : Binds s₀.scopes.depth ⟨s, before, y ++ back⟩ bound' m) (htokens : tokens = x ++ y)
    (hle : back.length ≤ m.left.length)
    : ∃ taken y' frames' lambdas', y = taken ++ y' ∧ m.left = y' ++ back
        ∧ m.before = taken.reverse ++ before
        ∧ Within s₀ tokens back (x ++ taken) (bound ++ bound') frames' lambdas' m.state := by
  generalize hm : Moment.mk s before (y ++ back) = m₀ at hbinds
  induction hbinds generalizing s before x y bound frames lambdas with
  | refl m =>
    subst hm
    refine ⟨[], y, frames, lambdas, rfl, rfl, rfl, ?_⟩
    rw [List.append_nil, List.append_nil]
    exact h
  | @step s before t rest bound' m hrest ih =>
    rw [Moment.mk.injEq] at hm
    obtain ⟨rfl, rfl, hleft⟩ := hm
    have hbehind := hle.trans hrest.suffix.length_le
    cases y with
    | nil =>
      -- The search would be behind the stretch already.
      rw [List.nil_append] at hleft
      rw [hleft, Moment.behind, List.length_drop, List.length_cons] at hbehind
      omega
    | cons u y =>
      rw [List.cons_append, List.cons.injEq] at hleft
      obtain ⟨rfl, rfl⟩ := hleft
      obtain ⟨-, taken, y', frames', lambdas', s', rfl, hmoment, hwithin⟩ :=
        h.behind hregion htokens hbehind
      rw [List.append_cons, ← List.append_assoc, ← List.append_cons] at htokens
      obtain ⟨taken', y'', frames'', lambdas'', rfl, hleft', hbefore', hwithin'⟩ :=
        ih hwithin htokens hle hmoment.symm
      refine ⟨u :: (taken ++ taken'), y'', frames'', lambdas'', ?_, hleft', ?_, ?_⟩
      · rw [List.cons_append, List.append_assoc]
      · rw [hbefore', ← List.append_assoc, ← List.reverse_append, List.cons_append]
      · rw [List.append_assoc, List.append_assoc, List.cons_append] at hwithin'
        exact hwithin'

theorem binds_outside (h : Within s₀ tokens back x bound frames lambdas s)
    (hregion : Region s₀ tokens back) {depth : Nat} (hdepth : depth < s₀.scopes.depth)
    {before : List Token} {bound' : List Binding} {m : Moment}
    (hbinds : Binds depth ⟨s, before, y ++ back⟩ bound' m) (htokens : tokens = x ++ y)
    (hle : back.length ≤ m.left.length) : bound' = [] := by
  generalize hm : Moment.mk s before (y ++ back) = m₀ at hbinds
  induction hbinds generalizing s before x y bound frames lambdas with
  | refl m => rfl
  | @step s before t rest bound' m hrest ih =>
    rw [Moment.mk.injEq] at hm
    obtain ⟨rfl, rfl, hleft⟩ := hm
    have hbehind := hle.trans hrest.suffix.length_le
    cases y with
    | nil =>
      rw [List.nil_append] at hleft
      rw [hleft, Moment.behind, List.length_drop, List.length_cons] at hbehind
      omega
    | cons u y =>
      rw [List.cons_append, List.cons.injEq] at hleft
      obtain ⟨rfl, rfl⟩ := hleft
      obtain ⟨hlevel, taken, y', frames', lambdas', s', rfl, hmoment, hwithin⟩ :=
        h.behind hregion htokens hbehind
      rw [List.append_cons, ← List.append_assoc, ← List.append_cons] at htokens
      rw [ih hwithin htokens hle hmoment.symm, if_neg (by omega)]
      rfl

end Within

end Access

end DeprecatedUse.Java
