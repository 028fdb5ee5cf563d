import DeprecatedUse.Proofs.Java.Nesting
import DeprecatedUse.Proofs.Java.Cursor.Accesses

/-!
This module contains the course of the search of a body, moment by moment. The search skips only
tokens that types are written with and the brace behind an arrow, so it comes to every other token.
-/

namespace DeprecatedUse.Java

namespace Access

/-! Moments of the search. -/

/--
What is known at a moment of the search, the tokens that are behind, nearest first, and the tokens
that are left.
-/
structure Moment where
  state : State
  before : List Token
  left : List Token

namespace Moment

def start (body : Body) : Moment :=
  let bindings := body.parameters.map fun (name, type) => (name, some type)
  ⟨{ scopes := Scopes.declareAll {} bindings }, [], body.tokens⟩

def tokens (m : Moment) : List Token :=
  m.before.reverse ++ m.left

def uses (env : Surroundings) (m : Moment) : List Access :=
  scan env m.state m.before m.left

def behind (s : State) (before : List Token) (t : Token) (rest : List Token) : Moment :=
  let next := step (s.at (rest.length + 1)) before t rest
  ⟨next.1, (rest.take next.2).reverse ++ t :: before, rest.drop next.2⟩

theorem tokens_behind (s : State) (before : List Token) (t : Token) (rest : List Token)
    : (behind s before t rest).tokens = tokens ⟨s, before, t :: rest⟩ := by
  simp [behind, tokens]

end Moment

theorem ofBody_eq (names : TypeNames) (types : List TypeDecl) (body : Body)
    : ofBody names types body = (Moment.start body).uses ⟨names, types, body.owner⟩ :=
  rfl

/--
The search goes from the first moment to the second one and finds these uses on the way.
-/
inductive Searches (env : Surroundings) : Moment → List Access → Moment → Prop where
  | refl (m : Moment) : Searches env m [] m
  | step {s : State} {before : List Token} {t : Token} {rest : List Token} {found : List Access}
      {m : Moment} (h : Searches env (Moment.behind s before t rest) found m) :
      Searches env ⟨s, before, t :: rest⟩
        ((access? env (s.at (rest.length + 1)) before t rest).toList ++ found) m

namespace Searches

variable {env : Surroundings} {m m' m'' : Moment} {found found' : List Access}

theorem trans (h : Searches env m found m') (h' : Searches env m' found' m'')
    : Searches env m (found ++ found') m'' := by
  induction h with
  | refl => exact h'
  | step _ ih =>
    rw [List.append_assoc]
    exact .step (ih h')

theorem uses_eq (h : Searches env m found m') : m.uses env = found ++ m'.uses env := by
  induction h with
  | refl => rfl
  | @step s before t rest found m' _ ih =>
    have huses : (Moment.mk s before (t :: rest)).uses env
        = (access? env (s.at (rest.length + 1)) before t rest).toList
          ++ (Moment.behind s before t rest).uses env := by
      rw [Moment.uses, scan]
      rfl
    rw [huses, ih, List.append_assoc]

end Searches

/-! Tokens of types. -/

def isTypePart (t : Token) : Bool :=
  t.isIdent || t.isPunctOf [".", ",", "?", "&", "[", "]", "@", "<", ">"]

theorem isTypePart_of_isIdent {t : Token} (h : t.isIdent = true) : isTypePart t = true := by
  rw [isTypePart, h]
  rfl

theorem isTypePart_of_isPunct {t : Token} {mark : String} (h : t.isPunct mark = true)
    (hmark : mark ∈ [".", ",", "?", "&", "[", "]", "@", "<", ">"]) : isTypePart t = true := by
  rw [isTypePart, Token.isPunctOf_of_isPunct h, List.contains_iff_mem.2 hmark, Bool.or_true]

theorem isTypePart_eq_false {t : Token} {mark : String} (h : t.isPunct mark = true)
    (hmark : mark ∉ [".", ",", "?", "&", "[", "]", "@", "<", ">"]) : isTypePart t = false := by
  rw [isTypePart, Token.isIdent_of_isPunct h, Token.isPunctOf_of_isPunct h, Bool.false_or,
    Bool.eq_false_iff, ne_eq, List.contains_iff_mem]
  exact hmark

theorem isIdent_of_isPlain {t : Token} (h : isPlain t = true) : t.isIdent = true := by
  rw [isPlain, Bool.and_eq_true] at h
  exact h.1

theorem isWord_of_isPlain {t : Token} (h : isPlain t = true) {word : String}
    (hword : word ∈ reservedWords) : t.isWord word = false := by
  rw [isPlain, Bool.and_eq_true, Bool.not_eq_true', Bool.eq_false_iff, ne_eq,
    List.contains_iff_mem] at h
  rw [Token.isWord, Bool.and_eq_false_iff, beq_eq_false_iff_ne (a := t.text)]
  right
  rintro rfl
  exact h.2 hword

theorem splitDotted_isTypePart (tokens : List Token)
    : ∀ u ∈ (splitDotted tokens).1, isTypePart u = true := by
  fun_induction splitDotted tokens with
  | case1 dot name rest hmark taken after hsplit ih =>
    rw [Bool.and_eq_true] at hmark
    rw [hsplit] at ih
    intro u hu
    rcases List.mem_cons.1 hu with rfl | hu
    · exact isTypePart_of_isPunct hmark.1 (by decide)
    · rcases List.mem_cons.1 hu with rfl | hu
      · exact isTypePart_of_isIdent hmark.2
      · exact ih u hu
  | case2 => exact List.forall_mem_nil _
  | case3 => exact List.forall_mem_nil _

theorem splitDims_isTypePart (tokens : List Token)
    : ∀ u ∈ (splitDims tokens).1, isTypePart u = true := by
  fun_induction splitDims tokens with
  | case1 opening closing rest hmark taken after hsplit ih =>
    rw [Bool.and_eq_true] at hmark
    rw [hsplit] at ih
    intro u hu
    rcases List.mem_cons.1 hu with rfl | hu
    · exact isTypePart_of_isPunct hmark.1 (by decide)
    · rcases List.mem_cons.1 hu with rfl | hu
      · exact isTypePart_of_isPunct hmark.2 (by decide)
      · exact ih u hu
  | case2 => exact List.forall_mem_nil _
  | case3 => exact List.forall_mem_nil _

theorem splitArgumentsFrom?_isTypePart {depth : Nat} {tokens taken after : List Token}
    (h : splitArgumentsFrom? depth tokens = some (taken, after))
    : ∀ u ∈ taken, isTypePart u = true := by
  induction tokens generalizing depth taken after with
  | nil => cases h
  | cons t rest ih =>
    have hmap : ∀ {depth'}, isTypePart t = true →
        ((splitArgumentsFrom? depth' rest).map fun split => (t :: split.1, split.2))
          = some (taken, after) → ∀ u ∈ taken, isTypePart u = true := by
      intro depth' ht hmap
      obtain ⟨⟨taken', after'⟩, hsplit, heq⟩ := Option.map_eq_some_iff.1 hmap
      rw [Prod.mk.injEq] at heq
      obtain ⟨rfl, rfl⟩ := heq
      exact List.forall_mem_cons.2 ⟨ht, ih hsplit⟩
    rw [splitArgumentsFrom?] at h
    split at h
    · next ht => exact hmap (isTypePart_of_isPunct ht (by decide)) h
    · split at h
      · next ht =>
        have hpart := isTypePart_of_isPunct ht (by decide)
        split at h
        · rw [Option.some.injEq, Prod.mk.injEq] at h
          obtain ⟨rfl, rfl⟩ := h
          exact List.forall_mem_singleton.2 hpart
        · exact hmap hpart h
      · split at h
        · next ht =>
          refine hmap ?_ h
          rcases Bool.or_eq_true_iff.1 ht with ht | ht
          · exact isTypePart_of_isIdent ht
          · rw [isTypePart, Token.isPunctOf_mono ht (by simp), Bool.or_true]
        · cases h

theorem splitArguments?_isTypePart {tokens taken after : List Token}
    (h : splitArguments? tokens = some (taken, after)) : ∀ u ∈ taken, isTypePart u = true := by
  unfold splitArguments? at h
  split at h
  · exact splitArgumentsFrom?_isTypePart h
  · rw [Option.some.injEq, Prod.mk.injEq] at h
    rw [← h.1]
    exact List.forall_mem_nil _

theorem splitType?_isTypePart {tokens type rest : List Token}
    (h : splitType? tokens = some (type, rest))
    : type ++ rest = tokens ∧ ∀ u ∈ type, isTypePart u = true := by
  cases tokens with
  | nil => cases h
  | cons first tokens =>
    rw [splitType?] at h
    split at h
    · next hfirst =>
      dsimp only [Option.bind_eq_bind] at h
      obtain ⟨⟨arguments, behind⟩, harguments, h⟩ := Option.bind_eq_some_iff.1 h
      rw [Option.pure_def, Option.some.injEq, Prod.mk.injEq] at h
      obtain ⟨rfl, rfl⟩ := h
      constructor
      · rw [List.append_assoc, Cursor.splitDims_append, List.append_assoc,
          Cursor.splitArguments?_append harguments, List.cons_append, Cursor.splitDotted_append]
      · rw [List.forall_mem_append, List.forall_mem_append, List.forall_mem_cons]
        exact ⟨⟨⟨isTypePart_of_isIdent (isIdent_of_isPlain hfirst), splitDotted_isTypePart _⟩,
          splitArguments?_isTypePart harguments⟩, splitDims_isTypePart _⟩
    · cases h

theorem local?_isTypePart {pattern : Bool} {tokens : List Token} {v : Local}
    (h : local? pattern tokens = some v)
    : ∀ u ∈ tokens.take v.length, isTypePart u = true := by
  have hsplit := List.takeWhile_append_dropWhile (p := (·.isWord "final")) (l := tokens)
  have hfinals : ∀ u ∈ tokens.takeWhile (·.isWord "final"), isTypePart u = true := by
    intro u hu
    have hword := List.mem_takeWhile_imp hu
    rw [Token.isWord, Bool.and_eq_true] at hword
    exact isTypePart_of_isIdent hword.1
  rw [Cursor.local?_eq] at h
  obtain ⟨⟨type, behind⟩, htype, h⟩ := Option.bind_eq_some_iff.1 h
  obtain ⟨happend, hparts⟩ := splitType?_isTypePart htype
  cases behind with
  | nil => cases h
  | cons name rest =>
    rw [Cursor.localBehind] at h
    dsimp only at h
    rw [Option.ite_none_right_eq_some, Option.some.injEq, Bool.and_eq_true] at h
    obtain ⟨⟨hname, -⟩, rfl⟩ := h
    have htake : ∀ taken, taken ++ rest = tokens
        → tokens.take (tokens.length - rest.length) = taken := by
      rintro taken rfl
      rw [List.length_append, Nat.add_sub_cancel, List.take_left]
    have htokens : (tokens.takeWhile (·.isWord "final") ++ type ++ [name]) ++ rest = tokens := by
      rw [List.append_assoc, List.append_assoc, List.singleton_append, happend, hsplit]
    rw [htake _ htokens, List.forall_mem_append, List.forall_mem_append, List.forall_mem_singleton]
    exact ⟨⟨hfinals, hparts⟩, isTypePart_of_isIdent (isIdent_of_isPlain hname)⟩

/-! Ends of lambdas. -/

def endsExpression (t : Token) : Bool :=
  t.isPunctOf [")", "]", "\x7d", ",", ";"]

theorem endsExpression_splitExpression {depth : Nat} {tokens rest : List Token} {t : Token}
    (h : (splitExpression depth tokens).2 = t :: rest) : endsExpression t = true := by
  induction tokens generalizing depth with
  | nil => cases h
  | cons u tokens ih =>
    rw [splitExpression] at h
    split at h
    · exact ih h
    · split at h
      · next hend =>
        rw [List.cons.injEq] at h
        rw [Bool.and_eq_true, h.1] at hend
        exact hend.2
      · exact ih h

theorem at_lambdaEnds_subset (s : State) (left : Nat) : (s.at left).lambdaEnds ⊆ s.lambdaEnds :=
  Cursor.leaveLambdas_subset s.scopes s.lambdaEnds

theorem step_lambdaEnds (s : State) (before : List Token) (t : Token) (rest : List Token)
    : (step s before t rest).1.lambdaEnds
        ⊆
      (splitExpression 0 rest).2.length :: s.lambdaEnds := by
  unfold step
  split
  · exact List.subset_cons_self _ _
  split
  · exact List.subset_cons_self _ _
  split
  · dsimp only
    split
    · exact List.subset_cons_self _ _
    · exact List.Subset.refl _
  split
  · split
    · exact List.subset_cons_self _ _
    · exact List.subset_cons_self _ _
  split
  · split
    · exact List.subset_cons_self _ _
    · exact List.subset_cons_self _ _
  · exact List.subset_cons_self _ _

def Moment.Marked (m : Moment) : Prop :=
  ∀ e ∈ m.state.lambdaEnds, ∀ t rest, t :: rest <:+ m.tokens → rest.length + 1 = e
    → endsExpression t = true

theorem Moment.marked_start (body : Body) : (start body).Marked := by
  intro e he
  cases he

namespace Moment.Marked

variable {s : State} {before rest : List Token} {t : Token}

theorem at_eq (h : Marked ⟨s, before, t :: rest⟩) (ht : endsExpression t = false)
    : s.at (rest.length + 1) = s := by
  unfold State.at
  cases hends : s.lambdaEnds with
  | nil => rw [leaveLambdas, ← hends]
  | cons stop stops =>
    have hne : stop ≠ rest.length + 1 := by
      rintro rfl
      have hmark := h (rest.length + 1) (by rw [hends]; exact List.mem_cons_self) t rest
        (List.suffix_append _ _) rfl
      rw [ht] at hmark
      cases hmark
    rw [leaveLambdas, if_neg hne, ← hends]

theorem behind (h : Marked ⟨s, before, t :: rest⟩) : (Moment.behind s before t rest).Marked := by
  intro e he u rest' hsuffix hlength
  rw [Moment.tokens_behind] at hsuffix
  rcases List.mem_cons.1 (step_lambdaEnds _ before t rest he) with rfl | he
  · -- The lambda was opened here, and its expression ends at a suffix of the tokens.
    have hend : (splitExpression 0 rest).2 <:+ Moment.tokens ⟨s, before, t :: rest⟩ :=
      (splitExpression_suffix 0 rest).trans
        ((List.suffix_cons t rest).trans (List.suffix_append _ _))
    have heq : u :: rest' = (splitExpression 0 rest).2 :=
      (List.suffix_of_suffix_length_le hsuffix hend (by simp [hlength])).eq_of_length
        (by simp [hlength])
    exact endsExpression_splitExpression heq.symm
  · exact h e (at_lambdaEnds_subset s _ he) u rest' hsuffix hlength

end Moment.Marked

theorem Searches.marked {env : Surroundings} {m m' : Moment} {found : List Access}
    (h : Searches env m found m') (hmarked : m.Marked) : m'.Marked := by
  induction h with
  | refl => exact hmarked
  | step _ ih => exact ih hmarked.behind

/-! Where the search comes to. -/

theorem step_skips (s : State) (before : List Token) (t : Token) (rest : List Token)
    : ∀ u ∈ rest.take (step s before t rest).2, isTypePart u = true ∨ u.isPunct "\x7b" = true := by
  have hnone : ∀ u ∈ rest.take 0, isTypePart u = true ∨ u.isPunct "\x7b" = true :=
    List.forall_mem_nil _
  unfold step
  split
  · exact hnone
  split
  · exact hnone
  split
  · dsimp only
    split
    · next hbrace =>
      cases rest with
      | nil => cases hbrace
      | cons opening rest =>
        rw [List.take_succ_cons, List.take_zero, List.forall_mem_singleton]
        exact .inr hbrace
    · exact hnone
  split
  · split
    · exact hnone
    · exact hnone
  split
  · split
    · exact hnone
    · next v hv =>
      intro u hu
      refine .inl (local?_isTypePart hv u ?_)
      dsimp only at hu
      cases hlength : v.length with
      | zero =>
        rw [hlength] at hu
        cases hu
      | succ n =>
        rw [hlength] at hu
        exact List.mem_cons_of_mem t hu
  · exact hnone

theorem step_stops {t : Token} (htype : isTypePart t = false) (hbrace : t.isPunct "\x7b" = false)
    (s : State) (before : List Token) (u : Token) (front back : List Token)
    : (step s before u (front ++ t :: back)).2 ≤ front.length := by
  rw [← Nat.not_lt]
  intro hlt
  have hmem : t ∈ (front ++ t :: back).take (step s before u (front ++ t :: back)).2 := by
    rw [List.take_append, List.take_of_length_le (Nat.le_of_lt hlt), List.mem_append]
    right
    cases hsub : (step s before u (front ++ t :: back)).2 - front.length with
    | zero => omega
    | succ n => exact List.mem_cons_self
  rcases step_skips _ before u _ t hmem with h | h
  · rw [htype] at h
    cases h
  · rw [hbrace] at h
    cases h

theorem exists_searches (env : Surroundings) {t : Token} (htype : isTypePart t = false)
    (hbrace : t.isPunct "\x7b" = false) (front back : List Token) (s : State)
    (before : List Token)
    : ∃ found s', Searches env ⟨s, before, front ++ t :: back⟩ found
        ⟨s', front.reverse ++ before, t :: back⟩ := by
  induction hn : front.length using Nat.strongRecOn generalizing front s before with
  | ind n ih =>
    cases front with
    | nil => exact ⟨[], s, .refl _⟩
    | cons u front =>
      let next := step (s.at ((front ++ t :: back).length + 1)) before u (front ++ t :: back)
      have hle : next.2 ≤ front.length := step_stops htype hbrace _ before u front back
      have hmoment : Moment.behind s before u (front ++ t :: back)
          = ⟨next.1, (front.take next.2).reverse ++ u :: before,
              front.drop next.2 ++ t :: back⟩ := by
        rw [Moment.behind, List.take_append_of_le_length hle, List.drop_append_of_le_length hle]
      rw [List.length_cons] at hn
      obtain ⟨found, s', h⟩ := ih (front.drop next.2).length (by rw [List.length_drop]; omega)
        (front.drop next.2) next.1 ((front.take next.2).reverse ++ u :: before) rfl
      have hbehind : (front.drop next.2).reverse ++ ((front.take next.2).reverse ++ u :: before)
          = (u :: front).reverse ++ before := by
        rw [← List.append_assoc, ← List.reverse_append, List.take_append_drop,
          List.reverse_cons, List.append_assoc, List.singleton_append]
      rw [hbehind, ← hmoment] at h
      exact ⟨_, s', .step h⟩

/-! Tokens that change nothing. -/

theorem step_other {s : State} {before : List Token} {t : Token} {rest : List Token}
    (hmark : t.isPunctOf ["\x7b", "\x7d", "->"] = false) (hword : t.isWord "instanceof" = false)
    : step s before t rest
        =
      if isStatementStart before then
        match local? false (t :: rest) with
        | none => (s, 0)
        | some v => (s.declare v, v.length - 1)
      else
        (s, 0) := by
  have hpunct : ∀ mark ∈ ["\x7b", "\x7d", "->"], t.isPunct mark = false := by
    intro mark hmem
    rw [Bool.eq_false_iff]
    intro h
    rw [Token.isPunctOf_of_isPunct h, List.contains_iff_mem.2 hmem] at hmark
    cases hmark
  rw [step, hpunct _ (by decide), hpunct _ (by decide), hpunct _ (by decide), hword,
    Bool.false_and, if_neg Bool.false_ne_true, if_neg Bool.false_ne_true,
    if_neg Bool.false_ne_true]
  exact if_neg Bool.false_ne_true

theorem step_inside {s : State} {before : List Token} {t : Token} {rest : List Token}
    (hmark : t.isPunctOf ["\x7b", "\x7d", "->"] = false) (hword : t.isWord "instanceof" = false)
    (hbefore : isStatementStart before = false) : step s before t rest = (s, 0) := by
  rw [step_other hmark hword, hbefore, if_neg Bool.false_ne_true]

theorem step_of_local?_none {s : State} {before : List Token} {t : Token} {rest : List Token}
    (hmark : t.isPunctOf ["\x7b", "\x7d", "->"] = false) (hword : t.isWord "instanceof" = false)
    (hlocal : local? false (t :: rest) = none) : step s before t rest = (s, 0) := by
  rw [step_other hmark hword, hlocal, ite_self]

theorem local?_of_isPunct {t : Token} {mark : String} (h : t.isPunct mark = true)
    (rest : List Token) : local? false (t :: rest) = none := by
  rw [Cursor.local?_eq, List.dropWhile_cons_of_neg (by simp [Token.isWord_of_isPunct h]),
    splitType?, isPlain, Token.isIdent_of_isPunct h]
  rfl

theorem step_of_isPunct {s : State} {before : List Token} {t : Token} {rest : List Token}
    {mark : String} (h : t.isPunct mark = true) (hmark : mark ∉ ["\x7b", "\x7d", "->"])
    : step s before t rest = (s, 0) := by
  refine step_of_local?_none ?_ (Token.isWord_of_isPunct h _) (local?_of_isPunct h rest)
  rw [Token.isPunctOf_of_isPunct h, Bool.eq_false_iff, ne_eq, List.contains_iff_mem]
  exact hmark

theorem searches_single (env : Surroundings) {s : State} {before : List Token} {t : Token}
    {rest : List Token} (hmarked : Moment.Marked ⟨s, before, t :: rest⟩)
    (hend : endsExpression t = false) (hstep : step s before t rest = (s, 0))
    : Searches env ⟨s, before, t :: rest⟩ (access? env s before t rest).toList
        ⟨s, t :: before, rest⟩ := by
  have hat := hmarked.at_eq hend
  have hbehind : Moment.behind s before t rest = ⟨s, t :: before, rest⟩ := by
    rw [Moment.behind, hat, hstep]
    rfl
  have h : Searches env (Moment.behind s before t rest) [] ⟨s, t :: before, rest⟩ := by
    rw [hbehind]
    exact .refl _
  have hfound := h.step
  rw [hat, List.append_nil] at hfound
  exact hfound

end Access

end DeprecatedUse.Java
