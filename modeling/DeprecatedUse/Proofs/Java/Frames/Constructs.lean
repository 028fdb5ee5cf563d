import DeprecatedUse.Proofs.Java.Frames.Stacks

/-!
This module contains the constructs of a body that bind names: lambdas, and statements and clauses
with a header in parentheses. Names that are bound in the block or the lambda of a construct are
forgotten behind it. A name that is bound in a header stays bound, since no block is open there, so
behind the construct it still hides what it meant before.
-/

namespace DeprecatedUse.Java

open Reader (curly_mem_nesting round_mem_nesting)

/-! Groups of brackets. -/

namespace Enclosed

variable {tokens rest : List Token}

theorem nil : Enclosed [] := by
  rintro x t y heq
  cases x with
  | nil => cases heq
  | cons u x => cases heq

theorem cons_other (h : Enclosed rest) {t : Token} (ht : t.isOpening = false)
    (ht' : t.isClosing = false) (hmark : t.isPunctOf [",", ";"] = false)
    : Enclosed (t :: rest) := by
  refine enclosedIn_cons.2 ⟨fun hseparator => ?_, fun next hnext => ?_⟩
  · rw [hmark] at hseparator
    cases hseparator
  · rw [nestStep_other ht ht', Option.some.injEq] at hnext
    rw [← hnext]
    exact h

theorem append (h : Enclosed tokens) (hnested : Nested tokens) (h' : Enclosed rest)
    : Enclosed (tokens ++ rest) := by
  rintro x t y heq ht
  rcases List.append_eq_append_iff.1 heq with ⟨front, rfl, hrest⟩ | ⟨behind, rfl, hrest⟩
  · rw [nest?_append, hnested]
    exact h' front t y hrest ht
  · cases behind with
    | nil =>
      rw [List.nil_append] at hrest
      exact absurd rfl (h' [] t y hrest.symm ht)
    | cons u behind =>
      rw [List.cons_append, List.cons.injEq] at hrest
      exact h x t behind (by rw [hrest.1]) ht

theorem group {inner : List Token} (hinner : Nested inner) {t c : Token} (ht : t.isOpening = true)
    (hc : c.isClosing = true) : Enclosed (t :: (inner ++ [c])) := by
  rw [← Token.isPunctOf_opening] at ht
  rw [← Token.isPunctOf_closing] at hc
  refine enclosedIn_cons.2 ⟨fun hseparator => ?_, ?_⟩
  · rw [Token.isPunctOf_disjoint ht (by decide)] at hseparator
    cases hseparator
  · rw [Token.isPunctOf_opening] at ht
    rintro next hnext x u y heq hu hx
    rw [nestStep_opening ht, Option.some.injEq] at hnext
    subst hnext
    rcases List.eq_nil_or_concat' y with rfl | ⟨y', c', rfl⟩
    · rw [← (List.cons.inj (List.append_inj' heq rfl).2).1,
        Token.isPunctOf_disjoint hc (by decide)] at hu
      cases hu
    · rw [← List.cons_append, ← List.append_assoc] at heq
      have hsplit := (List.append_inj' heq rfl).1
      unfold Nested at hinner
      rw [hsplit, nest?_append, Option.bind_eq_some_iff] at hinner
      obtain ⟨stack, hstack, -⟩ := hinner
      have hframe := nest?_frame hstack [t]
      rw [List.nil_append, hx, Option.some.injEq] at hframe
      exact absurd hframe.symm (by simp)

end Enclosed

namespace Bracket

def IsGroup (b : Bracket) (tokens : List Token) : Prop :=
  ∃ opening inner closing, tokens = opening :: (inner ++ [closing])
    ∧ opening.isPunct b.opening = true ∧ Nested inner ∧ closing.isPunct b.closing = true

namespace IsGroup

variable {b : Bracket} {tokens : List Token}

theorem nested (hb : b ∈ nesting) (h : b.IsGroup tokens) : Nested tokens := by
  obtain ⟨opening, inner, closing, rfl, hopening, hinner, hclosing⟩ := h
  have hpair : opening.closedBy closing = true :=
    List.any_eq_true.2 ⟨b, hb, by rw [hopening, hclosing, Bool.and_self]⟩
  exact hinner.group (Token.isOpening_of_isPunct hb hopening)
    (Token.isClosing_of_isPunct hb hclosing) hpair

theorem enclosed (hb : b ∈ nesting) (h : b.IsGroup tokens) : Enclosed tokens := by
  obtain ⟨opening, inner, closing, rfl, hopening, hinner, hclosing⟩ := h
  exact .group hinner (Token.isOpening_of_isPunct hb hopening)
    (Token.isClosing_of_isPunct hb hclosing)

theorem contained (hb : b ∈ nesting) (h : b.IsGroup tokens) (back : List Token)
    : Access.Contained tokens back := by
  obtain ⟨opening, inner, closing, rfl, hopening, hinner, hclosing⟩ := h
  exact .group hinner (Token.isOpening_of_isPunct hb hopening)
    (Token.isClosing_of_isPunct hb hclosing) back

end IsGroup

end Bracket

namespace Access

/-! Constructs. -/

inductive IsHead : List Token → Prop where
  | nil : IsHead []
  | token {t : Token} {rest : List Token} (h : IsHead rest) (ht : t.isOpening = false)
    (ht' : t.isClosing = false) (harrow : t.isPunct "->" = false) : IsHead (t :: rest)
  | group {tokens rest : List Token} (h : IsHead rest) (htokens : Bracket.round.IsGroup tokens) :
    IsHead (tokens ++ rest)

inductive IsStatements : List Token → Prop where
  | nil : IsStatements []
  | simple {tokens rest : List Token} {t : Token} (h : IsStatements rest) (htokens : Nested tokens)
    (ht : t.isPunct ";" = true) : IsStatements (tokens ++ t :: rest)
  | block {head body rest : List Token} (h : IsStatements rest) (hhead : IsHead head)
    (hbody : Bracket.curly.IsGroup body) : IsStatements (head ++ (body ++ rest))

def IsParameters (tokens : List Token) : Prop :=
  (∃ t, tokens = [t] ∧ t.isIdent = true) ∨ Bracket.round.IsGroup tokens

/--
A lambda with these parameters before the tokens `back`. A block or an expression is behind its
arrow, and an expression is followed by a mark that ends it.
-/
inductive Lambda (parameters back : List Token) : List Token → Prop where
  | block {arrow : Token} {body : List Token} (harrow : arrow.isPunct "->" = true)
    (hbody : Bracket.curly.IsGroup body) : Lambda parameters back (parameters ++ arrow :: body)
  | expression {arrow : Token} {body : List Token} (harrow : arrow.isPunct "->" = true)
    (hbody : Nested body) (henclosed : Enclosed body)
    (hstart : starts (!·.isPunct "\x7b") body = true) (hback : EndsAll back) :
    Lambda parameters back (parameters ++ arrow :: body)

/--
A construct that binds names, before the tokens `back`: a lambda, or a `for` statement, a `try`
statement with resources or a `catch` clause.
-/
inductive Construct (back : List Token) : List Token → Prop where
  | lambda {parameters tokens : List Token} (hparameters : IsParameters parameters)
    (h : Lambda parameters back tokens) : Construct back tokens
  | statement {word : Token} {header body : List Token}
    (hword : word.isWordOf ["for", "try", "catch"] = true)
    (hheader : Bracket.round.IsGroup header) (hbody : IsStatements body) :
    Construct back (word :: (header ++ body))

/-! Brackets and lambdas in a construct. -/

namespace IsHead

variable {tokens : List Token}

theorem nested (h : IsHead tokens) : Nested tokens := by
  induction h with
  | nil => rfl
  | token _ ht ht' _ ih => exact ih.cons_other ht ht'
  | group _ htokens ih => exact (htokens.nested round_mem_nesting).append ih

theorem contained (h : IsHead tokens) (back : List Token) : Contained tokens back := by
  induction h with
  | nil => exact .of_not_mem (List.forall_mem_nil _)
  | @token t rest _ _ _ harrow ih =>
    have hsingle : Contained [t] (rest ++ back) := .of_not_mem (List.forall_mem_singleton.2 harrow)
    exact hsingle.append ih
  | group _ htokens ih => exact (htokens.contained round_mem_nesting _).append ih

end IsHead

namespace IsStatements

variable {tokens : List Token}

theorem nested (h : IsStatements tokens) : Nested tokens := by
  induction h with
  | nil => rfl
  | simple _ htokens ht ih =>
    obtain ⟨hopening, hclosing⟩ := Token.not_bracket_of_isPunct ht (by decide)
    exact htokens.append (ih.cons_other hopening hclosing)
  | block _ hhead hbody ih =>
    exact hhead.nested.append ((hbody.nested curly_mem_nesting).append ih)

theorem contained (h : IsStatements tokens) (back : List Token) : Contained tokens back := by
  induction h with
  | nil => exact .of_not_mem (List.forall_mem_nil _)
  | @simple tokens rest t _ htokens ht ih =>
    have hends : endsExpression t = true := by
      rw [endsExpression, Token.isPunctOf_of_isPunct ht]
      rfl
    have hsingle : Contained [t] (rest ++ back) := by
      refine .of_not_mem (List.forall_mem_singleton.2 ?_)
      rw [Token.isPunct_of_isPunct ht]
      rfl
    have htokens : Contained tokens (t :: rest ++ back) := .of_nested htokens (.inr hends)
    exact htokens.append (hsingle.append ih)
  | block _ hhead hbody ih =>
    exact (hhead.contained _).append ((hbody.contained curly_mem_nesting _).append ih)

end IsStatements

namespace IsParameters

variable {parameters : List Token}

theorem nested (h : IsParameters parameters) : Nested parameters := by
  rcases h with ⟨t, rfl, ht⟩ | h
  · obtain ⟨hopening, hclosing⟩ := Token.not_bracket_of_isIdent ht
    exact (show Nested [] from rfl).cons_other hopening hclosing
  · exact h.nested round_mem_nesting

theorem enclosed (h : IsParameters parameters) : Enclosed parameters := by
  rcases h with ⟨t, rfl, ht⟩ | h
  · obtain ⟨hopening, hclosing⟩ := Token.not_bracket_of_isIdent ht
    exact Enclosed.nil.cons_other hopening hclosing (Token.isPunctOf_of_isIdent ht _)
  · exact h.enclosed round_mem_nesting

theorem contained (h : IsParameters parameters) (back : List Token)
    : Contained parameters back := by
  rcases h with ⟨t, rfl, ht⟩ | h
  · exact .of_not_mem (List.forall_mem_singleton.2 (Cursor.isPunct_of_isIdent ht "->"))
  · exact h.contained round_mem_nesting back

theorem ne_nil (h : IsParameters parameters) : parameters ≠ [] := by
  rcases h with ⟨t, rfl, -⟩ | ⟨opening, inner, closing, rfl, -⟩
  · exact List.cons_ne_nil t []
  · exact List.cons_ne_nil opening _

end IsParameters

namespace Lambda

variable {parameters back tokens : List Token}

theorem nested (h : Lambda parameters back tokens) (hparameters : IsParameters parameters)
    : Nested tokens := by
  have harrows : ∀ {arrow : Token} {body : List Token}, arrow.isPunct "->" = true → Nested body
      → Nested (parameters ++ arrow :: body) := by
    intro arrow body harrow hbody
    obtain ⟨hopening, hclosing⟩ := Token.not_bracket_of_isPunct harrow (by decide)
    exact hparameters.nested.append (hbody.cons_other hopening hclosing)
  cases h with
  | block harrow hbody => exact harrows harrow (hbody.nested curly_mem_nesting)
  | expression harrow hbody => exact harrows harrow hbody

theorem enclosed (h : Lambda parameters back tokens) (hparameters : IsParameters parameters)
    : Enclosed tokens := by
  have harrows : ∀ {arrow : Token} {body : List Token}, arrow.isPunct "->" = true → Enclosed body
      → Enclosed (parameters ++ arrow :: body) := by
    intro arrow body harrow hbody
    obtain ⟨hopening, hclosing⟩ := Token.not_bracket_of_isPunct harrow (by decide)
    refine hparameters.enclosed.append hparameters.nested (hbody.cons_other hopening hclosing ?_)
    rw [Token.isPunctOf_of_isPunct harrow]
    rfl
  cases h with
  | block harrow hbody => exact harrows harrow (hbody.enclosed curly_mem_nesting)
  | expression harrow _ henclosed => exact harrows harrow henclosed

theorem contained (h : Lambda parameters back tokens) (hparameters : IsParameters parameters)
    : Contained tokens back := by
  cases h with
  | @block arrow body harrow hbody =>
    -- The arrow before a block opens no lambda with an expression.
    have harrow : Contained [arrow] (body ++ back) := by
      rintro x t y heq - hbrace
      obtain ⟨opening, inner, closing, rfl, hopening, -⟩ := hbody
      cases x with
      | nil =>
        rw [← (List.cons.inj heq).2, List.nil_append, List.cons_append, starts] at hbrace
        exact absurd hopening (Bool.eq_false_iff.1 hbrace)
      | cons u x => simp at heq
    exact (hparameters.contained _).append (harrow.append (hbody.contained curly_mem_nesting back))
  | expression harrow hbody henclosed hstart hback =>
    exact .of_nested (nested (.expression harrow hbody henclosed hstart hback) hparameters) hback

end Lambda

namespace Construct

variable {back tokens : List Token}

theorem ne_nil (h : Construct back tokens) : tokens ≠ [] := by
  cases h with
  | lambda hparameters h =>
    cases h with
    | block => exact List.append_ne_nil_of_left_ne_nil hparameters.ne_nil _
    | expression => exact List.append_ne_nil_of_left_ne_nil hparameters.ne_nil _
  | statement => exact List.cons_ne_nil _ _

theorem nested (h : Construct back tokens) : Nested tokens := by
  cases h with
  | lambda hparameters h => exact h.nested hparameters
  | @statement word header body hword hheader hbody =>
    obtain ⟨hopening, hclosing⟩ := Token.not_bracket_of_isIdent (Token.isIdent_of_isWordOf hword)
    exact ((hheader.nested round_mem_nesting).append hbody.nested).cons_other hopening hclosing

theorem contained (h : Construct back tokens) : Contained tokens back := by
  cases h with
  | lambda hparameters h => exact h.contained hparameters
  | @statement word header body hword hheader hbody =>
    have hident := Token.isIdent_of_isWordOf hword
    have hsingle : Contained [word] (header ++ body ++ back) :=
      .of_not_mem (List.forall_mem_singleton.2 (Cursor.isPunct_of_isIdent hident "->"))
    exact hsingle.append ((hheader.contained round_mem_nesting _).append (hbody.contained back))

end Construct

/-! The path of the search. -/

namespace Binds

variable {depth : Nat} {m m₁ m' : Moment} {bound bound₁ : List Binding} {s : State}
  {before rest : List Token} {t : Token}

theorem length_le (h : Binds depth (Moment.behind s before t rest) bound m)
    : m.left.length ≤ rest.length :=
  (h.suffix.trans (List.drop_suffix _ rest)).length_le

theorem eq_nil (h : Binds depth m bound m') (hleft : m.left.length ≤ m'.left.length)
    : bound = [] := by
  cases h with
  | refl => rfl
  | step h =>
    have hle := h.length_le
    rw [List.length_cons] at hleft
    omega

theorem behind (h : Binds depth ⟨s, before, t :: rest⟩ bound m)
    (hle : m.left.length ≤ rest.length)
    : ∃ bound', Binds depth (Moment.behind s before t rest) bound' m
        ∧ bound = (if (s.at (rest.length + 1)).scopes.depth = depth then
            (declared? before t rest).toList.map fun v => (v.name, v.type) else []) ++ bound' := by
  cases h with
  | refl =>
    rw [List.length_cons] at hle
    omega
  | step h => exact ⟨_, h, rfl⟩

theorem split (h : Binds depth m bound m') (h₁ : Binds depth m bound₁ m₁)
    (hle : m'.left.length ≤ m₁.left.length)
    : ∃ bound₂, Binds depth m₁ bound₂ m' ∧ bound = bound₁ ++ bound₂ := by
  induction h₁ generalizing bound with
  | refl => exact ⟨bound, h, rfl⟩
  | step h₁ ih =>
    cases h with
    | refl =>
      have hlt := h₁.length_le
      rw [List.length_cons] at hle
      omega
    | step h =>
      obtain ⟨bound₂, h₂, rfl⟩ := ih h hle
      exact ⟨bound₂, h₂, (List.append_assoc _ _ _).symm⟩

end Binds

theorem leaveLambdas_of_ne {left : Nat} {stops : List Nat} (h : ∀ e ∈ stops.head?, e ≠ left)
    (scopes : Scopes) : leaveLambdas left scopes stops = (scopes, stops) := by
  cases stops with
  | nil => rfl
  | cons e stops => exact if_neg (h e rfl)

theorem State.at_of_ne {s : State} {left : Nat} (h : ∀ e ∈ s.lambdaEnds.head?, e ≠ left)
    : s.at left = s := by
  rw [State.at_eq, leaveLambdas_of_ne h]

theorem leaveLambdas_head (left : Nat) (scopes : Scopes) (stops : List Nat)
    : ∀ e ∈ (leaveLambdas left scopes stops).2.head?, e ≠ left := by
  induction stops generalizing scopes with
  | nil =>
    rintro e ⟨⟩
  | cons stop stops ih =>
    rw [leaveLambdas]
    split
    · exact ih scopes.pop
    · next hne =>
      rintro e ⟨⟩
      exact hne

theorem State.at_at (s : State) (left : Nat) : (s.at left).at left = s.at left :=
  at_of_ne (leaveLambdas_head left s.scopes s.lambdaEnds)

theorem Binds.at {depth : Nat} {s : State} {before left : List Token} {bound : List Binding}
    {m : Moment} (h : Binds depth ⟨s, before, left⟩ bound m) (hlt : m.left.length < left.length)
    : Binds depth ⟨s.at left.length, before, left⟩ bound m := by
  cases h with
  | refl => exact absurd hlt (Nat.lt_irrefl _)
  | @step _ _ t rest bound _ h =>
    have hbehind : Moment.behind (s.at (t :: rest).length) before t rest
        = Moment.behind s before t rest := by
      rw [Moment.behind, Moment.behind, List.length_cons, State.at_at]
    have hstep := Binds.step (s := s.at (t :: rest).length) (hbehind ▸ h)
    rw [List.length_cons, State.at_at] at hstep
    exact hstep

/-! Untyped parameters. -/

def isName (t : Token) : Bool :=
  isPlain t && !t.isWord "final"

inductive IsNames : List Token → Prop where
  | nil : IsNames []
  | single {t : Token} (ht : isName t = true) : IsNames [t]
  | cons {t comma : Token} {rest : List Token} (ht : isName t = true)
    (hcomma : comma.isPunct "," = true) (h : IsNames rest) : IsNames (t :: comma :: rest)

/--
The parameters of a lambda that gives no types: a name, or names in parentheses.
-/
def IsUntyped (parameters : List Token) : Prop :=
  (∃ t, parameters = [t] ∧ isName t = true)
    ∨ ∃ opening names closing, parameters = opening :: (names ++ [closing])
      ∧ opening.isPunct "(" = true ∧ IsNames names ∧ closing.isPunct ")" = true

theorem isIdent_of_isName {t : Token} (h : isName t = true) : t.isIdent = true := by
  rw [isName, Bool.and_eq_true] at h
  exact isIdent_of_isPlain h.1

theorem local?_name {t next : Token} (ht : isName t = true)
    (hnext : next.isPunctOf [",", ")", "->"] = true) (rest : List Token)
    : local? false (t :: next :: rest) = none := by
  rw [isName, Bool.and_eq_true, Bool.not_eq_true'] at ht
  have hother : ∀ mark ∉ [",", ")", "->"], next.isPunct mark = false := by
    intro mark hmark
    rw [Token.isPunctOf, Bool.and_eq_true, List.contains_iff_mem] at hnext
    rw [Token.isPunct, hnext.1, Bool.true_and, beq_eq_false_iff_ne]
    rintro rfl
    exact hmark hnext.2
  have hplain : isPlain next = false := by
    rw [Token.isPunctOf, Bool.and_eq_true, beq_iff_eq] at hnext
    rw [isPlain, Token.isIdent, hnext.1]
    rfl
  have hdots : splitDotted (next :: rest) = ([], next :: rest) := by
    cases rest with
    | nil => rfl
    | cons u rest =>
      rw [splitDotted, hother "." (by decide)]
      rfl
  have hdims : splitDims (next :: rest) = ([], next :: rest) := by
    cases rest with
    | nil => rfl
    | cons u rest =>
      rw [splitDims, hother "[" (by decide)]
      rfl
  have harguments : splitArguments? (next :: rest) = some ([], next :: rest) := by
    rw [splitArguments?, starts, hother "<" (by decide)]
    rfl
  -- Nothing that belongs to a type follows, so the token behind would have to be the variable.
  rw [Cursor.local?_eq, List.dropWhile_cons_of_neg (by rw [ht.2]; decide), splitType?,
    if_pos ht.1, hdots]
  dsimp only [Option.bind_eq_bind]
  rw [harguments]
  dsimp only [Option.bind_some]
  rw [hdims]
  dsimp only [Option.pure_def, Option.bind_some]
  rw [Cursor.localBehind, hplain]
  rfl

theorem declared?_of_local?_none {before : List Token} {t : Token} {rest : List Token}
    (hmark : t.isPunctOf ["\x7b", "\x7d", "->"] = false) (hword : t.isWord "instanceof" = false)
    (hlocal : local? false (t :: rest) = none) : declared? before t rest = none := by
  have hbrace : t.isBrace = false := by
    rw [Bool.eq_false_iff]
    intro hbrace
    rw [Token.isPunctOf_mono hbrace (by simp)] at hmark
    cases hmark
  have harrow : t.isPunct "->" = false := by
    rw [Bool.eq_false_iff]
    intro harrow
    rw [Token.isPunctOf_of_isPunct harrow] at hmark
    cases hmark
  rw [declared?, hbrace, harrow, hword, hlocal, ite_self]
  rfl

theorem Binds.pass {depth : Nat} {s : State} {before rest : List Token} {t : Token}
    {bound : List Binding} {m : Moment} (h : Binds depth ⟨s, before, t :: rest⟩ bound m)
    (hle : m.left.length ≤ rest.length) (hends : ∀ e ∈ s.lambdaEnds.head?, e ≠ rest.length + 1)
    (hmark : t.isPunctOf ["\x7b", "\x7d", "->"] = false) (hword : t.isWord "instanceof" = false)
    (hlocal : local? false (t :: rest) = none) : Binds depth ⟨s, t :: before, rest⟩ bound m := by
  obtain ⟨bound', hbehind, rfl⟩ := h.behind hle
  rw [declared?_of_local?_none hmark hword hlocal, Option.toList_none, List.map_nil, ite_self,
    List.nil_append]
  rw [Moment.behind, State.at_of_ne hends, step_of_local?_none hmark hword hlocal] at hbehind
  exact hbehind

/-! Parameters without types. -/

section

variable {depth : Nat} {s : State} {before rest : List Token} {t : Token} {bound : List Binding}
  {m : Moment}

theorem Binds.pass_mark {mark : String} (h : Binds depth ⟨s, before, t :: rest⟩ bound m)
    (hle : m.left.length ≤ rest.length) (hends : ∀ e ∈ s.lambdaEnds.head?, e ≠ rest.length + 1)
    (ht : t.isPunct mark = true) (hmark : mark ∉ ["\x7b", "\x7d", "->"])
    : Binds depth ⟨s, t :: before, rest⟩ bound m := by
  refine h.pass hle hends ?_ (Token.isWord_of_isPunct ht _) (local?_of_isPunct ht rest)
  rw [Token.isPunctOf_of_isPunct ht, Bool.eq_false_iff, ne_eq, List.contains_iff_mem]
  exact hmark

theorem Binds.pass_name {next : Token} (h : Binds depth ⟨s, before, t :: next :: rest⟩ bound m)
    (hle : m.left.length ≤ (next :: rest).length)
    (hends : ∀ e ∈ s.lambdaEnds.head?, e ≠ (next :: rest).length + 1) (ht : isName t = true)
    (hnext : next.isPunctOf [",", ")", "->"] = true)
    : Binds depth ⟨s, t :: before, next :: rest⟩ bound m := by
  have hident := isIdent_of_isName ht
  refine h.pass hle hends (Token.isPunctOf_of_isIdent hident _) ?_ (local?_name ht hnext rest)
  rw [isName, Bool.and_eq_true] at ht
  exact isWord_of_isPlain ht.1 (by decide)

theorem Binds.pass_names {names : List Token} (hnames : IsNames names) {next : Token}
    (h : Binds depth ⟨s, before, names ++ next :: rest⟩ bound m)
    (hnext : next.isPunctOf [",", ")", "->"] = true) (hle : m.left.length ≤ (next :: rest).length)
    (hends : ∀ e ∈ s.lambdaEnds.head?,
      e ≤ (next :: rest).length ∨ (names ++ next :: rest).length < e)
    : Binds depth ⟨s, names.reverse ++ before, next :: rest⟩ bound m := by
  induction hnames generalizing before with
  | nil => exact h
  | single ht =>
    refine h.pass_name hle (fun e he => ?_) ht hnext
    have hside : e ≤ (next :: rest).length ∨ (next :: rest).length + 1 < e := hends e he
    omega
  | @cons t comma names ht hcomma _ ih =>
    have hlength : (names ++ next :: rest).length = names.length + (next :: rest).length :=
      List.length_append
    have hends' : ∀ e ∈ s.lambdaEnds.head?,
        e ≤ (next :: rest).length ∨ (names ++ next :: rest).length + 2 < e := hends
    have hfirst : Binds depth ⟨s, before, t :: comma :: (names ++ next :: rest)⟩ bound m := h
    have hname := hfirst.pass_name (by rw [List.length_cons]; omega)
      (fun e he => by have hside := hends' e he; rw [List.length_cons]; omega) ht
      (by rw [Token.isPunctOf_of_isPunct hcomma]; rfl)
    have hcomma := hname.pass_mark (by omega)
      (fun e he => by have hside := hends' e he; omega) hcomma (by decide)
    have hnames := ih hcomma (fun e he => by have hside := hends' e he; omega)
    rw [List.reverse_cons, List.reverse_cons, List.append_assoc, List.append_assoc]
    exact hnames

theorem Binds.pass_untyped {parameters : List Token} (hparameters : IsUntyped parameters)
    {arrow : Token} (h : Binds depth ⟨s, before, parameters ++ arrow :: rest⟩ bound m)
    (harrow : arrow.isPunct "->" = true) (hle : m.left.length ≤ (arrow :: rest).length)
    (hends : ∀ e ∈ s.lambdaEnds.head?,
      e ≤ (arrow :: rest).length ∨ (parameters ++ arrow :: rest).length < e)
    : Binds depth ⟨s, parameters.reverse ++ before, arrow :: rest⟩ bound m := by
  have hnext : arrow.isPunctOf [",", ")", "->"] = true := by
    rw [Token.isPunctOf_of_isPunct harrow]
    rfl
  rcases hparameters with ⟨t, rfl, ht⟩ | ⟨opening, names, closing, rfl, hopening, hnames, hclosing⟩
  · exact h.pass_names (.single ht) hnext hle hends
  · have hlist : opening :: (names ++ [closing]) ++ arrow :: rest
        = opening :: (names ++ closing :: arrow :: rest) := by
      rw [List.cons_append, List.append_assoc, List.singleton_append]
    have hlength : (names ++ closing :: arrow :: rest).length
        = names.length + ((arrow :: rest).length + 1) := List.length_append
    rw [hlist] at h hends
    have hends' : ∀ e ∈ s.lambdaEnds.head?, e ≤ (arrow :: rest).length
        ∨ (names ++ closing :: arrow :: rest).length + 1 < e := hends
    have hinside := h.pass_mark (by omega)
      (fun e he => by have hside := hends' e he; omega) hopening (by decide)
    have hnames := hinside.pass_names hnames (by rw [Token.isPunctOf_of_isPunct hclosing]; rfl)
      (by rw [List.length_cons]; omega)
      (fun e he => by have hside := hends' e he; rw [List.length_cons]; omega)
    have hbehind := hnames.pass_mark hle
      (fun e he => by have hside := hends' e he; omega) hclosing (by decide)
    rw [List.reverse_cons, List.reverse_append, List.append_assoc, List.append_assoc]
    exact hbehind

end

/-! Lambdas without types. -/

theorem step_arrow {t : Token} (ht : t.isPunct "->" = true) {before : List Token}
    (hbefore : before ≠ []) (s : State) (rest : List Token)
    : step s before t rest
        =
      let scopes := s.scopes.push.declareAll (lambdaParameters before)
      if starts (·.isPunct "\x7b") rest then ({ s with scopes := scopes }, 1)
      else
        ({ s with
            scopes := scopes
            lambdaEnds := (splitExpression 0 rest).2.length :: s.lambdaEnds },
          0) := by
  rw [step, Token.isPunct_of_isPunct ht, Token.isPunct_of_isPunct ht, ht,
    List.isEmpty_eq_false_iff.2 hbefore]
  rfl

theorem Binds.arrow {s : State} {before rest : List Token} {t : Token} {bound : List Binding}
    {m : Moment} (h : Binds s.scopes.depth ⟨s, before, t :: rest⟩ bound m)
    (hle : m.left.length ≤ rest.length) (hends : ∀ e ∈ s.lambdaEnds.head?, e ≠ rest.length + 1)
    (ht : t.isPunct "->" = true) (hbefore : before ≠ [])
    : ∃ s', s.scopes.depth < s'.scopes.depth
        ∧ if starts (·.isPunct "\x7b") rest then
            s'.lambdaEnds = s.lambdaEnds
              ∧ Binds s.scopes.depth ⟨s', (rest.take 1).reverse ++ t :: before, rest.drop 1⟩ bound m
          else
            s'.lambdaEnds = (splitExpression 0 rest).2.length :: s.lambdaEnds
              ∧ Binds s.scopes.depth ⟨s', t :: before, rest⟩ bound m := by
  obtain ⟨bound', hbehind, rfl⟩ := h.behind hle
  have hdepth : s.scopes.depth < (s.scopes.push.declareAll (lambdaParameters before)).depth := by
    rw [Scopes.depth_declareAll, Scopes.depth_push]
    exact Nat.lt_succ_self _
  rw [Moment.behind, State.at_of_ne hends, step_arrow ht hbefore] at hbehind
  rw [declared?_of_arrow ht hbefore, Option.toList_none, List.map_nil, ite_self, List.nil_append]
  cases hstart : starts (·.isPunct "\x7b") rest with
  | true =>
    rw [hstart] at hbehind
    exact ⟨{ s with scopes := s.scopes.push.declareAll (lambdaParameters before) }, hdepth, rfl,
      hbehind⟩
  | false =>
    rw [hstart] at hbehind
    exact ⟨{ s with
        scopes := s.scopes.push.declareAll (lambdaParameters before)
        lambdaEnds := (splitExpression 0 rest).2.length :: s.lambdaEnds }, hdepth, rfl, hbehind⟩

theorem Binds.pass_arrow {s : State} {parameters before body back : List Token} {arrow : Token}
    {bound : List Binding} {m : Moment}
    (h : Binds s.scopes.depth ⟨s, before, parameters ++ arrow :: body ++ back⟩ bound m)
    (hparameters : IsUntyped parameters) (harrow : arrow.isPunct "->" = true)
    (hleft : m.left = back)
    (hends : ∀ e ∈ s.lambdaEnds.head?,
      e ≤ back.length ∨ (parameters ++ arrow :: body ++ back).length < e)
    : ∃ s', s.scopes.depth < s'.scopes.depth
        ∧ if starts (·.isPunct "\x7b") (body ++ back) then
            s'.lambdaEnds = s.lambdaEnds ∧ Binds s.scopes.depth
              ⟨s', ((body ++ back).take 1).reverse ++ arrow :: (parameters.reverse ++ before),
                (body ++ back).drop 1⟩ bound m
          else
            s'.lambdaEnds = (splitExpression 0 (body ++ back)).2.length :: s.lambdaEnds
              ∧ Binds s.scopes.depth
                ⟨s', arrow :: (parameters.reverse ++ before), body ++ back⟩ bound m := by
  have hne : parameters.reverse ++ before ≠ [] := by
    rcases hparameters with ⟨t, rfl, -⟩ | ⟨opening, names, closing, rfl, -⟩
    · simp
    · simp
  rw [List.append_assoc, List.cons_append] at h hends
  have hlength : (parameters ++ arrow :: (body ++ back)).length
      = parameters.length + (body.length + back.length + 1) := by
    rw [List.length_append, List.length_cons, List.length_append]
  have hside : ∀ e ∈ s.lambdaEnds.head?, e ≤ (body ++ back).length
      ∨ (parameters ++ arrow :: (body ++ back)).length < e := by
    intro e he
    have hside := hends e he
    rw [List.length_append]
    omega
  have hle : m.left.length ≤ (body ++ back).length := by
    rw [hleft, List.length_append]
    exact Nat.le_add_left _ _
  have hpast := h.pass_untyped hparameters harrow
    (by rw [List.length_cons]; omega)
    (fun e he => by have hside := hside e he; rw [List.length_cons]; omega)
  refine hpast.arrow hle (fun e he => ?_) harrow hne
  have hside := hside e he
  rw [List.length_append] at hside ⊢
  omega

theorem Binds.eq_nil_of_block (env : Surroundings) {depth : Nat} {s : State}
    {before inner back : List Token} {closing : Token} {bound : List Binding} {m : Moment}
    (h : Binds depth ⟨s, before, inner ++ closing :: back⟩ bound m) (hdepth : depth < s.scopes.depth)
    (hinner : Nested inner) (hclosing : closing.isPunct "\x7d" = true) (hleft : m.left = back)
    (hends : ∀ e ∈ s.lambdaEnds.head?,
      e ≤ back.length ∨ (inner ++ closing :: back).length < e)
    : bound = [] := by
  have htype : isTypePart closing = false := isTypePart_eq_false hclosing (by decide)
  have hbrace : closing.isPunct "\x7b" = false := by
    rw [Token.isPunct_of_isPunct hclosing]
    rfl
  obtain ⟨found, s', hsearch⟩ := exists_searches env htype hbrace inner back s before
  obtain ⟨bound₁, hinside⟩ := hsearch.exists_binds depth
  obtain ⟨bound₂, hlast, rfl⟩ := h.split hinside (by rw [hleft]; exact Nat.le_succ _)
  have hregion : Region s inner (closing :: back) :=
    { whole := .of_nested hinner
      contained := .of_nested hinner (.inr (endsExpression_of_isClosing
        (Token.isClosing_of_isPunct curly_mem_nesting hclosing)))
      outer := by
        intro e he
        have hside := hends e he
        simp only [List.length_append, List.length_cons] at hside ⊢
        omega }
  obtain ⟨bound₃, hbehind, rfl⟩ := hlast.behind (congrArg List.length hleft).le
  rw [(Within.refl s inner (closing :: back)).binds_outside hregion hdepth hinside rfl
    (Nat.le_refl _), declared?_of_isBrace (Token.isBrace_of_isPunct hclosing), Option.toList_none,
    List.map_nil, ite_self, hbehind.eq_nil]
  · rfl
  · rw [hleft, Moment.behind, List.length_drop]
    exact Nat.sub_le _ _

theorem Lambda.bound_eq_nil (env : Surroundings) {parameters back tokens : List Token}
    (h : Lambda parameters back tokens) (hparameters : IsUntyped parameters) {s : State}
    {before : List Token} {bound : List Binding} {m : Moment}
    (hbinds : Binds s.scopes.depth ⟨s, before, tokens ++ back⟩ bound m) (hleft : m.left = back)
    (hends : ∀ e ∈ s.lambdaEnds.head?, e ≤ back.length ∨ (tokens ++ back).length < e)
    : bound = [] := by
  cases h with
  | @block arrow body harrow hbody =>
    obtain ⟨opening, inner, closing, rfl, hopening, hinner, hclosing⟩ := hbody
    obtain ⟨s', hdepth, hinside⟩ := hbinds.pass_arrow hparameters harrow hleft hends
    have hstart : starts (·.isPunct "\x7b") (opening :: (inner ++ [closing]) ++ back) = true :=
      hopening
    have hdrop : (opening :: (inner ++ [closing]) ++ back).drop 1 = inner ++ closing :: back := by
      rw [List.cons_append, List.drop_one, List.tail_cons, List.append_assoc,
        List.singleton_append]
    rw [if_pos hstart, hdrop] at hinside
    obtain ⟨hlambdas, hpath⟩ := hinside
    refine hpath.eq_nil_of_block env hdepth hinner hclosing hleft ?_
    intro e he
    rw [hlambdas] at he
    have hside := hends e he
    simp only [List.length_append, List.length_cons, List.length_nil] at hside ⊢
    omega
  | @expression arrow body harrow hbody henclosed hstart hback =>
    obtain ⟨s', hdepth, hinside⟩ := hbinds.pass_arrow hparameters harrow hleft hends
    have hstart' : starts (·.isPunct "\x7b") (body ++ back) = false := by
      cases body with
      | nil => cases hstart
      | cons u body =>
        rw [starts, Bool.not_eq_true'] at hstart
        exact hstart
    have hend : (splitExpression 0 (body ++ back)).2.length = back.length := by
      rw [← length_splitExpression_of_endsAll hback]
      exact congrArg List.length (splitExpression_over hbody henclosed [] back)
    rw [hstart', if_neg Bool.false_ne_true, hend] at hinside
    obtain ⟨hlambdas, hpath⟩ := hinside
    have hregion : Region s' body back :=
      { whole := .of_nested hbody
        contained := .of_nested hbody hback
        outer := by
          intro e he
          rw [hlambdas] at he
          cases he
          exact .inl (Nat.le_refl _) }
    exact (Within.refl s' body back).binds_outside hregion hdepth hpath rfl
      (congrArg List.length hleft).ge

/-! Behind a construct. -/

theorem leaveLambdas_length_lt {left : Nat} {scopes : Scopes} {stops : List Nat}
    (h : stops.length < scopes.depth)
    : (leaveLambdas left scopes stops).2.length < (leaveLambdas left scopes stops).1.depth := by
  induction stops generalizing scopes with
  | nil => exact h
  | cons stop stops ih =>
    rw [leaveLambdas]
    split
    · refine ih ?_
      rw [List.length_cons] at h
      rw [Scopes.depth_pop]
      omega
    · exact h

theorem region_body {body : Body} (h : Nested body.tokens)
    : Region (Moment.start body).state body.tokens [] where
  whole := .of_nested h
  contained := .of_nested h (.inl rfl)
  outer := by
    rintro e ⟨⟩

theorem Searches.exists_within {env : Surroundings} {body : Body} {found : List Access}
    {m : Moment} (h : Searches env (Moment.start body) found m) (hnested : Nested body.tokens)
    : body.tokens = m.before.reverse ++ m.left
        ∧ ∃ bound frames lambdas, Within (Moment.start body).state body.tokens [] m.before.reverse
            bound frames lambdas m.state := by
  obtain ⟨bound, hbinds⟩ := h.exists_binds (Moment.start body).state.scopes.depth
  have hstart : Moment.start body
      = ⟨(Moment.start body).state, [], body.tokens ++ []⟩ := by
    rw [List.append_nil]
    rfl
  rw [hstart] at hbinds
  obtain ⟨taken, y, frames, lambdas, htokens, hleft, hbefore, hwithin⟩ :=
    (Within.refl _ _ []).binds (region_body hnested) hbinds rfl (Nat.zero_le _)
  rw [List.append_nil] at hleft hbefore
  rw [hbefore, List.reverse_reverse, hleft]
  exact ⟨htokens, _, frames, lambdas, hwithin⟩

theorem Searches.lambdaEnds_length_lt {env : Surroundings} {body : Body} {found : List Access}
    {m : Moment} (h : Searches env (Moment.start body) found m) (hnested : Nested body.tokens)
    : m.state.lambdaEnds.length < m.state.scopes.depth := by
  obtain ⟨-, bound, frames, lambdas, hwithin⟩ := h.exists_within hnested
  obtain ⟨opened, -, hlength⟩ := hwithin.frames
  rw [hwithin.depth_eq, hwithin.lambdaEnds, List.length_append]
  have hpositive : 0 < (Moment.start body).state.scopes.depth := Nat.succ_pos _
  have hnone : (Moment.start body).state.lambdaEnds.length = 0 := rfl
  omega

theorem leaveLambdas_all {left : Nat} {frames : List Scopes.Frame} {lambdas : List Nat}
    (hlambdas : ∀ e ∈ lambdas, e = left) (hlength : frames.length = lambdas.length) (s : Scopes)
    (base : List Nat)
    : leaveLambdas left (s.stack frames) (lambdas ++ base) = leaveLambdas left s base := by
  induction lambdas generalizing frames with
  | nil =>
    rw [List.length_nil, List.length_eq_zero_iff] at hlength
    rw [hlength]
    rfl
  | cons e lambdas ih =>
    rw [List.forall_mem_cons] at hlambdas
    cases frames with
    | nil => cases hlength
    | cons frame frames =>
      rw [List.cons_append, leaveLambdas, if_pos hlambdas.1, Scopes.pop_stack]
      exact ih hlambdas.2 (Nat.succ.inj hlength)

theorem pop_declareAll (s : Scopes) (h : 1 < s.depth) (bindings : List Binding)
    : (s.declareAll bindings).pop = s.pop := by
  induction bindings generalizing s with
  | nil => rfl
  | cons binding bindings ih =>
    have hpop : (s.declare binding.1 binding.2).pop = s.pop := by
      obtain ⟨innermost, outer⟩ := s
      cases outer with
      | nil => cases h with | step h => cases h
      | cons frame outer => rfl
    change ((s.declare binding.1 binding.2).declareAll bindings).pop = _
    rw [ih (s.declare binding.1 binding.2) h, hpop]

/--
The search of a body comes to these tokens, which stand before the tokens `back`, and goes to their
end. On the way it binds these names where as many blocks are open as before the tokens.
-/
structure Passage (env : Surroundings) (body : Body) (tokens back : List Token) (m : Moment)
    (bound : List Binding) (m' : Moment) : Prop where
  comes : ∃ found, Searches env (Moment.start body) found m
  first : m.left = tokens ++ back
  binds : Binds (m.state.at m.left.length).scopes.depth m bound m'
  last : m'.left = back

namespace Passage

variable {env : Surroundings} {body : Body} {tokens back : List Token} {m m' : Moment}
  {bound : List Binding}

theorem around (h : Passage env body tokens back m bound m') (hnested : Nested tokens)
    (henclosed : Enclosed tokens)
    : ∀ e ∈ (m.state.at m.left.length).lambdaEnds, e ≤ back.length ∨ m.left.length < e := by
  obtain ⟨found, hsearch⟩ := h.comes
  intro e he
  have hends := hsearch.ending (Moment.ending_start body) e (at_lambdaEnds_subset _ _ he)
  rw [h.first] at hends ⊢
  exact hends.enclosed hnested henclosed

theorem scopes_eq (h : Passage env body tokens back m bound m') (hne : tokens ≠ [])
    (hregion : Region (m.state.at m.left.length) tokens back)
    (hinside : ∀ e ∈ m'.state.lambdaEnds, e ≤ back.length ∨ m.left.length ≤ e)
    : (m'.state.at back.length).scopes
        =
      (leaveLambdas back.length ((m.state.at m.left.length).scopes.declareAll bound)
        (m.state.at m.left.length).lambdaEnds).1 := by
  obtain ⟨s, before, left⟩ := m
  have hfirst : left = tokens ++ back := h.first
  subst hfirst
  have hlt : m'.left.length < (tokens ++ back).length := by
    rw [h.last, List.length_append]
    exact Nat.lt_add_of_pos_left (List.length_pos_of_ne_nil hne)
  obtain ⟨taken, y, frames, lambdas, htokens, hleft, -, hwithin⟩ :=
    (Within.refl _ tokens back).binds hregion (h.binds.at hlt) rfl (congrArg List.length h.last).ge
  rw [h.last] at hleft
  obtain rfl : y = [] := List.append_left_eq_self.1 hleft.symm
  rw [List.append_nil] at htokens
  rw [← htokens, List.nil_append, List.nil_append] at hwithin
  obtain ⟨opened, hopened, hlength⟩ := hwithin.frames
  rw [hregion.whole, Option.some.injEq] at hopened
  subst hopened
  rw [List.length_nil, Nat.zero_add] at hlength
  have hlambdas : ∀ e ∈ lambdas, e = back.length := by
    intro e he
    have hside := hinside e (by rw [hwithin.lambdaEnds]; exact List.mem_append_left _ he)
    have hends := hwithin.ends e he
    dsimp only at hside
    omega
  rw [State.at_eq, hwithin.scopes, hwithin.lambdaEnds, leaveLambdas_all hlambdas hlength]

end Passage

theorem lookup?_declareAll_eq_iff (s : Scopes) (bound : List Binding)
    : (∀ name, (s.declareAll bound).lookup? name = s.lookup? name)
        ↔
      ∀ name type, bound.reverse.lookup name = some type → s.lookup? name = some type := by
  refine forall_congr' fun name => ?_
  rw [Scopes.lookup?_declareAll]
  cases bound.reverse.lookup name with
  | none => simp
  | some type => simp [eq_comm]

/--
Behind a construct a name stands for what it stood for before it, exactly if it was not bound right
in the construct, so outside of its blocks and lambdas, or was bound as before. Nothing is bound
right in a lambda whose parameters have no types.
-/
theorem Construct.restored_iff {env : Surroundings} {body : Body} {tokens back : List Token}
    {m m' : Moment} {bound : List Binding} (h : Construct back tokens)
    (hpassage : Passage env body tokens back m bound m') (hnested : Nested body.tokens)
    (haround : Enclosed tokens ∨ ∀ e ∈ (m.state.at m.left.length).lambdaEnds,
      e ≤ back.length ∨ m.left.length < e)
    (hinside : ∀ e ∈ m'.state.lambdaEnds, e ≤ back.length ∨ m.left.length ≤ e)
    : ((∀ name, (m'.state.at back.length).scopes.lookup? name
            = ((m.state.at m.left.length).at back.length).scopes.lookup? name)
          ↔ (m.state.at m.left.length).lambdaEnds.head? = some back.length
            ∨ ∀ name type, bound.reverse.lookup name = some type
              → (m.state.at m.left.length).scopes.lookup? name = some type)
        ∧ ∀ parameters, IsUntyped parameters → Lambda parameters back tokens → bound = [] := by
  have haround' : ∀ e ∈ (m.state.at m.left.length).lambdaEnds,
      e ≤ back.length ∨ m.left.length < e := by
    rcases haround with henclosed | haround
    · exact hpassage.around h.nested henclosed
    · exact haround
  have hregion : Region (m.state.at m.left.length) tokens back :=
    { whole := .of_nested h.nested
      contained := h.contained
      outer := by
        intro e he
        rw [← hpassage.first]
        exact haround' e (List.mem_of_mem_head? he) }
  have hscopes := hpassage.scopes_eq h.ne_nil hregion hinside
  obtain ⟨found, hsearch⟩ := hpassage.comes
  have hdepth : (m.state.at m.left.length).lambdaEnds.length
      < (m.state.at m.left.length).scopes.depth :=
    leaveLambdas_length_lt (hsearch.lambdaEnds_length_lt hnested)
  constructor
  · generalize m.state.at m.left.length = s₀ at hscopes hdepth ⊢
    rw [hscopes, State.at_eq]
    by_cases hhead : s₀.lambdaEnds.head? = some back.length
    · -- The lambda around the construct takes with it what was bound in its block.
      obtain ⟨stops, hstops⟩ := List.head?_eq_some_iff.1 hhead
      rw [hstops, List.length_cons] at hdepth
      rw [hstops, leaveLambdas, if_pos rfl, leaveLambdas, if_pos rfl,
        pop_declareAll _ (by omega)]
      exact ⟨fun _ => .inl rfl, fun _ _ => rfl⟩
    · have hne : ∀ e ∈ s₀.lambdaEnds.head?, e ≠ back.length := by
        rintro e he rfl
        exact hhead he
      rw [leaveLambdas_of_ne hne, leaveLambdas_of_ne hne, or_iff_right hhead]
      exact lookup?_declareAll_eq_iff s₀.scopes bound
  · intro parameters hparameters hlambda
    obtain ⟨s, before, left⟩ := m
    have hfirst : left = tokens ++ back := hpassage.first
    subst hfirst
    have hlt : m'.left.length < (tokens ++ back).length := by
      rw [hpassage.last, List.length_append]
      exact Nat.lt_add_of_pos_left (List.length_pos_of_ne_nil h.ne_nil)
    exact hlambda.bound_eq_nil env hparameters (hpassage.binds.at hlt) hpassage.last
      fun e he => haround' e (List.mem_of_mem_head? he)

/-! Runs of the search. -/

def Moment.follow (depth : Nat) : Nat → Moment → List Binding × Moment
  | 0, m => ([], m)
  | _ + 1, ⟨s, before, []⟩ => ([], ⟨s, before, []⟩)
  | n + 1, ⟨s, before, t :: rest⟩ =>
    let found :=
      if (s.at (rest.length + 1)).scopes.depth = depth then
        (declared? before t rest).toList.map fun v => (v.name, v.type)
      else
        []
    let (bound, m) := follow depth n (behind s before t rest)
    (found ++ bound, m)

theorem Binds.follow (depth n : Nat) (m : Moment)
    : Binds depth m (m.follow depth n).1 (m.follow depth n).2 := by
  induction n generalizing m with
  | zero => exact .refl m
  | succ n ih =>
    obtain ⟨s, before, left⟩ := m
    cases left with
    | nil => exact .refl _
    | cons t rest => exact .step (ih _)

def callLambda : List Token :=
  [.onFirstLine .ident "t" 0, .onFirstLine .punct "->" 2, .onFirstLine .ident "t" 5,
    .onFirstLine .punct "." 6, .onFirstLine .ident "a" 7, .onFirstLine .punct "(" 8,
    .onFirstLine .punct ")" 9]

theorem restored_iff_callLambda
    : ∃ bound m', Construct [] callLambda
        ∧ Passage ⟨{}, [], 0⟩ ⟨0, [], callLambda⟩ callLambda [] (.start ⟨0, [], callLambda⟩) bound m'
        ∧ Nested callLambda ∧ Enclosed callLambda
        ∧ (∀ e ∈ m'.state.lambdaEnds, e ≤ 0 ∨ callLambda.length ≤ e)
        ∧ m'.state.scopes.lookup? "t" = some none
        ∧ ∀ name, (m'.state.at 0).scopes.lookup? name
          = (((Moment.start ⟨0, [], callLambda⟩).state.at 7).at 0).scopes.lookup? name := by
  have hparameters : IsUntyped [.onFirstLine .ident "t" 0] := .inl ⟨_, rfl, by decide⟩
  have hlambda : Lambda [.onFirstLine .ident "t" 0] [] callLambda :=
    .expression (by decide) (by decide) (enclosed_of_splitExpression (by decide) rfl) (by decide)
      (.inl rfl)
  have hconstruct : Construct [] callLambda := .lambda (.inl ⟨_, rfl, by decide⟩) hlambda
  have henclosed : Enclosed callLambda := hlambda.enclosed (.inl ⟨_, rfl, by decide⟩)
  have hpassage : Passage ⟨{}, [], 0⟩ ⟨0, [], callLambda⟩ callLambda []
      (.start ⟨0, [], callLambda⟩) _ ((Moment.start ⟨0, [], callLambda⟩).follow 1 7).2 :=
    { comes := ⟨[], .refl _⟩
      first := rfl
      binds := .follow 1 7 _
      last := by decide +kernel }
  have hinside : ∀ e ∈ ((Moment.start ⟨0, [], callLambda⟩).follow 1 7).2.state.lambdaEnds,
      e ≤ 0 ∨ callLambda.length ≤ e := by
    decide +kernel
  obtain ⟨hiff, hnone⟩ := hconstruct.restored_iff hpassage (by decide) (.inl henclosed) hinside
  refine ⟨_, _, hconstruct, hpassage, by decide, henclosed, hinside, by decide +kernel,
    hiff.2 (.inr fun name type htype => ?_)⟩
  rw [hnone _ hparameters hlambda] at htype
  cases htype

def tabLoop : List Token :=
  [.onFirstLine .ident "for" 28, .onFirstLine .punct "(" 32, .onFirstLine .ident "Tab" 33,
    .onFirstLine .ident "t" 37, .onFirstLine .punct ":" 39, .onFirstLine .ident "ts" 41,
    .onFirstLine .punct ")" 43, .onFirstLine .punct "\x7b" 45, .onFirstLine .punct "\x7d" 47]

def closeCall : List Token :=
  [.onFirstLine .ident "t" 49, .onFirstLine .punct "." 50, .onFirstLine .ident "close" 51,
    .onFirstLine .punct "(" 56, .onFirstLine .punct ")" 57, .onFirstLine .punct ";" 58]

/--
The variable of a loop is still bound behind the loop, where the name stands for a field again.
-/
theorem tabLoop_stays_bound
    : ∃ tokens bound m',
        tokenize "class A { Old t; void m() { for (Tab t : ts) { } t.close(); } }" = .ok tokens
        ∧ (outline tokens).bodies = [⟨0, [], tabLoop ++ closeCall⟩]
        ∧ Nested (tabLoop ++ closeCall) ∧ Construct closeCall tabLoop
        ∧ Passage ⟨(outline tokens).typeNames, (outline tokens).declarations.types, 0⟩
            ⟨0, [], tabLoop ++ closeCall⟩ tabLoop closeCall
            (.start ⟨0, [], tabLoop ++ closeCall⟩) bound m'
        ∧ ((Moment.start ⟨0, [], tabLoop ++ closeCall⟩).state.at 15).scopes.lookup? "t" = none
        ∧ (m'.state.at closeCall.length).scopes.lookup? "t" = some (some ⟨"Tab", 0⟩)
        ∧ ((outline tokens).bodies.flatMap (Access.ofBody (outline tokens).typeNames
            (outline tokens).declarations.types)).map (·.receiverType)
          = [some (.simple "Tab" ["", "java.lang"])] := by
  have hcheck : (tokenize "class A { Old t; void m() { for (Tab t : ts) { } t.close(); } }"
      |>.toOption.any fun tokens =>
        decide ((outline tokens).bodies.map (fun body => (body.owner, body.parameters, body.tokens))
            = [(0, [], tabLoop ++ closeCall)]
          ∧ ((outline tokens).bodies.flatMap (Access.ofBody (outline tokens).typeNames
              (outline tokens).declarations.types)).map (·.receiverType)
            = [some (.simple "Tab" ["", "java.lang"])])) = true := by
    decide +kernel
  obtain ⟨tokens, htokens, hcheck⟩ := exists_tokenize_ok hcheck
  rw [decide_eq_true_eq] at hcheck
  obtain ⟨hbodies, huses⟩ := hcheck
  obtain ⟨⟨owner, parameters, own⟩, hsingle, hbody⟩ := List.map_eq_singleton_iff.1 hbodies
  rw [Prod.mk.injEq, Prod.mk.injEq] at hbody
  obtain ⟨rfl, rfl, rfl⟩ := hbody
  have hheader : Bracket.round.IsGroup (tabLoop.drop 1 |>.take 6) :=
    ⟨.onFirstLine .punct "(" 32, (tabLoop.drop 2).take 4, .onFirstLine .punct ")" 43, rfl,
      by decide, by decide, by decide⟩
  have hblock : Bracket.curly.IsGroup (tabLoop.drop 7) :=
    ⟨.onFirstLine .punct "\x7b" 45, [], .onFirstLine .punct "\x7d" 47, rfl, by decide, rfl,
      by decide⟩
  have hconstruct : Construct closeCall tabLoop :=
    .statement (by decide) hheader (.block .nil .nil hblock)
  refine ⟨tokens, _, ((Moment.start ⟨0, [], tabLoop ++ closeCall⟩).follow 1 8).2, htokens, hsingle,
    by decide, hconstruct, ⟨⟨[], .refl _⟩, rfl, .follow 1 8 _, by decide +kernel⟩,
    by decide +kernel, by decide +kernel, huses⟩

end Access

end DeprecatedUse.Java
