import DeprecatedUse.Java.SourceUnit
import DeprecatedUse.Proofs.Java.Comparisons.Doubles
import DeprecatedUse.Proofs.Java.Lexemes

/-!
This module contains the search of parenthesised conditions of the form `(a < b && c > d)`, in which
each side is a name or a chain of names. Up to its closing parenthesis such a condition may be read
as a type, its type arguments and a name. It is told from a declaration exactly if the last chain
has a dot or the first one starts with the word `final`.
-/

namespace DeprecatedUse.Java.Access

/--
A condition `(a < b && c > d)` over chains of names.
-/
structure Comparison where
  opening : Token
  first : Dotted
  less : Token
  second : Dotted
  and₁ : Token
  and₂ : Token
  third : Dotted
  greater : Token
  fourth : Dotted
  closing : Token
  opening_eq : opening.isPunct "(" = true
  less_eq : less.isPunct "<" = true
  and₁_eq : and₁.isPunct "&" = true
  and₂_eq : and₂.isPunct "&" = true
  greater_eq : greater.isPunct ">" = true
  closing_eq : closing.isPunct ")" = true

namespace Comparison

def arguments (c : Comparison) : List Token :=
  c.second.tokens ++ c.and₁ :: c.and₂ :: c.third.tokens

def inside (c : Comparison) : List Token :=
  c.first.tokens ++ c.less :: (c.arguments ++ c.greater :: c.fourth.tokens)

def tokens (c : Comparison) : List Token :=
  c.opening :: (c.inside ++ [c.closing])

def uses (env : Surroundings) (s : State) (c : Comparison) : List Access :=
  c.first.uses env s ++ c.second.uses env s ++ c.third.uses env s ++ c.fourth.uses env s

/--
The condition is read as a declaration: of the last name, which has no dot, with a type that starts
with the first name.
-/
def IsTaken (c : Comparison) : Prop :=
  c.fourth.dots = 0 ∧ c.first.first.isWord "final" = false

instance (c : Comparison) : Decidable c.IsTaken :=
  inferInstanceAs (Decidable (_ ∧ _))

def phantom (c : Comparison) : Local :=
  let written := TypeName.read? (c.first.tokens ++ c.less :: (c.arguments ++ [c.greater]))
  ⟨c.fourth.first.text, if written.any (·.name == "var") then none else written, c.inside.length⟩

theorem arguments_inner (c : Comparison)
    : ∀ t ∈ c.arguments,
        t.isIdent = true ∨ t.isPunctOf [".", ",", "?", "&", "[", "]", "@"] = true := by
  have hmark : ∀ {t : Token} {mark : String}, t.isPunct mark = true
      → mark ∈ [".", "&"] → t.isPunctOf [".", ",", "?", "&", "[", "]", "@"] = true := by
    intro t mark ht hmem
    rw [Token.isPunctOf_of_isPunct ht, List.contains_iff_mem]
    exact (by decide : [".", "&"] ⊆ [".", ",", "?", "&", "[", "]", "@"]) hmem
  have hchain : ∀ chain : Dotted, ∀ t ∈ chain.tokens,
      t.isIdent = true ∨ t.isPunctOf [".", ",", "?", "&", "[", "]", "@"] = true := by
    intro chain t ht
    exact (Dotted.mem_tokens ht).imp_right fun h => hmark h (by decide)
  intro t ht
  rw [arguments, List.mem_append, List.mem_cons, List.mem_cons] at ht
  rcases ht with ht | rfl | rfl | ht
  · exact hchain _ t ht
  · exact .inr (hmark c.and₁_eq (by decide))
  · exact .inr (hmark c.and₂_eq (by decide))
  · exact hchain _ t ht

theorem inside_append (c : Comparison) (rest : List Token)
    : c.inside ++ rest
        = c.first.first :: (c.first.more
          ++ c.less :: (c.arguments ++ c.greater :: (c.fourth.tokens ++ rest))) := by
  simp [inside, Dotted.tokens]

theorem splitType?_inside (c : Comparison) (rest : List Token)
    : splitType? (c.inside ++ rest)
        =
      some (c.first.tokens ++ c.less :: (c.arguments ++ [c.greater]), c.fourth.tokens ++ rest) := by
  have hdotted : splitDotted
      (c.first.more ++ c.less :: (c.arguments ++ c.greater :: (c.fourth.tokens ++ rest)))
      = (c.first.more, c.less :: (c.arguments ++ c.greater :: (c.fourth.tokens ++ rest))) := by
    rw [Dotted.splitDotted_more, splitDotted_of_starts, List.append_nil]
    rw [starts, Token.isPunct_of_isPunct c.less_eq]
    rfl
  have harguments : splitArguments?
      (c.less :: (c.arguments ++ c.greater :: (c.fourth.tokens ++ rest)))
      = some (c.less :: (c.arguments ++ [c.greater]), c.fourth.tokens ++ rest) := by
    rw [splitArguments?, starts, if_pos c.less_eq, splitArgumentsFrom?, if_pos c.less_eq,
      splitArgumentsFrom?_inner c.arguments_inner, splitArgumentsFrom?,
      Token.isPunct_of_isPunct c.greater_eq, if_neg (by decide), if_pos c.greater_eq,
      if_pos (Nat.le_refl 1)]
    rfl
  have hdims : splitDims (c.fourth.tokens ++ rest) = ([], c.fourth.tokens ++ rest) := by
    apply splitDims_of_starts
    exact Cursor.isPunct_of_isIdent (isIdent_of_isPlain c.fourth.isPlain_first) "["
  rw [inside_append, splitType?, if_pos c.first.isPlain_first, hdotted]
  dsimp only [Option.bind_eq_bind]
  rw [harguments, Option.bind_some, hdims, List.append_nil]
  rfl

theorem local?_of_final (c : Comparison) (h : c.first.first.isWord "final" = true)
    (rest : List Token) : local? false (c.inside ++ rest) = none := by
  have hnone : ∀ tokens, starts Token.isIdent tokens = false
      → splitType? (tokens.dropWhile (·.isWord "final")) = none := by
    intro tokens h
    cases tokens with
    | nil => rfl
    | cons t rest =>
      rw [starts] at h
      have hword : t.isWord "final" = false := by
        rw [Token.isWord, Bool.and_eq_false_iff]
        exact .inl h
      rw [List.dropWhile_cons_of_neg (by rw [hword]; exact Bool.false_ne_true), splitType?,
        isPlain, h]
      rfl
  have hmore := c.first.starts_more_eq_false (p := Token.isIdent)
    (Token.isIdent_of_isPunct c.less_eq) (fun _ hu => Token.isIdent_of_isPunct hu)
    (c.arguments ++ c.greater :: (c.fourth.tokens ++ rest))
  rw [Cursor.local?_eq, inside_append, List.dropWhile_cons, if_pos h, hnone _ hmore,
    Option.bind_none]

theorem local?_inside (c : Comparison) (back : List Token)
    : local? false (c.inside ++ c.closing :: back)
        =
      if c.IsTaken then some c.phantom else none := by
  cases hfinal : c.first.first.isWord "final" with
  | true =>
    have hnot : ¬ c.IsTaken := by
      intro h
      rw [h.2] at hfinal
      cases hfinal
    rw [c.local?_of_final hfinal, if_neg hnot]
  | false =>
    have hstart : (c.inside ++ c.closing :: back).dropWhile (·.isWord "final")
        = c.inside ++ c.closing :: back := by
      rw [inside_append, List.dropWhile_cons_of_neg (by rw [hfinal]; exact Bool.false_ne_true)]
    have hdims : splitDims (c.fourth.more ++ c.closing :: back)
        = ([], c.fourth.more ++ c.closing :: back) := by
      apply splitDims_of_starts
      refine c.fourth.starts_more_eq_false ?_ (fun u hu => ?_) back
      · rw [Token.isPunct_of_isPunct c.closing_eq]
        rfl
      · rw [Token.isPunct_of_isPunct hu]
        rfl
    have hfourth : c.fourth.tokens = c.fourth.first :: c.fourth.more := rfl
    rw [Cursor.local?_eq, hstart, splitType?_inside, Option.bind_some, hfourth, List.cons_append,
      Cursor.localBehind, hdims, c.fourth.isPlain_first]
    -- The fourth name is taken for that of a variable just if it has no further part.
    by_cases hdots : c.fourth.dots = 0
    · have hends : endsDeclarator (c.closing :: back) = true := by
        rw [endsDeclarator, Token.isPunctOf_of_isPunct c.closing_eq]
        rfl
      have hinferred : inferredType? (c.closing :: back) = none := by
        cases back with
        | nil => rfl
        | cons t back =>
          rw [inferredType?, Token.isPunct_of_isPunct c.closing_eq]
          rfl
      have hlength : (c.inside ++ c.closing :: back).length - (c.closing :: back).length
          = c.inside.length := by
        rw [List.length_append, Nat.add_sub_cancel]
      rw [if_pos ⟨hdots, hfinal⟩, Dotted.more_of_dots hdots, List.nil_append]
      dsimp only
      rw [hends, hinferred, hlength]
      rfl
    · have hends : endsDeclarator (c.fourth.more ++ c.closing :: back) = false := by
        obtain ⟨t, rest, hmore, ht⟩ := exists_of_starts (c.fourth.starts_more _ hdots)
        rw [hmore, endsDeclarator, Token.isPunctOf_of_isPunct ht]
        rfl
      rw [if_neg fun h => hdots h.1]
      dsimp only
      rw [hends]
      rfl

/-! The search of conditions. -/

theorem searches_inside (env : Surroundings) {s : State} {c : Comparison} {before back : List Token}
    (hnot : ¬ c.IsTaken)
    (hmarked : Moment.Marked ⟨s, c.opening :: before, c.inside ++ c.closing :: back⟩)
    : Searches env ⟨s, c.opening :: before, c.inside ++ c.closing :: back⟩ (c.uses env s)
        ⟨s, c.inside.reverse ++ c.opening :: before, c.closing :: back⟩ := by
  have hinside : c.inside ++ c.closing :: back
      = c.first.first :: (c.first.more ++ c.less :: (c.second.tokens ++ c.and₁ :: c.and₂
          :: (c.third.tokens ++ c.greater :: (c.fourth.tokens ++ c.closing :: back)))) := by
    simp [inside, arguments, Dotted.tokens]
  have hbehind : c.inside.reverse ++ c.opening :: before
      = c.fourth.tokens.reverse ++ c.greater :: (c.third.tokens.reverse ++ c.and₂ :: c.and₁
          :: (c.second.tokens.reverse ++ c.less
            :: (c.first.tokens.reverse ++ c.opening :: before))) := by
    simp [inside, arguments]
  have hlocal := c.local?_inside back
  rw [if_neg hnot] at hlocal
  rw [hinside] at hmarked hlocal ⊢
  rw [hbehind]
  have hfirst := isIdent_of_isPlain c.first.isPlain_first
  have hnoParen : ∀ {t : Token} {mark : String} {rest : List Token}, t.isPunct mark = true
      → mark ≠ "(" → starts (·.isPunct "(") (t :: rest) = false := by
    intro t mark rest ht hmark
    rw [starts, Token.isPunct_of_isPunct ht, beq_eq_false_iff_ne]
    exact hmark
  -- The search goes through the comparison token by token, each stretch from where the last ended.
  have h₀ := searches_single env hmarked (Token.isPunctOf_of_isIdent hfirst _)
    (step_of_local?_none (Token.isPunctOf_of_isIdent hfirst _)
      (isWord_of_isPlain c.first.isPlain_first (by decide)) hlocal)
  rw [access?_other env s _ _ (Token.isPunctOf_of_isIdent hfirst _)] at h₀
  have h₁ := h₀.trans (c.first.searches_more env c.opening_eq (by decide)
    (hnoParen c.less_eq (by decide)) (h₀.marked hmarked))
  have h₂ := h₁.trans (searches_mark env c.less_eq (by decide) (h₁.marked hmarked))
  have h₃ := h₂.trans (c.second.searches_tokens env c.less_eq (by decide)
    (hnoParen c.and₁_eq (by decide)) (h₂.marked hmarked))
  have h₄ := h₃.trans (searches_mark env c.and₁_eq (by decide) (h₃.marked hmarked))
  have h₅ := h₄.trans (searches_mark env c.and₂_eq (by decide) (h₄.marked hmarked))
  have h₆ := h₅.trans (c.third.searches_tokens env c.and₂_eq (by decide)
    (hnoParen c.greater_eq (by decide)) (h₅.marked hmarked))
  have h₇ := h₆.trans (searches_mark env c.greater_eq (by decide) (h₆.marked hmarked))
  have h₈ := h₇.trans (c.fourth.searches_tokens env c.greater_eq (by decide)
    (hnoParen c.closing_eq (by decide)) (h₇.marked hmarked))
  have huses : (none : Option Access).toList ++ c.first.uses env s ++ [] ++ c.second.uses env s
      ++ [] ++ [] ++ c.third.uses env s ++ [] ++ c.fourth.uses env s = c.uses env s := by
    simp [uses]
  rw [huses] at h₈
  exact h₈

theorem searches_phantom (env : Surroundings) {s : State} {c : Comparison}
    {before back : List Token} (htaken : c.IsTaken)
    (hmarked : Moment.Marked ⟨s, c.opening :: before, c.inside ++ c.closing :: back⟩)
    : Searches env ⟨s, c.opening :: before, c.inside ++ c.closing :: back⟩ []
        ⟨s.declare c.phantom, c.inside.reverse ++ c.opening :: before, c.closing :: back⟩ := by
  have hfirst := isIdent_of_isPlain c.first.isPlain_first
  have hstart : isStatementStart (c.opening :: before) = true := by
    rw [isStatementStart, Token.isPunctOf_of_isPunct c.opening_eq]
    rfl
  have hlocal := c.local?_inside back
  rw [if_pos htaken] at hlocal
  obtain ⟨more, hmore⟩ : ∃ more, c.inside = c.first.first :: more := ⟨_, rfl⟩
  have hlength : c.phantom.length - 1 = more.length := by
    rw [phantom, hmore]
    rfl
  rw [hmore, List.cons_append] at hmarked hlocal ⊢
  have hat := hmarked.at_eq (Token.isPunctOf_of_isIdent hfirst _)
  -- The first step declares the phantom and skips all that it was read from.
  have hstep : step s (c.opening :: before) c.first.first (more ++ c.closing :: back)
      = (s.declare c.phantom, more.length) := by
    rw [step_other (Token.isPunctOf_of_isIdent hfirst _)
      (isWord_of_isPlain c.first.isPlain_first (by decide)), hstart, hlocal, ← hlength]
    rfl
  have hbehind : Moment.behind s (c.opening :: before) c.first.first (more ++ c.closing :: back)
      = ⟨s.declare c.phantom, (c.first.first :: more).reverse ++ c.opening :: before,
          c.closing :: back⟩ := by
    rw [Moment.behind, hat, hstep, List.take_left, List.drop_left]
    simp
  have h : Searches env
      (Moment.behind s (c.opening :: before) c.first.first (more ++ c.closing :: back)) []
      ⟨s.declare c.phantom, (c.first.first :: more).reverse ++ c.opening :: before,
        c.closing :: back⟩ := by
    rw [hbehind]
    exact .refl _
  have hfound := h.step
  rw [access?_other env _ _ _ (Token.isPunctOf_of_isIdent hfirst _)] at hfound
  exact hfound

end Comparison

/-! Conditions in bodies. -/

theorem declare_ne (s : State) (v : Local) : s.declare v ≠ s := by
  intro h
  have hlength := congrArg (fun s : State => s.scopes.innermost.length) h
  simp [State.declare, Scopes.declare] at hlength

/--
The search of a body comes to each condition in it and then to the closing parenthesis. On the way
it finds the use at each dot and binds nothing exactly if the condition is not taken for a
declaration; if it is taken, its last name is bound and no use is found in it. Where a declaration
is looked for, two adjacent `&` are read like one.
-/
theorem searches_condition (names : TypeNames) (types : List TypeDecl) (body : Body)
    {c : Comparison} {front back : List Token} (hbody : body.tokens = front ++ (c.tokens ++ back))
    : (∃ found s found' s',
        Searches ⟨names, types, body.owner⟩ (.start body) found
            ⟨s, front.reverse, c.tokens ++ back⟩
          ∧ Searches ⟨names, types, body.owner⟩ ⟨s, front.reverse, c.tokens ++ back⟩ found'
            ⟨s', c.inside.reverse ++ c.opening :: front.reverse, c.closing :: back⟩
          ∧ ofBody names types body
            = found ++ found' ++ scan ⟨names, types, body.owner⟩ s'
                (c.inside.reverse ++ c.opening :: front.reverse) (c.closing :: back)
          ∧ (s' = s ∧ found' = c.uses ⟨names, types, body.owner⟩ s ↔ ¬ c.IsTaken)
          ∧ (c.IsTaken → s' = s.declare c.phantom ∧ found' = []))
      ∧ ∀ (pattern : Bool) (x y : List Token) (t t' : Token), t.isPunct "&" = true
        → t'.isPunct "&" = true
        → (local? pattern (x ++ t :: t' :: y)).map Local.name
          = (local? pattern (x ++ t :: y)).map Local.name := by
  constructor
  · have htype : isTypePart c.opening = false := by
      rw [isTypePart, Token.isIdent_of_isPunct c.opening_eq,
        Token.isPunctOf_of_isPunct c.opening_eq]
      rfl
    have hbrace : c.opening.isPunct "\x7b" = false := by
      rw [Token.isPunct_of_isPunct c.opening_eq]
      rfl
    have htokens : c.tokens ++ back = c.opening :: (c.inside ++ c.closing :: back) := by
      simp [Comparison.tokens]
    -- First up to the condition, then through it by one of the two searches above.
    obtain ⟨found, s, hto⟩ := exists_searches ⟨names, types, body.owner⟩ htype hbrace front
      (c.inside ++ c.closing :: back) (Moment.start body).state []
    rw [List.append_nil, ← htokens, ← hbody] at hto
    have hmarked := hto.marked (Moment.marked_start body)
    rw [htokens] at hmarked
    have hopening := searches_mark ⟨names, types, body.owner⟩ c.opening_eq (by decide) hmarked
    have hinside := hopening.marked hmarked
    by_cases htaken : c.IsTaken
    · have hthrough := hopening.trans (Comparison.searches_phantom _ htaken hinside)
      rw [List.nil_append, ← htokens] at hthrough
      refine ⟨found, s, [], s.declare c.phantom, hto, hthrough, ?_, ?_, fun _ => ⟨rfl, rfl⟩⟩
      · rw [ofBody_eq]
        exact (hto.trans hthrough).uses_eq
      · exact ⟨fun h => absurd h.1 (declare_ne s c.phantom), fun h => absurd htaken h⟩
    · have hthrough := hopening.trans (Comparison.searches_inside _ htaken hinside)
      rw [List.nil_append, ← htokens] at hthrough
      refine ⟨found, s, _, s, hto, hthrough, ?_, ⟨fun _ => htaken, fun _ => ⟨rfl, rfl⟩⟩,
        fun h => absurd h htaken⟩
      rw [ofBody_eq]
      exact (hto.trans hthrough).uses_eq
  · intro pattern x y t t' ht ht'
    exact (Doubles.of_append ht ht' x y).local?_name pattern

def ordering : Comparison where
  opening := .onFirstLine .punct "(" 24
  first := .field (.name (.onFirstLine .ident "a" 25) (by decide)) (.onFirstLine .punct "." 26)
    (.onFirstLine .ident "x" 27) (by decide) (by decide)
  less := .onFirstLine .punct "<" 29
  second := .field (.name (.onFirstLine .ident "b" 31) (by decide)) (.onFirstLine .punct "." 32)
    (.onFirstLine .ident "y" 33) (by decide) (by decide)
  and₁ := .onFirstLine .punct "&" 35
  and₂ := .onFirstLine .punct "&" 36
  third := .field (.name (.onFirstLine .ident "c" 38) (by decide)) (.onFirstLine .punct "." 39)
    (.onFirstLine .ident "z" 40) (by decide) (by decide)
  greater := .onFirstLine .punct ">" 42
  fourth := .name (.onFirstLine .ident "d" 44) (by decide)
  closing := .onFirstLine .punct ")" 45
  opening_eq := by decide
  less_eq := by decide
  and₁_eq := by decide
  and₂_eq := by decide
  greater_eq := by decide
  closing_eq := by decide

theorem searches_condition_ordering
    : ∃ front back, (∃ found s found' s',
          Searches ⟨{}, [], 0⟩ (.start ⟨0, [], front ++ (ordering.tokens ++ back)⟩) found
              ⟨s, front.reverse, ordering.tokens ++ back⟩
            ∧ Searches ⟨{}, [], 0⟩ ⟨s, front.reverse, ordering.tokens ++ back⟩ found'
              ⟨s', ordering.inside.reverse ++ ordering.opening :: front.reverse,
                ordering.closing :: back⟩
            ∧ s' = s.declare ordering.phantom ∧ found' = [])
        ∧ ∀ (pattern : Bool) (x y : List Token),
          (local? pattern (x ++ ordering.and₁ :: ordering.and₂ :: y)).map Local.name
            = (local? pattern (x ++ ordering.and₁ :: y)).map Local.name := by
  refine ⟨[.onFirstLine .ident "if" 21],
    [.onFirstLine .punct "\x7b" 47, .onFirstLine .punct "\x7d" 49], ?_⟩
  have h := searches_condition {} [] ⟨0, [], [.onFirstLine .ident "if" 21]
    ++ (ordering.tokens ++ [.onFirstLine .punct "\x7b" 47, .onFirstLine .punct "\x7d" 49])⟩ rfl
  obtain ⟨⟨found, s, found', s', hto, hthrough, -, -, htaken⟩, hdoubled⟩ := h
  refine ⟨⟨found, s, found', s', hto, hthrough, htaken (by decide)⟩, ?_⟩
  intro pattern x y
  exact hdoubled pattern x y _ _ ordering.and₁_eq ordering.and₂_eq

/--
In a text with this condition the local variable `d` is declared, and none of the uses at the three
dots is found.
-/
theorem ordering_hides_uses
    : ∃ tokens, tokenize "class A \x7b void m() \x7b if (a.x < b.y && c.z > d) \x7b \x7d \x7d \x7d"
          = .ok tokens
        ∧ (∃ body ∈ (outline tokens).bodies, ∃ front back,
          body.tokens = front ++ (ordering.tokens ++ back)
            ∧ (local? false (ordering.inside ++ ordering.closing :: back)).map Local.name
              = some "d")
        ∧ (∀ env s, (ordering.uses env s).map Access.member = ["x", "y", "z"])
        ∧ (SourceUnit.ofTokens "A" "" tokens).accesses = [] := by
  have hcheck :
      tokenize "class A \x7b void m() \x7b if (a.x < b.y && c.z > d) \x7b \x7d \x7d \x7d"
        |>.toOption.any fun tokens =>
          decide ((∃ body ∈ (outline tokens).bodies,
              body.tokens = body.tokens.take 1 ++ (ordering.tokens ++ body.tokens.drop 17))
            ∧ (SourceUnit.ofTokens "A" "" tokens).accesses = []) := by
    decide +kernel
  obtain ⟨tokens, hlex, hcheck⟩ := exists_tokenize_ok hcheck
  rw [decide_eq_true_eq] at hcheck
  obtain ⟨⟨body, hbody, htokens⟩, haccesses⟩ := hcheck
  refine ⟨tokens, hlex, ⟨body, hbody, _, _, htokens, ?_⟩, fun env s => rfl, haccesses⟩
  rw [Comparison.local?_inside, if_pos (by decide)]
  rfl

end DeprecatedUse.Java.Access
