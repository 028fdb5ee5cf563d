import DeprecatedUse.Java.Token

/-!
This module contains the splitting of token lists at brackets. Each splitter gives back a tail of
the tokens that it was given; the laws about that are what later recursions rest on.
-/

namespace DeprecatedUse.Java

structure Bracket where
  opening : String
  closing : String

namespace Bracket

def round : Bracket := ⟨"(", ")"⟩

def curly : Bracket := ⟨"\x7b", "\x7d"⟩

def angle : Bracket := ⟨"<", ">"⟩

def flip (b : Bracket) : Bracket := ⟨b.closing, b.opening⟩

/--
Split at the bracket that closes the outermost of `depth + 1` open ones: the tokens before it and
the tokens after it.
-/
def close? (b : Bracket) (depth : Nat) : List Token → Option (List Token × List Token)
  | [] => none
  | t :: rest =>
    if t.isPunct b.opening then
      (close? b (depth + 1) rest).map fun (inner, after) => (t :: inner, after)
    else if t.isPunct b.closing then
      if depth = 0 then
        some ([], rest)
      else
        (close? b (depth - 1) rest).map fun (inner, after) => (t :: inner, after)
    else
      (close? b depth rest).map fun (inner, after) => (t :: inner, after)

theorem close?_append {b : Bracket} {depth : Nat} {tokens inner after : List Token}
    (h : b.close? depth tokens = some (inner, after)) :
    ∃ t, t.isPunct b.closing = true ∧ inner ++ t :: after = tokens := by
  induction tokens generalizing depth inner after with
  | nil => simp [close?] at h
  | cons t rest ih =>
    have hmap : ∀ {depth'}, ((b.close? depth' rest).map fun (inner, after) => (t :: inner, after))
        = some (inner, after) → ∃ c, c.isPunct b.closing = true ∧ inner ++ c :: after = t :: rest := by
      intro depth' hmap
      obtain ⟨⟨i, a⟩, hs, he⟩ := Option.map_eq_some_iff.1 hmap
      simp only [Prod.mk.injEq] at he
      obtain ⟨rfl, rfl⟩ := he
      obtain ⟨c, hc, hrest⟩ := ih hs
      exact ⟨c, hc, by simp [hrest]⟩
    rw [close?] at h
    split at h
    · exact hmap h
    · split at h
      · next hclosing =>
        split at h
        · simp only [Option.some.injEq, Prod.mk.injEq] at h
          obtain ⟨rfl, rfl⟩ := h
          exact ⟨t, hclosing, rfl⟩
        · exact hmap h
      · exact hmap h

theorem close?_suffix {b : Bracket} {depth : Nat} {tokens inner after : List Token}
    (h : b.close? depth tokens = some (inner, after)) : after <:+ tokens := by
  obtain ⟨t, -, rfl⟩ := close?_append h
  exact ⟨inner ++ [t], by simp⟩

theorem close?_isPrefix {b : Bracket} {depth : Nat} {tokens inner after : List Token}
    (h : b.close? depth tokens = some (inner, after)) : inner <+: tokens := by
  obtain ⟨t, -, rfl⟩ := close?_append h
  exact List.prefix_append _ _

/--
The inside of a group, whose opening bracket has been read, and the tokens after it. A group that is
never closed takes all tokens.
-/
def inside (b : Bracket) (tokens : List Token) : List Token × List Token :=
  (b.close? 0 tokens).getD (tokens, [])

theorem inside_suffix (b : Bracket) (tokens : List Token) : (b.inside tokens).2 <:+ tokens := by
  unfold inside
  cases h : b.close? 0 tokens with
  | none => exact List.nil_suffix
  | some p => exact close?_suffix h

theorem inside_isPrefix (b : Bracket) (tokens : List Token) : (b.inside tokens).1 <+: tokens := by
  unfold inside
  cases h : b.close? 0 tokens with
  | none => exact List.prefix_refl _
  | some p => exact close?_isPrefix h

def group? (b : Bracket) : List Token → Option (List Token) × List Token
  | [] => (none, [])
  | t :: rest =>
    if t.isPunct b.opening then
      (some (b.inside rest).1, (b.inside rest).2)
    else
      (none, t :: rest)

theorem group?_suffix (b : Bracket) (tokens : List Token) : (b.group? tokens).2 <:+ tokens := by
  cases tokens with
  | nil => exact List.suffix_refl []
  | cons t rest =>
    rw [group?]
    split
    · exact (inside_suffix b rest).trans (List.suffix_cons t rest)
    · exact List.suffix_refl _

theorem group?_isInfix {b : Bracket} {tokens inner : List Token}
    (h : (b.group? tokens).1 = some inner) : inner <:+: tokens := by
  cases tokens with
  | nil => simp [group?] at h
  | cons t rest =>
    rw [group?] at h
    split at h
    · simp only [Option.some.injEq] at h
      subst h
      exact (inside_isPrefix b rest).isInfix.trans (List.suffix_cons t rest).isInfix
    · simp at h

end Bracket

/--
Split where an expression ends: before the first comma or semicolon at its own level of nesting, or
before the bracket that closes the group around it. `depth` brackets are open.
-/
def splitExpression (depth : Nat) : List Token → List Token × List Token
  | [] => ([], [])
  | t :: rest =>
    if t.isPunctOf ["(", "[", "\x7b"] then
      let (taken, after) := splitExpression (depth + 1) rest
      (t :: taken, after)
    else if depth = 0 && t.isPunctOf [")", "]", "\x7d", ",", ";"] then
      ([], t :: rest)
    else
      let (taken, after) :=
        splitExpression (if t.isPunctOf [")", "]", "\x7d"] then depth - 1 else depth) rest
      (t :: taken, after)

theorem splitExpression_append (depth : Nat) (tokens : List Token) :
    (splitExpression depth tokens).1 ++ (splitExpression depth tokens).2 = tokens := by
  induction tokens generalizing depth with
  | nil => rfl
  | cons t rest ih =>
    rw [splitExpression]
    split
    · simp [ih]
    · split
      · simp
      · simp [ih]

theorem splitExpression_suffix (depth : Nat) (tokens : List Token) :
    (splitExpression depth tokens).2 <:+ tokens :=
  ⟨_, splitExpression_append depth tokens⟩

end DeprecatedUse.Java
