import DeprecatedUse.Java.Access
import DeprecatedUse.Proofs.Java.Frames.Constructs
import DeprecatedUse.Proofs.Java.Variables.Types

/-!
This module contains the creations of objects, read from back to front: the arguments in
parentheses, perhaps type arguments before them, and a name with dots back to the word `new`.
-/

namespace DeprecatedUse.Java

open Reader (round_mem_nesting)

namespace Bracket

inductive Balanced (b : Bracket) : List Token → Prop where
  | nil : Balanced b []
  | other {t : Token} {rest : List Token} (hopening : t.isPunct b.opening = false)
    (hclosing : t.isPunct b.closing = false) (h : Balanced b rest) : Balanced b (t :: rest)
  | group {opening closing : Token} {inner rest : List Token}
    (hopening : opening.isPunct b.opening = true) (hinner : Balanced b inner)
    (hclosing : closing.isPunct b.closing = true) (h : Balanced b rest) :
    Balanced b (opening :: (inner ++ closing :: rest))

namespace Balanced

variable {b : Bracket} {tokens rest : List Token}

theorem append (h : b.Balanced tokens) (h' : b.Balanced rest) : b.Balanced (tokens ++ rest) := by
  induction h with
  | nil => exact h'
  | other hopening hclosing _ ih => exact ih.other hopening hclosing
  | group hopening hinner hclosing _ _ ih =>
    rw [List.cons_append, List.append_assoc, List.cons_append]
    exact .group hopening hinner hclosing ih

theorem of_angleNested (h : AngleNested tokens) : angle.Balanced tokens := by
  induction h with
  | nil => exact .nil
  | other hopening hclosing _ ih => exact .other hopening hclosing ih
  | group hopening _ hclosing _ ih ih' => exact .group hopening ih hclosing ih'

theorem of_nested (hb : b ∈ nesting) (h : Nested tokens) : b.Balanced tokens := by
  have hnot : ∀ {t : Token}, t.isOpening = false → t.isPunct b.opening = false := fun ht =>
    Bool.eq_false_iff.2 fun h => Bool.eq_false_iff.1 ht (Token.isOpening_of_isPunct hb h)
  have hnot' : ∀ {t : Token}, t.isClosing = false → t.isPunct b.closing = false := fun ht =>
    Bool.eq_false_iff.2 fun h => Bool.eq_false_iff.1 ht (Token.isClosing_of_isPunct hb h)
  induction hn : tokens.length using Nat.strongRecOn generalizing tokens with
  | ind n ih =>
    cases tokens with
    | nil => exact .nil
    | cons t rest =>
      unfold Nested at h
      rw [nest?_cons, Option.bind_eq_some_iff] at h
      obtain ⟨stack, hstep, h⟩ := h
      rw [List.length_cons] at hn
      by_cases hopening : t.isOpening = true
      · rw [nestStep_opening hopening, Option.some.injEq] at hstep
        subst hstep
        obtain ⟨inner, last, back, rfl, hinner, hpair, hlast, hback⟩ :=
          nest?_split (show nest? ([] ++ t :: []) rest = some [] from h)
        rw [List.length_append, List.length_cons] at hn
        have hinner' := ih inner.length (by omega) hinner rfl
        have hback' := ih back.length (by omega) hback rfl
        have hkind := Token.closedBy_iff hpair hb
        by_cases ht : t.isPunct b.opening = true
        · exact .group ht hinner' (hkind.1 ht) hback'
        · -- A group of another kind.
          have hclosing : t.isClosing = false := Bool.eq_false_iff.2 fun h =>
            Bool.eq_false_iff.1 (Token.not_isOpening_of_isClosing h) hopening
          have hlast' : last.isPunct b.closing = false :=
            Bool.eq_false_iff.2 fun h => ht (hkind.2 h)
          exact .other (Bool.eq_false_iff.2 ht) (hnot' hclosing)
            (hinner'.append (hback'.other (hnot (Token.not_isOpening_of_isClosing hlast)) hlast'))
      · by_cases hclosing : t.isClosing = true
        · obtain ⟨last, -, hstack⟩ := nestStep_closing hclosing hstep
          cases hstack
        · rw [Bool.not_eq_true] at hopening hclosing
          rw [nestStep_other hopening hclosing, Option.some.injEq] at hstep
          subst hstep
          exact .other (hnot hopening) (hnot' hclosing) (ih rest.length (by omega) h rfl)

theorem flip_close? (hb : b.opening ≠ b.closing) (h : b.Balanced tokens) (depth : Nat)
    (rest : List Token)
    : b.flip.close? depth (tokens.reverse ++ rest)
        =
      (b.flip.close? depth rest).map fun split => (tokens.reverse ++ split.1, split.2) := by
  -- From back to front a closing bracket opens a group, and the opening one closes it.
  induction h generalizing depth rest with
  | nil => simp
  | @other t tokens hopening hclosing _ ih =>
    rw [List.reverse_cons, List.append_assoc, ih, List.singleton_append, close?, flip, hopening,
      hclosing, if_neg Bool.false_ne_true, if_neg Bool.false_ne_true, Option.map_map]
    congr 1
    funext split
    rw [Function.comp_apply, List.append_assoc, List.singleton_append]
  | @group opening closing inner tokens hopening _ hclosing _ ih ih' =>
    have hother : opening.isPunct b.closing = false := by
      rw [Token.isPunct_of_isPunct hopening]
      exact beq_false_of_ne hb
    have hclose : b.flip.close? depth (closing :: (inner.reverse ++ opening :: rest))
        = (b.flip.close? depth rest).map fun split =>
            (closing :: (inner.reverse ++ opening :: split.1), split.2) := by
      rw [close?, flip, if_pos hclosing]
      change ((b.flip.close? (depth + 1) (inner.reverse ++ opening :: rest)).map _) = _
      rw [ih, close?, flip, hother, if_neg Bool.false_ne_true, if_pos hopening,
        if_neg (Nat.succ_ne_zero depth), Nat.add_sub_cancel, Option.map_map, Option.map_map]
      rfl
    rw [List.reverse_cons, List.reverse_append, List.reverse_cons, List.append_assoc,
      List.append_assoc, List.append_assoc, List.singleton_append, List.singleton_append, ih',
      hclose, Option.map_map]
    congr 1
    funext split
    simp

end Balanced

end Bracket

namespace Access

/-! Creations of objects. -/

/--
The tokens end with the creation of an object of this type, with its arguments in parentheses.
-/
def EndsInCreation (type : NamedType) (tokens : List Token) : Prop :=
  ∃ front new arguments, tokens = front ++ new :: (type.first :: (type.more ++ arguments))
    ∧ new.isWord "new" = true ∧ Bracket.round.IsGroup arguments

end Access

namespace NamedType

/--
A name, perhaps with dots, and perhaps with type arguments behind it.
-/
def IsSimple : NamedType → Prop
  | generic raw _ _ _ _ _ _ => raw.IsDotted
  | type => type.IsDotted

theorem chain_dotted {type : NamedType} (h : type.IsDotted) {t : Token}
    (ht : t.isPunct "." = false) (before : List Token)
    : ∃ last middle, (type.first :: type.more).reverse = last :: middle ∧ last.isIdent = true
        ∧ ∀ names, ∃ names', Access.chain names (middle ++ t :: before) = (names', t :: before) := by
  induction type with
  | name n hident =>
    refine ⟨n, [], rfl, hident, fun names => ⟨names, ?_⟩⟩
    cases before with
    | nil => rfl
    | cons u before =>
      rw [List.nil_append, Access.chain, ht]
      rfl
  | member outer dot n hdot hident hname hword ih =>
    obtain ⟨last, middle, hreverse, hlast, hchain⟩ := ih h
    refine ⟨n, dot :: last :: middle, ?_, hident, fun names => ?_⟩
    · rw [first, more, ← List.cons_append, List.reverse_append, hreverse]
      rfl
    · obtain ⟨names', hnames⟩ := hchain (last :: names)
      refine ⟨names', ?_⟩
      rw [List.cons_append, List.cons_append, Access.chain, hdot, hlast, Bool.and_self,
        if_pos rfl]
      exact hnames
  | generic => exact h.elim

end NamedType

namespace Access

theorem beforeArguments_of_isIdent {t : Token} (ht : t.isIdent = true) (before : List Token)
    : beforeArguments (t :: before) = t :: before := by
  rw [beforeArguments, Cursor.isPunct_of_isIdent ht ">"]
  rfl

theorem close?_flip_group {b : Bracket} (hb : b.opening ≠ b.closing) {inner : List Token}
    (hinner : b.Balanced inner) {opening : Token} (hopening : opening.isPunct b.opening = true)
    (before : List Token)
    : b.flip.close? 0 (inner.reverse ++ opening :: before) = some (inner.reverse, before) := by
  have hother : opening.isPunct b.closing = false := by
    rw [Token.isPunct_of_isPunct hopening]
    exact beq_false_of_ne hb
  rw [hinner.flip_close? hb, Bracket.close?, Bracket.flip, hother, if_neg Bool.false_ne_true,
    if_pos hopening, if_pos rfl, Option.map_some, List.append_nil]

theorem beforeArguments_type {type : NamedType} (htype : type.IsSimple) {t : Token}
    (ht : t.isPunct "." = false) (before : List Token)
    : ∃ last middle names,
        beforeArguments ((type.first :: type.more).reverse ++ t :: before)
            = last :: (middle ++ t :: before)
          ∧ last.isIdent = true
          ∧ chain [last] (middle ++ t :: before) = (names, t :: before) := by
  have hdotted : ∀ raw : NamedType, raw.IsDotted → ∃ last middle names,
      (raw.first :: raw.more).reverse = last :: middle ∧ last.isIdent = true
        ∧ chain [last] (middle ++ t :: before) = (names, t :: before) := by
    intro raw hraw
    obtain ⟨last, middle, hreverse, hlast, hchain⟩ := NamedType.chain_dotted hraw ht before
    obtain ⟨names, hnames⟩ := hchain [last]
    exact ⟨last, middle, names, hreverse, hlast, hnames⟩
  have hplain : type.IsDotted → ∃ last middle names,
      beforeArguments ((type.first :: type.more).reverse ++ t :: before)
          = last :: (middle ++ t :: before)
        ∧ last.isIdent = true
        ∧ chain [last] (middle ++ t :: before) = (names, t :: before) := by
    intro htype
    obtain ⟨last, middle, names, hreverse, hlast, hnames⟩ := hdotted type htype
    exact ⟨last, middle, names, by rw [hreverse]; exact beforeArguments_of_isIdent hlast _, hlast,
      hnames⟩
  -- Between the last name and what follows stand at most type arguments, which are passed whole.
  cases type with
  | name => exact hplain htype
  | member => exact hplain htype
  | generic raw opening arguments closing hopening harguments hclosing =>
    obtain ⟨last, middle, names, hreverse, hlast, hnames⟩ := hdotted raw htype
    refine ⟨last, middle, names, ?_, hlast, hnames⟩
    have htokens : (raw.first :: (raw.more ++ opening :: (arguments ++ [closing]))).reverse
          ++ t :: before
        = closing :: (arguments.reverse ++ opening :: ((raw.first :: raw.more).reverse
          ++ t :: before)) := by
      simp
    rw [NamedType.first, NamedType.more, htokens, beforeArguments, if_pos hclosing,
      close?_flip_group (by decide) (.of_angleNested harguments) hopening, hreverse]
    rfl

theorem creation?_of_endsInCreation {type : NamedType} (htype : type.IsSimple)
    {tokens : List Token} (h : EndsInCreation type tokens)
    : (creation? tokens.reverse).isSome = true := by
  obtain ⟨front, new, arguments, rfl, hnew, opening, inner, closing, rfl, hopening, hinner,
    hclosing⟩ := h
  have hdot : new.isPunct "." = false :=
    Cursor.isPunct_of_isIdent (Token.isIdent_of_isWord hnew) "."
  obtain ⟨last, middle, names, htype', hlast, hchain⟩ :=
    beforeArguments_type htype hdot front.reverse
  have htokens : (front ++ new :: (type.first :: (type.more
        ++ opening :: (inner ++ [closing])))).reverse
      = closing :: (inner.reverse ++ opening :: ((type.first :: type.more).reverse
        ++ new :: front.reverse)) := by
    simp
  have hround : closing.isPunct ")" = true := hclosing
  rw [htokens, creation?, if_pos hround,
    close?_flip_group (by decide) (.of_nested round_mem_nesting hinner) hopening]
  dsimp only
  rw [htype']
  dsimp only
  rw [if_pos hlast, hchain]
  dsimp only
  rw [if_pos hnew]
  rfl

end Access

end DeprecatedUse.Java
