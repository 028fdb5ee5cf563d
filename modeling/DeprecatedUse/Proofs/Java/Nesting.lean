import DeprecatedUse.Java.Bracket

/-!
This module contains the nesting of brackets in tokens, and what the splitters make of tokens whose
brackets are nested: they find the true partners of brackets, so what they take holds braces only in
whole pairs. A group between a pair of brackets is taken whole, and tokens split at a bracket of a
group fall apart in one way only.
-/

namespace DeprecatedUse.Java

namespace Bracket

def square : Bracket := ⟨"[", "]"⟩

def nesting : List Bracket := [round, square, curly]

end Bracket

namespace Token

def isOpening (t : Token) : Bool :=
  Bracket.nesting.any fun b => t.isPunct b.opening

def isClosing (t : Token) : Bool :=
  Bracket.nesting.any fun b => t.isPunct b.closing

def closedBy (t c : Token) : Bool :=
  Bracket.nesting.any fun b => t.isPunct b.opening && c.isPunct b.closing

def isBrace (t : Token) : Bool :=
  t.isPunctOf ["\x7b", "\x7d"]

end Token

/--
The brackets that are open behind a token, the last one first, if `stack` are open before it. No
bracket is closed by one of another kind.
-/
def nestStep (stack : List Token) (t : Token) : Option (List Token) :=
  if t.isOpening then
    some (t :: stack)
  else if t.isClosing then
    match stack with
    | [] => none
    | last :: stack => if last.closedBy t then some stack else none
  else
    some stack

def nest? (stack tokens : List Token) : Option (List Token) :=
  tokens.foldlM nestStep stack

def braceStep (stack : List Token) (t : Token) : Option (List Token) :=
  if t.isPunct "\x7b" then
    some (t :: stack)
  else if t.isPunct "\x7d" then
    match stack with
    | [] => none
    | _ :: stack => some stack
  else
    some stack

def braces? (stack tokens : List Token) : Option (List Token) :=
  tokens.foldlM braceStep stack

def Nested (tokens : List Token) : Prop :=
  nest? [] tokens = some []

def Closes (tokens : List Token) : Prop :=
  ∃ stack, nest? stack tokens = some []

def Whole (tokens : List Token) : Prop :=
  braces? [] tokens = some []

def openBraces (tokens : List Token) : List Token :=
  (braces? [] tokens).getD []

instance (tokens : List Token) : Decidable (Nested tokens) :=
  inferInstanceAs (Decidable (nest? [] tokens = some []))

instance (tokens : List Token) : Decidable (Whole tokens) :=
  inferInstanceAs (Decidable (braces? [] tokens = some []))

/-! Brackets as tokens. -/

namespace Token

theorem isPunct_iff {t : Token} {mark : String}
    : t.isPunct mark = true ↔ t.kind = .punct ∧ t.text = mark := by
  simp [isPunct]

theorem isPunctOf_of_isPunct {t : Token} {mark : String} (h : t.isPunct mark = true)
    (marks : List String) : t.isPunctOf marks = marks.contains mark := by
  obtain ⟨hkind, rfl⟩ := isPunct_iff.1 h
  rw [isPunctOf, hkind]
  rfl

theorem isPunct_of_isPunct {t : Token} {mark : String} (h : t.isPunct mark = true) (other : String)
    : t.isPunct other = (mark == other) := by
  obtain ⟨hkind, rfl⟩ := isPunct_iff.1 h
  rw [isPunct, hkind]
  rfl

theorem isIdent_of_isPunct {t : Token} {mark : String} (h : t.isPunct mark = true)
    : t.isIdent = false := by
  rw [isIdent, (isPunct_iff.1 h).1]
  rfl

theorem isWord_of_isPunct {t : Token} {mark : String} (h : t.isPunct mark = true) (word : String)
    : t.isWord word = false := by
  rw [isWord, (isPunct_iff.1 h).1]
  rfl

theorem isPunctOf_of_isIdent {t : Token} (h : t.isIdent = true) (marks : List String)
    : t.isPunctOf marks = false := by
  rw [isIdent, beq_iff_eq] at h
  rw [isPunctOf, h]
  rfl

theorem isPunctOf_mono {t : Token} {marks marks' : List String} (h : t.isPunctOf marks = true)
    (hle : marks ⊆ marks') : t.isPunctOf marks' = true := by
  unfold isPunctOf at *
  rw [Bool.and_eq_true, List.contains_iff_mem] at *
  exact ⟨h.1, hle h.2⟩

theorem isOpening_of_isPunct {t : Token} {b : Bracket} (hb : b ∈ Bracket.nesting)
    (h : t.isPunct b.opening = true) : t.isOpening = true :=
  List.any_eq_true.2 ⟨b, hb, h⟩

theorem isClosing_of_isPunct {t : Token} {b : Bracket} (hb : b ∈ Bracket.nesting)
    (h : t.isPunct b.closing = true) : t.isClosing = true :=
  List.any_eq_true.2 ⟨b, hb, h⟩

theorem not_isOpening_of_isClosing {t : Token} (h : t.isClosing = true)
    : t.isOpening = false := by
  simp only [isClosing, isOpening, Bracket.nesting, Bracket.round, Bracket.square, Bracket.curly,
    List.any_cons, List.any_nil, Bool.or_false, Bool.or_eq_true, isPunct_iff] at h ⊢
  rcases h with ⟨-, h⟩ | ⟨-, h⟩ | ⟨-, h⟩
  · simp [isPunct, h]
  · simp [isPunct, h]
  · simp [isPunct, h]

theorem closedBy_iff {t c : Token} (h : t.closedBy c = true) {b : Bracket}
    (hb : b ∈ Bracket.nesting) : t.isPunct b.opening = true ↔ c.isPunct b.closing = true := by
  simp only [closedBy, Bracket.nesting, Bracket.round, Bracket.square, Bracket.curly,
    List.any_cons, List.any_nil, Bool.or_false, Bool.or_eq_true, Bool.and_eq_true, isPunct_iff] at h
  simp only [Bracket.nesting, Bracket.round, Bracket.square, Bracket.curly, List.mem_cons,
    List.not_mem_nil, or_false] at hb
  rcases h with ⟨⟨ht, ht'⟩, hc, hc'⟩ | ⟨⟨ht, ht'⟩, hc, hc'⟩ | ⟨⟨ht, ht'⟩, hc, hc'⟩ <;>
    rcases hb with rfl | rfl | rfl <;> simp [isPunct, ht, ht', hc, hc']

end Token

/-! Nesting along tokens. -/

theorem nest?_cons (stack : List Token) (t : Token) (rest : List Token)
    : nest? stack (t :: rest) = (nestStep stack t).bind (nest? · rest) :=
  List.foldlM_cons

theorem nest?_append (stack tokens rest : List Token)
    : nest? stack (tokens ++ rest) = (nest? stack tokens).bind (nest? · rest) :=
  List.foldlM_append

theorem braces?_cons (stack : List Token) (t : Token) (rest : List Token)
    : braces? stack (t :: rest) = (braceStep stack t).bind (braces? · rest) :=
  List.foldlM_cons

theorem braces?_append (stack tokens rest : List Token)
    : braces? stack (tokens ++ rest) = (braces? stack tokens).bind (braces? · rest) :=
  List.foldlM_append

theorem nestStep_closing {stack stack' : List Token} {t : Token} (ht : t.isClosing = true)
    (h : nestStep stack t = some stack')
    : ∃ last, last.closedBy t = true ∧ stack = last :: stack' := by
  unfold nestStep at h
  rw [Token.not_isOpening_of_isClosing ht, if_neg Bool.false_ne_true, if_pos ht] at h
  split at h
  · cases h
  · next last stack =>
    split at h
    · next hlast =>
      rw [Option.some.injEq] at h
      exact ⟨last, hlast, by rw [h]⟩
    · cases h

theorem nestStep_other {t : Token} (h : t.isOpening = false) (h' : t.isClosing = false)
    (stack : List Token) : nestStep stack t = some stack := by
  unfold nestStep
  rw [h, h', if_neg Bool.false_ne_true, if_neg Bool.false_ne_true]

theorem braceStep_of_nestStep {stack stack' : List Token} {t : Token}
    (h : nestStep stack t = some stack')
    : braceStep (stack.filter (·.isPunct "\x7b")) t
        =
      some (stack'.filter (·.isPunct "\x7b")) := by
  have hcurly : Bracket.curly ∈ Bracket.nesting := by simp [Bracket.nesting]
  unfold braceStep
  -- Brackets other than braces are filtered out on both sides.
  by_cases hopening : t.isOpening = true
  · unfold nestStep at h
    rw [if_pos hopening, Option.some.injEq] at h
    subst h
    by_cases hbrace : t.isPunct "\x7b" = true
    · rw [if_pos hbrace, List.filter_cons, if_pos hbrace]
    · have hclosing : ¬ t.isPunct "\x7d" = true := by
        intro hclosing
        rw [Token.not_isOpening_of_isClosing (Token.isClosing_of_isPunct hcurly hclosing)]
          at hopening
        cases hopening
      rw [if_neg hbrace, if_neg hclosing, List.filter_cons, if_neg hbrace]
  · have hbrace : ¬ t.isPunct "\x7b" = true := fun hbrace =>
      hopening (Token.isOpening_of_isPunct hcurly hbrace)
    rw [if_neg hbrace]
    by_cases hclosing : t.isClosing = true
    · obtain ⟨last, hlast, rfl⟩ := nestStep_closing hclosing h
      have hpair := Token.closedBy_iff hlast hcurly
      by_cases hcloses : t.isPunct "\x7d" = true
      · have hlast' : last.isPunct "\x7b" = true := hpair.2 hcloses
        rw [if_pos hcloses, List.filter_cons, if_pos hlast']
      · have hlast' : ¬ last.isPunct "\x7b" = true := fun hopens => hcloses (hpair.1 hopens)
        rw [if_neg hcloses, List.filter_cons, if_neg hlast']
    · rw [Bool.not_eq_true] at hopening hclosing
      rw [nestStep_other hopening hclosing, Option.some.injEq] at h
      rw [if_neg, h]
      intro hbrace
      rw [Token.isClosing_of_isPunct hcurly hbrace] at hclosing
      cases hclosing

theorem braces?_of_nest? {stack tokens stack' : List Token} (h : nest? stack tokens = some stack')
    : braces? (stack.filter (·.isPunct "\x7b")) tokens
        =
      some (stack'.filter (·.isPunct "\x7b")) := by
  induction tokens generalizing stack with
  | nil =>
    cases h
    rfl
  | cons t tokens ih =>
    rw [nest?_cons, Option.bind_eq_some_iff] at h
    obtain ⟨next, hstep, hrest⟩ := h
    rw [braces?_cons, braceStep_of_nestStep hstep]
    exact ih hrest

theorem braceStep_frame {stack stack' : List Token} {t : Token}
    (h : braceStep stack t = some stack') (base : List Token)
    : braceStep (stack ++ base) t = some (stack' ++ base) := by
  unfold braceStep at h ⊢
  split
  · next ht =>
    rw [if_pos ht] at h
    cases h
    rfl
  · next ht =>
    rw [if_neg ht] at h
    split
    · next ht' =>
      rw [if_pos ht'] at h
      cases stack with
      | nil => cases h
      | cons last stack =>
        cases h
        rfl
    · next ht' =>
      rw [if_neg ht'] at h
      cases h
      rfl

theorem braces?_frame {stack tokens stack' : List Token} (h : braces? stack tokens = some stack')
    (base : List Token) : braces? (stack ++ base) tokens = some (stack' ++ base) := by
  induction tokens generalizing stack with
  | nil =>
    cases h
    rfl
  | cons t tokens ih =>
    rw [braces?_cons, Option.bind_eq_some_iff] at h
    obtain ⟨next, hstep, hrest⟩ := h
    rw [braces?_cons, braceStep_frame hstep]
    exact ih hrest

theorem braceStep_sublist {stack next : List Token} {t : Token} (h : braceStep stack t = some next)
    : List.Sublist next (t :: stack) := by
  unfold braceStep at h
  split at h
  · cases h
    exact List.Sublist.refl _
  · split at h
    · split at h
      · cases h
      · cases h
        exact ((List.Sublist.refl _).cons _).cons _
    · cases h
      exact (List.Sublist.refl _).cons _

theorem braces?_sublist {stack tokens stack' : List Token} (h : braces? stack tokens = some stack')
    : List.Sublist stack' (tokens.reverse ++ stack) := by
  induction tokens generalizing stack with
  | nil =>
    cases h
    exact List.Sublist.refl _
  | cons t tokens ih =>
    rw [braces?_cons, Option.bind_eq_some_iff] at h
    obtain ⟨next, hstep, hrest⟩ := h
    rw [List.reverse_cons, List.append_assoc]
    exact (ih hrest).trans ((List.Sublist.refl _).append (braceStep_sublist hstep))

theorem Closes.suffix {tokens rest : List Token} (h : Closes tokens) (hrest : rest <:+ tokens)
    : Closes rest := by
  obtain ⟨stack, hstack⟩ := h
  obtain ⟨taken, rfl⟩ := hrest
  rw [nest?_append, Option.bind_eq_some_iff] at hstack
  obtain ⟨next, -, hnext⟩ := hstack
  exact ⟨next, hnext⟩

theorem nestStep_of_closedBy {last t : Token} (ht : t.isClosing = true)
    (h : last.closedBy t = true) (stack : List Token)
    : nestStep (last :: stack) t = some stack := by
  unfold nestStep
  rw [Token.not_isOpening_of_isClosing ht, if_neg Bool.false_ne_true, if_pos ht]
  dsimp only
  rw [if_pos h]

/-! Groups. -/

namespace Bracket

def openCount (b : Bracket) (stack : List Token) : Nat :=
  stack.countP (·.isPunct b.opening)

theorem nestStep_above {b : Bracket} (hb : b ∈ nesting) {above base next : List Token}
    {first t : Token} (hfirst : first.isPunct b.opening = true)
    (ht : ¬ (t.isPunct b.closing = true ∧ b.openCount above = 0))
    (h : nestStep (above ++ first :: base) t = some next)
    : ∃ above', next = above' ++ first :: base
        ∧ nestStep (above ++ [first]) t = some (above' ++ [first])
        ∧ b.openCount above' = if t.isPunct b.opening then b.openCount above + 1
            else if t.isPunct b.closing then b.openCount above - 1 else b.openCount above := by
  by_cases hopening : t.isOpening = true
  · unfold nestStep at h
    rw [if_pos hopening, Option.some.injEq] at h
    refine ⟨t :: above, h.symm, ?_, ?_⟩
    · unfold nestStep
      rw [if_pos hopening]
      rfl
    · have hclosing : ¬ t.isPunct b.closing = true := by
        intro hclosing
        rw [Token.not_isOpening_of_isClosing (Token.isClosing_of_isPunct hb hclosing)] at hopening
        cases hopening
      unfold openCount
      rw [List.countP_cons, if_neg hclosing]
      split
      · rfl
      · rfl
  · have hnot : ¬ t.isPunct b.opening = true := fun h =>
      hopening (Token.isOpening_of_isPunct hb h)
    rw [if_neg hnot]
    by_cases hclosing : t.isClosing = true
    · obtain ⟨last, hlast, hstack⟩ := nestStep_closing hclosing h
      have hpair := Token.closedBy_iff hlast hb
      -- `first` is closed only where nothing stands above it, which `ht` excludes.
      cases above with
      | nil =>
        rw [List.nil_append, List.cons.injEq] at hstack
        rw [← hstack.1] at hpair
        exact absurd ⟨hpair.1 hfirst, rfl⟩ ht
      | cons last' above =>
        rw [List.cons_append, List.cons.injEq] at hstack
        obtain ⟨rfl, rfl⟩ := hstack
        refine ⟨above, rfl, nestStep_of_closedBy hclosing hlast _, ?_⟩
        unfold openCount
        rw [List.countP_cons]
        by_cases hcloses : t.isPunct b.closing = true
        · rw [if_pos hcloses, if_pos (hpair.2 hcloses)]
          rfl
        · rw [if_neg hcloses, if_neg fun hopens => hcloses (hpair.1 hopens)]
          rfl
    · rw [Bool.not_eq_true] at hopening hclosing
      rw [nestStep_other hopening hclosing, Option.some.injEq] at h
      refine ⟨above, h.symm, nestStep_other hopening hclosing _, ?_⟩
      rw [if_neg]
      intro hcloses
      rw [Token.isClosing_of_isPunct hb hcloses] at hclosing
      cases hclosing

theorem close?_cons (b : Bracket) (depth : Nat) (t : Token) (rest : List Token)
    (ht : ¬ (t.isPunct b.closing = true ∧ depth = 0))
    : b.close? depth (t :: rest)
        =
      (b.close? (if t.isPunct b.opening then depth + 1
        else if t.isPunct b.closing then depth - 1 else depth) rest).map
          fun (inner, after) => (t :: inner, after) := by
  rw [close?]
  split
  · rfl
  · split
    · next hclosing => rw [if_neg fun hdepth => ht ⟨hclosing, hdepth⟩]
    · rfl

theorem close?_closing {b : Bracket} (hb : b ∈ nesting) {t : Token}
    (ht : t.isPunct b.closing = true) (rest : List Token)
    : b.close? 0 (t :: rest) = some ([], rest) := by
  have hopening : ¬ t.isPunct b.opening = true := by
    intro hopening
    have hnot := Token.not_isOpening_of_isClosing (Token.isClosing_of_isPunct hb ht)
    rw [Token.isOpening_of_isPunct hb hopening] at hnot
    cases hnot
  rw [close?, if_neg hopening, if_pos ht, if_pos rfl]

theorem close?_nest {b : Bracket} (hb : b ∈ nesting) {depth : Nat} {tokens inner after : List Token}
    (h : b.close? depth tokens = some (inner, after)) {above base stack : List Token}
    {first : Token} (hfirst : first.isPunct b.opening = true) (hdepth : b.openCount above = depth)
    (hnest : nest? (above ++ first :: base) tokens = some stack)
    : ∃ last, inner ++ last :: after = tokens
        ∧ nest? (above ++ [first]) (inner ++ [last]) = some [] := by
  induction tokens generalizing depth inner above with
  | nil => cases h
  | cons t rest ih =>
    rw [nest?_cons, Option.bind_eq_some_iff] at hnest
    obtain ⟨next, hstep, hrest⟩ := hnest
    -- `above` are the brackets that the group has opened so far; of its own kind they are `depth`.
    by_cases ht : t.isPunct b.closing = true ∧ depth = 0
    · obtain ⟨ht, rfl⟩ := ht
      rw [close?_closing hb ht, Option.some.injEq, Prod.mk.injEq] at h
      obtain ⟨rfl, rfl⟩ := h
      have hclosing := Token.isClosing_of_isPunct hb ht
      obtain ⟨last, hlast, hstack⟩ := nestStep_closing hclosing hstep
      have hopens : last.isPunct b.opening = true := (Token.closedBy_iff hlast hb).2 ht
      cases above with
      | nil =>
        rw [List.nil_append, List.cons.injEq] at hstack
        refine ⟨t, rfl, ?_⟩
        rw [List.nil_append, List.nil_append, nest?_cons, hstack.1,
          nestStep_of_closedBy hclosing hlast]
        rfl
      | cons last' above =>
        rw [List.cons_append, List.cons.injEq] at hstack
        rw [openCount, List.countP_cons, hstack.1, if_pos hopens] at hdepth
        omega
    · rw [close?_cons b depth t rest ht] at h
      obtain ⟨⟨inner', after'⟩, hclose, heq⟩ := Option.map_eq_some_iff.1 h
      rw [Prod.mk.injEq] at heq
      obtain ⟨rfl, rfl⟩ := heq
      rw [← hdepth] at ht hclose
      obtain ⟨above', rfl, habove, hcount⟩ := nestStep_above hb hfirst ht hstep
      obtain ⟨last, htokens, hinner⟩ := ih hclose hcount hrest
      refine ⟨last, congrArg (t :: ·) htokens, ?_⟩
      rw [List.cons_append, nest?_cons, habove]
      exact hinner

theorem close?_none_nest {b : Bracket} (hb : b ∈ nesting) {depth : Nat} {tokens : List Token}
    (h : b.close? depth tokens = none) {above base stack : List Token} {first : Token}
    (hfirst : first.isPunct b.opening = true) (hdepth : b.openCount above = depth)
    (hnest : nest? (above ++ first :: base) tokens = some stack)
    : stack ≠ [] := by
  induction tokens generalizing depth above with
  | nil =>
    cases hnest
    simp
  | cons t rest ih =>
    rw [nest?_cons, Option.bind_eq_some_iff] at hnest
    obtain ⟨next, hstep, hrest⟩ := hnest
    by_cases ht : t.isPunct b.closing = true ∧ depth = 0
    · obtain ⟨ht, rfl⟩ := ht
      rw [close?_closing hb ht] at h
      cases h
    · rw [close?_cons b depth t rest ht, Option.map_eq_none_iff] at h
      rw [← hdepth] at ht h
      obtain ⟨above', rfl, -, hcount⟩ := nestStep_above hb hfirst ht hstep
      exact ih h hcount hrest

end Bracket

/-! Whole pairs of braces. -/

def Passes (tokens rest : List Token) : Prop :=
  ∃ taken, taken ++ rest = tokens ∧ Whole taken

theorem braceStep_other {t : Token} (h : t.isBrace = false) (stack : List Token)
    : braceStep stack t = some stack := by
  simp only [Token.isBrace, Token.isPunctOf, List.contains_cons, List.contains_nil, Bool.or_false,
    Bool.and_eq_false_iff, Bool.or_eq_false_iff] at h
  unfold braceStep Token.isPunct
  rcases h with h | ⟨h, h'⟩
  · simp [h]
  · simp [h, h']

namespace Whole

theorem nil : Whole [] := rfl

theorem append {tokens rest : List Token} (h : Whole tokens) (h' : Whole rest)
    : Whole (tokens ++ rest) := by
  unfold Whole at *
  rw [braces?_append, h]
  exact h'

theorem cons {t : Token} (ht : t.isBrace = false) {rest : List Token} (h : Whole rest)
    : Whole (t :: rest) := by
  unfold Whole
  rw [braces?_cons, braceStep_other ht]
  exact h

theorem of_concat {tokens : List Token} {t : Token} (h : Whole (tokens ++ [t]))
    (ht : t.isBrace = false) : Whole tokens := by
  unfold Whole at *
  rw [braces?_append, Option.bind_eq_some_iff] at h
  obtain ⟨stack, hstack, hlast⟩ := h
  rw [braces?_cons, braceStep_other ht] at hlast
  cases hlast
  exact hstack

theorem of_nested {tokens : List Token} (h : Nested tokens) : Whole tokens :=
  braces?_of_nest? h

end Whole

namespace Passes

variable {tokens rest after : List Token}

theorem refl (tokens : List Token) : Passes tokens tokens :=
  ⟨[], rfl, Whole.nil⟩

theorem trans (h : Passes tokens rest) (h' : Passes rest after) : Passes tokens after := by
  obtain ⟨taken, rfl, htaken⟩ := h
  obtain ⟨taken', rfl, htaken'⟩ := h'
  exact ⟨taken ++ taken', List.append_assoc .., htaken.append htaken'⟩

theorem cons {t : Token} (ht : t.isBrace = false) (h : Passes rest after)
    : Passes (t :: rest) after := by
  obtain ⟨taken, rfl, htaken⟩ := h
  exact ⟨t :: taken, rfl, htaken.cons ht⟩

theorem skip {t : Token} (ht : t.isBrace = false) (rest : List Token) : Passes (t :: rest) rest :=
  (refl rest).cons ht

theorem suffix (h : Passes tokens rest) : rest <:+ tokens := by
  obtain ⟨taken, htaken, -⟩ := h
  exact ⟨taken, htaken⟩

end Passes

theorem Bracket.inside_passes {b : Bracket} (hb : b ∈ nesting) {first : Token} {rest : List Token}
    (hfirst : first.isPunct b.opening = true) (h : Closes (first :: rest))
    : Passes (first :: rest) (b.inside rest).2 := by
  obtain ⟨stack, hstack⟩ := h
  have hopens : ∀ base, nestStep base first = some (first :: base) := by
    intro base
    unfold nestStep
    rw [if_pos (Token.isOpening_of_isPunct hb hfirst)]
  rw [nest?_cons, hopens, Option.bind_some, ← List.nil_append (first :: stack)] at hstack
  unfold inside
  cases hclose : b.close? 0 rest with
  | none => exact absurd rfl (close?_none_nest hb hclose hfirst rfl hstack)
  | some group =>
    obtain ⟨last, hrest, hinner⟩ := close?_nest hb hclose hfirst rfl hstack
    refine ⟨first :: (group.1 ++ [last]), ?_, Whole.of_nested ?_⟩
    · rw [← hrest]
      simp
    · unfold Nested
      rw [nest?_cons, hopens]
      exact hinner

theorem Bracket.group?_passes {b : Bracket} (hb : b ∈ nesting) {tokens : List Token}
    (h : Closes tokens) : Passes tokens (b.group? tokens).2 := by
  unfold group?
  split
  · exact Passes.refl []
  · next t rest =>
    split
    · next ht => exact inside_passes hb ht h
    · exact Passes.refl _

theorem Token.isPunctOf_opening (t : Token) : t.isPunctOf ["(", "[", "\x7b"] = t.isOpening := by
  simp only [isPunctOf, isOpening, isPunct, Bracket.nesting, Bracket.round, Bracket.square,
    Bracket.curly, List.contains_cons, List.contains_nil, List.any_cons, List.any_nil,
    Bool.and_or_distrib_left, Bool.or_false]

theorem Token.isPunctOf_closing (t : Token) : t.isPunctOf [")", "]", "\x7d"] = t.isClosing := by
  simp only [isPunctOf, isClosing, isPunct, Bracket.nesting, Bracket.round, Bracket.square,
    Bracket.curly, List.contains_cons, List.contains_nil, List.any_cons, List.any_nil,
    Bool.and_or_distrib_left, Bool.or_false]

theorem splitExpression_nest {tokens : List Token} {above base : List Token}
    (h : nest? (above ++ base) tokens = some [])
    : nest? above (splitExpression above.length tokens).1 = some [] := by
  induction tokens generalizing above with
  | nil =>
    rw [nest?, List.foldlM_nil, Option.pure_def, Option.some.injEq, List.append_eq_nil_iff] at h
    rw [h.1]
    rfl
  | cons t rest ih =>
    rw [nest?_cons, Option.bind_eq_some_iff] at h
    obtain ⟨next, hstep, hrest⟩ := h
    rw [splitExpression, Token.isPunctOf_opening, Token.isPunctOf_closing]
    by_cases hopening : t.isOpening = true
    · have hopens : ∀ stack, nestStep stack t = some (t :: stack) := by
        intro stack
        unfold nestStep
        rw [if_pos hopening]
      rw [hopens, Option.some.injEq] at hstep
      subst hstep
      rw [if_pos hopening]
      dsimp only
      rw [nest?_cons, hopens]
      exact ih hrest
    · rw [if_neg hopening]
      rw [Bool.not_eq_true] at hopening
      -- A bracket that ends the expression closes one of `base`, so it is not a part of it.
      by_cases hends : above = [] ∧ t.isPunctOf [")", "]", "\x7d", ",", ";"] = true
      · obtain ⟨rfl, hends⟩ := hends
        rw [if_pos (by rw [hends]; rfl)]
        rfl
      · have hgoes : ¬ (decide (above.length = 0)
            && t.isPunctOf [")", "]", "\x7d", ",", ";"]) = true := by
          rw [Bool.and_eq_true, decide_eq_true_eq, List.length_eq_zero_iff]
          exact hends
        rw [if_neg hgoes]
        dsimp only
        rw [nest?_cons]
        by_cases hclosing : t.isClosing = true
        · obtain ⟨last, hlast, hstack⟩ := nestStep_closing hclosing hstep
          cases above with
          | nil =>
            rw [← Token.isPunctOf_closing] at hclosing
            exact absurd ⟨rfl, Token.isPunctOf_mono hclosing (by simp)⟩ hends
          | cons last' above =>
            rw [List.cons_append, List.cons.injEq] at hstack
            obtain ⟨rfl, rfl⟩ := hstack
            rw [if_pos hclosing, nestStep_of_closedBy hclosing hlast]
            exact ih hrest
        · rw [Bool.not_eq_true] at hclosing
          rw [nestStep_other hopening hclosing, Option.some.injEq] at hstep
          subst hstep
          rw [hclosing, if_neg Bool.false_ne_true, nestStep_other hopening hclosing]
          exact ih hrest

theorem splitExpression_passes {tokens : List Token} (h : Closes tokens)
    : Passes tokens (splitExpression 0 tokens).2 := by
  obtain ⟨base, hbase⟩ := h
  rw [← List.nil_append base] at hbase
  exact ⟨(splitExpression 0 tokens).1, splitExpression_append 0 tokens,
    Whole.of_nested (splitExpression_nest hbase)⟩

/-! Open braces. -/

theorem openBraces_append {taken : List Token} (h : Whole taken) (before : List Token)
    : openBraces (before ++ taken) = openBraces before := by
  unfold openBraces
  rw [braces?_append]
  cases hbefore : braces? [] before with
  | none => rfl
  | some stack =>
    have hframe := braces?_frame h stack
    rw [List.nil_append] at hframe
    rw [Option.bind_some, hframe]

theorem openBraces_sublist (before : List Token)
    : List.Sublist (openBraces before) before.reverse := by
  unfold openBraces
  cases hbefore : braces? [] before with
  | none => exact List.nil_sublist _
  | some stack =>
    have hstack := braces?_sublist hbefore
    rw [List.append_nil] at hstack
    exact hstack

theorem mem_of_mem_openBraces {before : List Token} {b : Token} (h : b ∈ openBraces before)
    : b ∈ before :=
  List.mem_reverse.1 ((openBraces_sublist before).subset h)

section Nested

variable {before rest : List Token}

theorem braces?_before (h : Nested (before ++ rest))
    : braces? [] before = some (openBraces before) := by
  unfold Nested at h
  rw [nest?_append, Option.bind_eq_some_iff] at h
  obtain ⟨stack, hstack, -⟩ := h
  have hbraces := braces?_of_nest? hstack
  rw [List.filter_nil] at hbraces
  unfold openBraces
  rw [hbraces]
  rfl

theorem braceStep_before {t : Token} (h : Nested (before ++ t :: rest))
    : braceStep (openBraces before) t = some (openBraces (before ++ [t])) := by
  have hafter : Nested ((before ++ [t]) ++ rest) := by
    rw [List.append_assoc]
    exact h
  rw [← braces?_before hafter, braces?_append, braces?_before h, Option.bind_some, braces?_cons]
  cases braceStep (openBraces before) t with
  | none => rfl
  | some stack => rfl

theorem mem_openBraces_concat {t : Token} (h : Nested (before ++ t :: rest)) {b : Token}
    (hb : b ∈ openBraces (before ++ [t])) : b = t ∨ b ∈ openBraces before :=
  List.mem_cons.1 ((braceStep_sublist (braceStep_before h)).subset hb)

theorem openBraces_opening {t : Token} (h : Nested (before ++ t :: rest))
    (ht : t.isPunct "\x7b" = true) : openBraces (before ++ [t]) = t :: openBraces before := by
  have hstep := braceStep_before h
  unfold braceStep at hstep
  rw [if_pos ht, Option.some.injEq] at hstep
  exact hstep.symm

theorem openBraces_closing {t : Token} (h : Nested (before ++ t :: rest))
    (ht : t.isPunct "\x7d" = true)
    : ∃ b, openBraces before = b :: openBraces (before ++ [t]) := by
  have hstep := braceStep_before h
  have hopening : ¬ t.isPunct "\x7b" = true := by
    rw [Token.isPunct_iff] at ht ⊢
    rw [ht.2]
    simp
  unfold braceStep at hstep
  rw [if_neg hopening, if_pos ht] at hstep
  split at hstep
  · cases hstep
  · next b stack hstack =>
    rw [Option.some.injEq] at hstep
    exact ⟨b, by rw [hstack, hstep]⟩

theorem openBraces_append_of_braces? (h : Nested (before ++ rest)) {taken stack : List Token}
    (htaken : braces? [] taken = some stack)
    : openBraces (before ++ taken) = stack ++ openBraces before := by
  have hframe := braces?_frame htaken (openBraces before)
  rw [List.nil_append] at hframe
  unfold openBraces at hframe ⊢
  rw [braces?_append, braces?_before h, Option.bind_some]
  rw [braces?_before h, Option.getD_some] at hframe
  rw [hframe]
  rfl

theorem closes_of_nested (h : Nested (before ++ rest)) : Closes rest :=
  Closes.suffix ⟨[], h⟩ (List.suffix_append before rest)

end Nested

/-! Nesting inside of brackets. -/

theorem nest?_nil (stack : List Token) : nest? stack [] = some stack :=
  rfl

theorem nestStep_opening {t : Token} (h : t.isOpening = true) (stack : List Token)
    : nestStep stack t = some (t :: stack) := by
  unfold nestStep
  rw [if_pos h]

theorem nestStep_frame {stack next : List Token} {t : Token} (h : nestStep stack t = some next)
    (base : List Token) : nestStep (stack ++ base) t = some (next ++ base) := by
  by_cases hopening : t.isOpening = true
  · rw [nestStep_opening hopening, Option.some.injEq] at h
    rw [nestStep_opening hopening, ← h]
    rfl
  · by_cases hclosing : t.isClosing = true
    · obtain ⟨last, hlast, rfl⟩ := nestStep_closing hclosing h
      exact nestStep_of_closedBy hclosing hlast _
    · rw [Bool.not_eq_true] at hopening hclosing
      rw [nestStep_other hopening hclosing, Option.some.injEq] at h
      rw [nestStep_other hopening hclosing, h]

theorem nest?_frame {stack tokens stack' : List Token} (h : nest? stack tokens = some stack')
    (base : List Token) : nest? (stack ++ base) tokens = some (stack' ++ base) := by
  induction tokens generalizing stack with
  | nil =>
    cases h
    rfl
  | cons t tokens ih =>
    rw [nest?_cons, Option.bind_eq_some_iff] at h
    obtain ⟨next, hstep, hrest⟩ := h
    rw [nest?_cons, nestStep_frame hstep]
    exact ih hrest

theorem nest?_split {above base tokens : List Token} {first : Token}
    (h : nest? (above ++ first :: base) tokens = some [])
    : ∃ inner last rest, tokens = inner ++ last :: rest ∧ nest? above inner = some []
        ∧ first.closedBy last = true ∧ last.isClosing = true ∧ nest? base rest = some [] := by
  induction tokens generalizing above with
  | nil =>
    rw [nest?_nil, Option.some.injEq] at h
    exact absurd h (by simp)
  | cons t tokens ih =>
    rw [nest?_cons, Option.bind_eq_some_iff] at h
    obtain ⟨next, hstep, hrest⟩ := h
    have hgoes : ∀ above', nestStep above t = some above' → next = above' ++ first :: base
        → ∃ inner last rest, t :: tokens = inner ++ last :: rest ∧ nest? above inner = some []
          ∧ first.closedBy last = true ∧ last.isClosing = true ∧ nest? base rest = some [] := by
      rintro above' habove rfl
      obtain ⟨inner, last, rest, rfl, hinner, hlast⟩ := ih hrest
      refine ⟨t :: inner, last, rest, rfl, ?_, hlast⟩
      rw [nest?_cons, habove]
      exact hinner
    -- Only a closing bracket with nothing above it closes `first`; any other token goes on.
    by_cases hopening : t.isOpening = true
    · rw [nestStep_opening hopening, Option.some.injEq] at hstep
      exact hgoes (t :: above) (nestStep_opening hopening above) hstep.symm
    · by_cases hclosing : t.isClosing = true
      · obtain ⟨last, hlast, hstack⟩ := nestStep_closing hclosing hstep
        cases above with
        | nil =>
          rw [List.nil_append, List.cons.injEq] at hstack
          obtain ⟨rfl, rfl⟩ := hstack
          exact ⟨[], t, tokens, rfl, rfl, hlast, hclosing, hrest⟩
        | cons last' above =>
          rw [List.cons_append, List.cons.injEq] at hstack
          obtain ⟨rfl, rfl⟩ := hstack
          exact hgoes above (nestStep_of_closedBy hclosing hlast above) rfl
      · rw [Bool.not_eq_true] at hopening hclosing
        rw [nestStep_other hopening hclosing, Option.some.injEq] at hstep
        exact hgoes above (nestStep_other hopening hclosing above) hstep.symm

namespace Nested

theorem split {front rest : List Token} {t : Token} (h : Nested (front ++ t :: rest))
    (ht : t.isOpening = true)
    : ∃ inner last back, rest = inner ++ last :: back ∧ Nested inner ∧ t.closedBy last = true
        ∧ last.isClosing = true := by
  unfold Nested at h
  rw [nest?_append, Option.bind_eq_some_iff] at h
  obtain ⟨stack, -, h⟩ := h
  rw [nest?_cons, nestStep_opening ht, Option.bind_some] at h
  obtain ⟨inner, last, back, rfl, hinner, hlast, hclosing, -⟩ :=
    nest?_split (show nest? ([] ++ t :: stack) rest = some [] from h)
  exact ⟨inner, last, back, rfl, hinner, hlast, hclosing⟩

theorem group {inner : List Token} (h : Nested inner) {t c : Token} (ht : t.isOpening = true)
    (hc : c.isClosing = true) (hpair : t.closedBy c = true) : Nested (t :: (inner ++ [c])) := by
  unfold Nested at h ⊢
  have hframe := nest?_frame h [t]
  rw [List.nil_append] at hframe
  rw [nest?_cons, nestStep_opening ht, Option.bind_some, nest?_append, hframe, Option.bind_some,
    nest?_cons, nestStep_of_closedBy hc hpair]
  rfl

theorem append {tokens rest : List Token} (h : Nested tokens) (h' : Nested rest)
    : Nested (tokens ++ rest) := by
  unfold Nested at *
  rw [nest?_append, h]
  exact h'

theorem cons_other {rest : List Token} (h : Nested rest) {t : Token} (ht : t.isOpening = false)
    (ht' : t.isClosing = false) : Nested (t :: rest) := by
  unfold Nested at h ⊢
  rw [nest?_cons, nestStep_other ht ht']
  exact h

end Nested

namespace Bracket

variable {b : Bracket}

theorem openCount_of_nestStep (hb : b ∈ nesting) {stack next : List Token} {t : Token}
    (h : nestStep stack t = some next)
    : b.openCount next
        =
      if t.isPunct b.opening then b.openCount stack + 1
      else if t.isPunct b.closing then b.openCount stack - 1
      else b.openCount stack := by
  by_cases hopening : t.isOpening = true
  · rw [nestStep_opening hopening, Option.some.injEq] at h
    rw [← h, openCount, List.countP_cons]
    split
    · rfl
    · rw [if_neg]
      · rfl
      · intro hclosing
        rw [Token.not_isOpening_of_isClosing (Token.isClosing_of_isPunct hb hclosing)] at hopening
        cases hopening
  · rw [if_neg fun h => hopening (Token.isOpening_of_isPunct hb h)]
    rw [Bool.not_eq_true] at hopening
    by_cases hclosing : t.isClosing = true
    · obtain ⟨last, hlast, rfl⟩ := nestStep_closing hclosing h
      have hpair := Token.closedBy_iff hlast hb
      rw [openCount, openCount, List.countP_cons]
      by_cases hcloses : t.isPunct b.closing = true
      · rw [if_pos hcloses, if_pos (hpair.2 hcloses), Nat.add_sub_cancel]
      · rw [if_neg hcloses, if_neg fun hopens => hcloses (hpair.1 hopens), Nat.add_zero]
    · rw [Bool.not_eq_true] at hclosing
      rw [nestStep_other hopening hclosing, Option.some.injEq] at h
      rw [if_neg, h]
      intro hcloses
      rw [Token.isClosing_of_isPunct hb hcloses] at hclosing
      cases hclosing

theorem close?_of_nest? (hb : b ∈ nesting) {stack tokens : List Token}
    (h : nest? stack tokens = some []) {c : Token} (hc : c.isPunct b.closing = true)
    (rest : List Token)
    : b.close? (b.openCount stack) (tokens ++ c :: rest) = some (tokens, rest) := by
  induction tokens generalizing stack with
  | nil =>
    rw [nest?_nil, Option.some.injEq] at h
    rw [h]
    exact close?_closing hb hc rest
  | cons t tokens ih =>
    rw [nest?_cons, Option.bind_eq_some_iff] at h
    obtain ⟨next, hstep, hrest⟩ := h
    -- The token closes a group only if the stack holds a bracket of its kind.
    have hdepth : ¬ (t.isPunct b.closing = true ∧ b.openCount stack = 0) := by
      rintro ⟨ht, hcount⟩
      obtain ⟨last, hlast, rfl⟩ := nestStep_closing (Token.isClosing_of_isPunct hb ht) hstep
      rw [openCount, List.countP_cons, if_pos ((Token.closedBy_iff hlast hb).2 ht)] at hcount
      omega
    rw [List.cons_append, close?_cons b _ t _ hdepth, ← openCount_of_nestStep hb hstep,
      ih hrest]
    rfl

theorem close?_of_nested (hb : b ∈ nesting) {inner : List Token} (h : Nested inner) {c : Token}
    (hc : c.isPunct b.closing = true) (rest : List Token)
    : b.close? 0 (inner ++ c :: rest) = some (inner, rest) :=
  close?_of_nest? hb h hc rest

theorem group?_of_nested (hb : b ∈ nesting) {t c : Token} {inner : List Token}
    (ht : t.isPunct b.opening = true) (h : Nested inner) (hc : c.isPunct b.closing = true)
    (rest : List Token)
    : b.group? (t :: (inner ++ c :: rest)) = (some inner, rest) := by
  rw [group?, if_pos ht, inside, close?_of_nested hb h hc]
  rfl

end Bracket

end DeprecatedUse.Java
