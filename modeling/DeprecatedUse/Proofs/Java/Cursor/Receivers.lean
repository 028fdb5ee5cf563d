import DeprecatedUse.Proofs.Java.Cursor.Locals

/-!
This module contains the reading of a body backwards from a position: the receivers of uses, the
creations of objects, and the parameters of lambdas. A body starts at a position `start`, before
which nothing of it is read. Where `before` is what stands in the body before a position, nearest
first, the runs end without a fault and agree with the search of token lists.
-/

namespace DeprecatedUse.Java.Cursor

section Definitions

variable (tokens : List Token) (start : Nat)

def previous (pos : Nat) : Run (Option Token) :=
  if start < pos then do
    let last ← sub pos 1
    let t ← get tokens last
    pure (some t)
  else
    pure none

/--
Extend the names of a dotted chain that starts at `pos` to the left: the names in order, and where
they start.
-/
def chain (names : List Token) (pos : Nat) : Run (List Token × Nat) :=
  if start + 2 ≤ pos then do
    let last ← sub pos 1
    let dot ← get tokens last
    if dot.isPunct "." then do
      let first ← sub pos 2
      let name ← get tokens first
      if name.isIdent then (by apply chain; exacts [name :: names, first]) else pure (names, pos)
    else
      pure (names, pos)
  else
    pure (names, pos)
partial_fixpoint

def beforeGroup (b : Bracket) (pos : Nat) : Run (Option Nat) := do
  let opening ← matchingBackward tokens b pos
  match opening.filter (start < ·) with
  | none => pure none
  | some opening => do
    let last ← sub opening 1
    pure (some last)

def beforeArguments (pos : Nat) : Run (Option Nat) := do
  let t ← get tokens pos
  if t.isPunct ">" then beforeGroup tokens start .angle pos else pure (some pos)

def newBefore (pos : Nat) : Run (Option Nat) := do
  let t ← get tokens pos
  if t.isIdent then do
    let (_, first) ← chain tokens start [t] pos
    match ← previous tokens start first with
    | none => pure none
    | some word =>
      if word.isWord "new" then do
        let new ← sub first 1
        pure (some new)
      else
        pure none
  else
    pure none

def creation (close : Nat) : Run (Option Nat) :=
  if close < start then
    pure none
  else do
    let t ← get tokens close
    if t.isPunct ")" then do
      match ← beforeGroup tokens start .round close with
      | none => pure none
      | some last => do
        match ← beforeArguments tokens start last with
        | none => pure none
        | some last => newBefore tokens start last
    else
      pure none

def writtenName (pos : Nat) : Run String := do
  let following ← slice tokens pos tokens.length
  let written := following.takeWhile fun t => t.isIdent || t.isPunct "."
  pure (String.join (written.map Token.text))

def receiver (pos : Nat) : Run (Option (Receiver × Position)) := do
  let t ← get tokens pos
  if t.isIdent then do
    let (names, first) ← chain tokens start [t] pos
    let before ← previous tokens start first
    if before.any (·.isWord "new") then
      pure none
    else if before.any (·.isPunctOf [".", "::"]) then
      pure (some (.other, t.span.start))
    else do
      let name ← get tokens first
      pure (some (Access.receiverOfNames (names.map Token.text), name.span.start))
  else do
    match ← creation tokens start pos with
    | none => pure (some (.other, t.span.start))
    | some new => do
      let type ← writtenName tokens (new + 1)
      let word ← get tokens new
      pure (some (.creation type, word.span.start))

def labelStart (pos : Nat) : Run Nat :=
  if start < pos then do
    let last ← sub pos 1
    let t ← get tokens last
    if Access.isLabelPart t then (by apply labelStart; exact last) else pure pos
  else
    pure pos
partial_fixpoint

def endsPart (inside : List Token) (depth pos : Nat) : Run Bool :=
  if pos + 1 = inside.length then
    pure true
  else if depth = 0 then do
    let next ← get inside (pos + 1)
    pure (next.isPunct ",")
  else
    pure false

def lambdaNames (inside : List Token) (typed : List Parameter) (depth pos : Nat)
    (found : List (String × Option TypeName)) : Run (List (String × Option TypeName)) :=
  match inside[pos]? with
  | none => pure found
  | some t => do
    let depth :=
      if t.isPunctOf ["<", "("] then depth + 1
      else if t.isPunctOf [">", ")"] then depth - 1
      else depth
    let last ← endsPart inside depth pos
    let bound :=
      if last && depth = 0 && t.isIdent then
        [(t.text, (typed.find? fun p => p.1 == t.text && p.2.name != "var").map (·.2))]
      else
        []
    by apply lambdaNames; exacts [inside, typed, depth, pos + 1, found ++ bound]
partial_fixpoint

def lambdaParameters (arrow : Nat) : Run (List (String × Option TypeName)) := do
  let last ← sub arrow 1
  let t ← get tokens last
  if t.isIdent then do
    let first ← labelStart tokens start last
    let before ← previous tokens start first
    pure (if t.text == "default" || before.any (·.isWord "case") then [] else [(t.text, none)])
  else if t.isPunct ")" then do
    let opening ← matchingBackward tokens .round last
    match opening.filter (start ≤ ·) with
    | none => pure []
    | some opening => do
      let inside ← slice tokens (opening + 1) last
      let typed ← parameters inside
      lambdaNames inside typed 0 0 []
  else
    pure []

def statementStart (pos : Nat) : Run Bool :=
  if pos = start then
    pure true
  else do
    let last ← sub pos 1
    let t ← get tokens last
    pure (t.isPunctOf [";", "\x7b", "\x7d", "(", ",", ":"])

end Definitions

/-! What stands before a position. -/

/--
Before the position stand the tokens `before` of the body, nearest first, behind as many tokens as
stand before the body.
-/
structure Behind (tokens : List Token) (start pos : Nat) (before : List Token) : Prop where
  le : pos ≤ tokens.length
  outside : ∃ outside, (tokens.take pos).reverse = before ++ outside ∧ outside.length = start

namespace Behind

variable {tokens before : List Token} {start pos : Nat} {t : Token}

theorem pos_eq (h : Behind tokens start pos before) : pos = start + before.length := by
  obtain ⟨outside, heq, hstart⟩ := h.outside
  have hlength := congrArg List.length heq
  have hle := h.le
  rw [List.length_reverse, List.length_take, List.length_append] at hlength
  omega

theorem pred (h : Behind tokens start pos (t :: before))
    : ∃ last, pos = last + 1 ∧ tokens[last]? = some t ∧ Behind tokens start last before := by
  have hpos := h.pos_eq
  obtain ⟨outside, heq, hstart⟩ := h.outside
  obtain ⟨last, rfl⟩ : ∃ last, pos = last + 1 := ⟨start + before.length, by
    rw [hpos, List.length_cons, Nat.add_assoc]⟩
  have hlt : last < tokens.length := h.le
  rw [List.take_succ_eq_append_getElem hlt, List.reverse_append, List.reverse_singleton,
    List.singleton_append, List.cons_append, List.cons.injEq] at heq
  refine ⟨last, rfl, ?_, Nat.le_of_lt hlt, outside, heq.2, hstart⟩
  rw [List.getElem?_eq_getElem hlt, heq.1]

theorem succ (h : Behind tokens start pos before) (ht : tokens[pos]? = some t)
    : Behind tokens start (pos + 1) (t :: before) := by
  obtain ⟨outside, heq, hstart⟩ := h.outside
  obtain ⟨hlt, ht⟩ := List.getElem?_eq_some_iff.1 ht
  refine ⟨hlt, outside, ?_, hstart⟩
  rw [List.take_succ_eq_append_getElem hlt, List.reverse_append, List.reverse_singleton,
    List.singleton_append, List.cons_append, heq, ht]

theorem of_suffix (h : Behind tokens start pos before) {inside after : List Token}
    (hbefore : before = inside ++ after) : Behind tokens start (start + after.length) after := by
  induction inside generalizing before pos with
  | nil =>
    obtain rfl : before = after := hbefore
    rw [← h.pos_eq]
    exact h
  | cons t inside ih =>
    subst hbefore
    obtain ⟨last, -, -, hlast⟩ := h.pred
    exact ih hlast rfl

theorem slice {inside after : List Token} (h : Behind tokens start pos (inside ++ t :: after))
    : slice tokens (start + after.length + 1) pos = pure inside.reverse := by
  have hpos := h.pos_eq
  obtain ⟨outside, heq, hstart⟩ := h.outside
  have htake : tokens.take pos = (outside.reverse ++ after.reverse ++ [t]) ++ inside.reverse := by
    rw [← List.reverse_reverse (tokens.take pos), heq]
    simp
  have hlength : start + after.length + 1 = (outside.reverse ++ after.reverse ++ [t]).length := by
    simp [hstart, Nat.add_assoc]
  rw [List.length_append, List.length_cons] at hpos
  rw [Cursor.slice, if_pos ⟨by omega, h.le⟩, htake, hlength, List.drop_left]

end Behind

variable {tokens before : List Token} {start pos : Nat}

theorem previous_eq (h : Behind tokens start pos before)
    : previous tokens start pos = pure before.head? := by
  have hpos := h.pos_eq
  rw [previous]
  cases before with
  | nil => rw [if_neg (by rw [hpos, List.length_nil]; omega), List.head?_nil]
  | cons t before =>
    obtain ⟨last, rfl, ht, -⟩ := h.pred
    rw [if_pos (by rw [hpos, List.length_cons]; omega), sub_eq (by omega), pure_bind,
      Nat.add_sub_cancel, get_eq ht, pure_bind, List.head?_cons]

/-! Names with dots. -/

structure Spelled (tokens : List Token) (pos : Nat) (names after : List Token) : Prop where
  first : tokens[pos]? = names.head?
  nonempty : names ≠ []
  written : ∃ part, tokens.drop pos = part ++ after
    ∧ (∀ t ∈ part, (t.isIdent || t.isPunct ".") = true)
    ∧ String.join (part.map Token.text) = Access.dotted names

theorem Spelled.singleton {name : Token} {after : List Token}
    (h : tokens.drop pos = name :: after) (hname : name.isIdent = true)
    : Spelled tokens pos [name] after := by
  refine ⟨getElem?_of_drop_cons h, List.cons_ne_nil _ _, [name], h, ?_, ?_⟩
  · intro t ht
    rw [List.mem_singleton] at ht
    rw [ht, hname, Bool.true_or]
  · simp [Access.dotted, String.join]

theorem Spelled.cons {name dot : Token} {names after : List Token}
    (h : Spelled tokens (pos + 2) names after) (hname : tokens[pos]? = some name)
    (hident : name.isIdent = true) (hdot : tokens[pos + 1]? = some dot)
    (hpunct : dot.isPunct "." = true) : Spelled tokens pos (name :: names) after := by
  obtain ⟨part, hpart, hall, htext⟩ := h.written
  obtain ⟨hlt, hname'⟩ := List.getElem?_eq_some_iff.1 hname
  obtain ⟨hlt', hdot'⟩ := List.getElem?_eq_some_iff.1 hdot
  refine ⟨hname, List.cons_ne_nil _ _, name :: dot :: part, ?_, ?_, ?_⟩
  · rw [List.drop_eq_getElem_cons hlt, List.drop_eq_getElem_cons hlt', hpart, hname', hdot',
      List.cons_append, List.cons_append]
  · intro t ht
    rw [List.mem_cons, List.mem_cons] at ht
    rcases ht with rfl | rfl | ht
    · rw [hident, Bool.true_or]
    · rw [hpunct, Bool.or_true]
    · exact hall t ht
  · have hmark : dot.text = "." := by
      rw [Token.isPunct, Bool.and_eq_true] at hpunct
      exact beq_iff_eq.1 hpunct.2
    cases names with
    | nil => exact absurd rfl h.nonempty
    | cons next names =>
      rw [List.map_cons, List.map_cons, String.join_cons, String.join_cons, htext, hmark]
      simp only [Access.dotted, List.map_cons, String.intercalate_cons_cons, String.append_assoc]

theorem chain_eq {names after : List Token} (h : Behind tokens start pos before)
    (hnames : Spelled tokens pos names after)
    : ∃ first, chain tokens start names pos = pure ((Access.chain names before).1, first)
        ∧ Behind tokens start first (Access.chain names before).2
        ∧ Spelled tokens first (Access.chain names before).1 after := by
  have hpos := h.pos_eq
  -- The loop asks whether two positions are left, the search whether two tokens are.
  fun_induction Access.chain names before generalizing pos with
  | case1 names dot name before hmark ih =>
    obtain ⟨last, rfl, hdot, hlast⟩ := h.pred
    obtain ⟨first, rfl, hname, hfirst⟩ := hlast.pred
    rw [Bool.and_eq_true] at hmark
    rw [List.length_cons, List.length_cons] at hpos
    rw [chain, if_pos (by omega), sub_eq (by omega), pure_bind, Nat.add_sub_cancel, get_eq hdot,
      pure_bind, if_pos hmark.1, sub_eq (by omega), pure_bind, Nat.add_sub_cancel (m := 2),
      get_eq hname, pure_bind, if_pos hmark.2]
    exact ih hfirst (hnames.cons hname hmark.2 hdot hmark.1) hfirst.pos_eq
  | case2 names dot name before hmark =>
    obtain ⟨last, rfl, hdot, hlast⟩ := h.pred
    obtain ⟨first, rfl, hname, hfirst⟩ := hlast.pred
    rw [Bool.and_eq_true] at hmark
    rw [List.length_cons, List.length_cons] at hpos
    refine ⟨_, ?_, h, hnames⟩
    rw [chain, if_pos (by omega), sub_eq (by omega), pure_bind, Nat.add_sub_cancel, get_eq hdot,
      pure_bind]
    split
    · next hpunct =>
      rw [sub_eq (by omega), pure_bind, Nat.add_sub_cancel (m := 2), get_eq hname, pure_bind, if_neg]
      exact fun hident => hmark ⟨hpunct, hident⟩
    · rfl
  | case3 names before hshort =>
    refine ⟨pos, ?_, h, hnames⟩
    rw [chain, if_neg]
    cases before with
    | nil =>
      rw [List.length_nil] at hpos
      omega
    | cons dot before =>
      cases before with
      | nil =>
        rw [List.length_singleton] at hpos
        omega
      | cons name before => exact absurd rfl (hshort dot name before)

/-! Creations of objects. -/

/--
The run gives the position of the first of the tokens `before`, if there is one. Behind it stands no
part of a dotted name.
-/
def Finds (tokens : List Token) (start : Nat) (run : Run (Option Nat)) : List Token → Prop
  | [] => run = pure none
  | t :: before => ∃ last next, run = pure (some last) ∧ tokens[last]? = some t
      ∧ Behind tokens start last before ∧ tokens[last + 1]? = some next
      ∧ (next.isIdent || next.isPunct ".") = false

theorem beforeGroup_eq {b : Bracket} {t : Token} (h : Behind tokens start pos before)
    (hpos : tokens[pos]? = some t) (ht : t.isPunct b.closing = true) (hb : b.opening ≠ ".")
    : Finds tokens start (beforeGroup tokens start b pos)
        ((b.flip.close? 0 before).elim [] (·.2)) := by
  obtain ⟨outside, houtside, hstart⟩ := h.outside
  obtain ⟨opening, hrun, hfound⟩ := matchingBackward_eq hpos ht houtside
  rw [hstart] at hfound
  have hstrict : opening.filter (start < ·)
      = (((b.flip.close? 0 before).map fun group => start + group.2.length)).filter (start < ·) := by
    rw [← hfound, Option.filter_filter]
    congr 1
    funext place
    rw [Bool.eq_iff_iff, Bool.and_eq_true, decide_eq_true_eq, decide_eq_true_eq]
    omega
  rw [beforeGroup, hrun, pure_bind, hstrict]
  cases hclose : b.flip.close? 0 before with
  | none => rfl
  | some group =>
    obtain ⟨inside, after⟩ := group
    obtain ⟨c, hc, hbefore⟩ := Bracket.close?_append hclose
    rw [Option.map_some, Option.elim_some]
    cases after with
    | nil =>
      rw [Option.filter_some_neg (by simp)]
      rfl
    | cons name after =>
      -- The opening bracket stands behind the name.
      obtain ⟨place, hplace, hbracket, hplace'⟩ := (h.of_suffix hbefore.symm).pred
      obtain ⟨last, rfl, hname, hlast⟩ := hplace'.pred
      rw [List.length_cons, ← Nat.add_assoc, Nat.add_right_cancel_iff] at hplace
      refine ⟨last, c, ?_, hname, hlast, hbracket, ?_⟩
      · rw [Option.filter_some_pos (by simp)]
        dsimp only
        rw [hplace, sub_eq (by omega), pure_bind, Nat.add_sub_cancel]
      · rw [Token.isPunct, Bool.and_eq_true, beq_iff_eq] at hc
        rw [Token.isIdent, Token.isPunct, hc.1, beq_iff_eq.1 hc.2]
        exact beq_false_of_ne hb

theorem beforeArguments_eq {t next : Token} (hpos : tokens[pos]? = some t)
    (h : Behind tokens start pos before) (hnext : tokens[pos + 1]? = some next)
    (hname : (next.isIdent || next.isPunct ".") = false)
    : Finds tokens start (beforeArguments tokens start pos)
        (Access.beforeArguments (t :: before)) := by
  rw [beforeArguments, get_eq hpos, pure_bind, Access.beforeArguments]
  split
  · next hangle =>
    have hgroup := beforeGroup_eq (b := .angle) h hpos hangle (by decide)
    cases hclose : Bracket.angle.flip.close? 0 before with
    | none =>
      rw [hclose] at hgroup
      exact hgroup
    | some group =>
      rw [hclose] at hgroup
      exact hgroup
  · exact ⟨pos, next, rfl, hpos, h, hnext, hname⟩

def Creates (tokens : List Token) (run : Run (Option Nat)) : Option (Token × String) → Prop
  | none => run = pure none
  | some (word, type) => ∃ new, run = pure (some new) ∧ tokens[new]? = some word
      ∧ writtenName tokens (new + 1) = pure type

theorem Spelled.writtenName {names after : List Token} {next : Token}
    (h : Spelled tokens pos names (next :: after))
    (hnext : (next.isIdent || next.isPunct ".") = false)
    : writtenName tokens pos = pure (Access.dotted names) := by
  obtain ⟨part, hpart, hall, htext⟩ := h.written
  have hlt : pos ≤ tokens.length := by
    have hlength := congrArg List.length hpart
    rw [List.length_drop, List.length_append, List.length_cons] at hlength
    omega
  have htake : (tokens.drop pos).takeWhile (fun t => t.isIdent || t.isPunct ".") = part := by
    rw [hpart, List.takeWhile_append_of_pos hall, List.takeWhile_cons_of_neg (by simp [hnext]),
      List.append_nil]
  rw [Cursor.writtenName, slice, if_pos ⟨hlt, Nat.le_refl _⟩, List.take_length, pure_bind]
  dsimp only
  rw [htake, htext]

theorem newBefore_eq {t next : Token} (hpos : tokens[pos]? = some t)
    (h : Behind tokens start pos before) (hnext : tokens[pos + 1]? = some next)
    (hname : (next.isIdent || next.isPunct ".") = false)
    : Creates tokens (newBefore tokens start pos)
        (if t.isIdent then
          match Access.chain [t] before with
          | (_, []) => none
          | (names, new :: _) => if new.isWord "new" then some (new, Access.dotted names) else none
        else
          none) := by
  rw [newBefore, get_eq hpos, pure_bind]
  split
  · next hident =>
    obtain ⟨hlt, ht⟩ := List.getElem?_eq_some_iff.1 hpos
    obtain ⟨hlt', hnext'⟩ := List.getElem?_eq_some_iff.1 hnext
    have hdrop : tokens.drop pos = t :: next :: tokens.drop (pos + 1 + 1) := by
      rw [List.drop_eq_getElem_cons hlt, List.drop_eq_getElem_cons hlt', ht, hnext']
    obtain ⟨first, hchain, hfirst, hspelled⟩ := chain_eq h (.singleton hdrop hident)
    rw [hchain, pure_bind]
    dsimp only
    rw [previous_eq hfirst, pure_bind]
    cases hrest : Access.chain [t] before with
    | mk names before' =>
      rw [hrest] at hfirst hspelled
      cases before' with
      | nil => rfl
      | cons word before' =>
        obtain ⟨new, rfl, hword, -⟩ := hfirst.pred
        dsimp only [List.head?_cons]
        split
        · rw [sub_eq (by omega), pure_bind, Nat.add_sub_cancel]
          exact ⟨new, rfl, hword, hspelled.writtenName hname⟩
        · rfl
  · rfl

theorem creation_eq {t : Token} (hpos : tokens[pos]? = some t) (h : Behind tokens start pos before)
    : Creates tokens (creation tokens start pos) (Access.creation? (t :: before)) := by
  have hle : ¬ pos < start := by
    have := h.pos_eq
    omega
  rw [creation, if_neg hle, get_eq hpos, pure_bind, Access.creation?]
  split
  · next hround =>
    -- Parentheses, type arguments, the names and the word before them: each may be missing.
    have hgroup := beforeGroup_eq (b := .round) h hpos hround (by decide)
    cases hclose : Bracket.round.flip.close? 0 before with
    | none =>
      rw [hclose] at hgroup
      rw [show beforeGroup _ _ _ _ = _ from hgroup, pure_bind]
      rfl
    | some group =>
      obtain ⟨inside, after⟩ := group
      rw [hclose, Option.elim_some] at hgroup
      dsimp only at hgroup ⊢
      cases after with
      | nil =>
        rw [show beforeGroup _ _ _ _ = _ from hgroup, pure_bind]
        rfl
      | cons name after =>
        obtain ⟨last, next, hrun, hlast, hbehind, hnext, hname⟩ := hgroup
        have harguments := beforeArguments_eq hlast hbehind hnext hname
        rw [hrun, pure_bind]
        dsimp only
        cases hafter : Access.beforeArguments (name :: after) with
        | nil =>
          rw [hafter] at harguments
          rw [show beforeArguments _ _ _ = _ from harguments, pure_bind]
          rfl
        | cons name after =>
          rw [hafter] at harguments
          obtain ⟨last, next, hrun, hlast, hbehind, hnext, hname⟩ := harguments
          rw [hrun, pure_bind]
          exact newBefore_eq hlast hbehind hnext hname
  · rfl

theorem any_head? (p : Token → Bool) (tokens : List Token)
    : tokens.head?.any p = Access.starts p tokens := by
  cases tokens <;> rfl

theorem receiver_eq {t : Token} (hpos : tokens[pos]? = some t) (h : Behind tokens start pos before)
    : receiver tokens start pos = pure (Access.receiver? (t :: before)) := by
  rw [receiver, get_eq hpos, pure_bind, Access.receiver?]
  split
  · next hident =>
    obtain ⟨hlt, ht⟩ := List.getElem?_eq_some_iff.1 hpos
    have hdrop : tokens.drop pos = t :: tokens.drop (pos + 1) := by
      rw [List.drop_eq_getElem_cons hlt, ht]
    obtain ⟨first, hchain, hfirst, hspelled⟩ := chain_eq h (.singleton hdrop hident)
    rw [hchain, pure_bind]
    dsimp only
    rw [previous_eq hfirst, pure_bind, any_head?, any_head?]
    cases hrest : Access.chain [t] before with
    | mk names before' =>
      rw [hrest] at hspelled
      dsimp only at hspelled ⊢
      split
      · rfl
      · split
        · rfl
        · cases names with
          | nil => exact absurd rfl hspelled.nonempty
          | cons name names => rw [get_eq hspelled.first, pure_bind, List.headD_cons]
  · have hcreation := creation_eq hpos h
    cases hfound : Access.creation? (t :: before) with
    | none =>
      rw [hfound] at hcreation
      rw [show creation _ _ _ = _ from hcreation, pure_bind]
    | some found =>
      obtain ⟨word, type⟩ := found
      rw [hfound] at hcreation
      obtain ⟨new, hrun, hword, htype⟩ := hcreation
      rw [hrun, pure_bind]
      dsimp only
      rw [htype, pure_bind, get_eq hword, pure_bind]

/-! Lambdas and statements. -/

theorem labelStart_eq (h : Behind tokens start pos before)
    : ∃ first, labelStart tokens start pos = pure first
        ∧ Behind tokens start first (before.dropWhile Access.isLabelPart) := by
  have hpos := h.pos_eq
  induction before generalizing pos with
  | nil =>
    refine ⟨pos, ?_, h⟩
    rw [labelStart, if_neg (by rw [hpos, List.length_nil]; omega)]
  | cons t before ih =>
    obtain ⟨last, rfl, ht, hlast⟩ := h.pred
    rw [labelStart, if_pos (by rw [hpos, List.length_cons]; omega), sub_eq (by omega), pure_bind,
      Nat.add_sub_cancel, get_eq ht, pure_bind, List.dropWhile_cons]
    split
    · exact ih hlast hlast.pos_eq
    · exact ⟨last + 1, rfl, h⟩

theorem endsPart_eq {inside rest : List Token} {t : Token} (h : inside.drop pos = t :: rest)
    : endsPart inside 0 pos = pure (rest.isEmpty || Access.starts (·.isPunct ",") rest) := by
  have hlength := congrArg List.length h
  have hlt := lt_length h
  rw [List.length_drop, List.length_cons] at hlength
  rw [endsPart]
  cases rest with
  | nil =>
    rw [List.length_nil] at hlength
    rw [if_pos (by omega)]
    rfl
  | cons next rest =>
    rw [List.length_cons] at hlength
    rw [if_neg (by omega), if_pos rfl, get_eq (getElem?_of_drop_cons (drop_succ h)), pure_bind]
    rfl

theorem lambdaNames_eq {inside rest : List Token} (typed : List Parameter) (depth : Nat)
    (found : List (String × Option TypeName)) (h : inside.drop pos = rest)
    : lambdaNames inside typed depth pos found
        =
      pure (found ++ Access.lambdaNames typed depth rest) := by
  induction rest generalizing depth pos found with
  | nil => rw [lambdaNames, getElem?_of_drop_nil h, Access.lambdaNames, List.append_nil]
  | cons t rest ih =>
    rw [lambdaNames, getElem?_of_drop_cons h, Access.lambdaNames]
    dsimp only
    generalize (if t.isPunctOf ["<", "("] then depth + 1
      else if t.isPunctOf [">", ")"] then depth - 1 else depth) = depth
    obtain ⟨last, hlast, hends⟩ : ∃ last, endsPart inside depth pos = pure last
        ∧ (last && depth = 0 && t.isIdent)
          = (depth = 0 && t.isIdent && (rest.isEmpty || Access.starts (·.isPunct ",") rest)) := by
      cases depth with
      | zero =>
        refine ⟨_, endsPart_eq h, ?_⟩
        rw [decide_eq_true rfl, Bool.and_true, Bool.true_and, Bool.and_comm]
      | succ depth =>
        refine ⟨decide (pos + 1 = inside.length), ?_, ?_⟩
        · rw [endsPart, if_neg (Nat.succ_ne_zero _)]
          split
          · next heq => rw [decide_eq_true heq]
          · next hne => rw [decide_eq_false hne]
        · rw [decide_eq_false (Nat.succ_ne_zero _), Bool.and_false, Bool.false_and, Bool.false_and]
    rw [hlast, pure_bind, hends, ih _ _ (drop_succ h), List.append_assoc]

theorem lambdaParameters_eq {t : Token} (h : Behind tokens start pos (t :: before))
    : lambdaParameters tokens start pos = pure (Access.lambdaParameters (t :: before)) := by
  obtain ⟨last, rfl, ht, hlast⟩ := h.pred
  rw [lambdaParameters, sub_eq (by omega), pure_bind, Nat.add_sub_cancel, get_eq ht, pure_bind,
    Access.lambdaParameters]
  split
  · obtain ⟨first, hlabels, hfirst⟩ := labelStart_eq hlast
    rw [hlabels, pure_bind, previous_eq hfirst, pure_bind, any_head?]
  · split
    · next hround =>
      obtain ⟨outside, houtside, hstart⟩ := hlast.outside
      obtain ⟨opening, hrun, hfound⟩ := matchingBackward_eq (b := .round) ht hround houtside
      rw [hstart] at hfound
      rw [hrun, pure_bind, hfound]
      cases hclose : Bracket.round.flip.close? 0 before with
      | none => rfl
      | some group =>
        obtain ⟨inside, after⟩ := group
        obtain ⟨c, -, rfl⟩ := Bracket.close?_append hclose
        dsimp only [Option.map_some]
        rw [hlast.slice, pure_bind, parameters_eq, pure_bind, lambdaNames_eq _ _ _ List.drop_zero,
          List.nil_append]
    · rfl

theorem statementStart_eq (h : Behind tokens start pos before)
    : statementStart tokens start pos = pure (Access.isStatementStart before) := by
  have hpos := h.pos_eq
  rw [statementStart]
  cases before with
  | nil =>
    rw [if_pos (by rw [hpos, List.length_nil, Nat.add_zero])]
    rfl
  | cons t before =>
    obtain ⟨last, rfl, ht, -⟩ := h.pred
    rw [if_neg (by rw [hpos, List.length_cons]; omega), sub_eq (by omega), pure_bind,
      Nat.add_sub_cancel, get_eq ht, pure_bind]
    rfl

end DeprecatedUse.Java.Cursor
