import DeprecatedUse.Proofs.Java.Commented.Backwards
import DeprecatedUse.Proofs.Java.Cursor.Accesses
import Mathlib

/-!
This module contains the search of bodies for uses of members where a documentation comment stands
in the body, behind the end of a statement and in front of one that declares no local variable. The
uses that are found are those of the body without the comment.
-/

namespace DeprecatedUse.Java.Access

variable {d : Token}

/-! Reading forwards up to the end of the statement. -/

theorem splitDotted_fenced {fence : List Token} (h : Fenced fence) (tokens : List Token)
    : splitDotted (tokens ++ fence)
        =
      ((splitDotted tokens).1, (splitDotted tokens).2 ++ fence) := by
  have hident := h.starts_isIdent
  have hdot := h.starts_isPunct "." (by decide)
  -- The fence is seen only where fewer than two tokens are left, and it holds no part of a name.
  fun_induction splitDotted tokens with
  | case1 dot name rest hmark taken after hsplit ih =>
    rw [hsplit] at ih
    rw [List.cons_append, List.cons_append, splitDotted, if_pos hmark, ih]
  | case2 dot name rest hmark =>
    rw [List.cons_append, List.cons_append, splitDotted, if_neg hmark]
  | case3 tokens hshort =>
    cases tokens with
    | nil =>
      cases fence with
      | nil => rfl
      | cons first fence =>
        cases fence with
        | nil => rfl
        | cons second fence =>
          rw [Access.starts] at hdot
          rw [List.nil_append, splitDotted, hdot]
          rfl
    | cons dot tokens =>
      cases tokens with
      | nil =>
        cases fence with
        | nil => rfl
        | cons first fence =>
          rw [Access.starts] at hident
          rw [List.singleton_append, splitDotted, hident, Bool.and_false]
          rfl
      | cons name rest => exact absurd rfl (hshort dot name rest)

theorem splitDims_fenced {fence : List Token} (h : Fenced fence) (tokens : List Token)
    : splitDims (tokens ++ fence) = ((splitDims tokens).1, (splitDims tokens).2 ++ fence) := by
  have hopening := h.starts_isPunct "[" (by decide)
  have hclosing := h.starts_isPunct "]" (by decide)
  -- The fence is seen only where fewer than two tokens are left, and it holds no bracket.
  fun_induction splitDims tokens with
  | case1 opening closing rest hmark taken after hsplit ih =>
    rw [hsplit] at ih
    rw [List.cons_append, List.cons_append, splitDims, if_pos hmark, ih]
  | case2 opening closing rest hmark =>
    rw [List.cons_append, List.cons_append, splitDims, if_neg hmark]
  | case3 tokens hshort =>
    cases tokens with
    | nil =>
      cases fence with
      | nil => rfl
      | cons first fence =>
        cases fence with
        | nil => rfl
        | cons second fence =>
          rw [Access.starts] at hopening
          rw [List.nil_append, splitDims, hopening]
          rfl
    | cons opening tokens =>
      cases tokens with
      | nil =>
        cases fence with
        | nil => rfl
        | cons first fence =>
          rw [Access.starts] at hclosing
          rw [List.singleton_append, splitDims, hclosing, Bool.and_false]
          rfl
      | cons closing rest => exact absurd rfl (hshort opening closing rest)

theorem splitArgumentsFrom?_fenced {fence : List Token} (h : Fenced fence) (depth : Nat)
    (tokens : List Token)
    : splitArgumentsFrom? depth (tokens ++ fence)
        =
      (splitArgumentsFrom? depth tokens).map fun split => (split.1, split.2 ++ fence) := by
  induction tokens generalizing depth with
  | nil =>
    -- At the end of the tokens the fence begins with nothing that arguments may hold.
    have hopening := h.starts_isPunct "<" (by decide)
    have hclosing := h.starts_isPunct ">" (by decide)
    have hpart := h.starts_isPunctOf [".", ",", "?", "&", "[", "]", "@"] (by decide)
    have hident := h.starts_isIdent
    cases fence with
    | nil => rfl
    | cons t fence =>
      rw [Access.starts] at hopening hclosing hpart hident
      simp only [List.nil_append, splitArgumentsFrom?, hopening, hclosing, hident, hpart]
      rfl
  | cons t rest ih =>
    rw [List.cons_append]
    simp only [splitArgumentsFrom?, ih]
    split
    · rw [Option.map_map, Option.map_map]
      rfl
    · split
      · split
        · rfl
        · rw [Option.map_map, Option.map_map]
          rfl
      · split
        · rw [Option.map_map, Option.map_map]
          rfl
        · rfl

theorem splitType?_fenced {fence : List Token} (h : Fenced fence) (tokens : List Token)
    : splitType? (tokens ++ fence)
        =
      (splitType? tokens).map fun split => (split.1, split.2 ++ fence) := by
  cases tokens with
  | nil =>
    have hident := h.starts_isIdent
    cases fence with
    | nil => rfl
    | cons t fence =>
      rw [Access.starts] at hident
      simp only [List.nil_append, splitType?, isPlain, hident]
      rfl
  | cons first rest =>
    have harguments : splitArguments? ((splitDotted rest).2 ++ fence)
        = (splitArguments? (splitDotted rest).2).map fun split => (split.1, split.2 ++ fence) := by
      rw [splitArguments?, splitArguments?, starts_append (h.starts_isPunct "<" (by decide))]
      split
      · exact splitArgumentsFrom?_fenced h 0 _
      · rfl
    rw [List.cons_append, splitType?, splitType?, splitDotted_fenced h]
    dsimp only
    rw [harguments]
    split
    · cases splitArguments? (splitDotted rest).2 with
      | none => rfl
      | some split =>
        dsimp only [Option.map_some, Option.bind_eq_bind, Option.bind_some]
        rw [splitDims_fenced h]
        rfl
    · rfl

theorem fenced_cons_stop {stop : Token} (h : isStop stop = true) (tokens : List Token)
    : Fenced (stop :: tokens) := by
  intro t ht
  rw [List.head?_cons, Option.some.injEq] at ht
  rw [← ht]
  exact .inr h

section Statement

variable {stop : Token}

theorem inferredType?_stop (hstop : isStop stop = true) (tokens rest rest' : List Token)
    : inferredType? (tokens ++ stop :: rest) = inferredType? (tokens ++ stop :: rest') := by
  have hname : (stop.isIdent || stop.isPunct ".") = false := by
    rw [isIdent_of_isStop hstop, isPunct_of_isStop hstop "." (by decide)]
    rfl
  match tokens with
  | [] =>
    have hnone : ∀ rest, inferredType? (stop :: rest) = none := by
      intro rest
      cases rest with
      | nil => rfl
      | cons t rest =>
        rw [inferredType?, isPunct_of_isStop hstop "=" (by decide)]
        rfl
    exact (hnone rest).trans (hnone rest').symm
  | [equals] =>
    have hnone : ∀ rest, inferredType? (equals :: stop :: rest) = none := by
      intro rest
      rw [inferredType?, isWord_of_isStop hstop, Bool.and_false]
      rfl
    exact (hnone rest).trans (hnone rest').symm
  | equals :: new :: tokens =>
    -- Behind an initializer that goes on, neither part that is read reaches the stop.
    have htake : ∀ rest, (tokens ++ stop :: rest).takeWhile (fun t => t.isIdent || t.isPunct ".")
        = tokens.takeWhile fun t => t.isIdent || t.isPunct "." := by
      intro rest
      rw [List.takeWhile_append, List.takeWhile_cons, hname, if_neg Bool.false_ne_true,
        List.append_nil]
      split
      · next hall => exact ((List.takeWhile_prefix _).eq_of_length hall).symm
      · rfl
    have hdrop : ∀ rest, starts (·.isPunctOf ["(", "<"])
          ((tokens ++ stop :: rest).dropWhile fun t => t.isIdent || t.isPunct ".")
        = starts (·.isPunctOf ["(", "<"])
          (tokens.dropWhile fun t => t.isIdent || t.isPunct ".") := by
      intro rest
      have hfence := (fenced_cons_stop hstop rest).starts_isPunctOf ["(", "<"] (by decide)
      rw [List.dropWhile_append, List.dropWhile_cons, hname]
      split
      · next hempty =>
        rw [List.isEmpty_iff] at hempty
        rw [hempty, if_neg Bool.false_ne_true, hfence]
        rfl
      · exact starts_append hfence _
    simp only [List.cons_append, inferredType?, htake, hdrop]

theorem localBehind_stop (hstop : isStop stop = true) (pattern : Bool)
    {whole whole' type tokens rest rest' : List Token}
    (hwhole : whole.length - (stop :: rest).length = whole'.length - (stop :: rest').length)
    : Cursor.localBehind pattern whole type (tokens ++ stop :: rest)
        =
      Cursor.localBehind pattern whole' type (tokens ++ stop :: rest') := by
  cases tokens with
  | nil =>
    have hplain : isPlain stop = false := by
      rw [isPlain, isIdent_of_isStop hstop]
      rfl
    simp only [List.nil_append, Cursor.localBehind, hplain]
    rfl
  | cons name tokens =>
    have hends : endsDeclarator ((splitDims tokens).2 ++ stop :: rest)
        = endsDeclarator ((splitDims tokens).2 ++ stop :: rest') := by
      cases (splitDims tokens).2 <;> rfl
    have hlength : whole.length - (tokens ++ stop :: rest).length
        = whole'.length - (tokens ++ stop :: rest').length := by
      rw [List.length_append, List.length_append]
      omega
    rw [List.cons_append, List.cons_append, Cursor.localBehind, Cursor.localBehind,
      splitDims_fenced (fenced_cons_stop hstop rest),
      splitDims_fenced (fenced_cons_stop hstop rest')]
    dsimp only
    rw [hends, hlength, inferredType?_stop hstop _ rest rest']

theorem local?_eq_stop (hstop : isStop stop = true) (pattern : Bool) (tokens rest : List Token)
    : local? pattern (tokens ++ stop :: rest)
        =
      (splitType? (tokens.dropWhile (·.isWord "final"))).bind fun split =>
        Cursor.localBehind pattern (tokens ++ stop :: rest) split.1 (split.2 ++ stop :: rest) := by
  have hfinal : (tokens ++ stop :: rest).dropWhile (·.isWord "final")
      = tokens.dropWhile (·.isWord "final") ++ stop :: rest := by
    rw [List.dropWhile_append, List.dropWhile_cons, isWord_of_isStop hstop]
    split
    · next hempty =>
      rw [List.isEmpty_iff] at hempty
      rw [hempty]
      rfl
    · rfl
  rw [Cursor.local?_eq, hfinal, splitType?_fenced (fenced_cons_stop hstop rest), Option.bind_map]
  rfl

theorem local?_stop (hstop : isStop stop = true) (pattern : Bool) (tokens rest rest' : List Token)
    : local? pattern (tokens ++ stop :: rest) = local? pattern (tokens ++ stop :: rest') := by
  rw [local?_eq_stop hstop, local?_eq_stop hstop]
  congr 1
  funext split
  apply localBehind_stop hstop
  rw [List.length_append, List.length_append]
  omega

theorem local?_length_le (hstop : isStop stop = true) {pattern : Bool} {tokens rest : List Token}
    {v : Local} (h : local? pattern (tokens ++ stop :: rest) = some v)
    : v.length ≤ tokens.length := by
  rw [local?_eq_stop hstop, Option.bind_eq_some_iff] at h
  obtain ⟨⟨type, left⟩, -, hv⟩ := h
  cases left with
  | nil =>
    have hplain : isPlain stop = false := by
      rw [isPlain, isIdent_of_isStop hstop]
      rfl
    rw [List.nil_append, Cursor.localBehind, hplain] at hv
    cases hv
  | cons name left =>
    rw [List.cons_append, Cursor.localBehind] at hv
    split at hv
    rw [Option.ite_none_right_eq_some, Option.some.injEq] at hv
    rw [← hv.2]
    dsimp only
    rw [List.length_append, List.length_append]
    omega

theorem local?_of_stop (hstop : isStop stop = true) (pattern : Bool) (rest : List Token)
    : local? pattern (stop :: rest) = none :=
  local?_eq_stop hstop pattern [] rest

def memberUse? (env : Surroundings) (s : State) (before : List Token) (t : Token) :
    List Token → Option Access
  | [] => none
  | member :: after =>
    if member.isIdent && !noMemberWords.contains member.text then
      (receiver? before).map fun (receiver, start) =>
        { receiver := receiver
          receiverType := receiverType? env s receiver
          member := member.text
          kind := if t.isPunct "::" || starts (·.isPunct "(") after then .method else .field
          span := ⟨start, member.span.stop⟩ }
    else
      none

theorem access?_eq (env : Surroundings) (s : State) (before : List Token) (t : Token)
    (rest : List Token)
    : access? env s before t rest
        =
      if t.isPunctOf [".", "::"] then memberUse? env s before t (Bracket.angle.group? rest).2
      else none := by
  rw [access?]
  cases (Bracket.angle.group? rest).2 <;> rfl

theorem memberUse?_stop (hstop : isStop stop = true) (env : Surroundings) (s : State)
    (before : List Token) (t : Token) (tokens rest rest' : List Token)
    : memberUse? env s before t (tokens ++ stop :: rest)
        =
      memberUse? env s before t (tokens ++ stop :: rest') := by
  match tokens with
  | [] =>
    simp only [List.nil_append, memberUse?, isIdent_of_isStop hstop]
    rfl
  | [member] => rfl
  | member :: first :: tokens => rfl

theorem access?_stop_doc (hd : d.kind = .doc) (hstop : isStop stop = true) (env : Surroundings)
    (s : State) (before : List Token) (t : Token) (tokens rest : List Token)
    : access? env s before t (tokens ++ stop :: d :: rest)
        =
      access? env s before t (tokens ++ stop :: rest) := by
  rw [access?_eq, access?_eq]
  split
  · cases tokens with
    | nil =>
      have hangle := ne_true_of_eq_false (stop_no_bracket hstop (b := .angle) (by simp)).1
      rw [List.nil_append, List.nil_append, Cursor.group?_other hangle, Cursor.group?_other hangle]
      exact memberUse?_stop hstop env s before t [] _ _
    | cons opening tokens =>
      rw [List.cons_append, List.cons_append]
      -- Arguments that open here end before the stop, or else the rest is the same behind both.
      cases hangle : opening.isPunct Bracket.angle.opening with
      | false =>
        rw [Cursor.group?_other (ne_true_of_eq_false hangle),
          Cursor.group?_other (ne_true_of_eq_false hangle)]
        exact memberUse?_stop hstop env s before t (opening :: tokens) _ _
      | true =>
        have hinside := Bracket.inside_apart
          (close?_stop_doc hd hstop (b := .angle) (by simp) 0 tokens rest)
        change Apart [stop, d] [stop] tokens rest
          (Bracket.angle.inside (tokens ++ stop :: d :: rest))
          (Bracket.angle.inside (tokens ++ stop :: rest)) at hinside
        rw [Cursor.group?_opening hangle, Cursor.group?_opening hangle]
        generalize Bracket.angle.inside (tokens ++ stop :: d :: rest) = r,
          Bracket.angle.inside (tokens ++ stop :: rest) = r' at hinside
        cases hinside with
        | before taken left => exact memberUse?_stop hstop env s before t left _ _
        | behind inside after => rfl
  · rfl

end Statement

/-! States without the comment. -/

def leftWithout (m left : Nat) : Nat :=
  if left ≤ m then left else left - 1

def State.without (m : Nat) (s : State) : State :=
  { s with lambdaEnds := s.lambdaEnds.map (leftWithout m) }

def State.Clear (m : Nat) (s : State) : Prop :=
  ∀ e ∈ s.lambdaEnds, e ≠ m + 1

theorem State.Clear.at {m : Nat} {s : State} (h : s.Clear m) (left : Nat) : (s.at left).Clear m :=
  fun e he => h e (Cursor.leaveLambdas_subset _ _ he)

theorem State.Clear.at_without {m : Nat} {s : State} (h : s.Clear m) {left : Nat}
    (hleft : left ≠ m + 1)
    : (s.without m).at (leftWithout m left) = (s.at left).without m := by
  unfold State.at State.without
  dsimp only
  rw [Cursor.leaveLambdas_map]
  intro e he
  have := h e he
  unfold leftWithout
  split <;> split <;> omega

theorem State.Clear.at_without_of_le {m left : Nat} {s : State} (h : s.Clear m) (hle : left ≤ m)
    : (s.without m).at left = (s.at left).without m := by
  have hat := h.at_without (Nat.ne_of_lt (Nat.lt_succ_of_le hle))
  rw [leftWithout, if_pos hle] at hat
  exact hat

theorem access?_without (env : Surroundings) (m : Nat) (s : State) (before : List Token) (t : Token)
    (rest : List Token)
    : access? env (s.without m) before t rest = access? env s before t rest := by
  simp only [access?, State.without, Cursor.receiverType?_lambdaEnds]

structure StepsAlike (m : Nat) (next next' : State × Nat) : Prop where
  state : next'.1 = next.1.without m
  count : next'.2 = next.2
  clear : next.1.Clear m

theorem stepsAlike_of_lambdaEnds {m n : Nat} {s s₁ : State} (h : s.Clear m)
    (hends : s₁.lambdaEnds = s.lambdaEnds) : StepsAlike m (s₁, n) (s₁.without m, n) := by
  refine ⟨rfl, rfl, ?_⟩
  intro e he
  rw [hends] at he
  exact h e he

section Before

variable {stop : Token}

theorem splitExpression_without (hd : d.kind = .doc) (x y : List Token)
    : (splitExpression 0 (x ++ y)).2.length
        = leftWithout y.length (splitExpression 0 (x ++ d :: y)).2.length
      ∧ (splitExpression 0 (x ++ d :: y)).2.length ≠ y.length + 1 := by
  have hsplit := splitExpression_doc hd 0 x y
  have hkind : ∀ t after, (splitExpression 0 (x ++ d :: y)).2 = t :: after → t.kind = .punct :=
    fun _ _ => kind_of_splitExpression
  generalize splitExpression 0 (x ++ d :: y) = r, splitExpression 0 (x ++ y) = r' at hsplit hkind
  cases hsplit with
  | before taken rest =>
    cases rest with
    | nil =>
      have hpunct := hkind d y rfl
      rw [hd] at hpunct
      cases hpunct
    | cons t rest =>
      simp only [leftWithout, List.length_append, List.length_cons, List.length_nil]
      split <;> omega
  | behind inside after hinside hafter =>
    have hle := hafter.length_le
    simp only [leftWithout]
    split <;> omega

theorem step_stop_doc (hd : d.kind = .doc) (hstop : isStop stop = true) {s : State} {y : List Token}
    (hs : s.Clear y.length) (before : List Token) (t : Token) (tokens : List Token)
    : StepsAlike y.length (step s before t (tokens ++ stop :: d :: y))
        (step (s.without y.length) before t (tokens ++ stop :: y)) := by
  have hopens : starts (·.isPunct "\x7b") (tokens ++ stop :: y)
      = starts (·.isPunct "\x7b") (tokens ++ stop :: d :: y) := by
    cases tokens <;> rfl
  rw [step, step]
  -- The cases are those of a step; only a lambda with an expression adds to the ends of lambdas.
  split
  · exact stepsAlike_of_lambdaEnds hs rfl
  · split
    · exact stepsAlike_of_lambdaEnds hs rfl
    · split
      · dsimp only
        rw [hopens]
        split
        · exact stepsAlike_of_lambdaEnds hs rfl
        · obtain ⟨hleft, hclear⟩ := splitExpression_without hd (tokens ++ [stop]) y
          rw [List.append_assoc, List.append_assoc, List.singleton_append, List.singleton_append]
            at hleft
          rw [List.append_assoc, List.singleton_append] at hclear
          refine ⟨?_, rfl, ?_⟩
          · change _ = State.mk _ _ (_ :: _)
            rw [← hleft]
            rfl
          · intro e he
            rcases List.mem_cons.1 he with rfl | he
            · exact hclear
            · exact hs e he
      · split
        · rw [local?_stop hstop true tokens y (d :: y)]
          split
          · exact stepsAlike_of_lambdaEnds hs rfl
          · exact stepsAlike_of_lambdaEnds hs rfl
        · split
          · rw [← List.cons_append, ← List.cons_append,
              local?_stop hstop false (t :: tokens) y (d :: y)]
            split
            · exact stepsAlike_of_lambdaEnds hs rfl
            · exact stepsAlike_of_lambdaEnds hs rfl
          · exact stepsAlike_of_lambdaEnds hs rfl

theorem step_stop_le (hstop : isStop stop = true) (s : State) (before : List Token) (t : Token)
    (tokens rest : List Token)
    : (step s before t (tokens ++ stop :: rest)).2 ≤ tokens.length + 1 := by
  rw [step]
  split
  · exact Nat.zero_le _
  · split
    · exact Nat.zero_le _
    · split
      · dsimp only
        split
        · exact Nat.le_add_left _ _
        · exact Nat.zero_le _
      · split
        · split <;> exact Nat.zero_le _
        · split
          · split
            · exact Nat.zero_le _
            · next v hv =>
              rw [← List.cons_append] at hv
              have hle := local?_length_le hstop hv
              rw [List.length_cons] at hle
              exact (Nat.sub_le _ _).trans hle
          · exact Nat.zero_le _

theorem step_of_stop_le (hstop : isStop stop = true) (s : State) (before rest : List Token)
    : (step s before stop rest).2 ≤ 0 := by
  rw [step, isPunct_of_isStop hstop "->" (by decide), isWord_of_isStop hstop, local?_of_stop hstop]
  split
  · exact Nat.le_refl _
  · split
    · exact Nat.le_refl _
    · simp

theorem step_stop (hstop : isStop stop = true) {m : Nat} {s : State} (hs : s.Clear m)
    (before rest rest' : List Token)
    : StepsAlike m (step s before stop rest) (step (s.without m) before stop rest') := by
  rw [step, step, isPunct_of_isStop hstop "->" (by decide), isWord_of_isStop hstop,
    local?_of_stop hstop, local?_of_stop hstop]
  split
  · exact stepsAlike_of_lambdaEnds hs rfl
  · split
    · exact stepsAlike_of_lambdaEnds hs rfl
    · simp only [Bool.false_and, Bool.false_eq_true, if_false, ite_self]
      exact stepsAlike_of_lambdaEnds hs rfl

end Before

section Behind

variable {fence : List Token}

theorem isStatementStart_append {before : List Token} (h : before ≠ []) (more : List Token)
    : isStatementStart (before ++ more) = isStatementStart before := by
  cases before with
  | nil => exact absurd rfl h
  | cons t before => rfl

theorem step_behind_doc (hd : d.kind = .doc) (hfence : EndsStatement fence) {m : Nat} {s : State}
    (hs : s.Clear m) {before : List Token} (hbefore : before ≠ []) (t : Token) {rest : List Token}
    (hrest : rest.length < m)
    : StepsAlike m (step s (before ++ d :: fence) t rest)
        (step (s.without m) (before ++ fence) t rest) := by
  have hempty : ∀ more, (before ++ more).isEmpty = false := by
    intro more
    rw [List.isEmpty_eq_false_iff]
    exact List.append_ne_nil_of_left_ne_nil hbefore more
  rw [step, step, creation?_doc hd hfence.fenced, hempty, hempty, isStatementStart_append hbefore,
    isStatementStart_append hbefore]
  split
  · exact stepsAlike_of_lambdaEnds hs rfl
  · split
    · exact stepsAlike_of_lambdaEnds hs rfl
    · split
      · obtain ⟨last, before, rfl⟩ := List.exists_cons_of_ne_nil hbefore
        rw [lambdaParameters_doc hd hfence]
        dsimp only
        split
        · exact stepsAlike_of_lambdaEnds hs rfl
        · -- the lambda ends behind the comment, where the tokens left are the same
          have hle := (splitExpression_suffix 0 rest).length_le
          have hleft : leftWithout m (splitExpression 0 rest).2.length
              = (splitExpression 0 rest).2.length := by
            rw [leftWithout, if_pos (by omega)]
          refine ⟨?_, rfl, ?_⟩
          · change _ = State.mk _ _ (_ :: _)
            rw [hleft]
            rfl
          · intro e he
            rcases List.mem_cons.1 he with rfl | he
            · omega
            · exact hs e he
      · split
        · split
          · exact stepsAlike_of_lambdaEnds hs rfl
          · exact stepsAlike_of_lambdaEnds hs rfl
        · split
          · split
            · exact stepsAlike_of_lambdaEnds hs rfl
            · exact stepsAlike_of_lambdaEnds hs rfl
          · exact stepsAlike_of_lambdaEnds hs rfl

theorem access?_behind_doc (hd : d.kind = .doc) (hfence : EndsStatement fence) (env : Surroundings)
    (s : State) {before : List Token} (hbefore : before ≠ []) (t : Token) (rest : List Token)
    : access? env s (before ++ d :: fence) t rest = access? env s (before ++ fence) t rest := by
  obtain ⟨last, before, rfl⟩ := List.exists_cons_of_ne_nil hbefore
  rw [access?, access?, receiver?_doc hd hfence.fenced]

theorem scan_behind_doc (hd : d.kind = .doc) (hfence : EndsStatement fence) (env : Surroundings)
    {m : Nat} {s : State} (hs : s.Clear m) {before : List Token} (hbefore : before ≠ [])
    {tokens : List Token} (htokens : tokens.length ≤ m)
    : scan env s (before ++ d :: fence) tokens
        =
      scan env (s.without m) (before ++ fence) tokens := by
  induction hn : tokens.length using Nat.strongRecOn generalizing s before tokens with
  | ind n ih =>
    cases tokens with
    | nil => rw [scan, scan]
    | cons t rest =>
      rw [List.length_cons] at hn htokens
      have hat := hs.at_without_of_le htokens
      have hstep := step_behind_doc hd hfence (hs.at (rest.length + 1)) hbefore t htokens
      rw [scan, scan, hat, hstep.state, hstep.count, access?_without,
        access?_behind_doc hd hfence env _ hbefore]
      congr 1
      generalize step (s.at (rest.length + 1)) (before ++ d :: fence) t rest = next at hstep
      have hlength : (rest.drop next.2).length ≤ rest.length := by
        rw [List.length_drop]
        exact Nat.sub_le _ _
      have hne : (rest.take next.2).reverse ++ t :: before ≠ [] := by simp
      have hscan := ih (rest.drop next.2).length (by omega) hstep.clear hne (by omega) rfl
      rw [List.append_assoc, List.append_assoc, List.cons_append, List.cons_append] at hscan
      exact hscan

end Behind

structure StartsPlain (tokens : List Token) : Prop where
  local_none : local? false tokens = none
  starts_joint : starts (·.isPunctOf [".", "::", "->"]) tokens = false

instance (tokens : List Token) : Decidable (StartsPlain tokens) :=
  decidable_of_iff ((local? false tokens).isNone = true
      ∧ starts (·.isPunctOf [".", "::", "->"]) tokens = false)
    ⟨fun h => ⟨Option.isNone_iff_eq_none.1 h.1, h.2⟩,
      fun h => ⟨Option.isNone_iff_eq_none.2 h.1, h.2⟩⟩

theorem StartsPlain.isPunct {t : Token} {rest : List Token} (h : StartsPlain (t :: rest))
    (mark : String) (hmark : mark ∈ [".", "::", "->"]) : t.isPunct mark = false := by
  have hnone := h.starts_joint
  rw [starts, Token.isPunctOf, Bool.and_eq_false_iff] at hnone
  rw [Token.isPunct, Bool.and_eq_false_iff]
  refine hnone.imp id ?_
  intro htext
  rw [beq_eq_false_iff_ne]
  rintro rfl
  rw [List.contains_eq_mem, decide_eq_false_iff_not] at htext
  exact htext hmark

theorem local?_of_doc (hd : d.kind = .doc) (pattern : Bool) (rest : List Token)
    : local? pattern (d :: rest) = none := by
  rw [Cursor.local?_eq, List.dropWhile_cons, d.isWord_of_doc hd, if_neg Bool.false_ne_true,
    splitType?, isPlain, d.isIdent_of_doc hd]
  rfl

theorem State.Clear.at_eq {m : Nat} {s : State} (h : s.Clear m) : s.at (m + 1) = s := by
  have hleave : leaveLambdas (m + 1) s.scopes s.lambdaEnds = (s.scopes, s.lambdaEnds) := by
    unfold State.Clear at h
    generalize s.lambdaEnds = ends at h
    cases ends with
    | nil => rfl
    | cons e ends => rw [leaveLambdas, if_neg (h e List.mem_cons_self)]
  rw [State.at, hleave]

theorem step_doc (hd : d.kind = .doc) (s : State) (before rest : List Token)
    : step s before d rest = (s, 0) := by
  rw [step, d.isPunct_of_doc hd, d.isPunct_of_doc hd, d.isPunct_of_doc hd, d.isWord_of_doc hd,
    local?_of_doc hd]
  simp

theorem step_first (hd : d.kind = .doc) {before : List Token} (hbefore : EndsStatement before)
    {m : Nat} {s : State} (hs : s.Clear m) {t : Token} {rest : List Token}
    (hplain : StartsPlain (t :: rest))
    : StepsAlike m (step s (d :: before) t rest) (step (s.without m) before t rest) := by
  rw [step, step, ← List.nil_append (d :: before), creation?_doc hd hbefore.fenced,
    hplain.isPunct "->" (by simp), hplain.local_none]
  split
  · exact stepsAlike_of_lambdaEnds hs rfl
  · split
    · exact stepsAlike_of_lambdaEnds hs rfl
    · rw [Bool.false_and, Bool.false_and, if_neg Bool.false_ne_true, if_neg Bool.false_ne_true]
      split
      · split
        · exact stepsAlike_of_lambdaEnds hs rfl
        · exact stepsAlike_of_lambdaEnds hs rfl
      · dsimp only
        rw [ite_self, ite_self]
        exact stepsAlike_of_lambdaEnds hs rfl

theorem access?_first {t : Token} {rest : List Token} (hplain : StartsPlain (t :: rest))
    (env : Surroundings) (s : State) (before : List Token)
    : access? env s before t rest = none := by
  have hmark : t.isPunctOf [".", "::"] = false := by
    have hdot := hplain.isPunct "." (by simp)
    have hcolons := hplain.isPunct "::" (by simp)
    simp only [Token.isPunct, Token.isPunctOf, List.contains_cons, List.contains_nil] at *
    grind
  rw [access?_eq, hmark]
  rfl

theorem scan_at_doc (hd : d.kind = .doc) (env : Surroundings) {before : List Token}
    (hbefore : EndsStatement before) {s : State} {y : List Token} (hs : s.Clear y.length)
    (hplain : StartsPlain y)
    : scan env s before (d :: y) = scan env (s.without y.length) before y := by
  have hnone : access? env s before d y = none := by
    rw [access?_eq, d.isPunctOf_of_doc hd]
    rfl
  rw [scan, hs.at_eq, step_doc hd, hnone, Option.toList_none, List.nil_append]
  dsimp only
  rw [List.take_zero, List.drop_zero, List.reverse_nil, List.nil_append]
  cases y with
  | nil => rw [scan, scan]
  | cons t rest =>
    have hat := hs.at_without_of_le (List.length_cons (a := t)).ge
    have hstep := step_first hd hbefore (hs.at (rest.length + 1)) hplain
    rw [scan, scan, hat, hstep.state, hstep.count, access?_first hplain, access?_first hplain]
    congr 1
    generalize step (s.at (rest.length + 1)) (d :: before) t rest = next at hstep
    have hne : (rest.take next.2).reverse ++ [t] ≠ [] := by simp
    have hle : (rest.drop next.2).length ≤ (t :: rest).length := by
      rw [List.length_drop, List.length_cons]
      omega
    have hscan := scan_behind_doc hd hbefore env hstep.clear hne hle
    rw [List.append_assoc, List.append_assoc] at hscan
    exact hscan

section Statement

variable {before x y : List Token} {t : Token}

theorem isStop_of_ends {inner : List Token} {stop : Token}
    (h : EndsStatement ((t :: inner.concat stop).reverse ++ before)) : isStop stop = true := by
  rw [List.reverse_cons, List.concat_eq_append, List.reverse_append] at h
  exact h.1

theorem step_ends_doc (hd : d.kind = .doc) (hends : EndsStatement ((t :: x).reverse ++ before))
    {s : State} (hs : s.Clear y.length)
    : StepsAlike y.length (step s before t (x ++ d :: y))
        (step (s.without y.length) before t (x ++ y))
      ∧ (step s before t (x ++ d :: y)).2 ≤ x.length := by
  obtain rfl | ⟨inner, stop, rfl⟩ := List.eq_nil_or_concat x
  · have hstop := hends.1
    exact ⟨step_stop hstop hs before _ _, step_of_stop_le hstop s before _⟩
  · have hstop := isStop_of_ends hends
    rw [List.concat_eq_append, List.append_assoc, List.append_assoc, List.singleton_append,
      List.singleton_append, List.length_append, List.length_singleton]
    exact ⟨step_stop_doc hd hstop hs before t inner, step_stop_le hstop s before t inner _⟩

theorem access?_ends_doc (hd : d.kind = .doc) (hends : EndsStatement ((t :: x).reverse ++ before))
    (env : Surroundings) (s : State)
    : access? env s before t (x ++ d :: y) = access? env s before t (x ++ y) := by
  obtain rfl | ⟨inner, stop, rfl⟩ := List.eq_nil_or_concat x
  · have hstop := hends.1
    rw [access?_eq, access?_eq, isPunctOf_of_isStop hstop _ (by decide)]
    rfl
  · have hstop := isStop_of_ends hends
    rw [List.concat_eq_append, List.append_assoc, List.append_assoc]
    exact access?_stop_doc hd hstop env s before t inner y

end Statement

theorem scan_doc (hd : d.kind = .doc) (env : Surroundings) {y : List Token} (hplain : StartsPlain y)
    {s : State} (hs : s.Clear y.length) {before x : List Token}
    (hends : EndsStatement (x.reverse ++ before))
    : scan env s before (x ++ d :: y) = scan env (s.without y.length) before (x ++ y) := by
  -- Strong induction, since a step may pass several tokens at once; none passes the comment.
  induction hn : x.length using Nat.strongRecOn generalizing s before x with
  | ind n ih =>
    cases x with
    | nil => exact scan_at_doc hd env hends hs hplain
    | cons t x =>
      have hne : (x ++ d :: y).length + 1 ≠ y.length + 1 := by
        rw [List.length_append, List.length_cons]
        omega
      have hat := hs.at_without hne
      have hleft : leftWithout y.length ((x ++ d :: y).length + 1) = (x ++ y).length + 1 := by
        rw [leftWithout, List.length_append, List.length_append, List.length_cons,
          if_neg (by omega)]
        omega
      rw [hleft] at hat
      obtain ⟨hstep, hle⟩ := step_ends_doc hd hends (hs.at ((x ++ d :: y).length + 1))
      rw [List.cons_append, List.cons_append, scan, scan, hat, hstep.state, hstep.count,
        access?_without, access?_ends_doc hd hends]
      congr 1
      generalize step (s.at ((x ++ d :: y).length + 1)) before t (x ++ d :: y) = next at hstep hle
      rw [List.take_append_of_le_length hle, List.take_append_of_le_length hle,
        List.drop_append_of_le_length hle, List.drop_append_of_le_length hle]
      rw [List.length_cons] at hn
      apply ih (x.drop next.2).length (by rw [List.length_drop]; omega) hstep.clear _ rfl
      rw [← List.append_assoc, ← List.reverse_append, List.take_append_drop]
      rw [List.reverse_cons, List.append_assoc] at hends
      exact hends

theorem ofBody_doc (hd : d.kind = .doc) (names : TypeNames) (types : List TypeDecl) {body : Body}
    {x y : List Token} (hbody : body.tokens = x ++ d :: y) (hends : EndsStatement x.reverse)
    (hplain : StartsPlain y)
    : ofBody names types body = ofBody names types { body with tokens := x ++ y } := by
  rw [ofBody, ofBody, hbody]
  refine scan_doc hd _ hplain ?_ ?_
  · intro e he
    cases he
  · rw [List.append_nil]
    exact hends

end DeprecatedUse.Java.Access
