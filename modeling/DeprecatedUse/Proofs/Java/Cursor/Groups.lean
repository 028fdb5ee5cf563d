import DeprecatedUse.Java.WrittenType
import DeprecatedUse.Proofs.Java.Cursor.Basic

/-!
This module contains the search for brackets and the reading of written types and of parameter lists
as runs over arrays of tokens by position. Depths of nesting are counted with checked differences.
The runs end without a fault and agree with the splitting of token lists.
-/

namespace DeprecatedUse.Java.Cursor

/-! Brackets. -/

/--
The position of the bracket that closes the outermost of `depth` open ones, among the tokens from
position `pos` on; `stop` if it is never closed.
-/
def matchFrom (b : Bracket) (stop depth pos : Nat) : List Token → Run Nat
  | [] => pure stop
  | t :: rest =>
    if t.isPunct b.opening then
      matchFrom b stop (depth + 1) (pos + 1) rest
    else if t.isPunct b.closing then do
      let depth ← sub depth 1
      if depth = 0 then pure pos else matchFrom b stop depth (pos + 1) rest
    else
      matchFrom b stop depth (pos + 1) rest

/--
The position of the bracket that closes the group opened at `pos`; the end of the array if there is
none.
-/
def matchingForward (tokens : List Token) (b : Bracket) (pos : Nat) : Run Nat :=
  matchFrom b tokens.length 0 pos (tokens.drop pos)

/--
The position of the bracket that opens the outermost of `depth` groups, among the tokens before a
position, from the last one down.
-/
def matchBefore (tokens : List Token) (b : Bracket) (depth : Nat) : Nat → Run (Option Nat)
  | 0 => pure none
  | pos + 1 => do
    let t ← get tokens pos
    if t.isPunct b.closing then
      matchBefore tokens b (depth + 1) pos
    else if t.isPunct b.opening then do
      let depth ← sub depth 1
      if depth = 0 then pure (some pos) else matchBefore tokens b depth pos
    else
      matchBefore tokens b depth pos

def matchingBackward (tokens : List Token) (b : Bracket) (pos : Nat) : Run (Option Nat) :=
  matchBefore tokens b 0 (pos + 1)

def skipGroup (tokens : List Token) (b : Bracket) (pos : Nat) : Run ((Nat × Nat) × Nat) := do
  let stop ← matchingForward tokens b pos
  pure ((pos + 1, min stop tokens.length), min (stop + 1) tokens.length)

def expressionEndFrom (stop depth pos : Nat) : List Token → Run Nat
  | [] => pure stop
  | t :: rest =>
    if t.isPunctOf ["(", "[", "\x7b"] then
      expressionEndFrom stop (depth + 1) (pos + 1) rest
    else if t.isPunctOf [")", "]", "\x7d"] then
      if depth = 0 then
        pure pos
      else do
        let depth ← sub depth 1
        expressionEndFrom stop depth (pos + 1) rest
    else if depth = 0 && t.isPunctOf [",", ";"] then
      pure pos
    else
      expressionEndFrom stop depth (pos + 1) rest

def expressionEnd (tokens : List Token) (pos stop : Nat) : Run Nat :=
  expressionEndFrom stop 0 pos ((tokens.take stop).drop pos)

/-! Types and parameters. -/

def typeNameFrom (angle : Nat) (afterAt : Bool) (name : String) (dims : Nat) :
    List Token → Run (Option TypeName)
  | [] => pure (if name = "" || endsInDot name then none else some ⟨name, dims⟩)
  | t :: rest =>
    if 0 < angle then
      if t.isPunct "<" then
        typeNameFrom (angle + 1) afterAt name dims rest
      else if t.isPunct ">" then do
        let angle ← sub angle 1
        typeNameFrom angle afterAt name dims rest
      else
        typeNameFrom angle afterAt name dims rest
    else if afterAt && t.isIdent then
      typeNameFrom angle false name dims rest
    else if t.isPunct "<" then
      typeNameFrom 1 false name dims rest
    else if t.isPunct "@" then
      typeNameFrom angle true name dims rest
    else if t.isIdent then
      if modifierWords.contains t.text then
        typeNameFrom angle false name dims rest
      else if name ≠ "" && !endsInDot name then
        pure none
      else
        typeNameFrom angle false (name ++ t.text) dims rest
    else if t.isPunct "." then
      typeNameFrom angle false (name ++ ".") dims rest
    else if t.isPunct "[" || t.isPunct "..." then
      typeNameFrom angle false name (dims + 1) rest
    else if t.isPunct "]" then
      typeNameFrom angle false name dims rest
    else
      pure none

def typeName (tokens : List Token) : Run (Option TypeName) :=
  typeNameFrom 0 false "" 0 tokens

def skipDots (part : List Token) (pos : Nat) : Run Nat :=
  if pos + 1 < part.length then do
    let t ← get part pos
    if t.isPunct "." then (by apply skipDots; exacts [part, pos + 2]) else pure pos
  else
    pure pos
partial_fixpoint

def skipParameterAnnotations (part : List Token) (pos : Nat) : Run Nat :=
  if pos < part.length then do
    let t ← get part pos
    if t.isPunct "@" then do
      let pos ← skipDots part (pos + 2)
      if pos < part.length then do
        let t ← get part pos
        if t.isPunct "(" then do
          let stop ← matchingForward part .round pos
          by apply skipParameterAnnotations; exacts [part, stop + 1]
        else
          by apply skipParameterAnnotations; exacts [part, pos]
      else
        by apply skipParameterAnnotations; exacts [part, pos]
    else
      pure pos
  else
    pure pos
partial_fixpoint

def parameter (part : List Token) : Run (Option Parameter) := do
  let pos ← skipParameterAnnotations part 0
  let part ← slice part (min pos part.length) part.length
  match part.getLast? with
  | none => pure none
  | some name =>
    if name.isIdent && name.text != "this" then do
      let type ← typeName part.dropLast
      pure (type.map (name.text, ·))
    else
      pure none

/--
The parameters of a list from `pos` on behind `found`; the part that is being read starts at `start`.
-/
def parametersFrom (tokens : List Token) (depth : Int) (start pos : Nat) (found : List Parameter) :
    Run (List Parameter) :=
  if pos < tokens.length then do
    let t ← get tokens pos
    let depth := depth + Parameter.nesting t
    if t.isPunct "," && depth == 0 then do
      let part ← slice tokens start pos
      let declared ← parameter part
      by apply parametersFrom; exacts [tokens, depth, pos + 1, pos + 1, found ++ declared.toList]
    else
      by apply parametersFrom; exacts [tokens, depth, start, pos + 1, found]
  else if pos = tokens.length then do
    let part ← slice tokens start pos
    let declared ← parameter part
    pure (found ++ declared.toList)
  else
    pure found
partial_fixpoint

def parameters (tokens : List Token) : Run (List Parameter) :=
  parametersFrom tokens 0 0 0 []

/-! Agreement with the splitting of token lists. -/

theorem matchFrom_eq (b : Bracket) (stop depth pos : Nat) (tokens : List Token)
    : matchFrom b stop (depth + 1) pos tokens
        =
      pure (match b.close? depth tokens with
        | none => stop
        | some (inside, _) => pos + inside.length) := by
  induction tokens generalizing depth pos with
  | nil => rfl
  | cons t rest ih =>
    rw [matchFrom, Bracket.close?]
    split
    · rw [ih]
      cases b.close? (depth + 1) rest with
      | none => rfl
      | some group => simp [Nat.add_assoc, Nat.add_comm 1]
    · split
      · rw [sub_eq (by omega), pure_bind, Nat.add_sub_cancel]
        split
        · rfl
        · next hdepth =>
          obtain ⟨depth, rfl⟩ := Nat.exists_eq_succ_of_ne_zero hdepth
          rw [ih, Nat.succ_sub_one]
          cases b.close? depth rest with
          | none => rfl
          | some group => simp [Nat.add_assoc, Nat.add_comm 1]
      · rw [ih]
        cases b.close? depth rest with
        | none => rfl
        | some group => simp [Nat.add_assoc, Nat.add_comm 1]

theorem matchingForward_eq {tokens rest : List Token} {b : Bracket} {t : Token} {pos : Nat}
    (h : tokens.drop pos = t :: rest) (ht : t.isPunct b.opening = true)
    : ∃ stop, matchingForward tokens b pos = pure stop
        ∧ min stop tokens.length = pos + 1 + (b.inside rest).1.length
        ∧ tokens.drop (stop + 1) = (b.inside rest).2 := by
  have hrest := drop_succ h
  have hlength := congrArg List.length hrest
  rw [List.length_drop] at hlength
  have hlt := lt_length h
  rw [matchingForward, h, matchFrom, if_pos ht, matchFrom_eq]
  refine ⟨_, rfl, ?_⟩
  unfold Bracket.inside
  cases hclose : b.close? 0 rest with
  | none =>
    refine ⟨?_, ?_⟩
    · dsimp only [Option.getD_none]
      omega
    · exact List.drop_eq_nil_of_le (Nat.le_succ _)
  | some group =>
    obtain ⟨inside, after⟩ := group
    obtain ⟨c, -, rfl⟩ := Bracket.close?_append hclose
    rw [List.length_append, List.length_cons] at hlength
    refine ⟨?_, ?_⟩
    · change min (pos + 1 + inside.length) tokens.length = pos + 1 + inside.length
      omega
    · change tokens.drop (pos + 1 + inside.length + 1) = after
      rw [Nat.add_assoc (pos + 1), drop_add hrest, ← List.drop_drop, List.drop_left]
      rfl

theorem skipGroup_eq {tokens rest : List Token} {b : Bracket} {t : Token} {pos : Nat}
    (h : tokens.drop pos = t :: rest) (ht : t.isPunct b.opening = true)
    : Reads tokens (skipGroup tokens b pos) (pos + 1, pos + 1 + (b.inside rest).1.length)
        (b.inside rest).2 := by
  obtain ⟨stop, hstop, hmin, hdrop⟩ := matchingForward_eq h ht
  refine ⟨min (stop + 1) tokens.length, ?_, ?_⟩
  · rw [skipGroup, hstop, pure_bind, hmin]
  · rcases Nat.le_total (stop + 1) tokens.length with hle | hle
    · rw [Nat.min_eq_left hle, hdrop]
    · rw [Nat.min_eq_right hle, List.drop_length, ← hdrop, List.drop_eq_nil_of_le hle]

theorem group?_opening {b : Bracket} {t : Token} (h : t.isPunct b.opening = true)
    (rest : List Token) : b.group? (t :: rest) = (some (b.inside rest).1, (b.inside rest).2) :=
  if_pos h

theorem group?_other {b : Bracket} {t : Token} (h : ¬ t.isPunct b.opening = true)
    (rest : List Token) : b.group? (t :: rest) = (none, t :: rest) :=
  if_neg h

theorem matchBefore_eq {tokens : List Token} (b : Bracket) (depth : Nat) {pos : Nat}
    (hpos : pos ≤ tokens.length)
    : matchBefore tokens b (depth + 1) pos
        =
      pure ((b.flip.close? depth (tokens.take pos).reverse).map fun group => group.2.length) := by
  induction pos generalizing depth with
  | zero => rfl
  | succ pos ih =>
    have hlt : pos < tokens.length := hpos
    rw [matchBefore, get_eq (List.getElem?_eq_getElem hlt), pure_bind, List.take_succ_eq_append_getElem hlt,
      List.reverse_append, List.reverse_singleton, List.singleton_append, Bracket.close?]
    change (if tokens[pos].isPunct b.flip.opening then _ else
      if tokens[pos].isPunct b.flip.closing then _ else _) = _
    split
    · rw [ih (depth + 1) (Nat.le_of_lt hlt), Option.map_map]
      rfl
    · split
      · rw [sub_eq (by omega), pure_bind, Nat.add_sub_cancel]
        split
        · simp [Nat.min_eq_left (Nat.le_of_lt hlt)]
        · next hdepth =>
          obtain ⟨depth, rfl⟩ := Nat.exists_eq_succ_of_ne_zero hdepth
          rw [ih depth (Nat.le_of_lt hlt), Option.map_map]
          rfl
      · rw [ih depth (Nat.le_of_lt hlt), Option.map_map]
        rfl

theorem close?_append_eq (b : Bracket) (depth : Nat) (tokens : List Token)
    : ∃ depth', ∀ more, b.close? depth (tokens ++ more)
        =
      ((b.close? depth tokens).map fun group => (group.1, group.2 ++ more)).or
        ((b.close? depth' more).map fun group => (tokens ++ group.1, group.2)) := by
  induction tokens generalizing depth with
  | nil =>
    refine ⟨depth, ?_⟩
    intro more
    cases h : b.close? depth more <;> simp [Bracket.close?, h]
  | cons t rest ih =>
    -- In all cases but one the search goes on behind `t` with another depth.
    have hstep : ∀ next, ∃ depth', ∀ more,
        ((b.close? next (rest ++ more)).map fun group => (t :: group.1, group.2))
          =
        (((b.close? next rest).map fun group => (t :: group.1, group.2)).map
            fun group => (group.1, group.2 ++ more)).or
          ((b.close? depth' more).map fun group => (t :: rest ++ group.1, group.2)) := by
      intro next
      obtain ⟨depth', hdepth'⟩ := ih next
      refine ⟨depth', ?_⟩
      intro more
      rw [hdepth']
      cases b.close? next rest with
      | some group => rfl
      | none =>
        simp only [Option.map_none, Option.none_or, Option.map_map]
        rfl
    simp only [List.cons_append, Bracket.close?]
    split
    · exact hstep _
    · split
      · split
        · exact ⟨0, fun _ => rfl⟩
        · exact hstep _
      · exact hstep _

theorem matchingBackward_eq {tokens before outside : List Token} {b : Bracket} {t : Token}
    {pos : Nat} (hpos : tokens[pos]? = some t) (ht : t.isPunct b.closing = true)
    (h : (tokens.take pos).reverse = before ++ outside)
    : ∃ opening, matchingBackward tokens b pos = pure opening
        ∧ opening.filter (outside.length ≤ ·)
          = (b.flip.close? 0 before).map fun group => outside.length + group.2.length := by
  have hlt := (List.getElem?_eq_some_iff.1 hpos).1
  refine ⟨(b.flip.close? 0 (before ++ outside)).map fun group => group.2.length, ?_, ?_⟩
  · rw [matchingBackward, matchBefore, get_eq hpos, pure_bind, if_pos ht,
      matchBefore_eq b 0 (Nat.le_of_lt hlt), h]
  · obtain ⟨depth', hclose⟩ := close?_append_eq b.flip 0 before
    rw [hclose]
    cases b.flip.close? 0 before with
    | some group => simp [Nat.add_comm]
    | none =>
      -- A bracket outside has fewer tokens before it than there are outside.
      cases houtside : b.flip.close? depth' outside with
      | none => rfl
      | some group =>
        obtain ⟨inside, after⟩ := group
        obtain ⟨c, -, rfl⟩ := Bracket.close?_append houtside
        simp only [Option.map_some, Option.map_none, Option.none_or, Option.filter_eq_none_iff,
          Option.some.injEq, List.length_append, List.length_cons, decide_eq_true_eq]
        omega

theorem isPunctOf_append (t : Token) (marks marks' : List String)
    : t.isPunctOf (marks ++ marks') = (t.isPunctOf marks || t.isPunctOf marks') := by
  simp only [Token.isPunctOf, List.contains_append, Bool.and_or_distrib_left]

theorem isPunct_of_isIdent {t : Token} (h : t.isIdent = true) (mark : String)
    : t.isPunct mark = false := by
  unfold Token.isIdent at h
  unfold Token.isPunct
  rw [eq_of_beq h]
  rfl

theorem expressionEndFrom_eq {stop depth pos : Nat} {tokens : List Token}
    (h : pos + tokens.length = stop)
    : expressionEndFrom stop depth pos tokens
        =
      pure (pos + (splitExpression depth tokens).1.length) := by
  induction tokens generalizing depth pos with
  | nil =>
    subst h
    rfl
  | cons t rest ih =>
    -- The loop asks for all the marks at once, the splitter for the brackets first.
    have hmarks : t.isPunctOf [")", "]", "\x7d", ",", ";"]
        = (t.isPunctOf [")", "]", "\x7d"] || t.isPunctOf [",", ";"]) :=
      isPunctOf_append t [")", "]", "\x7d"] [",", ";"]
    rw [List.length_cons, Nat.add_comm rest.length, ← Nat.add_assoc] at h
    rw [expressionEndFrom, splitExpression]
    split
    · rw [ih h]
      simp [Nat.add_assoc, Nat.add_comm 1]
    · split
      · next hclosing =>
        rw [hclosing, Bool.true_or] at hmarks
        split
        · next hdepth =>
          rw [if_pos]
          · rfl
          · rw [hdepth]
            exact hmarks
        · next hdepth =>
          rw [sub_eq (by omega), pure_bind, ih h, if_neg]
          · simp [Nat.add_assoc, Nat.add_comm 1]
          · simp [hdepth]
      · next hclosing =>
        rw [Bool.not_eq_true] at hclosing
        rw [hclosing, Bool.false_or] at hmarks
        rw [hmarks]
        split
        · rfl
        · rw [ih h]
          simp [Nat.add_assoc, Nat.add_comm 1]

theorem expressionEnd_eq {tokens part after : List Token} {pos : Nat}
    (h : tokens.drop pos = part ++ after)
    : expressionEnd tokens pos (pos + part.length)
        =
      pure (pos + (splitExpression 0 part).1.length) := by
  have hpart : (tokens.take (pos + part.length)).drop pos = part := by
    rw [List.drop_take, h, Nat.add_sub_cancel_left, List.take_left]
  rw [expressionEnd, hpart, expressionEndFrom_eq rfl]

theorem typeNameFrom_eq {angle dims : Nat} {afterAt : Bool} {name : String} (tokens : List Token)
    (h : 0 < angle → afterAt = false)
    : typeNameFrom angle afterAt name dims tokens
        =
      pure (TypeName.readFrom angle afterAt name dims tokens) := by
  induction tokens generalizing angle afterAt name dims with
  | nil => rfl
  | cons t rest ih =>
    rw [typeNameFrom, TypeName.readFrom]
    -- Inside type arguments only their depth changes, and no sign of an annotation is pending.
    by_cases hangle : 0 < angle
    · rw [if_pos hangle, if_pos hangle]
      obtain rfl := h hangle
      split
      · exact ih fun _ => rfl
      · split
        · rw [sub_eq hangle, pure_bind]
          exact ih fun _ => rfl
        · exact ih fun _ => rfl
    · rw [if_neg hangle, if_neg hangle]
      obtain rfl : angle = 0 := by omega
      cases hident : t.isIdent with
      | true =>
        rw [isPunct_of_isIdent hident, isPunct_of_isIdent hident, Bool.and_true]
        cases afterAt with
        | true => exact ih fun _ => rfl
        | false =>
          simp only [Bool.false_eq_true, ↓reduceIte, Bool.false_or]
          split
          · exact ih fun _ => rfl
          · split
            · rfl
            · exact ih fun _ => rfl
      | false =>
        have hdims : t.isPunctOf ["[", "..."] = (t.isPunct "[" || t.isPunct "...") := by
          simp only [Token.isPunctOf, Token.isPunct, List.contains_cons, List.contains_nil,
            Bool.or_false, Bool.and_or_distrib_left]
        rw [Bool.and_false, hdims]
        simp only [Bool.false_eq_true, ↓reduceIte]
        split
        · exact ih fun _ => rfl
        · split
          · exact ih nofun
          · split
            · exact ih fun _ => rfl
            · split
              · exact ih fun _ => rfl
              · split
                · exact ih fun _ => rfl
                · rfl

theorem typeName_eq (tokens : List Token) : typeName tokens = pure (TypeName.read? tokens) :=
  typeNameFrom_eq tokens nofun

theorem skipDots_eq {part rest : List Token} {pos : Nat} (h : part.drop pos = rest)
    : ∃ pos', skipDots part pos = pure pos' ∧ part.drop pos' = Parameter.dropDotted rest := by
  fun_induction Parameter.dropDotted rest generalizing pos with
  | case1 dot name rest hdot ih =>
    have hlt : pos + 1 < part.length := lt_length (drop_succ h)
    obtain ⟨pos', hrun, hdrop⟩ := ih (drop_add h 2)
    refine ⟨pos', ?_, hdrop⟩
    rw [skipDots, if_pos hlt, get_eq (getElem?_of_drop_cons h), pure_bind, if_pos hdot, hrun]
  | case2 dot name rest hdot =>
    have hlt : pos + 1 < part.length := lt_length (drop_succ h)
    refine ⟨pos, ?_, h⟩
    rw [skipDots, if_pos hlt, get_eq (getElem?_of_drop_cons h), pure_bind, if_neg hdot]
  | case3 rest hrest =>
    have hnot : ¬ pos + 1 < part.length := by
      intro hlt
      rw [List.drop_eq_getElem_cons (Nat.lt_of_succ_lt hlt), List.drop_eq_getElem_cons hlt] at h
      exact hrest _ _ _ h.symm
    refine ⟨pos, ?_, h⟩
    rw [skipDots, if_neg hnot]

theorem skipParameterAnnotations_eq {part rest : List Token} {pos : Nat} (h : part.drop pos = rest)
    : ∃ pos', skipParameterAnnotations part pos = pure pos'
        ∧ part.drop pos' = Parameter.dropAnnotations rest := by
  fun_induction Parameter.dropAnnotations rest generalizing pos with
  | case1 =>
    refine ⟨pos, ?_, h⟩
    rw [skipParameterAnnotations, if_neg (Nat.not_lt.2 (List.drop_eq_nil_iff.1 h))]
  | case2 t rest hsign ih =>
    have htail : part.drop (pos + 2) = rest.tail := by
      rw [drop_add h 2, List.drop_succ_cons, List.drop_one]
    obtain ⟨dots, hdots, hdrop⟩ := skipDots_eq htail
    -- The arguments are skipped, if there are any, and the search goes on behind them.
    obtain ⟨next, hnext, hgroup⟩ : ∃ next,
        (if dots < part.length then do
          let t ← get part dots
          if t.isPunct "(" then do
            let stop ← matchingForward part .round dots
            skipParameterAnnotations part (stop + 1)
          else
            skipParameterAnnotations part dots
        else
          skipParameterAnnotations part dots) = skipParameterAnnotations part next
        ∧ part.drop next = (Bracket.round.group? (Parameter.dropDotted rest.tail)).2 := by
      cases hdotted : Parameter.dropDotted rest.tail with
      | nil =>
        rw [hdotted] at hdrop
        exact ⟨dots, if_neg (Nat.not_lt.2 (List.drop_eq_nil_iff.1 hdrop)), hdrop⟩
      | cons u more =>
        rw [hdotted] at hdrop
        rw [if_pos (lt_length hdrop), get_eq (getElem?_of_drop_cons hdrop), pure_bind]
        split
        · next hopening =>
          obtain ⟨stop, hstop, -, hafter⟩ := matchingForward_eq (b := .round) hdrop hopening
          refine ⟨stop + 1, ?_, ?_⟩
          · rw [hstop, pure_bind]
          · rw [group?_opening hopening, hafter]
        · next hopening =>
          refine ⟨dots, rfl, ?_⟩
          rw [group?_other hopening, hdrop]
    obtain ⟨pos', hrun, hpos'⟩ := ih hgroup
    refine ⟨pos', ?_, hpos'⟩
    rw [skipParameterAnnotations, if_pos (lt_length h), get_eq (getElem?_of_drop_cons h), pure_bind,
      if_pos hsign, hdots, pure_bind, hnext, hrun]
  | case3 t rest hsign =>
    refine ⟨pos, ?_, h⟩
    rw [skipParameterAnnotations, if_pos (lt_length h), get_eq (getElem?_of_drop_cons h), pure_bind,
      if_neg hsign]

theorem parameter_eq (part : List Token) : parameter part = pure (Parameter.read? part) := by
  obtain ⟨pos, hpos, hdrop⟩ := skipParameterAnnotations_eq (part.drop_zero)
  have hslice : slice part (min pos part.length) part.length
      = pure (Parameter.dropAnnotations part) := by
    rw [slice, if_pos ⟨Nat.min_le_right _ _, Nat.le_refl _⟩, List.take_length, ← hdrop]
    rcases Nat.le_total pos part.length with hle | hle
    · rw [Nat.min_eq_left hle]
    · rw [Nat.min_eq_right hle, List.drop_length, List.drop_eq_nil_of_le hle]
  rw [parameter, hpos, pure_bind, hslice, pure_bind, Parameter.read?]
  cases (Parameter.dropAnnotations part).getLast? with
  | none => rfl
  | some name =>
    dsimp only
    split
    · rw [typeName_eq, pure_bind]
    · rfl

def beforeParts (tokens : List Token) : List (List Token) → List (List Token)
  | [] => [tokens]
  | part :: parts => (tokens ++ part) :: parts

theorem beforeParts_nil_cut (depth : Int) (tokens : List Token)
    : beforeParts [] (Parameter.cut depth tokens) = Parameter.cut depth tokens := by
  cases tokens with
  | nil => rfl
  | cons t rest =>
    rw [Parameter.cut]
    split
    · rfl
    · split
      · rfl
      · rfl

theorem parametersFrom_eq {tokens current rest : List Token} {depth : Int} {start pos : Nat}
    (hstart : start ≤ tokens.length) (h : tokens.drop start = current ++ rest)
    (hpos : pos = start + current.length) (found : List Parameter)
    : parametersFrom tokens depth start pos found
        =
      pure (found ++ (beforeParts current (Parameter.cut depth rest)).filterMap Parameter.read?) := by
  -- The tokens from `start` to the cursor are `current`, the parameter that has not ended yet.
  induction rest generalizing depth start pos current found with
  | nil =>
    have hlength := congrArg List.length h
    rw [List.length_drop, List.append_nil] at hlength
    have hend : pos = tokens.length := by omega
    have hslice : slice tokens start pos = pure current := hpos ▸ slice_eq hstart h
    rw [parametersFrom, if_neg (by omega), if_pos hend, hslice, pure_bind, parameter_eq, pure_bind,
      Parameter.cut, beforeParts, List.append_nil, List.filterMap_cons]
    cases Parameter.read? current with
    | none => rfl
    | some p => rfl
  | cons t rest ih =>
    have hdrop : tokens.drop pos = t :: rest := by
      rw [hpos, drop_append h]
    rw [parametersFrom, if_pos (lt_length hdrop), get_eq (getElem?_of_drop_cons hdrop), pure_bind,
      Parameter.cut]
    dsimp only
    split
    · have hslice : slice tokens start pos = pure current := hpos ▸ slice_eq hstart h
      have hnext : tokens.drop (pos + 1) = [] ++ rest := drop_succ hdrop
      rw [hslice, pure_bind, parameter_eq, pure_bind,
        ih (lt_length hdrop) hnext (Nat.add_zero (pos + 1)).symm, beforeParts_nil_cut, beforeParts,
        List.append_nil, List.filterMap_cons, List.append_assoc]
      cases Parameter.read? current with
      | none => rfl
      | some p => rfl
    · have hcurrent : tokens.drop start = (current ++ [t]) ++ rest := by
        rw [h, List.append_assoc, List.singleton_append]
      have hpos' : pos + 1 = start + (current ++ [t]).length := by
        rw [hpos, List.length_append, List.length_singleton, Nat.add_assoc]
      rw [ih hstart hcurrent hpos']
      cases Parameter.cut (depth + Parameter.nesting t) rest with
      | nil => rfl
      | cons part parts =>
        rw [beforeParts, beforeParts, List.append_assoc, List.singleton_append]

theorem parameters_eq (tokens : List Token)
    : parameters tokens = pure (Parameter.readAll tokens) := by
  have hall : tokens.drop 0 = [] ++ tokens := tokens.drop_zero
  rw [parameters, parametersFrom_eq (Nat.zero_le _) hall (Nat.add_zero 0).symm, beforeParts_nil_cut,
    List.nil_append, Parameter.readAll]

end DeprecatedUse.Java.Cursor
