import DeprecatedUse.Java.Outline
import DeprecatedUse.Proofs.Java.Cursor.Groups
import DeprecatedUse.Proofs.Java.Relabelling.Tokens

/-!
This module contains the reading of names, modifiers and the headers of types as runs over an array
of tokens by position. What is read is kept in a draft, in which bodies are regions of the array and
types are accessed by checked places. The runs end without a fault and read what the reader of
declarations reads.
-/

namespace DeprecatedUse.Java.Cursor

/--
The place of a body in the array of tokens, with the parameters that are bound in it.
-/
structure Region where
  owner : Nat
  parameters : List Parameter := []
  start : Nat
  stop : Nat

def Region.body (tokens : List Token) (r : Region) : Body where
  owner := r.owner
  parameters := r.parameters
  tokens := (tokens.take r.stop).drop r.start

structure Draft where
  package : Option String := none
  imports : List Import := []
  entries : List Outline.Entry := []
  regions : List Region := []

namespace Draft

def update (s : Draft) (place : Nat) (f : Outline.Entry → Outline.Entry) : Run Draft :=
  if place < s.entries.length then
    pure { s with entries := s.entries.modify place f }
  else
    throw .index

def addMembers (e : Outline.Entry) (members : List MemberDecl) : Outline.Entry :=
  { e with decl := { e.decl with members := e.decl.members ++ members } }

def addMember (s : Draft) (place : Nat) (member : MemberDecl) : Run Draft :=
  s.update place fun e => addMembers e [member]

def addSupertype (s : Draft) (place : Nat) (name : String) : Run Draft :=
  if name = "" then
    pure s
  else
    s.update place fun e => { e with supertypeNames := e.supertypeNames ++ [name] }

def addRegion (s : Draft) (r : Region) : Draft :=
  { s with regions := s.regions ++ [r] }

end Draft

section Definitions

variable (tokens : List Token)

def at? (pos : Nat) (p : Token → Bool) : Bool :=
  tokens[pos]?.any p

def skipGroup? (b : Bracket) (pos : Nat) : Run (Option (Nat × Nat) × Nat) :=
  if at? tokens pos (·.isPunct b.opening) then do
    let (range, pos) ← skipGroup tokens b pos
    pure (some range, pos)
  else
    pure (none, pos)

def dottedName (name : String) (pos : Nat) : Run (String × Nat) :=
  match tokens[pos]? with
  | none => pure (name, pos)
  | some t =>
    if t.isIdent || (name != "" && t.isPunct "*") then
      if at? tokens (pos + 1) (·.isPunct ".")
          && at? tokens (pos + 2) (fun n => n.isIdent || n.isPunct "*") then
        by apply dottedName; exacts [name ++ t.text ++ ".", pos + 2]
      else
        pure (name ++ t.text, pos + 1)
    else
      pure (name, pos)
partial_fixpoint

def skipAnnotations (pos : Nat) : Run Nat :=
  if at? tokens pos (·.isPunct "@") && at? tokens (pos + 1) Token.isIdent then do
    let (_, pos) ← dottedName tokens "" (pos + 1)
    let (_, pos) ← skipGroup? tokens .round pos
    by apply skipAnnotations; exact pos
  else
    pure pos
partial_fixpoint

def argumentText : Option (Nat × Nat) → Run String
  | none => pure ""
  | some range => do
    let arguments ← slice tokens range.1 range.2
    pure (Reader.spaced arguments)

def modifiers (m : Modifiers) (pos : Nat) : Run (Modifiers × Nat) :=
  match tokens[pos]? with
  | none => pure (m, pos)
  | some t =>
    if t.kind == .doc then
      by apply modifiers; exacts [{ m with doc := some t.text }, pos + 1]
    else if t.isPunct "@"
        && at? tokens (pos + 1) (fun n => n.isIdent && n.text != "interface") then do
      let (name, pos) ← dottedName tokens "" (pos + 1)
      let (range, pos) ← skipGroup? tokens .round pos
      let arguments ← argumentText tokens range
      by
        apply modifiers
        exacts [{ m with annotations := m.annotations ++ [⟨name, arguments⟩] }, pos]
    else if t.isWordOf modifierWords then
      by apply modifiers; exacts [m, pos + 1]
    else
      pure (m, pos)
partial_fixpoint

def supertypes (place : Nat) (s : Draft) (pos : Nat) : Run (Draft × Nat) := do
  let pos ← skipAnnotations tokens pos
  if at? tokens pos (·.isWordOf ["extends", "implements"]) then
    pure (s, pos)
  else do
    let (name, pos) ← dottedName tokens "" pos
    let s ← s.addSupertype place name
    let (_, pos) ← skipGroup? tokens .angle pos
    if at? tokens pos (·.isPunct ",") then
      by apply supertypes; exacts [place, s, pos + 1]
    else
      pure (s, pos)
partial_fixpoint

def header (place : Nat) (s : Draft) (pos : Nat) : Run (Draft × Nat) :=
  match tokens[pos]? with
  | none => pure (s, pos)
  | some t =>
    if t.isPunctOf ["\x7b", ";", "\x7d"] then
      pure (s, pos)
    else if t.isWordOf ["extends", "implements"] then do
      let (s, pos) ← supertypes tokens place s (pos + 1)
      by apply header; exacts [place, s, pos]
    else
      by apply header; exacts [place, s, pos + 1]
partial_fixpoint

end Definitions

/-! Agreement with the reader of declarations. -/

variable {tokens : List Token}

theorem at?_eq {pos : Nat} {rest : List Token} (h : tokens.drop pos = rest) (p : Token → Bool)
    : at? tokens pos p = Reader.starts p rest := by
  cases rest with
  | nil => rw [at?, getElem?_of_drop_nil h, Option.any_none, Reader.starts]
  | cons t rest => rw [at?, getElem?_of_drop_cons h, Option.any_some, Reader.starts]

def Encloses (tokens : List Token) (range : Nat × Nat) (part : List Token) : Prop :=
  range.1 ≤ range.2 ∧ range.2 ≤ tokens.length ∧ (tokens.take range.2).drop range.1 = part

theorem Encloses.slice {range : Nat × Nat} {part : List Token} (h : Encloses tokens range part)
    : slice tokens range.1 range.2 = pure part := by
  rw [Cursor.slice, if_pos ⟨h.1, h.2.1⟩, h.2.2]

theorem encloses_of_drop {start : Nat} {part after : List Token} (hstart : start ≤ tokens.length)
    (h : tokens.drop start = part ++ after)
    : Encloses tokens (start, start + part.length) part := by
  have hlength := congrArg List.length h
  rw [List.length_drop, List.length_append] at hlength
  refine ⟨Nat.le_add_right _ _, ?_, ?_⟩
  · dsimp only
    omega
  · rw [List.drop_take, h, Nat.add_sub_cancel_left, List.take_left]

theorem skipGroup_encloses {rest : List Token} {b : Bracket} {t : Token} {pos : Nat}
    (h : tokens.drop pos = t :: rest) (ht : t.isPunct b.opening = true)
    : ∃ range next, skipGroup tokens b pos = pure (range, next)
        ∧ Encloses tokens range (b.inside rest).1 ∧ tokens.drop next = (b.inside rest).2 := by
  obtain ⟨next, hrun, hnext⟩ := skipGroup_eq h ht
  obtain ⟨after, hafter⟩ := Bracket.inside_isPrefix b rest
  refine ⟨_, next, hrun, ?_, hnext⟩
  apply encloses_of_drop (lt_length h)
  rw [drop_succ h, hafter]

theorem skipGroup?_eq {rest : List Token} {pos : Nat} (h : tokens.drop pos = rest) (b : Bracket)
    : ∃ range next, skipGroup? tokens b pos = pure (range, next)
        ∧ tokens.drop next = (b.group? rest).2
        ∧ (range = none ∧ (b.group? rest).1 = none
          ∨ ∃ r inside, range = some r ∧ (b.group? rest).1 = some inside
            ∧ Encloses tokens r inside) := by
  rw [skipGroup?, at?_eq h]
  cases rest with
  | nil => exact ⟨none, pos, rfl, h, .inl ⟨rfl, rfl⟩⟩
  | cons t rest =>
    rw [Reader.starts]
    split
    · next ht =>
      obtain ⟨range, next, hrun, hrange, hnext⟩ := skipGroup_encloses h ht
      rw [group?_opening ht]
      refine ⟨some range, next, ?_, hnext, .inr ⟨range, _, rfl, rfl, hrange⟩⟩
      rw [hrun, pure_bind]
    · next ht =>
      rw [group?_other ht]
      exact ⟨none, pos, rfl, h, .inl ⟨rfl, rfl⟩⟩

theorem dottedName_eq (name : String) {rest : List Token} {pos : Nat} (h : tokens.drop pos = rest)
    : Reads tokens (dottedName tokens name pos) (Reader.dottedName name rest).1
        (Reader.dottedName name rest).2 := by
  fun_induction Reader.dottedName name rest generalizing pos with
  | case1 name =>
    rw [dottedName, getElem?_of_drop_nil h]
    exact .pure h
  | case2 name t ht dot next more hdot ih =>
    have hnext : tokens.drop (pos + 2) = next :: more := drop_add h 2
    rw [dottedName, getElem?_of_drop_cons h]
    dsimp only
    rw [if_pos ht, at?_eq (drop_succ h), at?_eq hnext, Reader.starts, Reader.starts, if_pos hdot]
    exact ih hnext
  | case3 name t ht dot next more hdot =>
    have hnext : tokens.drop (pos + 2) = next :: more := drop_add h 2
    rw [dottedName, getElem?_of_drop_cons h]
    dsimp only
    rw [if_pos ht, at?_eq (drop_succ h), at?_eq hnext, Reader.starts, Reader.starts, if_neg hdot]
    exact .pure (drop_succ h)
  | case4 name t ht rest hrest =>
    -- Fewer than two tokens are left, so no further part follows.
    have hdot : ¬ (Reader.starts (·.isPunct ".") rest
        && Reader.starts (fun n => n.isIdent || n.isPunct "*") (rest.drop 1)) = true := by
      cases rest with
      | nil => exact Bool.false_ne_true
      | cons dot more =>
        cases more with
        | nil =>
          rw [List.drop_one, List.tail_cons, Reader.starts, Reader.starts, Bool.and_false]
          exact Bool.false_ne_true
        | cons next more => exact absurd rfl (hrest dot next more)
    rw [dottedName, getElem?_of_drop_cons h]
    dsimp only
    rw [if_pos ht, at?_eq (drop_succ h), at?_eq (drop_add h 2), List.drop_succ_cons, if_neg hdot]
    exact .pure (drop_succ h)
  | case5 name t rest ht =>
    rw [dottedName, getElem?_of_drop_cons h]
    dsimp only
    rw [if_neg ht]
    exact .pure h

theorem skipAnnotations_eq {rest : List Token} {pos : Nat} (h : tokens.drop pos = rest)
    : ∃ next, skipAnnotations tokens pos = pure next
        ∧ tokens.drop next = Reader.dropAnnotations rest := by
  fun_induction Reader.dropAnnotations rest generalizing pos with
  | case1 =>
    refine ⟨pos, ?_, h⟩
    rw [skipAnnotations, at?_eq h]
    rfl
  | case2 t rest hsign ih =>
    obtain ⟨named, hname, hnamed⟩ := dottedName_eq "" (drop_succ h)
    obtain ⟨range, behind, hgroup, hbehind, -⟩ := skipGroup?_eq hnamed .round
    obtain ⟨next, hrun, hnext⟩ := ih hbehind
    refine ⟨next, ?_, hnext⟩
    rw [skipAnnotations, at?_eq h, at?_eq (drop_succ h), Reader.starts, if_pos hsign, hname,
      pure_bind]
    dsimp only
    rw [hgroup, pure_bind]
    exact hrun
  | case3 t rest hsign =>
    refine ⟨pos, ?_, h⟩
    rw [skipAnnotations, at?_eq h, at?_eq (drop_succ h), Reader.starts, if_neg hsign]

theorem modifiers_eq (m : Modifiers) {rest : List Token} {pos : Nat} (h : tokens.drop pos = rest)
    : Reads tokens (modifiers tokens m pos) (Reader.modifiers m rest).1
        (Reader.modifiers m rest).2 := by
  fun_induction Reader.modifiers m rest generalizing pos with
  | case1 m =>
    rw [modifiers, getElem?_of_drop_nil h]
    exact .pure h
  | case2 m t rest hdoc ih =>
    rw [modifiers, getElem?_of_drop_cons h]
    dsimp only
    rw [if_pos hdoc]
    exact ih (drop_succ h)
  | case3 m t rest hdoc hword ih =>
    -- A word is no sign, so the loop, which asks for the sign first, comes to the same branch.
    have hident : t.isIdent = true := by
      rw [Token.isWordOf, Bool.and_eq_true] at hword
      exact hword.1
    have hsign := isPunct_of_isIdent hident "@"
    rw [modifiers, getElem?_of_drop_cons h]
    dsimp only
    rw [if_neg hdoc, hsign, Bool.false_and, if_neg Bool.false_ne_true, if_pos hword]
    exact ih (drop_succ h)
  | case4 m t rest hdoc hword hsign name arguments found =>
    rename_i ih
    obtain ⟨named, hname, hnamed⟩ := dottedName_eq "" (drop_succ h)
    obtain ⟨range, behind, hgroup, hbehind, hrange⟩ := skipGroup?_eq hnamed .round
    have htext : argumentText tokens range = pure ((arguments.1.map Reader.spaced).getD "") := by
      rcases hrange with ⟨rfl, hnone⟩ | ⟨r, inside, rfl, hsome, hencloses⟩
      · rw [argumentText, show arguments.1 = none from hnone]
        rfl
      · rw [argumentText, hencloses.slice, pure_bind, show arguments.1 = some inside from hsome]
        rfl
    rw [modifiers, getElem?_of_drop_cons h]
    dsimp only
    rw [if_neg hdoc, at?_eq (drop_succ h), if_pos hsign, hname, pure_bind]
    dsimp only
    rw [hgroup, pure_bind]
    dsimp only
    rw [htext, pure_bind]
    exact ih hbehind
  | case5 m t rest hdoc hword hsign =>
    rw [modifiers, getElem?_of_drop_cons h]
    dsimp only
    rw [if_neg hdoc, at?_eq (drop_succ h), if_neg hsign, if_neg hword]
    exact .pure h

namespace Draft

def withSupertypes (s : Draft) (place : Nat) (names : List String) : Draft :=
  { s with entries := s.entries.modify place fun e => { e with supertypeNames := names } }

theorem addSupertype_eq {s : Draft} {place : Nat} (h : place < s.entries.length)
    (names : List String) (name : String)
    : (s.withSupertypes place names).addSupertype place name
        =
      pure (s.withSupertypes place (if name = "" then names else names ++ [name])) := by
  have hplace : place < (s.withSupertypes place names).entries.length := by
    rw [withSupertypes, List.length_modify]
    exact h
  rw [addSupertype]
  split
  · rfl
  · rw [update, if_pos hplace, withSupertypes]
    dsimp only
    rw [List.modify_modify_eq]
    rfl

end Draft

theorem supertypes_step {s : Draft} {place pos : Nat} {rest : List Token}
    (hplace : place < s.entries.length) (h : tokens.drop pos = rest) (names : List String)
    (hclause : ¬ Reader.starts (·.isWordOf ["extends", "implements"]) (Reader.dropAnnotations rest)
      = true)
    : ∃ next,
        supertypes tokens place (s.withSupertypes place names) pos
          = (let name := (Reader.dottedName "" (Reader.dropAnnotations rest)).1
            let s := s.withSupertypes place (if name = "" then names else names ++ [name])
            if at? tokens next (·.isPunct ",") then supertypes tokens place s (next + 1)
            else pure (s, next))
        ∧ tokens.drop next = (Bracket.angle.group?
            (Reader.dottedName "" (Reader.dropAnnotations rest)).2).2 := by
  obtain ⟨start, hannotations, hstart⟩ := skipAnnotations_eq h
  obtain ⟨named, hname, hnamed⟩ := dottedName_eq "" hstart
  obtain ⟨range, next, hgroup, hnext, -⟩ := skipGroup?_eq hnamed .angle
  refine ⟨next, ?_, hnext⟩
  rw [supertypes, hannotations, pure_bind, at?_eq hstart, if_neg hclause, hname, pure_bind]
  dsimp only
  rw [Draft.addSupertype_eq hplace, pure_bind, hgroup, pure_bind]

theorem supertypes_eq (names : List String) {s : Draft} {place pos : Nat} {rest : List Token}
    (hplace : place < s.entries.length) (h : tokens.drop pos = rest)
    : Reads tokens (supertypes tokens place (s.withSupertypes place names) pos)
        (s.withSupertypes place (Reader.supertypeNames names rest).1)
        (Reader.supertypeNames names rest).2 := by
  fun_induction Reader.supertypeNames names rest generalizing pos with
  | case1 names rest rest' =>
    rename_i hclause
    obtain ⟨start, hannotations, hstart⟩ := skipAnnotations_eq h
    rw [supertypes, hannotations, pure_bind, at?_eq hstart, if_pos hclause]
    exact .pure hstart
  | case2 names rest rest' hclause name names' =>
    rename_i hgroup
    obtain ⟨next, hrun, hnext⟩ := supertypes_step hplace h names hclause
    have hnil : tokens.drop next = [] := hnext.trans hgroup
    rw [hrun, at?_eq hnil]
    exact .pure hnil
  | case3 names rest rest' hclause name names' t more hgroup hlt hcomma =>
    rename_i ih
    obtain ⟨next, hrun, hnext⟩ := supertypes_step hplace h names hclause
    have hcons : tokens.drop next = t :: more := hnext.trans hgroup
    rw [hrun, at?_eq hcons, Reader.starts]
    dsimp only
    rw [if_pos hcomma]
    exact ih (drop_succ hcons)
  | case4 names rest rest' hclause name names' t more hgroup hlt =>
    rename_i hcomma
    obtain ⟨next, hrun, hnext⟩ := supertypes_step hplace h names hclause
    have hcons : tokens.drop next = t :: more := hnext.trans hgroup
    rw [hrun, at?_eq hcons, Reader.starts]
    dsimp only
    rw [if_neg hcomma]
    exact .pure hcons

theorem supertypeNames_append (before names : List String) (rest : List Token)
    : Reader.supertypeNames (before ++ names) rest
        =
      (before ++ (Reader.supertypeNames names rest).1, (Reader.supertypeNames names rest).2) := by
  -- A name that has been read is only ever put at the end.
  have hnames : ∀ (name : String) (names : List String),
      before ++ (if name = "" then names else names ++ [name])
        = if name = "" then before ++ names else before ++ names ++ [name] := by
    intro name names
    split
    · rfl
    · exact (List.append_assoc _ _ _).symm
  fun_induction Reader.supertypeNames names rest with
  | case1 names rest rest' hclause =>
    rw [Reader.supertypeNames, if_pos hclause]
  | case2 names rest rest' hclause name names' hgroup =>
    rw [Reader.supertypeNames_eq, if_neg hclause]
    dsimp only
    rw [hgroup, ← hnames]
    rfl
  | case3 names rest rest' hclause name names' t more hgroup hlt hcomma ih =>
    rw [Reader.supertypeNames_eq, if_neg hclause]
    dsimp only
    rw [hgroup]
    dsimp only
    rw [if_pos hcomma, ← hnames]
    exact ih
  | case4 names rest rest' hclause name names' t more hgroup hlt hcomma =>
    rw [Reader.supertypeNames_eq, if_neg hclause]
    dsimp only
    rw [hgroup]
    dsimp only
    rw [if_neg hcomma, ← hnames]
    rfl

theorem header_eq (names : List String) {s : Draft} {place pos : Nat} {rest : List Token}
    (hplace : place < s.entries.length) (h : tokens.drop pos = rest)
    : Reads tokens (header tokens place (s.withSupertypes place names) pos)
        (s.withSupertypes place (Reader.header names rest).1) (Reader.header names rest).2 := by
  fun_induction Reader.header names rest generalizing pos with
  | case1 names =>
    rw [header, getElem?_of_drop_nil h]
    exact .pure h
  | case2 names t rest hend =>
    rw [header, getElem?_of_drop_cons h]
    dsimp only
    rw [if_pos hend]
    exact .pure h
  | case3 names t rest hend hword clause =>
    rename_i ih
    obtain ⟨next, hrun, hnext⟩ := supertypes_eq names hplace (drop_succ h)
    have hclause := supertypeNames_append names [] rest
    rw [List.append_nil] at hclause
    rw [hclause] at hrun hnext
    rw [header, getElem?_of_drop_cons h]
    dsimp only
    rw [if_neg hend, if_pos hword, hrun, pure_bind]
    exact ih hnext
  | case4 names t rest hend hword ih =>
    rw [header, getElem?_of_drop_cons h]
    dsimp only
    rw [if_neg hend, if_neg hword]
    exact ih (drop_succ h)

end DeprecatedUse.Java.Cursor
