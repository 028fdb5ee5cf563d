import DeprecatedUse.Proofs.Java.Cursor.Groups
import DeprecatedUse.Proofs.Java.Relabelling.Uses

/-!
This module contains the reading of the declarations of local variables as runs over the tokens up to
the end of a body, by position. The depth of type arguments is counted with checked differences, and
the written type is a checked part of the tokens. The runs end without a fault and find the local
variables that the search of token lists finds.
-/

namespace DeprecatedUse.Java.Cursor

section Definitions

variable (part : List Token)

def skipWhile (p : Token → Bool) (pos : Nat) : Run Nat :=
  if part[pos]?.any p then (by apply skipWhile; exacts [p, pos + 1]) else pure pos
partial_fixpoint

def skipPairs (p q : Token → Bool) (pos : Nat) : Run Nat :=
  if part[pos]?.any p && part[pos + 1]?.any q then
    by apply skipPairs; exacts [p, q, pos + 2]
  else
    pure pos
partial_fixpoint

def skipArgumentsFrom (depth pos : Nat) : Run (Option Nat) :=
  match part[pos]? with
  | none => pure none
  | some t =>
    if t.isPunct "<" then
      by apply skipArgumentsFrom; exacts [depth + 1, pos + 1]
    else if t.isPunct ">" then do
      let depth ← sub depth 1
      if depth = 0 then
        pure (some (pos + 1))
      else
        by apply skipArgumentsFrom; exacts [depth, pos + 1]
    else if t.isIdent || t.isPunctOf [".", ",", "?", "&", "[", "]", "@"] then
      by apply skipArgumentsFrom; exacts [depth, pos + 1]
    else
      pure none
partial_fixpoint

def skipArguments (pos : Nat) : Run (Option Nat) :=
  if part[pos]?.any (·.isPunct "<") then skipArgumentsFrom part 0 pos else pure (some pos)

def skipDims (pos : Nat) : Run Nat :=
  skipPairs part (·.isPunct "[") (·.isPunct "]") pos

def inferredType (pos : Nat) : Run (Option TypeName) :=
  if part[pos]?.any (·.isPunct "=") && part[pos + 1]?.any (·.isWord "new") then do
    let stop ← skipWhile part (fun t => t.isIdent || t.isPunct ".") (pos + 2)
    if part[stop]?.any (·.isPunctOf ["(", "<"]) then do
      let written ← slice part (pos + 2) stop
      typeName written
    else
      pure none
  else
    pure none

def usedType (after : Nat) (written : Option TypeName) : Run (Option TypeName) :=
  if written.any (·.name == "var") then inferredType part after else pure written

/--
The type of the local variable whose type is written from `first` on, whose name stands at `named`,
and whose name and brackets end before `after`.
-/
def localType (first named after : Nat) : Run (Option TypeName) := do
  let written ← slice part first named
  let type ← typeName written
  let type ← usedType part after type
  pure (if named + 1 < after then none else type)

def declarator (pattern : Bool) (first named : Nat) : Run (Option (Option TypeName × Nat)) :=
  match part[named]? with
  | none => pure none
  | some name =>
    if Access.isPlain name then do
      let after ← skipDims part (named + 1)
      if pattern || part[after]?.all (·.isPunctOf ["=", ";", ":", ",", ")"]) then do
        let type ← localType part first named after
        pure (some (type, named))
      else
        pure none
    else
      pure none

def declaration (pattern : Bool) (pos : Nat) : Run (Option (Option TypeName × Nat)) := do
  let first ← skipWhile part (·.isWord "final") pos
  match part[first]? with
  | none => pure none
  | some t =>
    if Access.isPlain t then do
      let behind ← skipPairs part (·.isPunct ".") Token.isIdent (first + 1)
      match ← skipArguments part behind with
      | none => pure none
      | some behind => do
        let named ← skipDims part behind
        declarator part pattern first named
    else
      pure none

end Definitions

/-! Splits of token lists. -/

theorem splitDotted_append (tokens : List Token)
    : (Access.splitDotted tokens).1 ++ (Access.splitDotted tokens).2 = tokens := by
  fun_induction Access.splitDotted tokens with
  | case1 dot name rest hmark taken after hsplit ih =>
    rw [hsplit] at ih
    rw [List.cons_append, List.cons_append, ih]
  | case2 => rfl
  | case3 => rfl

theorem splitDims_append (tokens : List Token)
    : (Access.splitDims tokens).1 ++ (Access.splitDims tokens).2 = tokens := by
  fun_induction Access.splitDims tokens with
  | case1 opening closing rest hmark taken after hsplit ih =>
    rw [hsplit] at ih
    rw [List.cons_append, List.cons_append, ih]
  | case2 => rfl
  | case3 => rfl

theorem splitArgumentsFrom?_append {depth : Nat} {tokens taken after : List Token}
    (h : Access.splitArgumentsFrom? depth tokens = some (taken, after)) : taken ++ after = tokens := by
  induction tokens generalizing depth taken after with
  | nil => cases h
  | cons t rest ih =>
    have hmap : ∀ {depth'},
        ((Access.splitArgumentsFrom? depth' rest).map fun split => (t :: split.1, split.2))
          = some (taken, after) → taken ++ after = t :: rest := by
      intro depth' hmap
      obtain ⟨⟨taken', after'⟩, hsplit, heq⟩ := Option.map_eq_some_iff.1 hmap
      rw [Prod.mk.injEq] at heq
      obtain ⟨rfl, rfl⟩ := heq
      rw [List.cons_append, ih hsplit]
    rw [Access.splitArgumentsFrom?] at h
    split at h
    · exact hmap h
    · split at h
      · split at h
        · rw [Option.some.injEq, Prod.mk.injEq] at h
          obtain ⟨rfl, rfl⟩ := h
          rfl
        · exact hmap h
      · split at h
        · exact hmap h
        · cases h

theorem splitArguments?_append {tokens taken after : List Token}
    (h : Access.splitArguments? tokens = some (taken, after)) : taken ++ after = tokens := by
  unfold Access.splitArguments? at h
  split at h
  · exact splitArgumentsFrom?_append h
  · rw [Option.some.injEq, Prod.mk.injEq] at h
    obtain ⟨rfl, rfl⟩ := h
    rfl

/-! Agreement with the splits. -/

variable {part rest : List Token} {pos : Nat}

theorem any_getElem?_of_drop (h : part.drop pos = rest) (p : Token → Bool)
    : part[pos]?.any p = Access.starts p rest := by
  cases rest with
  | nil => rw [getElem?_of_drop_nil h, Option.any_none, Access.starts]
  | cons t rest => rw [getElem?_of_drop_cons h, Option.any_some, Access.starts]

theorem skipWhile_eq (p : Token → Bool) (h : part.drop pos = rest)
    : skipWhile part p pos = pure (pos + (rest.takeWhile p).length) := by
  induction rest generalizing pos with
  | nil =>
    rw [skipWhile, any_getElem?_of_drop h]
    rfl
  | cons t rest ih =>
    rw [skipWhile, any_getElem?_of_drop h, Access.starts, List.takeWhile_cons]
    split
    · rw [ih (drop_succ h), List.length_cons, Nat.add_assoc, Nat.add_comm 1]
    · rfl

theorem skipPairs_next {p q : Token → Bool} {t t' : Token} (h : part.drop pos = t :: t' :: rest)
    : skipPairs part p q pos
        =
      if p t && q t' then skipPairs part p q (pos + 2) else pure pos := by
  rw [skipPairs, any_getElem?_of_drop h, any_getElem?_of_drop (drop_succ h)]
  rfl

theorem skipPairs_short {p q : Token → Bool} (h : part.drop pos = rest)
    (hrest : ∀ t t' more, rest = t :: t' :: more → False) : skipPairs part p q pos = pure pos := by
  rw [skipPairs, any_getElem?_of_drop h, any_getElem?_of_drop (drop_add h 1)]
  match rest with
  | [] => rfl
  | [t] =>
    rw [List.drop_succ_cons, List.drop_zero, Access.starts, Access.starts, Bool.and_false]
    rfl
  | t :: t' :: more => exact absurd rfl (hrest t t' more)

theorem skipDotted_eq (h : part.drop pos = rest)
    : skipPairs part (·.isPunct ".") Token.isIdent pos
        =
      pure (pos + (Access.splitDotted rest).1.length) := by
  fun_induction Access.splitDotted rest generalizing pos with
  | case1 dot name rest hmark taken after hsplit ih =>
    rw [skipPairs_next h, if_pos hmark, ih (drop_add h 2), hsplit, List.length_cons, List.length_cons,
      Nat.add_assoc, Nat.add_comm 2]
  | case2 dot name rest hmark => rw [skipPairs_next h, if_neg hmark, List.length_nil, Nat.add_zero]
  | case3 tokens hshort => rw [skipPairs_short h hshort, List.length_nil, Nat.add_zero]

theorem skipDims_eq (h : part.drop pos = rest)
    : skipDims part pos = pure (pos + (Access.splitDims rest).1.length) := by
  unfold skipDims
  fun_induction Access.splitDims rest generalizing pos with
  | case1 opening closing rest hmark taken after hsplit ih =>
    rw [skipPairs_next h, if_pos hmark, ih (drop_add h 2), hsplit, List.length_cons, List.length_cons,
      Nat.add_assoc, Nat.add_comm 2]
  | case2 opening closing rest hmark =>
    rw [skipPairs_next h, if_neg hmark, List.length_nil, Nat.add_zero]
  | case3 tokens hshort => rw [skipPairs_short h hshort, List.length_nil, Nat.add_zero]

theorem skipArgumentsFrom_eq (depth : Nat) (h : part.drop pos = rest)
    : skipArgumentsFrom part (depth + 1) pos
        =
      pure ((Access.splitArgumentsFrom? (depth + 1) rest).map fun split => pos + split.1.length) := by
  induction rest generalizing depth pos with
  | nil =>
    rw [skipArgumentsFrom, getElem?_of_drop_nil h]
    rfl
  | cons t rest ih =>
    -- The arguments that are found behind `t` are one token longer with it.
    have hcons : ∀ depth, ((Access.splitArgumentsFrom? depth rest).map fun split =>
          pos + 1 + split.1.length)
        = ((Access.splitArgumentsFrom? depth rest).map fun split => (t :: split.1, split.2)).map
            fun split => pos + split.1.length := by
      intro depth
      rw [Option.map_map]
      congr 1
      funext split
      change _ = pos + (split.1.length + 1)
      omega
    rw [skipArgumentsFrom, getElem?_of_drop_cons h, Access.splitArgumentsFrom?]
    dsimp only
    split
    · rw [ih _ (drop_succ h), hcons]
    · split
      · rw [sub_eq (by omega), pure_bind, Nat.add_sub_cancel]
        split
        · next hdepth => rw [if_pos (by omega), Option.map_some, List.length_singleton]
        · next hdepth =>
          obtain ⟨depth, rfl⟩ := Nat.exists_eq_succ_of_ne_zero hdepth
          rw [if_neg (by omega), ih _ (drop_succ h), hcons]
      · split
        · rw [ih _ (drop_succ h), hcons]
        · rfl

theorem skipArguments_eq (h : part.drop pos = rest)
    : skipArguments part pos
        =
      pure ((Access.splitArguments? rest).map fun split => pos + split.1.length) := by
  rw [skipArguments, any_getElem?_of_drop h, Access.splitArguments?]
  split
  · next hangle =>
    cases rest with
    | nil => cases hangle
    | cons t rest =>
      rw [Access.starts] at hangle
      rw [skipArgumentsFrom, getElem?_of_drop_cons h, Access.splitArgumentsFrom?]
      dsimp only
      rw [if_pos hangle, if_pos hangle, skipArgumentsFrom_eq 0 (drop_succ h), Option.map_map]
      congr 2
      funext split
      change _ = pos + (split.1.length + 1)
      omega
  · rfl

theorem inferredType_eq (h : part.drop pos = rest)
    : inferredType part pos = pure (Access.inferredType? rest) := by
  rw [inferredType, any_getElem?_of_drop h, any_getElem?_of_drop (drop_add h 1)]
  match rest with
  | [] => rfl
  | [equals] =>
    rw [List.drop_succ_cons, List.drop_zero, Access.starts, Access.starts, Bool.and_false]
    rfl
  | equals :: new :: rest =>
    rw [List.drop_succ_cons, List.drop_zero, Access.starts, Access.starts, Access.inferredType?]
    have hrest : part.drop (pos + 2) = rest := drop_add h 2
    have hsplit := List.takeWhile_append_dropWhile (p := fun t : Token => t.isIdent || t.isPunct ".")
      (l := rest)
    have hstop := hrest.trans hsplit.symm
    have hle : pos + 2 ≤ part.length := by
      have := lt_length (drop_succ h)
      omega
    split
    · rw [skipWhile_eq _ hrest, pure_bind, any_getElem?_of_drop (drop_append hstop)]
      dsimp only
      split
      · rw [slice_eq hle hstop, pure_bind, typeName_eq]
      · rfl
    · rfl

theorem localType_eq {type dims after : List Token} {name : Token} (hle : pos ≤ part.length)
    (h : part.drop pos = type ++ name :: (dims ++ after))
    : localType part pos (pos + type.length) (pos + type.length + 1 + dims.length)
        =
      pure (if !dims.isEmpty then none
        else if (TypeName.read? type).any (·.name == "var") then Access.inferredType? after
        else TypeName.read? type) := by
  have hafter : part.drop (pos + type.length + 1 + dims.length) = after :=
    drop_append (drop_succ (drop_append h))
  have hdims : pos + type.length + 1 < pos + type.length + 1 + dims.length ↔ (!dims.isEmpty) = true := by
    cases dims <;> simp
  rw [localType, slice_eq hle h, pure_bind, typeName_eq, pure_bind, usedType, inferredType_eq hafter,
    ← apply_ite pure, pure_bind]
  simp only [hdims]

def Declares (part : List Token) (pos : Nat) (run : Run (Option (Option TypeName × Nat))) :
    Option Access.Local → Prop
  | none => run = pure none
  | some v => ∃ named name, run = pure (some (v.type, named)) ∧ part[named]? = some name
      ∧ name.text = v.name ∧ pos ≤ named ∧ named + 1 = pos + v.length

theorem all_getElem?_of_drop (h : part.drop pos = rest)
    : part[pos]?.all (·.isPunctOf ["=", ";", ":", ",", ")"]) = Access.endsDeclarator rest := by
  cases rest with
  | nil => rw [getElem?_of_drop_nil h, Option.all_none, Access.endsDeclarator]
  | cons t rest => rw [getElem?_of_drop_cons h, Option.all_some, Access.endsDeclarator]

def localBehind (pattern : Bool) (tokens type : List Token) : List Token → Option Access.Local
  | [] => none
  | name :: rest =>
    let (dims, after) := Access.splitDims rest
    if Access.isPlain name && (pattern || Access.endsDeclarator after) then
      let type :=
        if !dims.isEmpty then none
        else if (TypeName.read? type).any (·.name == "var") then Access.inferredType? after
        else TypeName.read? type
      some ⟨name.text, type, tokens.length - rest.length⟩
    else
      none

theorem local?_eq (pattern : Bool) (tokens : List Token)
    : Access.local? pattern tokens
        =
      (Access.splitType? (tokens.dropWhile (·.isWord "final"))).bind fun split =>
        localBehind pattern tokens split.1 split.2 := by
  rw [Access.local?]
  cases Access.splitType? (tokens.dropWhile (·.isWord "final")) with
  | none => rfl
  | some split =>
    obtain ⟨type, rest⟩ := split
    cases rest with
    | nil => rfl
    | cons name rest => rfl

theorem declarator_eq {pattern : Bool} {first start : Nat} {tokens type : List Token}
    (hle : first ≤ part.length) (h : part.drop first = type ++ rest)
    (htokens : tokens.length = first - start + type.length + rest.length) (hstart : start ≤ first)
    : Declares part start (declarator part pattern first (first + type.length))
        (localBehind pattern tokens type rest) := by
  have hnamed := drop_append h
  rw [declarator]
  cases rest with
  | nil =>
    rw [getElem?_of_drop_nil hnamed]
    rfl
  | cons name rest =>
    have hsplit := splitDims_append rest
    have hdims : part.drop (first + type.length + 1)
        = (Access.splitDims rest).1 ++ (Access.splitDims rest).2 := (drop_succ hnamed).trans hsplit.symm
    rw [← hsplit] at h
    rw [getElem?_of_drop_cons hnamed, localBehind]
    dsimp only
    rw [skipDims_eq (drop_succ hnamed), pure_bind, all_getElem?_of_drop (drop_append hdims),
      localType_eq hle h, pure_bind]
    cases Access.isPlain name with
    | false => rfl
    | true =>
      rw [if_pos rfl, Bool.true_and]
      split
      · refine ⟨_, name, rfl, getElem?_of_drop_cons hnamed, rfl, by omega, ?_⟩
        rw [List.length_cons] at htokens
        dsimp only
        omega
      · rfl

theorem declaration_eq (pattern : Bool) (h : part.drop pos = rest)
    : Declares part pos (declaration part pattern pos) (Access.local? pattern rest) := by
  have hfinal := List.takeWhile_append_dropWhile (p := (·.isWord "final")) (l := rest)
  have hfirst : part.drop (pos + (rest.takeWhile (·.isWord "final")).length)
      = rest.dropWhile (·.isWord "final") := drop_append (h.trans hfinal.symm)
  have hlength := congrArg List.length hfinal
  rw [List.length_append] at hlength
  rw [declaration, skipWhile_eq _ h, pure_bind, local?_eq]
  generalize (rest.takeWhile (·.isWord "final")).length = count at hfirst hlength
  cases hwritten : rest.dropWhile (·.isWord "final") with
  | nil =>
    rw [hwritten] at hfirst
    rw [getElem?_of_drop_nil hfirst]
    rfl
  | cons t written =>
    rw [hwritten] at hfirst hlength
    rw [getElem?_of_drop_cons hfirst, Access.splitType?]
    dsimp only
    -- The parts of the type follow each other, and behind each one both readers stand alike.
    cases Access.isPlain t with
    | false => rfl
    | true =>
      have hnames := splitDotted_append written
      rw [if_pos rfl, if_pos rfl, skipDotted_eq (drop_succ hfirst), pure_bind]
      cases hsplit : Access.splitDotted written with
      | mk names behind =>
        rw [hsplit] at hnames
        dsimp only at hnames ⊢
        have hbehind : part.drop (pos + count + 1 + names.length) = behind :=
          drop_append ((drop_succ hfirst).trans hnames.symm)
        rw [skipArguments_eq hbehind, pure_bind]
        cases hfound : Access.splitArguments? behind with
        | none => rfl
        | some found =>
          obtain ⟨arguments, behind'⟩ := found
          have harguments := splitArguments?_append hfound
          have hbehind' : part.drop (pos + count + 1 + names.length + arguments.length) = behind' :=
            drop_append (hbehind.trans harguments.symm)
          have hdims := splitDims_append behind'
          have hlast : pos + count + 1 + names.length + arguments.length
              + (Access.splitDims behind').1.length
                = pos + count + (t :: names ++ arguments ++ (Access.splitDims behind').1).length := by
            simp only [List.length_append, List.length_cons]
            omega
          have htype : t :: written
              = (t :: names ++ arguments ++ (Access.splitDims behind').1)
                ++ (Access.splitDims behind').2 := by
            rw [List.append_assoc, hdims, List.append_assoc, harguments, List.cons_append, hnames]
          dsimp only [Option.map_some]
          rw [skipDims_eq hbehind', pure_bind, hlast]
          apply declarator_eq (Nat.le_of_lt (lt_length hfirst)) (hfirst.trans htype)
          · rw [← hlength, htype, List.length_append]
            omega
          · exact Nat.le_add_right _ _

end DeprecatedUse.Java.Cursor
