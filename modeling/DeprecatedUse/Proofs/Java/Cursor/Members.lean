import DeprecatedUse.Proofs.Java.Cursor.Headers
import DeprecatedUse.Proofs.Java.Reading
import Mathlib.Data.List.TakeWhile

/-!
This module contains the reading of the members of types as runs over an array of tokens by
position. A draft stands for the outline whose bodies are the regions of the draft; as long as the
regions lie in the array and belong to types of the draft, a run that reads a member ends without a
fault and gives the draft of what the reader of declarations gives.
-/

namespace DeprecatedUse.Java.Cursor

section Definitions

variable (tokens : List Token)

def memberMark (angle pos : Nat) : Run Nat :=
  match tokens[pos]? with
  | none => pure pos
  | some t =>
    if t.isPunct "<" then
      by apply memberMark; exacts [angle + 1, pos + 1]
    else if t.isPunct ">" then
      by apply memberMark; exacts [angle - 1, pos + 1]
    else if angle = 0 && t.isPunctOf ["(", "=", ";", ",", "\x7b", "\x7d"] then
      pure pos
    else
      by apply memberMark; exacts [angle, pos + 1]
partial_fixpoint

def nameBefore (start mark : Nat) : Run (Option Token) :=
  if mark = 0 || mark - 1 < start then
    pure none
  else do
    let name ← get tokens (mark - 1)
    pure (if name.isIdent then some name else none)

def methodBody (owner : Nat) (bound : List Parameter) (s : Draft) (pos : Nat) : Run (Draft × Nat) :=
  match tokens[pos]? with
  | none => pure (s, pos)
  | some t =>
    if t.isPunct "\x7b" then do
      let (range, next) ← skipGroup tokens .curly pos
      pure (s.addRegion ⟨owner, bound, range.1, range.2⟩, next)
    else if t.isPunct ";" then
      pure (s, pos + 1)
    else if t.isPunct "\x7d" then
      pure (s, pos)
    else
      by apply methodBody; exacts [owner, bound, s, pos + 1]
partial_fixpoint

def method (owner : Nat) (m : Modifiers) (start mark : Nat) (s : Draft) : Run (Draft × Nat) := do
  let name ← nameBefore tokens start mark
  let (range, pos) ← skipGroup tokens .round mark
  let inside ← slice tokens range.1 range.2
  let bound ← parameters inside
  let (s, pos) ← methodBody tokens owner bound s pos
  match name with
  | none => pure (s, pos)
  | some name => do
    let last ← sub mark 1
    let kind := if last = start then .constructor else .method
    let s ← s.addMember owner
      { name := name.text, kind := kind, deprecation := m.deprecation?, span := name.span }
    pure (s, pos)

def lastIdent (start pos : Nat) : Run Nat :=
  if start < pos then do
    let pos ← sub pos 1
    let t ← get tokens pos
    if t.isIdent then pure pos else by apply lastIdent; exacts [start, pos]
  else
    pure pos
partial_fixpoint

def skipDimensions (pos : Nat) : Run Nat :=
  if at? tokens pos Reader.isDimension then (by apply skipDimensions; exact pos + 1) else pure pos
partial_fixpoint

def declarators (owner : Nat) (field : Token → MemberDecl) (s : Draft) (pos : Nat) :
    Run (Draft × Nat) :=
  match tokens[pos]? with
  | none => pure (s, pos)
  | some t =>
    if t.isPunct "=" then do
      let stop ← expressionEnd tokens (pos + 1) tokens.length
      by
        apply declarators
        exacts [owner, field, s.addRegion { owner := owner, start := pos + 1, stop := stop }, stop]
    else if t.isPunct "," then
      match tokens[pos + 1]? with
      | none => do
        let next ← skipDimensions tokens (pos + 1)
        by apply declarators; exacts [owner, field, s, next]
      | some name =>
        if name.isIdent then do
          let s ← s.addMember owner (field name)
          let next ← skipDimensions tokens (pos + 2)
          by apply declarators; exacts [owner, field, s, next]
        else do
          let next ← skipDimensions tokens (pos + 1)
          by apply declarators; exacts [owner, field, s, next]
    else if t.isPunct ";" then
      pure (s, pos + 1)
    else
      pure (s, pos)
partial_fixpoint

def fields (owner : Nat) (m : Modifiers) (start mark : Nat) (s : Draft) : Run (Draft × Nat) := do
  let last ← lastIdent tokens start mark
  let name ← get tokens last
  if !name.isIdent || last = start then
    pure (s, mark + 1)
  else do
    let written ← slice tokens start last
    let type ← typeName written
    let field := fun t : Token =>
      { name := t.text, kind := .field, type := type, deprecation := m.deprecation?,
        span := t.span : MemberDecl }
    let s ← s.addMember owner (field name)
    declarators tokens owner field s mark

def member (owner : Nat) (m : Modifiers) (s : Draft) (pos : Nat) : Run (Draft × Nat) := do
  let (_, start) ← skipGroup? tokens .angle pos
  let mark ← memberMark tokens 0 start
  match tokens[mark]? with
  | none => pure (s, tokens.length)
  | some t =>
    if t.isPunct "\x7d" then
      pure (s, mark)
    else if t.isPunct "(" then
      method tokens owner m start mark s
    else if t.isPunct "\x7b" then do
      let (range, next) ← skipGroup tokens .curly mark
      pure (s.addRegion { owner := owner, start := range.1, stop := range.2 }, next)
    else
      fields tokens owner m start mark s

end Definitions

/-! Drafts and outlines. -/

namespace Draft

def outline (tokens : List Token) (s : Draft) : Outline where
  package := s.package
  imports := s.imports
  entries := s.entries
  bodies := s.regions.map (Region.body tokens)

/--
Every region lies in the array and belongs to a type of the draft, and every type stands behind the
type that encloses it.
-/
structure Valid (tokens : List Token) (s : Draft) : Prop where
  regions : ∀ r, r ∈ s.regions →
    r.owner < s.entries.length ∧ r.start ≤ r.stop ∧ r.stop ≤ tokens.length
  outer : ∀ (place : Nat) (e : Outline.Entry) (outer : Nat), s.entries[place]? = some e →
    e.decl.outer = some outer → outer < place

theorem Valid.addRegion {tokens : List Token} {s : Draft} {r : Region} {part : List Token}
    (h : s.Valid tokens) (howner : r.owner < s.entries.length)
    (hpart : Encloses tokens (r.start, r.stop) part) : (s.addRegion r).Valid tokens := by
  refine ⟨?_, h.outer⟩
  intro r' hr'
  rw [Draft.addRegion, List.mem_append, List.mem_singleton] at hr'
  rcases hr' with hr' | rfl
  · exact h.regions r' hr'
  · exact ⟨howner, hpart.1, hpart.2.1⟩

theorem outline_addRegion {tokens : List Token} {s : Draft} {r : Region} {part : List Token}
    (hpart : Encloses tokens (r.start, r.stop) part)
    : (s.addRegion r).outline tokens
        =
      (s.outline tokens).addBody { owner := r.owner, parameters := r.parameters, tokens := part } := by
  have hbody : r.body tokens = { owner := r.owner, parameters := r.parameters, tokens := part } := by
    rw [Region.body, hpart.2.2]
  unfold Draft.addRegion outline Outline.addBody
  dsimp only
  rw [List.map_append, List.map_singleton, hbody]

theorem addMember_eq {tokens : List Token} {s : Draft} {place : Nat} (h : s.Valid tokens)
    (hplace : place < s.entries.length) (member : MemberDecl)
    : ∃ s', s.addMember place member = pure s' ∧ s'.Valid tokens
        ∧ s'.outline tokens = (s.outline tokens).addMember place member
        ∧ s'.entries.length = s.entries.length := by
  refine ⟨_, if_pos hplace, ⟨?_, ?_⟩, rfl, List.length_modify _ _ _⟩
  · intro r hr
    dsimp only
    rw [List.length_modify]
    exact h.regions r hr
  · intro p e outer he houter
    dsimp only at he
    rw [List.getElem?_modify, Option.map_eq_map, Option.map_eq_some_iff] at he
    obtain ⟨e', he', rfl⟩ := he
    apply h.outer p e' outer he'
    rw [← houter]
    split
    · rfl
    · rfl

end Draft

def Follows (tokens : List Token) (run : Run (Draft × Nat)) (o : Outline) (rest : List Token) :
    Prop :=
  ∃ s pos, run = pure (s, pos) ∧ s.Valid tokens ∧ s.outline tokens = o ∧ tokens.drop pos = rest

theorem Follows.pure {tokens rest : List Token} {s : Draft} {pos : Nat} (h : s.Valid tokens)
    (hpos : tokens.drop pos = rest)
    : Follows tokens (Pure.pure (s, pos)) (s.outline tokens) rest :=
  ⟨s, pos, rfl, h, rfl, hpos⟩

variable {tokens : List Token}

theorem memberMark_eq {rest : List Token} {angle pos : Nat} (h : tokens.drop pos = rest)
    : memberMark tokens angle pos = pure (pos + (Reader.splitMember angle rest).1.length) := by
  induction rest generalizing angle pos with
  | nil =>
    rw [memberMark, getElem?_of_drop_nil h]
    rfl
  | cons t rest ih =>
    -- An angle bracket is none of the marks that end the head, so it may be asked for first.
    have hskip : ∀ mark, t.isPunct mark = true → mark ∉ ["(", "=", ";", ",", "\x7b", "\x7d"] →
        t.isPunctOf ["(", "=", ";", ",", "\x7b", "\x7d"] = false := by
      intro mark hmark hnot
      rw [Token.isPunct, Bool.and_eq_true, beq_iff_eq, beq_iff_eq] at hmark
      rw [Token.isPunctOf, hmark.2, List.contains_eq_mem, decide_eq_false hnot, Bool.and_false]
    rw [memberMark, getElem?_of_drop_cons h, Reader.splitMember]
    dsimp only
    split
    · next hopening =>
      rw [ih (drop_succ h), hskip "<" hopening (by decide), Bool.and_false]
      simp [Nat.add_assoc, Nat.add_comm 1]
    · next hopening =>
      split
      · next hclosing =>
        rw [ih (drop_succ h), hskip ">" hclosing (by decide), Bool.and_false]
        simp [Nat.add_assoc, Nat.add_comm 1]
      · next hclosing =>
        split
        · rfl
        · rw [ih (drop_succ h)]
          simp [Nat.add_assoc, Nat.add_comm 1]

theorem methodBody_eq (bound : List Parameter) {owner pos : Nat} {s : Draft} {rest : List Token}
    (hs : s.Valid tokens) (howner : owner < s.entries.length) (h : tokens.drop pos = rest)
    : Follows tokens (methodBody tokens owner bound s pos)
        ((Reader.methodBody rest).1.elim (s.outline tokens) fun body =>
          (s.outline tokens).addBody { owner := owner, parameters := bound, tokens := body })
        (Reader.methodBody rest).2 := by
  fun_induction Reader.methodBody rest generalizing pos with
  | case1 =>
    rw [methodBody, getElem?_of_drop_nil h]
    exact .pure hs h
  | case2 t rest hopening =>
    obtain ⟨range, next, hrun, hrange, hnext⟩ := skipGroup_encloses (b := .curly) h hopening
    rw [methodBody, getElem?_of_drop_cons h]
    dsimp only
    rw [if_pos hopening, hrun, pure_bind]
    exact ⟨_, next, rfl, hs.addRegion howner hrange, Draft.outline_addRegion hrange, hnext⟩
  | case3 t rest hopening hend =>
    rw [methodBody, getElem?_of_drop_cons h]
    dsimp only
    rw [if_neg hopening, if_pos hend]
    exact .pure hs (drop_succ h)
  | case4 t rest hopening hend hclosing =>
    rw [methodBody, getElem?_of_drop_cons h]
    dsimp only
    rw [if_neg hopening, if_neg hend, if_pos hclosing]
    exact .pure hs h
  | case5 t rest hopening hend hclosing ih =>
    rw [methodBody, getElem?_of_drop_cons h]
    dsimp only
    rw [if_neg hopening, if_neg hend, if_neg hclosing]
    exact ih (drop_succ h)

theorem nameBefore_eq {head after : List Token} {start : Nat}
    (h : tokens.drop start = head ++ after)
    : nameBefore tokens start (start + head.length)
        =
      pure (head.getLast?.filter Token.isIdent) := by
  cases hlast : head.getLast? with
  | none =>
    rw [List.getLast?_eq_none_iff] at hlast
    subst hlast
    rw [nameBefore, if_pos]
    · rfl
    · rw [List.length_nil, Nat.add_zero, Bool.or_eq_true, decide_eq_true_eq, decide_eq_true_eq]
      omega
  | some name =>
    obtain ⟨type, rfl⟩ := List.getLast?_eq_some_iff.1 hlast
    have hname : tokens[start + type.length]? = some name := by
      rw [getElem?_of_drop h, List.append_assoc, List.getElem?_append_right (Nat.le_refl _),
        Nat.sub_self]
      rfl
    rw [nameBefore, List.length_append, List.length_singleton, ← Nat.add_assoc, Nat.add_sub_cancel,
      if_neg]
    · rw [get_eq hname, pure_bind, Option.filter_some]
    · rw [Bool.or_eq_true, decide_eq_true_eq, decide_eq_true_eq]
      omega

theorem reader_method_eq (o : Outline) (owner : Nat) (m : Modifiers) (head rest : List Token)
    : Reader.method o owner m head rest
        =
      let inside := Bracket.round.inside rest
      let body := Reader.methodBody inside.2
      let o := body.1.elim o fun tokens =>
        o.addBody { owner := owner, parameters := Parameter.readAll inside.1, tokens := tokens }
      ((head.getLast?.filter Token.isIdent).elim o fun name =>
        o.addMember owner
          { name := name.text, kind := if head.length = 1 then .constructor else .method,
            deprecation := m.deprecation?, span := name.span },
        body.2) := by
  unfold Reader.method
  dsimp only
  cases (Reader.methodBody (Bracket.round.inside rest).2).1 with
  | none =>
    cases head.getLast? with
    | none => rfl
    | some name =>
      rw [Option.filter_some]
      dsimp only
      split <;> rfl
  | some body =>
    cases head.getLast? with
    | none => rfl
    | some name =>
      rw [Option.filter_some]
      dsimp only
      split <;> rfl

theorem method_eq {owner start : Nat} {m : Modifiers} {s : Draft} {t : Token}
    {head rest : List Token} (hs : s.Valid tokens) (howner : owner < s.entries.length)
    (h : tokens.drop start = head ++ t :: rest) (ht : t.isPunct "(" = true)
    : Follows tokens (method tokens owner m start (start + head.length) s)
        (Reader.method (s.outline tokens) owner m head rest).1
        (Reader.method (s.outline tokens) owner m head rest).2 := by
  have hmark : tokens.drop (start + head.length) = t :: rest := drop_append h
  obtain ⟨range, pos, hgroup, hrange, hpos⟩ := skipGroup_encloses (b := .round) hmark ht
  obtain ⟨s', next, hbody, hs', hout, hnext⟩ :=
    methodBody_eq (Parameter.readAll (Bracket.round.inside rest).1) hs howner hpos
  have howner' : owner < s'.entries.length := by
    have hentries : s'.entries = s.entries := by
      change (s'.outline tokens).entries = s.entries
      rw [hout]
      cases (Reader.methodBody (Bracket.round.inside rest).2).1 <;> rfl
    rw [hentries]
    exact howner
  rw [method, nameBefore_eq h, pure_bind, hgroup, pure_bind]
  dsimp only
  rw [hrange.slice, pure_bind, parameters_eq, pure_bind, hbody, pure_bind]
  rw [reader_method_eq]
  dsimp only
  rw [← hout]
  cases hname : head.getLast?.filter Token.isIdent with
  | none => exact .pure hs' hnext
  | some name =>
    -- A name that is the whole head makes a constructor.
    obtain ⟨type, rfl⟩ := List.getLast?_eq_some_iff.1 (Option.filter_eq_some_iff.1 hname).1
    have hkind : (if start + (type ++ [name]).length - 1 = start then .constructor else .method)
        = (if (type ++ [name]).length = 1 then .constructor else .method : MemberDecl.Kind) := by
      congr 1
      rw [List.length_append, List.length_singleton, eq_iff_iff]
      omega
    obtain ⟨s'', hadd, hs'', hout'', -⟩ := Draft.addMember_eq hs' howner'
      { name := name.text, kind := if (type ++ [name]).length = 1 then .constructor else .method,
        deprecation := m.deprecation?, span := name.span }
    dsimp only
    rw [sub_eq (by rw [List.length_append, List.length_singleton]; omega), pure_bind, hkind, hadd,
      pure_bind]
    exact ⟨s'', next, rfl, hs'', hout'', hnext⟩

theorem skipDimensions_eq {pos : Nat} {rest : List Token} (h : tokens.drop pos = rest)
    : ∃ next, skipDimensions tokens pos = pure next
        ∧ tokens.drop next = rest.dropWhile Reader.isDimension := by
  induction rest generalizing pos with
  | nil =>
    refine ⟨pos, ?_, h⟩
    rw [skipDimensions, at?_eq h]
    rfl
  | cons t rest ih =>
    rw [skipDimensions, at?_eq h, Reader.starts, List.dropWhile_cons]
    split
    · exact ih (drop_succ h)
    · exact ⟨pos, rfl, h⟩

theorem declarators_eq {owner pos : Nat} {field : Token → MemberDecl} {s : Draft}
    {rest : List Token} {o : Outline} (hs : s.Valid tokens) (howner : owner < s.entries.length)
    (ho : s.outline tokens = o) (h : tokens.drop pos = rest)
    : Follows tokens (declarators tokens owner field s pos)
        (Reader.declarators owner field o rest).1 (Reader.declarators owner field o rest).2 := by
  fun_induction Reader.declarators owner field o rest generalizing s pos with
  | case1 o =>
    rw [declarators, getElem?_of_drop_nil h]
    exact ⟨s, pos, rfl, hs, ho, h⟩
  | case2 o t rest hequals initializer hle =>
    rename_i ih
    -- The loop looks for the end of the initializer in all tokens, the reader in the rest.
    have hrest := drop_succ h
    have hsplit := splitExpression_append 0 rest
    have hrange : Encloses tokens (pos + 1, pos + 1 + initializer.1.length) initializer.1 := by
      apply encloses_of_drop (lt_length h)
      rw [hrest, hsplit]
    have hstop : expressionEnd tokens (pos + 1) tokens.length
        = pure (pos + 1 + initializer.1.length) := by
      have hlength : pos + 1 + rest.length = tokens.length := by
        have hlength := congrArg List.length hrest
        rw [List.length_drop] at hlength
        have hlt := lt_length h
        omega
      rw [← hlength]
      exact expressionEnd_eq (hrest.trans (List.append_nil rest).symm)
    rw [declarators, getElem?_of_drop_cons h]
    dsimp only
    rw [if_pos hequals, hstop, pure_bind]
    refine ih (hs.addRegion howner hrange) howner ?_ ?_
    · rw [Draft.outline_addRegion hrange, ho]
    · exact drop_append (hrest.trans hsplit.symm)
  | case3 o t hequals hcomma =>
    obtain ⟨next, hdimensions, hnext⟩ := skipDimensions_eq (drop_succ h)
    rw [declarators, getElem?_of_drop_cons h, getElem?_of_drop_nil (drop_succ h)]
    dsimp only
    rw [if_neg hequals, if_pos hcomma, hdimensions, pure_bind, declarators,
      getElem?_of_drop_nil hnext]
    exact ⟨s, next, rfl, hs, ho, hnext⟩
  | case4 o t hequals hcomma name more hname =>
    rename_i ih
    obtain ⟨s', hadd, hs', hout, hlength⟩ := Draft.addMember_eq hs howner (field name)
    obtain ⟨next, hdimensions, hnext⟩ := skipDimensions_eq (drop_add h 2)
    rw [declarators, getElem?_of_drop_cons h, getElem?_of_drop_cons (drop_succ h)]
    dsimp only
    rw [if_neg hequals, if_pos hcomma, if_pos hname, hadd, pure_bind, hdimensions, pure_bind]
    rw [ho] at hout
    exact ih hs' (hlength ▸ howner) hout hnext
  | case5 o t hequals hcomma name more hname =>
    rename_i ih
    obtain ⟨next, hdimensions, hnext⟩ := skipDimensions_eq (drop_succ h)
    rw [declarators, getElem?_of_drop_cons h, getElem?_of_drop_cons (drop_succ h)]
    dsimp only
    rw [if_neg hequals, if_pos hcomma, if_neg hname, hdimensions, pure_bind]
    exact ih hs howner ho hnext
  | case6 o t rest hequals hcomma hend =>
    rw [declarators, getElem?_of_drop_cons h]
    dsimp only
    rw [if_neg hequals, if_neg hcomma, if_pos hend]
    exact ⟨s, pos + 1, rfl, hs, ho, drop_succ h⟩
  | case7 o t rest hequals hcomma hend =>
    rw [declarators, getElem?_of_drop_cons h]
    dsimp only
    rw [if_neg hequals, if_neg hcomma, if_neg hend]
    exact ⟨s, pos, rfl, hs, ho, h⟩

theorem lastIdent_eq {start : Nat} {down after : List Token}
    (h : tokens.drop start = down.reverse ++ after)
    : lastIdent tokens start (start + down.length)
        =
      pure (start + (down.dropWhile (!·.isIdent)).tail.length) := by
  induction down generalizing after with
  | nil =>
    rw [lastIdent, List.length_nil, Nat.add_zero, if_neg (Nat.lt_irrefl _)]
    rfl
  | cons t down ih =>
    rw [List.reverse_cons, List.append_assoc, List.singleton_append] at h
    have hlast : tokens[start + down.length]? = some t := by
      rw [getElem?_of_drop h, ← List.length_reverse, List.getElem?_append_right (Nat.le_refl _),
        Nat.sub_self]
      rfl
    rw [List.length_cons, lastIdent, if_pos (by omega), sub_eq (by omega), pure_bind,
      ← Nat.add_assoc, Nat.add_sub_cancel, get_eq hlast, pure_bind, List.dropWhile_cons]
    cases hident : t.isIdent with
    | true => rfl
    | false => exact ih h

theorem fields_eq {owner start : Nat} {m : Modifiers} {s : Draft} {mark : Token}
    {head rest : List Token} (hs : s.Valid tokens) (howner : owner < s.entries.length)
    (h : tokens.drop start = head ++ mark :: rest) (hmark : mark.isIdent = false)
    : Follows tokens (fields tokens owner m start (start + head.length) s)
        (Reader.fields (s.outline tokens) owner m head mark rest).1
        (Reader.fields (s.outline tokens) owner m head mark rest).2 := by
  have hdrop : tokens.drop (start + head.length) = mark :: rest := drop_append h
  have hlast : lastIdent tokens start (start + head.length)
      = pure (start + (head.reverse.dropWhile (!·.isIdent)).tail.length) := by
    have hdown : tokens.drop start = head.reverse.reverse ++ mark :: rest := by
      rw [List.reverse_reverse, h]
    rw [← List.length_reverse]
    exact lastIdent_eq hdown
  unfold Reader.fields
  cases hfound : Reader.lastIdent? head with
  | none =>
    have hnone : head.reverse.dropWhile (!·.isIdent) = [] := by
      unfold Reader.lastIdent? at hfound
      split at hfound
      · next hnil => exact hnil
      · cases hfound
    -- The token at the start of the field, which may be the mark, is no identifier.
    obtain ⟨first, hfirst, hident⟩ : ∃ first, tokens[start]? = some first
        ∧ first.isIdent = false := by
      cases head with
      | nil => exact ⟨mark, getElem?_of_drop_cons h, hmark⟩
      | cons first head =>
        refine ⟨first, getElem?_of_drop_cons h, ?_⟩
        rw [List.dropWhile_eq_nil_iff] at hnone
        simpa using hnone first (by simp)
    rw [fields, hlast, pure_bind, hnone, List.tail_nil, List.length_nil, Nat.add_zero,
      get_eq hfirst, pure_bind, hident]
    exact .pure hs (drop_succ hdrop)
  | some found =>
    obtain ⟨type, name⟩ := found
    obtain ⟨hident, more, hhead⟩ := Reader.lastIdent?_some hfound
    have htype : (head.reverse.dropWhile (!·.isIdent)).tail.length = type.length := by
      unfold Reader.lastIdent? at hfound
      split at hfound
      · cases hfound
      · next hcons =>
        rw [Option.some.injEq, Prod.mk.injEq] at hfound
        rw [hcons, ← hfound.1, List.length_reverse, List.tail_cons]
    have hwritten : tokens.drop start = type ++ name :: (more ++ mark :: rest) := by
      rw [h, ← hhead, List.append_assoc, List.cons_append]
    have hname : tokens[start + type.length]? = some name := by
      rw [getElem?_of_drop hwritten, List.getElem?_append_right (Nat.le_refl _), Nat.sub_self]
      rfl
    rw [fields, hlast, pure_bind, htype, get_eq hname, pure_bind, hident]
    cases type with
    | nil =>
      rw [if_pos]
      · exact .pure hs (drop_succ hdrop)
      · rw [List.length_nil, Nat.add_zero, decide_eq_true rfl, Bool.or_true]
    | cons first type =>
      have hstart : start ≤ tokens.length := by
        have hlt := (List.getElem?_eq_some_iff.1 hname).1
        omega
      obtain ⟨s', hadd, hs', hout, hlength⟩ := Draft.addMember_eq hs howner
        { name := name.text, kind := .field, type := TypeName.read? (first :: type),
          deprecation := m.deprecation?, span := name.span }
      rw [if_neg, slice_eq hstart hwritten, pure_bind, typeName_eq, pure_bind]
      · dsimp only
        rw [hadd, pure_bind]
        exact declarators_eq hs' (hlength ▸ howner) hout hdrop
      · rw [Bool.not_true, Bool.false_or, decide_eq_true_eq, List.length_cons]
        omega

theorem splitMember_mark {angle : Nat} {rest head after : List Token} {mark : Token}
    (h : Reader.splitMember angle rest = (head, mark :: after)) : mark.kind = .punct := by
  fun_induction Reader.splitMember angle rest generalizing head with
  | case1 => cases h
  | case2 angle t rest hmark =>
    rw [Prod.mk.injEq, List.cons.injEq] at h
    rw [Bool.and_eq_true, h.2.1, Token.isPunctOf, Bool.and_eq_true, beq_iff_eq] at hmark
    exact hmark.2.1
  | case3 angle t rest hmark angle' head' after' hsplit =>
    rename_i ih
    rw [Prod.mk.injEq] at h
    exact ih (hsplit.trans (by rw [h.2]))

theorem member_eq {owner pos : Nat} {m : Modifiers} {s : Draft} {rest : List Token}
    (hs : s.Valid tokens) (howner : owner < s.entries.length) (h : tokens.drop pos = rest)
    : Follows tokens (member tokens owner m s pos)
        (Reader.member (s.outline tokens) owner m rest).1
        (Reader.member (s.outline tokens) owner m rest).2 := by
  obtain ⟨range, start, hgroup, hstart, -⟩ := skipGroup?_eq h .angle
  have hsplit := Reader.splitMember_append 0 (Bracket.angle.group? rest).2
  rw [member, hgroup, pure_bind]
  dsimp only
  rw [memberMark_eq hstart, pure_bind]
  unfold Reader.member
  cases hfound : Reader.splitMember 0 (Bracket.angle.group? rest).2 with
  | mk head after =>
    rw [hfound] at hsplit
    dsimp only at hsplit ⊢
    rw [← hstart] at hsplit
    have hafter : tokens.drop (start + head.length) = after := drop_append hsplit.symm
    -- The mark behind the head tells a method from a block and from fields.
    cases after with
    | nil =>
      rw [getElem?_of_drop_nil hafter]
      exact .pure hs List.drop_length
    | cons mark after =>
      rw [getElem?_of_drop_cons hafter]
      dsimp only
      split
      · exact .pure hs hafter
      · split
        · next hround => exact method_eq hs howner hsplit.symm hround
        · split
          · next hcurly =>
            obtain ⟨range, next, hrun, hrange, hnext⟩ :=
              skipGroup_encloses (b := .curly) hafter hcurly
            rw [hrun, pure_bind]
            exact ⟨_, next, rfl, hs.addRegion howner hrange, Draft.outline_addRegion hrange, hnext⟩
          · have hident : mark.isIdent = false := by
              rw [Token.isIdent, splitMember_mark hfound]
              rfl
            exact fields_eq hs howner hsplit.symm hident

end DeprecatedUse.Java.Cursor
