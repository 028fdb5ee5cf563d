import DeprecatedUse.Proofs.Java.Cursor.Members

/-!
This module contains the reading of types as runs over an array of tokens by position: the constants
of enums, the bodies of types, which call for the reading of types inside them, and whole texts. The
reader of declarations keeps the open types in a list, where the runs call each other; a run that
returns from a body leaves the reader where this body has been closed.
-/

namespace DeprecatedUse.Java.Cursor

section Definitions

variable (tokens : List Token)

def addInside (owner : Nat) (s : Draft) : Option (Nat × Nat) → Draft
  | none => s
  | some range => s.addRegion { owner := owner, start := range.1, stop := range.2 }

def enumConstants (place : Nat) (s : Draft) (pos : Nat) : Run (Draft × Nat) :=
  match tokens[pos]? with
  | none => pure (s, pos)
  | some t =>
    if t.isPunct ";" then
      pure (s, pos + 1)
    else if t.isPunct "\x7d" then
      pure (s, pos)
    else if t.isPunct "," then
      by apply enumConstants; exacts [place, s, pos + 1]
    else do
      let (m, pos) ← modifiers tokens {} pos
      match tokens[pos]? with
      | none => by apply enumConstants; exacts [place, s, pos + 1]
      | some name =>
        if name.isIdent then do
          let s ← s.addMember place
            { name := name.text, kind := .enumConstant, deprecation := m.deprecation?,
              span := name.span }
          let (arguments, pos) ← skipGroup? tokens .round (pos + 1)
          let (body, pos) ← skipGroup? tokens .curly pos
          by
            apply enumConstants
            exacts [place, addInside place (addInside place s arguments) body, pos]
        else
          by apply enumConstants; exacts [place, s, pos + 1]
partial_fixpoint

def atType (pos : Nat) : Bool :=
  match tokens[pos]?, tokens[pos + 1]? with
  | some t, some next =>
    if (Reader.typeKind? t).isSome then next.isIdent
    else t.isPunct "@" && next.isWord "interface"
  | _, _ => false

def typeWord (pos : Nat) : TypeDecl.Kind × Nat :=
  match tokens[pos]?.map Token.text with
  | some "class" => (.classType, pos + 1)
  | some "interface" => (.interfaceType, pos + 1)
  | some "enum" => (.enumType, pos + 1)
  | some "record" => (.recordType, pos + 1)
  | _ => (.annotationType, pos + 2)

def qualifiedName (s : Draft) (outer : Option Nat) (name : String) : Run String :=
  match outer with
  | none => pure (qualify (s.package.getD "") name)
  | some outer => do
    let e ← get s.entries outer
    pure (e.decl.qualifiedName ++ "." ++ name)

def Draft.push (s : Draft) (e : Outline.Entry) : Draft :=
  { s with entries := s.entries ++ [e] }

def addComponents (place : Nat) (s : Draft) : List Parameter → Run Draft
  | [] => pure s
  | (name, type) :: rest => do
    let e ← get s.entries place
    let s ← s.addMember place
      { name := name, kind := .field, type := some type, span := e.decl.span }
    let s ← s.addMember place { name := name, kind := .method, span := e.decl.span }
    addComponents place s rest

def components (kind : TypeDecl.Kind) (place : Nat) (s : Draft) (pos : Nat) : Run (Draft × Nat) :=
  if kind = .recordType then do
    match ← skipGroup? tokens .round pos with
    | (none, pos) => pure (s, pos)
    | (some range, pos) => do
      let inside ← slice tokens range.1 range.2
      let declared ← parameters inside
      let s ← addComponents place s declared
      pure (s, pos)
  else
    pure (s, pos)

def typeHeader (kind : TypeDecl.Kind) (name : Token) (m : Modifiers) (outer : Option Nat)
    (s : Draft) (pos : Nat) : Run (Draft × Nat) := do
  let place := s.entries.length
  let qualified ← qualifiedName s outer name.text
  let decl : TypeDecl :=
    { name := name.text, qualifiedName := qualified, kind := kind, outer := outer,
      deprecation := m.deprecation?, span := name.span }
  let (_, pos) ← skipGroup? tokens .angle pos
  let (s, pos) ← components tokens kind place (s.push ⟨decl, []⟩) pos
  header tokens place s pos

def openBody (kind : TypeDecl.Kind) (place : Nat) (s : Draft) (pos : Nat) : Run (Draft × Nat) :=
  if kind = .enumType then enumConstants tokens place s pos else pure (s, pos)

mutual

def typeDecl (m : Modifiers) (outer : Option Nat) (s : Draft) (pos : Nat) : Run (Draft × Nat) := do
  let (kind, pos) := typeWord tokens pos
  match tokens[pos]? with
  | none => pure (s, pos)
  | some name =>
    if name.isIdent then do
      let place := s.entries.length
      let (s, pos) ← typeHeader tokens kind name m outer s (pos + 1)
      if at? tokens pos (·.isPunct "\x7b") then do
        let (s, pos) ← openBody tokens kind place s (pos + 1)
        by apply classBody; exacts [place, s, pos]
      else
        pure (s, pos)
    else
      pure (s, pos)
partial_fixpoint

def classBody (place : Nat) (s : Draft) (pos : Nat) : Run (Draft × Nat) :=
  match tokens[pos]? with
  | none => pure (s, pos)
  | some t =>
    if t.isPunct "\x7d" then
      pure (s, pos + 1)
    else if t.isPunct ";" then
      by apply classBody; exacts [place, s, pos + 1]
    else do
      let (m, next) ← modifiers tokens {} pos
      if at? tokens next (·.isPunct "\x7b") then do
        let (range, next) ← skipGroup tokens .curly next
        by
          apply classBody
          exacts [place, addInside place s (some range), if next = pos then pos + 1 else next]
      else if atType tokens next then do
        let (s, next) ← (by apply typeDecl; exacts [m, some place, s, next] : Run (Draft × Nat))
        by apply classBody; exacts [place, s, if next = pos then pos + 1 else next]
      else if at? tokens next (·.isPunct "\x7d") then
        by apply classBody; exacts [place, s, if next = pos then pos + 1 else next]
      else do
        let (s, next) ← member tokens place m s next
        by apply classBody; exacts [place, s, if next = pos then pos + 1 else next]
partial_fixpoint

end

def declarations (s : Draft) (pos : Nat) : Run Draft :=
  match tokens[pos]? with
  | none => pure s
  | some t =>
    if t.isWord "package" then do
      let (name, pos) ← dottedName tokens "" (pos + 1)
      by apply declarations; exacts [{ s with package := some name }, pos]
    else if t.isWord "import" then do
      let isStatic := at? tokens (pos + 1) (·.isWord "static")
      let (path, pos) ← dottedName tokens "" (if isStatic then pos + 2 else pos + 1)
      let star := [ '.', '*' ]
      let i : Import :=
        { path := String.ofList (Text.dropTrailing star path.toList),
          wildcard := star.isSuffixOf path.toList, isStatic := isStatic }
      by apply declarations; exacts [{ s with imports := s.imports ++ [i] }, pos]
    else do
      let (m, next) ← modifiers tokens {} pos
      if atType tokens next then do
        let (s, next) ← typeDecl tokens m none s next
        by apply declarations; exacts [s, next]
      else
        by apply declarations; exacts [s, if next = pos then pos + 1 else next]
partial_fixpoint

end Definitions

variable {tokens : List Token}

/-! Headers of types. -/

namespace Draft

theorem modify_push (xs : List Outline.Entry) (e : Outline.Entry) (f : Outline.Entry → Outline.Entry)
    : (xs ++ [e]).modify xs.length f = xs ++ [f e] := by
  induction xs with
  | nil => rfl
  | cons x xs ih => rw [List.cons_append, List.length_cons, List.modify_succ_cons, ih, List.cons_append]

theorem lt_push (s : Draft) (e : Outline.Entry) : s.entries.length < (s.push e).entries.length := by
  rw [push, List.length_append, List.length_singleton]
  exact Nat.lt_succ_self _

theorem addMember_push (s : Draft) (e : Outline.Entry) (member : MemberDecl)
    : (s.push e).addMember s.entries.length member
        =
      pure (s.push (addMembers e [member])) := by
  rw [addMember, update, if_pos (lt_push s e), push]
  dsimp only
  rw [modify_push]
  rfl

theorem withSupertypes_push (s : Draft) (e : Outline.Entry) (names : List String)
    : (s.push e).withSupertypes s.entries.length names
        =
      s.push { e with supertypeNames := names } := by
  rw [withSupertypes, push]
  dsimp only
  rw [modify_push]
  rfl

theorem Valid.push {s : Draft} {e : Outline.Entry} (h : s.Valid tokens)
    (he : ∀ outer, e.decl.outer = some outer → outer < s.entries.length)
    : (s.push e).Valid tokens := by
  refine ⟨?_, ?_⟩
  · intro r hr
    obtain ⟨howner, hrange⟩ := h.regions r hr
    rw [Draft.push, List.length_append, List.length_singleton]
    exact ⟨Nat.lt_succ_of_lt howner, hrange⟩
  · intro place e' outer he' houter
    rw [Draft.push, List.getElem?_append] at he'
    split at he'
    · exact h.outer place e' outer he' houter
    · next hplace =>
      rw [List.getElem?_singleton] at he'
      split at he'
      · rw [Option.some.injEq] at he'
        subst he'
        have := he outer houter
        omega
      · cases he'

end Draft

theorem addComponents_eq (s : Draft) (e : Outline.Entry) (declared : List Parameter)
    : addComponents s.entries.length (s.push e) declared
        =
      pure (s.push (Draft.addMembers e (Reader.recordMembers e.decl.span declared))) := by
  induction declared generalizing e with
  | nil =>
    rw [addComponents, Reader.recordMembers, List.flatMap_nil, Draft.addMembers, List.append_nil]
  | cons component rest ih =>
    obtain ⟨name, type⟩ := component
    have hget : get (s.push e).entries s.entries.length = pure e := by
      apply get_eq
      rw [Draft.push, List.getElem?_append_right (Nat.le_refl _), Nat.sub_self]
      rfl
    rw [addComponents, hget, pure_bind, Draft.addMember_push, pure_bind, Draft.addMember_push,
      pure_bind, ih]
    simp only [Reader.recordMembers, List.flatMap_cons, Draft.addMembers, List.append_assoc,
      List.cons_append, List.nil_append]

theorem components_eq (kind : TypeDecl.Kind) (s : Draft) (e : Outline.Entry) {pos : Nat}
    {rest : List Token} (h : tokens.drop pos = rest)
    : let found := if kind = .recordType then Bracket.round.group? rest else (none, rest)
      Reads tokens (components tokens kind s.entries.length (s.push e) pos)
        (s.push (Draft.addMembers e
          (Reader.recordMembers e.decl.span (Parameter.readAll (found.1.getD [])))))
        found.2 := by
  have hnone : Draft.addMembers e (Reader.recordMembers e.decl.span (Parameter.readAll [])) = e := by
    have hread : Parameter.readAll [] = [] := by
      simp [Parameter.readAll, Parameter.cut, Parameter.read?, Parameter.dropAnnotations]
    rw [Draft.addMembers, hread, Reader.recordMembers, List.flatMap_nil, List.append_nil]
  dsimp only
  rw [components]
  split
  · obtain ⟨range, next, hrun, hnext, hrange⟩ := skipGroup?_eq h .round
    rw [hrun, pure_bind]
    rcases hrange with ⟨rfl, hgroup⟩ | ⟨r, inside, rfl, hgroup, hencloses⟩
    · rw [hgroup, Option.getD_none, hnone]
      exact .pure hnext
    · dsimp only
      rw [hencloses.slice, pure_bind, parameters_eq, pure_bind, addComponents_eq, pure_bind, hgroup,
        Option.getD_some]
      exact .pure hnext
  · rw [Option.getD_none, hnone]
    exact .pure h

theorem header_push (s : Draft) (e : Outline.Entry) (he : e.supertypeNames = []) {pos : Nat}
    {rest : List Token} (h : tokens.drop pos = rest)
    : Reads tokens (header tokens s.entries.length (s.push e) pos)
        (s.push { e with supertypeNames := (Reader.header [] rest).1 })
        (Reader.header [] rest).2 := by
  have hheader := header_eq [] (Draft.lt_push s e) h
  rw [Draft.withSupertypes_push, Draft.withSupertypes_push] at hheader
  obtain ⟨decl, names⟩ := e
  dsimp only at he
  subst he
  exact hheader

theorem typeHeader_eq (kind : TypeDecl.Kind) (name : Token) (m : Modifiers) {outer : Option Nat}
    {s : Draft} {pos : Nat} {rest : List Token}
    (houter : ∀ place, outer = some place → place < s.entries.length) (h : tokens.drop pos = rest)
    : let head := Reader.typeHeader kind rest
      Reads tokens (typeHeader tokens kind name m outer s pos)
        (s.push ⟨{ name := name.text
                   qualifiedName := (s.outline tokens).qualifiedName outer name.text
                   kind := kind
                   outer := outer
                   deprecation := m.deprecation?
                   members := Reader.recordMembers name.span head.components
                   span := name.span }, head.supertypes⟩)
        head.rest := by
  have hname : qualifiedName s outer name.text
      = pure ((s.outline tokens).qualifiedName outer name.text) := by
    cases outer with
    | none => rfl
    | some place =>
      have hlt : place < s.entries.length := houter place rfl
      have hget := List.getElem?_eq_getElem hlt
      have hbind : (some place).bind ((s.outline tokens).entries[·]?) = some s.entries[place] := hget
      rw [qualifiedName, get_eq hget, pure_bind, Outline.qualifiedName, hbind]
  obtain ⟨range, next, hgroup, hnext, -⟩ := skipGroup?_eq h .angle
  obtain ⟨behind, hcomponents, hbehind⟩ := components_eq kind s ⟨
    { name := name.text, qualifiedName := (s.outline tokens).qualifiedName outer name.text,
      kind := kind, outer := outer, deprecation := m.deprecation?, span := name.span }, []⟩ hnext
  dsimp only
  rw [typeHeader, hname, pure_bind, hgroup, pure_bind]
  dsimp only
  rw [hcomponents, pure_bind]
  exact header_push s _ rfl hbehind

/-! The bodies of types. -/

/--
The run gives a valid draft and a position, where the reader of declarations comes to from `o` and
`rest` when it has closed the types `inner` and opened the types `inner'`.
-/
def Leads (tokens : List Token) (run : Run (Draft × Nat)) (o : Outline)
    (inner : List Reader.OpenType) (rest : List Token) (inner' : List Reader.OpenType) : Prop :=
  ∃ s pos, run = pure (s, pos) ∧ s.Valid tokens ∧ o.entries.length ≤ s.entries.length
    ∧ (tokens.drop pos).length ≤ rest.length
    ∧ ∀ outer, Reader.outlineFrom o (inner ++ outer) rest
        = Reader.outlineFrom (s.outline tokens) (inner' ++ outer) (tokens.drop pos)

theorem Leads.pure {rest : List Token} {s : Draft} {pos : Nat} (h : s.Valid tokens)
    (hpos : tokens.drop pos = rest) (inner : List Reader.OpenType)
    : Leads tokens (Pure.pure (s, pos)) (s.outline tokens) inner rest inner := by
  refine ⟨s, pos, rfl, h, Nat.le_refl _, ?_, ?_⟩
  · rw [hpos]
  · intro outer
    rw [hpos]

theorem Leads.stop {s : Draft} {pos : Nat} (h : s.Valid tokens) (hpos : tokens.drop pos = [])
    (inner inner' : List Reader.OpenType)
    : Leads tokens (Pure.pure (s, pos)) (s.outline tokens) inner [] inner' := by
  refine ⟨s, pos, rfl, h, Nat.le_refl _, Nat.le_of_eq (congrArg _ hpos), ?_⟩
  intro outer
  rw [hpos, Reader.outlineFrom, Reader.outlineFrom]

theorem grows_length_le {o o' : Outline} (h : Reader.Grows o o')
    : o.entries.length ≤ o'.entries.length := by
  apply Nat.le_of_not_lt
  intro hlt
  obtain ⟨e', he', -⟩ := h _ _ (List.getElem?_eq_getElem hlt)
  have := (List.getElem?_eq_some_iff.1 he').1
  exact Nat.lt_irrefl _ this

theorem Leads.step {run : Run (Draft × Nat)} {o : Outline} {inner inner' next : List Reader.OpenType}
    {t : Token} {rest after : List Token} {o' : Outline}
    (hstep : ∀ outer, Reader.step o (inner ++ outer) t rest = (o', next ++ outer, after))
    (h : Leads tokens run o' next (Reader.leftOver rest after) inner')
    : Leads tokens run o inner (t :: rest) inner' := by
  obtain ⟨s, pos, hrun, hs, hlength, hpos, houter⟩ := h
  have hgrows := Reader.step_grows o (inner ++ []) t rest
  rw [hstep] at hgrows
  refine ⟨s, pos, hrun, hs, Nat.le_trans (grows_length_le hgrows) hlength, ?_, ?_⟩
  · exact Nat.le_succ_of_le (Nat.le_trans hpos (Reader.length_leftOver_le _ _))
  · intro outer
    rw [Reader.outlineFrom, hstep]
    exact houter outer

theorem Leads.bind {run : Run (Draft × Nat)} {more : Draft × Nat → Run (Draft × Nat)} {o : Outline}
    {inner between inner' : List Reader.OpenType} {rest : List Token}
    (h : Leads tokens run o inner rest between)
    (hmore : ∀ (s : Draft) (pos : Nat), s.Valid tokens → o.entries.length ≤ s.entries.length →
      (tokens.drop pos).length ≤ rest.length →
        Leads tokens (more (s, pos)) (s.outline tokens) between (tokens.drop pos) inner')
    : Leads tokens (run >>= more) o inner rest inner' := by
  obtain ⟨s, pos, rfl, hs, hlength, hpos, houter⟩ := h
  obtain ⟨s', pos', hrun, hs', hlength', hpos', houter'⟩ := hmore s pos hs hlength hpos
  refine ⟨s', pos', ?_, hs', Nat.le_trans hlength hlength', Nat.le_trans hpos' hpos, ?_⟩
  · rw [pure_bind, hrun]
  · intro outer
    rw [houter, houter']

theorem Leads.append {run : Run (Draft × Nat)} {o : Outline} {inner inner' : List Reader.OpenType}
    {rest : List Token} (h : Leads tokens run o inner rest inner') (around : List Reader.OpenType)
    : Leads tokens run o (inner ++ around) rest (inner' ++ around) := by
  obtain ⟨s, pos, hrun, hs, hlength, hpos, houter⟩ := h
  refine ⟨s, pos, hrun, hs, hlength, hpos, ?_⟩
  intro outer
  rw [List.append_assoc, List.append_assoc]
  exact houter _

theorem leftOver_of_le {rest after : List Token} (h : after.length ≤ rest.length)
    : Reader.leftOver rest after = after :=
  if_pos h

theorem leftOver_self (rest : List Token) : Reader.leftOver rest rest = rest :=
  leftOver_of_le (Nat.le_refl _)

theorem drop_leftOver {pos next : Nat} {t : Token} {rest after : List Token}
    (h : tokens.drop pos = t :: rest) (hnext : tokens.drop next = after) (hafter : after <:+ t :: rest)
    : tokens.drop (if next = pos then pos + 1 else next) = Reader.leftOver rest after := by
  unfold Reader.leftOver
  split
  · next heq =>
    subst heq
    rw [h] at hnext
    rw [← hnext, if_neg (by simp), drop_succ h]
  · next hne =>
    have hlength := congrArg List.length h
    have hlength' := congrArg List.length hnext
    rw [List.length_drop] at hlength hlength'
    have hle := hafter.length_le
    rw [List.length_cons] at hlength hle
    rw [if_pos (by omega), hnext]

theorem addInside_eq {s : Draft} {owner : Nat} {range : Option (Nat × Nat)}
    {inside : Option (List Token)} (hs : s.Valid tokens) (howner : owner < s.entries.length)
    (h : range = none ∧ inside = none
      ∨ ∃ r part, range = some r ∧ inside = some part ∧ Encloses tokens r part)
    : (addInside owner s range).Valid tokens ∧ (addInside owner s range).entries = s.entries
        ∧ (addInside owner s range).outline tokens
          = inside.toList.foldl (fun o part => o.addBody { owner := owner, tokens := part })
              (s.outline tokens) := by
  rcases h with ⟨rfl, rfl⟩ | ⟨r, part, rfl, rfl, hpart⟩
  · exact ⟨hs, rfl, rfl⟩
  · exact ⟨hs.addRegion howner hpart, rfl, Draft.outline_addRegion hpart⟩

theorem stepConstants_end (o : Outline) (owner : Nat) (outer : List Reader.OpenType) {t : Token}
    {rest : List Token} {m : Modifiers} (hend : ¬ t.isPunct ";" = true)
    (hclosing : ¬ t.isPunct "\x7d" = true) (hcomma : ¬ t.isPunct "," = true)
    (hread : Reader.modifiers {} (t :: rest) = (m, []))
    : Reader.stepConstants o owner outer t rest = (o, ⟨owner, true⟩ :: outer, []) := by
  rw [Reader.stepConstants, if_neg hend, if_neg hclosing, if_neg hcomma, hread]

theorem stepConstants_name (o : Outline) (owner : Nat) (outer : List Reader.OpenType)
    {t name : Token} {rest after : List Token} {m : Modifiers} (hend : ¬ t.isPunct ";" = true)
    (hclosing : ¬ t.isPunct "\x7d" = true) (hcomma : ¬ t.isPunct "," = true)
    (hread : Reader.modifiers {} (t :: rest) = (m, name :: after))
    : Reader.stepConstants o owner outer t rest
        =
      if name.isIdent then
        let arguments := Bracket.round.group? after
        let body := Bracket.curly.group? arguments.2
        let named := o.addMember owner
          { name := name.text, kind := .enumConstant, deprecation := m.deprecation?,
            span := name.span }
        (body.1.toList.foldl (fun o part => o.addBody { owner := owner, tokens := part })
            (arguments.1.toList.foldl (fun o part => o.addBody { owner := owner, tokens := part })
              named),
          ⟨owner, true⟩ :: outer, body.2)
      else
        (o, ⟨owner, true⟩ :: outer, after) := by
  rw [Reader.stepConstants, if_neg hend, if_neg hclosing, if_neg hcomma, hread]
  dsimp only
  rw [List.foldl_append]

theorem enumConstants_eq {place pos : Nat} {s : Draft} {rest : List Token} (hs : s.Valid tokens)
    (hplace : place < s.entries.length) (h : tokens.drop pos = rest)
    : Leads tokens (enumConstants tokens place s pos) (s.outline tokens) [⟨place, true⟩] rest
        [⟨place, false⟩] := by
  induction hn : rest.length using Nat.strongRecOn generalizing s pos rest with | ind n ih
  subst hn
  cases rest with
  | nil =>
    rw [enumConstants, getElem?_of_drop_nil h]
    exact .stop hs h _ _
  | cons t rest =>
    -- A step that stays among the constants is one before the reading of the rest of them.
    have stay : ∀ {s' : Draft} {next : Nat} {after : List Token},
        (∀ outer, Reader.stepConstants (s.outline tokens) place outer t rest
          = (s'.outline tokens, ⟨place, true⟩ :: outer, after)) →
        s'.Valid tokens → tokens.drop next = after → after.length ≤ rest.length →
        Leads tokens (enumConstants tokens place s' next) (s.outline tokens) [⟨place, true⟩]
          (t :: rest) [⟨place, false⟩] := by
      intro s' next after hstep hs' hnext hafter
      have hstep' : ∀ outer, Reader.step (s.outline tokens) ([⟨place, true⟩] ++ outer) t rest
          = (s'.outline tokens, [⟨place, true⟩] ++ outer, after) := hstep
      have hgrows := Reader.step_grows (s.outline tokens) ([⟨place, true⟩] ++ []) t rest
      rw [hstep'] at hgrows
      apply Leads.step hstep'
      rw [leftOver_of_le hafter]
      exact ih after.length (Nat.lt_succ_of_le hafter) hs'
        (Nat.lt_of_lt_of_le hplace (grows_length_le hgrows)) hnext rfl
    rw [enumConstants, getElem?_of_drop_cons h]
    dsimp only
    split
    · next hend =>
      have hstep : ∀ outer, Reader.step (s.outline tokens) ([⟨place, true⟩] ++ outer) t rest
          = (s.outline tokens, [⟨place, false⟩] ++ outer, rest) := fun outer => if_pos hend
      apply Leads.step hstep
      rw [leftOver_self]
      exact .pure hs (drop_succ h) _
    · next hend =>
      split
      · next hclosing =>
        -- The brace is left to the reading of the body, which it closes.
        refine ⟨s, pos, rfl, hs, Nat.le_refl _, Nat.le_of_eq (congrArg _ h), ?_⟩
        intro outer
        have hstep : Reader.step (s.outline tokens) ([⟨place, true⟩] ++ outer) t rest
            = (s.outline tokens, outer, rest) := (if_neg hend).trans (if_pos hclosing)
        have hstep' : Reader.step (s.outline tokens) ([⟨place, false⟩] ++ outer) t rest
            = (s.outline tokens, outer, rest) := if_pos hclosing
        rw [h, Reader.outlineFrom, Reader.outlineFrom, hstep, hstep']
      · next hclosing =>
        split
        · next hcomma =>
          refine stay ?_ hs (drop_succ h) (Nat.le_refl _)
          intro outer
          exact (if_neg hend).trans ((if_neg hclosing).trans (if_pos hcomma))
        · next hcomma =>
          obtain ⟨named, hmodifiers, hnamed⟩ := modifiers_eq {} h
          have hsuffix := Reader.modifiers_suffix {} (t :: rest)
          rw [hmodifiers, pure_bind]
          cases hread : Reader.modifiers {} (t :: rest) with
          | mk m left =>
            rw [hread] at hnamed hsuffix
            dsimp only at hnamed hsuffix ⊢
            have hlength := hsuffix.length_le
            cases left with
            | nil =>
              have hnil : tokens.drop (named + 1) = [] := drop_add hnamed 1
              rw [getElem?_of_drop_nil hnamed]
              refine stay ?_ hs hnil (Nat.zero_le _)
              intro outer
              exact stepConstants_end _ _ outer hend hclosing hcomma hread
            | cons name after =>
              have hstep := fun outer =>
                stepConstants_name (s.outline tokens) place outer hend hclosing hcomma hread
              have hafter := Nat.le_of_succ_le_succ hlength
              rw [getElem?_of_drop_cons hnamed]
              dsimp only
              split
              · next hident =>
                obtain ⟨s', hadd, hs', hout, hentries⟩ := Draft.addMember_eq hs hplace
                  { name := name.text, kind := .enumConstant, deprecation := m.deprecation?,
                    span := name.span }
                obtain ⟨range, behind, hround, hbehind, hrange⟩ :=
                  skipGroup?_eq (drop_succ hnamed) .round
                obtain ⟨range', next, hcurly, hnext, hrange'⟩ := skipGroup?_eq hbehind .curly
                obtain ⟨hsround, heround, horound⟩ := addInside_eq hs' (hentries ▸ hplace) hrange
                obtain ⟨hscurly, -, hocurly⟩ :=
                  addInside_eq hsround (heround ▸ hentries ▸ hplace) hrange'
                have hle := ((Bracket.group?_suffix Bracket.curly _).trans
                  (Bracket.group?_suffix Bracket.round after)).length_le
                rw [hadd, pure_bind, hround, pure_bind]
                dsimp only
                rw [hcurly, pure_bind]
                refine stay ?_ hscurly hnext (Nat.le_trans hle hafter)
                intro outer
                rw [hstep, if_pos hident, hocurly, horound, hout]
              · next hident =>
                refine stay ?_ hs (drop_succ hnamed) hafter
                intro outer
                exact (hstep outer).trans (if_neg hident)

theorem openBody_eq {kind : TypeDecl.Kind} {place pos : Nat} {s : Draft} {rest : List Token}
    (hs : s.Valid tokens) (hplace : place < s.entries.length) (h : tokens.drop pos = rest)
    : Leads tokens (openBody tokens kind place s pos) (s.outline tokens)
        [⟨place, kind = .enumType⟩] rest [⟨place, false⟩] := by
  rw [openBody]
  split
  · next hkind =>
    rw [decide_eq_true hkind]
    exact enumConstants_eq hs hplace h
  · next hkind =>
    rw [decide_eq_false hkind]
    exact .pure hs h _

theorem typeWord_eq {t : Token} {kind : TypeDecl.Kind} {pos : Nat} (h : tokens[pos]? = some t)
    (hkind : Reader.typeKind? t = some kind) : typeWord tokens pos = (kind, pos + 1) := by
  have htext : ∀ word, t.isWord word = true → t.text = word := by
    intro word hword
    rw [Token.isWord, Bool.and_eq_true, beq_iff_eq] at hword
    exact beq_iff_eq.1 hword.2
  rw [typeWord, h, Option.map_some]
  unfold Reader.typeKind? at hkind
  split at hkind
  · next hword =>
    rw [htext _ hword, ← Option.some.inj hkind]
    rfl
  · split at hkind
    · next hword =>
      rw [htext _ hword, ← Option.some.inj hkind]
      rfl
    · split at hkind
      · next hword =>
        rw [htext _ hword, ← Option.some.inj hkind]
        rfl
      · split at hkind
        · next hword =>
          rw [htext _ hword, ← Option.some.inj hkind]
          rfl
        · cases hkind

theorem atType_eq {pos : Nat} {rest : List Token} (h : tokens.drop pos = rest)
    : atType tokens pos = (Reader.typeStart? rest).isSome := by
  have hsecond := getElem?_of_drop h 1
  rw [atType]
  cases rest with
  | nil =>
    rw [getElem?_of_drop_nil h]
    rfl
  | cons t rest =>
    rw [getElem?_of_drop_cons h, hsecond]
    cases rest with
    | nil => rfl
    | cons next rest =>
      rw [Reader.typeStart?]
      change (if _ then _ else _) = _
      cases Reader.typeKind? t with
      | some kind =>
        rw [if_pos Option.isSome_some]
        cases next.isIdent <;> rfl
      | none =>
        rw [if_neg (by simp)]
        dsimp only
        split
        · next hsign => exact hsign
        · next hsign => simpa using hsign

theorem typeStart?_named {pos : Nat} {rest named : List Token} {kind : TypeDecl.Kind}
    (h : tokens.drop pos = rest) (hstart : Reader.typeStart? rest = some (kind, named))
    : ∃ next, typeWord tokens pos = (kind, next) ∧ tokens.drop next = named
        ∧ named.length < rest.length := by
  unfold Reader.typeStart? at hstart
  split at hstart
  · next t next rest =>
    split at hstart
    · next kind' hkind =>
      split at hstart
      · rw [Option.some.injEq, Prod.mk.injEq] at hstart
        obtain ⟨rfl, rfl⟩ := hstart
        exact ⟨pos + 1, typeWord_eq (getElem?_of_drop_cons h) hkind, drop_succ h, Nat.lt_succ_self _⟩
      · cases hstart
    · split at hstart
      · next hsign =>
        rw [Option.some.injEq, Prod.mk.injEq] at hstart
        obtain ⟨rfl, rfl⟩ := hstart
        rw [Bool.and_eq_true, Token.isPunct, Bool.and_eq_true, beq_iff_eq] at hsign
        refine ⟨pos + 2, ?_, drop_add h 2, Nat.lt_succ_of_lt (Nat.lt_succ_self _)⟩
        rw [typeWord, getElem?_of_drop_cons h, Option.map_some, beq_iff_eq.1 hsign.1.2]
        rfl
      · cases hstart
  · cases hstart

theorem typeDecl_eq (m : Modifiers) (outer : Option Nat) {kind : TypeDecl.Kind} {s : Draft}
    {pos next bound : Nat} {named : List Token} (hs : s.Valid tokens)
    (houter : ∀ place, outer = some place → place < s.entries.length)
    (hword : typeWord tokens pos = (kind, next)) (h : tokens.drop next = named)
    (hbound : named.length < bound)
    (hbody : ∀ (place : Nat) (s : Draft) (pos : Nat), s.Valid tokens → place < s.entries.length →
      (tokens.drop pos).length < bound → Leads tokens (classBody tokens place s pos)
        (s.outline tokens) [⟨place, false⟩] (tokens.drop pos) [])
    : let found := Reader.type (s.outline tokens) outer m kind named
      Leads tokens (typeDecl tokens m outer s pos) found.1 found.2.1.toList found.2.2 [] := by
  rw [typeDecl, hword]
  dsimp only
  cases named with
  | nil =>
    rw [getElem?_of_drop_nil h]
    exact .pure hs h []
  | cons name rest =>
    rw [getElem?_of_drop_cons h, Reader.type]
    dsimp only
    split
    · obtain ⟨behind, hrun, hbehind⟩ := typeHeader_eq kind name m houter (drop_succ h)
      have hs' := hs.push (e := ⟨
        { name := name.text, qualifiedName := (s.outline tokens).qualifiedName outer name.text,
          kind := kind, outer := outer, deprecation := m.deprecation?,
          members := Reader.recordMembers name.span (Reader.typeHeader kind rest).components,
          span := name.span }, (Reader.typeHeader kind rest).supertypes⟩) houter
      have hle := (Reader.typeHeader_suffix kind rest).length_le
      rw [hrun, pure_bind]
      dsimp only
      rw [at?_eq hbehind]
      -- A header with no body behind it declares the type all the same.
      cases hrest : (Reader.typeHeader kind rest).rest with
      | nil => exact .pure hs' (hbehind.trans hrest) []
      | cons t after =>
        rw [hrest] at hbehind hle
        rw [List.length_cons] at hle hbound
        rw [Reader.starts]
        dsimp only
        split
        · apply (openBody_eq hs' (Draft.lt_push s _) (drop_succ hbehind)).bind
          intro s'' pos'' hs'' hlength hpos''
          apply hbody _ s'' pos'' hs'' (Nat.lt_of_lt_of_le (Draft.lt_push s _) hlength)
          omega
        · exact .pure hs' hbehind []
    · exact .pure hs h []

theorem stepInside_block {o : Outline} {owner : Nat} (outer : List Reader.OpenType)
    {t brace : Token} {rest left : List Token} {m : Modifiers} (hclosing : ¬ t.isPunct "\x7d" = true)
    (hend : ¬ t.isPunct ";" = true) (hread : Reader.modifiers {} (t :: rest) = (m, brace :: left))
    (hbrace : brace.isPunct "\x7b" = true)
    : Reader.stepInside o owner outer t rest
        =
      (o.addBody { owner := owner, tokens := (Bracket.curly.inside left).1 },
        ⟨owner, false⟩ :: outer, (Bracket.curly.inside left).2) := by
  rw [Reader.stepInside, if_neg hclosing, if_neg hend, hread]
  dsimp only
  rw [group?_opening (b := .curly) hbrace]

theorem stepInside_other (o : Outline) (owner : Nat) (outer : List Reader.OpenType) {t : Token}
    {rest left : List Token} {m : Modifiers} (hclosing : ¬ t.isPunct "\x7d" = true)
    (hend : ¬ t.isPunct ";" = true) (hread : Reader.modifiers {} (t :: rest) = (m, left))
    (hbrace : ¬ Reader.starts (·.isPunct "\x7b") left = true)
    : Reader.stepInside o owner outer t rest
        =
      (Reader.typeStart? left).elim
        (if Reader.starts (·.isPunct "\x7d") left then
          (o, ⟨owner, false⟩ :: outer, left)
        else
          ((Reader.member o owner m left).1, ⟨owner, false⟩ :: outer, (Reader.member o owner m left).2))
        fun start =>
          let found := Reader.type o (some owner) m start.1 start.2
          (found.1, found.2.1.toList ++ ⟨owner, false⟩ :: outer, found.2.2) := by
  have hgroup : Bracket.curly.group? left = (none, left) := by
    cases left with
    | nil => rfl
    | cons t' left => exact if_neg hbrace
  rw [Reader.stepInside, if_neg hclosing, if_neg hend, hread]
  dsimp only
  rw [hgroup]
  dsimp only
  cases Reader.typeStart? left with
  | none => rfl
  | some start => rfl

theorem innerType_eq {place pos next : Nat} {s : Draft} {m : Modifiers} {kind : TypeDecl.Kind}
    {t : Token} {rest left named : List Token} (hs : s.Valid tokens)
    (hplace : place < s.entries.length) (h : tokens.drop pos = t :: rest)
    (hnext : tokens.drop next = left) (hsuffix : left <:+ t :: rest)
    (hstart : Reader.typeStart? left = some (kind, named))
    (hstep : ∀ outer, Reader.stepInside (s.outline tokens) place outer t rest
      =
      let found := Reader.type (s.outline tokens) (some place) m kind named
      (found.1, found.2.1.toList ++ ⟨place, false⟩ :: outer, found.2.2))
    (hbody : ∀ (place : Nat) (s : Draft) (pos : Nat), s.Valid tokens → place < s.entries.length →
      (tokens.drop pos).length < (t :: rest).length → Leads tokens (classBody tokens place s pos)
        (s.outline tokens) [⟨place, false⟩] (tokens.drop pos) [])
    : Leads tokens (typeDecl tokens m (some place) s next >>= fun found =>
          classBody tokens place found.1 (if found.2 = pos then pos + 1 else found.2))
        (s.outline tokens) [⟨place, false⟩] (t :: rest) [] := by
  obtain ⟨behind, hword, hbehind, hlt⟩ := typeStart?_named hnext hstart
  have hle := hsuffix.length_le
  have hle' := (Reader.type_suffix (s.outline tokens) (some place) m kind named).length_le
  have hrun := (typeDecl_eq m (some place) hs (fun _ h => Option.some.inj h ▸ hplace) hword hbehind
    (Nat.lt_of_lt_of_le hlt hle) hbody).append [⟨place, false⟩]
  have hstep' : ∀ outer, Reader.step (s.outline tokens) ([⟨place, false⟩] ++ outer) t rest
      =
      ((Reader.type (s.outline tokens) (some place) m kind named).1,
        (Reader.type (s.outline tokens) (some place) m kind named).2.1.toList ++ [⟨place, false⟩]
          ++ outer,
        (Reader.type (s.outline tokens) (some place) m kind named).2.2) := by
    intro outer
    rw [List.append_assoc]
    exact hstep outer
  refine Leads.step hstep' ?_
  rw [List.length_cons] at hle
  rw [leftOver_of_le (by omega)]
  apply hrun.bind
  intro s' pos' hs' hlength hpos'
  -- The type takes at least the token that it starts with.
  have hne : pos' ≠ pos := by
    intro heq
    rw [heq, h, List.length_cons] at hpos'
    omega
  dsimp only
  rw [if_neg hne]
  have hgrows := Reader.type_grows (s.outline tokens) (some place) m kind named
  exact hbody _ _ _ hs'
    (Nat.lt_of_lt_of_le (Nat.lt_of_lt_of_le hplace (grows_length_le hgrows)) hlength)
    (by rw [List.length_cons]; omega)

theorem classBody_eq {place pos : Nat} {s : Draft} {rest : List Token} (hs : s.Valid tokens)
    (hplace : place < s.entries.length) (h : tokens.drop pos = rest)
    : Leads tokens (classBody tokens place s pos) (s.outline tokens) [⟨place, false⟩] rest [] := by
  induction hn : rest.length using Nat.strongRecOn generalizing place s pos rest with | ind n ih
  subst hn
  cases rest with
  | nil =>
    rw [classBody, getElem?_of_drop_nil h]
    exact .stop hs h _ _
  | cons t rest =>
    rw [classBody, getElem?_of_drop_cons h]
    dsimp only
    split
    · next hclosing =>
      have hstep : ∀ outer, Reader.step (s.outline tokens) ([⟨place, false⟩] ++ outer) t rest
          = (s.outline tokens, [] ++ outer, rest) := fun outer => if_pos hclosing
      apply Leads.step hstep
      rw [leftOver_self]
      exact .pure hs (drop_succ h) _
    · next hclosing =>
      split
      · next hend =>
        have hstep : ∀ outer, Reader.step (s.outline tokens) ([⟨place, false⟩] ++ outer) t rest
            = (s.outline tokens, [⟨place, false⟩] ++ outer, rest) := fun outer =>
          (if_neg hclosing).trans (if_pos hend)
        apply Leads.step hstep
        rw [leftOver_self]
        exact ih rest.length (Nat.lt_succ_self _) hs hplace (drop_succ h) rfl
      · next hend =>
        obtain ⟨next, hmodifiers, hnext⟩ := modifiers_eq {} h
        have hsuffix := Reader.modifiers_suffix {} (t :: rest)
        rw [hmodifiers, pure_bind]
        cases hread : Reader.modifiers {} (t :: rest) with
        | mk m left =>
          rw [hread] at hnext hsuffix
          dsimp only at hnext hsuffix ⊢
          -- A step that stays in this body is one before the reading of the rest of it.
          have stay : ∀ {s' : Draft} {next' : Nat} {after : List Token},
              (∀ outer, Reader.step (s.outline tokens) ([⟨place, false⟩] ++ outer) t rest
                = (s'.outline tokens, [⟨place, false⟩] ++ outer, after)) →
              s'.Valid tokens → tokens.drop next' = after → after <:+ t :: rest →
              Leads tokens (classBody tokens place s' (if next' = pos then pos + 1 else next'))
                (s.outline tokens) [⟨place, false⟩] (t :: rest) [] := by
            intro s' next' after hstep hs' hnext' hafter
            have hgrows := Reader.step_grows (s.outline tokens) ([⟨place, false⟩] ++ []) t rest
            rw [hstep] at hgrows
            apply Leads.step hstep
            exact ih _ (Nat.lt_succ_of_le (Reader.length_leftOver_le _ _)) hs'
              (Nat.lt_of_lt_of_le hplace (grows_length_le hgrows)) (drop_leftOver h hnext' hafter) rfl
          rw [at?_eq hnext, atType_eq hnext, at?_eq hnext]
          split
          · next hbrace =>
            cases left with
            | nil => cases hbrace
            | cons brace left =>
              obtain ⟨range, behind, hgroup, hrange, hbehind⟩ :=
                skipGroup_encloses (b := .curly) hnext hbrace
              obtain ⟨hs', -, hout⟩ :=
                addInside_eq hs hplace (.inr ⟨range, _, rfl, rfl, hrange⟩)
              rw [hgroup, pure_bind]
              refine stay ?_ hs' hbehind ?_
              · intro outer
                rw [hout]
                exact stepInside_block outer hclosing hend hread hbrace
              · exact (Bracket.inside_suffix _ _).trans ((List.suffix_cons _ _).trans hsuffix)
          · next hbrace =>
            have hstep := fun outer =>
              stepInside_other (s.outline tokens) place outer hclosing hend hread hbrace
            cases hstart : Reader.typeStart? left with
            | some start =>
              simp only [hstart, Option.elim_some] at hstep
              rw [Option.isSome_some, if_pos rfl]
              exact innerType_eq hs hplace h hnext hsuffix hstart hstep fun place s pos hs hplace hlt =>
                ih _ hlt hs hplace rfl rfl
            | none =>
              simp only [hstart, Option.elim_none] at hstep
              rw [Option.isSome_none, if_neg Bool.false_ne_true]
              split
              · next hbrace' =>
                refine stay ?_ hs hnext hsuffix
                intro outer
                exact (hstep outer).trans (if_pos hbrace')
              · next hbrace' =>
                obtain ⟨s', behind, hrun, hs', hout, hbehind⟩ := member_eq (m := m) hs hplace hnext
                rw [hrun, pure_bind]
                refine stay ?_ hs' hbehind ((Reader.member_suffix _ _ _ _).trans hsuffix)
                intro outer
                rw [hout]
                exact (hstep outer).trans (if_neg hbrace')

theorem declarations_eq {pos : Nat} {s : Draft} {rest : List Token} (hs : s.Valid tokens)
    (h : tokens.drop pos = rest)
    : ∃ s', declarations tokens s pos = pure s' ∧ s'.Valid tokens
        ∧ s'.outline tokens = Reader.outlineFrom (s.outline tokens) [] rest := by
  induction hn : rest.length using Nat.strongRecOn generalizing s pos rest with | ind n ih
  subst hn
  cases rest with
  | nil =>
    rw [declarations, getElem?_of_drop_nil h, Reader.outlineFrom]
    exact ⟨s, rfl, hs, rfl⟩
  | cons t rest =>
    rw [declarations, getElem?_of_drop_cons h, Reader.outlineFrom, Reader.step, Reader.stepOutside]
    dsimp only
    -- A package clause, an import, or modifiers with perhaps a type behind them.
    split
    · obtain ⟨next, hname, hnext⟩ := dottedName_eq "" (drop_succ h)
      have hle := (Reader.dottedName_suffix "" rest).length_le
      rw [hname, pure_bind, leftOver_of_le hle]
      exact ih _ (Nat.lt_succ_of_le hle) (s := { s with package := some _ }) ⟨hs.regions, hs.outer⟩
        hnext rfl
    · split
      · have hpath : tokens.drop (if at? tokens (pos + 1) (·.isWord "static") then pos + 2 else pos + 1)
            = if Reader.starts (·.isWord "static") rest then rest.tail else rest := by
          rw [at?_eq (drop_succ h)]
          split
          · exact (drop_add h 2).trans List.drop_one
          · exact drop_succ h
        obtain ⟨next, hname, hnext⟩ := dottedName_eq "" hpath
        have hsuffix : (if Reader.starts (·.isWord "static") rest then rest.tail else rest) <:+ rest := by
          split
          · exact List.tail_suffix rest
          · exact List.suffix_refl rest
        have hle := ((Reader.dottedName_suffix "" _).trans hsuffix).length_le
        rw [hname, pure_bind, leftOver_of_le hle, at?_eq (drop_succ h)]
        exact ih _ (Nat.lt_succ_of_le hle) (s := { s with imports := _ }) ⟨hs.regions, hs.outer⟩
          hnext rfl
      · obtain ⟨next, hmodifiers, hnext⟩ := modifiers_eq {} h
        have hsuffix := Reader.modifiers_suffix {} (t :: rest)
        rw [hmodifiers, pure_bind]
        cases hread : Reader.modifiers {} (t :: rest) with
        | mk m left =>
          rw [hread] at hnext hsuffix
          dsimp only at hnext hsuffix ⊢
          rw [atType_eq hnext]
          cases hstart : Reader.typeStart? left with
          | none =>
            rw [Option.isSome_none, if_neg Bool.false_ne_true]
            exact ih _ (Nat.lt_succ_of_le (Reader.length_leftOver_le _ _)) hs
              (drop_leftOver h hnext hsuffix) rfl
          | some start =>
            obtain ⟨kind, named⟩ := start
            obtain ⟨behind, hword, hbehind, hlt⟩ := typeStart?_named hnext hstart
            have hle := hsuffix.length_le
            have hle' := (Reader.type_suffix (s.outline tokens) none m kind named).length_le
            obtain ⟨s', pos', hrun, hs', -, hpos', houter⟩ := typeDecl_eq m none hs
              (fun _ h => by cases h) hword hbehind hlt fun place s pos hs hplace hlt =>
                classBody_eq hs hplace rfl
            specialize houter []
            rw [List.append_nil, List.append_nil] at houter
            rw [List.length_cons] at hle
            rw [Option.isSome_some, if_pos rfl, hrun, pure_bind]
            change ∃ s'', _ ∧ _ ∧ _ = Reader.outlineFrom _ _ (Reader.leftOver rest
              (Reader.type (s.outline tokens) none m kind named).2.2)
            rw [leftOver_of_le (by omega), houter]
            exact ih _ (by rw [List.length_cons]; omega) hs' rfl rfl

theorem declarations_outline (tokens : List Token)
    : ∃ s, declarations tokens {} 0 = pure s ∧ s.Valid tokens ∧ s.outline tokens = outline tokens := by
  have hs : ({} : Draft).Valid tokens := by
    refine ⟨?_, ?_⟩
    · intro r hr
      cases hr
    · intro place e outer he
      cases he
  exact declarations_eq hs rfl

end DeprecatedUse.Java.Cursor
