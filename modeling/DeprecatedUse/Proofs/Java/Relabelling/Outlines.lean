import DeprecatedUse.Proofs.Java.Reading
import DeprecatedUse.Proofs.Java.Relabelling.Tokens
import Mathlib

/-!
This module contains the outline of relabelled tokens. It declares the same up to spans, and its
bodies are the relabelled bodies.
-/

namespace DeprecatedUse.Java

/-! Declarations without their places in a text. -/

def MemberDecl.withoutSpan (m : MemberDecl) : MemberDecl :=
  { m with span := {} }

def TypeDecl.withoutSpans (d : TypeDecl) : TypeDecl :=
  { d with members := d.members.map MemberDecl.withoutSpan, span := {} }

def Declarations.withoutSpans (d : Declarations) : Declarations :=
  { d with types := d.types.map TypeDecl.withoutSpans }

/-! The outline of relabelled tokens. -/

def Outline.Entry.withoutSpans (e : Outline.Entry) : Outline.Entry :=
  { e with decl := e.decl.withoutSpans }

def Body.relabel (r : Relabelling) (body : Body) : Body :=
  { body with tokens := body.tokens.map r.apply }

/--
Two outlines are the same but for spans, and the bodies of the second are relabelled.
-/
structure Outline.Agrees (r : Relabelling) (o o' : Outline) : Prop where
  package : o'.package = o.package
  imports : o'.imports = o.imports
  entries : o'.entries.map Entry.withoutSpans = o.entries.map Entry.withoutSpans
  bodies : o'.bodies = o.bodies.map (Body.relabel r)

namespace Outline.Agrees

variable {r : Relabelling} {o o' : Outline}

theorem refl_empty : Agrees r {} {} :=
  ⟨rfl, rfl, rfl, rfl⟩

theorem length_entries (h : Agrees r o o') : o'.entries.length = o.entries.length := by
  have hlength := congrArg List.length h.entries
  simpa using hlength

theorem addBody (h : Agrees r o o') {body body' : Body} (hbody : body' = body.relabel r)
    : Agrees r (o.addBody body) (o'.addBody body') where
  package := h.package
  imports := h.imports
  entries := h.entries
  bodies := by
    unfold Outline.addBody
    rw [h.bodies, hbody, List.map_append]
    rfl

theorem withoutSpans_addMember (o : Outline) (owner : Nat) (m : MemberDecl)
    : (o.addMember owner m).entries.map Entry.withoutSpans
        =
      (o.entries.map Entry.withoutSpans).modify owner fun e =>
        { e with decl := { e.decl with members := e.decl.members ++ [m.withoutSpan] } } := by
  apply List.ext_getElem?
  intro place
  unfold Outline.addMember
  dsimp only
  rw [List.getElem?_map, List.getElem?_modify, List.getElem?_modify, List.getElem?_map]
  cases o.entries[place]? with
  | none => rfl
  | some e =>
    by_cases howner : owner = place
    · simp [howner, Entry.withoutSpans, TypeDecl.withoutSpans]
    · simp [howner]

theorem addMember (h : Agrees r o o') (owner : Nat) {m m' : MemberDecl}
    (hm : m'.withoutSpan = m.withoutSpan)
    : Agrees r (o.addMember owner m) (o'.addMember owner m') where
  package := h.package
  imports := h.imports
  entries := by rw [withoutSpans_addMember, withoutSpans_addMember, h.entries, hm]
  bodies := h.bodies

theorem addEntry (h : Agrees r o o') {e e' : Entry} (he : e'.withoutSpans = e.withoutSpans)
    : Agrees r { o with entries := o.entries ++ [e] } { o' with entries := o'.entries ++ [e'] } where
  package := h.package
  imports := h.imports
  entries := by
    dsimp only
    rw [List.map_append, List.map_append, h.entries, List.map_singleton, List.map_singleton, he]
  bodies := h.bodies

theorem qualifiedName (h : Agrees r o o') (outer : Option Nat) (name : String)
    : o'.qualifiedName outer name = o.qualifiedName outer name := by
  have hentry : ∀ place : Nat, (o'.entries[place]?).map Entry.withoutSpans
      = (o.entries[place]?).map Entry.withoutSpans := by
    intro place
    rw [← List.getElem?_map, h.entries, List.getElem?_map]
  unfold Outline.qualifiedName
  rw [h.package]
  cases outer with
  | none => rfl
  | some place =>
    have hplace := hentry place
    dsimp only [Option.bind_some]
    cases ho : o.entries[place]? with
    | none =>
      rw [ho, Option.map_none, Option.map_eq_none_iff] at hplace
      rw [hplace]
    | some e =>
      rw [ho, Option.map_some, Option.map_eq_some_iff] at hplace
      obtain ⟨e', he', hentries⟩ := hplace
      have hname : e'.decl.qualifiedName = e.decl.qualifiedName := by
        injection hentries with hdecl
        injection hdecl
      rw [he']
      dsimp only
      rw [hname]

theorem typeNames (h : Agrees r o o') : o'.typeNames = o.typeNames := by
  have hnames := congrArg (List.map fun e : Entry => (e.decl.name, e.decl.qualifiedName)) h.entries
  rw [List.map_map, List.map_map] at hnames
  unfold Outline.typeNames
  rw [h.package, h.imports]
  congr 1

theorem declarations (h : Agrees r o o')
    : o'.declarations.withoutSpans = o.declarations.withoutSpans := by
  unfold Outline.declarations Declarations.withoutSpans
  rw [h.package, h.imports, h.typeNames]
  dsimp only
  congr 1
  rw [List.map_map, List.map_map]
  have htypes := congrArg (List.map fun e : Entry =>
    { e.decl with supertypes := e.supertypeNames.map o.typeNames.resolve }) h.entries
  rw [List.map_map, List.map_map] at htypes
  exact htypes

end Outline.Agrees

namespace Reader

variable {r : Relabelling} {o o' : Outline}

theorem recordMembers_withoutSpan (span span' : Span) (components : List Parameter)
    : (recordMembers span' components).map MemberDecl.withoutSpan
        =
      (recordMembers span components).map MemberDecl.withoutSpan := by
  unfold recordMembers
  rw [List.map_flatMap, List.map_flatMap]
  rfl

theorem type_agrees (h : o.Agrees r o') (outer : Option Nat) (m : Modifiers) (kind : TypeDecl.Kind)
    (tokens : List Token)
    : (type o outer m kind tokens).1.Agrees r (type o' outer m kind (tokens.map r.apply)).1
        ∧ (type o' outer m kind (tokens.map r.apply)).2
            = Prod.map id (List.map r.apply) (type o outer m kind tokens).2 := by
  cases tokens with
  | nil => exact ⟨h, rfl⟩
  | cons name rest =>
    rw [List.map_cons, type, type, r.isIdent_apply, typeHeader_map, h.length_entries]
    split
    · next hident =>
      rw [r.text_of_isIdent hident, h.qualifiedName]
      dsimp only
      generalize typeHeader kind rest = head
      -- The two entries differ in the places of the names only.
      have hentry : Outline.Entry.withoutSpans
          ⟨{ name := name.text, qualifiedName := o.qualifiedName outer name.text, kind := kind,
              outer := outer, deprecation := m.deprecation?,
              members := recordMembers (r.apply name).span head.components,
              span := (r.apply name).span }, head.supertypes⟩
          = Outline.Entry.withoutSpans
          ⟨{ name := name.text, qualifiedName := o.qualifiedName outer name.text, kind := kind,
              outer := outer, deprecation := m.deprecation?,
              members := recordMembers name.span head.components, span := name.span },
            head.supertypes⟩ := by
        unfold Outline.Entry.withoutSpans TypeDecl.withoutSpans
        dsimp only
        rw [recordMembers_withoutSpan name.span]
      have hadded := h.addEntry hentry
      cases head.rest with
      | nil => exact ⟨hadded, rfl⟩
      | cons t after =>
        rw [List.map_cons]
        dsimp only
        rw [r.isPunct_apply]
        split
        · exact ⟨hadded, rfl⟩
        · exact ⟨hadded, rfl⟩
    · exact ⟨h, rfl⟩

theorem declarators_agrees (h : o.Agrees r o') (owner : Nat) {field field' : Token → MemberDecl}
    (hfield : ∀ t, t.isIdent = true →
      (field' (r.apply t)).withoutSpan = (field t).withoutSpan)
    (tokens : List Token)
    : (declarators owner field o tokens).1.Agrees r
          (declarators owner field' o' (tokens.map r.apply)).1
        ∧ (declarators owner field' o' (tokens.map r.apply)).2
            = (declarators owner field o tokens).2.map r.apply := by
  have hdims : ∀ tokens : List Token, (tokens.map r.apply).dropWhile isDimension
      = (tokens.dropWhile isDimension).map r.apply := by
    intro tokens
    rw [List.dropWhile_map]
    congr 2
    funext t
    exact r.isPunctOf_apply t ["[", "]"]
  fun_induction declarators owner field o tokens generalizing o' with
  | case1 o =>
    rw [List.map_nil, declarators.eq_def owner field' o']
    exact ⟨h, rfl⟩
  | case2 o t rest hequals initializer hle =>
    rename_i ih
    rw [List.map_cons, declarators.eq_def owner field' o']
    simp only [r.isPunct_apply]
    rw [if_pos hequals, splitExpression_map]
    apply ih
    exact h.addBody rfl
  | case3 o t hequals hcomma =>
    rw [List.map_cons, List.map_nil, declarators.eq_def owner field' o']
    simp only [r.isPunct_apply]
    rw [if_neg hequals, if_pos hcomma]
    exact ⟨h, rfl⟩
  | case4 o t hequals hcomma name more hident ih =>
    rw [List.map_cons, List.map_cons, declarators.eq_def owner field' o']
    simp only [r.isPunct_apply, r.isIdent_apply]
    rw [if_neg hequals, if_pos hcomma, if_pos hident, hdims]
    apply ih
    exact h.addMember owner (hfield name hident)
  | case5 o t hequals hcomma name more hident ih =>
    rw [List.map_cons, List.map_cons, declarators.eq_def owner field' o']
    simp only [r.isPunct_apply, r.isIdent_apply]
    rw [if_neg hequals, if_pos hcomma, if_neg hident, ← List.map_cons, hdims]
    exact ih h
  | case6 o t rest hequals hcomma hsemicolon =>
    rw [List.map_cons, declarators.eq_def owner field' o']
    simp only [r.isPunct_apply]
    rw [if_neg hequals, if_neg hcomma, if_pos hsemicolon]
    exact ⟨h, rfl⟩
  | case7 o t rest hequals hcomma hsemicolon =>
    rw [List.map_cons, declarators.eq_def owner field' o']
    simp only [r.isPunct_apply]
    rw [if_neg hequals, if_neg hcomma, if_neg hsemicolon]
    exact ⟨h, rfl⟩

theorem fields_agrees (h : o.Agrees r o') (owner : Nat) (m : Modifiers) (head : List Token)
    (mark : Token) (rest : List Token)
    : (fields o owner m head mark rest).1.Agrees r
          (fields o' owner m (head.map r.apply) (r.apply mark) (rest.map r.apply)).1
        ∧ (fields o' owner m (head.map r.apply) (r.apply mark) (rest.map r.apply)).2
            = (fields o owner m head mark rest).2.map r.apply := by
  unfold fields
  rw [lastIdent?_map]
  cases hlast : lastIdent? head with
  | none => exact ⟨h, rfl⟩
  | some found =>
    obtain ⟨type, name⟩ := found
    have hname := (lastIdent?_some hlast).1
    cases type with
    | nil => exact ⟨h, rfl⟩
    | cons t type =>
      rw [← List.map_cons]
      refine declarators_agrees (h.addMember owner ?_) owner ?_ (mark :: rest)
      · dsimp only [MemberDecl.withoutSpan]
        rw [r.text_of_isIdent hname, TypeName.read?_map]
      · intro t ht
        dsimp only [MemberDecl.withoutSpan]
        rw [r.text_of_isIdent ht, TypeName.read?_map]

theorem method_agrees (h : o.Agrees r o') (owner : Nat) (m : Modifiers) (head rest : List Token)
    : (method o owner m head rest).1.Agrees r
          (method o' owner m (head.map r.apply) (rest.map r.apply)).1
        ∧ (method o' owner m (head.map r.apply) (rest.map r.apply)).2
            = (method o owner m head rest).2.map r.apply := by
  unfold method
  rw [Bracket.inside_map]
  dsimp only [Prod.map]
  rw [methodBody_map, List.getLast?_map, List.length_map, Parameter.readAll_map]
  dsimp only [Prod.map]
  generalize (methodBody (Bracket.round.inside rest).2).2 = after
  generalize (methodBody (Bracket.round.inside rest).2).1 = body
  cases head.getLast? with
  | none =>
    cases body with
    | none => exact ⟨h, rfl⟩
    | some tokens => exact ⟨h.addBody rfl, rfl⟩
  | some name =>
    dsimp only [Option.map_some]
    rw [r.isIdent_apply]
    split
    · next hident =>
      rw [r.text_of_isIdent hident]
      cases body with
      | none => exact ⟨h.addMember owner rfl, rfl⟩
      | some tokens => exact ⟨(h.addBody rfl).addMember owner rfl, rfl⟩
    · cases body with
      | none => exact ⟨h, rfl⟩
      | some tokens => exact ⟨h.addBody rfl, rfl⟩

theorem member_agrees (h : o.Agrees r o') (owner : Nat) (m : Modifiers) (tokens : List Token)
    : (member o owner m tokens).1.Agrees r (member o' owner m (tokens.map r.apply)).1
        ∧ (member o' owner m (tokens.map r.apply)).2
            = (member o owner m tokens).2.map r.apply := by
  unfold member
  rw [Bracket.group?_map, Prod.map_snd, splitMember_map]
  obtain ⟨head, rest⟩ := splitMember 0 (Bracket.angle.group? tokens).2
  dsimp only [Prod.map]
  cases rest with
  | nil => exact ⟨h, rfl⟩
  | cons mark rest =>
    rw [List.map_cons]
    dsimp only
    simp only [r.isPunct_apply]
    split
    · exact ⟨h, rfl⟩
    · split
      · exact method_agrees h owner m head rest
      · split
        · rw [Bracket.inside_map]
          exact ⟨h.addBody rfl, rfl⟩
        · exact fields_agrees h owner m head mark rest

theorem stepOutside_agrees (h : o.Agrees r o') {t : Token} {rest : List Token}
    (hkeeps : r.KeepsArguments (t :: rest))
    : (stepOutside o t rest).1.Agrees r (stepOutside o' (r.apply t) (rest.map r.apply)).1
        ∧ (stepOutside o' (r.apply t) (rest.map r.apply)).2
            = Prod.map id (List.map r.apply) (stepOutside o t rest).2 := by
  unfold stepOutside
  simp only [r.isWord_apply]
  split
  · rw [dottedName_map]
    exact ⟨⟨rfl, h.imports, h.entries, h.bodies⟩, rfl⟩
  · split
    · have hrest : (if starts (·.isWord "static") rest then (rest.map r.apply).tail
            else rest.map r.apply)
          = (if starts (·.isWord "static") rest then rest.tail else rest).map r.apply := by
        split
        · rw [List.map_tail]
        · rfl
      rw [starts_map r fun t => r.isWord_apply t "static", hrest, dottedName_map, h.imports]
      exact ⟨⟨h.package, rfl, h.entries, h.bodies⟩, rfl⟩
    · rw [← List.map_cons, modifiers_map {} hkeeps]
      obtain ⟨m, behind⟩ := modifiers {} (t :: rest)
      dsimp only [Prod.map]
      rw [typeStart?_map]
      cases typeStart? behind with
      | none => exact ⟨h, rfl⟩
      | some found =>
        obtain ⟨kind, tokens⟩ := found
        obtain ⟨htype, hrest⟩ := type_agrees h none m kind tokens
        exact ⟨htype, Prod.ext (congrArg (·.1.toList) hrest) (congrArg (·.2) hrest)⟩

theorem foldl_addBody_agrees (h : o.Agrees r o') (owner : Nat) (insides : List (List Token))
    : (insides.foldl (fun o tokens => o.addBody { owner := owner, tokens := tokens }) o).Agrees r
        ((insides.map (List.map r.apply)).foldl
          (fun o tokens => o.addBody { owner := owner, tokens := tokens }) o') := by
  induction insides generalizing o o' with
  | nil => exact h
  | cons inside insides ih => exact ih (h.addBody rfl)

theorem stepConstants_agrees (h : o.Agrees r o') (owner : Nat) (outer : List OpenType) {t : Token}
    {rest : List Token} (hkeeps : r.KeepsArguments (t :: rest))
    : (stepConstants o owner outer t rest).1.Agrees r
          (stepConstants o' owner outer (r.apply t) (rest.map r.apply)).1
        ∧ (stepConstants o' owner outer (r.apply t) (rest.map r.apply)).2
            = Prod.map id (List.map r.apply) (stepConstants o owner outer t rest).2 := by
  unfold stepConstants
  simp only [r.isPunct_apply]
  split
  · exact ⟨h, rfl⟩
  · split
    · exact ⟨h, rfl⟩
    · split
      · exact ⟨h, rfl⟩
      · rw [← List.map_cons, modifiers_map {} hkeeps]
        obtain ⟨m, behind⟩ := modifiers {} (t :: rest)
        cases behind with
        | nil => exact ⟨h, rfl⟩
        | cons name after =>
          dsimp only [Prod.map, id]
          rw [List.map_cons]
          dsimp only
          rw [r.isIdent_apply]
          split
          · next hident =>
            rw [Bracket.group?_map]
            dsimp only [Prod.map]
            rw [Bracket.group?_map]
            dsimp only [Prod.map]
            refine ⟨?_, rfl⟩
            have hmap : ∀ inside : Option (List Token), (inside.map (List.map r.apply)).toList
                = inside.toList.map (List.map r.apply) := by
              intro inside
              cases inside <;> rfl
            rw [hmap, hmap, ← List.map_append]
            refine foldl_addBody_agrees (h.addMember owner ?_) owner _
            dsimp only [MemberDecl.withoutSpan]
            rw [r.text_of_isIdent hident]
          · exact ⟨h, rfl⟩

theorem stepInside_agrees (h : o.Agrees r o') (owner : Nat) (outer : List OpenType) {t : Token}
    {rest : List Token} (hkeeps : r.KeepsArguments (t :: rest))
    : (stepInside o owner outer t rest).1.Agrees r
          (stepInside o' owner outer (r.apply t) (rest.map r.apply)).1
        ∧ (stepInside o' owner outer (r.apply t) (rest.map r.apply)).2
            = Prod.map id (List.map r.apply) (stepInside o owner outer t rest).2 := by
  unfold stepInside
  simp only [r.isPunct_apply]
  split
  · exact ⟨h, rfl⟩
  · split
    · exact ⟨h, rfl⟩
    · rw [← List.map_cons, modifiers_map {} hkeeps]
      obtain ⟨m, behind⟩ := modifiers {} (t :: rest)
      dsimp only [Prod.map, id]
      rw [Bracket.group?_map]
      obtain ⟨inside, after⟩ := Bracket.curly.group? behind
      cases inside with
      | some inside => exact ⟨h.addBody rfl, rfl⟩
      | none =>
        dsimp only [Prod.map, Option.map_none]
        rw [typeStart?_map]
        cases typeStart? behind with
        | some found =>
          obtain ⟨kind, tokens⟩ := found
          obtain ⟨htype, hrest⟩ := type_agrees h (some owner) m kind tokens
          refine ⟨htype, Prod.ext ?_ (congrArg (·.2) hrest)⟩
          exact congrArg (·.1.toList ++ ⟨owner, false⟩ :: outer) hrest
        | none =>
          dsimp only [Option.map_none]
          simp only [starts_map (p := (·.isPunct "\x7d")) r fun t => r.isPunct_apply t "\x7d"]
          split
          · exact ⟨h, rfl⟩
          · obtain ⟨hmember, hrest⟩ := member_agrees h owner m behind
            refine ⟨hmember, ?_⟩
            dsimp only
            rw [hrest]

theorem step_agrees (h : o.Agrees r o') (enclosing : List OpenType) {t : Token} {rest : List Token}
    (hkeeps : r.KeepsArguments (t :: rest))
    : (step o enclosing t rest).1.Agrees r
          (step o' enclosing (r.apply t) (rest.map r.apply)).1
        ∧ (step o' enclosing (r.apply t) (rest.map r.apply)).2
            = Prod.map id (List.map r.apply) (step o enclosing t rest).2 := by
  unfold step
  split
  · exact stepOutside_agrees h hkeeps
  · exact stepConstants_agrees h _ _ hkeeps
  · exact stepInside_agrees h _ _ hkeeps

theorem leftOver_map (rest after : List Token)
    : leftOver (rest.map r.apply) (after.map r.apply) = (leftOver rest after).map r.apply := by
  unfold leftOver
  rw [List.length_map, List.length_map]
  split
  · rfl
  · rfl

theorem outlineFrom_agrees (h : o.Agrees r o') (enclosing : List OpenType) {tokens : List Token}
    (hkeeps : r.KeepsArguments tokens)
    : (outlineFrom o enclosing tokens).Agrees r
        (outlineFrom o' enclosing (tokens.map r.apply)) := by
  fun_induction outlineFrom o enclosing tokens generalizing o' with
  | case1 o enclosing =>
    rw [List.map_nil, outlineFrom]
    exact h
  | case2 o enclosing t rest next =>
    rename_i ih
    obtain ⟨hstep, hnext⟩ := step_agrees h enclosing hkeeps
    have hleft := (leftOver_suffix (step_suffix o enclosing t rest)).trans (List.suffix_cons t rest)
    rw [List.map_cons, outlineFrom, hnext]
    dsimp only [Prod.map, id]
    rw [leftOver_map]
    exact ih hstep (hkeeps.suffix hleft)

end Reader

theorem outline_agrees {r : Relabelling} {tokens : List Token} (h : r.KeepsArguments tokens)
    : (outline tokens).Agrees r (outline (tokens.map r.apply)) :=
  Reader.outlineFrom_agrees .refl_empty [] h

end DeprecatedUse.Java
