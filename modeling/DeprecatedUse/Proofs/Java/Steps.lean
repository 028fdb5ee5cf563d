import DeprecatedUse.Proofs.Java.Passing

/-!
This module contains what one step of the reader of declarations can do to a text with nested
brackets. A step takes in braces in whole pairs, but for the braces of the type that it opens or
closes.
-/

namespace DeprecatedUse.Java

namespace Reader

/-! Members. -/

def NamedIn (tokens : List Token) (m : MemberDecl) : Prop :=
  ∃ before t rest, before ++ t :: rest = tokens ∧ Whole before
    ∧ t.isIdent = true ∧ t.text = m.name ∧ t.span = m.span

theorem NamedIn.of_passes {tokens rest : List Token} {m : MemberDecl} (h : NamedIn rest m)
    (hpasses : Passes tokens rest) : NamedIn tokens m := by
  obtain ⟨before, t, after, rfl, hbefore, hname⟩ := h
  obtain ⟨taken, rfl, htaken⟩ := hpasses
  exact ⟨taken ++ before, t, after, List.append_assoc .., htaken.append hbefore, hname⟩

def AddsMembers (tokens : List Token) (owner : Nat) (o o' : Outline) : Prop :=
  ∃ members : List MemberDecl,
    o'.entries = o.entries.modify owner (fun e =>
      { e with decl := { e.decl with members := e.decl.members ++ members } })
    ∧ ∀ m, m ∈ members → NamedIn tokens m

namespace AddsMembers

variable {tokens rest : List Token} {owner : Nat} {o o' o'' : Outline}

theorem of_eq (h : o'.entries = o.entries) : AddsMembers tokens owner o o' := by
  refine ⟨[], ?_, fun m hm => nomatch hm⟩
  rw [h]
  apply List.ext_getElem?
  intro place
  rw [List.getElem?_modify]
  simp

theorem trans (h : AddsMembers tokens owner o o') (h' : AddsMembers tokens owner o' o'')
    : AddsMembers tokens owner o o'' := by
  obtain ⟨members, hentries, hmembers⟩ := h
  obtain ⟨members', hentries', hmembers'⟩ := h'
  refine ⟨members ++ members', ?_, ?_⟩
  · rw [hentries', hentries, List.modify_modify_eq]
    simp only [Function.comp_def, List.append_assoc]
  · intro m hm
    rw [List.mem_append] at hm
    rcases hm with hm | hm
    · exact hmembers m hm
    · exact hmembers' m hm

theorem of_passes (h : AddsMembers rest owner o o') (hpasses : Passes tokens rest)
    : AddsMembers tokens owner o o' := by
  obtain ⟨members, hentries, hmembers⟩ := h
  exact ⟨members, hentries, fun m hm => (hmembers m hm).of_passes hpasses⟩

theorem addMember {m : MemberDecl} (h : NamedIn tokens m)
    : AddsMembers tokens owner o (o.addMember owner m) := by
  refine ⟨[m], rfl, ?_⟩
  intro m' hm'
  rw [List.mem_singleton] at hm'
  rw [hm']
  exact h

end AddsMembers

theorem declarators_addsMembers {owner : Nat} {field : Token → MemberDecl}
    (hfield : ∀ t, (field t).name = t.text ∧ (field t).span = t.span) {o : Outline}
    {tokens : List Token} (h : Closes tokens)
    : AddsMembers tokens owner o (declarators owner field o tokens).1 := by
  fun_induction declarators owner field o tokens with
  | case1 => exact .of_eq rfl
  | case2 o t rest ht _ _ ih =>
    have hrest := h.suffix (List.suffix_cons t rest)
    have hexpression := splitExpression_passes hrest
    refine AddsMembers.trans (.of_eq rfl) ((ih (hrest.suffix hexpression.suffix)).of_passes ?_)
    exact hexpression.cons (Token.isBrace_of_isPunct ht)
  | case3 => exact .of_eq rfl
  | case4 o t _ ht name more hname ih =>
    have hmore := h.suffix ((List.suffix_cons name more).trans (List.suffix_cons t _))
    have hdimensions := dropWhile_isDimension_passes more
    refine AddsMembers.trans (.addMember ?_)
      ((ih (hmore.suffix hdimensions.suffix)).of_passes ?_)
    · exact ⟨[t], name, more, rfl, Whole.nil.cons (Token.isBrace_of_isPunct ht), hname,
        (hfield name).1.symm, (hfield name).2.symm⟩
    · exact (hdimensions.cons (Token.isBrace_of_isIdent hname)).cons (Token.isBrace_of_isPunct ht)
  | case5 o t _ ht name more _ ih =>
    have hmore := h.suffix (List.suffix_cons t (name :: more))
    have hdimensions := dropWhile_isDimension_passes (name :: more)
    exact (ih (hmore.suffix hdimensions.suffix)).of_passes
      (hdimensions.cons (Token.isBrace_of_isPunct ht))
  | case6 => exact .of_eq rfl
  | case7 => exact .of_eq rfl

def firstField? (tokens : List Token) : Option (List Token × Token) :=
  if (typeStart? tokens).isSome then
    none
  else
    let (head, rest) := splitMember 0 (Bracket.angle.group? tokens).2
    if starts (fun mark => !mark.isPunctOf ["(", "\x7b", "\x7d"]) rest then
      (lastIdent? head).filter fun (type, _) => !type.isEmpty
    else
      none

theorem fields_addsMembers {o : Outline} {owner : Nat} {m : Modifiers} {head rest : List Token}
    {mark : Token} (hcloses : Closes (mark :: rest)) (hhead : Whole head)
    (hfield : ∀ type name, lastIdent? head = some (type, name) → type ≠ [] → Whole type)
    : AddsMembers (head ++ mark :: rest) owner o (fields o owner m head mark rest).1 := by
  unfold fields
  split
  · exact .of_eq rfl
  · exact .of_eq rfl
  · next type name hne hlast =>
    obtain ⟨hident, after, rfl⟩ := lastIdent?_some hlast
    refine AddsMembers.trans (.addMember ?_)
      ((declarators_addsMembers (fun _ => ⟨rfl, rfl⟩) hcloses).of_passes ⟨_, rfl, hhead⟩)
    exact ⟨type, name, after ++ mark :: rest, by simp, hfield type name hlast hne, hident, rfl,
      rfl⟩

theorem fields_passes (o : Outline) (owner : Nat) (m : Modifiers) (head : List Token)
    {mark : Token} (hmark : mark.isBrace = false) {rest : List Token}
    (h : Closes (mark :: rest)) : Passes (mark :: rest) (fields o owner m head mark rest).2 := by
  unfold fields
  split
  · exact Passes.skip hmark rest
  · exact Passes.skip hmark rest
  · exact declarators_passes _ _ _ h

theorem method_passes (o : Outline) (owner : Nat) (m : Modifiers) (head : List Token)
    {first : Token} {rest : List Token} (hcloses : Closes (first :: rest))
    (hfirst : first.isPunct "(" = true)
    : Passes (first :: rest) (method o owner m head rest).2 := by
  have hinside := Bracket.inside_passes round_mem_nesting hfirst hcloses
  have hbody := hinside.trans (methodBody_passes (hcloses.suffix hinside.suffix))
  unfold method
  dsimp only
  split
  · exact hbody
  · split
    · exact hbody
    · exact hbody

theorem method_addsMembers (o : Outline) (owner : Nat) (m : Modifiers) {head : List Token}
    (hhead : Whole head) (first : Token) (rest : List Token)
    : AddsMembers (head ++ first :: rest) owner o (method o owner m head rest).1 := by
  have hnamed : ∀ {name : Token}, head.getLast? = some name → name.isIdent = true →
      ∀ {decl : MemberDecl}, decl.name = name.text → decl.span = name.span →
      NamedIn (head ++ first :: rest) decl := by
    intro name hlast hident decl hname hspan
    obtain ⟨before, rfl⟩ := List.getLast?_eq_some_iff.1 hlast
    exact ⟨before, name, first :: rest, by simp,
      hhead.of_concat (Token.isBrace_of_isIdent hident), hident, hname.symm, hspan.symm⟩
  unfold method
  dsimp only
  cases (methodBody (Bracket.round.inside rest).2).1 with
  | none =>
    dsimp only
    split
    · exact .of_eq rfl
    · next name hlast =>
      split
      · next hident => exact .addMember (hnamed hlast hident rfl rfl)
      · exact .of_eq rfl
  | some body =>
    dsimp only
    split
    · exact .of_eq rfl
    · next name hlast =>
      split
      · next hident =>
        exact AddsMembers.trans (.of_eq rfl) (.addMember (hnamed hlast hident rfl rfl))
      · exact .of_eq rfl

theorem member_effect {o : Outline} {owner : Nat} {m : Modifiers} {tokens : List Token}
    (hcloses : Closes tokens) (hstart : typeStart? tokens = none)
    (hangles : AnglesBalanced tokens (splitMember 0 (Bracket.angle.group? tokens).2).2)
    (hfield : ∀ type name, firstField? tokens = some (type, name) → Whole type)
    : AddsMembers tokens owner o (member o owner m tokens).1
      ∧ Passes tokens (member o owner m tokens).2 := by
  have hangle := angle_passes hangles (splitMember_suffix 0 _)
  have hhead := splitMember_whole (hangles.suffix hangle.suffix)
  have happend := splitMember_append 0 (Bracket.angle.group? tokens).2
  unfold firstField? at hfield
  rw [hstart, Option.isSome_none, if_neg Bool.false_ne_true] at hfield
  unfold member
  generalize splitMember 0 (Bracket.angle.group? tokens).2 = split at hhead happend hfield ⊢
  obtain ⟨head, rest⟩ := split
  dsimp only at hhead happend hfield ⊢
  have hsplit : Passes tokens rest := hangle.trans ⟨head, happend, hhead⟩
  cases rest with
  | nil => exact ⟨.of_eq rfl, hsplit⟩
  | cons mark rest =>
    have hcloses' := hcloses.suffix hsplit.suffix
    dsimp only
    -- The mark behind the head: the end of the body, a method, a block or fields.
    split
    · exact ⟨.of_eq rfl, hsplit⟩
    · next hclosing =>
      split
      · next hround =>
        refine ⟨?_, hsplit.trans (method_passes _ _ _ _ hcloses' hround)⟩
        refine AddsMembers.of_passes ?_ hangle
        rw [← happend]
        exact method_addsMembers o owner m hhead mark rest
      · next hround =>
        split
        · next hcurly =>
          exact ⟨.of_eq rfl, hsplit.trans (Bracket.inside_passes curly_mem_nesting hcurly hcloses')⟩
        · next hcurly =>
          have hbrace : mark.isBrace = false := by
            rw [Token.isBrace_eq, Bool.eq_false_iff.2 hcurly, Bool.eq_false_iff.2 hclosing]
            rfl
          refine ⟨?_, hsplit.trans (fields_passes _ _ _ _ hbrace hcloses')⟩
          refine AddsMembers.of_passes ?_ hangle
          rw [← happend]
          apply fields_addsMembers hcloses' hhead
          intro type name hlast htype
          apply hfield type name
          have hmark : (!mark.isPunctOf ["(", "\x7b", "\x7d"]) = true := by
            rw [Bool.not_eq_true', Token.isPunctOf_cons, Token.isPunctOf_cons, Token.isPunctOf_cons,
              Bool.eq_false_iff.2 hround, Bool.eq_false_iff.2 hcurly, Bool.eq_false_iff.2 hclosing]
            simp [Token.isPunctOf]
          rw [starts, if_pos hmark, hlast, Option.filter_some, if_pos]
          simpa using htype

/-! Steps. -/

/--
The header that a step reads, from its start and up to its end: that of a type behind its name, or
that of a member.
-/
def headerOf? (enclosing : List OpenType) (tokens : List Token) :
    Option (List Token × List Token) :=
  let behind := (modifiers {} tokens).2
  if enclosing.head?.any OpenType.inConstants then
    none
  else
    match typeStart? behind with
    | none =>
      if enclosing.isEmpty then none
      else some (behind, (splitMember 0 (Bracket.angle.group? behind).2).2)
    | some (_, []) => none
    | some (kind, name :: after) =>
      if name.isIdent then some (after, (typeHeader kind after).rest) else none

/--
The step passes over no brace: none stands in the place of the name of a constant, and the name of a
field does not stand in braces of its type.
-/
def KeepsBraces (enclosing : List OpenType) (tokens : List Token) : Prop :=
  match enclosing with
  | [] => True
  | ⟨_, true⟩ :: _ =>
    starts (·.isPunct "\x7d") tokens = true ∨ starts Token.isBrace (modifiers {} tokens).2 = false
  | ⟨_, false⟩ :: _ =>
    ∀ type name, firstField? (modifiers {} tokens).2 = some (type, name) → Whole type

instance (enclosing : List OpenType) (tokens : List Token)
    : Decidable (KeepsBraces enclosing tokens) :=
  match enclosing with
  | [] => isTrue trivial
  | ⟨_, true⟩ :: _ => inferInstanceAs (Decidable (_ ∨ _))
  | ⟨_, false⟩ :: _ =>
    decidable_of_iff (∀ field, field ∈ firstField? (modifiers {} tokens).2 → Whole field.1)
      ⟨fun h type name => h (type, name), fun h field => h field.1 field.2⟩

inductive Effect (enclosing : List OpenType) (o : Outline) (tokens : List Token) :
    Outline → List OpenType → List Token → Prop where
  | pass {o' : Outline} {rest : List Token} (hentries : o'.entries = o.entries)
      (hrest : Passes tokens rest) : Effect enclosing o tokens o' enclosing rest
  | members {e e' : OpenType} {outer : List OpenType} (henclosing : enclosing = e :: outer)
      (hplace : e'.place = e.place) {o' : Outline} {rest : List Token}
      (hmembers : AddsMembers tokens e.place o o') (hrest : Passes tokens rest) :
      Effect enclosing o tokens o' (e' :: outer) rest
  | type {before after : List Token} {name : Token} (htokens : before ++ name :: after = tokens)
      (hbefore : Whole before) (hname : name.isIdent = true) (m : Modifiers)
      (kind : TypeDecl.Kind) (hheader : Passes after (typeHeader kind after).rest) :
      Effect enclosing o tokens
        (type o (enclosing.head?.map OpenType.place) m kind (name :: after)).1
        ((type o (enclosing.head?.map OpenType.place) m kind (name :: after)).2.1.toList
          ++ enclosing)
        (type o (enclosing.head?.map OpenType.place) m kind (name :: after)).2.2
  | close {e : OpenType} {outer : List OpenType} (henclosing : enclosing = e :: outer) {t : Token}
      {rest : List Token} (htokens : tokens = t :: rest) (ht : t.isPunct "\x7d" = true) :
      Effect enclosing o tokens o outer rest
  | skip (henclosing : enclosing = []) {t : Token} {rest : List Token}
      (htokens : tokens = t :: rest) : Effect enclosing o tokens o [] rest

theorem type_effect {enclosing : List OpenType} {o : Outline} {t : Token} {rest : List Token}
    (hcloses : Closes (t :: rest)) {kind : TypeDecl.Kind} {after : List Token}
    (hstart : typeStart? (modifiers {} (t :: rest)).2 = some (kind, after))
    (hheader : ∀ name behind, after = name :: behind → name.isIdent = true →
      AnglesBalanced behind (typeHeader kind behind).rest) (m : Modifiers)
    : Effect enclosing o (t :: rest)
        (type o (enclosing.head?.map OpenType.place) m kind after).1
        ((type o (enclosing.head?.map OpenType.place) m kind after).2.1.toList ++ enclosing)
        (leftOver rest (type o (enclosing.head?.map OpenType.place) m kind after).2.2) := by
  -- No declaration starts at a brace, so a step that reads nothing skips none.
  have ht : t.isBrace = false := by
    rw [Bool.eq_false_iff]
    intro ht
    rw [modifiers_brace ht, typeStart?_brace ht] at hstart
    cases hstart
  have hbefore := (modifiers_passes {} hcloses).trans (typeStart?_passes hstart)
  cases after with
  | nil => exact .pass rfl (leftOver_passes ht hbefore)
  | cons name behind =>
    by_cases hname : name.isIdent = true
    · have hbehind := suffix_of_cons_suffix_cons hbefore.suffix
      have hcloses' := hcloses.suffix (hbehind.trans (List.suffix_cons t rest))
      rw [leftOver_of_suffix ((type_suffix_of_isIdent o _ m kind hname behind).trans hbehind)]
      obtain ⟨before, htokens, hwhole⟩ := hbefore
      exact .type htokens hwhole hname m kind
        (typeHeader_passes hcloses' (hheader name behind rfl hname))
    · unfold type
      dsimp only
      rw [if_neg hname]
      exact .pass rfl (leftOver_passes ht hbefore)

theorem headerOf?_type {enclosing : List OpenType}
    (henclosing : enclosing.head?.any OpenType.inConstants = false) {tokens after : List Token}
    {kind : TypeDecl.Kind} (hstart : typeStart? (modifiers {} tokens).2 = some (kind, after))
    (hheader : ∀ start stop, headerOf? enclosing tokens = some (start, stop) →
      AnglesBalanced start stop)
    : ∀ name behind, after = name :: behind → name.isIdent = true →
        AnglesBalanced behind (typeHeader kind behind).rest := by
  intro name behind hafter hname
  apply hheader
  unfold headerOf?
  dsimp only
  rw [henclosing, if_neg Bool.false_ne_true, hstart, hafter]
  dsimp only
  rw [if_pos hname]

theorem headerOf?_member {owner : Nat} {outer : List OpenType} {tokens : List Token}
    (hstart : typeStart? (modifiers {} tokens).2 = none)
    : headerOf? (⟨owner, false⟩ :: outer) tokens
        =
      some ((modifiers {} tokens).2,
        (splitMember 0 (Bracket.angle.group? (modifiers {} tokens).2).2).2) := by
  unfold headerOf?
  dsimp only
  rw [hstart]
  rfl

theorem stepOutside_effect {o : Outline} {t : Token} {rest : List Token}
    (hcloses : Closes (t :: rest))
    (hheader : ∀ start stop, headerOf? [] (t :: rest) = some (start, stop) →
      AnglesBalanced start stop)
    : Effect [] o (t :: rest) (stepOutside o t rest).1 (stepOutside o t rest).2.1
        (leftOver rest (stepOutside o t rest).2.2) := by
  unfold stepOutside
  split
  · next hword =>
    have hname := dottedName_passes "" rest
    rw [leftOver_of_suffix hname.suffix]
    exact .pass rfl (hname.cons (Token.isBrace_of_isIdent (Token.isIdent_of_isWord hword)))
  · split
    · next hword =>
      have hstatic : Passes rest (if starts (·.isWord "static") rest then rest.tail else rest) := by
        split
        · next hstarts =>
          cases rest with
          | nil => cases hstarts
          | cons next more =>
            exact Passes.skip (Token.isBrace_of_isIdent (Token.isIdent_of_isWord hstarts)) more
        · exact Passes.refl rest
      have hname := hstatic.trans (dottedName_passes "" _)
      dsimp only
      rw [leftOver_of_suffix hname.suffix]
      exact .pass rfl (hname.cons (Token.isBrace_of_isIdent (Token.isIdent_of_isWord hword)))
    · dsimp only
      split
      · next kind after hstart =>
        have htype : Effect [] o (t :: rest) _ (_ ++ []) _ :=
          type_effect hcloses hstart (headerOf?_type rfl hstart hheader)
            (modifiers {} (t :: rest)).1
        rw [List.append_nil] at htype
        exact htype
      · next hstart =>
        -- Outside of all types a brace may be skipped: it belongs to no type.
        by_cases ht : t.isBrace = true
        · rw [modifiers_brace ht]
          unfold leftOver
          rw [if_neg (by rw [List.length_cons]; omega)]
          exact .skip rfl rfl
        · exact .pass rfl (leftOver_passes (Bool.eq_false_iff.2 ht) (modifiers_passes {} hcloses))

theorem stepConstants_effect {o : Outline} {owner : Nat} {outer : List OpenType} {t : Token}
    {rest : List Token} (hcloses : Closes (t :: rest))
    (hbraces : KeepsBraces (⟨owner, true⟩ :: outer) (t :: rest))
    : Effect (⟨owner, true⟩ :: outer) o (t :: rest) (stepConstants o owner outer t rest).1
        (stepConstants o owner outer t rest).2.1
        (leftOver rest (stepConstants o owner outer t rest).2.2) := by
  unfold stepConstants
  split
  · next ht =>
    dsimp only
    rw [leftOver_of_suffix (List.suffix_refl rest)]
    refine .members (e := ⟨owner, true⟩) rfl ?_ (.of_eq rfl)
      (Passes.skip (Token.isBrace_of_isPunct ht) rest)
    rfl
  · split
    · next ht =>
      rw [leftOver_of_suffix (List.suffix_refl rest)]
      exact .close rfl rfl ht
    · next hclosing =>
      -- What stands behind the modifiers is skipped, whatever it is.
      have hbrace := hbraces.resolve_left hclosing
      have ht : t.isBrace = false := by
        cases ht : t.isBrace with
        | false => rfl
        | true =>
          rw [modifiers_brace ht, starts, ht] at hbrace
          cases hbrace
      have hmodifiers := modifiers_passes {} hcloses
      split
      · exact .pass rfl (leftOver_passes ht (Passes.skip ht rest))
      · split
        · next hbehind =>
          rw [hbehind] at hmodifiers
          exact .pass rfl (leftOver_passes ht hmodifiers)
        · next m name after hbehind =>
          rw [hbehind] at hmodifiers hbrace
          have hname := hmodifiers.trans (Passes.skip hbrace after)
          split
          · next hident =>
            have hround := hname.trans
              (Bracket.group?_passes round_mem_nesting (hcloses.suffix hname.suffix))
            have hcurly := hround.trans
              (Bracket.group?_passes curly_mem_nesting (hcloses.suffix hround.suffix))
            refine .members rfl rfl ?_ (leftOver_passes ht hcurly)
            refine AddsMembers.trans (.addMember ?_) (.of_eq (foldl_addBody_entries _ _ _))
            obtain ⟨before, htokens, hwhole⟩ := hmodifiers
            exact ⟨before, name, after, htokens, hwhole, hident, rfl, rfl⟩
          · exact .pass rfl (leftOver_passes ht hname)

theorem stepInside_effect {o : Outline} {owner : Nat} {outer : List OpenType} {t : Token}
    {rest : List Token} (hcloses : Closes (t :: rest))
    (hheader : ∀ start stop, headerOf? (⟨owner, false⟩ :: outer) (t :: rest) = some (start, stop) →
      AnglesBalanced start stop)
    (hbraces : KeepsBraces (⟨owner, false⟩ :: outer) (t :: rest))
    : Effect (⟨owner, false⟩ :: outer) o (t :: rest) (stepInside o owner outer t rest).1
        (stepInside o owner outer t rest).2.1
        (leftOver rest (stepInside o owner outer t rest).2.2) := by
  have hmodifiers := modifiers_passes {} hcloses
  unfold stepInside
  split
  · next ht =>
    rw [leftOver_of_suffix (List.suffix_refl rest)]
    exact .close rfl rfl ht
  · next hclosing =>
    have hopening : t.isBrace = true → t.isPunct Bracket.curly.opening = true := by
      intro ht
      rw [Token.isBrace_eq, Bool.or_eq_true] at ht
      exact ht.resolve_right hclosing
    split
    · next ht =>
      rw [leftOver_of_suffix (List.suffix_refl rest)]
      exact .pass rfl (Passes.skip (Token.isBrace_of_isPunct ht) rest)
    · dsimp only
      split
      · next inside after hgroup =>
        have hpasses := hmodifiers.trans
          (Bracket.group?_passes curly_mem_nesting (hcloses.suffix hmodifiers.suffix))
        rw [hgroup] at hpasses
        -- A brace that the step begins with opens the block, which is then taken whole.
        by_cases ht : t.isBrace = true
        · rw [modifiers_brace ht, Bracket.group?, if_pos (hopening ht), Prod.mk.injEq] at hgroup
          have hafter : after <:+ rest := by
            rw [← hgroup.2]
            exact Bracket.inside_suffix Bracket.curly rest
          rw [leftOver_of_suffix hafter]
          exact .pass rfl hpasses
        · exact .pass rfl (leftOver_passes (Bool.eq_false_iff.2 ht) hpasses)
      · next hgroup =>
        have ht : t.isBrace = false := by
          cases ht : t.isBrace with
          | false => rfl
          | true =>
            rw [modifiers_brace ht, Bracket.group?, if_pos (hopening ht)] at hgroup
            cases hgroup
        split
        · next kind after hstart =>
          exact type_effect hcloses hstart (headerOf?_type rfl hstart hheader)
            (modifiers {} (t :: rest)).1
        · next hstart =>
          split
          · exact .pass rfl (leftOver_passes ht hmodifiers)
          · have hangles := hheader _ _ (headerOf?_member hstart)
            obtain ⟨hadds, hpasses⟩ := member_effect (hcloses.suffix hmodifiers.suffix) hstart
              hangles hbraces
            exact .members rfl rfl (hadds.of_passes hmodifiers)
              (leftOver_passes ht (hmodifiers.trans hpasses))

theorem step_effect {o : Outline} {enclosing : List OpenType} {t : Token} {rest : List Token}
    (hcloses : Closes (t :: rest))
    (hheader : ∀ start stop, headerOf? enclosing (t :: rest) = some (start, stop) →
      AnglesBalanced start stop)
    (hbraces : KeepsBraces enclosing (t :: rest))
    : Effect enclosing o (t :: rest) (step o enclosing t rest).1 (step o enclosing t rest).2.1
        (leftOver rest (step o enclosing t rest).2.2) := by
  unfold step
  split
  · exact stepOutside_effect hcloses hheader
  · exact stepConstants_effect hcloses hbraces
  · exact stepInside_effect hcloses hheader hbraces

/-! What a step does that does not keep the braces. -/

theorem stepConstants_skips (o : Outline) (owner : Nat) (outer : List OpenType) {t name : Token}
    {rest after : List Token} (ht : t.isPunct "\x7d" = false)
    (hbehind : (modifiers {} (t :: rest)).2 = name :: after) (hname : name.isBrace = true)
    : stepConstants o owner outer t rest = (o, ⟨owner, true⟩ :: outer, after) := by
  have hmark : ∀ mark, mark ≠ "@" → ["\x7b", "\x7d"].contains mark = false →
      ¬ t.isPunct mark = true := by
    intro mark hsign hbrace hmark
    have hpunct := Token.isPunct_iff.1 hmark
    rw [modifiers_mark hpunct.1 (by rw [hpunct.2]; exact hsign), List.cons.injEq] at hbehind
    rw [← hbehind.1, Token.isBrace_of_isPunct hmark, hbrace] at hname
    cases hname
  unfold stepConstants
  rw [if_neg (hmark ";" (by decide) (by decide)), if_neg (Bool.eq_false_iff.1 ht),
    if_neg (hmark "," (by decide) (by decide))]
  generalize modifiers {} (t :: rest) = behind at hbehind ⊢
  obtain ⟨m, tokens⟩ := behind
  dsimp only at hbehind
  subst hbehind
  dsimp only
  rw [if_neg]
  intro hident
  rw [Token.isBrace_of_isIdent hident] at hname
  cases hname

theorem firstField?_typeStart? {tokens type : List Token} {name : Token}
    (h : firstField? tokens = some (type, name)) : typeStart? tokens = none := by
  unfold firstField? at h
  split at h
  · cases h
  · next hstart => simpa using hstart

theorem firstField?_not_mark {t name : Token} {rest type : List Token}
    (h : firstField? (t :: rest) = some (type, name))
    : t.isPunctOf ["(", "=", ";", ",", "\x7b", "\x7d"] = false := by
  rw [Bool.eq_false_iff]
  intro hmark
  have hangle : ¬ t.isPunct Bracket.angle.opening = true := by
    intro hangle
    unfold Token.isPunctOf at hmark
    rw [(Token.isPunct_iff.1 hangle).2] at hmark
    simp [Bracket.angle] at hmark
  unfold firstField? at h
  split at h
  · cases h
  · rw [Bracket.group?, if_neg hangle, splitMember, if_pos (by rw [hmark]; rfl)] at h
    dsimp only at h
    split at h
    · cases h
    · cases h

theorem firstField?_split {tokens type : List Token} {name : Token}
    (h : firstField? tokens = some (type, name))
    (hangles : AnglesBalanced tokens (splitMember 0 (Bracket.angle.group? tokens).2).2)
    : name.isIdent = true
      ∧ ∃ start stop after, start ++ (type ++ name :: stop) ++ after = tokens
        ∧ Whole start ∧ Whole (type ++ name :: stop) := by
  obtain ⟨start, hstart, hwhole⟩ := angle_passes hangles (splitMember_suffix 0 _)
  have hhead := splitMember_whole (hangles.suffix ⟨start, hstart⟩)
  have happend := splitMember_append 0 (Bracket.angle.group? tokens).2
  unfold firstField? at h
  split at h
  · cases h
  · dsimp only at h
    split at h
    · rw [Option.filter_eq_some_iff] at h
      obtain ⟨hident, stop, hstop⟩ := lastIdent?_some h.1
      rw [← hstop] at hhead happend
      refine ⟨hident, start, stop, (splitMember 0 (Bracket.angle.group? tokens).2).2, ?_, hwhole,
        hhead⟩
      rw [List.append_assoc, happend, hstart]
    · cases h

theorem member_firstField {tokens type : List Token} {name : Token}
    (h : firstField? tokens = some (type, name)) (o : Outline) (owner : Nat) (m : Modifiers)
    : ∃ field : MemberDecl, field.span = name.span
      ∧ Grows (o.addMember owner field) (member o owner m tokens).1 := by
  unfold firstField? at h
  split at h
  · cases h
  · unfold member
    generalize splitMember 0 (Bracket.angle.group? tokens).2 = split at h ⊢
    obtain ⟨head, rest⟩ := split
    dsimp only at h ⊢
    split at h
    · next hstarts =>
      rw [Option.filter_eq_some_iff] at h
      cases rest with
      | nil => cases hstarts
      | cons mark rest =>
        rw [starts, Bool.not_eq_true', Token.isPunctOf_cons, Token.isPunctOf_cons,
          Token.isPunctOf_cons, Bool.or_eq_false_iff, Bool.or_eq_false_iff,
          Bool.or_eq_false_iff] at hstarts
        obtain ⟨hround, hopening, hclosing, -⟩ := hstarts
        dsimp only
        rw [if_neg (Bool.eq_false_iff.1 hclosing), if_neg (Bool.eq_false_iff.1 hround),
          if_neg (Bool.eq_false_iff.1 hopening)]
        unfold fields
        rw [h.1]
        cases type with
        | nil => cases h.2
        | cons first type =>
          refine ⟨_, ?_, declarators_grows _ _ _ _⟩
          rfl
    · cases h

theorem stepInside_firstField {t name : Token} {rest type : List Token}
    (h : firstField? (modifiers {} (t :: rest)).2 = some (type, name)) (o : Outline) (owner : Nat)
    (outer : List OpenType)
    : (stepInside o owner outer t rest).1
        =
      (member o owner (modifiers {} (t :: rest)).1 (modifiers {} (t :: rest)).2).1 := by
  have hstart := firstField?_typeStart? h
  -- A mark would be the first token behind the modifiers, and no field begins with one.
  have hmark : ∀ mark, mark ≠ "@" → mark ∈ ["(", "=", ";", ",", "\x7b", "\x7d"] →
      ¬ t.isPunct mark = true := by
    intro mark hsign hmem hmark
    have hpunct := Token.isPunct_iff.1 hmark
    rw [modifiers_mark hpunct.1 (by rw [hpunct.2]; exact hsign)] at h
    have hnot := firstField?_not_mark h
    unfold Token.isPunctOf at hnot
    rw [hpunct.1, hpunct.2, List.contains_iff_mem.2 hmem] at hnot
    cases hnot
  unfold stepInside
  rw [if_neg (hmark "\x7d" (by decide) (by decide)), if_neg (hmark ";" (by decide) (by decide))]
  dsimp only
  cases hbehind : (modifiers {} (t :: rest)).2 with
  | nil =>
    rw [hbehind] at h
    cases h
  | cons first behind =>
    rw [hbehind] at h hstart
    have hnot := firstField?_not_mark h
    rw [Token.isPunctOf_cons, Token.isPunctOf_cons, Token.isPunctOf_cons, Token.isPunctOf_cons,
      Token.isPunctOf_cons, Token.isPunctOf_cons] at hnot
    simp only [Bool.or_eq_false_iff] at hnot
    obtain ⟨-, -, -, -, hopening, hclosing, -⟩ := hnot
    have hgroup : Bracket.curly.group? (first :: behind) = (none, first :: behind) := by
      rw [Bracket.group?]
      exact if_neg (Bool.eq_false_iff.1 hopening)
    rw [hgroup]
    dsimp only
    rw [hstart]
    dsimp only
    rw [starts, if_neg (Bool.eq_false_iff.1 hclosing)]

end Reader

end DeprecatedUse.Java
