import DeprecatedUse.Java.Outline

/-!
This module contains the course of the reading of declarations: the states that the reader goes
through, and that it only goes forward. Every body that is found lies in the text as it was read,
and no declaration that has been read is lost.
-/

namespace DeprecatedUse.Java

namespace Reader

/--
The states that the reader of a text goes through: what it has read, the types that are open, and
the tokens that are left.
-/
inductive Reached (tokens : List Token) : Outline → List OpenType → List Token → Prop where
  | start : Reached tokens {} [] tokens
  | step {o : Outline} {enclosing : List OpenType} {t : Token} {rest : List Token}
      (h : Reached tokens o enclosing (t :: rest)) :
      Reached tokens (step o enclosing t rest).1 (step o enclosing t rest).2.1
        (leftOver rest (step o enclosing t rest).2.2)

theorem reached_outlineFrom {tokens rest : List Token} {o : Outline} {enclosing : List OpenType}
    (h : Reached tokens o enclosing rest)
    : ∃ enclosing', Reached tokens (outlineFrom o enclosing rest) enclosing' [] := by
  fun_induction outlineFrom o enclosing rest with
  | case1 => exact ⟨_, h⟩
  | case2 _ _ _ _ _ ih => exact ih h.step

theorem reached_outline (tokens : List Token)
    : ∃ enclosing, Reached tokens (outline tokens) enclosing [] := by
  apply reached_outlineFrom
  exact Reached.start

def everywhere (p : List OpenType → List Token → Bool) (o : Outline) (enclosing : List OpenType) :
    List Token → Bool
  | [] => p enclosing []
  | t :: rest =>
    let next := step o enclosing t rest
    p enclosing (t :: rest) && everywhere p next.1 next.2.1 (leftOver rest next.2.2)
termination_by tokens => tokens.length
decreasing_by exact Nat.lt_succ_of_le (length_leftOver_le _ _)

theorem everywhere_iff {p : List OpenType → List Token → Bool} {tokens : List Token}
    : everywhere p {} [] tokens = true
        ↔
      ∀ {o : Outline} {enclosing : List OpenType} {rest : List Token},
        Reached tokens o enclosing rest → p enclosing rest = true := by
  constructor
  · intro h o enclosing rest hreached
    -- What holds from the first state on holds from every state on that is reached.
    have hfrom : everywhere p o enclosing rest = true := by
      induction hreached with
      | start => exact h
      | step _ ih =>
        rw [everywhere, Bool.and_eq_true] at ih
        exact ih.2
    cases rest with
    | nil =>
      rw [everywhere] at hfrom
      exact hfrom
    | cons t rest =>
      rw [everywhere, Bool.and_eq_true] at hfrom
      exact hfrom.1
  · intro h
    have hfrom : ∀ o enclosing rest, Reached tokens o enclosing rest →
        everywhere p o enclosing rest = true := by
      intro o enclosing rest hreached
      fun_induction everywhere p o enclosing rest with
      | case1 => exact h hreached
      | case2 o enclosing t rest _ ih =>
        rw [Bool.and_eq_true]
        exact ⟨h hreached, ih hreached.step⟩
    exact hfrom {} [] tokens Reached.start

section Suffix

theorem header_suffix (names : List String) (tokens : List Token)
    : (header names tokens).2 <:+ tokens := by
  fun_induction header names tokens with
  | case1 => exact List.suffix_refl _
  | case2 => exact List.suffix_refl _
  | case3 _ t rest _ _ _ ih =>
    exact (ih.trans (supertypeNames_suffix _ _)).trans (List.suffix_cons t rest)
  | case4 _ t rest _ _ ih => exact ih.trans (List.suffix_cons t rest)

theorem typeStart?_suffix {tokens rest : List Token} {kind : TypeDecl.Kind}
    (h : typeStart? tokens = some (kind, rest)) : rest <:+ tokens := by
  unfold typeStart? at h
  split at h
  · next t next rest' =>
    split at h
    · split at h
      · simp only [Option.some.injEq, Prod.mk.injEq] at h
        rw [← h.2]
        exact List.suffix_cons _ _
      · cases h
    · split at h
      · simp only [Option.some.injEq, Prod.mk.injEq] at h
        rw [← h.2]
        exact (List.suffix_cons _ _).trans (List.suffix_cons _ _)
      · cases h
  · cases h

theorem typeHeader_suffix (kind : TypeDecl.Kind) (tokens : List Token)
    : (typeHeader kind tokens).rest <:+ tokens := by
  have hangle := Bracket.group?_suffix Bracket.angle tokens
  unfold typeHeader
  dsimp only
  refine (header_suffix _ _).trans ?_
  split
  · exact (Bracket.group?_suffix _ _).trans hangle
  · exact hangle

theorem type_suffix_of_isIdent (o : Outline) (outer : Option Nat) (m : Modifiers)
    (kind : TypeDecl.Kind) {name : Token} (hname : name.isIdent = true) (rest : List Token)
    : (type o outer m kind (name :: rest)).2.2 <:+ rest := by
  have hheader := typeHeader_suffix kind rest
  unfold type
  dsimp only
  rw [if_pos hname]
  split
  · exact List.nil_suffix
  · next t after hrest =>
    rw [hrest] at hheader
    split
    · exact (List.suffix_cons _ _).trans hheader
    · exact hheader

theorem type_suffix (o : Outline) (outer : Option Nat) (m : Modifiers) (kind : TypeDecl.Kind)
    (tokens : List Token) : (type o outer m kind tokens).2.2 <:+ tokens := by
  cases tokens with
  | nil => exact List.suffix_refl _
  | cons name rest =>
    by_cases hname : name.isIdent = true
    · exact (type_suffix_of_isIdent o outer m kind hname rest).trans (List.suffix_cons name rest)
    · unfold type
      dsimp only
      split
      · contradiction
      · exact List.suffix_refl _

theorem methodBody_suffix (tokens : List Token) : (methodBody tokens).2 <:+ tokens := by
  fun_induction methodBody tokens with
  | case1 => exact List.suffix_refl _
  | case2 t rest _ => exact (Bracket.inside_suffix _ rest).trans (List.suffix_cons _ _)
  | case3 t rest => exact List.suffix_cons _ _
  | case4 => exact List.suffix_refl _
  | case5 t rest _ _ _ ih => exact ih.trans (List.suffix_cons _ _)

theorem declarators_suffix (owner : Nat) (field : Token → MemberDecl) (o : Outline)
    (tokens : List Token) : (declarators owner field o tokens).2 <:+ tokens := by
  fun_induction declarators owner field o tokens with
  | case1 => exact List.suffix_refl _
  | case2 _ t rest _ _ _ ih =>
    exact (ih.trans (splitExpression_suffix 0 rest)).trans (List.suffix_cons _ _)
  | case3 _ t => exact List.nil_suffix
  | case4 _ t _ _ name more _ ih =>
    exact ((ih.trans (List.dropWhile_suffix _)).trans (List.suffix_cons _ _)).trans
      (List.suffix_cons _ _)
  | case5 _ t _ _ name more _ ih =>
    exact (ih.trans (List.dropWhile_suffix _)).trans (List.suffix_cons _ _)
  | case6 => exact List.suffix_cons _ _
  | case7 => exact List.suffix_refl _

theorem fields_suffix (o : Outline) (owner : Nat) (m : Modifiers) (head : List Token)
    (mark : Token) (rest : List Token) : (fields o owner m head mark rest).2 <:+ mark :: rest := by
  unfold fields
  split
  · exact List.suffix_cons _ _
  · exact List.suffix_cons _ _
  · exact declarators_suffix _ _ _ _

theorem splitMember_append (angle : Nat) (tokens : List Token)
    : (splitMember angle tokens).1 ++ (splitMember angle tokens).2 = tokens := by
  fun_induction splitMember angle tokens with
  | case1 => rfl
  | case2 => rfl
  | case3 angle t rest _ _ head after hsplit ih =>
    rw [hsplit] at ih
    simp only [List.cons_append, ih]

theorem splitMember_suffix (angle : Nat) (tokens : List Token)
    : (splitMember angle tokens).2 <:+ tokens :=
  ⟨_, splitMember_append angle tokens⟩

theorem lastIdent?_some {head type : List Token} {name : Token}
    (h : lastIdent? head = some (type, name))
    : name.isIdent = true ∧ ∃ rest, type ++ name :: rest = head := by
  unfold lastIdent? at h
  split at h
  · cases h
  · next name' before hdrop =>
    rw [Option.some.injEq, Prod.mk.injEq] at h
    obtain ⟨rfl, rfl⟩ := h
    have hident := List.head?_dropWhile_not (!·.isIdent) head.reverse
    rw [hdrop] at hident
    refine ⟨by simpa using hident, (head.reverse.takeWhile (!·.isIdent)).reverse, ?_⟩
    have hreverse : head.reverse.takeWhile (!·.isIdent) ++ name' :: before = head.reverse := by
      rw [← hdrop]
      exact List.takeWhile_append_dropWhile
    rw [← List.reverse_inj, List.reverse_append, List.reverse_cons, List.reverse_reverse,
      List.reverse_reverse, List.append_assoc]
    exact hreverse

theorem method_suffix (o : Outline) (owner : Nat) (m : Modifiers) (head rest : List Token)
    : (method o owner m head rest).2 <:+ rest := by
  have hbody := (methodBody_suffix (Bracket.round.inside rest).2).trans
    (Bracket.inside_suffix Bracket.round rest)
  unfold method
  dsimp only
  split
  · exact hbody
  · split
    · exact hbody
    · exact hbody

theorem member_suffix (o : Outline) (owner : Nat) (m : Modifiers) (tokens : List Token)
    : (member o owner m tokens).2 <:+ tokens := by
  have hsplit := (splitMember_suffix 0 (Bracket.angle.group? tokens).2).trans
    (Bracket.group?_suffix Bracket.angle tokens)
  unfold member
  split
  next head rest hrest =>
  rw [hrest] at hsplit
  split
  · exact List.nil_suffix
  · next mark rest =>
    have hrest := (List.suffix_cons mark rest).trans hsplit
    split
    · exact hsplit
    · split
      · exact (method_suffix _ _ _ _ _).trans hrest
      · split
        · exact (Bracket.inside_suffix Bracket.curly rest).trans hrest
        · exact (fields_suffix _ _ _ _ _ _).trans hsplit

theorem stepOutside_suffix (o : Outline) (t : Token) (rest : List Token)
    : (stepOutside o t rest).2.2 <:+ t :: rest := by
  unfold stepOutside
  split
  · exact (dottedName_suffix _ _).trans (List.suffix_cons _ _)
  · split
    · dsimp only
      refine ((dottedName_suffix _ _).trans ?_).trans (List.suffix_cons _ _)
      split
      · exact List.tail_suffix rest
      · exact List.suffix_refl _
    · have hmodifiers := modifiers_suffix {} (t :: rest)
      dsimp only
      split
      · next kind rest' hstart =>
        exact ((type_suffix _ _ _ _ _).trans (typeStart?_suffix hstart)).trans hmodifiers
      · exact hmodifiers

theorem stepConstants_suffix (o : Outline) (owner : Nat) (outer : List OpenType) (t : Token)
    (rest : List Token) : (stepConstants o owner outer t rest).2.2 <:+ t :: rest := by
  have hmodifiers := modifiers_suffix {} (t :: rest)
  unfold stepConstants
  split
  · exact List.suffix_cons _ _
  · split
    · exact List.suffix_cons _ _
    · split
      · exact List.suffix_cons _ _
      · split
        · exact List.nil_suffix
        · next m name after hafter =>
          rw [hafter] at hmodifiers
          have hname := (List.suffix_cons name after).trans hmodifiers
          split
          · exact ((Bracket.group?_suffix _ _).trans (Bracket.group?_suffix _ _)).trans hname
          · exact hname

theorem stepInside_suffix (o : Outline) (owner : Nat) (outer : List OpenType) (t : Token)
    (rest : List Token) : (stepInside o owner outer t rest).2.2 <:+ t :: rest := by
  have hmodifiers := modifiers_suffix {} (t :: rest)
  unfold stepInside
  split
  · exact List.suffix_cons _ _
  · split
    · exact List.suffix_cons _ _
    · dsimp only
      have hgroup := Bracket.group?_suffix Bracket.curly (modifiers {} (t :: rest)).2
      split
      · next inside after hafter =>
        rw [hafter] at hgroup
        exact hgroup.trans hmodifiers
      · split
        · next kind rest' hstart =>
          exact ((type_suffix _ _ _ _ _).trans (typeStart?_suffix hstart)).trans hmodifiers
        · split
          · exact hmodifiers
          · exact (member_suffix _ _ _ _).trans hmodifiers

theorem step_suffix (o : Outline) (enclosing : List OpenType) (t : Token) (rest : List Token)
    : (step o enclosing t rest).2.2 <:+ t :: rest := by
  unfold step
  split
  · exact stepOutside_suffix o t rest
  · exact stepConstants_suffix o _ _ t rest
  · exact stepInside_suffix o _ _ t rest

theorem leftOver_suffix {t : Token} {rest after : List Token} (h : after <:+ t :: rest)
    : leftOver rest after <:+ rest := by
  unfold leftOver
  split
  · next hle =>
    rw [List.suffix_cons_iff] at h
    rcases h with rfl | h
    · rw [List.length_cons] at hle
      omega
    · exact h
  · exact List.suffix_refl _

theorem leftOver_of_suffix {rest after : List Token} (h : after <:+ rest)
    : leftOver rest after = after := by
  unfold leftOver
  rw [if_pos h.length_le]

theorem Reached.suffix {tokens rest : List Token} {o : Outline} {enclosing : List OpenType}
    (h : Reached tokens o enclosing rest) : rest <:+ tokens := by
  induction h with
  | start => exact List.suffix_refl _
  | step _ ih =>
    exact ((leftOver_suffix (step_suffix _ _ _ _)).trans (List.suffix_cons _ _)).trans ih

end Suffix

section Bodies

def AddsBodies (tokens : List Token) (o o' : Outline) : Prop :=
  ∀ body, body ∈ o'.bodies → body ∈ o.bodies ∨ body.tokens <:+: tokens

namespace AddsBodies

variable {tokens tokens' : List Token} {o o' o'' : Outline}

theorem of_eq (h : o'.bodies = o.bodies) : AddsBodies tokens o o' := by
  intro body hbody
  rw [h] at hbody
  exact .inl hbody

theorem trans (h : AddsBodies tokens o o') (h' : AddsBodies tokens o' o'')
    : AddsBodies tokens o o'' := by
  intro body hbody
  rcases h' body hbody with hbody | hbody
  · exact h body hbody
  · exact .inr hbody

theorem mono (h : AddsBodies tokens o o') (hle : tokens <:+: tokens')
    : AddsBodies tokens' o o' := by
  intro body hbody
  rcases h body hbody with hbody | hbody
  · exact .inl hbody
  · exact .inr (hbody.trans hle)

theorem addBody {body : Body} (h : body.tokens <:+: tokens)
    : AddsBodies tokens o (o.addBody body) := by
  intro b hb
  simp only [Outline.addBody, List.mem_append, List.mem_singleton] at hb
  rcases hb with hb | rfl
  · exact .inl hb
  · exact .inr h

theorem addMember (owner : Nat) (m : MemberDecl) : AddsBodies tokens o (o.addMember owner m) :=
  of_eq rfl

end AddsBodies

theorem methodBody_isInfix {tokens inside : List Token}
    (h : (methodBody tokens).1 = some inside) : inside <:+: tokens := by
  fun_induction methodBody tokens with
  | case1 => cases h
  | case2 t rest _ =>
    rw [Option.some.injEq] at h
    rw [← h]
    exact (Bracket.inside_isPrefix _ rest).isInfix.trans (List.suffix_cons t rest).isInfix
  | case3 => cases h
  | case4 => cases h
  | case5 t rest _ _ _ ih => exact (ih h).trans (List.suffix_cons t rest).isInfix

theorem type_bodies (o : Outline) (outer : Option Nat) (m : Modifiers) (kind : TypeDecl.Kind)
    (tokens : List Token) : (type o outer m kind tokens).1.bodies = o.bodies := by
  unfold type
  split
  · rfl
  · split
    · dsimp only
      split
      · rfl
      · split
        · rfl
        · rfl
    · rfl

theorem declarators_addsBodies (owner : Nat) (field : Token → MemberDecl) (o : Outline)
    (tokens : List Token) : AddsBodies tokens o (declarators owner field o tokens).1 := by
  fun_induction declarators owner field o tokens with
  | case1 => exact .of_eq rfl
  | case2 o t rest _ initializer _ ih =>
    have htaken : (splitExpression 0 rest).1 <+: rest := ⟨_, splitExpression_append 0 rest⟩
    have hcons := (List.suffix_cons t rest).isInfix
    refine AddsBodies.trans ?_ (ih.mono ((splitExpression_suffix 0 rest).isInfix.trans hcons))
    exact .addBody (htaken.isInfix.trans hcons)
  | case3 => exact .of_eq rfl
  | case4 o t _ _ name more _ ih =>
    have hmore := (List.suffix_cons name more).trans (List.suffix_cons t (name :: more))
    refine AddsBodies.trans ?_ (ih.mono ((List.dropWhile_suffix _).trans hmore).isInfix)
    exact .addMember owner _
  | case5 o t _ _ name more _ ih =>
    apply ih.mono
    exact ((List.dropWhile_suffix _).trans (List.suffix_cons _ _)).isInfix
  | case6 => exact .of_eq rfl
  | case7 => exact .of_eq rfl

theorem fields_addsBodies (o : Outline) (owner : Nat) (m : Modifiers) (head : List Token)
    (mark : Token) (rest : List Token)
    : AddsBodies (mark :: rest) o (fields o owner m head mark rest).1 := by
  unfold fields
  split
  · exact .of_eq rfl
  · exact .of_eq rfl
  · refine AddsBodies.trans ?_ (declarators_addsBodies _ _ _ _)
    exact .addMember owner _

theorem method_addsBodies (o : Outline) (owner : Nat) (m : Modifiers) (head rest : List Token)
    : AddsBodies rest o (method o owner m head rest).1 := by
  have hbody : ∀ body, (methodBody (Bracket.round.inside rest).2).1 = some body → body <:+: rest :=
    fun body h => (methodBody_isInfix h).trans (Bracket.inside_suffix _ rest).isInfix
  unfold method
  dsimp only
  cases hmethod : (methodBody (Bracket.round.inside rest).2).1 with
  | none =>
    dsimp only
    split
    · exact .of_eq rfl
    · split
      · exact .addMember owner _
      · exact .of_eq rfl
  | some body =>
    have hadds : AddsBodies rest o (o.addBody
        { owner := owner, parameters := Parameter.readAll (Bracket.round.inside rest).1,
          tokens := body }) := .addBody (hbody body hmethod)
    dsimp only
    split
    · exact hadds
    · split
      · exact hadds.trans (.addMember owner _)
      · exact hadds

theorem member_addsBodies (o : Outline) (owner : Nat) (m : Modifiers) (tokens : List Token)
    : AddsBodies tokens o (member o owner m tokens).1 := by
  have hsplit := (splitMember_suffix 0 (Bracket.angle.group? tokens).2).trans
    (Bracket.group?_suffix Bracket.angle tokens)
  unfold member
  split
  next head rest hrest =>
  rw [hrest] at hsplit
  split
  · exact .of_eq rfl
  · next mark rest =>
    have hrest := (List.suffix_cons mark rest).trans hsplit
    split
    · exact .of_eq rfl
    · split
      · exact (method_addsBodies _ _ _ _ _).mono hrest.isInfix
      · split
        · apply AddsBodies.addBody
          exact (Bracket.inside_isPrefix _ rest).isInfix.trans hrest.isInfix
        · exact (fields_addsBodies _ _ _ _ _ _).mono hsplit.isInfix

theorem foldl_addBody_addsBodies {tokens : List Token} (owner : Nat) (o : Outline)
    (insides : List (List Token)) (h : ∀ inside, inside ∈ insides → inside <:+: tokens)
    : AddsBodies tokens o
        (insides.foldl (fun o inside => o.addBody { owner := owner, tokens := inside }) o) := by
  induction insides generalizing o with
  | nil => exact .of_eq rfl
  | cons inside rest ih =>
    refine AddsBodies.trans ?_ (ih _ fun i hi => h i (List.mem_cons_of_mem _ hi))
    exact .addBody (h inside List.mem_cons_self)

theorem stepConstants_addsBodies (o : Outline) (owner : Nat) (outer : List OpenType) (t : Token)
    (rest : List Token) : AddsBodies (t :: rest) o (stepConstants o owner outer t rest).1 := by
  have hmodifiers := modifiers_suffix {} (t :: rest)
  unfold stepConstants
  split
  · exact .of_eq rfl
  · split
    · exact .of_eq rfl
    · split
      · exact .of_eq rfl
      · split
        · exact .of_eq rfl
        · next m name after hafter =>
          rw [hafter] at hmodifiers
          have hname := ((List.suffix_cons name after).trans hmodifiers).isInfix
          have hround := (Bracket.group?_suffix Bracket.round after).isInfix
          split
          · refine AddsBodies.trans ?_ (foldl_addBody_addsBodies owner _ _ ?_)
            · exact .addMember owner _
            · intro inside hinside
              rw [List.mem_append, Option.mem_toList, Option.mem_toList] at hinside
              rcases hinside with hinside | hinside
              · exact (Bracket.group?_isInfix hinside).trans hname
              · exact (Bracket.group?_isInfix hinside).trans (hround.trans hname)
          · exact .of_eq rfl

theorem stepInside_addsBodies (o : Outline) (owner : Nat) (outer : List OpenType) (t : Token)
    (rest : List Token) : AddsBodies (t :: rest) o (stepInside o owner outer t rest).1 := by
  have hmodifiers := (modifiers_suffix {} (t :: rest)).isInfix
  unfold stepInside
  split
  · exact .of_eq rfl
  · split
    · exact .of_eq rfl
    · dsimp only
      split
      · next inside after hafter =>
        have hinside := Bracket.group?_isInfix (congrArg Prod.fst hafter)
        exact .addBody (hinside.trans hmodifiers)
      · split
        · exact .of_eq (type_bodies _ _ _ _ _)
        · split
          · exact .of_eq rfl
          · exact (member_addsBodies _ _ _ _).mono hmodifiers

theorem stepOutside_addsBodies (o : Outline) (t : Token) (rest : List Token)
    : AddsBodies (t :: rest) o (stepOutside o t rest).1 := by
  unfold stepOutside
  split
  · exact .of_eq rfl
  · split
    · exact .of_eq rfl
    · dsimp only
      split
      · exact .of_eq (type_bodies _ _ _ _ _)
      · exact .of_eq rfl

theorem step_addsBodies (o : Outline) (enclosing : List OpenType) (t : Token) (rest : List Token)
    : AddsBodies (t :: rest) o (step o enclosing t rest).1 := by
  unfold step
  split
  · exact stepOutside_addsBodies o t rest
  · exact stepConstants_addsBodies o _ _ t rest
  · exact stepInside_addsBodies o _ _ t rest

theorem Reached.bodies {tokens rest : List Token} {o : Outline} {enclosing : List OpenType}
    (h : Reached tokens o enclosing rest) {body : Body} (hbody : body ∈ o.bodies)
    : body.tokens <:+: tokens := by
  induction h with
  | start => cases hbody
  | step h ih =>
    rcases step_addsBodies _ _ _ _ body hbody with hbody | hbody
    · exact ih hbody
    · exact hbody.trans h.suffix.isInfix

end Bodies

section Members

variable {P : Outline → Prop} (hbody : ∀ o body, P o → P (o.addBody body))
  (hmember : ∀ o owner m, P o → P (o.addMember owner m))

include hbody hmember

theorem declarators_keep (owner : Nat) (field : Token → MemberDecl) {o : Outline} (h : P o)
    (tokens : List Token) : P (declarators owner field o tokens).1 := by
  fun_induction declarators owner field o tokens with
  | case1 => exact h
  | case2 _ _ _ _ _ _ ih => exact ih (hbody _ _ h)
  | case3 => exact h
  | case4 _ _ _ _ _ _ _ ih => exact ih (hmember _ _ _ h)
  | case5 _ _ _ _ _ _ _ ih => exact ih h
  | case6 => exact h
  | case7 => exact h

theorem fields_keep {o : Outline} (h : P o) (owner : Nat) (m : Modifiers) (head : List Token)
    (mark : Token) (rest : List Token) : P (fields o owner m head mark rest).1 := by
  unfold fields
  split
  · exact h
  · exact h
  · exact declarators_keep hbody hmember owner _ (hmember _ _ _ h) _

theorem method_keep {o : Outline} (h : P o) (owner : Nat) (m : Modifiers) (head rest : List Token)
    : P (method o owner m head rest).1 := by
  unfold method
  dsimp only
  cases (methodBody (Bracket.round.inside rest).2).1 with
  | none =>
    dsimp only
    split
    · exact h
    · split
      · exact hmember _ _ _ h
      · exact h
  | some tokens =>
    dsimp only
    split
    · exact hbody _ _ h
    · split
      · exact hmember _ _ _ (hbody _ _ h)
      · exact hbody _ _ h

theorem member_keep {o : Outline} (h : P o) (owner : Nat) (m : Modifiers) (tokens : List Token)
    : P (member o owner m tokens).1 := by
  unfold member
  split
  split
  · exact h
  · split
    · exact h
    · split
      · exact method_keep hbody hmember h owner m _ _
      · split
        · exact hbody _ _ h
        · exact fields_keep hbody hmember h owner m _ _ _

omit hmember in
theorem foldl_addBody_keep {o : Outline} (h : P o) (owner : Nat) (insides : List (List Token))
    : P (insides.foldl (fun o inside => o.addBody { owner := owner, tokens := inside }) o) := by
  induction insides generalizing o with
  | nil => exact h
  | cons inside rest ih => exact ih (hbody _ _ h)

end Members

section Growth

def Grows (o o' : Outline) : Prop :=
  ∀ (place : Nat) (e : Outline.Entry), o.entries[place]? = some e →
    ∃ e', o'.entries[place]? = some e' ∧ e'.decl.kind = e.decl.kind ∧ e'.decl.span = e.decl.span
      ∧ e.decl.members ⊆ e'.decl.members

namespace Grows

variable {o o' o'' : Outline}

theorem of_eq (h : o'.entries = o.entries) : Grows o o' := by
  intro place e he
  rw [← h] at he
  exact ⟨e, he, rfl, rfl, List.Subset.refl _⟩

theorem trans (h : Grows o o') (h' : Grows o' o'') : Grows o o'' := by
  intro place e he
  obtain ⟨e', he', hkind, hspan, hmembers⟩ := h place e he
  obtain ⟨e'', he'', hkind', hspan', hmembers'⟩ := h' place e' he'
  exact ⟨e'', he'', hkind'.trans hkind, hspan'.trans hspan, List.Subset.trans hmembers hmembers'⟩

theorem addMember (owner : Nat) (m : MemberDecl) : Grows o (o.addMember owner m) := by
  intro place e he
  unfold Outline.addMember
  dsimp only
  rw [List.getElem?_modify, he]
  refine ⟨_, rfl, ?_⟩
  split
  · exact ⟨rfl, rfl, List.subset_append_left _ _⟩
  · exact ⟨rfl, rfl, List.Subset.refl _⟩

theorem concat {e : Outline.Entry} (h : o'.entries = o.entries ++ [e]) : Grows o o' := by
  intro place e he
  refine ⟨e, ?_, rfl, rfl, List.Subset.refl _⟩
  rw [h, List.getElem?_append_left (List.getElem?_eq_some_iff.1 he).1]
  exact he

end Grows

theorem type_grows (o : Outline) (outer : Option Nat) (m : Modifiers) (kind : TypeDecl.Kind)
    (tokens : List Token) : Grows o (type o outer m kind tokens).1 := by
  unfold type
  split
  · exact .of_eq rfl
  · split
    · dsimp only
      split
      · exact .concat rfl
      · split
        · exact .concat rfl
        · exact .concat rfl
    · exact .of_eq rfl

theorem declarators_grows (owner : Nat) (field : Token → MemberDecl) (o : Outline)
    (tokens : List Token) : Grows o (declarators owner field o tokens).1 :=
  declarators_keep (fun _ _ h => h.trans (.of_eq rfl))
    (fun _ owner m h => h.trans (.addMember owner m)) owner field (.of_eq rfl) tokens

theorem member_grows (o : Outline) (owner : Nat) (m : Modifiers) (tokens : List Token)
    : Grows o (member o owner m tokens).1 :=
  member_keep (fun _ _ h => h.trans (.of_eq rfl))
    (fun _ owner m h => h.trans (.addMember owner m)) (.of_eq rfl) owner m tokens

theorem foldl_addBody_entries (owner : Nat) (insides : List (List Token)) (o : Outline)
    : (insides.foldl (fun o inside => o.addBody { owner := owner, tokens := inside }) o).entries
        =
      o.entries :=
  foldl_addBody_keep (P := fun o' => o'.entries = o.entries) (fun _ _ h => h) rfl owner insides

theorem stepOutside_grows (o : Outline) (t : Token) (rest : List Token)
    : Grows o (stepOutside o t rest).1 := by
  unfold stepOutside
  split
  · exact .of_eq rfl
  · split
    · exact .of_eq rfl
    · dsimp only
      split
      · exact type_grows _ _ _ _ _
      · exact .of_eq rfl

theorem stepConstants_grows (o : Outline) (owner : Nat) (outer : List OpenType) (t : Token)
    (rest : List Token) : Grows o (stepConstants o owner outer t rest).1 := by
  unfold stepConstants
  split
  · exact .of_eq rfl
  · split
    · exact .of_eq rfl
    · split
      · exact .of_eq rfl
      · split
        · exact .of_eq rfl
        · split
          · exact Grows.trans (.addMember owner _) (.of_eq (foldl_addBody_entries _ _ _))
          · exact .of_eq rfl

theorem stepInside_grows (o : Outline) (owner : Nat) (outer : List OpenType) (t : Token)
    (rest : List Token) : Grows o (stepInside o owner outer t rest).1 := by
  unfold stepInside
  split
  · exact .of_eq rfl
  · split
    · exact .of_eq rfl
    · dsimp only
      split
      · exact .of_eq rfl
      · split
        · exact type_grows _ _ _ _ _
        · split
          · exact .of_eq rfl
          · exact member_grows _ _ _ _

theorem step_grows (o : Outline) (enclosing : List OpenType) (t : Token) (rest : List Token)
    : Grows o (step o enclosing t rest).1 := by
  unfold step
  split
  · exact stepOutside_grows o t rest
  · exact stepConstants_grows o _ _ t rest
  · exact stepInside_grows o _ _ t rest

theorem outlineFrom_grows (o : Outline) (enclosing : List OpenType) (tokens : List Token)
    : Grows o (outlineFrom o enclosing tokens) := by
  fun_induction outlineFrom o enclosing tokens with
  | case1 => exact .of_eq rfl
  | case2 _ _ _ _ _ ih => exact (step_grows _ _ _ _).trans ih

theorem Reached.outlineFrom_eq {tokens rest : List Token} {o : Outline} {enclosing : List OpenType}
    (h : Reached tokens o enclosing rest) : outlineFrom o enclosing rest = outline tokens := by
  induction h with
  | start => rfl
  | step h ih =>
    rw [outlineFrom] at ih
    exact ih

theorem Reached.grows {tokens rest : List Token} {o : Outline} {enclosing : List OpenType}
    (h : Reached tokens o enclosing rest) : Grows o (outline tokens) := by
  rw [← h.outlineFrom_eq]
  exact outlineFrom_grows _ _ _

end Growth

end Reader

theorem outline_bodies {tokens : List Token} {body : Body}
    (hbody : body ∈ (outline tokens).bodies) : body.tokens <:+: tokens := by
  obtain ⟨enclosing, h⟩ := Reader.reached_outline tokens
  exact h.bodies hbody

end DeprecatedUse.Java
