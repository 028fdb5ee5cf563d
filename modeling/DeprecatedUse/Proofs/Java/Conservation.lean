import DeprecatedUse.Proofs.Java.Cursor.Types

/-!
This module contains what becomes of the tokens that the reader of declarations goes over. Every
token gets into one body at most, and the bodies have their tokens in the order of the text.
-/

namespace DeprecatedUse.Java

def Outline.bodyTokens (o : Outline) : List Token :=
  o.bodies.flatMap Body.tokens

namespace Reader

variable {o : Outline}

def Conserves (o : Outline) (tokens : List Token) (o' : Outline) (rest : List Token) : Prop :=
  (o'.bodyTokens ++ rest).Sublist (o.bodyTokens ++ tokens)

theorem Conserves.of_suffix {o' : Outline} {tokens rest : List Token}
    (hbodies : o'.bodies = o.bodies) (h : rest <:+ tokens) : Conserves o tokens o' rest := by
  rw [Conserves, Outline.bodyTokens, hbodies]
  exact h.sublist.append_left _

theorem Conserves.trans {o' o'' : Outline} {tokens rest rest' : List Token}
    (h : Conserves o tokens o' rest) (h' : Conserves o' rest o'' rest')
    : Conserves o tokens o'' rest' :=
  List.Sublist.trans h' h

theorem Conserves.addBody {tokens rest : List Token} (body : Body)
    (h : (body.tokens ++ rest).Sublist tokens) : Conserves o tokens (o.addBody body) rest := by
  rw [Conserves, Outline.bodyTokens, Outline.addBody, List.flatMap_append, List.append_assoc,
    List.flatMap_singleton]
  exact h.append_left _

def memberFrom (o : Outline) (owner : Nat) (m : Modifiers) (head : List Token) (mark : Token)
    (rest : List Token) : Outline × List Token :=
  if mark.isPunct "\x7d" then
    (o, mark :: rest)
  else if mark.isPunct "(" then
    method o owner m head rest
  else if mark.isPunct "\x7b" then
    (o.addBody { owner := owner, tokens := (Bracket.curly.inside rest).1 },
      (Bracket.curly.inside rest).2)
  else
    fields o owner m head mark rest

theorem member_eq (o : Outline) (owner : Nat) (m : Modifiers) (tokens : List Token)
    : member o owner m tokens
        =
      match splitMember 0 (Bracket.angle.group? tokens).2 with
      | (_, []) => (o, [])
      | (head, mark :: rest) => memberFrom o owner m head mark rest := by
  unfold member memberFrom
  dsimp only
  split
  · next hrest =>
    rw [← Prod.eta (splitMember 0 (Bracket.angle.group? tokens).2), hrest]
  · next mark rest hrest =>
    rw [← Prod.eta (splitMember 0 (Bracket.angle.group? tokens).2), hrest]

theorem declarators_conserves (owner : Nat) (field : Token → MemberDecl) (tokens : List Token)
    : Conserves o tokens (declarators owner field o tokens).1 (declarators owner field o tokens).2
    := by
  fun_induction declarators owner field o tokens with
  | case1 => exact .of_suffix rfl (List.suffix_refl _)
  | case2 o t rest _ _ _ ih =>
    refine Conserves.trans (.addBody _ ?_) ih
    rw [splitExpression_append]
    exact List.sublist_cons_self t rest
  | case3 => exact .of_suffix rfl List.nil_suffix
  | case4 o t _ _ name more _ ih =>
    refine Conserves.trans (.of_suffix rfl ?_) ih
    exact ((List.dropWhile_suffix _).trans (List.suffix_cons _ _)).trans (List.suffix_cons _ _)
  | case5 o t _ _ name more _ ih =>
    refine Conserves.trans (.of_suffix rfl ?_) ih
    exact (List.dropWhile_suffix _).trans (List.suffix_cons _ _)
  | case6 => exact .of_suffix rfl (List.suffix_cons _ _)
  | case7 => exact .of_suffix rfl (List.suffix_refl _)

theorem fields_conserves (owner : Nat) (m : Modifiers) (head : List Token) (mark : Token)
    (rest : List Token)
    : Conserves o (mark :: rest) (fields o owner m head mark rest).1
        (fields o owner m head mark rest).2 := by
  unfold fields
  split
  · exact .of_suffix rfl (List.suffix_cons _ _)
  · exact .of_suffix rfl (List.suffix_cons _ _)
  · refine Conserves.trans ?_ (declarators_conserves ..)
    exact .of_suffix rfl (List.suffix_refl _)

theorem inside_sublist (b : Bracket) (tokens : List Token)
    : ((b.inside tokens).1 ++ (b.inside tokens).2).Sublist tokens := by
  unfold Bracket.inside
  cases hclose : b.close? 0 tokens with
  | none =>
    simp only [Option.getD_none, List.append_nil, List.Sublist.refl]
  | some group =>
    obtain ⟨t, -, rfl⟩ := Bracket.close?_append hclose
    exact (List.sublist_cons_self t group.2).append_left _

theorem group?_sublist (b : Bracket) (tokens : List Token)
    : ((b.group? tokens).1.toList.flatten ++ (b.group? tokens).2).Sublist tokens := by
  cases tokens with
  | nil => exact List.Sublist.refl _
  | cons t rest =>
    rw [Bracket.group?]
    split
    · rw [Option.toList_some, List.flatten_singleton]
      exact (inside_sublist b rest).trans (List.sublist_cons_self t rest)
    · exact List.Sublist.refl _

theorem methodBody_sublist (tokens : List Token)
    : ((methodBody tokens).1.toList.flatten ++ (methodBody tokens).2).Sublist tokens := by
  fun_induction methodBody tokens with
  | case1 => exact List.Sublist.refl _
  | case2 t rest _ =>
    rw [Option.toList_some, List.flatten_singleton]
    exact (inside_sublist .curly rest).trans (List.sublist_cons_self t rest)
  | case3 t rest => exact List.sublist_cons_self t rest
  | case4 => exact List.Sublist.refl _
  | case5 t rest _ _ _ ih => exact ih.trans (List.sublist_cons_self t rest)

theorem method_conserves (owner : Nat) (m : Modifiers) (head rest : List Token)
    : Conserves o rest (method o owner m head rest).1 (method o owner m head rest).2 := by
  have hbody := (methodBody_sublist (Bracket.round.inside rest).2).trans
    (Bracket.inside_suffix Bracket.round rest).sublist
  have hadds : Conserves o rest
      ((methodBody (Bracket.round.inside rest).2).1.elim o fun tokens => o.addBody
        { owner := owner, parameters := Parameter.readAll (Bracket.round.inside rest).1,
          tokens := tokens })
      (methodBody (Bracket.round.inside rest).2).2 := by
    cases hinside : (methodBody (Bracket.round.inside rest).2).1 with
    | none =>
      exact .of_suffix rfl ((methodBody_suffix _).trans (Bracket.inside_suffix Bracket.round rest))
    | some inside =>
      rw [hinside, Option.toList_some, List.flatten_singleton] at hbody
      exact .addBody _ hbody
  rw [Cursor.reader_method_eq]
  cases head.getLast?.filter Token.isIdent with
  | none => exact hadds
  | some name => exact hadds

theorem member_conserves (owner : Nat) (m : Modifiers) (tokens : List Token)
    : Conserves o tokens (member o owner m tokens).1 (member o owner m tokens).2 := by
  have hafter := (splitMember_suffix 0 (Bracket.angle.group? tokens).2).trans
    (Bracket.group?_suffix Bracket.angle tokens)
  rw [member_eq]
  split
  · exact .of_suffix rfl List.nil_suffix
  · next head mark rest hsplit =>
    rw [hsplit] at hafter
    refine Conserves.trans (.of_suffix rfl hafter) ?_
    have hrest : Conserves o (mark :: rest) o rest := .of_suffix rfl (List.suffix_cons mark rest)
    unfold memberFrom
    split
    · exact .of_suffix rfl (List.suffix_refl _)
    · split
      · exact hrest.trans (method_conserves ..)
      · split
        · exact hrest.trans (.addBody _ (inside_sublist .curly rest))
        · exact fields_conserves ..

theorem foldl_addBody_conserves (owner : Nat) (insides : List (List Token))
    {tokens rest : List Token} (h : (insides.flatten ++ rest).Sublist tokens)
    : Conserves o tokens
        (insides.foldl (fun o inside => o.addBody { owner := owner, tokens := inside }) o)
        rest := by
  have hbodies : ∀ (insides : List (List Token)) (o : Outline),
      (insides.foldl (fun o tokens => o.addBody { owner := owner, tokens := tokens }) o).bodyTokens
        = o.bodyTokens ++ insides.flatten := by
    intro insides
    induction insides with
    | nil => exact fun o => (List.append_nil _).symm
    | cons inside insides ih =>
      intro o
      rw [List.foldl_cons, ih, Outline.bodyTokens, Outline.addBody, List.flatMap_append,
        List.flatMap_singleton, List.flatten_cons, List.append_assoc]
      rfl
  rw [Conserves, hbodies, List.append_assoc]
  exact h.append_left _

theorem stepOutside_conserves (t : Token) (rest : List Token)
    : Conserves o (t :: rest) (stepOutside o t rest).1 (stepOutside o t rest).2.2 := by
  refine .of_suffix ?_ (stepOutside_suffix o t rest)
  unfold stepOutside
  split
  · rfl
  · split
    · rfl
    · dsimp only
      split
      · exact type_bodies ..
      · rfl

theorem stepConstants_conserves (owner : Nat) (outer : List OpenType) (t : Token)
    (rest : List Token)
    : Conserves o (t :: rest) (stepConstants o owner outer t rest).1
        (stepConstants o owner outer t rest).2.2 := by
  have hmodifiers := modifiers_suffix {} (t :: rest)
  unfold stepConstants
  split
  · exact .of_suffix rfl (List.suffix_cons t rest)
  · split
    · exact .of_suffix rfl (List.suffix_cons t rest)
    · split
      · exact .of_suffix rfl (List.suffix_cons t rest)
      · split
        · exact .of_suffix rfl List.nil_suffix
        · next m name after hafter =>
          rw [hafter] at hmodifiers
          have hname := (List.suffix_cons name after).trans hmodifiers
          split
          · have hround := group?_sublist .round after
            have hcurly := group?_sublist .curly (Bracket.round.group? after).2
            refine Conserves.trans (.of_suffix rfl hname) (foldl_addBody_conserves owner _ ?_)
            rw [List.flatten_append, List.append_assoc]
            exact (hcurly.append_left _).trans hround
          · exact .of_suffix rfl hname

theorem stepInside_conserves (owner : Nat) (outer : List OpenType) (t : Token) (rest : List Token)
    : Conserves o (t :: rest) (stepInside o owner outer t rest).1
        (stepInside o owner outer t rest).2.2 := by
  have hmodifiers := modifiers_suffix {} (t :: rest)
  unfold stepInside
  split
  · exact .of_suffix rfl (List.suffix_cons t rest)
  · split
    · exact .of_suffix rfl (List.suffix_cons t rest)
    · dsimp only
      split
      · next inside after hgroup =>
        have hinside := group?_sublist .curly (modifiers {} (t :: rest)).2
        rw [hgroup, Option.toList_some, List.flatten_singleton] at hinside
        exact .addBody _ (hinside.trans hmodifiers.sublist)
      · split
        · next kind start hstart =>
          refine .of_suffix (type_bodies ..) ?_
          exact ((type_suffix ..).trans (typeStart?_suffix hstart)).trans hmodifiers
        · split
          · exact .of_suffix rfl hmodifiers
          · exact Conserves.trans (.of_suffix rfl hmodifiers) (member_conserves ..)

theorem step_conserves (enclosing : List OpenType) (t : Token) (rest : List Token)
    : Conserves o (t :: rest) (step o enclosing t rest).1 (step o enclosing t rest).2.2 := by
  unfold step
  split
  · exact stepOutside_conserves t rest
  · exact stepConstants_conserves _ _ t rest
  · exact stepInside_conserves _ _ t rest

theorem leftOver_eq {t : Token} {rest after : List Token} (h : after <:+ t :: rest)
    : leftOver rest after = after ∨ after = t :: rest ∧ leftOver rest after = rest := by
  unfold leftOver
  split
  · exact .inl rfl
  · next hlength =>
    rcases List.suffix_cons_iff.1 h with rfl | h
    · exact .inr ⟨rfl, rfl⟩
    · exact absurd h.length_le hlength

theorem leftOver_sublist {t : Token} {rest after : List Token} (h : after <:+ t :: rest)
    : (leftOver rest after).Sublist after := by
  rcases leftOver_eq h with hleft | ⟨rfl, hleft⟩
  · simp only [hleft, List.Sublist.refl]
  · rw [hleft]
    exact List.sublist_cons_self t rest

theorem step_leftOver_conserves (enclosing : List OpenType) (t : Token) (rest : List Token)
    : Conserves o (t :: rest) (step o enclosing t rest).1
        (leftOver rest (step o enclosing t rest).2.2) :=
  ((leftOver_sublist (step_suffix ..)).append_left _).trans (step_conserves enclosing t rest)

theorem outlineFrom_conserves (enclosing : List OpenType) (tokens : List Token)
    : Conserves o tokens (outlineFrom o enclosing tokens) [] := by
  fun_induction outlineFrom o enclosing tokens with
  | case1 => exact .of_suffix rfl (List.suffix_refl _)
  | case2 o enclosing t rest next ih => exact (step_leftOver_conserves enclosing t rest).trans ih

end Reader

theorem bodyTokens_outline (tokens : List Token) : (outline tokens).bodyTokens.Sublist tokens := by
  have hsublist := Reader.outlineFrom_conserves (o := {}) [] tokens
  rw [Reader.Conserves, List.append_nil] at hsublist
  exact hsublist

end DeprecatedUse.Java
