import DeprecatedUse.Proofs.Java.Commented.Headers
import DeprecatedUse.Proofs.Java.Conservation

/-!
This module contains the reading of declarations where a documentation comment stands in a body. The
comment is read with the body, so without it the declarations are the same, and so are the bodies
but for the comment.
-/

namespace DeprecatedUse.Java

variable {d : Token}

def Body.without (d : Token) (body : Body) : Body :=
  { body with tokens := erased d body.tokens }

def Outline.without (d : Token) (o : Outline) : Outline :=
  { o with bodies := o.bodies.map (Body.without d) }

theorem Outline.without_addBody (d : Token) (o : Outline) (body : Body)
    : (o.addBody body).without d = (o.without d).addBody (body.without d) := by
  rw [without, addBody, List.map_append]
  rfl

/--
The comment, if these tokens have it, gets into a body of `o'` or is left where it may be in a body.
-/
structure Found (d : Token) (o : Outline) (tokens : List Token) (o' : Outline) (rest : List Token) :
    Prop where
  nodup : tokens.Nodup
  fresh : d ∈ tokens → d ∉ o.bodyTokens
  found : d ∈ tokens → d ∈ o'.bodyTokens ∨ d ∈ rest
  guarded : Guarded d rest

theorem Reader.AddsBodies.mem {tokens : List Token} {o o' : Outline}
    (h : AddsBodies tokens o o') (hfresh : d ∉ o.bodyTokens) (hd : d ∈ o'.bodyTokens)
    : d ∈ tokens := by
  obtain ⟨body, hbody, hmem⟩ := List.mem_flatMap.1 hd
  rcases h body hbody with hbody | hwithin
  · exact absurd (List.mem_flatMap.2 ⟨body, hbody, hmem⟩) hfresh
  · exact hwithin.subset hmem

namespace Found

variable {o o' : Outline} {tokens mid rest : List Token}

theorem kept_of_adds (h : Found d o tokens o' rest) (hadds : Reader.AddsBodies mid o o')
    (hrest : rest <:+ mid) (hguarded : Guarded d mid) : Kept d tokens mid where
  nodup := h.nodup
  mem hmem := (h.found hmem).elim (hadds.mem (h.fresh hmem)) (hrest.subset ·)
  guarded := hguarded

theorem kept (h : Found d o tokens o' rest) (hbodies : o'.bodies = o.bodies) : Kept d tokens rest :=
  h.kept_of_adds (.of_eq hbodies) (List.suffix_refl _) h.guarded

theorem of_suffix (h : Found d o tokens o' rest) (hmid : mid <:+ tokens)
    : Found d o mid o' rest where
  nodup := h.nodup.sublist hmid.sublist
  fresh hmem := h.fresh (hmid.subset hmem)
  found hmem := h.found (hmid.subset hmem)
  guarded := h.guarded

end Found

theorem splitExpression_erased (hd : d.kind = .doc) (depth : Nat) (tokens : List Token)
    : splitExpression depth (erased d tokens)
        =
      Prod.map (erased d) (erased d) (splitExpression depth tokens) := by
  induction tokens generalizing depth with
  | nil => rfl
  | cons t rest ih =>
    by_cases ht : t = d
    · subst ht
      rw [erased_self, ih, splitExpression, t.isPunctOf_of_doc hd, t.isPunctOf_of_doc hd,
        t.isPunctOf_of_doc hd, Bool.and_false, if_neg Bool.false_ne_true, if_neg Bool.false_ne_true,
        if_neg Bool.false_ne_true]
      simp only [Prod.map, erased_self]
    · rw [erased_cons ht, splitExpression, splitExpression]
      split
      · rw [ih]
        simp only [Prod.map, erased_cons ht]
      · split
        · simp only [Prod.map, erased_cons ht]
          rfl
        · rw [ih]
          simp only [Prod.map, erased_cons ht]

namespace Reader

/-! Types. -/

theorem type_kept (hd : d.kind = .doc) {o : Outline} {outer : Option Nat} {m : Modifiers}
    {kind : TypeDecl.Kind} {tokens : List Token}
    (h : Kept d tokens (type o outer m kind tokens).2.2)
    : type (o.without d) outer m kind (erased d tokens)
        =
      ((type o outer m kind tokens).1.without d, (type o outer m kind tokens).2.1,
        erased d (type o outer m kind tokens).2.2) := by
  cases tokens with
  | nil => rfl
  | cons name rest =>
    by_cases hname : name.isIdent = true
    · have hsuffix := type_suffix_of_isIdent o outer m kind hname rest
      have hheader := typeHeader_suffix kind rest
      have hrest := h.of_suffix (List.suffix_cons name rest)
      -- What a type leaves is the rest of its header, at most without the opening brace.
      have hkept : Kept d rest (typeHeader kind rest).rest := by
        refine hrest.between hheader ?_
        rw [type, if_pos hname]
        dsimp only
        split
        · exact List.nil_suffix
        · next t after hafter =>
          rw [hafter]
          split
          · exact List.suffix_cons t after
          · exact List.suffix_refl _
      rw [erased_cons (Token.ne_of_isIdent hd hname), type, type, if_pos hname, if_pos hname,
        typeHeader_kept hd hkept]
      dsimp only
      cases hafter : (typeHeader kind rest).rest with
      | nil => rfl
      | cons t after =>
        rw [hafter] at hkept
        rw [erased_cons (hkept.guarded.ne hd)]
        dsimp only
        split
        · rfl
        · rw [← erased_cons (hkept.guarded.ne hd)]
          rfl
    · rw [type, if_neg hname] at h
      rw [erased_cons (h.guarded.ne hd), type, type, if_neg hname, if_neg hname,
        ← erased_cons (h.guarded.ne hd)]

/-! Members. -/

theorem dropWhile_isDimension_erased (hd : d.kind = .doc) {tokens : List Token}
    (h : Guarded d (tokens.dropWhile isDimension))
    : (erased d tokens).dropWhile isDimension = erased d (tokens.dropWhile isDimension)
      ∧ Guarded d tokens := by
  induction tokens with
  | nil => exact ⟨rfl, h⟩
  | cons t rest ih =>
    rw [List.dropWhile_cons] at h ⊢
    split
    · next ht =>
      rw [if_pos ht] at h
      obtain ⟨hdrop, hguarded⟩ := ih h
      have hne : t ≠ d := Token.ne_of_isPunctOf hd ht
      rw [erased_cons hne, List.dropWhile_cons, if_pos ht]
      exact ⟨hdrop, hguarded.cons hne⟩
    · next ht =>
      rw [if_neg ht] at h
      rw [erased_cons (h.ne hd), List.dropWhile_cons, if_neg ht]
      exact ⟨rfl, h⟩

theorem declarators_erased (hd : d.kind = .doc) {owner : Nat} {field : Token → MemberDecl}
    {o : Outline} {tokens : List Token} (h : Guarded d (declarators owner field o tokens).2)
    : Guarded d tokens
      ∧ declarators owner field (o.without d) (erased d tokens)
          = ((declarators owner field o tokens).1.without d,
            erased d (declarators owner field o tokens).2) := by
  -- The induction is that of the reader; an initializer is a body, so it may hold the comment.
  fun_induction declarators owner field o tokens with
  | case1 o =>
    refine ⟨h, ?_⟩
    rw [erased, List.filter_nil, declarators]
  | case2 o t rest ht initializer _ ih =>
    refine ⟨guarded_cons_opensBody (opensBody_of_isPunct ht (by decide)) rest, ?_⟩
    have hbody := (ih h).2
    rw [Outline.without_addBody] at hbody
    rw [erased_cons (Token.ne_of_isPunct hd ht), declarators.eq_def]
    dsimp only
    rw [if_pos ht, splitExpression_erased hd]
    exact hbody
  | case3 o t ht hcomma =>
    have hne := Token.ne_of_isPunct hd hcomma
    refine ⟨h.cons hne, ?_⟩
    rw [erased_cons hne, erased, List.filter_nil, declarators.eq_def]
    dsimp only
    rw [if_neg ht, if_pos hcomma]
  | case4 o t ht hcomma name more hname ih =>
    have hne := Token.ne_of_isPunct hd hcomma
    have hne' := Token.ne_of_isIdent hd hname
    obtain ⟨hguarded, heq⟩ := ih h
    obtain ⟨hdrop, hmore⟩ := dropWhile_isDimension_erased hd hguarded
    refine ⟨(hmore.cons hne').cons hne, ?_⟩
    rw [erased_cons hne, erased_cons hne', declarators, if_neg ht, if_pos hcomma,
      if_pos hname, hdrop]
    exact heq
  | case5 o t ht hcomma name more hname ih =>
    have hne := Token.ne_of_isPunct hd hcomma
    obtain ⟨hguarded, heq⟩ := ih h
    obtain ⟨hdrop, hmore⟩ := dropWhile_isDimension_erased hd hguarded
    refine ⟨hmore.cons hne, ?_⟩
    rw [erased_cons (hmore.ne hd)] at hdrop
    rw [erased_cons hne, erased_cons (hmore.ne hd), declarators, if_neg ht, if_pos hcomma,
      if_neg hname, hdrop]
    exact heq
  | case6 o t rest ht hcomma hend =>
    have hne := Token.ne_of_isPunct hd hend
    refine ⟨h.cons hne, ?_⟩
    rw [erased_cons hne, declarators.eq_def]
    dsimp only
    rw [if_neg ht, if_neg hcomma, if_pos hend]
  | case7 o t rest ht hcomma hend =>
    refine ⟨h, ?_⟩
    rw [erased_cons (h.ne hd), declarators.eq_def]
    dsimp only
    rw [if_neg ht, if_neg hcomma, if_neg hend]

theorem fields_erased (hd : d.kind = .doc) {o : Outline} {owner : Nat} {m : Modifiers}
    {head rest : List Token} {mark : Token} (hmark : mark ≠ d)
    (h : Guarded d (fields o owner m head mark rest).2)
    : Guarded d (mark :: rest)
      ∧ fields (o.without d) owner m head mark (erased d rest)
          = ((fields o owner m head mark rest).1.without d,
            erased d (fields o owner m head mark rest).2) := by
  unfold fields at *
  cases hlast : lastIdent? head with
  | none =>
    rw [hlast] at h
    exact ⟨h.cons hmark, rfl⟩
  | some split =>
    obtain ⟨_ | ⟨first, type⟩, name⟩ := split
    · rw [hlast] at h
      exact ⟨h.cons hmark, rfl⟩
    · rw [hlast] at h
      dsimp only at h ⊢
      rw [← erased_cons hmark]
      exact declarators_erased hd h

theorem methodBody_erased (hd : d.kind = .doc) (tokens : List Token)
    : methodBody (erased d tokens)
        =
      Prod.map (Option.map (erased d)) (erased d) (methodBody tokens) := by
  induction tokens with
  | nil => rfl
  | cons t rest ih =>
    by_cases ht : t = d
    · subst ht
      rw [erased_self, ih, methodBody, t.isPunct_of_doc hd, t.isPunct_of_doc hd,
        t.isPunct_of_doc hd, if_neg Bool.false_ne_true, if_neg Bool.false_ne_true,
        if_neg Bool.false_ne_true]
    · rw [erased_cons ht, methodBody, methodBody]
      split
      · rw [Bracket.inside_erased hd]
        rfl
      · split
        · rfl
        · split
          · rw [← erased_cons ht]
            rfl
          · exact ih

theorem method_erased (hd : d.kind = .doc) {o : Outline} {owner : Nat} {m : Modifiers}
    {head rest : List Token} (h : d ∉ (Bracket.round.inside rest).1)
    : method (o.without d) owner m head (erased d rest)
        =
      ((method o owner m head rest).1.without d, erased d (method o owner m head rest).2) := by
  rw [Cursor.reader_method_eq, Cursor.reader_method_eq, Bracket.inside_erased hd]
  dsimp only [Prod.map]
  rw [methodBody_erased hd, erased_of_not_mem h]
  dsimp only [Prod.map]
  have hbody : ∀ body : Option (List Token),
      ((body.map (erased d)).elim (o.without d) fun tokens => (o.without d).addBody
          { owner := owner, parameters := Parameter.readAll (Bracket.round.inside rest).1,
            tokens := tokens })
        = (body.elim o fun tokens => o.addBody
          { owner := owner, parameters := Parameter.readAll (Bracket.round.inside rest).1,
            tokens := tokens }).without d := by
    intro body
    cases body with
    | none => rfl
    | some tokens =>
      rw [Option.map_some, Option.elim_some, Option.elim_some, Outline.without_addBody]
      rfl
  rw [hbody]
  cases head.getLast?.filter Token.isIdent with
  | none => rfl
  | some name => rfl

theorem method_addsBodies_behind (o : Outline) (owner : Nat) (m : Modifiers)
    (head rest : List Token)
    : AddsBodies (Bracket.round.inside rest).2 o (method o owner m head rest).1 := by
  have hbody : AddsBodies (Bracket.round.inside rest).2 o
      ((methodBody (Bracket.round.inside rest).2).1.elim o fun tokens => o.addBody
        { owner := owner, parameters := Parameter.readAll (Bracket.round.inside rest).1,
          tokens := tokens }) := by
    cases hbody : (methodBody (Bracket.round.inside rest).2).1 with
    | none => exact .of_eq rfl
    | some body => exact .addBody (methodBody_isInfix hbody)
  rw [Cursor.reader_method_eq]
  refine hbody.trans ?_
  cases head.getLast?.filter Token.isIdent with
  | none => exact .of_eq rfl
  | some name => exact .addMember owner _

theorem splitMember_erased (hd : d.kind = .doc) (angle : Nat) (tokens : List Token)
    : splitMember angle (erased d tokens)
        =
      Prod.map (erased d) (erased d) (splitMember angle tokens) := by
  induction tokens generalizing angle with
  | nil => rfl
  | cons t rest ih =>
    by_cases ht : t = d
    · subst ht
      rw [erased_self, ih, splitMember, t.isPunctOf_of_doc hd, t.isPunct_of_doc hd,
        t.isPunct_of_doc hd, Bool.and_false, if_neg Bool.false_ne_true, if_neg Bool.false_ne_true,
        if_neg Bool.false_ne_true]
      simp only [Prod.map, erased_self]
    · rw [erased_cons ht, splitMember, splitMember]
      split
      · simp only [Prod.map, erased_cons ht]
        rfl
      · dsimp only
        rw [ih]
        simp only [Prod.map, erased_cons ht]

theorem memberHead_kept (hd : d.kind = .doc) {tokens head after : List Token}
    (hsplit : splitMember 0 (Bracket.angle.group? tokens).2 = (head, after))
    (h : Kept d tokens after)
    : splitMember 0 (Bracket.angle.group? (erased d tokens)).2 = (head, erased d after) := by
  have hgroup := Bracket.group?_suffix Bracket.angle tokens
  have happend := splitMember_append 0 (Bracket.angle.group? tokens).2
  rw [hsplit] at happend
  have hafter : after <:+ (Bracket.angle.group? tokens).2 := ⟨head, happend⟩
  have hhead := h.of_suffix hgroup
  rw [← happend] at hhead
  rw [Bracket.group?_kept hd (h.between hgroup hafter), splitMember_erased hd, hsplit, Prod.map,
    erased_of_not_mem hhead.not_mem]

theorem memberFrom_found (hd : d.kind = .doc) {o : Outline} {owner : Nat} {m : Modifiers}
    {head tokens rest : List Token} {mark : Token} (hmark : mark ≠ d) (hrest : rest <:+ tokens)
    (h : Found d o tokens (memberFrom o owner m head mark rest).1
      (memberFrom o owner m head mark rest).2)
    : Kept d tokens (mark :: rest)
      ∧ memberFrom (o.without d) owner m head mark (erased d rest)
          = ((memberFrom o owner m head mark rest).1.without d,
            erased d (memberFrom o owner m head mark rest).2) := by
  have hcons := List.suffix_cons mark rest
  unfold memberFrom at *
  split
  · next hclose =>
    rw [if_pos hclose] at h
    refine ⟨h.kept rfl, ?_⟩
    rw [← erased_cons hmark]
  · next hclose =>
    rw [if_neg hclose] at h
    split
    · next hround =>
      rw [if_pos hround] at h
      have hadds := method_addsBodies o owner m head rest
      have hguarded : Guarded d (mark :: rest) :=
        guarded_cons_opensBody (opensBody_of_isPunct hround (by decide)) rest
      refine ⟨h.kept_of_adds (hadds.mono hcons.isInfix) ((method_suffix ..).trans hcons)
        hguarded, ?_⟩
      apply method_erased hd
      -- The comment is found in a body or left over, so it is not among the parameters.
      apply Bracket.inside_not_mem (h.nodup.sublist hrest.sublist)
      intro hmem
      have hfresh := h.fresh (hrest.subset hmem)
      rcases h.found (hrest.subset hmem) with hbodies | hleft
      · exact (method_addsBodies_behind o owner m head rest).mem hfresh hbodies
      · rw [Cursor.reader_method_eq] at hleft
        exact (methodBody_suffix _).subset hleft
    · next hround =>
      rw [if_neg hround] at h
      split
      · next hcurly =>
        rw [if_pos hcurly] at h
        have hinside := (Bracket.inside_isPrefix Bracket.curly rest).isInfix
        have hguarded : Guarded d (mark :: rest) :=
          guarded_cons_opensBody (opensBody_of_isPunct hcurly (by decide)) rest
        refine ⟨h.kept_of_adds (.addBody (hinside.trans hcons.isInfix))
          ((Bracket.inside_suffix Bracket.curly rest).trans hcons) hguarded, ?_⟩
        rw [Bracket.inside_erased hd, Outline.without_addBody]
        rfl
      · next hcurly =>
        rw [if_neg hcurly] at h
        obtain ⟨hguarded, heq⟩ := fields_erased hd hmark h.guarded
        have hadds := fields_addsBodies o owner m head mark rest
        exact ⟨h.kept_of_adds hadds (fields_suffix ..) hguarded, heq⟩

theorem member_found (hd : d.kind = .doc) {o : Outline} {owner : Nat} {m : Modifiers}
    {tokens : List Token}
    (h : Found d o tokens (member o owner m tokens).1 (member o owner m tokens).2)
    : Guarded d tokens
      ∧ member (o.without d) owner m (erased d tokens)
          = ((member o owner m tokens).1.without d, erased d (member o owner m tokens).2) := by
  have hafter := (splitMember_suffix 0 (Bracket.angle.group? tokens).2).trans
    (Bracket.group?_suffix Bracket.angle tokens)
  rw [member_eq] at h
  rw [member_eq, member_eq]
  cases hsplit : splitMember 0 (Bracket.angle.group? tokens).2 with
  | mk head after =>
    rw [hsplit] at h hafter
    cases after with
    | nil =>
      have hkept := h.kept rfl
      rw [memberHead_kept hd hsplit hkept]
      exact ⟨hkept.guarded_tokens hafter, rfl⟩
    | cons mark rest =>
      have hne : mark ≠ d := Token.ne_of_kind hd (by rw [Cursor.splitMember_mark hsplit]; decide)
      obtain ⟨hkept, heq⟩ := memberFrom_found hd hne ((List.suffix_cons mark rest).trans hafter) h
      rw [memberHead_kept hd hsplit hkept, erased_cons hne]
      exact ⟨hkept.guarded_tokens hafter, heq⟩

/-! Steps. -/

section Steps

variable {o : Outline} {t : Token} {rest : List Token}

theorem modifiers_step (hd : d.kind = .doc) (h : Kept d (t :: rest) (modifiers {} (t :: rest)).2)
    : Guarded d (t :: rest)
      ∧ modifiers {} (t :: erased d rest)
          = ((modifiers {} (t :: rest)).1, erased d (modifiers {} (t :: rest)).2) := by
  have hguarded := h.guarded_tokens (modifiers_suffix {} (t :: rest))
  refine ⟨hguarded, ?_⟩
  rw [← erased_cons (hguarded.ne hd)]
  exact modifiers_kept hd h

theorem type_step (hd : d.kind = .doc) {outer : Option Nat} {kind : TypeDecl.Kind}
    {start : List Token} (hstart : typeStart? (modifiers {} (t :: rest)).2 = some (kind, start))
    (h : Kept d (t :: rest) (type o outer (modifiers {} (t :: rest)).1 kind start).2.2)
    : Kept d (t :: rest) (modifiers {} (t :: rest)).2
      ∧ typeStart? (erased d (modifiers {} (t :: rest)).2) = some (kind, erased d start)
      ∧ type (o.without d) outer (modifiers {} (t :: rest)).1 kind (erased d start)
          = ((type o outer (modifiers {} (t :: rest)).1 kind start).1.without d,
            (type o outer (modifiers {} (t :: rest)).1 kind start).2.1,
            erased d (type o outer (modifiers {} (t :: rest)).1 kind start).2.2) := by
  have hmodifiers := modifiers_suffix {} (t :: rest)
  have hsuffix := typeStart?_suffix hstart
  have htype := type_suffix o outer (modifiers {} (t :: rest)).1 kind start
  have hkept := h.between hmodifiers (htype.trans hsuffix)
  refine ⟨hkept, ?_, type_kept hd (h.of_suffix (hsuffix.trans hmodifiers))⟩
  rw [typeStart?_erased hd hkept.guarded, hstart]
  rfl

theorem stepOutside_found (hd : d.kind = .doc)
    (h : Found d o (t :: rest) (stepOutside o t rest).1 (stepOutside o t rest).2.2)
    : Guarded d (t :: rest)
      ∧ stepOutside (o.without d) t (erased d rest)
          = ((stepOutside o t rest).1.without d, (stepOutside o t rest).2.1,
            erased d (stepOutside o t rest).2.2) := by
  have hcons := List.suffix_cons t rest
  unfold stepOutside at *
  split
  · next hpackage =>
    rw [if_pos hpackage] at h
    have hkept := h.kept rfl
    refine ⟨hkept.guarded_tokens ((dottedName_suffix "" rest).trans hcons), ?_⟩
    rw [dottedName_kept hd (hkept.of_suffix hcons)]
    rfl
  · next hpackage =>
    rw [if_neg hpackage] at h
    split
    · next himport =>
      rw [if_pos himport] at h
      have hkept := (h.kept rfl).of_suffix hcons
      dsimp only at hkept
      -- The path of an import begins behind the word `static`, if that stands there.
      generalize hpath : (if starts (·.isWord "static") rest = true then rest.tail else rest) = path
        at hkept
      have hsuffix : path <:+ rest := by
        rw [← hpath]
        split
        · exact List.tail_suffix rest
        · exact List.suffix_refl rest
      have hguarded := hkept.guarded_tokens ((dottedName_suffix "" path).trans hsuffix)
      have herased : (if starts (·.isWord "static") rest = true then (erased d rest).tail
          else erased d rest) = erased d path := by
        rw [← hpath]
        cases rest with
        | nil => rfl
        | cons first rest =>
          rw [erased_cons (hguarded.ne hd)]
          split
          · rfl
          · exact (erased_cons (hguarded.ne hd) rest).symm
      refine ⟨(h.kept rfl).guarded_tokens ?_, ?_⟩
      · dsimp only
        rw [hpath]
        exact ((dottedName_suffix "" path).trans hsuffix).trans hcons
      · dsimp only
        rw [hguarded.starts_erased hd, hpath, herased, dottedName_kept hd (hkept.of_suffix hsuffix)]
        rfl
    · next himport =>
      rw [if_neg himport] at h
      dsimp only at h ⊢
      cases hstart : typeStart? (modifiers {} (t :: rest)).2 with
      | none =>
        rw [hstart] at h
        have hkept := h.kept rfl
        obtain ⟨hguarded, hmodifiers⟩ := modifiers_step hd hkept
        refine ⟨hguarded, ?_⟩
        rw [hmodifiers]
        dsimp only
        rw [typeStart?_erased hd hkept.guarded, hstart]
        rfl
      | some start =>
        rw [hstart] at h
        obtain ⟨hkept, hstart', htype⟩ := type_step hd hstart (h.kept (type_bodies ..))
        obtain ⟨hguarded, hmodifiers⟩ := modifiers_step hd hkept
        refine ⟨hguarded, ?_⟩
        rw [hmodifiers]
        dsimp only
        rw [hstart']
        dsimp only
        rw [htype]

theorem stepInside_found (hd : d.kind = .doc) {owner : Nat} {outer : List OpenType}
    (h : Found d o (t :: rest) (stepInside o owner outer t rest).1
      (stepInside o owner outer t rest).2.2)
    : Guarded d (t :: rest)
      ∧ stepInside (o.without d) owner outer t (erased d rest)
          = ((stepInside o owner outer t rest).1.without d, (stepInside o owner outer t rest).2.1,
            erased d (stepInside o owner outer t rest).2.2) := by
  have hsuffix := modifiers_suffix {} (t :: rest)
  unfold stepInside at *
  split
  · next hclose =>
    rw [if_pos hclose] at h
    exact ⟨h.guarded.cons (Token.ne_of_isPunct hd hclose), rfl⟩
  · next hclose =>
    rw [if_neg hclose] at h
    split
    · next hend =>
      rw [if_pos hend] at h
      exact ⟨h.guarded.cons (Token.ne_of_isPunct hd hend), rfl⟩
    · next hend =>
      rw [if_neg hend] at h
      dsimp only at h ⊢
      -- A block, a type or a member: what stands behind the modifiers decides.
      cases hgroup : Bracket.curly.group? (modifiers {} (t :: rest)).2 with
      | mk inside after =>
        have hafter := Bracket.group?_suffix Bracket.curly (modifiers {} (t :: rest)).2
        rw [hgroup] at h hafter
        cases inside with
        | some inside =>
          dsimp only at h
          have hguarded : Guarded d (modifiers {} (t :: rest)).2 := by
            apply Bracket.guarded_of_group? (b := .curly) (by decide)
            rw [hgroup]
            exact h.guarded
          have hinside := Bracket.group?_isInfix (congrArg Prod.fst hgroup)
          have hkept := h.kept_of_adds (.addBody hinside) hafter hguarded
          obtain ⟨hguarded, hmodifiers⟩ := modifiers_step hd hkept
          refine ⟨hguarded, ?_⟩
          rw [hmodifiers]
          dsimp only
          rw [Bracket.group?_erased hd _ hkept.guarded, hgroup]
          dsimp only [Prod.map, Option.map_some]
          rw [Outline.without_addBody]
          rfl
        | none =>
          dsimp only at h
          cases hstart : typeStart? (modifiers {} (t :: rest)).2 with
          | some start =>
            rw [hstart] at h
            obtain ⟨hkept, hstart', htype⟩ := type_step hd hstart (h.kept (type_bodies ..))
            obtain ⟨hguarded, hmodifiers⟩ := modifiers_step hd hkept
            refine ⟨hguarded, ?_⟩
            rw [hmodifiers]
            dsimp only
            rw [Bracket.group?_erased hd _ hkept.guarded, hgroup, hstart']
            dsimp only [Prod.map, Option.map_none]
            rw [htype]
          | none =>
            rw [hstart] at h
            dsimp only at h
            split at h
            · next hends =>
              have hkept := h.kept rfl
              obtain ⟨hguarded, hmodifiers⟩ := modifiers_step hd hkept
              refine ⟨hguarded, ?_⟩
              rw [hmodifiers]
              dsimp only
              rw [Bracket.group?_erased hd _ hkept.guarded, hgroup,
                typeStart?_erased hd hkept.guarded, hstart, hkept.guarded.starts_erased hd]
              dsimp only [Prod.map, Option.map_none]
              rw [if_pos hends, if_pos hends]
            · next hends =>
              obtain ⟨hguarded, hmember⟩ := member_found hd (h.of_suffix hsuffix)
              have hkept := h.kept_of_adds (member_addsBodies _ _ _ _) (member_suffix ..) hguarded
              obtain ⟨hguarded', hmodifiers⟩ := modifiers_step hd hkept
              refine ⟨hguarded', ?_⟩
              rw [hmodifiers]
              dsimp only
              rw [Bracket.group?_erased hd _ hguarded, hgroup, typeStart?_erased hd hguarded,
                hstart, hguarded.starts_erased hd]
              dsimp only [Prod.map, Option.map_none]
              rw [if_neg hends, if_neg hends, hmember]

theorem foldl_addBody_erased (owner : Nat) (insides : List (List Token)) (o : Outline)
    : (insides.map (erased d)).foldl
          (fun o tokens => o.addBody { owner := owner, tokens := tokens }) (o.without d)
        =
      (insides.foldl (fun o tokens => o.addBody { owner := owner, tokens := tokens }) o).without d
      := by
  induction insides generalizing o with
  | nil => rfl
  | cons inside rest ih =>
    rw [List.map_cons, List.foldl_cons, List.foldl_cons, ← ih, Outline.without_addBody]
    rfl

theorem constant_addsBodies (o : Outline) (owner : Nat) (constant : MemberDecl) (after : List Token)
    : AddsBodies after o
        (((Bracket.round.group? after).1.toList
            ++ (Bracket.curly.group? (Bracket.round.group? after).2).1.toList).foldl
          (fun o tokens => o.addBody { owner := owner, tokens := tokens })
          (o.addMember owner constant)) := by
  refine AddsBodies.trans (.addMember owner constant) (foldl_addBody_addsBodies owner _ _ ?_)
  intro inside hinside
  rw [List.mem_append, Option.mem_toList, Option.mem_toList] at hinside
  rcases hinside with hinside | hinside
  · exact Bracket.group?_isInfix hinside
  · exact (Bracket.group?_isInfix hinside).trans (Bracket.group?_suffix Bracket.round after).isInfix

theorem stepConstants_found (hd : d.kind = .doc) {owner : Nat} {outer : List OpenType}
    (h : Found d o (t :: rest) (stepConstants o owner outer t rest).1
      (stepConstants o owner outer t rest).2.2)
    : Guarded d (t :: rest)
      ∧ stepConstants (o.without d) owner outer t (erased d rest)
          = ((stepConstants o owner outer t rest).1.without d,
            (stepConstants o owner outer t rest).2.1,
            erased d (stepConstants o owner outer t rest).2.2) := by
  unfold stepConstants at *
  split
  · next hend =>
    rw [if_pos hend] at h
    exact ⟨h.guarded.cons (Token.ne_of_isPunct hd hend), rfl⟩
  · next hend =>
    rw [if_neg hend] at h
    split
    · next hclose =>
      rw [if_pos hclose] at h
      exact ⟨h.guarded.cons (Token.ne_of_isPunct hd hclose), rfl⟩
    · next hclose =>
      rw [if_neg hclose] at h
      split
      · next hcomma =>
        rw [if_pos hcomma] at h
        exact ⟨h.guarded.cons (Token.ne_of_isPunct hd hcomma), rfl⟩
      · next hcomma =>
        rw [if_neg hcomma] at h
        -- the comment is behind the modifiers, where nothing else can have been read
        have hstep : ∀ {m : Modifiers} {left : List Token}, modifiers {} (t :: rest) = (m, left) →
            Kept d (t :: rest) left →
            Guarded d (t :: rest) ∧ modifiers {} (t :: erased d rest) = (m, erased d left) := by
          intro m left hleft hkept
          have hmodifiers := modifiers_step hd (by rw [hleft]; exact hkept)
          rw [hleft] at hmodifiers
          exact hmodifiers
        cases hleft : modifiers {} (t :: rest) with
        | mk m left =>
          rw [hleft] at h
          cases left with
          | nil =>
            obtain ⟨hguarded, hmodifiers⟩ := hstep hleft (h.kept rfl)
            refine ⟨hguarded, ?_⟩
            rw [hmodifiers]
            rfl
          | cons name after =>
            dsimp only at h ⊢
            split at h
            · next hname =>
              have hne := Token.ne_of_isIdent hd hname
              have harguments := Bracket.guarded_of_group? (b := .curly) (by decide) h.guarded
              have hafter := Bracket.guarded_of_group? (b := .round) (by decide) harguments
              have hround := Bracket.group?_suffix Bracket.round after
              have hcurly := Bracket.group?_suffix Bracket.curly (Bracket.round.group? after).2
              have hadds := constant_addsBodies o owner
                { name := name.text, kind := .enumConstant, deprecation := m.deprecation?,
                  span := name.span } after
              have hkept := h.kept_of_adds (hadds.mono (List.suffix_cons name after).isInfix)
                ((hcurly.trans hround).trans (List.suffix_cons name after)) (hafter.cons hne)
              obtain ⟨hguarded, hmodifiers⟩ := hstep hleft hkept
              refine ⟨hguarded, ?_⟩
              rw [hmodifiers, erased_cons hne]
              dsimp only
              rw [if_pos hname, if_pos hname, Bracket.group?_erased hd _ hafter]
              dsimp only [Prod.map]
              rw [Bracket.group?_erased hd _ harguments]
              dsimp only [Prod.map]
              rw [← foldl_addBody_erased, List.map_append, ← Option.toList_map, ← Option.toList_map]
              rfl
            · next hname =>
              have hsuffix := modifiers_suffix {} (t :: rest)
              rw [hleft] at hsuffix
              have hkept := (h.kept rfl).between hsuffix (List.suffix_cons name after)
              obtain ⟨hguarded, hmodifiers⟩ := hstep hleft hkept
              refine ⟨hguarded, ?_⟩
              rw [hmodifiers, erased_cons (hkept.guarded.ne hd)]
              dsimp only
              rw [if_neg hname, if_neg hname]

theorem step_found (hd : d.kind = .doc) {enclosing : List OpenType}
    (h : Found d o (t :: rest) (step o enclosing t rest).1 (step o enclosing t rest).2.2)
    : Guarded d (t :: rest)
      ∧ step (o.without d) enclosing t (erased d rest)
          = ((step o enclosing t rest).1.without d, (step o enclosing t rest).2.1,
            erased d (step o enclosing t rest).2.2) := by
  unfold step at *
  match enclosing with
  | [] => exact stepOutside_found hd h
  | ⟨owner, true⟩ :: outer => exact stepConstants_found hd h
  | ⟨owner, false⟩ :: outer => exact stepInside_found hd h

end Steps

theorem leftOver_erased {t : Token} (ht : t ≠ d) {rest after : List Token} (h : after <:+ t :: rest)
    : leftOver (erased d rest) (erased d after) = erased d (leftOver rest after) := by
  rcases List.suffix_cons_iff.1 h with rfl | h
  · have hlonger : ∀ tokens : List Token, ¬ (t :: tokens).length ≤ tokens.length :=
      fun tokens => Nat.not_succ_le_self tokens.length
    rw [erased_cons ht, leftOver, leftOver, if_neg (hlonger _), if_neg (hlonger _)]
  · have herased : (erased d after).length ≤ (erased d rest).length := (h.filter _).length_le
    rw [leftOver, leftOver, if_pos herased, if_pos h.length_le]

theorem outlineFrom_found (hd : d.kind = .doc) {o : Outline} {enclosing : List OpenType}
    {tokens : List Token} (hnodup : (o.bodyTokens ++ tokens).Nodup)
    (hfound : d ∈ tokens → d ∈ (outlineFrom o enclosing tokens).bodyTokens)
    : Guarded d tokens
      ∧ outlineFrom (o.without d) enclosing (erased d tokens)
          = (outlineFrom o enclosing tokens).without d := by
  fun_induction outlineFrom o enclosing tokens with
  | case1 o enclosing =>
    refine ⟨.of_not_mem List.not_mem_nil, ?_⟩
    rw [erased, List.filter_nil, outlineFrom]
  | case2 o enclosing t rest next ih =>
    have hsuffix : next.2.2 <:+ t :: rest := step_suffix o enclosing t rest
    have hleft := leftOver_suffix hsuffix
    have hnodup' := hnodup.sublist (step_leftOver_conserves enclosing t rest)
    obtain ⟨hguarded, heq⟩ := ih hnodup' fun h => hfound (List.mem_cons_of_mem t (hleft.subset h))
    have hread : d ∈ t :: rest → d ∈ next.1.bodyTokens ∨ d ∈ leftOver rest next.2.2 := by
      intro hmem
      have hsublist := outlineFrom_conserves (o := next.1) next.2.1 (leftOver rest next.2.2)
      rw [Conserves, List.append_nil] at hsublist
      exact List.mem_append.1 (hsublist.subset (hfound hmem))
    -- What the later steps find or leave over tells where this step has put the comment.
    have hstep : Found d o (t :: rest) next.1 next.2.2 := by
      refine ⟨(List.nodup_append.1 hnodup).2.1, ?_, ?_, ?_⟩
      · intro hmem hbodies
        exact (List.nodup_append.1 hnodup).2.2 d hbodies d hmem rfl
      · exact fun hmem => (hread hmem).imp id ((leftOver_sublist hsuffix).subset ·)
      · rcases leftOver_eq hsuffix with hall | ⟨hafter, hall⟩
        · rw [hall] at hguarded
          exact hguarded
        · rw [hall] at hguarded hread
          rw [hafter]
          apply hguarded.cons
          rintro rfl
          have hbodies := (hread List.mem_cons_self).resolve_right
            (List.nodup_cons.1 (List.nodup_append.1 hnodup).2.1).1
          have hafter' := hnodup.sublist (step_conserves enclosing t rest)
          refine (List.nodup_append.1 hafter').2.2 t hbodies t ?_ rfl
          exact hafter ▸ List.mem_cons_self
    obtain ⟨hguarded', hstep'⟩ := step_found hd hstep
    have hne := hguarded'.ne hd
    refine ⟨hguarded', ?_⟩
    rw [erased_cons hne, outlineFrom, hstep']
    dsimp only
    rw [leftOver_erased hne hsuffix]
    exact heq

end Reader

theorem outline_erased (hd : d.kind = .doc) {tokens : List Token} (hnodup : tokens.Nodup)
    (h : d ∈ (outline tokens).bodyTokens)
    : outline (erased d tokens) = (outline tokens).without d :=
  (Reader.outlineFrom_found (o := {}) hd hnodup fun _ => h).2

end DeprecatedUse.Java
