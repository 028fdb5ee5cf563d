import DeprecatedUse.Proofs.Java.Reading

/-!
This module contains that the reader of declarations only appends: the types, the members of each
type and the bodies that have been read come first in all that is read later.
-/

namespace DeprecatedUse.Java

namespace Outline

/--
What is in `o` comes first in `o'`: of the bodies, and of the members of each type.
-/
structure Extends (o o' : Outline) : Prop where
  bodies : o.bodies <+: o'.bodies
  members : ∀ (place : Nat) (e : Entry), o.entries[place]? = some e →
    ∃ e', o'.entries[place]? = some e' ∧ e.decl.members <+: e'.decl.members

namespace Extends

variable {o o' o'' : Outline}

theorem of_eq (hbodies : o'.bodies = o.bodies) (hentries : o'.entries = o.entries)
    : o.Extends o' where
  bodies := ⟨[], by rw [hbodies, List.append_nil]⟩
  members := by
    intro place e he
    rw [← hentries] at he
    exact ⟨e, he, List.prefix_refl _⟩

theorem refl (o : Outline) : o.Extends o :=
  .of_eq rfl rfl

theorem trans (h : o.Extends o') (h' : o'.Extends o'') : o.Extends o'' where
  bodies := h.bodies.trans h'.bodies
  members := by
    intro place e he
    obtain ⟨e', he', hmembers⟩ := h.members place e he
    obtain ⟨e'', he'', hmembers'⟩ := h'.members place e' he'
    exact ⟨e'', he'', hmembers.trans hmembers'⟩

theorem addBody (o : Outline) (body : Body) : o.Extends (o.addBody body) where
  bodies := List.prefix_append _ _
  members := fun _ e he => ⟨e, he, List.prefix_refl _⟩

theorem addMember (o : Outline) (owner : Nat) (m : MemberDecl)
    : o.Extends (o.addMember owner m) where
  bodies := List.prefix_refl _
  members := by
    intro place e he
    unfold Outline.addMember
    dsimp only
    rw [List.getElem?_modify, he]
    refine ⟨_, rfl, ?_⟩
    split
    · exact List.prefix_append _ _
    · exact List.prefix_refl _

theorem lt_length (h : o.Extends o') {place : Nat} (hplace : place < o.entries.length)
    : place < o'.entries.length := by
  obtain ⟨e', he', -⟩ := h.members place _ (List.getElem?_eq_getElem hplace)
  exact (List.getElem?_eq_some_iff.1 he').1

theorem concat {e : Entry} (hbodies : o'.bodies = o.bodies) (h : o'.entries = o.entries ++ [e])
    : o.Extends o' where
  bodies := ⟨[], by rw [hbodies, List.append_nil]⟩
  members := by
    intro place e' he'
    refine ⟨e', ?_, List.prefix_refl _⟩
    rw [h, List.getElem?_append_left (List.getElem?_eq_some_iff.1 he').1]
    exact he'

end Extends

end Outline

namespace Reader

variable {o : Outline}

theorem type_extends (outer : Option Nat) (m : Modifiers) (kind : TypeDecl.Kind)
    (tokens : List Token) : o.Extends (type o outer m kind tokens).1 := by
  unfold type
  split
  · exact .refl o
  · split
    · dsimp only
      split
      · exact .concat rfl rfl
      · split
        · exact .concat rfl rfl
        · exact .concat rfl rfl
    · exact .refl o

theorem declarators_extends (owner : Nat) (field : Token → MemberDecl) (tokens : List Token)
    : o.Extends (declarators owner field o tokens).1 :=
  declarators_keep (fun _ body h => h.trans (.addBody _ body))
    (fun _ owner m h => h.trans (.addMember _ owner m)) owner field (.refl o) tokens

theorem member_extends (owner : Nat) (m : Modifiers) (tokens : List Token)
    : o.Extends (member o owner m tokens).1 :=
  member_keep (fun _ body h => h.trans (.addBody _ body))
    (fun _ owner m h => h.trans (.addMember _ owner m)) (.refl o) owner m tokens

theorem foldl_addBody_extends (owner : Nat) (insides : List (List Token))
    : o.Extends
        (insides.foldl (fun o inside => o.addBody { owner := owner, tokens := inside }) o) :=
  foldl_addBody_keep (fun _ body h => h.trans (.addBody _ body)) (.refl o) owner insides

theorem stepOutside_extends (t : Token) (rest : List Token)
    : o.Extends (stepOutside o t rest).1 := by
  unfold stepOutside
  split
  · exact .of_eq rfl rfl
  · split
    · exact .of_eq rfl rfl
    · dsimp only
      split
      · exact type_extends _ _ _ _
      · exact .refl o

theorem stepConstants_extends (owner : Nat) (outer : List OpenType) (t : Token)
    (rest : List Token) : o.Extends (stepConstants o owner outer t rest).1 := by
  unfold stepConstants
  split
  · exact .refl o
  · split
    · exact .refl o
    · split
      · exact .refl o
      · split
        · exact .refl o
        · split
          · exact (Outline.Extends.addMember o owner _).trans (foldl_addBody_extends _ _)
          · exact .refl o

theorem stepInside_extends (owner : Nat) (outer : List OpenType) (t : Token)
    (rest : List Token) : o.Extends (stepInside o owner outer t rest).1 := by
  unfold stepInside
  split
  · exact .refl o
  · split
    · exact .refl o
    · dsimp only
      split
      · exact .addBody o _
      · split
        · exact type_extends _ _ _ _
        · split
          · exact .refl o
          · exact member_extends _ _ _

theorem step_extends (enclosing : List OpenType) (t : Token) (rest : List Token)
    : o.Extends (step o enclosing t rest).1 := by
  unfold step
  split
  · exact stepOutside_extends t rest
  · exact stepConstants_extends _ _ t rest
  · exact stepInside_extends _ _ t rest

theorem outlineFrom_extends (enclosing : List OpenType) (tokens : List Token)
    : o.Extends (outlineFrom o enclosing tokens) := by
  fun_induction outlineFrom o enclosing tokens with
  | case1 => exact .refl _
  | case2 _ _ _ _ _ ih => exact (step_extends _ _ _).trans ih

theorem type_opened {outer : Option Nat} {m : Modifiers} {kind : TypeDecl.Kind}
    {tokens : List Token} {e : OpenType} (h : e ∈ (type o outer m kind tokens).2.1)
    : e.place < (type o outer m kind tokens).1.entries.length := by
  cases tokens with
  | nil => cases h
  | cons name rest =>
    by_cases hident : name.isIdent = true
    · rw [type, if_pos hident] at h ⊢
      dsimp only at h ⊢
      cases hrest : (typeHeader kind rest).rest with
      | nil =>
        rw [hrest] at h
        cases h
      | cons t after =>
        rw [hrest] at h
        dsimp only at h ⊢
        by_cases hbrace : t.isPunct "\x7b" = true
        · rw [if_pos hbrace, Option.mem_def, Option.some.injEq] at h
          rw [if_pos hbrace, ← h]
          simp
        · rw [if_neg hbrace] at h
          cases h
    · rw [type, if_neg hident] at h
      cases h

def Opens (o : Outline) (before after : List OpenType) : Prop :=
  ∀ e ∈ after, (∃ e' ∈ before, e.place = e'.place) ∨ e.place < o.entries.length

namespace Opens

variable {owner : Nat} {inConstants inConstants' : Bool} {outer : List OpenType}

theorem tail (o : Outline) (e : OpenType) : Opens o (e :: outer) outer :=
  fun e' he' => .inl ⟨e', List.mem_cons_of_mem _ he', rfl⟩

theorem same (o : Outline) (owner : Nat)
    : Opens o (⟨owner, inConstants⟩ :: outer) (⟨owner, inConstants'⟩ :: outer) := by
  intro e he
  rcases List.mem_cons.1 he with rfl | he
  · exact .inl ⟨_, List.mem_cons_self, rfl⟩
  · exact Opens.tail o _ e he

end Opens

theorem stepOutside_opens (t : Token) (rest : List Token)
    : Opens (stepOutside o t rest).1 [] (stepOutside o t rest).2.1 := by
  unfold stepOutside
  split
  · exact List.forall_mem_nil _
  · split
    · exact List.forall_mem_nil _
    · dsimp only
      split
      · intro e he
        exact .inr (type_opened (Option.mem_toList.1 he))
      · exact List.forall_mem_nil _

theorem stepConstants_opens (owner : Nat) (outer : List OpenType) (t : Token) (rest : List Token)
    : Opens (stepConstants o owner outer t rest).1 (⟨owner, true⟩ :: outer)
        (stepConstants o owner outer t rest).2.1 := by
  unfold stepConstants
  split
  · exact .same _ owner
  · split
    · exact .tail _ _
    · split
      · exact .same _ owner
      · split
        · exact .same _ owner
        · split
          · exact .same _ owner
          · exact .same _ owner

theorem stepInside_opens (owner : Nat) (outer : List OpenType) (t : Token) (rest : List Token)
    : Opens (stepInside o owner outer t rest).1 (⟨owner, false⟩ :: outer)
        (stepInside o owner outer t rest).2.1 := by
  unfold stepInside
  split
  · exact .tail _ _
  · split
    · exact .same _ owner
    · dsimp only
      split
      · exact .same _ owner
      · split
        · intro e he
          rcases List.mem_append.1 he with he | he
          · exact .inr (type_opened (Option.mem_toList.1 he))
          · exact Opens.same _ owner e he
        · split
          · exact .same _ owner
          · exact .same _ owner

theorem step_opens (enclosing : List OpenType) (t : Token) (rest : List Token)
    : Opens (step o enclosing t rest).1 enclosing (step o enclosing t rest).2.1 := by
  unfold step
  split
  · exact stepOutside_opens t rest
  · exact stepConstants_opens _ _ t rest
  · exact stepInside_opens _ _ t rest

theorem Reached.place_lt {tokens rest : List Token} {enclosing : List OpenType}
    (h : Reached tokens o enclosing rest) : ∀ e ∈ enclosing, e.place < o.entries.length := by
  induction h with
  | start => exact List.forall_mem_nil _
  | @step o enclosing t rest _ ih =>
    intro e he
    rcases step_opens enclosing t rest e he with ⟨e', he', hplace⟩ | hplace
    · rw [hplace]
      exact (step_extends enclosing t rest).lt_length (ih e' he')
    · exact hplace

theorem Reached.extends_outline {tokens rest : List Token} {enclosing : List OpenType}
    (h : Reached tokens o enclosing rest) : o.Extends (outline tokens) := by
  rw [← h.outlineFrom_eq]
  exact outlineFrom_extends _ _

end Reader

end DeprecatedUse.Java
