import DeprecatedUse.Proofs.Java.Reading
import DeprecatedUse.Proofs.Java.Uses
import Mathlib

/-!
This module contains the names of the members that a text declares. Each is an identifier of the
text, so it is not empty and holds no dot.
-/

namespace DeprecatedUse.Java

def IsIdentOf (tokens : List Token) (name : String) : Prop :=
  ∃ t, t ∈ tokens ∧ t.isIdent = true ∧ t.text = name

theorem IsIdentOf.isName {text name : String} {tokens : List Token} (h : IsIdentOf tokens name)
    (htokens : tokenize text = .ok tokens) : IsName name := by
  obtain ⟨t, ht, hident, rfl⟩ := h
  exact isName_of_mem_tokenize htokens ht hident

def Outline.Named (tokens : List Token) (o : Outline) : Prop :=
  ∀ e, e ∈ o.entries → ∀ m, m ∈ e.decl.members → IsIdentOf tokens m.name

variable {tokens : List Token}

namespace Outline.Named

theorem of_eq {o o' : Outline} (h : o.Named tokens) (heq : o'.entries = o.entries)
    : o'.Named tokens := by
  intro e he
  rw [heq] at he
  exact h e he

theorem addMember {o : Outline} (h : o.Named tokens) (owner : Nat) {m : MemberDecl}
    (hm : IsIdentOf tokens m.name) : (o.addMember owner m).Named tokens := by
  intro e he
  rw [Outline.addMember] at he
  dsimp only at he
  obtain ⟨place, hplace⟩ := List.mem_iff_getElem?.1 he
  rw [List.getElem?_modify] at hplace
  obtain ⟨before, hbefore, heq⟩ := Option.map_eq_some_iff.1 hplace
  have hmem : before ∈ o.entries := List.mem_iff_getElem?.2 ⟨place, hbefore⟩
  split at heq
  · subst heq
    intro member hmember
    obtain hmember | hmember := List.mem_append.1 hmember
    · exact h before hmem member hmember
    · rw [List.mem_singleton.1 hmember]
      exact hm
  · subst heq
    exact h _ hmem

theorem concat {o o' : Outline} (h : o.Named tokens) {e : Outline.Entry}
    (heq : o'.entries = o.entries ++ [e]) (he : ∀ m, m ∈ e.decl.members → IsIdentOf tokens m.name)
    : o'.Named tokens := by
  intro e' he'
  rw [heq] at he'
  obtain he' | he' := List.mem_append.1 he'
  · exact h e' he'
  · rw [List.mem_singleton.1 he']
    exact he

end Outline.Named

/-! Parameters. -/

namespace Parameter

theorem dropAnnotations_suffix (tokens : List Token) : dropAnnotations tokens <:+ tokens := by
  fun_induction dropAnnotations tokens with
  | case1 => exact List.suffix_refl _
  | case2 t rest _ ih =>
    exact (((ih.trans (Bracket.group?_suffix _ _)).trans (dropDotted_suffix _)).trans
      (List.tail_suffix rest)).trans (List.suffix_cons t rest)
  | case3 => exact List.suffix_refl _

theorem mem_of_mem_cut {depth : Int} {tokens part : List Token} (h : part ∈ cut depth tokens)
    : part ⊆ tokens := by
  induction tokens generalizing depth part with
  | nil =>
    rw [cut, List.mem_singleton] at h
    subst h
    exact List.nil_subset _
  | cons t rest ih =>
    rw [cut] at h
    split at h
    · obtain rfl | h := List.mem_cons.1 h
      · exact List.nil_subset _
      · exact List.subset_cons_of_subset t (ih h)
    · split at h
      · rw [List.mem_singleton.1 h]
        exact List.cons_subset_cons t (List.nil_subset rest)
      · next first parts hcut =>
        obtain rfl | h := List.mem_cons.1 h
        · exact List.cons_subset_cons t (ih (hcut ▸ List.mem_cons_self))
        · exact List.subset_cons_of_subset t (ih (hcut ▸ List.mem_cons_of_mem _ h))

theorem isIdentOf_of_mem_readAll {inside : List Token} (h : inside ⊆ tokens) {p : Parameter}
    (hp : p ∈ readAll inside) : IsIdentOf tokens p.1 := by
  obtain ⟨part, hpart, hread⟩ := List.mem_filterMap.1 hp
  rw [read?] at hread
  split at hread
  · cases hread
  · next name hname =>
    split at hread
    · next hident =>
      obtain ⟨type, -, rfl⟩ := Option.map_eq_some_iff.1 hread
      rw [Bool.and_eq_true] at hident
      refine ⟨name, h (mem_of_mem_cut hpart ?_), hident.1, rfl⟩
      exact (dropAnnotations_suffix part).subset (List.mem_of_mem_getLast? hname)
    · cases hread

end Parameter

/-! Declarations. -/

namespace Reader

theorem isIdentOf_of_mem_recordMembers {span : Span} {components : List Parameter}
    (h : ∀ p, p ∈ components → IsIdentOf tokens p.1) {m : MemberDecl}
    (hm : m ∈ recordMembers span components) : IsIdentOf tokens m.name := by
  obtain ⟨p, hp, hm⟩ := List.mem_flatMap.1 hm
  rw [List.mem_cons, List.mem_singleton] at hm
  obtain rfl | rfl := hm <;> exact h p hp

variable {o : Outline} {left : List Token}

theorem named_type (ho : o.Named tokens) (h : left ⊆ tokens) (outer : Option Nat) (m : Modifiers)
    (kind : TypeDecl.Kind) : (type o outer m kind left).1.Named tokens := by
  cases left with
  | nil => exact ho
  | cons name rest =>
    have hcomponents : ∀ p, p ∈ (typeHeader kind rest).components → IsIdentOf tokens p.1 := by
      intro p hp
      rw [typeHeader] at hp
      refine Parameter.isIdentOf_of_mem_readAll (fun t ht => h ?_) hp
      split at ht
      · cases hgroup : (Bracket.round.group? (Bracket.angle.group? rest).2).1 with
        | none =>
          rw [hgroup] at ht
          cases ht
        | some inner =>
          rw [hgroup, Option.getD_some] at ht
          have hinner := (Bracket.group?_isInfix hgroup).subset ht
          exact List.mem_cons_of_mem name ((Bracket.group?_suffix _ rest).subset hinner)
      · cases ht
    rw [type]
    -- Whatever follows the header, the members so far are its components.
    split
    · dsimp only
      split
      · exact ho.concat rfl fun _ => isIdentOf_of_mem_recordMembers hcomponents
      · split
        · exact ho.concat rfl fun _ => isIdentOf_of_mem_recordMembers hcomponents
        · exact ho.concat rfl fun _ => isIdentOf_of_mem_recordMembers hcomponents
    · exact ho

theorem named_declarators (ho : o.Named tokens) (h : left ⊆ tokens) (owner : Nat)
    {field : Token → MemberDecl} (hfield : ∀ t, (field t).name = t.text)
    : (declarators owner field o left).1.Named tokens := by
  fun_induction declarators owner field o left with
  | case1 => exact ho
  | case2 o t rest _ initializer _ ih =>
    refine ih (ho.of_eq rfl) (List.Subset.trans ?_ h)
    exact ((splitExpression_suffix 0 rest).trans (List.suffix_cons t rest)).subset
  | case3 => exact ho
  | case4 o t _ _ name more hident ih =>
    refine ih (ho.addMember owner ?_) (List.Subset.trans ?_ h)
    · rw [hfield]
      exact ⟨name, h (by simp), hident, rfl⟩
    · exact (((List.dropWhile_suffix _).trans (List.suffix_cons name more)).trans
        (List.suffix_cons t _)).subset
  | case5 o t _ _ name more _ ih =>
    refine ih ho (List.Subset.trans ?_ h)
    exact ((List.dropWhile_suffix _).trans (List.suffix_cons _ _)).subset
  | case6 => exact ho
  | case7 => exact ho

theorem named_fields (ho : o.Named tokens) {head rest : List Token} {mark : Token}
    (hhead : head ⊆ tokens) (h : mark :: rest ⊆ tokens) (owner : Nat) (m : Modifiers)
    : (fields o owner m head mark rest).1.Named tokens := by
  rw [fields]
  split
  · exact ho
  · exact ho
  · next type name _ hlast =>
    obtain ⟨hident, after, rfl⟩ := lastIdent?_some hlast
    exact named_declarators (ho.addMember owner ⟨name, hhead (by simp), hident, rfl⟩) h owner
      fun t => rfl

theorem named_method (ho : o.Named tokens) {head : List Token} (hhead : head ⊆ tokens)
    (owner : Nat) (m : Modifiers) (rest : List Token)
    : (method o owner m head rest).1.Named tokens := by
  have hmember : ∀ o' : Outline, o'.Named tokens → ∀ name, head.getLast? = some name →
      name.isIdent = true → ∀ member : MemberDecl, member.name = name.text →
      (o'.addMember owner member).Named tokens := by
    intro o' ho' name hname hident member hmember
    refine ho'.addMember owner ?_
    rw [hmember]
    exact ⟨name, hhead (List.mem_of_mem_getLast? hname), hident, rfl⟩
  rw [method]
  dsimp only
  cases (methodBody (Bracket.round.inside rest).2).1 with
  | none =>
    dsimp only
    split
    · exact ho
    · next name hname =>
      split
      · next hident => exact hmember _ ho name hname hident _ rfl
      · exact ho
  | some body =>
    have hbody : (o.addBody
        { owner := owner, parameters := Parameter.readAll (Bracket.round.inside rest).1,
          tokens := body }).Named tokens := ho.of_eq rfl
    dsimp only
    split
    · exact hbody
    · next name hname =>
      split
      · next hident => exact hmember _ hbody name hname hident _ rfl
      · exact hbody

theorem named_member (ho : o.Named tokens) (h : left ⊆ tokens) (owner : Nat) (m : Modifiers)
    : (member o owner m left).1.Named tokens := by
  have hgroup := (Bracket.group?_suffix Bracket.angle left).subset
  have hsplit := splitMember_append 0 (Bracket.angle.group? left).2
  rw [member]
  split
  next head rest hrest =>
  rw [hrest] at hsplit
  rw [← hsplit] at hgroup
  have hleft := List.Subset.trans hgroup h
  have hhead := List.Subset.trans (List.subset_append_left head rest) hleft
  have hrest := List.Subset.trans (List.subset_append_right head rest) hleft
  split
  · exact ho
  · split
    · exact ho
    · split
      · exact named_method ho hhead owner m _
      · split
        · exact ho.of_eq rfl
        · exact named_fields ho hhead hrest owner m

/-! Steps. -/

theorem named_stepOutside (ho : o.Named tokens) {t : Token} {rest : List Token}
    (h : t :: rest ⊆ tokens) : (stepOutside o t rest).1.Named tokens := by
  rw [stepOutside]
  split
  · exact ho.of_eq rfl
  · split
    · exact ho.of_eq rfl
    · dsimp only
      have hrest := List.Subset.trans (modifiers_suffix {} (t :: rest)).subset h
      split
      · next kind after hstart =>
        exact named_type ho (List.Subset.trans (typeStart?_suffix hstart).subset hrest) none _ kind
      · exact ho

theorem named_stepConstants (ho : o.Named tokens) {t : Token} {rest : List Token}
    (h : t :: rest ⊆ tokens) (owner : Nat) (outer : List OpenType)
    : (stepConstants o owner outer t rest).1.Named tokens := by
  have hmodifiers := (modifiers_suffix {} (t :: rest)).subset
  rw [stepConstants]
  split
  · exact ho
  · split
    · exact ho
    · split
      · exact ho
      · split
        · exact ho
        · next m name after hafter =>
          rw [hafter] at hmodifiers
          split
          · next hident =>
            have hname := h (hmodifiers List.mem_cons_self)
            exact (ho.addMember owner ⟨name, hname, hident, rfl⟩).of_eq
              (foldl_addBody_entries _ _ _)
          · exact ho

theorem named_stepInside (ho : o.Named tokens) {t : Token} {rest : List Token}
    (h : t :: rest ⊆ tokens) (owner : Nat) (outer : List OpenType)
    : (stepInside o owner outer t rest).1.Named tokens := by
  have hrest := List.Subset.trans (modifiers_suffix {} (t :: rest)).subset h
  rw [stepInside]
  split
  · exact ho
  · split
    · exact ho
    · dsimp only
      split
      · exact ho.of_eq rfl
      · split
        · next kind after hstart =>
          exact named_type ho (List.Subset.trans (typeStart?_suffix hstart).subset hrest) _ _ kind
        · split
          · exact ho
          · exact named_member ho hrest owner _

theorem named_step (ho : o.Named tokens) {t : Token} {rest : List Token} (h : t :: rest ⊆ tokens)
    (enclosing : List OpenType) : (step o enclosing t rest).1.Named tokens := by
  unfold step
  split
  · exact named_stepOutside ho h
  · exact named_stepConstants ho h _ _
  · exact named_stepInside ho h _ _

theorem Reached.named {rest : List Token} {enclosing : List OpenType}
    (h : Reached tokens o enclosing rest) : o.Named tokens := by
  induction h with
  | start =>
    intro e he
    cases he
  | step h ih => exact named_step ih h.suffix.subset _

end Reader

namespace SourceUnit

variable {id : UnitId} {text : String} {u : SourceUnit}

theorem isIdentOf_declared (h : parse id text = .ok u) (htokens : tokenize text = .ok tokens)
    {decl : TypeDecl} (hdecl : decl ∈ u.declarations.types) {m : MemberDecl}
    (hm : m ∈ decl.members) : IsIdentOf tokens m.name := by
  rw [parse_of_tokenize id htokens, Except.ok.injEq] at h
  rw [← h] at hdecl
  obtain ⟨enclosing, hreached⟩ := Reader.reached_outline tokens
  obtain ⟨e, he, rfl⟩ := List.mem_map.1 hdecl
  exact hreached.named e he m hm

theorem isName_declared (h : parse id text = .ok u) {decl : TypeDecl}
    (hdecl : decl ∈ u.declarations.types) {m : MemberDecl} (hm : m ∈ decl.members)
    : IsName m.name := by
  obtain ⟨tokens, htokens, -⟩ := parse_ok h
  exact (isIdentOf_declared h htokens hdecl hm).isName htokens

end SourceUnit

end DeprecatedUse.Java
