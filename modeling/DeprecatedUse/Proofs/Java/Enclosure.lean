import DeprecatedUse.Proofs.Java.Lexemes
import DeprecatedUse.Proofs.Java.Steps
import Mathlib.Data.List.Forall2

/-!
This module contains the invariant of the reader of declarations. As long as the reader keeps the
braces of a text, the types that it takes for open are those whose braces are open.
-/

namespace DeprecatedUse.Java

def bodyBrace? (tokens : List Token) (d : TypeDecl) : Option Token :=
  (Reader.typeHeader d.kind (tokens.dropWhile (·.span != d.span)).tail).rest.head?.filter
    (·.isPunct "\x7b")

namespace Outline

def HasBody (o : Outline) (tokens : List Token) (place : Nat) (b : Token) : Prop :=
  ∃ e, o.entries[place]? = some e ∧ bodyBrace? tokens e.decl = some b

/--
The name of a type stands in `before`, and the innermost brace around it is that of its outer type.
A type without an outer type stands in the braces of no type.
-/
def Placed (o : Outline) (tokens before : List Token) (d : TypeDecl) : Prop :=
  ∃ start t rest, start ++ t :: rest = before ∧ t.isIdent = true ∧ t.text = d.name
    ∧ t.span = d.span
    ∧ match d.outer with
      | some place => ∃ b, o.HasBody tokens place b ∧ (openBraces start).head? = some b
      | none => ∀ b, b ∈ openBraces start → ∀ place, ¬ o.HasBody tokens place b

end Outline

/--
The angle brackets of every header that the reader reads are balanced.
-/
def HeadersBalanced (tokens : List Token) : Prop :=
  ∀ {o : Outline} {enclosing : List Reader.OpenType} {rest start stop : List Token},
    Reader.Reached tokens o enclosing rest →
    Reader.headerOf? enclosing rest = some (start, stop) → Reader.AnglesBalanced start stop

instance (tokens : List Token) : Decidable (HeadersBalanced tokens) :=
  decidable_of_iff
    (Reader.everywhere (fun enclosing rest => decide (∀ header,
      header ∈ Reader.headerOf? enclosing rest → Reader.AnglesBalanced header.1 header.2)) {} []
      tokens = true) <| by
    rw [Reader.everywhere_iff]
    constructor
    · intro h o enclosing rest start stop hreached hheader
      exact of_decide_eq_true (h hreached) (start, stop) hheader
    · intro h o enclosing rest hreached
      exact decide_eq_true fun header hheader => h hreached hheader

/-! Bodies of types. -/

namespace Outline

variable {tokens : List Token} {o o' : Outline} {place : Nat} {b : Token}

theorem hasBody_congr (h : o'.entries = o.entries)
    : o'.HasBody tokens place b ↔ o.HasBody tokens place b := by
  unfold HasBody
  rw [h]

theorem hasBody_of_addsMembers {left : List Token} {owner : Nat}
    (h : Reader.AddsMembers left owner o o')
    : o'.HasBody tokens place b ↔ o.HasBody tokens place b := by
  obtain ⟨members, hentries, -⟩ := h
  unfold HasBody
  rw [hentries, List.getElem?_modify]
  constructor
  · rintro ⟨e', he', hb⟩
    obtain ⟨e, he, rfl⟩ := Option.map_eq_some_iff.1 he'
    refine ⟨e, he, ?_⟩
    split at hb
    · exact hb
    · exact hb
  · rintro ⟨e, he, hb⟩
    refine ⟨_, Option.map_eq_some_iff.2 ⟨e, he, rfl⟩, ?_⟩
    split
    · exact hb
    · exact hb

theorem Placed.mono {before before' : List Token} {d : TypeDecl} (h : o.Placed tokens before d)
    (hle : before <+: before')
    (hbody : ∀ b, b ∈ before → ∀ place, o'.HasBody tokens place b ↔ o.HasBody tokens place b)
    : o'.Placed tokens before' d := by
  obtain ⟨start, t, rest, rfl, hident, hname, hspan, houter⟩ := h
  obtain ⟨after, rfl⟩ := hle
  have hstart : ∀ b, b ∈ openBraces start → ∀ place,
      o'.HasBody tokens place b ↔ o.HasBody tokens place b :=
    fun b hb => hbody b (List.mem_append_left _ (mem_of_mem_openBraces hb))
  refine ⟨start, t, rest ++ after, by simp, hident, hname, hspan, ?_⟩
  cases hplace : d.outer with
  | none =>
    rw [hplace] at houter
    intro b hb place hbody
    exact houter b hb place ((hstart b hb place).1 hbody)
  | some place =>
    rw [hplace] at houter
    obtain ⟨b, hb, hhead⟩ := houter
    exact ⟨b, (hstart b (List.mem_of_head? hhead) place).2 hb, hhead⟩

theorem hasBody_concat {e : Entry} (h : o'.entries = o.entries ++ [e])
    : o'.HasBody tokens place b
        ↔
      o.HasBody tokens place b ∨ place = o.entries.length ∧ bodyBrace? tokens e.decl = some b := by
  unfold HasBody
  rw [h, List.getElem?_append]
  -- The old places are those of the old outline; the next one is that of the entry.
  split
  · next hlt =>
    constructor
    · exact .inl
    · rintro (hbody | ⟨rfl, -⟩)
      · exact hbody
      · exact absurd hlt (Nat.lt_irrefl _)
  · next hle =>
    have hnone : o.entries[place]? = none := by
      rw [List.getElem?_eq_none_iff]
      omega
    rw [hnone]
    constructor
    · rintro ⟨e', he', hb⟩
      rw [List.getElem?_singleton] at he'
      split at he'
      · next hzero =>
        cases he'
        exact .inr ⟨by omega, hb⟩
      · cases he'
    · rintro (⟨e', he', -⟩ | ⟨rfl, hb⟩)
      · cases he'
      · rw [Nat.sub_self]
        exact ⟨e, rfl, hb⟩

end Outline

theorem bodyBrace?_eq {before after : List Token} {name : Token} {d : TypeDecl}
    (horder : InOrder (before ++ name :: after)) (hspan : d.span = name.span)
    : bodyBrace? (before ++ name :: after) d
        =
      (Reader.typeHeader d.kind after).rest.head?.filter (·.isPunct "\x7b") := by
  unfold bodyBrace?
  rw [hspan, horder.dropWhile_span]
  rfl

theorem bodyBrace?_congr {tokens : List Token} {d d' : TypeDecl} (hkind : d'.kind = d.kind)
    (hspan : d'.span = d.span) : bodyBrace? tokens d' = bodyBrace? tokens d := by
  unfold bodyBrace?
  rw [hkind, hspan]

theorem Reader.recordMembers_components {kind : TypeDecl.Kind} {span : Span} {tokens : List Token}
    {m : MemberDecl} (h : m ∈ recordMembers span (typeHeader kind tokens).components)
    : kind = .recordType ∧ m.span = span := by
  unfold recordMembers at h
  rw [List.mem_flatMap] at h
  obtain ⟨component, hcomponent, hm⟩ := h
  refine ⟨?_, ?_⟩
  · cases hkind : decide (kind = .recordType) with
    | true => exact of_decide_eq_true hkind
    | false =>
      unfold typeHeader at hcomponent
      dsimp only at hcomponent
      rw [if_neg (of_decide_eq_false hkind)] at hcomponent
      have hnil : Parameter.readAll [] = [] := by decide +kernel
      rw [Option.getD_none, hnil] at hcomponent
      cases hcomponent
  · rw [List.mem_cons, List.mem_singleton] at hm
    rcases hm with rfl | rfl
    · rfl
    · rfl

/-! The invariant of the reader. -/

structure Aligned (tokens before : List Token) (o : Outline) (enclosing : List Reader.OpenType) :
    Prop where
  inside : ∃ own around, openBraces before = own ++ around
    ∧ List.Forall₂ (fun e b => o.HasBody tokens e.place b) enclosing own
    ∧ ∀ b, b ∈ around → ∀ place, ¬ o.HasBody tokens place b
  read : ∀ place b, o.HasBody tokens place b → b ∈ before
  distinct : ∀ place place' b, o.HasBody tokens place b → o.HasBody tokens place' b →
    place = place'
  outer : ∀ e, e ∈ o.entries → o.Placed tokens before e.decl
  member : ∀ e, e ∈ o.entries → ∀ m, m ∈ e.decl.members →
    (e.decl.kind = .recordType ∧ m.span = e.decl.span)
      ∨ ∃ start t rest, start ++ t :: rest = tokens ∧ t.isIdent = true ∧ t.text = m.name
        ∧ t.span = m.span
        ∧ ∃ b, bodyBrace? tokens e.decl = some b ∧ (openBraces start).head? = some b

namespace Aligned

variable {tokens before : List Token} {o o' : Outline} {enclosing : List Reader.OpenType}

theorem start (tokens : List Token) : Aligned tokens [] {} [] where
  inside := ⟨[], [], rfl, List.Forall₂.nil, fun b hb => nomatch hb⟩
  read place b h := by
    obtain ⟨e, he, -⟩ := h
    simp at he
  distinct place place' b h := by
    obtain ⟨e, he, -⟩ := h
    simp at he
  outer e he := nomatch he
  member e he := nomatch he

theorem passes (h : Aligned tokens before o enclosing) {taken : List Token} (htaken : Whole taken)
    : Aligned tokens (before ++ taken) o enclosing where
  inside := by
    rw [openBraces_append htaken]
    exact h.inside
  read place b hb := List.mem_append_left taken (h.read place b hb)
  distinct := h.distinct
  outer e he := (h.outer e he).mono (List.prefix_append before taken) fun _ _ _ => Iff.rfl
  member := h.member

theorem congr (h : Aligned tokens before o enclosing) (hentries : o'.entries = o.entries)
    : Aligned tokens before o' enclosing := by
  obtain ⟨inside, read, distinct, outer, member⟩ := h
  constructor
  all_goals
    simp only [Outline.Placed, Outline.hasBody_congr hentries, hentries]
    assumption

theorem members (h : Aligned tokens before o enclosing) {left : List Token}
    (htokens : before ++ left = tokens) {e e' : Reader.OpenType} {outer : List Reader.OpenType}
    (henclosing : enclosing = e :: outer) (hplace : e'.place = e.place)
    (hadds : Reader.AddsMembers left e.place o o') : Aligned tokens before o' (e' :: outer) := by
  subst henclosing
  obtain ⟨own, around, hbraces, hown, haround⟩ := h.inside
  obtain ⟨b, others, ⟨e₀, he₀, hb⟩, hothers, rfl⟩ := List.forall₂_cons_left_iff.1 hown
  have hbody : ∀ place b, o'.HasBody tokens place b ↔ o.HasBody tokens place b :=
    fun _ _ => Outline.hasBody_of_addsMembers hadds
  obtain ⟨new, hentries, hnew⟩ := hadds
  -- An entry differs from what it was by the new members only, and only at the place of the type.
  have hentry : ∀ e₁, e₁ ∈ o'.entries → ∃ e₂, e₂ ∈ o.entries
      ∧ (e₁ = e₂ ∨ e₂ = e₀
        ∧ e₁ = { e₂ with decl := { e₂.decl with members := e₂.decl.members ++ new } }) := by
    intro e₁ he₁
    rw [hentries, List.mem_iff_getElem?] at he₁
    obtain ⟨place, he₁⟩ := he₁
    rw [List.getElem?_modify] at he₁
    obtain ⟨e₂, he₂, rfl⟩ := Option.map_eq_some_iff.1 he₁
    refine ⟨e₂, List.mem_of_getElem? he₂, ?_⟩
    split
    · next heq =>
      rw [← heq, he₀, Option.some.injEq] at he₂
      exact .inr ⟨he₂.symm, rfl⟩
    · exact .inl rfl
  refine { inside := ?_, read := ?_, distinct := ?_, outer := ?_, member := ?_ }
  · refine ⟨b :: others, around, hbraces, ?_, ?_⟩
    · simp only [hbody]
      rw [List.forall₂_cons, hplace]
      exact ⟨⟨e₀, he₀, hb⟩, hothers⟩
    · simp only [hbody]
      exact haround
  · simp only [hbody]
    exact h.read
  · simp only [hbody]
    exact h.distinct
  · intro e₁ he₁
    obtain ⟨e₂, he₂, heq⟩ := hentry e₁ he₁
    have hplaced := (h.outer e₂ he₂).mono List.prefix_rfl fun b _ place => hbody place b
    rcases heq with rfl | ⟨-, rfl⟩
    · exact hplaced
    · exact hplaced
  · intro e₁ he₁ m hm
    obtain ⟨e₂, he₂, rfl | ⟨rfl, rfl⟩⟩ := hentry e₁ he₁
    · exact h.member e₁ he₂ m hm
    · rw [List.mem_append] at hm
      rcases hm with hm | hm
      · exact h.member e₂ he₂ m hm
      · obtain ⟨start, t, rest, rfl, hstart, hident, hname, hspan⟩ := hnew m hm
        refine .inr ⟨before ++ start, t, rest, by rw [← htokens]; simp, hident, hname, hspan, b, hb,
          ?_⟩
        rw [openBraces_append hstart, hbraces]
        rfl

theorem close {e : Reader.OpenType} {outer : List Reader.OpenType}
    (h : Aligned tokens before o (e :: outer)) {t : Token} {rest : List Token}
    (hnested : Nested (before ++ t :: rest)) (ht : t.isPunct "\x7d" = true)
    : Aligned tokens (before ++ [t]) o outer := by
  obtain ⟨own, around, hbraces, hown, haround⟩ := h.inside
  obtain ⟨b, others, -, hothers, rfl⟩ := List.forall₂_cons_left_iff.1 hown
  obtain ⟨b', hclosing⟩ := openBraces_closing hnested ht
  rw [hbraces, List.cons_append, List.cons.injEq] at hclosing
  refine ⟨⟨others, around, hclosing.2.symm, hothers, haround⟩, ?_, h.distinct, ?_, h.member⟩
  · intro place b hb
    exact List.mem_append_left [t] (h.read place b hb)
  · intro e he
    exact (h.outer e he).mono (List.prefix_append before [t]) fun _ _ _ => Iff.rfl

theorem skip (h : Aligned tokens before o []) {t : Token} {rest : List Token}
    (hnested : Nested (before ++ t :: rest)) (horder : InOrder (before ++ t :: rest))
    : Aligned tokens (before ++ [t]) o [] := by
  obtain ⟨own, around, hbraces, hown, haround⟩ := h.inside
  cases hown
  rw [List.nil_append] at hbraces
  refine ⟨⟨[], openBraces (before ++ [t]), rfl, List.Forall₂.nil, ?_⟩, ?_, h.distinct, ?_,
    h.member⟩
  · intro b hb place hbody
    rcases mem_openBraces_concat hnested hb with rfl | hb
    · exact horder.not_mem (h.read place b hbody)
    · rw [hbraces] at hb
      exact haround b hb place hbody
  · intro place b hb
    exact List.mem_append_left [t] (h.read place b hb)
  · intro e he
    exact (h.outer e he).mono (List.prefix_append before [t]) fun _ _ _ => Iff.rfl

theorem declare (h : Aligned tokens before o enclosing) {start behind : List Token} {name : Token}
    (hstart : Whole start) (hname : name.isIdent = true) {e : Outline.Entry}
    (hentries : o'.entries = o.entries ++ [e]) (htext : e.decl.name = name.text)
    (hspan : e.decl.span = name.span)
    (houter : e.decl.outer = enclosing.head?.map Reader.OpenType.place)
    (hmembers : ∀ m, m ∈ e.decl.members → e.decl.kind = .recordType ∧ m.span = e.decl.span)
    (hopen : openBraces (before ++ start ++ name :: behind)
      = (bodyBrace? tokens e.decl).toList ++ openBraces before)
    (hread : ∀ b, bodyBrace? tokens e.decl = some b → b ∈ behind ∧ b ∉ before)
    {opened : Option Reader.OpenType}
    (hopened : opened.map Reader.OpenType.place
      = (bodyBrace? tokens e.decl).map fun _ => o.entries.length)
    : Aligned tokens (before ++ start ++ name :: behind) o' (opened.toList ++ enclosing) := by
  obtain ⟨own, around, hbraces, hown, haround⟩ := h.inside
  have hbody : ∀ place b, o'.HasBody tokens place b
      ↔ o.HasBody tokens place b ∨ place = o.entries.length ∧ bodyBrace? tokens e.decl = some b :=
    fun _ _ => Outline.hasBody_concat hentries
  -- A brace that stands before the type is not that of the type.
  have hold : ∀ b, b ∈ before → ∀ place,
      o'.HasBody tokens place b ↔ o.HasBody tokens place b := by
    intro b hb place
    rw [hbody]
    constructor
    · rintro (hplace | ⟨-, hplace⟩)
      · exact hplace
      · exact absurd hb (hread b hplace).2
    · exact .inl
  have hopens : List.Forall₂ (fun e b => o'.HasBody tokens e.place b) enclosing own :=
    hown.imp fun e b hb => (hbody e.place b).2 (.inl hb)
  refine { inside := ?_, read := ?_, distinct := ?_, outer := ?_, member := ?_ }
  · refine ⟨(bodyBrace? tokens e.decl).toList ++ own, around, ?_, ?_, ?_⟩
    · rw [hopen, hbraces, List.append_assoc]
    · cases hbrace : bodyBrace? tokens e.decl with
      | none =>
        rw [hbrace, Option.map_none, Option.map_eq_none_iff] at hopened
        rw [hopened]
        exact hopens
      | some b =>
        rw [hbrace, Option.map_some] at hopened
        obtain ⟨e', rfl, hplace⟩ := Option.map_eq_some_iff.1 hopened
        exact List.Forall₂.cons ((hbody e'.place b).2 (.inr ⟨hplace, hbrace⟩)) hopens
    · intro b hb place
      rw [hold]
      · exact haround b hb place
      · apply mem_of_mem_openBraces
        rw [hbraces]
        exact List.mem_append_right own hb
  · intro place b hplace
    rcases (hbody place b).1 hplace with hplace | ⟨-, hplace⟩
    · simp [h.read place b hplace]
    · simp [(hread b hplace).1]
  · intro place place' b hplace hplace'
    rcases (hbody place b).1 hplace with hplace | ⟨hplace, hb⟩ <;>
      rcases (hbody place' b).1 hplace' with hplace' | ⟨hplace', hb'⟩
    · exact h.distinct place place' b hplace hplace'
    · exact absurd (h.read place b hplace) (hread b hb').2
    · exact absurd (h.read place' b hplace') (hread b hb).2
    · rw [hplace, hplace']
  · intro e' he'
    rw [hentries, List.mem_append, List.mem_singleton] at he'
    rcases he' with he' | rfl
    · apply (h.outer e' he').mono _ hold
      rw [List.append_assoc]
      exact List.prefix_append _ _
    · refine ⟨before ++ start, name, behind, rfl, hname, htext.symm, hspan.symm, ?_⟩
      rw [houter, openBraces_append hstart]
      cases enclosing with
      | nil =>
        cases hown
        intro b hb place
        rw [hold b (mem_of_mem_openBraces hb)]
        rw [hbraces, List.nil_append] at hb
        exact haround b hb place
      | cons e₀ outer =>
        obtain ⟨b, others, hb, -, rfl⟩ := List.forall₂_cons_left_iff.1 hown
        refine ⟨b, (hbody e₀.place b).2 (.inl hb), ?_⟩
        rw [hbraces]
        rfl
  · intro e' he' m hm
    rw [hentries, List.mem_append, List.mem_singleton] at he'
    rcases he' with he' | rfl
    · exact h.member e' he' m hm
    · exact .inl (hmembers m hm)

theorem declareClosed (h : Aligned tokens before o enclosing) {start behind : List Token}
    {name : Token} (hstart : Whole start) (hname : name.isIdent = true) (hbehind : Whole behind)
    {e : Outline.Entry} (hentries : o'.entries = o.entries ++ [e])
    (htext : e.decl.name = name.text) (hspan : e.decl.span = name.span)
    (houter : e.decl.outer = enclosing.head?.map Reader.OpenType.place)
    (hmembers : ∀ m, m ∈ e.decl.members → e.decl.kind = .recordType ∧ m.span = e.decl.span)
    (hbrace : bodyBrace? tokens e.decl = none)
    : Aligned tokens (before ++ start ++ name :: behind) o' enclosing := by
  have hopened : (none : Option Reader.OpenType).map Reader.OpenType.place
      = (bodyBrace? tokens e.decl).map fun _ => o.entries.length := by
    rw [hbrace]
    rfl
  refine h.declare hstart hname hentries htext hspan houter hmembers ?_ ?_ hopened
  · rw [hbrace, List.append_assoc, openBraces_append]
    · rfl
    · exact hstart.append (hbehind.cons (Token.isBrace_of_isIdent hname))
  · intro b hb
    rw [hbrace] at hb
    cases hb

theorem type {start after : List Token} {name : Token}
    (h : Aligned (before ++ start ++ name :: after) before o enclosing)
    (hnested : Nested (before ++ start ++ name :: after))
    (horder : InOrder (before ++ start ++ name :: after)) (hstart : Whole start)
    (hname : name.isIdent = true) (m : Modifiers) (kind : TypeDecl.Kind)
    (hheader : Passes after (Reader.typeHeader kind after).rest)
    : ∃ before', before' ++ (Reader.type o (enclosing.head?.map Reader.OpenType.place) m kind
          (name :: after)).2.2 = before ++ start ++ name :: after
        ∧ Aligned (before ++ start ++ name :: after) before'
          (Reader.type o (enclosing.head?.map Reader.OpenType.place) m kind (name :: after)).1
          ((Reader.type o (enclosing.head?.map Reader.OpenType.place) m kind
            (name :: after)).2.1.toList ++ enclosing) := by
  obtain ⟨behind, hbehind, hwhole⟩ := hheader
  have hbrace : ∀ d : TypeDecl, d.span = name.span → d.kind = kind →
      bodyBrace? (before ++ start ++ name :: after) d
        = (Reader.typeHeader kind after).rest.head?.filter (·.isPunct "\x7b") := by
    intro d hspan hkind
    rw [bodyBrace?_eq horder hspan, hkind]
  unfold Reader.type
  dsimp only
  rw [if_pos hname]
  -- The header ends the tokens, opens a body, or stands alone.
  cases hrest : (Reader.typeHeader kind after).rest with
  | nil =>
    rw [hrest, List.append_nil] at hbehind
    refine ⟨before ++ start ++ name :: behind, by rw [hbehind, List.append_nil], ?_⟩
    refine h.declareClosed hstart hname hwhole rfl rfl rfl rfl
      (fun m hm => Reader.recordMembers_components hm) ?_
    rw [hbrace _ rfl rfl, hrest]
    rfl
  | cons t rest =>
    rw [hrest] at hbehind
    dsimp only
    split
    · next ht =>
      have hsome : ∀ d : TypeDecl, d.span = name.span → d.kind = kind →
          bodyBrace? (before ++ start ++ name :: after) d = some t := by
        intro d hspan hkind
        rw [hbrace d hspan hkind, hrest, List.head?_cons, Option.filter_some, if_pos ht]
      have hsplit : before ++ start ++ name :: behind ++ t :: rest
          = before ++ start ++ name :: after := by
        rw [← hbehind]
        simp
      rw [← hsplit] at hnested horder
      refine ⟨before ++ start ++ name :: (behind ++ [t]), by rw [← hbehind]; simp, ?_⟩
      refine h.declare hstart hname rfl rfl rfl rfl
        (fun m hm => Reader.recordMembers_components hm) ?_ ?_ ?_
      · have hopening := openBraces_opening hnested ht
        rw [List.append_assoc, List.cons_append] at hopening
        rw [hsome _ rfl rfl, hopening, List.append_assoc, openBraces_append]
        · rfl
        · exact hstart.append (hwhole.cons (Token.isBrace_of_isIdent hname))
      · intro b hb
        rw [hsome _ rfl rfl, Option.some.injEq] at hb
        subst hb
        refine ⟨by simp, fun hmem => horder.not_mem ?_⟩
        simp [hmem]
      · rw [hsome _ rfl rfl]
        rfl
    · next ht =>
      refine ⟨before ++ start ++ name :: behind, by rw [← hbehind]; simp, ?_⟩
      refine h.declareClosed hstart hname hwhole rfl rfl rfl rfl
        (fun m hm => Reader.recordMembers_components hm) ?_
      rw [hbrace _ rfl rfl, hrest, List.head?_cons, Option.filter_some, if_neg ht]

theorem effect (h : Aligned tokens before o enclosing) (hnested : Nested tokens)
    (horder : InOrder tokens) {left rest : List Token} (htokens : before ++ left = tokens)
    {enclosing' : List Reader.OpenType}
    (heffect : Reader.Effect enclosing o left o' enclosing' rest)
    : ∃ before', before' ++ rest = tokens ∧ Aligned tokens before' o' enclosing' := by
  cases heffect with
  | pass hentries hrest =>
    obtain ⟨taken, rfl, htaken⟩ := hrest
    exact ⟨before ++ taken, by rw [← htokens]; simp, (h.congr hentries).passes htaken⟩
  | members henclosing hplace hmembers hrest =>
    obtain ⟨taken, rfl, htaken⟩ := hrest
    exact ⟨before ++ taken, by rw [← htokens]; simp,
      (h.members htokens henclosing hplace hmembers).passes htaken⟩
  | type htype hbefore hname m kind hheader =>
    subst htype
    rw [← List.append_assoc] at htokens
    subst htokens
    exact h.type hnested horder hbefore hname m kind hheader
  | close henclosing htype ht =>
    subst henclosing htype htokens
    exact ⟨before ++ [_], by simp, h.close hnested ht⟩
  | skip henclosing htype =>
    subst henclosing htype htokens
    exact ⟨before ++ [_], by simp, h.skip hnested horder⟩

theorem of_reached (hnested : Nested tokens) (horder : InOrder tokens)
    (hheaders : HeadersBalanced tokens)
    (hkeeps : ∀ {before rest : List Token} {o : Outline} {enclosing : List Reader.OpenType},
      Reader.Reached tokens o enclosing rest → before ++ rest = tokens →
      Aligned tokens before o enclosing → Reader.KeepsBraces enclosing rest)
    {rest : List Token} (h : Reader.Reached tokens o enclosing rest)
    : ∃ before, before ++ rest = tokens ∧ Aligned tokens before o enclosing := by
  induction h with
  | start => exact ⟨[], rfl, start tokens⟩
  | step h ih =>
    obtain ⟨before, htokens, haligned⟩ := ih
    have hcloses : Closes _ := closes_of_nested (htokens.symm ▸ hnested)
    exact haligned.effect hnested horder htokens (Reader.step_effect hcloses
      (fun _ _ => hheaders h) (hkeeps h htokens haligned))

end Aligned

end DeprecatedUse.Java
