import DeprecatedUse.Proofs.Java.Extension
import DeprecatedUse.Proofs.Java.MemberNames
import DeprecatedUse.Proofs.Java.TypeNames

/-!
This module contains the table of the types of a text. Each type stands behind the type that
encloses it and continues its full name, or begins with the package. So every type can be named: by
the names from the outermost enclosing type on, and by its simple name unless another type of the
same name takes it.
-/

namespace DeprecatedUse.Java

structure TypeHead where
  name : String
  qualifiedName : String
  outer : Option Nat
  span : Span
deriving DecidableEq

def TypeDecl.head (d : TypeDecl) : TypeHead :=
  ⟨d.name, d.qualifiedName, d.outer, d.span⟩

namespace Outline

def heads (o : Outline) : List TypeHead :=
  o.entries.map (·.decl.head)

@[simp]
theorem length_heads (o : Outline) : o.heads.length = o.entries.length :=
  List.length_map _

theorem heads_declarations (o : Outline) : o.declarations.types.map TypeDecl.head = o.heads :=
  List.map_map

theorem qualifiedName_eq (o : Outline) (outer : Option Nat) (name : String)
    : o.qualifiedName outer name
        =
      match outer.bind (o.heads[·]?) with
      | some head => head.qualifiedName ++ "." ++ name
      | none => qualify (o.package.getD "") name := by
  have hhead : outer.bind (o.heads[·]?)
      = (outer.bind (o.entries[·]?)).map (·.decl.head) := by
    rw [Option.map_bind]
    congr 1
    funext place
    exact List.getElem?_map
  rw [qualifiedName, hhead]
  cases outer.bind (o.entries[·]?) <;> rfl

theorem heads_addMember (o : Outline) (owner : Nat) (m : MemberDecl)
    : (o.addMember owner m).heads = o.heads := by
  apply List.ext_getElem?
  intro place
  simp only [heads, addMember, List.getElem?_map, List.getElem?_modify]
  cases o.entries[place]? with
  | none => rfl
  | some e =>
    simp only [Option.map_some]
    split <;> rfl

structure SameTypes (o o' : Outline) : Prop where
  package : o'.package = o.package
  heads : o'.heads = o.heads

namespace SameTypes

variable {o o' : Outline}

theorem refl (o : Outline) : o.SameTypes o :=
  ⟨rfl, rfl⟩

theorem addBody (h : o.SameTypes o') (body : Body) : o.SameTypes (o'.addBody body) :=
  ⟨h.package, h.heads⟩

theorem addMember (h : o.SameTypes o') (owner : Nat) (m : MemberDecl)
    : o.SameTypes (o'.addMember owner m) :=
  ⟨h.package, (heads_addMember o' owner m).trans h.heads⟩

end SameTypes

end Outline

namespace Reader

/-! What a step declares. -/

def newHead (o : Outline) (enclosing : List OpenType) (name : Token) : TypeHead :=
  ⟨name.text, o.qualifiedName (enclosing.head?.map OpenType.place) name.text,
    enclosing.head?.map OpenType.place, name.span⟩

structure DeclaresType (o : Outline) (enclosing : List OpenType) (tokens : List Token)
    (o' : Outline) (name : Token) : Prop where
  mem : name ∈ tokens
  isIdent : name.isIdent = true
  package : o'.package = o.package
  heads : o'.heads = o.heads ++ [newHead o enclosing name]

/--
What a step from `o` and the tokens `t :: rest` inside `enclosing` can do to the types, where `left`
are the tokens behind the step.
-/
inductive Declares (o : Outline) (enclosing : List OpenType) (t : Token) (rest : List Token)
    (o' : Outline) (left : List Token) : Prop where
  | nothing (h : o.SameTypes o')
  | package (henclosing : enclosing = []) (ht : t.isWord "package" = true)
      (hheads : o'.heads = o.heads) (hpackage : o'.package = some (dottedName "" rest).1)
      (hleft : left = (dottedName "" rest).2)
  | type {name : Token} (h : DeclaresType o enclosing (t :: rest) o' name)

variable {o : Outline}

theorem type_declares (enclosing : List OpenType) {t : Token} {rest tokens : List Token}
    (htokens : tokens ⊆ t :: rest) (m : Modifiers) (kind : TypeDecl.Kind) (left : List Token)
    : Declares o enclosing t rest
        (type o (enclosing.head?.map OpenType.place) m kind tokens).1 left := by
  unfold type
  split
  · exact .nothing ⟨rfl, rfl⟩
  · next name after =>
    split
    · next hident =>
      have hadds : ∀ o' : Outline, o'.package = o.package →
          o'.heads = o.heads ++ [newHead o enclosing name] → Declares o enclosing t rest o' left :=
        fun o' hpackage hheads => .type ⟨htokens List.mem_cons_self, hident, hpackage, hheads⟩
      dsimp only
      split
      · exact hadds _ rfl (by simp [Outline.heads, TypeDecl.head, newHead])
      · split
        · exact hadds _ rfl (by simp [Outline.heads, TypeDecl.head, newHead])
        · exact hadds _ rfl (by simp [Outline.heads, TypeDecl.head, newHead])
    · exact .nothing ⟨rfl, rfl⟩

theorem stepOutside_declares (t : Token) (rest : List Token)
    : Declares o [] t rest (stepOutside o t rest).1 (stepOutside o t rest).2.2 := by
  unfold stepOutside
  split
  · next ht => exact .package rfl ht rfl rfl rfl
  · split
    · exact .nothing ⟨rfl, rfl⟩
    · have hmodifiers := (modifiers_suffix {} (t :: rest)).subset
      dsimp only
      split
      · next kind after hstart =>
        exact type_declares [] (List.Subset.trans (typeStart?_suffix hstart).subset hmodifiers) _
          kind _
      · exact .nothing (.refl o)

theorem stepConstants_sameTypes (owner : Nat) (outer : List OpenType) (t : Token)
    (rest : List Token) : o.SameTypes (stepConstants o owner outer t rest).1 := by
  unfold stepConstants
  split
  · exact .refl o
  · split
    · exact .refl o
    · split
      · exact .refl o
      · split
        · exact .refl o
        · split
          · exact foldl_addBody_keep (fun _ body h => h.addBody body)
              ((Outline.SameTypes.refl o).addMember owner _) owner _
          · exact .refl o

theorem stepInside_declares (owner : Nat) (outer : List OpenType) (t : Token) (rest : List Token)
    : Declares o (⟨owner, false⟩ :: outer) t rest (stepInside o owner outer t rest).1
        (stepInside o owner outer t rest).2.2 := by
  have hmodifiers := (modifiers_suffix {} (t :: rest)).subset
  unfold stepInside
  split
  · exact .nothing (.refl o)
  · split
    · exact .nothing (.refl o)
    · dsimp only
      split
      · exact .nothing ((Outline.SameTypes.refl o).addBody _)
      · split
        · next kind after hstart =>
          exact type_declares (⟨owner, false⟩ :: outer)
            (List.Subset.trans (typeStart?_suffix hstart).subset hmodifiers) _ kind _
        · split
          · exact .nothing (.refl o)
          · exact .nothing (member_keep (fun _ body h => h.addBody body)
              (fun _ owner m h => h.addMember owner m) (.refl o) owner _ _)

theorem step_declares (o : Outline) (enclosing : List OpenType) (t : Token) (rest : List Token)
    : Declares o enclosing t rest (step o enclosing t rest).1 (step o enclosing t rest).2.2 := by
  unfold step
  split
  · exact stepOutside_declares t rest
  · exact .nothing (stepConstants_sameTypes _ _ t rest)
  · exact stepInside_declares _ _ t rest

/-! Where a type is declared. -/

theorem Reached.exists_declares {tokens rest : List Token} {enclosing : List OpenType}
    (h : Reached tokens o enclosing rest) {place : Nat} {head : TypeHead}
    (hhead : o.heads[place]? = some head)
    : ∃ o₀ enclosing₀ t rest₀ name, Reached tokens o₀ enclosing₀ (t :: rest₀)
        ∧ o₀.heads = o.heads.take place
        ∧ DeclaresType o₀ enclosing₀ (t :: rest₀) (Reader.step o₀ enclosing₀ t rest₀).1 name
        ∧ head = newHead o₀ enclosing₀ name := by
  induction h with
  | start => cases hhead
  | @step o enclosing t rest h ih =>
    cases step_declares o enclosing t rest with
    | nothing hsame =>
      rw [hsame.heads] at hhead ⊢
      exact ih hhead
    | package _ _ hheads =>
      rw [hheads] at hhead ⊢
      exact ih hhead
    | @type name htype =>
      rw [htype.heads] at hhead ⊢
      rcases Nat.lt_or_ge place o.heads.length with hplace | hplace
      · rw [List.getElem?_append_left hplace] at hhead
        rw [List.take_append_of_le_length hplace.le]
        exact ih hhead
      · have hlt := (List.getElem?_eq_some_iff.1 hhead).1
        rw [List.length_append, List.length_singleton] at hlt
        obtain rfl : place = o.heads.length := by omega
        rw [List.getElem?_concat_length, Option.some.injEq] at hhead
        exact ⟨o, enclosing, t, rest, name, h, List.take_left.symm, htype, hhead.symm⟩

theorem Reached.exists_around {tokens rest : List Token} {enclosing : List OpenType}
    (h : Reached tokens o enclosing rest) {place outer : Nat} {head : TypeHead}
    (hhead : o.heads[place]? = some head) (houter : head.outer = some outer)
    : outer < place ∧ ∃ around, o.heads[outer]? = some around
        ∧ head.qualifiedName = around.qualifiedName ++ "." ++ head.name := by
  obtain ⟨o₀, enclosing₀, t, rest₀, name, hreached, hbefore, -, rfl⟩ := h.exists_declares hhead
  obtain ⟨e, he, rfl⟩ := Option.map_eq_some_iff.1 houter
  have hlt := hreached.place_lt e (List.mem_of_head? he)
  rw [← Outline.length_heads] at hlt
  have haround := List.getElem?_eq_getElem hlt
  have hplace : e.place < place := by
    rw [hbefore, List.length_take] at hlt
    omega
  refine ⟨hplace, o₀.heads[e.place], ?_, ?_⟩
  · rw [← haround, hbefore, List.getElem?_take_of_lt hplace]
  · change o₀.qualifiedName (enclosing₀.head?.map OpenType.place) name.text = _
    rw [he, Option.map_some, Outline.qualifiedName_eq, Option.bind_some, haround]
    rfl

/-! Where the package is named. -/

/--
Wherever the reader of a text meets a package clause it has read no type yet.
-/
def PackageFirst (tokens : List Token) : Prop :=
  ∀ (o : Outline) (t : Token) (rest : List Token), Reached tokens o [] (t :: rest) →
    t.isWord "package" = true → o.entries = []

variable {tokens rest : List Token} {enclosing : List OpenType}

theorem Reached.entries_eq_nil_or_suffix_tail (h : Reached tokens o enclosing rest)
    : o.entries = [] ∨ rest <:+ tokens.tail := by
  cases h with
  | start => exact .inl rfl
  | step h =>
    obtain ⟨taken, rfl⟩ := h.suffix
    refine .inr ((leftOver_suffix (step_suffix _ _ _ _)).trans ?_)
    cases taken with
    | nil => exact List.suffix_refl _
    | cons first taken => exact (List.suffix_cons _ _).trans (List.suffix_append taken _)

theorem packageFirst_of_tail (h : tokens.tail.all fun t => !t.isWord "package")
    : PackageFirst tokens := by
  intro o t rest hreached ht
  refine hreached.entries_eq_nil_or_suffix_tail.resolve_right fun hsuffix => ?_
  have hword := List.all_eq_true.1 h t (hsuffix.subset List.mem_cons_self)
  rw [ht] at hword
  cases hword

theorem Reached.package_eq (hfirst : PackageFirst tokens) (h : Reached tokens o enclosing rest)
    (hentries : o.entries ≠ []) : (outline tokens).package = o.package := by
  rw [← h.outlineFrom_eq]
  fun_induction outlineFrom o enclosing rest with
  | case1 => rfl
  | case2 o enclosing t rest next ih =>
    have hlt := List.length_pos_iff.2 hentries
    have hnext := ih h.step (List.length_pos_iff.1 ((step_extends enclosing t rest).lt_length hlt))
    rw [hnext]
    cases step_declares o enclosing t rest with
    | nothing h => exact h.package
    | package henclosing ht =>
      subst henclosing
      exact absurd (hfirst o t rest h ht) hentries
    | type h => exact h.package

end Reader

/-! The table. -/

/--
The types of a package: a type inside another one stands behind it and continues its full name.
-/
structure IsTable (package : String) (heads : List TypeHead) : Prop where
  name : ∀ head ∈ heads, IsName head.name
  top : ∀ head ∈ heads, head.outer = none → head.qualifiedName = qualify package head.name
  inside : ∀ (place : Nat) (head : TypeHead) (outer : Nat), heads[place]? = some head →
    head.outer = some outer → outer < place ∧ ∃ around, heads[outer]? = some around
      ∧ head.qualifiedName = around.qualifiedName ++ "." ++ head.name

theorem isTable_outline {text : String} {tokens : List Token} (htokens : tokenize text = .ok tokens)
    (hfirst : Reader.PackageFirst tokens)
    : IsTable ((outline tokens).package.getD "") (outline tokens).heads := by
  obtain ⟨enclosing, hreached⟩ := Reader.reached_outline tokens
  refine ⟨?_, ?_, fun place head outer => hreached.exists_around⟩
  · intro head hhead
    obtain ⟨place, hplace⟩ := List.mem_iff_getElem?.1 hhead
    obtain ⟨o, _, t, rest, name, h, -, htype, rfl⟩ := hreached.exists_declares hplace
    exact isName_of_mem_tokenize htokens (h.suffix.subset htype.mem) htype.isIdent
  · intro head hhead houter
    obtain ⟨place, hplace⟩ := List.mem_iff_getElem?.1 hhead
    obtain ⟨o, enclosing, t, rest, name, h, -, htype, rfl⟩ := hreached.exists_declares hplace
    have hentries : (Reader.step o enclosing t rest).1.entries ≠ [] := by
      intro hnil
      have hlength := congrArg List.length htype.heads
      rw [Outline.length_heads, hnil, List.length_append, List.length_singleton] at hlength
      cases hlength
    rw [h.step.package_eq hfirst hentries, htype.package]
    change o.qualifiedName (enclosing.head?.map Reader.OpenType.place) name.text = _
    change enclosing.head?.map Reader.OpenType.place = none at houter
    rw [houter]
    rfl

theorem TypeDecl.exists_around_of_heads {types : List TypeDecl}
    (h : ∀ (place : Nat) (head : TypeHead) (outer : Nat),
      (types.map TypeDecl.head)[place]? = some head → head.outer = some outer →
      outer < place ∧ ∃ around, (types.map TypeDecl.head)[outer]? = some around
        ∧ head.qualifiedName = around.qualifiedName ++ "." ++ head.name)
    {place outer : Nat} {type : TypeDecl} (htype : types[place]? = some type)
    (houter : type.outer = some outer)
    : outer < place ∧ ∃ around, types[outer]? = some around
        ∧ type.qualifiedName = around.qualifiedName ++ "." ++ type.name := by
  have hhead : (types.map TypeDecl.head)[place]? = some type.head := by
    rw [List.getElem?_map, htype, Option.map_some]
  obtain ⟨hlt, head, haround, hfull⟩ := h place type.head outer hhead houter
  rw [List.getElem?_map, Option.map_eq_some_iff] at haround
  obtain ⟨around, haround, rfl⟩ := haround
  exact ⟨hlt, around, haround, hfull⟩

/-! Full names. -/

theorem qualify_append (package name rest : String)
    : qualify package (name ++ "." ++ rest) = qualify package name ++ "." ++ rest := by
  unfold qualify
  split
  · rfl
  · simp only [String.append_assoc]

theorem qualify_right_injective (package : String) : Function.Injective (qualify package) := by
  intro name name' h
  unfold qualify at h
  split at h
  · exact h
  · exact String.append_right_inj _ |>.1 h

namespace Declarations

def typeNames (d : Declarations) : TypeNames :=
  TypeNames.of d.package d.imports (d.types.map fun t => (t.name, t.qualifiedName))

theorem typeNames_declarations (o : Outline) : o.declarations.typeNames = o.typeNames := by
  rw [typeNames, Outline.typeNames, Outline.declarations, List.map_map]
  rfl

/--
The name of the type at a place relative to the package: the names of the types around it, from the
outermost on, then its own.
-/
def dottedName (d : Declarations) (place : Nat) : String :=
  match d.types[place]? with
  | none => ""
  | some type =>
    match type.outer with
    | none => type.name
    | some outer =>
      if outer < place then dottedName d outer ++ "." ++ type.name else type.name
termination_by place

/--
The type that a simple name is for: the one that no other type encloses, if there is one with this
name, and otherwise the first.
-/
def named? (d : Declarations) (name : String) : Option TypeDecl :=
  (d.types.find? fun t => t.outer.isNone && t.name == name).or
    (d.types.find? fun t => t.name == name)

def Tabled (d : Declarations) : Prop :=
  IsTable (d.package.getD "") (d.types.map TypeDecl.head)

variable {d : Declarations}

theorem Tabled.isName (h : d.Tabled) {type : TypeDecl} (htype : type ∈ d.types)
    : IsName type.name :=
  h.name type.head (List.mem_map_of_mem htype)

theorem Tabled.qualifiedName_top (h : d.Tabled) {type : TypeDecl} (htype : type ∈ d.types)
    (houter : type.outer = none)
    : type.qualifiedName = qualify (d.package.getD "") type.name :=
  h.top type.head (List.mem_map_of_mem htype) houter

theorem Tabled.exists_around (h : d.Tabled) {place outer : Nat} {type : TypeDecl}
    (htype : d.types[place]? = some type) (houter : type.outer = some outer)
    : outer < place ∧ ∃ around, d.types[outer]? = some around
        ∧ type.qualifiedName = around.qualifiedName ++ "." ++ type.name :=
  TypeDecl.exists_around_of_heads h.inside htype houter

theorem Tabled.induction {P : Nat → TypeDecl → Prop} (h : d.Tabled)
    (top : ∀ place type, d.types[place]? = some type → type.outer = none → P place type)
    (inside : ∀ place type outer around, d.types[place]? = some type → type.outer = some outer →
      outer < place → type.qualifiedName = around.qualifiedName ++ "." ++ type.name →
      P outer around → P place type)
    {place : Nat} {type : TypeDecl} (htype : d.types[place]? = some type) : P place type := by
  induction place using Nat.strong_induction_on generalizing type with
  | _ place ih =>
    cases houter : type.outer with
    | none => exact top place type htype houter
    | some outer =>
      obtain ⟨hlt, around, haround, hfull⟩ := h.exists_around htype houter
      exact inside place type outer around htype houter hlt hfull (ih outer hlt haround)

theorem dottedName_top {place : Nat} {type : TypeDecl} (htype : d.types[place]? = some type)
    (houter : type.outer = none) : d.dottedName place = type.name := by
  rw [dottedName, htype]
  dsimp only
  rw [houter]

theorem dottedName_inside {place outer : Nat} {type : TypeDecl}
    (htype : d.types[place]? = some type) (houter : type.outer = some outer) (hlt : outer < place)
    : d.dottedName place = d.dottedName outer ++ "." ++ type.name := by
  rw [dottedName, htype]
  dsimp only
  rw [houter]
  dsimp only
  rw [if_pos hlt]

theorem Tabled.qualifiedName_eq (h : d.Tabled) {place : Nat} {type : TypeDecl}
    (htype : d.types[place]? = some type)
    : type.qualifiedName = qualify (d.package.getD "") (d.dottedName place) := by
  refine h.induction (P := fun place type =>
    type.qualifiedName = qualify (d.package.getD "") (d.dottedName place)) ?_ ?_ htype
  · intro place type htype houter
    rw [dottedName_top htype houter]
    exact h.qualifiedName_top (List.mem_of_getElem? htype) houter
  · intro place type outer around htype houter hlt hfull ih
    rw [dottedName_inside htype houter hlt, qualify_append, ← ih, hfull]

theorem Tabled.qualifiedName_eq_iff_top (h : d.Tabled) {type : TypeDecl} (htype : type ∈ d.types)
    {name : String} (hname : '.' ∉ name.toList)
    : type.qualifiedName = qualify (d.package.getD "") name
        ↔
      type.outer = none ∧ type.name = name := by
  constructor
  · intro hfull
    cases houter : type.outer with
    | none =>
      have htop := h.qualifiedName_top htype houter
      exact ⟨rfl, qualify_right_injective _ (htop.symm.trans hfull)⟩
    | some outer =>
      -- a name behind another one is not simple
      obtain ⟨place, hplace⟩ := List.mem_iff_getElem?.1 htype
      obtain ⟨hlt, -⟩ := h.exists_around hplace houter
      have hdotted := h.qualifiedName_eq hplace
      rw [hfull, dottedName_inside hplace houter hlt] at hdotted
      have hname' := qualify_right_injective _ hdotted
      exact absurd (by simp [hname']) hname
  · rintro ⟨houter, rfl⟩
    exact h.qualifiedName_top htype houter

theorem Tabled.resolve_dottedName (h : d.Tabled) {place : Nat} {type : TypeDecl}
    (htype : d.types[place]? = some type)
    : d.typeNames.resolve (d.dottedName place) = .qualified type.qualifiedName := by
  apply TypeNames.resolve_of_declared
  have hmem : type.qualifiedName
      ∈ (d.types.map fun t => (t.name, t.qualifiedName)).map Prod.snd := by
    rw [List.map_map]
    exact List.mem_map_of_mem (List.mem_of_getElem? htype)
  rw [h.qualifiedName_eq htype] at hmem ⊢
  rw [typeNames, TypeNames.lookup_declared, if_pos hmem]

theorem lookup_types (types : List TypeDecl) (name : String)
    : (types.map fun t => (t.name, t.qualifiedName)).lookup name
        =
      (types.find? fun t => t.name == name).map TypeDecl.qualifiedName := by
  induction types with
  | nil => rfl
  | cons type types ih =>
    rw [List.map_cons, TypeNames.lookup_cons_ite, ih]
    by_cases hname : type.name = name
    · rw [if_pos hname, List.find?_cons_of_pos (by simp [hname])]
      rfl
    · rw [if_neg hname, List.find?_cons_of_neg (by simp [hname])]

theorem Tabled.lookup_name (h : d.Tabled) {name : String} (hname : '.' ∉ name.toList)
    : d.typeNames.declared.lookup name = (d.named? name).map TypeDecl.qualifiedName := by
  rw [typeNames, TypeNames.lookup_declared, named?]
  have htop : qualify (d.package.getD "") name
        ∈ (d.types.map fun t => (t.name, t.qualifiedName)).map Prod.snd
      ↔ ∃ type ∈ d.types, (type.outer.isNone && type.name == name) = true := by
    rw [List.map_map, List.mem_map]
    refine exists_congr fun type => and_congr_right fun htype => ?_
    rw [Bool.and_eq_true, Option.isNone_iff_eq_none, beq_iff_eq,
      ← h.qualifiedName_eq_iff_top htype hname]
    rfl
  cases hfind : d.types.find? fun t => t.outer.isNone && t.name == name with
  | some type =>
    have htype := List.mem_of_find?_eq_some hfind
    have htop' := List.find?_some hfind
    rw [if_pos (htop.2 ⟨type, htype, htop'⟩), Option.some_or, Option.map_some]
    rw [Bool.and_eq_true, Option.isNone_iff_eq_none, beq_iff_eq] at htop'
    rw [(h.qualifiedName_eq_iff_top htype hname).2 htop']
  | none =>
    rw [if_neg, Option.none_or]
    · exact lookup_types d.types name
    · intro hmem
      obtain ⟨type, htype, hbool⟩ := htop.1 hmem
      exact List.find?_eq_none.1 hfind type htype hbool

theorem named?_name {name : String} {type : TypeDecl} (h : d.named? name = some type)
    : type.name = name := by
  rw [named?, Option.or_eq_some_iff] at h
  rcases h with h | ⟨-, h⟩
  · have htype := List.find?_some h
    rw [Bool.and_eq_true, beq_iff_eq] at htype
    exact htype.2
  · exact eq_of_beq (List.find?_some (p := fun t : TypeDecl => t.name == name) h)

theorem exists_named? {type : TypeDecl} (h : type ∈ d.types)
    : ∃ named, d.named? type.name = some named := by
  rw [← Option.isSome_iff_exists, named?, Option.isSome_or, Bool.or_eq_true]
  right
  rw [List.find?_isSome]
  exact ⟨type, h, beq_self_eq_true _⟩

end Declarations

namespace SourceUnit

variable {id : UnitId} {text : String} {u : SourceUnit} {tokens : List Token}

theorem tabled_of_parse (h : parse id text = .ok u) (htokens : tokenize text = .ok tokens)
    (hfirst : Reader.PackageFirst tokens) : u.declarations.Tabled := by
  rw [parse_of_tokenize id htokens, Except.ok.injEq] at h
  rw [← h]
  change IsTable ((outline tokens).package.getD "") ((outline tokens).declarations.types.map _)
  rw [Outline.heads_declarations]
  exact isTable_outline htokens hfirst

/--
Every type of a unit that begins with its package can be named. Its name relative to the package
stands for it. Its simple name stands for a type of this name: for the one that no other type
encloses, and if there is none for the first.
-/
theorem resolve_declared (h : parse id text = .ok u) (htokens : tokenize text = .ok tokens)
    (hfirst : Reader.PackageFirst tokens) {place : Nat} {type : TypeDecl}
    (htype : u.declarations.types[place]? = some type)
    : type.qualifiedName
          = qualify (u.declarations.package.getD "") (u.declarations.dottedName place)
        ∧ u.declarations.typeNames.resolve (u.declarations.dottedName place)
          = .qualified type.qualifiedName
        ∧ ∃ named, u.declarations.named? type.name = some named ∧ named.name = type.name
          ∧ u.declarations.typeNames.resolve type.name = .qualified named.qualifiedName := by
  have htable := tabled_of_parse h htokens hfirst
  have hmem := List.mem_of_getElem? htype
  obtain ⟨named, hnamed⟩ := Declarations.exists_named? hmem
  refine ⟨htable.qualifiedName_eq htype, htable.resolve_dottedName htype, named, hnamed,
    Declarations.named?_name hnamed, ?_⟩
  apply TypeNames.resolve_of_declared
  rw [htable.lookup_name (htable.isName hmem).2, hnamed, Option.map_some]

theorem resolve_declared_tabs
    : let text := "package p; import q.Tab; class B \x7b class Tab \x7b class A \x7b\x7d \x7d \x7d "
        ++ "class A \x7b class Tab \x7b\x7d \x7d class Tab \x7b\x7d"
      ∃ tokens u type, tokenize text = .ok tokens ∧ Reader.PackageFirst tokens
        ∧ parse "A.java" text = .ok u ∧ u.declarations.types[2]? = some type
        ∧ type.qualifiedName = "p.B.Tab.A"
        ∧ u.declarations.named? "A" = u.declarations.types[3]?
        ∧ u.declarations.named? "Tab" = u.declarations.types[5]?
        ∧ type.qualifiedName
          = qualify (u.declarations.package.getD "") (u.declarations.dottedName 2)
        ∧ u.declarations.typeNames.resolve (u.declarations.dottedName 2)
          = .qualified type.qualifiedName
        ∧ ∃ named, u.declarations.named? type.name = some named ∧ named.name = type.name
          ∧ u.declarations.typeNames.resolve type.name = .qualified named.qualifiedName := by
  intro text
  have hcheck : (tokenize text).toOption.any fun tokens =>
      let d := (ofTokens "A.java" text tokens).declarations
      (tokens.tail.all fun t => !t.isWord "package")
        && d.types[2]?.map TypeDecl.qualifiedName == some "p.B.Tab.A"
        && d.named? "A" == d.types[3]? && d.named? "Tab" == d.types[5]? := by
    decide +kernel
  obtain ⟨tokens, htokens, hcheck⟩ := exists_tokenize_ok hcheck
  simp only [Bool.and_eq_true, beq_iff_eq] at hcheck
  obtain ⟨⟨⟨htail, htype⟩, hA⟩, hTab⟩ := hcheck
  obtain ⟨type, htype, hfull⟩ := Option.map_eq_some_iff.1 htype
  have hfirst := Reader.packageFirst_of_tail htail
  have hparse := parse_of_tokenize "A.java" htokens
  exact ⟨tokens, _, type, htokens, hfirst, hparse, htype, hfull, hA, hTab,
    resolve_declared hparse htokens hfirst htype⟩

end SourceUnit

end DeprecatedUse.Java
