import DeprecatedUse.Proofs.Index.Ambiguity
import DeprecatedUse.Proofs.Index.Provenance
import DeprecatedUse.Proofs.Index.Resolution
import DeprecatedUse.Proofs.Java.TypeTable
import DeprecatedUse.Proofs.Search.Generations

/-!
This module contains that the search for an inherited field inside a unit and the answer of the
index of this unit agree. The first goes from place to place and takes the first type that a
supertype may be, the second goes from full name to full name and takes no type where several may be
meant. In one unit no two types can be meant, so that the two go through the same graph: the first
part of a name that is looked for in packages is no name of a declared type, so all that a declared
type has behind its package lies behind it, and only one package fits.
-/

namespace DeprecatedUse

open DeprecatedUse.Java (Declarations SourceUnit Surroundings TypeDecl TypeNames)

/-! The parts of full names. -/

def segments (package : String) : List (List Char) :=
  if package = "" then [] else Text.splitOn '.' package.toList

theorem segments_injective : Function.Injective segments := by
  intro package package' h
  unfold segments at h
  split at h
  · next hempty =>
    split at h
    · next hempty' => rw [hempty, hempty']
    · exact absurd h.symm (Text.splitOn_ne_nil _ _)
  · split at h
    · exact absurd h (Text.splitOn_ne_nil _ _)
    · exact String.toList_inj.1 (Text.splitOn_injective h)

theorem splitOn_qualify (package name : String)
    : Text.splitOn '.' (qualify package name).toList
        =
      segments package ++ Text.splitOn '.' name.toList := by
  unfold qualify segments
  split
  · rfl
  · rw [String.toList_append, String.toList_append, List.append_assoc]
    exact Text.splitOn_append _ _

section Overlap

variable {α : Type} {front front' whole rest back back' : List α} {a : α}

theorem concat_prefix_of_append_eq (h : front ++ a :: rest = whole ++ back) (ha : a ∉ back)
    : front ++ [a] <+: whole := by
  rcases List.append_eq_append_iff.1 h with ⟨middle, hwhole, hrest⟩ | ⟨middle, -, hback⟩
  · cases middle with
    | nil =>
      rw [List.nil_append] at hrest
      exact absurd (hrest ▸ List.mem_cons_self) ha
    | cons b middle =>
      obtain ⟨rfl, -⟩ := List.cons.inj hrest
      exact ⟨middle, by rw [hwhole, List.append_assoc, List.singleton_append]⟩
  · exact absurd (hback ▸ List.mem_append_right middle List.mem_cons_self) ha

theorem eq_of_append_eq_append [DecidableEq α] (h : front ++ a :: rest = whole ++ back)
    (h' : front' ++ a :: rest = whole ++ back') (ha : a ∉ back) (ha' : a ∉ back')
    : front = front' := by
  have hcount : front.count a = front'.count a := by
    have hwhole := congrArg (List.count a) h
    have hwhole' := congrArg (List.count a) h'
    rw [List.count_append, List.count_append, List.count_eq_zero.2 ha] at hwhole
    rw [List.count_append, List.count_append, List.count_eq_zero.2 ha'] at hwhole'
    omega
  -- The longer one of two different fronts would have the `a` behind the shorter one.
  have hle : ∀ {front front' : List α}, front ++ [a] <+: front' ++ [a] →
      front.count a = front'.count a → front = front' := by
    intro front front' hprefix hcount
    rcases List.prefix_concat_iff.1 hprefix with heq | hprefix
    · exact List.append_cancel_right heq
    · have hlt := hprefix.sublist.count_le a
      rw [List.count_append, List.count_singleton_self] at hlt
      omega
  rcases List.prefix_or_prefix_of_prefix (concat_prefix_of_append_eq h ha)
    (concat_prefix_of_append_eq h' ha') with hprefix | hprefix
  · exact hle hprefix hcount
  · exact (hle hprefix hcount.symm).symm

end Overlap

namespace Java

namespace TypeNames

theorem resolve_eq_simple {names : TypeNames} {name found : String} {packages : List String}
    (h : names.resolve name = .simple found packages)
    : found = name ∧ packages = names.packages ∧ names.declared.lookup name = none
        ∧ ∃ head rest, Text.splitOn '.' name.toList = head.toList :: rest
          ∧ names.declared.lookup head = none := by
  rw [resolve] at h
  cases hdeclared : names.declared.lookup name with
  | some full => simp [hdeclared] at h
  | none =>
    rw [hdeclared] at h
    dsimp only at h
    split at h
    · next hsplit =>
      split at h
      · cases h
      · cases h
        exact ⟨rfl, rfl, rfl, name, [], Text.splitOn_of_not_mem (Text.splitFirst?_none hsplit),
          hdeclared⟩
    · next head rest hsplit =>
      obtain ⟨hhead, hname⟩ := Text.splitFirst?_some hsplit
      split at h
      · cases h
      · next hunknown =>
        split at h
        · cases h
        · cases h
          refine ⟨rfl, rfl, rfl, String.ofList head, Text.splitOn '.' rest, ?_, ?_⟩
          · rw [hname, String.toList_ofList, Text.splitOn_append_cons hhead]
          · exact (Option.or_eq_none_iff.1 hunknown).2

end TypeNames

namespace Declarations

variable {d : Declarations}

theorem not_isDeclared {name : String} (h : d.typeNames.declared.lookup name = none)
    {type : TypeDecl} (htype : type ∈ d.types)
    : type.name ≠ name ∧ type.qualifiedName ≠ qualify (d.package.getD "") name := by
  rw [typeNames, TypeNames.lookup_declared_eq_none_iff] at h
  have hmem := List.mem_map_of_mem (f := fun t : TypeDecl => (t.name, t.qualifiedName)) htype
  exact ⟨fun heq => h ⟨_, hmem, .inl heq⟩, fun heq => h ⟨_, hmem, .inr heq⟩⟩

theorem Tabled.mem_splitOn_dottedName (h : d.Tabled) {place : Nat} {type : TypeDecl}
    (htype : d.types[place]? = some type) {part : List Char}
    (hpart : part ∈ Text.splitOn '.' (d.dottedName place).toList)
    : ∃ named ∈ d.types, named.name.toList = part := by
  have hown : ∀ {type : TypeDecl}, type ∈ d.types → part ∈ Text.splitOn '.' type.name.toList →
      ∃ named ∈ d.types, named.name.toList = part := by
    intro type htype hpart
    rw [Text.splitOn_of_not_mem (h.isName htype).2, List.mem_singleton] at hpart
    exact ⟨type, htype, hpart.symm⟩
  refine h.induction (P := fun place _ => part ∈ Text.splitOn '.' (d.dottedName place).toList →
    ∃ named ∈ d.types, named.name.toList = part) ?_ ?_ htype hpart
  · intro place type htype houter hpart
    rw [dottedName_top htype houter] at hpart
    exact hown (List.mem_of_getElem? htype) hpart
  · intro place type outer around htype houter hlt _ ih hpart
    rw [dottedName_inside htype houter hlt, String.toList_append, String.toList_append,
      List.append_assoc] at hpart
    rcases List.mem_append.1 (Text.splitOn_append _ type.name.toList ▸ hpart) with hpart | hpart
    · exact ih hpart
    · exact hown (List.mem_of_getElem? htype) hpart

theorem Tabled.package_unique (h : d.Tabled) {name found : String} {packages : List String}
    (hresolve : d.typeNames.resolve name = .simple found packages) {package package' : String}
    {type type' : TypeDecl} (htype : type ∈ d.types) (htype' : type' ∈ d.types)
    (hfull : type.qualifiedName = qualify package name)
    (hfull' : type'.qualifiedName = qualify package' name) : package = package' := by
  obtain ⟨-, -, -, head, rest, hsplit, hhead⟩ := TypeNames.resolve_eq_simple hresolve
  -- The parts of a full name that stands in a package, and none behind the own package is `head`.
  have hparts : ∀ {package : String} {type : TypeDecl}, type ∈ d.types →
      type.qualifiedName = qualify package name →
      ∃ back, segments package ++ head.toList :: rest = segments (d.package.getD "") ++ back
        ∧ head.toList ∉ back := by
    intro package type htype hfull
    obtain ⟨place, hplace⟩ := List.mem_iff_getElem?.1 htype
    refine ⟨Text.splitOn '.' (d.dottedName place).toList, ?_, ?_⟩
    · rw [← hsplit, ← splitOn_qualify, ← splitOn_qualify, ← hfull, ← h.qualifiedName_eq hplace]
    · intro hmem
      obtain ⟨named, hnamed, hname⟩ := h.mem_splitOn_dottedName hplace hmem
      exact (not_isDeclared hhead hnamed).1 (String.toList_inj.1 hname)
  obtain ⟨back, heq, hback⟩ := hparts htype hfull
  obtain ⟨back', heq', hback'⟩ := hparts htype' hfull'
  exact segments_injective (eq_of_append_eq_append heq heq' hback hback')

end Declarations

def Surroundings.declaring? (env : Surroundings) (name : String) (place : Nat) : Option Nat :=
  foundNode? env.supertypes (env.ownField? name) (List.range env.types.length) [place]

theorem Surroundings.supertypes_subset_range (env : Surroundings) (place : Nat)
    : env.supertypes place ⊆ List.range env.types.length := by
  intro parent hparent
  rw [supertypes] at hparent
  split at hparent
  · cases hparent
  · obtain ⟨ref, -, hparent⟩ := List.mem_filterMap.1 hparent
    exact List.mem_range.2 (List.findIdx?_eq_some_iff_getElem.1 hparent).1

theorem Surroundings.inheritedField?_eq (env : Surroundings) (name : String) (place : Nat)
    : env.inheritedField? name place
        =
      (env.declaring? name place).bind (env.ownField? name) :=
  breadthFirst_eq_bind _ _

def SourceUnit.surroundings (u : SourceUnit) (owner : Nat) : Surroundings where
  names := u.declarations.typeNames
  types := u.declarations.types
  owner := owner

def Declarations.wildcards (d : Declarations) : List String :=
  (d.imports.filter fun i => !i.isStatic && i.wildcard).map Import.path

/--
The types of the unit form a table and have different full names, and no package is named twice
among those in which a name is looked for, apart from the own one.
-/
structure SourceUnit.Unambiguous (u : SourceUnit) : Prop where
  tabled : u.declarations.Tabled
  distinct : u.typeNames.Nodup
  wildcards : u.declarations.wildcards.Nodup
  implicit : implicitPackage ∉ u.declarations.wildcards

def Declarations.fullName (d : Declarations) (place : Nat) : String :=
  (d.types[place]?.map TypeDecl.qualifiedName).getD ""

end Java

namespace Index

def declaring? (index : Index) (member : String) (kind : MemberKind) (owner : String) :
    Option String :=
  foundNode? index.supertypes (index.ownMember? member kind) index.types.keys [owner]

theorem resolve_eq_declaring? {index : Index} {q : Query} {owner : String}
    (h : index.lookupType q.receiver = .ok owner)
    : index.resolve q
        =
      ((index.declaring? q.member q.kind owner).bind (index.ownMember? q.member q.kind)).getD
        (.error (.unknownMember owner q.member)) := by
  rw [resolve_eq h, breadthFirst_eq_bind]
  rfl

section Unit

variable {u : SourceUnit}

/-! What the index of one unit holds. -/

theorem find?_types_single (u : SourceUnit) (type : String)
    : (ofUnits [u]).types.find? type = u.entry? type := by
  have hnone : (({} : Index).remove u.id).types.find? type = none := rfl
  rw [ofUnits, List.foldl_cons, List.foldl_nil, find?_types_add, hnone, Option.or_none]

theorem containsType_single {type : String}
    : (ofUnits [u]).containsType type = true ↔ type ∈ u.typeNames := by
  rw [containsType, Table.contains, find?_types_single, SourceUnit.isSome_entry?]

theorem entry?_of_mem (hnodup : u.typeNames.Nodup) {decl : TypeDecl}
    (h : decl ∈ u.declarations.types)
    : u.entry? decl.qualifiedName = some (Entry.of u.id decl) := by
  have hfind : (u.declarations.types.reverse.find? fun d => d.qualifiedName = decl.qualifiedName)
      = some decl := by
    cases hfind : u.declarations.types.reverse.find? fun d =>
        d.qualifiedName = decl.qualifiedName with
    | none =>
      simpa using List.find?_eq_none.1 hfind decl (List.mem_reverse.2 h)
    | some found =>
      have hfound := List.mem_reverse.1 (List.mem_of_find?_eq_some hfind)
      have hname := List.find?_some hfind
      rw [decide_eq_true_eq] at hname
      rw [List.inj_on_of_nodup_map hnodup hfound h hname]
  rw [SourceUnit.entry?, hfind, Option.map_some]

theorem packages_typeNames (d : Declarations)
    : d.typeNames.packages
        =
      d.package.getD "" :: (d.wildcards
        ++ if d.package.getD "" = Java.implicitPackage then [] else [Java.implicitPackage]) := by
  rw [TypeNames.packages, Declarations.typeNames, TypeNames.package_of, TypeNames.wildcards_of]
  rfl

theorem containsType_own {name : String}
    (h : u.declarations.typeNames.declared.lookup name = none)
    : (ofUnits [u]).containsType (qualify (u.declarations.package.getD "") name) = false := by
  rw [Bool.eq_false_iff, Ne, containsType_single, SourceUnit.typeNames, List.mem_map]
  rintro ⟨type, htype, hfull⟩
  exact (Declarations.not_isDeclared h htype).2 hfull

theorem matching_single (h : u.Unambiguous) {name found : String} {packages : List String}
    (hresolve : u.declarations.typeNames.resolve name = .simple found packages)
    : (ofUnits [u]).matching found packages = []
        ∨ ∃ type, (ofUnits [u]).matching found packages = [type] := by
  obtain ⟨rfl, hpackages, hdeclared, -⟩ := TypeNames.resolve_eq_simple hresolve
  rw [packages_typeNames] at hpackages
  have hmem : ∀ {package : String}, (ofUnits [u]).containsType (qualify package found) = true →
      ∃ type ∈ u.declarations.types, type.qualifiedName = qualify package found := by
    intro package hcontains
    exact List.mem_map.1 (containsType_single.1 hcontains)
  cases hmatching : (ofUnits [u]).matching found packages with
  | nil => exact .inl rfl
  | cons first rest =>
    right
    have hfirst : first ∈ (ofUnits [u]).matching found packages := by
      rw [hmatching]
      exact List.mem_cons_self
    obtain ⟨⟨package, hpackage, rfl⟩, hcontains⟩ := mem_matching_iff.1 hfirst
    obtain ⟨type, htype, hfull⟩ := hmem hcontains
    have honly : (ofUnits [u]).IsOnly found packages (qualify package found) := by
      refine ⟨hfirst, fun other hother => ?_⟩
      obtain ⟨⟨package', -, rfl⟩, hcontains'⟩ := mem_matching_iff.1 hother
      obtain ⟨type', htype', hfull'⟩ := hmem hcontains'
      rw [h.tabled.package_unique hresolve htype' htype hfull' hfull]
    -- The own package is not the one, and every other package is named once.
    have hcount : packages.count package = 1 := by
      have hown : package ≠ u.declarations.package.getD "" := by
        rintro rfl
        rw [containsType_own hdeclared] at hcontains
        cases hcontains
      rw [hpackages] at hpackage ⊢
      rw [List.count_cons_of_ne hown.symm]
      refine List.count_eq_one_of_mem ?_ ((List.mem_cons.1 hpackage).resolve_left hown)
      rw [List.nodup_append]
      refine ⟨h.wildcards, ?_, ?_⟩
      · split <;> simp
      · rintro wildcard hwildcard _ himplicit' rfl
        split at himplicit'
        · cases himplicit'
        · rw [List.mem_singleton] at himplicit'
          exact h.implicit (himplicit' ▸ hwildcard)
    rw [← hmatching, honly.matching_eq, hcount]
    exact ⟨_, rfl⟩

theorem matching_single_eq (h : u.Unambiguous) {name found : String} {packages : List String}
    (hresolve : u.declarations.typeNames.resolve name = .simple found packages)
    : (ofUnits [u]).matching found packages
        =
      ((ofUnits [u]).lookupType (.simple found packages)).toOption.toList := by
  have hown : ∀ own, packages.head? = some own →
      (ofUnits [u]).containsType (qualify own found) = false := by
    intro own hhead
    obtain ⟨rfl, rfl, hdeclared, -⟩ := TypeNames.resolve_eq_simple hresolve
    rw [packages_typeNames, List.head?_cons, Option.some.injEq] at hhead
    rw [← hhead]
    exact containsType_own hdeclared
  rw [lookupType_simple hown]
  rcases matching_single h hresolve with hmatching | ⟨type, hmatching⟩
  · rw [hmatching]
    rfl
  · rw [hmatching]
    rfl

theorem map_find?_candidates {ref : TypeRef} {found : Option String}
    (h : ref.candidates.filter (ofUnits [u]).containsType = found.toList)
    : (u.declarations.types.find? fun t => ref.candidates.contains t.qualifiedName).map
        TypeDecl.qualifiedName
        =
      found := by
  have hmem : ∀ t ∈ u.declarations.types, ref.candidates.contains t.qualifiedName = true →
      found = some t.qualifiedName := by
    intro t ht hcandidate
    have hmem : t.qualifiedName ∈ found.toList := by
      rw [← h, List.mem_filter]
      exact ⟨List.contains_iff_mem.1 hcandidate, containsType_single.2 (List.mem_map_of_mem ht)⟩
    exact Option.mem_toList.1 hmem
  cases hfind : u.declarations.types.find? fun t => ref.candidates.contains t.qualifiedName with
  | some t =>
    have hcandidate := List.find?_some
      (p := fun t : TypeDecl => ref.candidates.contains t.qualifiedName) hfind
    exact (hmem t (List.mem_of_find?_eq_some hfind) hcandidate).symm
  | none =>
    cases found with
    | none => rfl
    | some type =>
      have htype : type ∈ ref.candidates.filter (ofUnits [u]).containsType := by
        rw [h]
        exact List.mem_singleton_self type
      obtain ⟨hcandidate, hcontains⟩ := List.mem_filter.1 htype
      obtain ⟨t, ht, rfl⟩ := List.mem_map.1 (containsType_single.1 hcontains)
      exact absurd (List.contains_iff_mem.2 hcandidate) (List.find?_eq_none.1 hfind t ht)

theorem lookupType_single (h : u.Unambiguous) (name : String)
    : let ref := u.declarations.typeNames.resolve name
      ((ofUnits [u]).lookupType ref).toOption
        =
      (u.declarations.types.find? fun t => ref.candidates.contains t.qualifiedName).map
        TypeDecl.qualifiedName := by
  intro ref
  symm
  apply map_find?_candidates
  cases href : ref with
  | qualified full =>
    rw [TypeRef.candidates, lookupType]
    by_cases hcontains : (ofUnits [u]).containsType full = true
    · rw [if_pos hcontains, List.filter_cons_of_pos hcontains]
      rfl
    · rw [if_neg hcontains, List.filter_cons_of_neg hcontains]
      rfl
  | simple found packages => exact matching_single_eq h href

/-! The two graphs. -/

theorem map_fullName_findIdx? (d : Declarations) (p : TypeDecl → Bool)
    : (d.types.findIdx? p).map d.fullName = (d.types.find? p).map TypeDecl.qualifiedName := by
  cases hfind : d.types.findIdx? p with
  | none =>
    rw [List.findIdx?_eq_none_iff] at hfind
    rw [List.find?_eq_none.2 (by simpa using hfind)]
    rfl
  | some place =>
    obtain ⟨hlt, hplace, hbefore⟩ := List.findIdx?_eq_some_iff_getElem.1 hfind
    have hfirst : d.types.find? p = some d.types[place] :=
      List.find?_eq_some_iff_getElem.2 ⟨hplace, place, hlt, rfl, by simpa using hbefore⟩
    rw [hfirst, Option.map_some, Option.map_some, Declarations.fullName,
      List.getElem?_eq_getElem hlt]
    rfl

theorem supertypes_fullName (h : u.Unambiguous) (owner : Nat) {place : Nat} {type : TypeDecl}
    (htype : u.declarations.types[place]? = some type)
    (hresolved : ∀ ref ∈ type.supertypes, ∃ name, ref = u.declarations.typeNames.resolve name)
    : (ofUnits [u]).supertypes type.qualifiedName
        =
      ((u.surroundings owner).supertypes place).map u.declarations.fullName := by
  rw [supertypes, find?_types_single, entry?_of_mem h.distinct (List.mem_of_getElem? htype),
    Surroundings.supertypes, SourceUnit.surroundings]
  dsimp only
  rw [htype, List.map_filterMap]
  apply List.filterMap_congr
  intro ref href
  obtain ⟨name, rfl⟩ := hresolved ref href
  rw [map_fullName_findIdx?]
  exact lookupType_single h name

theorem isSome_ownField? (env : Surroundings) {place : Nat} {type : TypeDecl}
    (htype : env.types[place]? = some type) (name : String)
    : (env.ownField? name place).isSome = (type.member? name .field).isSome := by
  rw [Surroundings.ownField?, htype]
  cases hmember : type.member? name .field with
  | none => simp [hmember]
  | some field => cases hkind : field.kind <;> simp [hmember, hkind]

theorem isSome_member?_iff {type : TypeDecl} {name : String}
    : (type.member? name .field).isSome = true ↔ type.overloads name .field ≠ [] := by
  rw [TypeDecl.member?, List.find?_isSome, TypeDecl.overloads, Ne, List.map_eq_nil_iff,
    List.filter_eq_nil_iff]
  simp only [not_forall, not_not, exists_prop]
  refine exists_congr fun m => and_congr_right fun _ => ?_
  cases hkind : m.kind <;> simp [Java.MemberDecl.Kind.use]

theorem isSome_ownMember?_field (hnodup : u.typeNames.Nodup) {place : Nat} {type : TypeDecl}
    (htype : u.declarations.types[place]? = some type) (name : String)
    : ((ofUnits [u]).ownMember? name .field type.qualifiedName).isSome
        =
      (type.member? name .field).isSome := by
  have hoverloads : (ofUnits [u]).overloads? name .field type.qualifiedName
      = if type.overloads name .field = [] then none else some (type.overloads name .field) := by
    rw [overloads?, find?_types_single, entry?_of_mem hnodup (List.mem_of_getElem? htype),
      Option.bind_some, find?_members_of]
  rw [ownMember?_eq, hoverloads, Option.isSome_map, Bool.eq_iff_iff, isSome_member?_iff]
  split
  · next hnil => simp [hnil]
  · next hne => simp [hne]

theorem map_fullName_range (u : SourceUnit)
    : (List.range u.declarations.types.length).map u.declarations.fullName = u.typeNames := by
  apply List.ext_getElem
  · simp [SourceUnit.typeNames]
  · intro place hplace hplace'
    rw [List.length_map, List.length_range] at hplace
    simp [SourceUnit.typeNames, Declarations.fullName, hplace]

theorem keys_single_perm (hnodup : u.typeNames.Nodup)
    : (ofUnits [u]).types.keys.Perm u.typeNames := by
  rw [List.perm_ext_iff_of_nodup (nodup_keys _) hnodup]
  intro type
  rw [mem_keys_iff_containsType, containsType_single]

end Unit

end Index

namespace Java.SourceUnit

variable {id : UnitId} {text : String} {u : SourceUnit}

theorem resolved_of_parse (h : parse id text = .ok u) {type : TypeDecl}
    (htype : type ∈ u.declarations.types) {ref : TypeRef} (href : ref ∈ type.supertypes)
    : ∃ name, ref = u.declarations.typeNames.resolve name := by
  obtain ⟨tokens, -, rfl⟩ := parse_ok h
  obtain ⟨e, -, rfl⟩ := List.mem_map.1 htype
  obtain ⟨name, -, rfl⟩ := List.mem_map.1 href
  exact ⟨name, by rw [ofTokens, Declarations.typeNames_declarations]⟩

theorem fullName_eq {place : Nat} {type : TypeDecl}
    (htype : u.declarations.types[place]? = some type)
    : u.declarations.fullName place = type.qualifiedName := by
  rw [Declarations.fullName, htype, Option.map_some, Option.getD_some]

theorem declaring?_single (h : parse id text = .ok u) (hunit : u.Unambiguous) (owner : Nat)
    {place : Nat} (hplace : place < u.declarations.types.length) (name : String)
    : (Index.ofUnits [u]).declaring? name .field (u.declarations.fullName place)
        =
      ((u.surroundings owner).declaring? name place).map u.declarations.fullName := by
  have hperm := Index.keys_single_perm hunit.distinct
  rw [← Index.map_fullName_range] at hperm
  rw [Index.declaring?, foundNode?, breadthFirst_perm hperm]
  refine foundNode?_map (List.range u.declarations.types.length) _ [place] ?_ ?_ ?_ ?_
    (List.Subset.refl _) (by simpa using hplace)
  · have hinj := List.inj_on_of_nodup_map (Index.map_fullName_range u ▸ hunit.distinct)
    exact fun a ha b hb hab => hinj ha hb hab
  · intro a _
    exact (u.surroundings owner).supertypes_subset_range a
  · intro a ha
    have htype := List.getElem?_eq_getElem (List.mem_range.1 ha)
    rw [fullName_eq htype]
    exact Index.supertypes_fullName hunit owner htype
      fun ref href => resolved_of_parse h (List.getElem_mem _) href
  · intro a ha
    have htype := List.getElem?_eq_getElem (List.mem_range.1 ha)
    rw [fullName_eq htype, Index.isSome_ownMember?_field hunit.distinct htype]
    exact (Index.isSome_ownField? (u.surroundings owner) htype name).symm

/--
In a unit that begins with its package, the types of which have different full names, and that
imports nothing on demand twice and not the implicit package, the search for an inherited field
finds one exactly if the index of this unit alone knows the member, and both end at the same type.
-/
theorem inheritedField?_agrees {tokens : List Token} (h : parse id text = .ok u)
    (htokens : tokenize text = .ok tokens) (hfirst : Reader.PackageFirst tokens)
    (hnodup : u.typeNames.Nodup) (hwildcards : u.declarations.wildcards.Nodup)
    (himplicit : implicitPackage ∉ u.declarations.wildcards) (owner : Nat) {place : Nat}
    {type : TypeDecl} (htype : u.declarations.types[place]? = some type) (name : String)
    : let env := u.surroundings owner
      let index := Index.ofUnits [u]
      let answer := index.resolve ⟨.qualified type.qualifiedName, name, .field⟩
      ((env.inheritedField? name place).isSome
          ↔ ∀ owner member, answer ≠ .error (.unknownMember owner member))
        ∧ ∀ field, env.inheritedField? name place = some field →
          ∃ declarer decl, env.types[declarer]? = some decl
            ∧ env.declaring? name place = some declarer
            ∧ env.ownField? name declarer = some field
            ∧ index.declaring? name .field type.qualifiedName = some decl.qualifiedName
            ∧ index.ownMember? name .field decl.qualifiedName = some answer := by
  intro env index answer
  have hlookup : index.lookupType (.qualified type.qualifiedName) = .ok type.qualifiedName := by
    rw [Index.lookupType, if_pos]
    exact Index.containsType_single.2 (List.mem_map_of_mem (List.mem_of_getElem? htype))
  have hunit : u.Unambiguous :=
    ⟨tabled_of_parse h htokens hfirst, hnodup, hwildcards, himplicit⟩
  have hdeclaring := declaring?_single h hunit owner (List.getElem?_eq_some_iff.1 htype).1 name
  rw [fullName_eq htype] at hdeclaring
  have hanswer : answer = _ :=
    Index.resolve_eq_declaring? (q := ⟨.qualified type.qualifiedName, name, .field⟩) hlookup
  dsimp only at hanswer
  rw [hdeclaring] at hanswer
  rw [env.inheritedField?_eq]
  -- The two searches end at the same place, or at none.
  cases hnode : env.declaring? name place with
  | none =>
    rw [hnode] at hanswer
    constructor
    · constructor
      · intro hfound
        cases hfound
      · intro hknown
        exact absurd hanswer (hknown _ _)
    · intro field hfield
      cases hfield
  | some declarer =>
    obtain ⟨hmem, hown⟩ := foundNode?_some hnode
    have hdecl := List.getElem?_eq_getElem (List.mem_range.1 hmem)
    rw [hnode, Option.map_some, fullName_eq hdecl] at hdeclaring
    obtain ⟨field, hfield⟩ := Option.isSome_iff_exists.1 hown
    have hmember := (foundNode?_some hdeclaring).2
    obtain ⟨found, hfound⟩ := Option.isSome_iff_exists.1 hmember
    rw [hnode, Option.map_some, fullName_eq hdecl, Option.bind_some, hfound,
      Option.getD_some] at hanswer
    rw [Option.bind_some, hfield]
    constructor
    · simp only [Option.isSome_some, true_iff]
      intro owner member hunknown
      rw [hanswer] at hunknown
      rcases Index.ownMember?_cases hfound with ⟨d, rfl⟩ | rfl <;> cases hunknown
    · intro field' hfield'
      obtain rfl := Option.some.inj hfield'
      exact ⟨declarer, _, hdecl, rfl, hfield, hdeclaring, hanswer ▸ hfound⟩

theorem inheritedField?_agrees_circle
    : let text := "package a.X; import a.*; class Y extends Z \x7b int f; \x7d "
        ++ "class Z extends X.Y \x7b \x7d"
      ∃ tokens u type, tokenize text = .ok tokens ∧ Reader.PackageFirst tokens
        ∧ parse "Y.java" text = .ok u ∧ u.typeNames.Nodup ∧ u.declarations.wildcards.Nodup
        ∧ implicitPackage ∉ u.declarations.wildcards
        ∧ u.declarations.types[1]? = some type ∧ type.qualifiedName = "a.X.Z"
        ∧ let env := u.surroundings 1
          let index := Index.ofUnits [u]
          let answer := index.resolve ⟨.qualified type.qualifiedName, "f", .field⟩
          env.inheritedField? "f" 1 = some none
          ∧ ((env.inheritedField? "f" 1).isSome
            ↔ ∀ owner member, answer ≠ .error (.unknownMember owner member))
          ∧ ∀ field, env.inheritedField? "f" 1 = some field →
            ∃ declarer decl, env.types[declarer]? = some decl
              ∧ env.declaring? "f" 1 = some declarer
              ∧ env.ownField? "f" declarer = some field
              ∧ index.declaring? "f" .field type.qualifiedName = some decl.qualifiedName
              ∧ index.ownMember? "f" .field decl.qualifiedName = some answer := by
  intro text
  have hcheck : (tokenize text).toOption.any fun tokens =>
      let u := ofTokens "Y.java" text tokens
      (tokens.tail.all fun t => !t.isWord "package")
        && decide (u.typeNames.Nodup ∧ u.declarations.wildcards.Nodup
          ∧ implicitPackage ∉ u.declarations.wildcards
          ∧ u.declarations.types[1]?.map TypeDecl.qualifiedName = some "a.X.Z"
          ∧ u.declarations.types.length = 2 ∧ (u.surroundings 1).supertypes 1 = [0]
          ∧ (u.surroundings 1).ownField? "f" 1 = none
          ∧ (u.surroundings 1).ownField? "f" 0 = some none) := by
    decide +kernel
  obtain ⟨tokens, htokens, hcheck⟩ := exists_tokenize_ok hcheck
  rw [Bool.and_eq_true, decide_eq_true_eq] at hcheck
  obtain ⟨htail, hnodup, hwildcards, himplicit, htype, hlength, hparent, hnone, hfield⟩ := hcheck
  obtain ⟨type, htype, hfull⟩ := Option.map_eq_some_iff.1 htype
  have hfirst := Reader.packageFirst_of_tail htail
  have hparse := parse_of_tokenize "Y.java" htokens
  let env := (ofTokens "Y.java" text tokens).surroundings 1
  -- The search begins at `Z`, which has no field of this name, and goes on to its supertype.
  have hinherited : env.inheritedField? "f" 1 = some none := by
    have hrange : List.range env.types.length = [0, 1] := congrArg List.range hlength
    rw [Surroundings.inheritedField?, hrange, breadthFirst, if_pos (by decide), hnone]
    dsimp only
    rw [hparent, List.nil_append, breadthFirst, if_pos (by decide), hfield]
  exact ⟨tokens, _, type, htokens, hfirst, hparse, hnodup, hwildcards, himplicit, htype, hfull,
    hinherited,
    inheritedField?_agrees hparse htokens hfirst hnodup hwildcards himplicit 1 htype "f"⟩

end Java.SourceUnit

end DeprecatedUse
