import DeprecatedUse.Proofs.Index.Agreement
import DeprecatedUse.Proofs.Index.Provenance
import DeprecatedUse.Proofs.Index.Resolution
import Mathlib

/-!
This module contains what the listing of symbols says. It has one symbol for each member that a use
may refer to, in strict order, and says of the member what a query about it is answered with. It
differs only where overloads do not agree: then the query has no answer and the member is listed as
deprecated.
-/

namespace DeprecatedUse

open DeprecatedUse.Java (Deprecation IsName SourceUnit TypeDecl)

namespace Index

/-! Declarations that count. -/

/--
After some changes the index knows a type by this declaration: the last one of its name in the unit
that declared the name last, if this version of the unit is live.
-/
def KnownBy (changes : List Change) (decl : TypeDecl) : Prop :=
  ∃ u, u ∈ liveUnits changes ∧ lastDeclarer? changes decl.qualifiedName = some u
    ∧ (u.declarations.types.reverse.find? fun d => d.qualifiedName = decl.qualifiedName) = some decl

theorem KnownBy.unique {changes : List Change} {decl decl' : TypeDecl} (h : KnownBy changes decl)
    (h' : KnownBy changes decl') (hname : decl.qualifiedName = decl'.qualifiedName)
    : decl = decl' := by
  obtain ⟨u, -, hlast, hfind⟩ := h
  obtain ⟨u', -, hlast', hfind'⟩ := h'
  rw [← hname, hlast, Option.some.injEq] at hlast'
  subst hlast'
  rw [← hname, hfind, Option.some.injEq] at hfind'
  exact hfind'

theorem KnownBy.find?_types {changes : List Change} {decl : TypeDecl} (h : KnownBy changes decl)
    : ∃ unit, (run changes).types.find? decl.qualifiedName = some (Entry.of unit decl) := by
  obtain ⟨u, hu, hlast, hdecl⟩ := h
  refine ⟨u.id, ((tracks_run changes).types _ _).2 ⟨u, hu, hlast, ?_⟩⟩
  rw [SourceUnit.entry?, hdecl, Option.map_some]

theorem exists_knownBy {changes : List Change} {type : String} {e : Entry}
    (h : (run changes).types.find? type = some e)
    : ∃ decl unit, KnownBy changes decl ∧ decl.qualifiedName = type ∧ e = Entry.of unit decl := by
  obtain ⟨u, hu, hlast, hentry⟩ := ((tracks_run changes).types _ _).1 h
  obtain ⟨decl, hdecl, rfl⟩ := Option.map_eq_some_iff.1 hentry
  have hname : decl.qualifiedName = type := by simpa using List.find?_some hdecl
  subst hname
  exact ⟨decl, u.id, ⟨u, hu, hlast, hdecl⟩, rfl, rfl⟩

theorem containsType_run_iff_knownBy {changes : List Change} {type : String}
    : (run changes).containsType type = true
        ↔
      ∃ decl, KnownBy changes decl ∧ decl.qualifiedName = type := by
  rw [containsType, Table.contains, Option.isSome_iff_exists]
  constructor
  · rintro ⟨e, he⟩
    obtain ⟨decl, -, hdecl, hname, -⟩ := exists_knownBy he
    exact ⟨decl, hdecl, hname⟩
  · rintro ⟨decl, hdecl, rfl⟩
    obtain ⟨unit, hfind⟩ := hdecl.find?_types
    exact ⟨Entry.of unit decl, hfind⟩

/-! Members. -/

structure Member where
  decl : TypeDecl
  name : String
  kind : MemberKind

namespace Member

def fullName (m : Member) : String :=
  m.decl.qualifiedName ++ "." ++ m.name

def overloads (m : Member) : List (Option Deprecation) :=
  m.decl.overloads m.name m.kind

def query (m : Member) : Query where
  receiver := .qualified m.decl.qualifiedName
  member := m.name
  kind := m.kind

def symbol (m : Member) : Symbol :=
  symbolOf m.fullName m.kind (m.overloads.findSome? id)

/--
The index knows the type of the member by its declaration, and the declaration has the member.
-/
structure KnownIn (m : Member) (changes : List Change) : Prop where
  type : KnownBy changes m.decl
  declares : m.overloads ≠ []

structure ListedAs (m : Member) (s : Symbol) : Prop where
  name : s.qualifiedName = m.fullName
  kind : s.kind = m.kind

/--
Some overloads of the member are deprecated and some are not.
-/
def Disagrees (m : Member) : Prop :=
  none ∈ m.overloads ∧ ∃ d, some d ∈ m.overloads

theorem listedAs_symbol (m : Member) : m.ListedAs m.symbol :=
  ⟨symbolOf_qualifiedName _ _ _, symbolOf_kind _ _ _⟩

end Member

theorem overloads?_run_iff {changes : List Change} {type name : String} {kind : MemberKind}
    {overloads : List (Option Deprecation)}
    : (run changes).overloads? name kind type = some overloads
        ↔
      ∃ decl, KnownBy changes decl ∧ decl.qualifiedName = type
        ∧ decl.overloads name kind = overloads ∧ overloads ≠ [] := by
  rw [Index.overloads?, Option.bind_eq_some_iff]
  constructor
  · rintro ⟨e, he, hfind⟩
    obtain ⟨decl, unit, hdecl, hname, rfl⟩ := exists_knownBy he
    exact ⟨decl, hdecl, hname, find?_members_of_eq_some.1 hfind⟩
  · rintro ⟨decl, hdecl, rfl, hoverloads⟩
    obtain ⟨unit, hfind⟩ := hdecl.find?_types
    exact ⟨Entry.of unit decl, hfind, find?_members_of_eq_some.2 hoverloads⟩

theorem Member.KnownIn.overloads? {m : Member} {changes : List Change} (h : m.KnownIn changes)
    : (run changes).overloads? m.name m.kind m.decl.qualifiedName = some m.overloads :=
  overloads?_run_iff.2 ⟨m.decl, h.type, rfl, rfl, h.declares⟩

theorem mem_symbols_run_iff {changes : List Change} {s : Symbol}
    : s ∈ (run changes).symbols ↔ ∃ m : Member, m.KnownIn changes ∧ s = m.symbol := by
  rw [mem_symbols_iff]
  constructor
  · rintro ⟨type, name, kind, overloads, hfind, rfl⟩
    obtain ⟨decl, hdecl, rfl, rfl, hne⟩ := overloads?_run_iff.1 hfind
    exact ⟨⟨decl, name, kind⟩, ⟨hdecl, hne⟩, rfl⟩
  · rintro ⟨m, hm, rfl⟩
    exact ⟨m.decl.qualifiedName, m.name, m.kind, m.overloads, hm.overloads?, rfl⟩

theorem Member.KnownIn.unique {changes : List Change} (hnamed : (run changes).Named)
    {m m' : Member} (h : m.KnownIn changes) (h' : m'.KnownIn changes) {s : Symbol}
    (hs : m.ListedAs s) (hs' : m'.ListedAs s) : m = m' := by
  have hname := hnamed.isName_of_overloads? h.overloads?
  have hname' := hnamed.isName_of_overloads? h'.overloads?
  obtain ⟨htype, hmember⟩ := (append_dot_inj hname.2 hname'.2).1 (hs.name.symm.trans hs'.name)
  have hdecl := h.type.unique h'.type htype
  have hkind := hs.kind.symm.trans hs'.kind
  cases m
  cases m'
  subst hdecl hmember hkind
  rfl

/-! Order. -/

/--
The strict order of symbols in listings: by full name, then by kind.
-/
def Precedes (a b : Symbol) : Prop :=
  a.qualifiedName < b.qualifiedName
    ∨ a.qualifiedName = b.qualifiedName ∧ kindRank a.kind < kindRank b.kind

theorem precedes_of_symbolLe {a b : Symbol} (hle : symbolLe a b = true)
    (hne : ¬ (a.qualifiedName = b.qualifiedName ∧ a.kind = b.kind)) : Precedes a b := by
  simp only [symbolLe, Bool.or_eq_true, decide_eq_true_eq, Bool.and_eq_true, beq_iff_eq] at hle
  obtain hlt | ⟨hname, hkind⟩ := hle
  · exact .inl hlt
  · refine .inr ⟨hname, Nat.lt_of_le_of_ne hkind ?_⟩
    intro hrank
    exact hne ⟨hname, kindRank_inj hrank⟩

theorem Named.isName {i : Index} (h : i.Named) {type : String × Entry}
    (htype : type ∈ i.types.entries) {m : (String × MemberKind) × List (Option Deprecation)}
    (hm : m ∈ type.2.members.entries) : IsName m.1.1 :=
  h type.1 type.2 ((Table.find?_eq_some_iff i.types type.1 type.2).2 htype) m.1
    (List.mem_map_of_mem hm)

theorem Named.pairwise_typeSymbols {i : Index} (h : i.Named)
    : (i.types.entries.flatMap typeSymbols).Pairwise fun a b =>
        ¬ (a.qualifiedName = b.qualifiedName ∧ a.kind = b.kind) := by
  rw [List.pairwise_flatMap]
  constructor
  · intro type htype
    have hkeys : type.2.members.entries.Pairwise fun m m' => m.1 ≠ m'.1 :=
      List.pairwise_map.1 type.2.members.nodup
    rw [typeSymbols, List.pairwise_map]
    apply hkeys.imp_of_mem
    rintro m m' hm hm' hne ⟨hname, hkind⟩
    rw [symbolOf_qualifiedName, symbolOf_qualifiedName] at hname
    rw [symbolOf_kind, symbolOf_kind] at hkind
    obtain ⟨-, hmember⟩ := (append_dot_inj (h.isName htype hm).2 (h.isName htype hm').2).1 hname
    exact hne (Prod.ext hmember hkind)
  · have hkeys : i.types.entries.Pairwise fun type type' => type.1 ≠ type'.1 :=
      List.pairwise_map.1 i.types.nodup
    apply hkeys.imp_of_mem
    rintro type type' htype htype' hne a ha b hb ⟨hname, -⟩
    obtain ⟨m, hm, rfl⟩ := List.mem_map.1 ha
    obtain ⟨m', hm', rfl⟩ := List.mem_map.1 hb
    rw [symbolOf_qualifiedName, symbolOf_qualifiedName] at hname
    exact hne ((append_dot_inj (h.isName htype hm).2 (h.isName htype' hm').2).1 hname).1

theorem Named.pairwise_symbols {i : Index} (h : i.Named) : i.symbols.Pairwise Precedes := by
  have hle := List.pairwise_mergeSort symbolLe_trans symbolLe_total
    (i.types.entries.flatMap typeSymbols)
  have hdiffer := h.pairwise_typeSymbols.perm
    (List.mergeSort_perm (i.types.entries.flatMap typeSymbols) symbolLe).symm
    fun hab hba => hab ⟨hba.1.symm, hba.2.symm⟩
  rw [symbols_eq]
  exact (hle.and hdiffer).imp fun hab => precedes_of_symbolLe hab.1 hab.2

/-! Listing and resolution. -/

theorem Member.deprecated_symbol {m : Member} {d : Deprecation} (h : some d ∈ m.overloads)
    : m.symbol.deprecated = true := by
  have hfirst : (m.overloads.findSome? id).isSome := by
    rw [List.findSome?_isSome_iff]
    exact ⟨some d, h, rfl⟩
  obtain ⟨first, hfirst⟩ := Option.isSome_iff_exists.1 hfirst
  rw [Member.symbol, hfirst]
  rfl

theorem resolveOverloads_listed (m : Member)
    : resolveOverloads m.fullName m.kind m.overloads = .ok m.symbol ∧ ¬ m.Disagrees
        ∨ resolveOverloads m.fullName m.kind m.overloads = .error (.ambiguousOverload m.fullName)
          ∧ m.Disagrees ∧ m.symbol.deprecated = true := by
  by_cases hdisagrees : m.Disagrees
  · obtain ⟨hnone, d, hd⟩ := id hdisagrees
    have hverdict := verdict_resolveOverloads m.fullName m.kind m.overloads
    exact .inr ⟨hverdict.ambiguous d hd hnone, hdisagrees, Member.deprecated_symbol hd⟩
  · refine .inl ⟨?_, hdisagrees⟩
    unfold resolveOverloads
    split
    · next hnone =>
      have hfirst : m.overloads.findSome? id = none := by
        rw [List.findSome?_eq_none_iff]
        intro d hd
        exact Option.isNone_iff_eq_none.1 (List.all_eq_true.1 hnone d hd)
      rw [Member.symbol, hfirst]
    · next hnone =>
      split
      · rfl
      · next hsome =>
        refine absurd ⟨?_, ?_⟩ hdisagrees
        · simpa using hsome
        · simpa [Option.ne_none_iff_exists'] using hnone

theorem resolve_query {m : Member} {changes : List Change} (h : m.KnownIn changes)
    : (run changes).resolve m.query = resolveOverloads m.fullName m.kind m.overloads := by
  have hcontains : (run changes).containsType m.decl.qualifiedName = true :=
    containsType_run_iff_knownBy.2 ⟨m.decl, h.type, rfl⟩
  have hlookup : (run changes).lookupType m.query.receiver = .ok m.decl.qualifiedName := by
    rw [Member.query, lookupType, if_pos hcontains]
  apply resolve_own hlookup (mem_keys_iff_containsType.2 hcontains)
  rw [ownMember?_eq, Member.query, h.overloads?, Option.map_some]
  rfl

/--
The listing of symbols is in strict order. The members that the index knows stand in it, each in one
place and nothing else beside them. A query for a member of a type itself is answered with the
symbol that is listed, unless the overloads of the member do not agree: then it is ambiguous, and
the member is listed as deprecated.
-/
theorem symbols_run_agree_with_resolve {changes : List Change}
    (h : ∀ u, .add u ∈ changes → ∃ id text, SourceUnit.parse id text = .ok u)
    : (run changes).symbols.Pairwise Precedes
      ∧ (∀ type, (run changes).containsType type = true
          ↔ ∃ decl, KnownBy changes decl ∧ decl.qualifiedName = type)
      ∧ (∀ m : Member, m.KnownIn changes → ∃! s, s ∈ (run changes).symbols ∧ m.ListedAs s)
      ∧ (∀ s, s ∈ (run changes).symbols → ∃! m : Member, m.KnownIn changes ∧ m.ListedAs s)
      ∧ ∀ (m : Member) s, m.KnownIn changes → s ∈ (run changes).symbols → m.ListedAs s →
          (run changes).resolve m.query = .ok s ∧ ¬ m.Disagrees
          ∨ (run changes).resolve m.query = .error (.ambiguousOverload m.fullName)
            ∧ m.Disagrees ∧ s.deprecated = true := by
  have hnamed := named_run h
  -- a symbol of the listing that has the name and the kind of a member is the member's own
  have hown : ∀ (m : Member) s, m.KnownIn changes → s ∈ (run changes).symbols → m.ListedAs s →
      s = m.symbol := by
    intro m s hm hs hlisted
    obtain ⟨m', hm', rfl⟩ := mem_symbols_run_iff.1 hs
    rw [hm.unique hnamed hm' hlisted m'.listedAs_symbol]
  refine ⟨hnamed.pairwise_symbols, fun type => containsType_run_iff_knownBy, ?_, ?_, ?_⟩
  · intro m hm
    refine ⟨m.symbol, ⟨mem_symbols_run_iff.2 ⟨m, hm, rfl⟩, m.listedAs_symbol⟩, ?_⟩
    rintro s ⟨hs, hlisted⟩
    exact hown m s hm hs hlisted
  · intro s hs
    obtain ⟨m, hm, rfl⟩ := mem_symbols_run_iff.1 hs
    refine ⟨m, ⟨hm, m.listedAs_symbol⟩, ?_⟩
    rintro m' ⟨hm', hlisted⟩
    exact hm'.unique hnamed hm hlisted m.listedAs_symbol
  · intro m s hm hs hlisted
    rw [resolve_query hm, hown m s hm hs hlisted]
    exact resolveOverloads_listed m

theorem symbols_run_agree_with_resolve_overloads
    : let unit := fun text =>
        SourceUnit.ofTokens "A.java" text ((Java.tokenize text).toOption.getD [])
      let old := unit "class A { int f; void g() {} }"
      let new := unit "class A { @Deprecated void f() {} void f(int i) {} }"
      let index := run [.add old, .add new]
      index.resolve ⟨.qualified "A", "f", .method⟩ = .error (.ambiguousOverload "A.f")
        ∧ ∃! s, s ∈ index.symbols ∧ s.qualifiedName = "A.f" ∧ s.kind = .method
          ∧ s.deprecated = true := by
  intro unit old new index
  have hold : SourceUnit.parse "A.java" "class A { int f; void g() {} }" = .ok old :=
    SourceUnit.parse_ofTokens (by decide +kernel)
  have hnew : SourceUnit.parse "A.java" "class A { @Deprecated void f() {} void f(int i) {} }"
      = .ok new :=
    SourceUnit.parse_ofTokens (by decide +kernel)
  have hoverloads : index.overloads? "f" .method "A" = some [some {}, none] := by
    decide +kernel
  obtain ⟨decl, hdecl, hname, hfound, hne⟩ := overloads?_run_iff.1 hoverloads
  have hlisting := @symbols_run_agree_with_resolve [.add old, .add new] fun u hu => by
    obtain hu | hu := List.mem_pair.1 hu
    · cases hu
      exact ⟨_, _, hold⟩
    · cases hu
      exact ⟨_, _, hnew⟩
  obtain ⟨-, -, hlisted, -, hanswer⟩ := hlisting
  let m : Member := ⟨decl, "f", .method⟩
  have hm : m.KnownIn [.add old, .add new] := by
    refine ⟨hdecl, ?_⟩
    rw [Member.overloads, hfound]
    exact hne
  have hfull : m.fullName = "A.f" := by
    rw [Member.fullName, hname]
    rfl
  have hdisagrees : m.Disagrees := by
    rw [Member.Disagrees, Member.overloads, hfound]
    exact ⟨by simp, {}, by simp⟩
  obtain ⟨s, ⟨hs, hsm⟩, hunique⟩ := hlisted m hm
  obtain ⟨-, hagrees⟩ | ⟨hresolve, -, hdeprecated⟩ := hanswer m s hm hs hsm
  · exact absurd hdisagrees hagrees
  · rw [hfull, Member.query, hname] at hresolve
    refine ⟨hresolve, s, ⟨hs, hfull ▸ hsm.name, hsm.kind, hdeprecated⟩, ?_⟩
    rintro s' ⟨hs', hname', hkind', -⟩
    exact hunique s' ⟨hs', hname'.trans hfull.symm, hkind'⟩

end Index

end DeprecatedUse
