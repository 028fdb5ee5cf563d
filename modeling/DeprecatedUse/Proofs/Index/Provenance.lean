import DeprecatedUse.Proofs.Index.Changes
import DeprecatedUse.Proofs.Index.Resolution
import Mathlib.Data.List.Induction
import Mathlib.Logic.Relation

/-!
This module contains where the knowledge of an index comes from. Whatever an index holds or answers
after some changes, it has from a declaration in the latest version of a unit that is live, so
nothing that only an older version said is left in it.
-/

namespace DeprecatedUse

open DeprecatedUse.Java (MemberDecl SourceUnit TypeDecl)

/--
The deprecations of the members of a type that a use of this name and kind may refer to, in the
order of their declarations. Uses do not refer to constructors by name.
-/
def Java.TypeDecl.overloads (decl : TypeDecl) (name : String) (kind : MemberKind) :
    List (Option Java.Deprecation) :=
  (decl.members.filter fun m =>
    m.kind ≠ .constructor ∧ (m.name, m.kind.use) = (name, kind)).map MemberDecl.deprecation

namespace Index

/-! The members of an entry. -/

theorem find?_foldl_add (key : String × MemberKind) (ds : List MemberDecl) (ms : Members)
    : (ds.foldl Members.add ms).find? key
        =
      match (ds.filter fun m => m.kind ≠ .constructor ∧ (m.name, m.kind.use) = key).map
          MemberDecl.deprecation with
      | [] => ms.find? key
      | found => some ((ms.find? key).getD [] ++ found) := by
  induction ds generalizing ms with
  | nil => rfl
  | cons d ds ih =>
    rw [List.foldl_cons, ih, Members.add]
    by_cases hkind : d.kind = .constructor
    · simp [hkind]
    · by_cases hkey : (d.name, d.kind.use) = key
      · subst hkey
        split <;> simp_all
      · simp [hkind, hkey, Ne.symm hkey]

theorem find?_members_of (unit : UnitId) (decl : TypeDecl) (name : String) (kind : MemberKind)
    : (Entry.of unit decl).members.find? (name, kind)
        =
      if decl.overloads name kind = [] then none else some (decl.overloads name kind) := by
  rw [Entry.of, find?_foldl_add, TypeDecl.overloads]
  split
  · next h => rw [if_pos h, Table.find?_empty]
  · next h => rw [if_neg h, Table.find?_empty, Option.getD_none, List.nil_append]

theorem find?_members_of_eq_some {unit : UnitId} {decl : TypeDecl} {name : String}
    {kind : MemberKind} {overloads : List (Option Java.Deprecation)}
    : (Entry.of unit decl).members.find? (name, kind) = some overloads
        ↔
      decl.overloads name kind = overloads ∧ overloads ≠ [] := by
  rw [find?_members_of]
  split
  · next hnil =>
    rw [hnil]
    constructor
    · intro h
      cases h
    · rintro ⟨rfl, hne⟩
      exact absurd rfl hne
  · next hne =>
    rw [Option.some.injEq]
    constructor
    · rintro rfl
      exact ⟨rfl, hne⟩
    · exact And.left

/-! Live units. -/

def Change.unit : Change → UnitId
  | .add u => u.id
  | .remove unit => unit

/--
The unit has been added in this version, and no change since then is about it.
-/
def Latest (changes : List Change) (u : SourceUnit) : Prop :=
  ∃ before after, changes = before ++ .add u :: after ∧ ∀ c, c ∈ after → c.unit ≠ u.id

theorem latest_concat {changes : List Change} {c : Change} {u : SourceUnit}
    : Latest (changes ++ [c]) u ↔ c = .add u ∨ Latest changes u ∧ c.unit ≠ u.id := by
  constructor
  · rintro ⟨before, after, heq, hafter⟩
    induction after using List.reverseRecOn with
    | nil =>
      left
      exact (List.append_inj' heq rfl).2 |> List.singleton_inj.1
    | append_singleton after last _ =>
      right
      rw [← List.cons_append, ← List.append_assoc] at heq
      obtain ⟨rfl, hlast⟩ := List.append_inj' heq rfl
      rw [List.singleton_inj] at hlast
      subst hlast
      refine ⟨⟨before, after, rfl, fun c hc => hafter c (List.mem_append_left _ hc)⟩, ?_⟩
      exact hafter c (List.mem_append_right _ (List.mem_singleton_self c))
  · rintro (rfl | ⟨⟨before, after, rfl, hafter⟩, hc⟩)
    · exact ⟨changes, [], rfl, fun c hc => nomatch hc⟩
    · refine ⟨before, after ++ [c], by simp, ?_⟩
      intro c' hc'
      rw [List.mem_append, List.mem_singleton] at hc'
      rcases hc' with hc' | rfl
      · exact hafter c' hc'
      · exact hc

theorem mem_liveUnits_iff {changes : List Change} {u : SourceUnit}
    : u ∈ liveUnits changes ↔ Latest changes u := by
  induction changes using List.reverseRecOn with
  | nil =>
    constructor
    · intro h
      cases h
    · rintro ⟨before, after, heq, -⟩
      simp at heq
  | append_singleton changes c ih =>
    rw [latest_concat, ← ih, liveUnits, List.foldl_append, ← liveUnits]
    cases c with
    | add v =>
      simp only [List.foldl_cons, List.foldl_nil, List.mem_append, List.mem_filter,
        decide_eq_true_eq, List.mem_singleton, Change.add.injEq, Change.unit]
      rw [or_comm, eq_comm, ne_comm]
    | remove unit =>
      simp only [List.foldl_cons, List.foldl_nil, List.mem_filter, decide_eq_true_eq, reduceCtorEq,
        false_or, Change.unit]
      rw [ne_comm]

theorem Latest.id_ne {changes later : List Change} {unit : UnitId} {u : SourceUnit}
    (hlater : ∀ c, c ∈ later → c.unit ≠ unit)
    (h : Latest (changes ++ .remove unit :: later) u) : u.id ≠ unit := by
  induction later using List.reverseRecOn with
  | nil =>
    rw [latest_concat] at h
    rcases h with h | ⟨-, h⟩
    · cases h
    · exact h.symm
  | append_singleton later c ih =>
    rw [← List.cons_append, ← List.append_assoc, latest_concat] at h
    rcases h with rfl | ⟨h, -⟩
    · exact hlater (.add u) (by simp)
    · exact ih (fun c hc => hlater c (List.mem_append_left _ hc)) h

theorem Latest.eq_of_id_eq {changes later : List Change} {u v : SourceUnit}
    (hlater : ∀ c, c ∈ later → c.unit ≠ u.id)
    (h : Latest (changes ++ .add u :: later) v) (hid : v.id = u.id) : v = u := by
  induction later using List.reverseRecOn with
  | nil =>
    rw [latest_concat] at h
    rcases h with h | ⟨-, h⟩
    · rw [Change.add.injEq] at h
      exact h.symm
    · exact absurd hid.symm h
  | append_singleton later c ih =>
    rw [← List.cons_append, ← List.append_assoc, latest_concat] at h
    rcases h with rfl | ⟨h, -⟩
    · exact absurd hid (hlater (.add v) (by simp))
    · exact ih (fun c hc => hlater c (List.mem_append_left _ hc)) h

/-! Where knowledge comes from. -/

def Declared (units : SourceUnit → Prop) (type : String) : Prop :=
  ∃ u, units u ∧ ∃ decl, decl ∈ u.declarations.types ∧ decl.qualifiedName = type

def Inherits (index : Index) (type parent : String) : Prop :=
  Relation.ReflTransGen (fun type parent => parent ∈ index.supertypes type) type parent

def HoldsOnly (index : Index) (units : SourceUnit → Prop) : Prop :=
  ∀ type e, index.types.find? type = some e →
    ∃ u, units u ∧ e.unit = u.id ∧ index.units.find? u.id = some u.typeNames ∧ type ∈ u.typeNames
      ∧ ∃ decl, decl ∈ u.declarations.types ∧ decl.qualifiedName = type ∧ e = Entry.of u.id decl

structure TellsOnly (index : Index) (units : SourceUnit → Prop) : Prop where
  entries : index.HoldsOnly units
  lookupType : ∀ ref type, index.lookupType ref = .ok type → Declared units type
  ambiguous : ∀ ref name found, index.lookupType ref = .error (.ambiguousType name found) →
    ∀ type, type ∈ found → Declared units type
  supertypes : ∀ type parent, parent ∈ index.supertypes type →
    ∃ u, units u ∧ ∃ decl, decl ∈ u.declarations.types ∧ decl.qualifiedName = type
      ∧ ∃ ref, ref ∈ decl.supertypes ∧ index.lookupType ref = .ok parent
  /--
  A query is answered by the overloads in a declaration of the receiver's type or of one that it
  inherits from. Otherwise the type or the member is not known.
  -/
  resolve : ∀ q,
    (∃ failure, index.lookupType q.receiver = .error failure ∧ index.resolve q = .error failure)
      ∨ ∃ owner, index.lookupType q.receiver = .ok owner
        ∧ (index.resolve q = .error (.unknownMember owner q.member)
          ∨ ∃ u, units u ∧ ∃ decl, decl ∈ u.declarations.types
            ∧ index.Inherits owner decl.qualifiedName ∧ decl.overloads q.member q.kind ≠ []
            ∧ index.resolve q
                = resolveOverloads (decl.qualifiedName ++ "." ++ q.member) q.kind
                    (decl.overloads q.member q.kind))
  symbols : ∀ s, s ∈ index.symbols →
    ∃ u, units u ∧ ∃ decl, decl ∈ u.declarations.types
      ∧ ∃ name kind, decl.overloads name kind ≠ []
        ∧ s = symbolOf (decl.qualifiedName ++ "." ++ name) kind
            ((decl.overloads name kind).findSome? id)

namespace HoldsOnly

variable {index : Index} {units : SourceUnit → Prop}

theorem declared (h : index.HoldsOnly units) {type : String}
    (htype : index.containsType type = true) : Declared units type := by
  obtain ⟨e, he⟩ := Option.isSome_iff_exists.1 htype
  obtain ⟨u, hu, -, -, -, decl, hdecl, hname, -⟩ := h type e he
  exact ⟨u, hu, decl, hdecl, hname⟩

theorem found (h : index.HoldsOnly units) {ref : TypeRef} {types : List String}
    (htypes : ref.candidates.filter index.containsType = types) {type : String}
    (htype : type ∈ types) : Declared units type := by
  rw [← htypes] at htype
  exact h.declared (List.mem_filter.1 htype).2

theorem lookupType (h : index.HoldsOnly units) {ref : TypeRef} {type : String}
    (hlookup : index.lookupType ref = .ok type) : Declared units type :=
  h.declared (containsType_of_lookupType hlookup)

theorem ambiguous (h : index.HoldsOnly units) {ref : TypeRef} {name : String} {found : List String}
    (hlookup : index.lookupType ref = .error (.ambiguousType name found)) {type : String}
    (htype : type ∈ found) : Declared units type := by
  unfold Index.lookupType at hlookup
  split at hlookup
  · split at hlookup
    · cases hlookup
    · cases hlookup
  · split at hlookup
    · cases hlookup
    · split at hlookup
      · cases hlookup
      · cases hlookup
      · cases hlookup
        exact h.found rfl htype

theorem supertypes (h : index.HoldsOnly units) {type parent : String}
    (hparent : parent ∈ index.supertypes type)
    : ∃ u, units u ∧ ∃ decl, decl ∈ u.declarations.types ∧ decl.qualifiedName = type
        ∧ ∃ ref, ref ∈ decl.supertypes ∧ index.lookupType ref = .ok parent := by
  unfold Index.supertypes at hparent
  split at hparent
  · cases hparent
  · next e he =>
    obtain ⟨u, hu, -, -, -, decl, hdecl, hname, rfl⟩ := h type e he
    obtain ⟨ref, href, hlookup⟩ := List.mem_filterMap.1 hparent
    refine ⟨u, hu, decl, hdecl, hname, ref, href, ?_⟩
    cases hfound : index.lookupType ref with
    | error failure =>
      rw [hfound] at hlookup
      cases hlookup
    | ok found =>
      rw [hfound] at hlookup
      cases hlookup
      rfl

theorem overloads? (h : index.HoldsOnly units) {member type : String} {kind : MemberKind}
    {overloads : List (Option Java.Deprecation)}
    (hfind : index.overloads? member kind type = some overloads)
    : ∃ u, units u ∧ ∃ decl, decl ∈ u.declarations.types ∧ decl.qualifiedName = type
        ∧ decl.overloads member kind = overloads ∧ overloads ≠ [] := by
  obtain ⟨e, he, hmember⟩ := Option.bind_eq_some_iff.1 hfind
  obtain ⟨u, hu, -, -, -, decl, hdecl, hname, rfl⟩ := h type e he
  exact ⟨u, hu, decl, hdecl, hname, find?_members_of_eq_some.1 hmember⟩

theorem ownMember? (h : index.HoldsOnly units) {member type : String} {kind : MemberKind}
    {answer : Resolution} (hown : index.ownMember? member kind type = some answer)
    : ∃ u, units u ∧ ∃ decl, decl ∈ u.declarations.types ∧ decl.qualifiedName = type
        ∧ decl.overloads member kind ≠ []
        ∧ answer = resolveOverloads (type ++ "." ++ member) kind (decl.overloads member kind) := by
  rw [ownMember?_eq, Option.map_eq_some_iff] at hown
  obtain ⟨overloads, hfind, rfl⟩ := hown
  obtain ⟨u, hu, decl, hdecl, hname, rfl, hne⟩ := h.overloads? hfind
  exact ⟨u, hu, decl, hdecl, hname, hne, rfl⟩

theorem resolve (h : index.HoldsOnly units) (q : Query)
    : (∃ failure, index.lookupType q.receiver = .error failure ∧ index.resolve q = .error failure)
      ∨ ∃ owner, index.lookupType q.receiver = .ok owner
        ∧ (index.resolve q = .error (.unknownMember owner q.member)
          ∨ ∃ u, units u ∧ ∃ decl, decl ∈ u.declarations.types
            ∧ index.Inherits owner decl.qualifiedName ∧ decl.overloads q.member q.kind ≠ []
            ∧ index.resolve q
                = resolveOverloads (decl.qualifiedName ++ "." ++ q.member) q.kind
                    (decl.overloads q.member q.kind)) := by
  unfold Index.resolve
  split
  · next failure hlookup => exact .inl ⟨failure, hlookup, rfl⟩
  · next owner hlookup =>
    refine .inr ⟨owner, hlookup, ?_⟩
    split
    · next answer hfound =>
      obtain ⟨first, hfirst, type, hreach, hown⟩ := breadthFirst_reached hfound
      rw [List.mem_singleton] at hfirst
      subst hfirst
      obtain ⟨u, hu, decl, hdecl, rfl, hne, rfl⟩ := h.ownMember? hown
      exact .inr ⟨u, hu, decl, hdecl, hreach, hne, rfl⟩
    · exact .inl rfl

theorem symbols (h : index.HoldsOnly units) {s : Symbol} (hs : s ∈ index.symbols)
    : ∃ u, units u ∧ ∃ decl, decl ∈ u.declarations.types
        ∧ ∃ name kind, decl.overloads name kind ≠ []
          ∧ s = symbolOf (decl.qualifiedName ++ "." ++ name) kind
              ((decl.overloads name kind).findSome? id) := by
  obtain ⟨type, name, kind, overloads, hfind, rfl⟩ := mem_symbols_iff.1 hs
  obtain ⟨u, hu, decl, hdecl, rfl, rfl, hne⟩ := h.overloads? hfind
  exact ⟨u, hu, decl, hdecl, name, kind, hne, rfl⟩

theorem tellsOnly (h : index.HoldsOnly units) : index.TellsOnly units where
  entries := h
  lookupType _ _ := h.lookupType
  ambiguous _ _ _ hlookup _ := h.ambiguous hlookup
  supertypes _ _ := h.supertypes
  resolve := h.resolve
  symbols _ := h.symbols

theorem mono {units' : SourceUnit → Prop} (h : index.HoldsOnly units)
    (hle : ∀ u, units u → units' u) : index.HoldsOnly units' := by
  intro type e he
  obtain ⟨u, hu, hentry⟩ := h type e he
  exact ⟨u, hle u hu, hentry⟩

end HoldsOnly

theorem run_holdsOnly_latest (changes : List Change)
    : (run changes).HoldsOnly (Latest changes) := by
  intro type e he
  have htracks := tracks_run changes
  obtain ⟨u, hu, -, hentry⟩ := (htracks.types type e).1 he
  refine ⟨u, mem_liveUnits_iff.1 hu, SourceUnit.unit_of_entry? hentry, ?_, ?_, ?_⟩
  · rw [htracks.units, htracks.find?_live hu, Option.map_some]
  · rw [← SourceUnit.isSome_entry?, hentry, Option.isSome_some]
  · obtain ⟨decl, hdecl, rfl⟩ := Option.map_eq_some_iff.1 hentry
    refine ⟨decl, List.mem_reverse.1 (List.mem_of_find?_eq_some hdecl), ?_, rfl⟩
    simpa using List.find?_some hdecl

/--
After any changes all that an index tells comes from the latest versions of the units that are live.
So once a unit has been removed it tells nothing of it, and once a unit has been added anew it tells
nothing of what the unit said before.
-/
theorem run_tellsOnly_latest (changes : List Change)
    : (run changes).TellsOnly (Latest changes)
      ∧ (∀ unit later, (∀ c, c ∈ later → c.unit ≠ unit) →
          (run (changes ++ .remove unit :: later)).TellsOnly fun u => u.id ≠ unit)
      ∧ ∀ u later, (∀ c, c ∈ later → c.unit ≠ u.id) →
          (run (changes ++ .add u :: later)).TellsOnly fun v => v.id = u.id → v = u := by
  refine ⟨(run_holdsOnly_latest changes).tellsOnly, ?_, ?_⟩
  · intro unit later hlater
    exact ((run_holdsOnly_latest _).mono fun u hu => hu.id_ne hlater).tellsOnly
  · intro u later hlater
    exact ((run_holdsOnly_latest _).mono fun v hv => hv.eq_of_id_eq hlater).tellsOnly

theorem run_tellsOnly_latest_replaced
    : let unit := fun id text =>
        SourceUnit.ofTokens id text ((Java.tokenize text).toOption.getD [])
      let old := unit "A.java" "class A extends B { @Deprecated void old() {} }"
      let new := unit "A.java" "class A { void young() {} }"
      let parent := unit "B.java" "class B { int size; }"
      let later := [Change.add parent, .remove "C.java"]
      let index := run ([.add old] ++ .add new :: later)
      (∀ c, c ∈ later → c.unit ≠ new.id)
        ∧ index.TellsOnly (fun v => v.id = new.id → v = new)
        ∧ index.containsType "A" = true
        ∧ index.ownMember? "old" .method "A" = none
        ∧ index.supertypes "A" = [] := by
  intro unit old new parent later index
  have hlater : ∀ c, c ∈ later → c.unit ≠ new.id := by
    decide +kernel
  refine ⟨hlater, (run_tellsOnly_latest [.add old]).2.2 new later hlater, ?_, ?_, ?_⟩
  · decide +kernel
  · decide +kernel
  · decide +kernel

end Index

end DeprecatedUse
