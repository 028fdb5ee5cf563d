import DeprecatedUse.Index
import DeprecatedUse.Proofs.Search.Generations
import DeprecatedUse.Proofs.Text.Splitting

/-!
This module contains what an index can answer. It is never at fault, and a symbol that it answers
with belongs to a type of the index and has the name that was asked for.

Types stand above each other along the supertypes that the index knows, whatever cycles these make.
A query is answered by the nearest type that declares the member: the one with the fewest steps up
to it, and of several the one that the declarations name first.
-/

namespace DeprecatedUse

open DeprecatedUse.Java (SourceUnit)

theorem lastSegment_append {owner member : String} (h : '.' ∉ member.toList)
    : lastSegment (owner ++ "." ++ member) = member := by
  have hchars : (owner ++ "." ++ member).toList = owner.toList ++ '.' :: member.toList := by
    simp
  rw [lastSegment, hchars, Text.afterLast_append h, String.ofList_toList]

theorem append_dot_inj {front front' back back' : String} (h : '.' ∉ back.toList)
    (h' : '.' ∉ back'.toList)
    : front ++ "." ++ back = front' ++ "." ++ back' ↔ front = front' ∧ back = back' := by
  have hchars : ∀ a b : String, (a ++ "." ++ b).toList = a.toList ++ '.' :: b.toList := by
    simp
  rw [← String.toList_inj, hchars, hchars, Text.append_sep_inj h h', String.toList_inj,
    String.toList_inj]

namespace Index

theorem mem_keys_iff_containsType {index : Index} {type : String}
    : type ∈ index.types.keys ↔ index.containsType type = true :=
  Table.mem_keys_iff index.types type

theorem containsType_of_lookupType {index : Index} {ref : TypeRef} {type : String}
    (h : index.lookupType ref = .ok type) : index.containsType type = true := by
  unfold lookupType at h
  split at h
  · split at h
    · next hcontains =>
      cases h
      exact hcontains
    · cases h
  · split at h
    · next own hown =>
      cases h
      exact (Option.filter_eq_some_iff.1 hown).2
    · split at h
      · cases h
      · next single hsingle =>
        cases h
        have hmem := List.mem_singleton_self type
        rw [← hsingle, List.mem_filter] at hmem
        exact hmem.2
      · cases h

def overloads? (index : Index) (member : String) (kind : MemberKind) (type : String) :
    Option (List (Option Java.Deprecation)) :=
  (index.types.find? type).bind fun e => e.members.find? (member, kind)

theorem ownMember?_eq (index : Index) (member : String) (kind : MemberKind) (type : String)
    : index.ownMember? member kind type
        =
      (index.overloads? member kind type).map (resolveOverloads (type ++ "." ++ member) kind) := by
  unfold ownMember? overloads?
  cases index.types.find? type with
  | none => rfl
  | some e => cases h : e.members.find? (member, kind) <;> simp [h]

theorem mem_symbols_iff {index : Index} {s : Symbol}
    : s ∈ index.symbols
        ↔
      ∃ type name kind overloads, index.overloads? name kind type = some overloads
        ∧ s = symbolOf (type ++ "." ++ name) kind (overloads.findSome? id) := by
  rw [symbols, List.mem_mergeSort, List.mem_flatMap]
  constructor
  · rintro ⟨⟨type, e⟩, hentry, hs⟩
    obtain ⟨⟨⟨name, kind⟩, overloads⟩, hmember, rfl⟩ := List.mem_map.1 hs
    rw [← Table.find?_eq_some_iff] at hentry hmember
    exact ⟨type, name, kind, overloads, Option.bind_eq_some_iff.2 ⟨e, hentry, hmember⟩, rfl⟩
  · rintro ⟨type, name, kind, overloads, hfind, rfl⟩
    obtain ⟨e, hentry, hmember⟩ := Option.bind_eq_some_iff.1 hfind
    rw [Table.find?_eq_some_iff] at hentry hmember
    exact ⟨(type, e), hentry, List.mem_map.2 ⟨((name, kind), overloads), hmember, rfl⟩⟩

theorem resolveOverloads_cases (name : String) (kind : MemberKind)
    (overloads : List (Option Java.Deprecation))
    : (∃ d, resolveOverloads name kind overloads = .ok (symbolOf name kind d))
      ∨ resolveOverloads name kind overloads = .error (.ambiguousOverload name) := by
  unfold resolveOverloads
  split
  · exact .inl ⟨_, rfl⟩
  · split
    · exact .inl ⟨_, rfl⟩
    · exact .inr rfl

@[simp]
theorem symbolOf_qualifiedName (name : String) (kind : MemberKind) (d : Option Java.Deprecation)
    : (symbolOf name kind d).qualifiedName = name := by
  cases d <;> rfl

theorem lookupType_not_backend (index : Index) (ref : TypeRef) (cause : String)
    : index.lookupType ref ≠ .error (.backend cause) := by
  unfold lookupType
  split
  · split <;> simp
  · split
    · simp
    · split <;> simp

theorem ownMember?_cases {index : Index} {member : String} {kind : MemberKind} {type : String}
    {answer : Resolution} (h : index.ownMember? member kind type = some answer)
    : (∃ d, answer = .ok (symbolOf (type ++ "." ++ member) kind d))
      ∨ answer = .error (.ambiguousOverload (type ++ "." ++ member)) := by
  rw [ownMember?_eq, Option.map_eq_some_iff] at h
  obtain ⟨overloads, -, rfl⟩ := h
  exact resolveOverloads_cases _ _ _

theorem resolve_cases (index : Index) (q : Query)
    : (∃ type d, index.containsType type = true
        ∧ index.resolve q = .ok (symbolOf (type ++ "." ++ q.member) q.kind d))
      ∨ ∃ failure, index.resolve q = .error failure ∧ failure.isFault = false := by
  unfold resolve
  split
  · next failure hlookup =>
    refine .inr ⟨failure, rfl, ?_⟩
    cases failure with
    | backend cause => exact absurd hlookup (lookupType_not_backend index _ cause)
    | _ => rfl
  · next owner _ =>
    split
    · next answer hfound =>
      obtain ⟨type, htype, hown⟩ := breadthFirst_some hfound
      rcases ownMember?_cases hown with ⟨d, rfl⟩ | rfl
      · exact .inl ⟨type, d, mem_keys_iff_containsType.1 htype, rfl⟩
      · exact .inr ⟨_, rfl, rfl⟩
    · exact .inr ⟨_, rfl, rfl⟩

theorem resolve_own {index : Index} {q : Query} {owner : String} {answer : Resolution}
    (hlookup : index.lookupType q.receiver = .ok owner) (howner : owner ∈ index.types.keys)
    (hown : index.ownMember? q.member q.kind owner = some answer)
    : index.resolve q = answer := by
  unfold resolve breadthFirst
  rw [hlookup]
  dsimp only
  rw [if_pos howner, hown]

/-! The graph of supertypes. -/

def Extends (index : Index) (type parent : String) : Prop :=
  ∃ e, index.types.find? type = some e
    ∧ ∃ ref, ref ∈ e.supertypes ∧ index.lookupType ref = .ok parent

/--
So many steps lead from a type up to another.
-/
inductive Above (index : Index) (type : String) : Nat → String → Prop where
  | self : Above index type 0 type
  | step {n : Nat} {mid parent : String} (h : Above index type n mid)
      (hstep : index.Extends mid parent) : Above index type (n + 1) parent

theorem mem_supertypes_iff {index : Index} {type parent : String}
    : parent ∈ index.supertypes type ↔ index.Extends type parent := by
  unfold supertypes Extends
  cases index.types.find? type with
  | none => simp
  | some e =>
    simp only [List.mem_filterMap, Option.some.injEq, exists_eq_left']
    constructor
    · rintro ⟨ref, href, hlookup⟩
      refine ⟨ref, href, ?_⟩
      cases h : index.lookupType ref with
      | error failure => simp [h, Except.toOption] at hlookup
      | ok found => simpa [h, Except.toOption] using hlookup
    · rintro ⟨ref, href, hlookup⟩
      exact ⟨ref, href, by simp [hlookup, Except.toOption]⟩

theorem mem_generation_iff {index : Index} {type parent : String} {n : Nat}
    : parent ∈ generation index.supertypes [type] n ↔ index.Above type n parent := by
  induction n generalizing parent with
  | zero =>
    rw [generation, List.mem_singleton]
    constructor
    · rintro rfl
      exact .self
    · rintro ⟨⟩
      rfl
  | succ n ih =>
    rw [generation, List.mem_flatMap]
    constructor
    · rintro ⟨mid, hmid, hstep⟩
      exact .step (ih.1 hmid) (mem_supertypes_iff.1 hstep)
    · rintro (_ | ⟨h, hstep⟩)
      exact ⟨_, ih.2 h, mem_supertypes_iff.2 hstep⟩

theorem supertypes_subset (index : Index) (type : String)
    : index.supertypes type ⊆ index.types.keys := by
  intro parent hparent
  obtain ⟨-, -, ref, -, hlookup⟩ := mem_supertypes_iff.1 hparent
  exact mem_keys_iff_containsType.2 (containsType_of_lookupType hlookup)

def steps (index : Index) : Nat :=
  (index.types.keys.map fun type => (index.supertypes type).length).sum

/-! Overloads. -/

structure Verdict (name : String) (kind : MemberKind) (overloads : List (Option Java.Deprecation))
    (answer : Resolution) : Prop where
  current : (∀ d, d ∈ overloads → d = none) →
    answer = .ok { qualifiedName := name, kind := kind }
  deprecated : ∀ d rest, overloads = some d :: rest → (∀ d', d' ∈ rest → d'.isSome = true) →
    answer = .ok { qualifiedName := name, kind := kind, deprecated := true,
                   replacement := d.replacement, forRemoval := d.forRemoval }
  ambiguous : ∀ d, some d ∈ overloads → none ∈ overloads →
    answer = .error (.ambiguousOverload name)

theorem verdict_resolveOverloads (name : String) (kind : MemberKind)
    (overloads : List (Option Java.Deprecation))
    : Verdict name kind overloads (resolveOverloads name kind overloads) := by
  constructor
  · intro hnone
    have hall : overloads.all Option.isNone = true := by
      rw [List.all_eq_true]
      intro d hd
      simp [hnone d hd]
    rw [resolveOverloads, if_pos hall]
    rfl
  · rintro d rest rfl hrest
    have hall : (some d :: rest).all Option.isSome = true := by
      simpa using hrest
    rw [resolveOverloads, if_neg (by simp), if_pos hall]
    rfl
  · intro d hsome hnone
    have hnot : ¬ overloads.all Option.isNone = true := by
      intro hall
      simpa using List.all_eq_true.1 hall _ hsome
    have hnot' : ¬ overloads.all Option.isSome = true := by
      intro hall
      simpa using List.all_eq_true.1 hall _ hnone
    rw [resolveOverloads, if_neg hnot, if_neg hnot']

/--
Of the types above `owner`, itself included, that declare the member this is the nearest, `n` steps
up, and among those as near the first one in the order in which declarations name their supertypes.
-/
structure Nearest (index : Index) (owner member : String) (kind : MemberKind) (n : Nat)
    (type : String) : Prop where
  above : index.Above owner n type
  minimal : ∀ m other, index.Above owner m other → (index.overloads? member kind other).isSome →
    n ≤ m
  first : (generation index.supertypes [owner] n).find?
    (fun other => (index.overloads? member kind other).isSome) = some type

theorem Nearest.declares {index : Index} {owner member : String} {kind : MemberKind} {n : Nat}
    {type : String} (h : index.Nearest owner member kind n type)
    : (index.overloads? member kind type).isSome := by
  simpa using List.find?_some h.first

theorem exists_nearest {index : Index} {owner member : String} {kind : MemberKind}
    (h : ∃ n type, index.Above owner n type ∧ (index.overloads? member kind type).isSome)
    : ∃ n type, index.Nearest owner member kind n type := by
  classical
  obtain ⟨type, habove, hdeclares⟩ := Nat.find_spec h
  have hfirst : ((generation index.supertypes [owner] (Nat.find h)).find? fun other =>
      (index.overloads? member kind other).isSome).isSome := by
    rw [List.find?_isSome]
    exact ⟨type, mem_generation_iff.2 habove, hdeclares⟩
  obtain ⟨first, hfirst⟩ := Option.isSome_iff_exists.1 hfirst
  refine ⟨Nat.find h, first, ?_, ?_, hfirst⟩
  · exact mem_generation_iff.1 (List.mem_of_find?_eq_some hfirst)
  · intro m other hother hdeclares
    exact Nat.find_min' h ⟨other, hother, hdeclares⟩

section Search

theorem nodup_keys (index : Index) : index.types.keys.Nodup :=
  index.types.nodup

theorem singleton_subset {owner : String} {types : List String} (h : owner ∈ types)
    : [owner] ⊆ types := by
  simpa using h

variable {index : Index} {owner member : String} {kind : MemberKind}
  (howner : owner ∈ index.types.keys)

theorem ownMember?_eq_none {type : String} (h : index.overloads? member kind type = none)
    : index.ownMember? member kind type = none := by
  rw [ownMember?_eq, h, Option.map_none]

include howner in
theorem breadthFirst_nearest {n : Nat} {type : String}
    (h : index.Nearest owner member kind n type) {overloads : List (Option Java.Deprecation)}
    (hoverloads : index.overloads? member kind type = some overloads)
    : breadthFirst index.supertypes (index.ownMember? member kind) index.types.keys [owner]
        =
      some (resolveOverloads (type ++ "." ++ member) kind overloads) := by
  apply breadthFirst_first (nodup_keys index) (singleton_subset howner)
    (fun other _ => index.supertypes_subset other) (n := n) (a := type)
  · intro m hm other hother
    apply ownMember?_eq_none
    by_contra hdeclares
    have hle := h.minimal m other (mem_generation_iff.1 hother)
      (Option.isSome_iff_ne_none.2 hdeclares)
    omega
  · simpa only [ownMember?_eq, Option.isSome_map] using h.first
  · rw [ownMember?_eq, hoverloads, Option.map_some]

theorem breadthFirst_undeclared
    (h : ∀ n type, index.Above owner n type → index.overloads? member kind type = none)
    : breadthFirst index.supertypes (index.ownMember? member kind) index.types.keys [owner]
        =
      none := by
  apply breadthFirst_none
  intro n type htype
  exact ownMember?_eq_none (h n type (mem_generation_iff.1 htype))

include howner in
theorem endsWithin_steps
    : Search.endsWithin index.supertypes (index.ownMember? member kind) (index.steps + 2)
          ⟨[owner], []⟩
        =
      some (breadthFirst index.supertypes (index.ownMember? member kind) index.types.keys
        [owner]) := by
  have hturns : Search.turns index.supertypes index.types.keys [owner] = index.steps + 2 := by
    simp only [Search.turns, steps, List.length_singleton]
    omega
  rw [← hturns]
  apply Search.endsWithin_turns (nodup_keys index) (singleton_subset howner)
    (fun other _ => index.supertypes_subset other)
  simp

end Search

theorem resolve_eq {index : Index} {q : Query} {owner : String}
    (h : index.lookupType q.receiver = .ok owner)
    : index.resolve q
        =
      (breadthFirst index.supertypes (index.ownMember? q.member q.kind) index.types.keys
        [owner]).getD (.error (.unknownMember owner q.member)) := by
  rw [resolve, h]
  dsimp only
  split
  · next hfound => rw [hfound, Option.getD_some]
  · next hfound => rw [hfound, Option.getD_none]

/--
A query about a receiver that stands for no type fails for the same reason as the receiver. One
about a type is answered by the overloads of the nearest type that declares the member; there is no
answer exactly if none does. The search for it comes to its end whatever types stand above each
other.
-/
theorem resolve_nearest (index : Index) (q : Query)
    : (∃ failure, index.lookupType q.receiver = .error failure ∧ index.resolve q = .error failure)
      ∨ ∃ owner, index.lookupType q.receiver = .ok owner
        ∧ ((∀ n type, index.Above owner n type →
                index.overloads? q.member q.kind type = none)
              ∧ index.resolve q = .error (.unknownMember owner q.member)
            ∨ ∃ n type overloads, index.Nearest owner q.member q.kind n type
              ∧ index.overloads? q.member q.kind type = some overloads
              ∧ Verdict (type ++ "." ++ q.member) q.kind overloads (index.resolve q))
        ∧ ∃ result, Search.endsWithin index.supertypes (index.ownMember? q.member q.kind)
              (index.steps + 2) ⟨[owner], []⟩ = some result
            ∧ index.resolve q = result.getD (.error (.unknownMember owner q.member)) := by
  cases hlookup : index.lookupType q.receiver with
  | error failure => exact .inl ⟨failure, rfl, by rw [resolve, hlookup]⟩
  | ok owner =>
    have howner := mem_keys_iff_containsType.2 (containsType_of_lookupType hlookup)
    refine .inr ⟨owner, rfl, ?_, ?_⟩
    · by_cases h : ∃ n type, index.Above owner n type
          ∧ (index.overloads? q.member q.kind type).isSome
      · obtain ⟨n, type, hnearest⟩ := exists_nearest h
        obtain ⟨overloads, hoverloads⟩ := Option.isSome_iff_exists.1 hnearest.declares
        refine .inr ⟨n, type, overloads, hnearest, hoverloads, ?_⟩
        rw [resolve_eq hlookup, breadthFirst_nearest howner hnearest hoverloads]
        exact verdict_resolveOverloads _ _ _
      · have hundeclared : ∀ n type, index.Above owner n type →
            index.overloads? q.member q.kind type = none := by
          intro n type habove
          by_contra hdeclares
          exact h ⟨n, type, habove, Option.isSome_iff_ne_none.2 hdeclares⟩
        refine .inl ⟨hundeclared, ?_⟩
        rw [resolve_eq hlookup, breadthFirst_undeclared hundeclared]
        rfl
    · refine ⟨_, endsWithin_steps howner, ?_⟩
      rw [resolve_eq hlookup]

/--
The types make a circle. The interface is one step up and answers before the class that is two steps
up.
-/
example
    : let text := "class A extends B implements I {} class B extends C {} "
        ++ "class C extends A { void f() {} } interface I { @Deprecated void f(); }"
      let tokens := (Java.tokenize text).toOption.getD []
      let index := ofUnits [SourceUnit.ofTokens "A.java" text tokens]
      index.steps = 4
        ∧ Search.endsWithin index.supertypes (index.ownMember? "f" .method) 3 ⟨["A"], []⟩
          = some (some (.ok { qualifiedName := "I.f", kind := .method, deprecated := true })) := by
  decide +kernel

end Index

end DeprecatedUse
