import DeprecatedUse.Proofs.Index.Resolution
import Mathlib.Data.List.Basic
import Mathlib.Tactic

/-!
This module contains what a simple name stands for. In the unit's own package it stands for the type
that is there. Elsewhere it should stand for the one type that the index has among its candidates
and be ambiguous between different types only. That is so unless the package of the one type is
named several times: then the name is ambiguous between this type and itself.
-/

namespace DeprecatedUse

open DeprecatedUse.Java (SourceUnit)

theorem qualify_injective (name : String) : Function.Injective (qualify · name) := by
  have hlonger : ∀ package : String, package ++ "." ++ name ≠ name := by
    intro package heq
    have hlength := congrArg String.length heq
    simp only [String.length_append] at hlength
    have hdot : ".".length = 1 := rfl
    omega
  intro p p' h
  dsimp only [qualify] at h
  split at h
  · next hp =>
    split at h
    · next hp' => rw [hp, hp']
    · exact absurd h.symm (hlonger p')
  · split at h
    · exact absurd h (hlonger p)
    · simpa using h

namespace Index

variable (index : Index) (name : String) (packages : List String)

def matching : List String :=
  (TypeRef.simple name packages).candidates.filter index.containsType

/--
The index has this one of the full names that a simple name may stand for, and no other.
-/
structure IsOnly (type : String) : Prop where
  mem : type ∈ index.matching name packages
  only : ∀ other, other ∈ index.matching name packages → other = type

/--
An answer to the question what a simple name stands for that tells no type, one type and several
types apart.
-/
structure TellsApart (answer : Except ResolutionFailure String) : Prop where
  none : answer = .error (.unknownType name) ↔ index.matching name packages = []
  one : ∀ type, answer = .ok type ↔ index.IsOnly name packages type
  several : (∃ found, answer = .error (.ambiguousType name found))
    ↔ ∃ type other, type ∈ index.matching name packages ∧ other ∈ index.matching name packages
      ∧ type ≠ other

variable {index name packages}

theorem mem_matching_iff {type : String}
    : type ∈ index.matching name packages
        ↔
      (∃ package, package ∈ packages ∧ qualify package name = type)
        ∧ index.containsType type = true := by
  simp [matching, TypeRef.candidates]

theorem IsOnly.matching_eq {package : String}
    (h : index.IsOnly name packages (qualify package name))
    : index.matching name packages
        =
      List.replicate (packages.count package) (qualify package name) := by
  have hcount : (index.matching name packages).count (qualify package name)
      = packages.count package := by
    rw [Index.matching, List.count_filter (mem_matching_iff.1 h.mem).2, TypeRef.candidates]
    exact List.count_map_of_injective packages (qualify · name) (qualify_injective name) package
  rw [List.eq_replicate_iff]
  refine ⟨?_, h.only⟩
  rw [← hcount, List.count_eq_length.2]
  intro other hother
  exact (h.only other hother).symm

theorem lookupType_own {own : String} (rest : List String)
    (h : index.containsType (qualify own name) = true)
    : index.lookupType (.simple name (own :: rest)) = .ok (qualify own name) := by
  simp [lookupType, Option.filter_some, h]

theorem lookupType_simple
    (hown : ∀ own, packages.head? = some own → index.containsType (qualify own name) = false)
    : index.lookupType (.simple name packages)
        =
      match index.matching name packages with
      | [] => .error (.unknownType name)
      | [single] => .ok single
      | found => .error (.ambiguousType name found) := by
  have hnone : (packages.head?.map (qualify · name)).filter index.containsType = none := by
    rw [Option.filter_eq_none_iff]
    intro type htype
    obtain ⟨own, hhead, rfl⟩ := Option.map_eq_some_iff.1 htype
    rw [hown own hhead]
    exact Bool.false_ne_true
  simp only [lookupType, hnone]
  rfl

theorem lookupType_repeated
    (hown : ∀ own, packages.head? = some own → index.containsType (qualify own name) = false)
    {package : String} (h : index.IsOnly name packages (qualify package name))
    (hcount : packages.count package ≠ 1)
    : index.lookupType (.simple name packages)
        =
      .error (.ambiguousType name
        (List.replicate (packages.count package) (qualify package name))) := by
  have hmatching := h.matching_eq
  have hmem := h.mem
  rw [lookupType_simple hown, hmatching]
  rw [hmatching] at hmem
  generalize packages.count package = n at hcount hmem ⊢
  match n with
  | 0 => simp at hmem
  | 1 => exact absurd rfl hcount
  | n + 2 => rfl

theorem tellsApart_of_nil (h : index.matching name packages = [])
    : index.TellsApart name packages (.error (.unknownType name)) := by
  constructor
  · simp [h]
  · intro type
    simp only [reduceCtorEq, false_iff]
    intro honly
    simpa [h] using honly.mem
  · simp [h]

theorem tellsApart_of_singleton {single : String} (h : index.matching name packages = [single])
    : index.TellsApart name packages (.ok single) := by
  constructor
  · simp [h]
  · intro type
    rw [Except.ok.injEq]
    constructor
    · rintro rfl
      constructor
      · simp [h]
      · simp [h]
    · intro honly
      apply honly.only
      simp [h]
  · simp [h]

theorem tellsApart_of_several {found : List String} (hne : index.matching name packages ≠ [])
    (h : ∀ type, ¬ index.IsOnly name packages type)
    : index.TellsApart name packages (.error (.ambiguousType name found)) := by
  constructor
  · simp [hne]
  · intro type
    simpa using h type
  · obtain ⟨type, htype⟩ := List.exists_mem_of_ne_nil _ hne
    have hother : ∃ other, other ∈ index.matching name packages ∧ other ≠ type := by
      by_contra hall
      simp only [not_exists, not_and, not_not] at hall
      exact h type ⟨htype, hall⟩
    obtain ⟨other, hother, hdifferent⟩ := hother
    constructor
    · intro _
      exact ⟨other, type, hother, htype, hdifferent⟩
    · intro _
      exact ⟨found, rfl⟩

theorem tellsApart_iff
    (hown : ∀ own, packages.head? = some own → index.containsType (qualify own name) = false)
    : index.TellsApart name packages (index.lookupType (.simple name packages))
        ↔
      ∀ package, index.IsOnly name packages (qualify package name) →
        packages.count package = 1 := by
  constructor
  · intro h package honly
    by_contra hcount
    have hone := (h.one _).2 honly
    rw [lookupType_repeated hown honly hcount] at hone
    cases hone
  · intro honce
    rw [lookupType_simple hown]
    split
    · next hnil => exact tellsApart_of_nil hnil
    · next single hsingle => exact tellsApart_of_singleton hsingle
    · next hnil hsingle =>
      apply tellsApart_of_several hnil
      intro type honly
      obtain ⟨⟨package, -, rfl⟩, -⟩ := mem_matching_iff.1 honly.mem
      apply hsingle
      rw [honly.matching_eq, honce package honly, List.replicate_one]

/--
A simple name stands for the type in the unit's own package, if the index has it. Otherwise it
stands for the only type of the index among its candidates, is unknown when there is none, and is
ambiguous when there are several, all of this exactly if the package of an only type is not named
twice. When it is, the name is ambiguous between the type and itself, once for each time.
-/
theorem lookupType_simple_tellsApart_iff (index : Index) (name : String) (packages : List String)
    : (∃ own rest, packages = own :: rest ∧ index.containsType (qualify own name) = true
          ∧ index.lookupType (.simple name packages) = .ok (qualify own name))
      ∨ (∀ own, packages.head? = some own → index.containsType (qualify own name) = false)
        ∧ (index.TellsApart name packages (index.lookupType (.simple name packages))
            ↔ ∀ package, index.IsOnly name packages (qualify package name) →
              packages.count package = 1)
        ∧ ∀ package, index.IsOnly name packages (qualify package name) →
            packages.count package ≠ 1 →
            index.lookupType (.simple name packages)
              = .error (.ambiguousType name
                  (List.replicate (packages.count package) (qualify package name))) := by
  by_cases h : ∃ own, packages.head? = some own ∧ index.containsType (qualify own name) = true
  · obtain ⟨own, hhead, hcontains⟩ := h
    obtain ⟨rest, rfl⟩ := List.head?_eq_some_iff.1 hhead
    exact .inl ⟨own, rest, rfl, hcontains, lookupType_own rest hcontains⟩
  · have hown : ∀ own, packages.head? = some own →
        index.containsType (qualify own name) = false := by
      intro own hhead
      simpa using fun hcontains => h ⟨own, hhead, hcontains⟩
    refine .inr ⟨hown, tellsApart_iff hown, ?_⟩
    intro package honly hcount
    exact lookupType_repeated hown honly hcount

/--
A unit imports a package on demand twice. There is one type with the name that it uses, and the name
is ambiguous between this type and itself.
-/
theorem importedTwice_not_tellsApart
    : let unit := fun id text =>
        SourceUnit.ofTokens id text ((Java.tokenize text).toOption.getD [])
      let index := ofUnits [unit "T.java" "package a; class T {}"]
      let user := unit "U.java"
        "package x; import a.*; import a.*; class U { void f(T t) { t.close(); } }"
      let packages := ["x", "a", "a", "java.lang"]
      user.accesses.map Java.Access.receiverType = [some (.simple "T" packages)]
        ∧ index.containsType (qualify "x" "T") = false
        ∧ index.IsOnly "T" packages "a.T"
        ∧ index.lookupType (.simple "T" packages) = .error (.ambiguousType "T" ["a.T", "a.T"])
        ∧ ¬ index.TellsApart "T" packages (index.lookupType (.simple "T" packages)) := by
  intro unit index user packages
  have hmatching : index.matching "T" packages = ["a.T", "a.T"] := by
    decide +kernel
  have honly : index.IsOnly "T" packages "a.T" := by
    constructor
    · simp [hmatching]
    · simp [hmatching]
  have hlookup : index.lookupType (.simple "T" packages)
      = .error (.ambiguousType "T" ["a.T", "a.T"]) := by
    decide +kernel
  refine ⟨?_, ?_, honly, hlookup, ?_⟩
  · decide +kernel
  · decide +kernel
  · intro h
    have hone := (h.one "a.T").2 honly
    rw [hlookup] at hone
    cases hone

end Index

end DeprecatedUse
