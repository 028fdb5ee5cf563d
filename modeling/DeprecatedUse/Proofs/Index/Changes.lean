import DeprecatedUse.Index
import Mathlib.Data.List.Induction

/-!
This module contains what becomes of an index when units are added and removed one after another.
The invariant is `Index.Tracks`: the entry of a type is that of the unit which declared the type
last, as long as this version of the unit is live. So a type of a live unit is forgotten exactly
when another unit declared it later and is no longer there.
-/

namespace DeprecatedUse

open DeprecatedUse.Java (TypeDecl SourceUnit)

namespace Java.SourceUnit

def typeNames (u : SourceUnit) : List String :=
  u.declarations.types.map TypeDecl.qualifiedName

def entry? (u : SourceUnit) (name : String) : Option Index.Entry :=
  (u.declarations.types.reverse.find? fun decl => decl.qualifiedName = name).map
    (Index.Entry.of u.id)

theorem isSome_entry? (u : SourceUnit) (name : String)
    : (u.entry? name).isSome ↔ name ∈ u.typeNames := by
  unfold entry? typeNames
  rw [Option.isSome_map, List.find?_isSome]
  simp

theorem unit_of_entry? {u : SourceUnit} {name : String} {e : Index.Entry}
    (h : u.entry? name = some e) : e.unit = u.id := by
  unfold entry? at h
  rw [Option.map_eq_some_iff] at h
  obtain ⟨decl, -, rfl⟩ := h
  rfl

end Java.SourceUnit

namespace Index

inductive Change where
  | add (u : SourceUnit)
  | remove (unit : UnitId)

def apply (index : Index) : Change → Index
  | .add u => index.add u
  | .remove unit => index.remove unit

def run (changes : List Change) : Index :=
  changes.foldl apply {}

/--
The units that have been added and not removed since, each in its latest version.
-/
def liveUnits (changes : List Change) : List SourceUnit :=
  changes.foldl (fun live change =>
    match change with
    | .add u => (live.filter fun v => v.id ≠ u.id) ++ [u]
    | .remove unit => live.filter fun v => v.id ≠ unit) []

/--
The unit that was the last one to be added with a declaration of the type.
-/
def lastDeclarer? (changes : List Change) (name : String) : Option SourceUnit :=
  changes.foldl (fun last change =>
    match change with
    | .add u => if name ∈ u.typeNames then some u else last
    | .remove _ => last) none

section Tables

theorem find?_foldl_dropType (unit : UnitId) (names : List String) (types : Table String Entry)
    (x : String) (e : Entry)
    : (names.foldl (dropType unit) types).find? x = some e
        ↔
      types.find? x = some e ∧ ¬ (e.unit = unit ∧ x ∈ names) := by
  induction names generalizing types with
  | nil => simp
  | cons name rest ih =>
    rw [List.foldl_cons]
    rw [ih]
    unfold dropType
    split
    · next hnone =>
      by_cases hx : x = name
      · subst hx
        simp [hnone]
      · simp [hx]
    · next e' hsome =>
      by_cases hx : x = name
      · subst hx
        by_cases hunit : e'.unit = unit
        · simp only [hunit, ↓reduceIte, Table.find?_erase, hsome]
          grind
        · simp only [hunit, ↓reduceIte, hsome]
          grind
      · split
        · simp [hx]
        · simp [hx]

theorem find?_foldl_insert (unit : UnitId) (decls : List TypeDecl) (types : Table String Entry)
    (x : String)
    : (decls.foldl (fun types decl => types.insert decl.qualifiedName (Entry.of unit decl))
        types).find? x
        =
      ((decls.reverse.find? fun decl => decl.qualifiedName = x).map (Entry.of unit)).or
        (types.find? x) := by
  induction decls generalizing types with
  | nil => simp
  | cons decl rest ih =>
    rw [List.foldl_cons]
    rw [ih]
    rw [List.reverse_cons, List.find?_append]
    rw [Table.find?_insert]
    by_cases hx : decl.qualifiedName = x
    · subst hx
      cases rest.reverse.find? fun d => d.qualifiedName = decl.qualifiedName <;> simp
    · have hx' : x ≠ decl.qualifiedName := fun h => hx h.symm
      cases rest.reverse.find? fun d => d.qualifiedName = x <;> simp [hx, hx']

theorem find?_types_remove (index : Index) (unit : UnitId) (x : String) (e : Entry)
    : (index.remove unit).types.find? x = some e
        ↔
      index.types.find? x = some e
        ∧ ¬ (e.unit = unit ∧ x ∈ (index.units.find? unit).getD []) := by
  apply find?_foldl_dropType

theorem find?_types_add (index : Index) (u : SourceUnit) (x : String)
    : (index.add u).types.find? x = (u.entry? x).or ((index.remove u.id).types.find? x) := by
  apply find?_foldl_insert

end Tables

structure Tracks (index : Index) (live : List SourceUnit) (last : String → Option SourceUnit) :
    Prop where
  types : ∀ x e, index.types.find? x = some e
    ↔ ∃ v, v ∈ live ∧ last x = some v ∧ v.entry? x = some e
  units : ∀ unit, index.units.find? unit
    = (live.find? fun v => v.id = unit).map SourceUnit.typeNames
  unique : ∀ v, v ∈ live → ∀ w, w ∈ live → v.id = w.id → v = w

theorem find?_filter_id_ne (live : List SourceUnit) (unit other : UnitId)
    : ((live.filter fun v => v.id ≠ unit).find? fun v => v.id = other)
        =
      if other = unit then none else live.find? fun v => v.id = other := by
  rw [List.find?_filter]
  split
  · next heq =>
    subst heq
    rw [List.find?_eq_none]
    intro v _
    simp
  · next hne =>
    congr 1
    funext v
    by_cases hv : v.id = other
    · simp [hv, hne]
    · simp [hv]

namespace Tracks

variable {index : Index} {live : List SourceUnit} {last : String → Option SourceUnit}

theorem empty : Tracks {} [] fun _ => none := by
  constructor
  · intro x e
    simp
  · intro unit
    simp
  · intro v hv
    simp at hv

theorem find?_live (h : Tracks index live last) {v : SourceUnit} (hv : v ∈ live)
    : (live.find? fun w => w.id = v.id) = some v := by
  cases hfind : live.find? fun w => w.id = v.id with
  | none =>
    rw [List.find?_eq_none] at hfind
    have := hfind v hv
    simp at this
  | some w =>
    have hw : w.id = v.id := by simpa using List.find?_some hfind
    rw [h.unique w (List.mem_of_find?_eq_some hfind) v hv hw]

theorem remove (h : Tracks index live last) (unit : UnitId)
    : Tracks (index.remove unit) (live.filter fun v => v.id ≠ unit) last := by
  constructor
  · intro x e
    rw [find?_types_remove, h.types]
    constructor
    · rintro ⟨⟨v, hv, hlast, hentry⟩, hkept⟩
      refine ⟨v, ?_, hlast, hentry⟩
      rw [List.mem_filter]
      refine ⟨hv, ?_⟩
      -- a live unit lists every type that it has an entry for
      have hunit : v.id ≠ unit := by
        intro heq
        apply hkept
        subst heq
        refine ⟨SourceUnit.unit_of_entry? hentry, ?_⟩
        rw [h.units, h.find?_live hv]
        rw [Option.map_some, Option.getD_some, ← SourceUnit.isSome_entry?, hentry]
        rfl
      simpa using hunit
    · rintro ⟨v, hv, hlast, hentry⟩
      rw [List.mem_filter] at hv
      refine ⟨⟨v, hv.1, hlast, hentry⟩, ?_⟩
      rintro ⟨hunit, -⟩
      rw [SourceUnit.unit_of_entry? hentry] at hunit
      simp [hunit] at hv
  · intro other
    have hunits : (index.remove unit).units = index.units.erase unit := rfl
    rw [hunits, Table.find?_erase, h.units, find?_filter_id_ne]
    split
    · rfl
    · rfl
  · intro v hv w hw heq
    exact h.unique v (List.mem_filter.1 hv).1 w (List.mem_filter.1 hw).1 heq

theorem add (h : Tracks index live last) (u : SourceUnit)
    : Tracks (index.add u) ((live.filter fun v => v.id ≠ u.id) ++ [u])
        fun x => if x ∈ u.typeNames then some u else last x := by
  have hremoved := h.remove u.id
  constructor
  · intro x e
    -- What the unit declares is its own now; all else is as after its removal.
    rw [find?_types_add]
    cases hentry : u.entry? x with
    | some e' =>
      have hx : x ∈ u.typeNames := by
        rw [← SourceUnit.isSome_entry?, hentry]
        rfl
      simp only [Option.some_or, hx, ↓reduceIte]
      constructor
      · intro he
        exact ⟨u, by simp, rfl, by rw [hentry, he]⟩
      · rintro ⟨v, -, hv, he⟩
        rw [Option.some.injEq] at hv
        subst hv
        rw [← hentry, he]
    | none =>
      have hx : x ∉ u.typeNames := by
        rw [← SourceUnit.isSome_entry?, hentry]
        simp
      simp only [Option.none_or, hx, ↓reduceIte]
      rw [hremoved.types]
      constructor
      · rintro ⟨v, hv, hlast, he⟩
        exact ⟨v, List.mem_append_left _ hv, hlast, he⟩
      · rintro ⟨v, hv, hlast, he⟩
        refine ⟨v, ?_, hlast, he⟩
        rw [List.mem_append, List.mem_singleton] at hv
        cases hv with
        | inl hv => exact hv
        | inr hv =>
          subst hv
          rw [hentry] at he
          cases he
  · intro unit
    have hunits : (index.add u).units = (index.remove u.id).units.insert u.id u.typeNames := rfl
    rw [hunits, Table.find?_insert, hremoved.units, List.find?_append]
    split
    · next heq =>
      subst heq
      rw [find?_filter_id_ne]
      simp
    · next hne =>
      have hne' : u.id ≠ unit := fun heq => hne heq.symm
      simp [hne']
  · intro v hv w hw heq
    simp only [List.mem_append, List.mem_filter, decide_eq_true_eq, List.mem_singleton] at hv hw
    rcases hv with ⟨hv, hvu⟩ | rfl
    · rcases hw with ⟨hw, -⟩ | rfl
      · exact h.unique v hv w hw heq
      · exact absurd heq hvu
    · rcases hw with ⟨hw, hwu⟩ | rfl
      · exact absurd heq.symm hwu
      · rfl

end Tracks

theorem tracks_run (changes : List Change)
    : Tracks (run changes) (liveUnits changes) (lastDeclarer? changes) := by
  induction changes using List.reverseRecOn with
  | nil => exact Tracks.empty
  | append_singleton changes change ih =>
    unfold run liveUnits lastDeclarer?
    simp only [List.foldl_append, List.foldl_cons, List.foldl_nil]
    cases change with
    | add u => exact ih.add u
    | remove unit => exact ih.remove unit

theorem mem_typeNames_of_lastDeclarer? {changes : List Change} {name : String} {v : SourceUnit}
    (h : lastDeclarer? changes name = some v) : name ∈ v.typeNames := by
  induction changes using List.reverseRecOn with
  | nil => simp [lastDeclarer?] at h
  | append_singleton changes change ih =>
    unfold lastDeclarer? at h ih
    simp only [List.foldl_append, List.foldl_cons, List.foldl_nil] at h
    cases change with
    | add u =>
      dsimp only at h
      split at h
      · next hu =>
        rw [Option.some.injEq] at h
        rwa [← h]
      · exact ih h
    | remove unit => exact ih h

theorem containsType_run (changes : List Change) (name : String)
    : (run changes).containsType name = true
        ↔
      ∃ v, v ∈ liveUnits changes ∧ lastDeclarer? changes name = some v := by
  unfold containsType Table.contains
  rw [Option.isSome_iff_exists]
  constructor
  · rintro ⟨e, he⟩
    rw [(tracks_run changes).types] at he
    obtain ⟨v, hv, hlast, -⟩ := he
    exact ⟨v, hv, hlast⟩
  · rintro ⟨v, hv, hlast⟩
    have hentry := (SourceUnit.isSome_entry? v name).2 (mem_typeNames_of_lastDeclarer? hlast)
    rw [Option.isSome_iff_exists] at hentry
    obtain ⟨e, he⟩ := hentry
    exact ⟨e, ((tracks_run changes).types name e).2 ⟨v, hv, hlast, he⟩⟩

section Rebuilding

theorem ofUnits_eq_run (units : List SourceUnit) : ofUnits units = run (units.map Change.add) := by
  unfold ofUnits run
  rw [List.foldl_map]
  rfl

theorem liveUnits_map_add {units : List SourceUnit}
    (h : units.Pairwise fun v w => v.id ≠ w.id) : liveUnits (units.map Change.add) = units := by
  induction units using List.reverseRecOn with
  | nil => rfl
  | append_singleton units u ih =>
    rw [List.pairwise_append] at h
    specialize ih h.1
    unfold liveUnits at *
    rw [List.map_append, List.foldl_append, ih]
    simp only [List.map_cons, List.map_nil, List.foldl_cons, List.foldl_nil]
    rw [List.filter_eq_self.2]
    intro v hv
    simpa using h.2.2 v hv u (by simp)

theorem isSome_lastDeclarer?_map_add (units : List SourceUnit) (name : String)
    : (lastDeclarer? (units.map Change.add) name).isSome ↔ ∃ u, u ∈ units ∧ name ∈ u.typeNames := by
  induction units using List.reverseRecOn with
  | nil => simp [lastDeclarer?]
  | append_singleton units u ih =>
    unfold lastDeclarer? at *
    rw [List.map_append, List.foldl_append]
    simp only [List.map_cons, List.map_nil, List.foldl_cons, List.foldl_nil]
    by_cases hu : name ∈ u.typeNames
    · simp only [hu, ↓reduceIte, Option.isSome_some, true_iff]
      exact ⟨u, by simp, hu⟩
    · simp only [hu, ↓reduceIte, ih, List.mem_append, List.mem_singleton]
      constructor
      · rintro ⟨v, hv, hname⟩
        exact ⟨v, .inl hv, hname⟩
      · rintro ⟨v, hv | rfl, hname⟩
        · exact ⟨v, hv, hname⟩
        · exact absurd hname hu

theorem lastDeclarer?_map_add_mem {units : List SourceUnit} {name : String} {v : SourceUnit}
    (h : lastDeclarer? (units.map Change.add) name = some v) : v ∈ units := by
  induction units using List.reverseRecOn with
  | nil => simp [lastDeclarer?] at h
  | append_singleton units u ih =>
    unfold lastDeclarer? at h ih
    rw [List.map_append, List.foldl_append] at h
    simp only [List.map_cons, List.map_nil, List.foldl_cons, List.foldl_nil] at h
    split at h
    · rw [Option.some.injEq] at h
      simp [h]
    · exact List.mem_append_left _ (ih h)

theorem pairwise_id_liveUnits (changes : List Change)
    : (liveUnits changes).Pairwise fun v w => v.id ≠ w.id := by
  induction changes using List.reverseRecOn with
  | nil => exact List.Pairwise.nil
  | append_singleton changes change ih =>
    unfold liveUnits at *
    rw [List.foldl_append]
    cases change with
    | add u =>
      simp only [List.foldl_cons, List.foldl_nil]
      rw [List.pairwise_append]
      refine ⟨ih.filter _, List.pairwise_singleton _ _, ?_⟩
      intro v hv w hw
      rw [List.mem_singleton] at hw
      subst hw
      simpa using (List.mem_filter.1 hv).2
    | remove unit => exact ih.filter _

theorem containsType_ofUnits_liveUnits (changes : List Change) (name : String)
    : (ofUnits (liveUnits changes)).containsType name = true
        ↔
      ∃ u, u ∈ liveUnits changes ∧ name ∈ u.typeNames := by
  rw [ofUnits_eq_run, containsType_run, liveUnits_map_add (pairwise_id_liveUnits changes)]
  rw [← isSome_lastDeclarer?_map_add, Option.isSome_iff_exists]
  constructor
  · rintro ⟨v, -, hv⟩
    exact ⟨v, hv⟩
  · rintro ⟨v, hv⟩
    exact ⟨v, lastDeclarer?_map_add_mem hv, hv⟩

end Rebuilding

theorem exists_lastDeclarer? {changes : List Change} {name : String} {u : SourceUnit}
    (hu : u ∈ liveUnits changes) (hname : name ∈ u.typeNames)
    : ∃ v, lastDeclarer? changes name = some v := by
  induction changes using List.reverseRecOn with
  | nil => simp [liveUnits] at hu
  | append_singleton changes change ih =>
    unfold liveUnits at hu ih
    unfold lastDeclarer? at *
    rw [List.foldl_append] at *
    cases change with
    | add w =>
      simp only [List.foldl_cons, List.foldl_nil, List.mem_append, List.mem_singleton] at *
      by_cases hw : name ∈ w.typeNames
      · exact ⟨w, by simp [hw]⟩
      · simp only [hw, ↓reduceIte]
        rcases hu with hu | rfl
        · exact ih (List.mem_filter.1 hu).1
        · exact absurd hname hw
    | remove unit => exact ih (List.mem_filter.1 hu).1

/--
An index contains a type exactly when the unit that declared it last is live in that version. So it
forgets a type that an index of the live units has exactly when a live unit declares the type and
the unit that declared it last is gone.
-/
theorem containsType_run_iff_lastDeclarer_live (changes : List Change) (name : String)
    : ((run changes).containsType name = true
        ↔ ∃ v, v ∈ liveUnits changes ∧ lastDeclarer? changes name = some v)
      ∧ ((ofUnits (liveUnits changes)).containsType name = true
            ∧ (run changes).containsType name = false
          ↔ (∃ u, u ∈ liveUnits changes ∧ name ∈ u.typeNames)
            ∧ ∃ v, v ∉ liveUnits changes ∧ lastDeclarer? changes name = some v) := by
  refine ⟨containsType_run changes name, ?_⟩
  rw [containsType_ofUnits_liveUnits, ← Bool.not_eq_true, containsType_run]
  constructor
  · rintro ⟨⟨u, hu, hname⟩, hgone⟩
    obtain ⟨v, hv⟩ := exists_lastDeclarer? hu hname
    exact ⟨⟨u, hu, hname⟩, v, fun hlive => hgone ⟨v, hlive, hv⟩, hv⟩
  · rintro ⟨hu, v, hgone, hv⟩
    refine ⟨hu, ?_⟩
    rintro ⟨w, hw, hlast⟩
    rw [hv, Option.some.injEq] at hlast
    subst hlast
    exact hgone hw

/--
Two units declare one type, the second one is removed, and the type of the first is forgotten.
-/
theorem containsType_run_rival_removed
    : let unit := fun id =>
        SourceUnit.ofTokens id "class X \x7b\x7d" ((Java.tokenize "class X \x7b\x7d").toOption.getD [])
      let changes := [.add (unit "A.java"), .add (unit "B.java"), .remove "B.java"]
      (liveUnits changes).map SourceUnit.typeNames = [["X"]]
        ∧ (run changes).containsType "X" = false := by
  decide +kernel

end Index

end DeprecatedUse
