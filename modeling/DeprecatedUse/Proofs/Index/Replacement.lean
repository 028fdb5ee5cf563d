import DeprecatedUse.Proofs.Index.Agreement

/-!
This module contains what becomes of the index of some units when one of them is put in place of an
older version, or beside the others. It holds what an index of all the units holds exactly if no
other unit gets or loses a type by it.

Indexes of the same units in different orders hold the same exactly if each type is declared last by
one unit in both orders. So the order tells nothing as long as no two units declare one type,
whatever a single unit declares repeatedly.
-/

namespace DeprecatedUse

open DeprecatedUse.Java (SourceUnit)

namespace Table

variable {κ α : Type} [DecidableEq κ]

theorem size_insert (t : Table κ α) {k : κ} (h : t.find? k = none) (a : α)
    : (t.insert k a).size = t.size + 1 := by
  have hkey : ∀ e, e ∈ t.entries → e.1 ≠ k := by
    rintro e he rfl
    rw [← Option.not_isSome_iff_eq_none, ← mem_keys_iff] at h
    exact h (List.mem_map_of_mem he)
  rw [size, size, insert]
  dsimp only
  generalize t.entries = entries at hkey
  induction entries with
  | nil => rfl
  | cons e entries ih =>
    rw [insertEntry, if_neg (hkey e List.mem_cons_self), List.length_cons, List.length_cons,
      ih fun e he => hkey e (List.mem_cons_of_mem _ he)]

theorem size_erase (t : Table κ α) {k : κ} (h : t.find? k = none) : (t.erase k).size = t.size := by
  have hkey : t.entries.filter (fun e => !decide (e.1 = k)) = t.entries := by
    rw [List.filter_eq_self]
    intro e he
    rw [Bool.not_eq_true', decide_eq_false_iff_not]
    rintro rfl
    rw [← Option.not_isSome_iff_eq_none, ← mem_keys_iff] at h
    exact h (List.mem_map_of_mem he)
  rw [size, size, erase]
  dsimp only
  rw [hkey]

end Table

namespace Index

/--
No two of these units have one name.
-/
def Distinct (units : List SourceUnit) : Prop :=
  units.Pairwise fun v w => v.id ≠ w.id

def declarer? (units : List SourceUnit) (type : String) : Option SourceUnit :=
  units.reverse.find? fun u => type ∈ u.typeNames

theorem declarer?_append (units more : List SourceUnit) (type : String)
    : declarer? (units ++ more) type = (declarer? more type).or (declarer? units type) := by
  rw [declarer?, List.reverse_append, List.find?_append, ← declarer?, ← declarer?]

theorem declarer?_singleton (u : SourceUnit) (type : String)
    : declarer? [u] type = if type ∈ u.typeNames then some u else none := by
  rw [declarer?, List.reverse_singleton, List.find?_singleton]
  simp

theorem declarer?_some {units : List SourceUnit} {type : String} {u : SourceUnit}
    (h : declarer? units type = some u) : u ∈ units ∧ type ∈ u.typeNames :=
  ⟨List.mem_reverse.1 (List.mem_of_find?_eq_some h), by simpa using List.find?_some h⟩

theorem declarer?_eq_none {units : List SourceUnit} {type : String}
    : declarer? units type = none ↔ ∀ u, u ∈ units → type ∉ u.typeNames := by
  rw [declarer?, List.find?_eq_none]
  simp

theorem ofUnits_concat (units : List SourceUnit) (u : SourceUnit)
    : ofUnits (units ++ [u]) = (ofUnits units).add u := by
  rw [ofUnits, List.foldl_append, ← ofUnits, List.foldl_cons, List.foldl_nil]

variable {units : List SourceUnit}

theorem find?_units_ofUnits (h : Distinct units) (id : UnitId)
    : (ofUnits units).units.find? id
        = (units.find? fun v => v.id = id).map SourceUnit.typeNames := by
  rw [ofUnits_eq_run, (tracks_run _).units, liveUnits_map_add h]

theorem find?_units_of_concat {u : SourceUnit} (h : Distinct (units ++ [u]))
    : (ofUnits units).units.find? u.id = none := by
  obtain ⟨hunits, -, hlast⟩ := List.pairwise_append.1 h
  rw [find?_units_ofUnits hunits, Option.map_eq_none_iff, List.find?_eq_none]
  intro v hv
  simpa using hlast v hv u (List.mem_singleton_self u)

theorem find?_types_ofUnits (h : Distinct units) (type : String)
    : (ofUnits units).types.find? type = (declarer? units type).bind (fun w => w.entry? type) := by
  induction units using List.reverseRecOn with
  | nil => rfl
  | append_singleton units u ih =>
    have hremove : ((ofUnits units).remove u.id).types = (ofUnits units).types := by
      rw [remove, find?_units_of_concat h]
      rfl
    have hunits := (List.pairwise_append.1 h).1
    rw [ofUnits_concat, find?_types_add, hremove, ih hunits, declarer?_append, declarer?_singleton]
    split
    · next htype =>
      obtain ⟨e, he⟩ := Option.isSome_iff_exists.1 ((u.isSome_entry? type).2 htype)
      rw [Option.some_or, Option.bind_some, he, Option.some_or]
    · next htype =>
      have hnone : u.entry? type = none := by
        rw [← Option.not_isSome_iff_eq_none, u.isSome_entry?]
        exact htype
      rw [hnone, Option.none_or, Option.none_or]

theorem find?_id {units : List SourceUnit} (h : Distinct units) {w : SourceUnit} (hw : w ∈ units)
    : (units.find? fun v => v.id = w.id) = some w := by
  have hlive := liveUnits_map_add h
  have hfind := (tracks_run (units.map Change.add)).find?_live (hlive.symm ▸ hw)
  rwa [hlive] at hfind

theorem find?_types_remove_ofUnits (h : Distinct units) (id : UnitId) (type : String)
    : ((ofUnits units).remove id).types.find? type
        = ((declarer? units type).filter (·.id ≠ id)).bind (fun w => w.entry? type) := by
  apply Option.ext
  intro e
  rw [find?_types_remove, find?_types_ofUnits h]
  cases hdeclarer : declarer? units type with
  | none => simp
  | some w =>
    obtain ⟨hw, htype⟩ := declarer?_some hdeclarer
    rw [Option.bind_some]
    by_cases hid : w.id = id
    · subst hid
      have hlisted : type ∈ ((ofUnits units).units.find? w.id).getD [] := by
        rw [find?_units_ofUnits h, find?_id h hw]
        exact htype
      simp only [ne_eq, not_true_eq_false, decide_false, Option.filter_some, Bool.false_eq_true,
        if_false, Option.bind_none, reduceCtorEq, iff_false, not_and]
      exact fun he hkept => hkept (SourceUnit.unit_of_entry? he) hlisted
    · simp only [ne_eq, hid, not_false_eq_true, decide_true, Option.filter_some, if_true,
        Option.bind_some, and_iff_left_iff_imp, not_and]
      intro he heq
      exact absurd ((SourceUnit.unit_of_entry? he).symm.trans heq) hid

/-! Counting units. -/

theorem size_units_add {i : Index} {u : SourceUnit} (h : i.units.find? u.id = none)
    : (i.add u).units.size = i.units.size + 1 := by
  have hadd : (i.add u).units = (i.units.erase u.id).insert u.id u.typeNames := rfl
  rw [hadd, Table.size_insert, Table.size_erase _ h]
  rw [Table.find?_erase, if_pos rfl]

theorem size_units_ofUnits (h : Distinct units)
    : (ofUnits units).units.size = units.length := by
  induction units using List.reverseRecOn with
  | nil => rfl
  | append_singleton units u ih =>
    have hunits := (List.pairwise_append.1 h).1
    rw [ofUnits_concat, size_units_add (find?_units_of_concat h), ih hunits, List.length_append, List.length_singleton]

/-! Replacing a unit. -/

section Replacement

variable {front back : List SourceUnit} {gone : Option SourceUnit} {u : SourceUnit}

theorem distinct_gone (h : Distinct (front ++ u :: back)) (hgone : ∀ v, gone = some v → v.id = u.id)
    : Distinct (front ++ (gone.toList ++ back)) := by
  cases gone with
  | none => exact h.sublist ((List.sublist_cons_self u back).append_left front)
  | some v =>
    have hids : (front ++ v :: back).map SourceUnit.id
        = (front ++ u :: back).map SourceUnit.id := by
      rw [List.map_append, List.map_append, List.map_cons, List.map_cons, hgone v rfl]
    have hnodup : ((front ++ u :: back).map SourceUnit.id).Pairwise (· ≠ ·) :=
      List.pairwise_map.2 h
    rw [← hids] at hnodup
    exact List.pairwise_map.1 hnodup

theorem id_ne (h : Distinct (front ++ u :: back)) {w : SourceUnit} (hw : w ∈ front ++ back)
    : w.id ≠ u.id := by
  obtain ⟨-, hback, hfront⟩ := List.pairwise_append.1 h
  obtain hw | hw := List.mem_append.1 hw
  · exact hfront w hw u List.mem_cons_self
  · exact ((List.pairwise_cons.1 hback).1 w hw).symm

theorem filter_declarer? (h : Distinct (front ++ u :: back)) {units : List SourceUnit}
    (hunits : units ⊆ front ++ back) (type : String)
    : (declarer? units type).filter (·.id ≠ u.id) = declarer? units type := by
  cases hlast : declarer? units type with
  | none => rfl
  | some w =>
    have hid := id_ne h (hunits (declarer?_some hlast).1)
    rw [Option.filter_some, if_pos (decide_eq_true hid)]

theorem find?_types_all (h : Distinct (front ++ u :: back)) (type : String)
    : (ofUnits (front ++ u :: back)).types.find? type
        = ((declarer? back type).or
            ((if type ∈ u.typeNames then some u else none).or (declarer? front type))).bind
              (fun w => w.entry? type) := by
  rw [find?_types_ofUnits h, List.append_cons, declarer?_append, declarer?_append,
    declarer?_singleton]

theorem find?_types_added (h : Distinct (front ++ u :: back))
    (hgone : ∀ v, gone = some v → v.id = u.id) (type : String)
    : ((ofUnits (front ++ (gone.toList ++ back))).add u).types.find? type
        = (u.entry? type).or (((declarer? back type).or
            (if gone.any (type ∈ ·.typeNames) then none else declarer? front type)).bind
              (fun w => w.entry? type)) := by
  have hfront := filter_declarer? h (List.subset_append_left front back) type
  have hback := filter_declarer? h (List.subset_append_right front back) type
  rw [find?_types_add, find?_types_remove_ofUnits (distinct_gone h hgone), declarer?_append,
    declarer?_append]
  cases hlast : declarer? back type with
  | some w =>
    rw [hlast] at hback
    rw [Option.some_or, Option.some_or, hback, Option.some_or]
  | none =>
    rw [Option.none_or, Option.none_or]
    cases gone with
    | none =>
      rw [Option.toList_none, declarer?, List.reverse_nil, List.find?_nil, Option.none_or, hfront]
      rfl
    | some v =>
      rw [Option.toList_some, declarer?_singleton, Option.any_some]
      by_cases htype : type ∈ v.typeNames
      · rw [if_pos htype, Option.some_or, Option.filter_some,
          if_neg (by simp [hgone v rfl]), if_pos (decide_eq_true htype)]
      · rw [if_neg htype, Option.none_or, hfront, if_neg (by simp [htype])]

theorem exists_entry_of_declarer? {units : List SourceUnit} {type : String} {w : SourceUnit}
    (h : declarer? units type = some w) : ∃ e, w.entry? type = some e ∧ e.unit = w.id := by
  obtain ⟨e, he⟩ := Option.isSome_iff_exists.1 ((w.isSome_entry? type).2 (declarer?_some h).2)
  exact ⟨e, he, SourceUnit.unit_of_entry? he⟩

theorem find?_types_eq_iff (h : Distinct (front ++ u :: back))
    (hgone : ∀ v, gone = some v → v.id = u.id) (type : String)
    : ((ofUnits (front ++ (gone.toList ++ back))).add u).types.find? type
          = (ofUnits (front ++ u :: back)).types.find? type
        ↔ (type ∈ u.typeNames → declarer? back type = none)
          ∧ (type ∉ u.typeNames → gone.any (type ∈ ·.typeNames) = true →
              declarer? back type = none → declarer? front type = none) := by
  rw [find?_types_added h hgone, find?_types_all h]
  -- The last unit to declare a type holds it: `u` is the last of the one index and in the middle of
  -- the other.
  by_cases htype : type ∈ u.typeNames
  · obtain ⟨e, he⟩ := Option.isSome_iff_exists.1 ((u.isSome_entry? type).2 htype)
    rw [he, Option.some_or, if_pos htype]
    cases hlast : declarer? back type with
    | none => simp [he, htype]
    | some w =>
      obtain ⟨e', he', hunit⟩ := exists_entry_of_declarer? hlast
      have hne : e ≠ e' := by
        rintro rfl
        have hw := List.mem_append_right front (declarer?_some hlast).1
        exact id_ne h hw (hunit.symm.trans (SourceUnit.unit_of_entry? he))
      simp [he', htype, hne]
  · have hnone : u.entry? type = none := by
      rw [← Option.not_isSome_iff_eq_none, u.isSome_entry?]
      exact htype
    rw [hnone, Option.none_or, if_neg htype, Option.none_or]
    cases hlast : declarer? back type with
    | some w => simp [htype]
    | none =>
      rw [Option.none_or, Option.none_or]
      split
      · next hany =>
        cases hfirst : declarer? front type with
        | none => simp
        | some w =>
          obtain ⟨e, he, -⟩ := exists_entry_of_declarer? hfirst
          simp [he, htype, hany]
      · next hany => simp [htype, hany]

theorem find?_units_eq (h : Distinct (front ++ u :: back))
    (hgone : ∀ v, gone = some v → v.id = u.id) (id : UnitId)
    : ((ofUnits (front ++ (gone.toList ++ back))).add u).units.find? id
        = (ofUnits (front ++ u :: back)).units.find? id := by
  have hadd : ∀ i : Index, (i.add u).units = (i.units.erase u.id).insert u.id u.typeNames :=
    fun _ => rfl
  rw [hadd, Table.find?_insert, Table.find?_erase, find?_units_ofUnits (distinct_gone h hgone),
    find?_units_ofUnits h]
  by_cases hid : id = u.id
  · subst hid
    rw [if_pos rfl, find?_id h (List.mem_append_right front List.mem_cons_self), Option.map_some]
  · have hgone' : (gone.toList.find? fun v => v.id = id) = none := by
      rw [List.find?_eq_none]
      intro v hv
      rw [decide_eq_true_eq, hgone v (Option.mem_toList.1 hv)]
      exact Ne.symm hid
    rw [if_neg hid, if_neg hid, List.find?_append, List.find?_append, List.find?_append, hgone',
      Option.none_or, List.find?_cons_of_neg]
    rw [decide_eq_true_eq]
    exact Ne.symm hid

theorem add_alike_iff (h : Distinct (front ++ u :: back))
    (hgone : ∀ v, gone = some v → v.id = u.id)
    : ((ofUnits (front ++ (gone.toList ++ back))).add u).Alike (ofUnits (front ++ u :: back))
        ↔ (∀ type, type ∈ u.typeNames → ∀ w, w ∈ back → type ∉ w.typeNames)
          ∧ ∀ v, gone = some v → ∀ type, type ∈ v.typeNames → type ∉ u.typeNames →
              (∃ w, w ∈ back ∧ type ∈ w.typeNames) ∨ ∀ w, w ∈ front → type ∉ w.typeNames := by
  have halike : ((ofUnits (front ++ (gone.toList ++ back))).add u).Alike
        (ofUnits (front ++ u :: back))
      ↔ ∀ type, (type ∈ u.typeNames → declarer? back type = none)
          ∧ (type ∉ u.typeNames → gone.any (type ∈ ·.typeNames) = true →
              declarer? back type = none → declarer? front type = none) := by
    constructor
    · intro halike type
      exact (find?_types_eq_iff h hgone type).1 (halike.types type)
    · intro hall
      exact ⟨fun type => (find?_types_eq_iff h hgone type).2 (hall type), find?_units_eq h hgone⟩
  -- What is left is to read the two conditions off the units in front and behind.
  rw [halike]
  simp only [declarer?_eq_none]
  constructor
  · intro hall
    refine ⟨fun type => (hall type).1, ?_⟩
    rintro v rfl type htype hnew
    by_contra hneither
    rw [not_or, not_exists] at hneither
    exact hneither.2 ((hall type).2 hnew (by simpa using htype) fun w hw htype =>
      hneither.1 w ⟨hw, htype⟩)
  · rintro ⟨hnew, hold⟩ type
    refine ⟨hnew type, fun htype hany hback => ?_⟩
    cases gone with
    | none => cases hany
    | some v =>
      obtain ⟨w, hw, hdeclares⟩ | hnone := hold v rfl type (by simpa using hany) htype
      · exact absurd hdeclares (hback w hw)
      · exact hnone

end Replacement

/-! Units in another order. -/

/--
No two of these units declare one type.
-/
def Separate (units : List SourceUnit) : Prop :=
  units.Pairwise fun u v => ∀ type, type ∈ u.typeNames → type ∉ v.typeNames

variable {units' : List SourceUnit}

theorem Separate.eq_of_mem (h : Separate units) {u v : SourceUnit} (hu : u ∈ units)
    (hv : v ∈ units) {type : String} (htype : type ∈ u.typeNames) (htype' : type ∈ v.typeNames)
    : u = v := by
  have hsymm : Std.Symm fun u v : SourceUnit =>
      type ∈ u.typeNames → type ∈ v.typeNames → u = v :=
    ⟨fun u v huv hv hu => (huv hu hv).symm⟩
  have hunits : units.Pairwise fun u v => type ∈ u.typeNames → type ∈ v.typeNames → u = v :=
    h.imp fun hseparate hu hv => absurd hv (hseparate type hu)
  exact hunits.forall_of_forall (fun _ _ _ _ => rfl) hu hv htype htype'

theorem Separate.declarer?_eq_some_iff (h : Separate units) {type : String} {u : SourceUnit}
    : declarer? units type = some u ↔ u ∈ units ∧ type ∈ u.typeNames := by
  constructor
  · exact declarer?_some
  · rintro ⟨hu, htype⟩
    cases hlast : declarer? units type with
    | none => exact absurd htype (declarer?_eq_none.1 hlast u hu)
    | some w =>
      obtain ⟨hw, htype'⟩ := declarer?_some hlast
      rw [h.eq_of_mem hw hu htype' htype]

theorem Separate.perm (h : Separate units) (hperm : units.Perm units') : Separate units' :=
  List.Pairwise.perm h hperm fun huv type hv hu => huv type hu hv

theorem declarer?_perm (h : Separate units) (hperm : units.Perm units') (type : String)
    : declarer? units type = declarer? units' type := by
  apply Option.ext
  intro u
  rw [h.declarer?_eq_some_iff, (h.perm hperm).declarer?_eq_some_iff, hperm.mem_iff]

theorem Distinct.perm (h : Distinct units) (hperm : units.Perm units') : Distinct units' :=
  List.Pairwise.perm h hperm Ne.symm

theorem find?_id_eq_some_iff (h : Distinct units) {id : UnitId} {u : SourceUnit}
    : (units.find? fun v => v.id = id) = some u ↔ u ∈ units ∧ u.id = id := by
  constructor
  · intro hfind
    exact ⟨List.mem_of_find?_eq_some hfind, by simpa using List.find?_some hfind⟩
  · rintro ⟨hu, rfl⟩
    exact find?_id h hu

theorem find?_units_perm (h : Distinct units) (hperm : units.Perm units') (id : UnitId)
    : (ofUnits units).units.find? id = (ofUnits units').units.find? id := by
  rw [find?_units_ofUnits h, find?_units_ofUnits (h.perm hperm)]
  congr 1
  apply Option.ext
  intro u
  rw [find?_id_eq_some_iff h, find?_id_eq_some_iff (h.perm hperm), hperm.mem_iff]

theorem Distinct.eq_of_id_eq (h : Distinct units) {u v : SourceUnit} (hu : u ∈ units)
    (hv : v ∈ units) (hid : u.id = v.id) : u = v := by
  have hfind := find?_id h hu
  rw [hid, find?_id h hv] at hfind
  exact (Option.some.inj hfind).symm

theorem map_unit_find?_types (h : Distinct units) (type : String)
    : ((ofUnits units).types.find? type).map Entry.unit
        = (declarer? units type).map SourceUnit.id := by
  rw [find?_types_ofUnits h]
  cases hlast : declarer? units type with
  | none => rfl
  | some u =>
    obtain ⟨e, he, hunit⟩ := exists_entry_of_declarer? hlast
    rw [Option.bind_some, he, Option.map_some, Option.map_some, hunit]

theorem alike_perm_iff (h : Distinct units) (hperm : units.Perm units')
    : (ofUnits units).Alike (ofUnits units')
        ↔
      ∀ type, declarer? units type = declarer? units' type := by
  constructor
  · intro halike type
    have hids : (declarer? units type).map SourceUnit.id
        = (declarer? units' type).map SourceUnit.id := by
      rw [← map_unit_find?_types h, ← map_unit_find?_types (h.perm hperm), halike.types]
    cases hlast : declarer? units type with
    | none =>
      rw [hlast, Option.map_none, eq_comm, Option.map_eq_none_iff] at hids
      exact hids.symm
    | some u =>
      rw [hlast, Option.map_some, eq_comm, Option.map_eq_some_iff] at hids
      obtain ⟨u', hlast', hid⟩ := hids
      have hu' : u' ∈ units := hperm.mem_iff.2 (declarer?_some hlast').1
      rw [hlast', h.eq_of_id_eq hu' (declarer?_some hlast).1 hid]
  · intro hlast
    refine ⟨fun type => ?_, find?_units_perm h hperm⟩
    rw [find?_types_ofUnits h, find?_types_ofUnits (h.perm hperm), hlast]

/--
The order in which units are put into an index changes no answer, as long as no two units declare
one type.
-/
theorem ofUnits_perm_answersLike (hperm : units.Perm units')
    (hparsed : ∀ u, u ∈ units → ∃ id text, SourceUnit.parse id text = .ok u)
    (h : Distinct units) (hseparate : Separate units)
    : (ofUnits units).AnswersLike (ofUnits units') :=
  ((alike_perm_iff h hperm).2 (declarer?_perm hseparate hperm)).answersLike (named_ofUnits hparsed)

theorem ofUnits_perm_answersLike_swapped
    : let unit := fun id text =>
        SourceUnit.ofTokens id text ((Java.tokenize text).toOption.getD [])
      let twice := unit "A.java" "class A { int f; } class A { @Deprecated int f; }"
      let other := unit "B.java" "class B extends A { void g() {} }"
      (ofUnits [twice, other]).AnswersLike (ofUnits [other, twice])
        ∧ (ofUnits [twice, other]).types.keys = ["A", "B"]
        ∧ (ofUnits [other, twice]).types.keys = ["B", "A"] := by
  intro unit twice other
  have htwice : SourceUnit.parse "A.java" "class A { int f; } class A { @Deprecated int f; }"
      = .ok twice :=
    SourceUnit.parse_ofTokens (by decide +kernel)
  have hother : SourceUnit.parse "B.java" "class B extends A { void g() {} }" = .ok other :=
    SourceUnit.parse_ofTokens (by decide +kernel)
  refine ⟨ofUnits_perm_answersLike (.swap other twice []) ?_ ?_ ?_, ?_, ?_⟩
  · intro u hu
    obtain rfl | rfl := List.mem_pair.1 hu
    · exact ⟨_, _, htwice⟩
    · exact ⟨_, _, hother⟩
  · unfold Distinct
    decide +kernel
  · unfold Separate
    decide +kernel
  · decide +kernel
  · decide +kernel

end Index

end DeprecatedUse
