import DeprecatedUse.Proofs.Index.Changes
import DeprecatedUse.Proofs.Index.Resolution
import DeprecatedUse.Proofs.Java.MemberNames
import Mathlib

/-!
This module contains indexes that hold the same, whatever the order in which they came to hold it.
They give the same answers. The order of the listing of symbols comes out the same because no member
has a dot in its name, so that no two symbols have one full name and kind.
-/

namespace DeprecatedUse

open DeprecatedUse.Java (IsName MemberDecl SourceUnit TypeDecl)

theorem Table.perm_of_find?_eq {κ α : Type} [DecidableEq κ] {t t' : Table κ α}
    (h : ∀ k, t.find? k = t'.find? k) : t.entries.Perm t'.entries := by
  rw [List.perm_ext_iff_of_nodup t.nodup.of_map t'.nodup.of_map]
  intro e
  rw [← Table.find?_eq_some_iff, ← Table.find?_eq_some_iff, h]

namespace Index

structure Alike (i j : Index) : Prop where
  types : ∀ name, i.types.find? name = j.types.find? name
  units : ∀ unit, i.units.find? unit = j.units.find? unit

structure AnswersLike (i j : Index) : Prop where
  containsType : ∀ name, i.containsType name = j.containsType name
  lookupType : ∀ ref, i.lookupType ref = j.lookupType ref
  resolve : ∀ q, i.resolve q = j.resolve q
  symbols : i.symbols = j.symbols
  stats : i.stats = j.stats

/-! Members with names. -/

def Named (i : Index) : Prop :=
  ∀ type e, i.types.find? type = some e → ∀ key, key ∈ e.members.keys → IsName key.1

theorem mem_keys_foldl_add {key : String × MemberKind} {ds : List MemberDecl} {ms : Members}
    (h : key ∈ (ds.foldl Members.add ms).keys)
    : key ∈ ms.keys ∨ ∃ d, d ∈ ds ∧ d.name = key.1 := by
  induction ds generalizing ms with
  | nil => exact .inl h
  | cons d ds ih =>
    obtain hms | ⟨d', hd', hname⟩ := ih h
    · rw [Members.add] at hms
      split at hms
      · exact .inl hms
      · rw [Table.mem_keys_iff, Table.find?_insert] at hms
        split at hms
        · next heq => exact .inr ⟨d, List.mem_cons_self, by rw [heq]⟩
        · exact .inl ((Table.mem_keys_iff ms key).2 hms)
    · exact .inr ⟨d', List.mem_cons_of_mem d hd', hname⟩

theorem named_entry? {u : SourceUnit} {id : UnitId} {text : String}
    (h : SourceUnit.parse id text = .ok u) {type : String} {e : Entry}
    (he : u.entry? type = some e) {key : String × MemberKind} (hkey : key ∈ e.members.keys)
    : IsName key.1 := by
  rw [SourceUnit.entry?] at he
  obtain ⟨decl, hdecl, rfl⟩ := Option.map_eq_some_iff.1 he
  obtain hempty | ⟨d, hd, hname⟩ := mem_keys_foldl_add hkey
  · cases hempty
  · rw [← hname]
    exact SourceUnit.isName_declared h (List.mem_reverse.1 (List.mem_of_find?_eq_some hdecl)) hd

theorem Named.add {i : Index} (hi : i.Named) {u : SourceUnit} {id : UnitId} {text : String}
    (h : SourceUnit.parse id text = .ok u) : (i.add u).Named := by
  intro type e he key hkey
  rw [find?_types_add, Option.or_eq_some_iff] at he
  obtain he | ⟨-, he⟩ := he
  · exact named_entry? h he hkey
  · exact hi type e ((find?_types_remove i u.id type e).1 he).1 key hkey

theorem Named.remove {i : Index} (hi : i.Named) (unit : UnitId) : (i.remove unit).Named := by
  intro type e he
  exact hi type e ((find?_types_remove i unit type e).1 he).1

theorem named_run {changes : List Change}
    (h : ∀ u, .add u ∈ changes → ∃ id text, SourceUnit.parse id text = .ok u)
    : (run changes).Named := by
  induction changes using List.reverseRecOn with
  | nil =>
    intro type e he
    cases he
  | append_singleton changes change ih =>
    have hi := ih fun u hu => h u (List.mem_append_left [change] hu)
    rw [run, List.foldl_append, ← run]
    cases change with
    | add u =>
      obtain ⟨id, text, hu⟩ := h u (List.mem_append_right changes (List.mem_singleton_self _))
      exact hi.add hu
    | remove unit => exact hi.remove unit

theorem named_ofUnits {units : List SourceUnit}
    (h : ∀ u, u ∈ units → ∃ id text, SourceUnit.parse id text = .ok u) : (ofUnits units).Named := by
  rw [ofUnits_eq_run]
  apply named_run
  intro u hu
  obtain ⟨v, hv, heq⟩ := List.mem_map.1 hu
  obtain rfl := Change.add.inj heq
  exact h v hv

/-! Listing symbols. -/

theorem symbolLe_trans (a b c : Symbol) (hab : symbolLe a b = true) (hbc : symbolLe b c = true)
    : symbolLe a c = true := by
  simp only [symbolLe, Bool.or_eq_true, decide_eq_true_eq, Bool.and_eq_true, beq_iff_eq] at *
  obtain hab | ⟨hab, hkind⟩ := hab
  · obtain hbc | ⟨hbc, -⟩ := hbc
    · exact .inl (String.lt_trans hab hbc)
    · exact .inl (hbc ▸ hab)
  · obtain hbc | ⟨hbc, hkind'⟩ := hbc
    · exact .inl (hab ▸ hbc)
    · exact .inr ⟨hab.trans hbc, Nat.le_trans hkind hkind'⟩

theorem symbolLe_total (a b : Symbol) : (symbolLe a b || symbolLe b a) = true := by
  simp only [symbolLe, Bool.or_eq_true, decide_eq_true_eq, Bool.and_eq_true, beq_iff_eq]
  by_cases hab : a.qualifiedName < b.qualifiedName
  · exact .inl (.inl hab)
  · by_cases hba : b.qualifiedName < a.qualifiedName
    · exact .inr (.inl hba)
    · have heq : a.qualifiedName = b.qualifiedName := String.le_antisymm hba hab
      obtain hkind | hkind := Nat.le_total (kindRank a.kind) (kindRank b.kind)
      · exact .inl (.inr ⟨heq, hkind⟩)
      · exact .inr (.inr ⟨heq.symm, hkind⟩)

theorem kindRank_inj {kind kind' : MemberKind} (h : kindRank kind = kindRank kind')
    : kind = kind' := by
  cases kind <;> cases kind' <;> first | rfl | cases h

theorem eq_of_symbolLe {a b : Symbol} (hab : symbolLe a b = true) (hba : symbolLe b a = true)
    : a.qualifiedName = b.qualifiedName ∧ a.kind = b.kind := by
  simp only [symbolLe, Bool.or_eq_true, decide_eq_true_eq, Bool.and_eq_true, beq_iff_eq] at *
  obtain hab | ⟨hab, hkind⟩ := hab
  · obtain hba | ⟨hba, -⟩ := hba
    · exact absurd hba (String.lt_asymm hab)
    · exact absurd (hba ▸ hab) (String.lt_irrefl _)
  · obtain hba | ⟨-, hkind'⟩ := hba
    · exact absurd (hab ▸ hba) (String.lt_irrefl _)
    · exact ⟨hab, kindRank_inj (Nat.le_antisymm hkind hkind')⟩

def typeSymbols (type : String × Entry) : List Symbol :=
  type.2.members.entries.map fun m =>
    symbolOf (type.1 ++ "." ++ m.1.1) m.1.2 (m.2.findSome? id)

theorem symbols_eq (i : Index)
    : i.symbols = (i.types.entries.flatMap typeSymbols).mergeSort symbolLe := by
  rfl

theorem symbolOf_kind (name : String) (kind : MemberKind) (d : Option Java.Deprecation)
    : (symbolOf name kind d).kind = kind := by
  cases d <;> rfl

theorem Named.isName_of_overloads? {i : Index} (h : i.Named) {type name : String}
    {kind : MemberKind} {overloads : List (Option Java.Deprecation)}
    (hfind : i.overloads? name kind type = some overloads) : IsName name := by
  obtain ⟨e, hentry, hmember⟩ := Option.bind_eq_some_iff.1 hfind
  apply h type e hentry (name, kind)
  rw [Table.mem_keys_iff, hmember, Option.isSome_some]

theorem Named.eq_of_mem_symbols {i : Index} (h : i.Named) {a b : Symbol} (ha : a ∈ i.symbols)
    (hb : b ∈ i.symbols) (hname : a.qualifiedName = b.qualifiedName) (hkind : a.kind = b.kind)
    : a = b := by
  obtain ⟨type, member, kind, overloads, hfind, rfl⟩ := mem_symbols_iff.1 ha
  obtain ⟨type', member', kind', overloads', hfind', rfl⟩ := mem_symbols_iff.1 hb
  have hisName := h.isName_of_overloads? hfind
  have hisName' := h.isName_of_overloads? hfind'
  rw [symbolOf_qualifiedName, symbolOf_qualifiedName] at hname
  rw [symbolOf_kind, symbolOf_kind] at hkind
  obtain ⟨rfl, rfl⟩ := (append_dot_inj hisName.2 hisName'.2).1 hname
  subst hkind
  rw [hfind, Option.some.injEq] at hfind'
  rw [hfind']

/-! Answers. -/

namespace Alike

variable {i j : Index}

theorem symm (h : i.Alike j) : j.Alike i :=
  ⟨fun name => (h.types name).symm, fun unit => (h.units unit).symm⟩

theorem trans {k : Index} (h : i.Alike j) (h' : j.Alike k) : i.Alike k :=
  ⟨fun name => (h.types name).trans (h'.types name),
    fun unit => (h.units unit).trans (h'.units unit)⟩

theorem alike_iff (h : i.Alike j) (k : Index) : i.Alike k ↔ j.Alike k :=
  ⟨h.symm.trans, h.trans⟩

theorem add (h : i.Alike j) (u : SourceUnit) : (i.add u).Alike (j.add u) := by
  constructor
  · intro name
    have hremove : (i.remove u.id).types.find? name = (j.remove u.id).types.find? name := by
      apply Option.ext
      intro e
      rw [find?_types_remove, find?_types_remove, h.types, h.units]
    rw [find?_types_add, find?_types_add, hremove]
  · intro unit
    have hadd : ∀ k : Index, (k.add u).units = (k.units.erase u.id).insert u.id u.typeNames :=
      fun _ => rfl
    rw [hadd, hadd, Table.find?_insert, Table.find?_insert, Table.find?_erase, Table.find?_erase,
      h.units]

theorem named (h : i.Alike j) (hj : j.Named) : i.Named := by
  intro type e he
  rw [h.types] at he
  exact hj type e he

theorem size_units (h : i.Alike j) : i.units.size = j.units.size :=
  (Table.perm_of_find?_eq h.units).length_eq

theorem containsType (h : i.Alike j) : i.containsType = j.containsType := by
  funext name
  rw [Index.containsType, Index.containsType, Table.contains, Table.contains, h.types]

theorem lookupType (h : i.Alike j) : i.lookupType = j.lookupType := by
  funext ref
  unfold Index.lookupType
  rw [h.containsType]

theorem supertypes (h : i.Alike j) : i.supertypes = j.supertypes := by
  funext name
  rw [Index.supertypes, Index.supertypes, h.types, h.lookupType]

theorem ownMember? (h : i.Alike j) : i.ownMember? = j.ownMember? := by
  funext member kind type
  rw [Index.ownMember?, Index.ownMember?, h.types]

theorem resolve (h : i.Alike j) : i.resolve = j.resolve := by
  funext q
  rw [Index.resolve, Index.resolve, h.lookupType, h.supertypes, h.ownMember?]
  split
  · rfl
  · have hkeys : i.types.keys.Perm j.types.keys := (Table.perm_of_find?_eq h.types).map Prod.fst
    rw [breadthFirst_perm hkeys]

theorem stats (h : i.Alike j) : i.stats = j.stats := by
  have htypes := Table.perm_of_find?_eq h.types
  have hoverloads : i.overloads.flatten.Perm j.overloads.flatten :=
    ((htypes.map Prod.snd).flatMap_right _).flatten
  rw [Index.stats, Index.stats, Table.size, Table.size, Table.size, Table.size,
    (Table.perm_of_find?_eq h.units).length_eq, htypes.length_eq, hoverloads.length_eq,
    hoverloads.countP_eq]

theorem symbols (h : i.Alike j) (hi : i.Named) : i.symbols = j.symbols := by
  have hperm : (i.types.entries.flatMap typeSymbols).Perm (j.types.entries.flatMap typeSymbols) :=
    (Table.perm_of_find?_eq h.types).flatMap_right typeSymbols
  have hsymbols : i.symbols.Perm j.symbols :=
    (List.mergeSort_perm _ _).trans (hperm.trans (List.mergeSort_perm _ _).symm)
  refine List.Perm.eq_of_pairwise (fun a b ha hb hab hba => ?_)
    (List.pairwise_mergeSort symbolLe_trans symbolLe_total _)
    (List.pairwise_mergeSort symbolLe_trans symbolLe_total _) hsymbols
  obtain ⟨hname, hkind⟩ := eq_of_symbolLe hab hba
  exact hi.eq_of_mem_symbols ha (hsymbols.mem_iff.2 hb) hname hkind

theorem answersLike (h : i.Alike j) (hi : i.Named) : i.AnswersLike j where
  containsType := congrFun h.containsType
  lookupType := congrFun h.lookupType
  resolve := congrFun h.resolve
  symbols := h.symbols hi
  stats := h.stats

end Alike

end Index

end DeprecatedUse
