/-!
This module contains tables: finite maps that keep their keys in the order in which they came. A
table is seen through `Table.find?`; what each operation does to that view stands beside it.
-/

namespace DeprecatedUse

structure Table (κ α : Type) where
  entries : List (κ × α)
  nodup : (entries.map Prod.fst).Nodup

namespace Table

variable {κ α : Type} [DecidableEq κ]

instance : EmptyCollection (Table κ α) := ⟨⟨[], List.nodup_nil⟩⟩

instance : Inhabited (Table κ α) := ⟨∅⟩

def keys (t : Table κ α) : List κ :=
  t.entries.map Prod.fst

def values (t : Table κ α) : List α :=
  t.entries.map Prod.snd

def size (t : Table κ α) : Nat :=
  t.entries.length

def find? (t : Table κ α) (k : κ) : Option α :=
  t.entries.lookup k

def contains (t : Table κ α) (k : κ) : Bool :=
  (t.find? k).isSome

def insertEntry (k : κ) (a : α) : List (κ × α) → List (κ × α)
  | [] => [(k, a)]
  | (x, b) :: rest => if x = k then (k, a) :: rest else (x, b) :: insertEntry k a rest

theorem mem_keys_insertEntry {k x : κ} {a : α} {entries : List (κ × α)} :
    x ∈ (insertEntry k a entries).map Prod.fst ↔ x = k ∨ x ∈ entries.map Prod.fst := by
  induction entries with
  | nil => simp [insertEntry]
  | cons e rest ih =>
    obtain ⟨y, b⟩ := e
    rw [insertEntry]
    split
    · next h => subst h; simp
    · rw [List.map_cons, List.mem_cons, ih, List.map_cons, List.mem_cons]
      constructor
      · rintro (h | h | h)
        · exact .inr (.inl h)
        · exact .inl h
        · exact .inr (.inr h)
      · rintro (h | h | h)
        · exact .inr (.inl h)
        · exact .inl h
        · exact .inr (.inr h)

theorem nodup_insertEntry {k : κ} {a : α} {entries : List (κ × α)}
    (h : (entries.map Prod.fst).Nodup) : ((insertEntry k a entries).map Prod.fst).Nodup := by
  induction entries with
  | nil => simp [insertEntry]
  | cons e rest ih =>
    obtain ⟨y, b⟩ := e
    rw [List.map_cons, List.nodup_cons] at h
    rw [insertEntry]
    split
    · next hy =>
      subst hy
      rw [List.map_cons, List.nodup_cons]
      exact h
    · next hy =>
      rw [List.map_cons, List.nodup_cons, mem_keys_insertEntry]
      refine ⟨?_, ih h.2⟩
      rintro (hk | hk)
      · exact hy hk
      · exact h.1 hk

theorem lookup_insertEntry (k x : κ) (a : α) (entries : List (κ × α)) :
    (insertEntry k a entries).lookup x = if x = k then some a else entries.lookup x := by
  induction entries with
  | nil =>
    by_cases h : x = k
    · simp [insertEntry, h]
    · simp [insertEntry, List.lookup_cons, h, beq_false_of_ne h]
  | cons e rest ih =>
    obtain ⟨y, b⟩ := e
    rw [insertEntry]
    by_cases hy : y = k
    · subst hy
      by_cases hx : x = y
      · simp [hx]
      · simp [List.lookup_cons, hx, beq_false_of_ne hx]
    · by_cases hx : x = y
      · subst hx
        simp [hy]
      · simp [List.lookup_cons, hy, beq_false_of_ne hx, ih]

theorem lookup_filter_ne (k x : κ) (entries : List (κ × α)) :
    (entries.filter fun e => !decide (e.1 = k)).lookup x =
      if x = k then none else entries.lookup x := by
  induction entries with
  | nil => simp
  | cons e rest ih =>
    obtain ⟨y, b⟩ := e
    by_cases hy : y = k
    · subst hy
      by_cases hx : x = y
      · simpa [hx] using ih
      · simpa [hx, List.lookup_cons, beq_false_of_ne hx] using ih
    · by_cases hx : x = y
      · subst hx
        simp [hy]
      · simpa [hy, List.lookup_cons, beq_false_of_ne hx] using ih

def insert (t : Table κ α) (k : κ) (a : α) : Table κ α :=
  ⟨insertEntry k a t.entries, nodup_insertEntry t.nodup⟩

def erase (t : Table κ α) (k : κ) : Table κ α :=
  ⟨t.entries.filter fun e => !decide (e.1 = k),
    t.nodup.sublist (List.filter_sublist.map Prod.fst)⟩

@[simp]
theorem find?_insert (t : Table κ α) (k x : κ) (a : α) :
    (t.insert k a).find? x = if x = k then some a else t.find? x :=
  lookup_insertEntry k x a t.entries

@[simp]
theorem find?_erase (t : Table κ α) (k x : κ) :
    (t.erase k).find? x = if x = k then none else t.find? x :=
  lookup_filter_ne k x t.entries

@[simp]
theorem find?_empty (x : κ) : (∅ : Table κ α).find? x = none := rfl

def modify (t : Table κ α) (k : κ) (f : α → α) : Table κ α :=
  match t.find? k with
  | none => t
  | some a => t.insert k (f a)

theorem find?_modify (t : Table κ α) (k x : κ) (f : α → α) :
    (t.modify k f).find? x = if x = k then (t.find? k).map f else t.find? x := by
  unfold modify
  split
  · next h =>
    split
    · next hx => rw [hx, h, Option.map_none]
    · rfl
  · next a h => rw [find?_insert, h, Option.map_some]

theorem mem_keys_iff (t : Table κ α) (k : κ) : k ∈ t.keys ↔ (t.find? k).isSome := by
  unfold keys find?
  rw [List.lookup_isSome_iff, List.mem_map]
  constructor
  · rintro ⟨e, he, rfl⟩
    exact ⟨e, he, beq_self_eq_true e.1⟩
  · rintro ⟨e, he, hk⟩
    exact ⟨e, he, (eq_of_beq hk).symm⟩

theorem find?_eq_some_iff (t : Table κ α) (k : κ) (a : α) :
    t.find? k = some a ↔ (k, a) ∈ t.entries := by
  obtain ⟨entries, nodup⟩ := t
  unfold find?
  dsimp only
  induction entries with
  | nil => simp
  | cons e rest ih =>
    obtain ⟨x, b⟩ := e
    rw [List.map_cons, List.nodup_cons] at nodup
    rw [List.lookup_cons, List.mem_cons]
    by_cases h : k = x
    · subst h
      have hrest : (k, a) ∉ rest := fun hmem => nodup.1 (List.mem_map.2 ⟨(k, a), hmem, rfl⟩)
      simp [hrest, eq_comm]
    · rw [beq_false_of_ne h]
      simp [ih nodup.2, h]

theorem find?_eq_of_perm {t t' : Table κ α} (h : t.entries.Perm t'.entries) (k : κ) :
    t.find? k = t'.find? k := by
  apply Option.ext
  intro a
  rw [find?_eq_some_iff, find?_eq_some_iff]
  exact h.mem_iff

end Table

end DeprecatedUse
