import DeprecatedUse.Json.Basic
import Mathlib.Data.List.Basic

/-!
This module contains the laws of reading: what the parts of a record hold when it was written as an
object, and which values are read back from what they are written as.
-/

namespace DeprecatedUse.Json

variable {α : Type}

/-! The fields of an object. -/

@[simp]
theorem lookup?_nil (name : String) : lookup? [] name = none := by
  simp [lookup?]

theorem lookup?_append (fields fields' : List (String × Json)) (name : String)
    : lookup? (fields ++ fields') name = (lookup? fields' name).or (lookup? fields name) := by
  simp [lookup?, List.find?_append, Option.map_or]

@[simp]
theorem lookup?_cons (field : String × Json) (fields : List (String × Json)) (name : String)
    : lookup? (field :: fields) name
        = (lookup? fields name).or (if field.1 = name then some field.2 else none) := by
  rw [← List.singleton_append, lookup?_append]
  congr 1
  by_cases h : field.1 = name
  · simp [lookup?, h]
  · simp [lookup?, h]

@[simp]
theorem lookup?_optionalField (field name : String) (write : α → Json) (a : Option α)
    : lookup? (optionalField field write a) name
        = if field = name then a.map write else none := by
  cases a with
  | none => simp [optionalField]
  | some a => simp [optionalField]

theorem record?_obj (names : List String) (fields : List (String × Json))
    : record? names (.obj fields) = some (names.map (lookup? fields)) := by
  rw [record?]

/-! Single values. -/

theorem nat?_nat {bound n : Nat} (h : n < bound) : nat? bound (nat n) = some n := by
  simp [nat, nat?, h]

theorem lt_of_nat? {bound n : Nat} {json : Json} (h : nat? bound json = some n) : n < bound := by
  unfold nat? at h
  split at h
  · split at h
    · next hbounds =>
      obtain rfl := Option.some.inj h
      omega
    · cases h
  · cases h

theorem ofOption_eq (write : α → Json) (a : Option α)
    : ofOption write a = (a.map write).getD .null := by
  cases a <;> rfl

theorem option?_ofOption {write : α → Json} {read? : Json → Option α} {a : Option α}
    (h : ∀ b, b ∈ a → read? (write b) = some b ∧ write b ≠ .null)
    : option? read? (ofOption write a) = some a := by
  cases a with
  | none => rfl
  | some b =>
    obtain ⟨hread, hnull⟩ := h b rfl
    rw [ofOption]
    unfold option?
    split
    · next hwrite => exact absurd hwrite hnull
    · rw [hread, Option.map_some]

theorem ne_some_null_of_option? {json : Json} {a : Option Json}
    (h : option? some json = some a) : a ≠ some .null := by
  unfold option? at h
  split at h
  · obtain rfl := Option.some.inj h
    exact nofun
  · next hnull =>
    obtain rfl := Option.some.inj h
    intro heq
    exact hnull (Option.some.inj heq)

/-! Lists. -/

theorem list?_map {write : α → Json} {read? : Json → Option α} {as : List α}
    (h : ∀ a, a ∈ as → read? (write a) = some a)
    : list? read? (.arr (as.map write)) = some as := by
  rw [list?]
  induction as with
  | nil => rfl
  | cons a as ih =>
    have hrest := ih fun b hb => h b (List.mem_cons_of_mem a hb)
    simp only [List.map_cons, List.mapM_cons, h a List.mem_cons_self, hrest, Option.bind_eq_bind,
      Option.bind_some]
    rfl

theorem list?_strings (texts : List String) : list? str? (strings texts) = some texts :=
  list?_map fun _ _ => rfl

theorem exists_of_list? {read? : Json → Option α} {json : Json} {as : List α}
    (h : list? read? json = some as) : ∀ a, a ∈ as → ∃ item, read? item = some a := by
  unfold list? at h
  split at h
  · next items =>
    induction items generalizing as with
    | nil =>
      obtain rfl := Option.some.inj h
      intro a ha
      cases ha
    | cons item items ih =>
      simp only [List.mapM_cons, Option.bind_eq_bind, Option.bind_eq_some_iff] at h
      obtain ⟨b, hb, bs, hbs, heq⟩ := h
      obtain rfl := Option.some.inj heq
      intro a ha
      obtain rfl | ha := List.mem_cons.1 ha
      · exact ⟨item, hb⟩
      · exact ih hbs a ha
  · cases h

/-! Forms. -/

/--
Exactly the valid values are read from what they are written as. Whatever else is read was written
in another way, and is read again once it is written as it should be.
-/
structure ReadsBack (valid : α → Prop) (write : α → Json) (read? : Json → Option α) : Prop where
  read_write_iff : ∀ a, read? (write a) = some a ↔ valid a
  read_again : ∀ json a, read? json = some a → read? (write a) = some a

namespace ReadsBack

variable {valid : α → Prop} {write : α → Json} {read? : Json → Option α}

theorem of_valid (hwrite : ∀ a, valid a → read? (write a) = some a)
    (hread : ∀ json a, read? json = some a → valid a) : ReadsBack valid write read? where
  read_write_iff a := ⟨hread (write a) a, hwrite a⟩
  read_again json a h := hwrite a (hread json a h)

theorem of_all (h : ∀ a, read? (write a) = some a) : ReadsBack (fun _ => True) write read? :=
  of_valid (fun a _ => h a) fun _ _ _ => trivial

theorem read_write (h : ReadsBack valid write read?) {a : α} (ha : valid a)
    : read? (write a) = some a :=
  (h.read_write_iff a).2 ha

theorem bind_write (h : ReadsBack valid write read?) {a : α} (ha : valid a)
    : (some (write a)).bind read? = some a := by
  rw [Option.bind_some, h.read_write ha]

theorem valid_of_read (h : ReadsBack valid write read?) {json : Json} {a : α}
    (ha : read? json = some a) : valid a :=
  (h.read_write_iff a).1 (h.read_again json a ha)

theorem str : ReadsBack (fun _ => True) Json.str str? :=
  of_all fun _ => rfl

theorem nat (bound : Nat) : ReadsBack (· < bound) Json.nat (nat? bound) :=
  of_valid (fun _ => nat?_nat) fun _ _ => lt_of_nat?

theorem list (h : ReadsBack valid write read?)
    : ReadsBack (fun as => ∀ a, a ∈ as → valid a) (fun as => .arr (as.map write))
        (list? read?) := by
  apply of_valid
  · intro as has
    exact list?_map fun a ha => h.read_write (has a ha)
  · intro json as has a ha
    obtain ⟨item, hitem⟩ := exists_of_list? has a ha
    exact h.valid_of_read hitem

end ReadsBack

end DeprecatedUse.Json
