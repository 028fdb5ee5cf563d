import DeprecatedUse.Proofs.Wire.ReadBack
import Mathlib.Data.List.Forall2

/-!
This module contains the order of the diagnostics in a batch. A batch that is made of diagnostics is
ordered by where they start, and those with one start stand as they were given; there is only one
such batch. A batch that is read is taken as it is written: it is ordered only if its items are.
-/

namespace DeprecatedUse

theorem Json.list?_eq_some_iff {α : Type} {read? : Json → Option α} {json : Json} {as : List α}
    : list? read? json = some as
        ↔ ∃ items, json = .arr items
          ∧ List.Forall₂ (fun item a => read? item = some a) items as := by
  constructor
  · intro h
    rw [list?.eq_def] at h
    split at h
    · next items =>
      refine ⟨items, rfl, ?_⟩
      induction items generalizing as with
      | nil =>
        obtain rfl := Option.some.inj h
        exact .nil
      | cons item items ih =>
        simp only [List.mapM_cons, Option.bind_eq_bind, Option.bind_eq_some_iff] at h
        obtain ⟨a, ha, as, has, heq⟩ := h
        obtain rfl := Option.some.inj heq
        exact .cons ha (ih has)
    · cases h
  · rintro ⟨items, rfl, h⟩
    rw [list?]
    induction h with
    | nil => rfl
    | cons ha _ ih =>
      rw [List.mapM_cons, ha, Option.bind_eq_bind, Option.bind_some, ih]
      rfl

theorem Position.le_antisymm {a b : Position} (hab : a ≤ b) (hba : b ≤ a) : a = b := by
  rw [le_def] at hab hba
  cases a
  cases b
  rw [Position.mk.injEq]
  dsimp only at hab hba
  omega

namespace Batch

/--
No diagnostic starts before one that stands in front of it.
-/
def Ordered (b : Batch) : Prop :=
  b.diagnostics.Pairwise fun d e => d.span.start ≤ e.span.start

instance (b : Batch) : Decidable b.Ordered :=
  inferInstanceAs (Decidable (b.diagnostics.Pairwise fun d e => d.span.start ≤ e.span.start))

def startingAt (p : Position) (diagnostics : List Diagnostic) : List Diagnostic :=
  diagnostics.filter fun d => d.span.start == p

theorem startsBefore_iff {d e : Diagnostic}
    : startsBefore d e = true ↔ d.span.start ≤ e.span.start := by
  rw [startsBefore, decide_eq_true_eq]

theorem startsBefore_trans (d e f : Diagnostic) (hde : startsBefore d e = true)
    (hef : startsBefore e f = true) : startsBefore d f = true := by
  rw [startsBefore_iff] at *
  exact Position.le_trans hde hef

theorem startsBefore_total (d e : Diagnostic) : (startsBefore d e || startsBefore e d) = true := by
  rw [Bool.or_eq_true, startsBefore_iff, startsBefore_iff]
  exact Position.le_total d.span.start e.span.start

/-! Batches that are made of diagnostics. -/

theorem perm_ofList (diagnostics : List Diagnostic)
    : (ofList diagnostics).diagnostics.Perm diagnostics :=
  List.mergeSort_perm diagnostics startsBefore

theorem ordered_ofList (diagnostics : List Diagnostic) : (ofList diagnostics).Ordered := by
  have hsorted := List.pairwise_mergeSort startsBefore_trans startsBefore_total diagnostics
  exact hsorted.imp startsBefore_iff.1

theorem ofList_of_ordered {b : Batch} (h : b.Ordered) : ofList b.diagnostics = b := by
  rw [ofList, List.mergeSort_of_pairwise (h.imp startsBefore_iff.2)]

theorem startingAt_ofList (p : Position) (diagnostics : List Diagnostic)
    : startingAt p (ofList diagnostics).diagnostics = startingAt p diagnostics := by
  have htogether : (startingAt p diagnostics).Pairwise fun d e => startsBefore d e = true := by
    rw [List.pairwise_iff_forall_sublist]
    intro d e hde
    have hstart : ∀ f ∈ [d, e], f.span.start = p := fun f hf =>
      eq_of_beq (List.mem_filter.1 (hde.mem hf)).2
    rw [startsBefore_iff, hstart d (by simp), hstart e (by simp)]
    exact (Position.le_total p p).elim id id
  have hsub : (startingAt p diagnostics).Sublist (ofList diagnostics).diagnostics :=
    List.sublist_mergeSort startsBefore_trans startsBefore_total htogether List.filter_sublist
  have hfilter := hsub.filter fun d => d.span.start == p
  simp only [startingAt, List.filter_filter, Bool.and_self] at hfilter
  exact (hfilter.eq_of_length ((perm_ofList diagnostics).filter _).length_eq.symm).symm

theorem startingAt_cons (p : Position) (d : Diagnostic) (diagnostics : List Diagnostic)
    : startingAt p (d :: diagnostics)
        =
      if d.span.start = p then d :: startingAt p diagnostics else startingAt p diagnostics := by
  simp only [startingAt, List.filter_cons, beq_iff_eq]

theorem mem_startingAt_iff {p : Position} {d : Diagnostic} {diagnostics : List Diagnostic}
    : d ∈ startingAt p diagnostics ↔ d ∈ diagnostics ∧ d.span.start = p := by
  rw [startingAt, List.mem_filter, beq_iff_eq]

theorem head_le {d e : Diagnostic} {ds es : List Diagnostic} (h : Ordered ⟨d :: ds⟩)
    (hsame : ∀ p, startingAt p (d :: ds) = startingAt p (e :: es))
    : d.span.start ≤ e.span.start := by
  have he : e ∈ startingAt e.span.start (d :: ds) := by
    rw [hsame, mem_startingAt_iff]
    exact ⟨List.mem_cons_self, rfl⟩
  obtain he | he := List.mem_cons.1 (mem_startingAt_iff.1 he).1
  · rw [he]
    exact (Position.le_total d.span.start d.span.start).elim id id
  · exact (List.pairwise_cons.1 h).1 e he

theorem eq_of_startingAt {ds es : List Diagnostic} (hds : Ordered ⟨ds⟩) (hes : Ordered ⟨es⟩)
    (hsame : ∀ p, startingAt p ds = startingAt p es) : ds = es := by
  induction ds generalizing es with
  | nil =>
    rw [eq_comm, List.eq_nil_iff_forall_not_mem]
    intro e he
    have hnone := mem_startingAt_iff.2 ⟨he, rfl⟩
    rw [← hsame] at hnone
    cases hnone
  | cons d ds ih =>
    cases es with
    | nil =>
      have hsome := mem_startingAt_iff.2 ⟨List.mem_cons_self (a := d) (l := ds), rfl⟩
      rw [hsame] at hsome
      cases hsome
    | cons e es =>
      -- both heads start first, hence together, and are the first of those that start there
      have hstart : d.span.start = e.span.start :=
        Position.le_antisymm (head_le hds hsame) (head_le hes fun p => (hsame p).symm)
      have hhead := hsame d.span.start
      rw [startingAt_cons, startingAt_cons, if_pos rfl, if_pos hstart.symm, List.cons.injEq]
        at hhead
      obtain ⟨rfl, -⟩ := hhead
      congr 1
      refine ih (List.pairwise_cons.1 hds).2 (List.pairwise_cons.1 hes).2 fun p => ?_
      have hp := hsame p
      rw [startingAt_cons, startingAt_cons] at hp
      split at hp
      · exact (List.cons.inj hp).2
      · exact hp

theorem eq_ofList_iff {b : Batch} {diagnostics : List Diagnostic}
    : b = ofList diagnostics
        ↔ b.Ordered ∧ ∀ p, startingAt p b.diagnostics = startingAt p diagnostics := by
  constructor
  · rintro rfl
    exact ⟨ordered_ofList diagnostics, fun p => startingAt_ofList p diagnostics⟩
  · rintro ⟨hordered, hsame⟩
    have heq := eq_of_startingAt hordered (ordered_ofList diagnostics) fun p =>
      (hsame p).trans (startingAt_ofList p diagnostics).symm
    rw [Batch.mk.injEq]
    exact heq

/-! Batches that are read. -/

def Reads (items : List Json) (diagnostics : List Diagnostic) : Prop :=
  List.Forall₂ (fun item d => Diagnostic.ofJson? item = some d) items diagnostics

/--
No item of a written batch starts before one that stands in front of it.
-/
def InOrder (items : List Json) : Prop :=
  items.Pairwise fun item other => ∀ d, Diagnostic.ofJson? item = some d →
    ∀ e, Diagnostic.ofJson? other = some e → d.span.start ≤ e.span.start

theorem ofJson?_eq_some_iff {json : Json} {b : Batch}
    : ofJson? json = some b ↔ ∃ items, json = .arr items ∧ Reads items b.diagnostics := by
  rw [ofJson?, Option.map_eq_some_iff]
  constructor
  · rintro ⟨diagnostics, hlist, rfl⟩
    exact Json.list?_eq_some_iff.1 hlist
  · intro h
    exact ⟨b.diagnostics, Json.list?_eq_some_iff.2 h, rfl⟩

theorem Reads.eq_filterMap {items : List Json} {diagnostics : List Diagnostic}
    (h : Reads items diagnostics) : diagnostics = items.filterMap Diagnostic.ofJson? := by
  induction h with
  | nil => rfl
  | cons hitem _ ih => rw [List.filterMap_cons_some hitem, ih]

theorem Reads.ordered_iff {items : List Json} {diagnostics : List Diagnostic}
    (h : Reads items diagnostics) : Ordered ⟨diagnostics⟩ ↔ InOrder items := by
  rw [h.eq_filterMap]
  exact List.pairwise_filterMap

/--
The batch of some diagnostics is ordered, has the same diagnostics, keeps the order of those with
one start, and is the only one that does; it is its own batch, and is read back as it is written.
The empty batch is ordered. A batch that is read has the diagnostics as they are written, and is
ordered exactly if they are written in order.
-/
theorem ordered_unless_read (diagnostics : List Diagnostic)
    : (∀ b, b = ofList diagnostics
          ↔ b.Ordered ∧ ∀ p, startingAt p b.diagnostics = startingAt p diagnostics)
        ∧ (ofList diagnostics).diagnostics.Perm diagnostics
        ∧ ofList (ofList diagnostics).diagnostics = ofList diagnostics
        ∧ Ordered {}
        ∧ ((∀ d ∈ diagnostics, d.span.Fits) →
          ofJson? (ofList diagnostics).toJson = some (ofList diagnostics))
        ∧ ∀ json b, ofJson? json = some b →
          ∃ items, json = .arr items ∧ Reads items b.diagnostics ∧ (b.Ordered ↔ InOrder items) := by
  refine ⟨fun b => eq_ofList_iff, perm_ofList diagnostics,
    ofList_of_ordered (ordered_ofList diagnostics), List.Pairwise.nil, fun hfits => ?_, ?_⟩
  · apply Batch.readsBack.read_write
    intro d hd
    exact hfits d ((perm_ofList diagnostics).mem_iff.1 hd)
  · intro json b h
    obtain ⟨items, rfl, hitems⟩ := ofJson?_eq_some_iff.1 h
    exact ⟨items, rfl, hitems, hitems.ordered_iff⟩

def atLine (message : String) (line : Nat) : Diagnostic where
  code := .parseError
  severity := .error
  message := message
  span := ⟨⟨line, 0⟩, ⟨line, 1⟩⟩

theorem ordered_unless_read_one_start
    : let diagnostics := [atLine "b" 1, atLine "c" 1, atLine "a" 0]
      let b : Batch := ⟨[atLine "a" 0, atLine "b" 1, atLine "c" 1]⟩
      (∀ d ∈ diagnostics, d.span.Fits) ∧ b = ofList diagnostics
        ∧ ofJson? b.toJson = some b
        ∧ ∃ items, b.toJson = .arr items ∧ Reads items b.diagnostics
          ∧ (b.Ordered ↔ InOrder items) := by
  intro diagnostics b
  obtain ⟨honly, -, -, -, hreadBack, hread⟩ := ordered_unless_read diagnostics
  have hfits : ∀ d ∈ diagnostics, d.span.Fits := by
    intro d hd
    simp only [diagnostics, List.mem_cons, List.not_mem_nil, or_false] at hd
    obtain rfl | rfl | rfl := hd <;>
      exact ⟨⟨by decide, by decide⟩, ⟨by decide, by decide⟩⟩
  have hb : b = ofList diagnostics := by
    refine (honly b).2 ⟨by decide, fun p => ?_⟩
    simp only [b, diagnostics, startingAt_cons]
    by_cases hp : (atLine "a" 0).span.start = p
    · subst hp
      rfl
    · rw [if_neg hp, if_neg hp]
  have hjson : ofJson? b.toJson = some b := hb ▸ hreadBack hfits
  exact ⟨hfits, hb, hjson, hread b.toJson b hjson⟩

/--
The items of this batch are read, but the second one starts before the first.
-/
theorem readBatch_not_ordered
    : let b : Batch := ⟨[atLine "b" 1, atLine "a" 0]⟩
      ofJson? (.arr [(atLine "b" 1).toJson, (atLine "a" 0).toJson]) = some b ∧ ¬ b.Ordered := by
  decide +kernel

end Batch

end DeprecatedUse
