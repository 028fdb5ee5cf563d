import DeprecatedUse.Editor.Session
import DeprecatedUse.Proofs.Java.Uses
import DeprecatedUse.Proofs.Workspace.Shown
import Mathlib

/-!
This module contains the files that a workspace finds. They are in order, each is found once, and
each unit that is read of them is known by its path as it is shown, so by one of its own unless two
paths are shown alike. What is read at a path depends only on what stands there, so a file read
under another path differs only in its name.
-/

namespace DeprecatedUse

open DeprecatedUse.Java (ParseError SourceUnit)

/-! The order of paths. -/

namespace Path

namespace Component

theorem before_iff {a b : Component}
    : a.before b = true ↔ a.rank < b.rank ∨ (a.rank = b.rank ∧ a.bytes < b.bytes) := by
  rw [before, Bool.or_eq_true, Bool.and_eq_true, decide_eq_true_eq, beq_iff_eq, decide_eq_true_eq]

theorem before_trans {a b c : Component} (hab : a.before b = true) (hbc : b.before c = true)
    : a.before c = true := by
  rw [before_iff] at *
  obtain hab | ⟨hab, hab'⟩ := hab
  · obtain hbc | ⟨hbc, -⟩ := hbc
    · exact .inl (Nat.lt_trans hab hbc)
    · exact .inl (hbc ▸ hab)
  · obtain hbc | ⟨hbc, hbc'⟩ := hbc
    · exact .inl (hab ▸ hbc)
    · exact .inr ⟨hab.trans hbc, List.lt_trans hab' hbc'⟩

theorem not_before_self (a : Component) : ¬ a.before a = true := by
  rw [before_iff]
  rintro (h | ⟨-, h⟩)
  · exact Nat.lt_irrefl _ h
  · exact List.lt_irrefl _ h

theorem before_or_eq (a b : Component) : a.before b = true ∨ a = b ∨ b.before a = true := by
  rw [before_iff, before_iff]
  obtain hrank | hrank | hrank := Nat.lt_trichotomy a.rank b.rank
  · exact .inl (.inl hrank)
  · by_cases hab : a.bytes < b.bytes
    · exact .inl (.inr ⟨hrank, hab⟩)
    · by_cases hba : b.bytes < a.bytes
      · exact .inr (.inr (.inr ⟨hrank.symm, hba⟩))
      · have hbytes : a.bytes = b.bytes := List.le_antisymm hba hab
        right
        left
        cases a <;> cases b <;> simp_all [rank, bytes]
  · exact .inr (.inr (.inl hrank))

end Component

theorem componentsLe_cons {a b : Component} {as bs : List Component}
    : componentsLe (a :: as) (b :: bs) = true
        ↔ a.before b = true ∨ (a = b ∧ componentsLe as bs = true) := by
  rw [componentsLe, Bool.or_eq_true, Bool.and_eq_true, beq_iff_eq]

theorem componentsLe_total (as bs : List Component)
    : componentsLe as bs = true ∨ componentsLe bs as = true := by
  induction as generalizing bs with
  | nil => exact .inl (by rw [componentsLe])
  | cons a as ih =>
    cases bs with
    | nil => exact .inr (by rw [componentsLe])
    | cons b bs =>
      rw [componentsLe_cons, componentsLe_cons]
      obtain h | rfl | h := a.before_or_eq b
      · exact .inl (.inl h)
      · obtain h | h := ih bs
        · exact .inl (.inr ⟨rfl, h⟩)
        · exact .inr (.inr ⟨rfl, h⟩)
      · exact .inr (.inl h)

theorem componentsLe_trans {as bs cs : List Component} (hab : componentsLe as bs = true)
    (hbc : componentsLe bs cs = true) : componentsLe as cs = true := by
  induction as generalizing bs cs with
  | nil => rw [componentsLe]
  | cons a as ih =>
    cases bs with
    | nil => cases hab
    | cons b bs =>
      cases cs with
      | nil => cases hbc
      | cons c cs =>
        rw [componentsLe_cons] at *
        obtain hab | ⟨rfl, hab⟩ := hab
        · obtain hbc | ⟨rfl, -⟩ := hbc
          · exact .inl (Component.before_trans hab hbc)
          · exact .inl hab
        · obtain hbc | ⟨rfl, hbc⟩ := hbc
          · exact .inl hbc
          · exact .inr ⟨rfl, ih hab hbc⟩

theorem componentsLe_antisymm {as bs : List Component} (hab : componentsLe as bs = true)
    (hba : componentsLe bs as = true) : as = bs := by
  induction as generalizing bs with
  | nil =>
    cases bs with
    | nil => rfl
    | cons b bs => cases hba
  | cons a as ih =>
    cases bs with
    | nil => cases hab
    | cons b bs =>
      rw [componentsLe_cons] at *
      obtain hab | ⟨rfl, hab⟩ := hab
      · obtain hba | ⟨rfl, -⟩ := hba
        · exact absurd (Component.before_trans hab hba) (Component.not_before_self _)
        · exact absurd hab (Component.not_before_self _)
      · obtain hba | ⟨-, hba⟩ := hba
        · exact absurd hba (Component.not_before_self _)
        · rw [ih hab hba]

theorem same_iff {p q : Path} : p.same q = true ↔ p.components = q.components := by
  rw [same, beq_iff_eq]

theorem same_refl (p : Path) : p.same p = true :=
  same_iff.2 rfl

theorem same_symm {p q : Path} (h : p.same q = true) : q.same p = true :=
  same_iff.2 (same_iff.1 h).symm

theorem same_trans {p q r : Path} (hpq : p.same q = true) (hqr : q.same r = true)
    : p.same r = true :=
  same_iff.2 ((same_iff.1 hpq).trans (same_iff.1 hqr))

end Path

namespace Workspace

theorem dropRepeats_sublist (paths : List Path) : (dropRepeats paths).Sublist paths := by
  fun_induction dropRepeats paths with
  | case1 p q rest _ ih => exact ih.trans ((List.sublist_cons_self q rest).cons_cons p)
  | case2 p q rest _ ih => exact ih.cons_cons p
  | case3 paths _ => exact List.Sublist.refl paths

theorem exists_mem_dropRepeats {paths : List Path} {p : Path} (h : p ∈ paths)
    : ∃ q ∈ dropRepeats paths, q.same p = true := by
  fun_induction dropRepeats paths generalizing p with
  | case1 q r rest hsame ih =>
    obtain rfl | h := List.mem_cons.1 h
    · exact ih List.mem_cons_self
    · obtain rfl | h := List.mem_cons.1 h
      · obtain ⟨first, hfirst, hq⟩ := ih List.mem_cons_self
        exact ⟨first, hfirst, Path.same_trans hq hsame⟩
      · exact ih (List.mem_cons_of_mem _ h)
  | case2 q r rest _ ih =>
    obtain rfl | h := List.mem_cons.1 h
    · exact ⟨p, List.mem_cons_self, p.same_refl⟩
    · obtain ⟨first, hfirst, hp⟩ := ih h
      exact ⟨first, List.mem_cons_of_mem _ hfirst, hp⟩
  | case3 paths _ => exact ⟨p, h, p.same_refl⟩

theorem pairwise_dropRepeats {paths : List Path} (h : paths.Pairwise fun p q => p.le q = true)
    : (dropRepeats paths).Pairwise fun p q => p.same q = false := by
  fun_induction dropRepeats paths with
  | case1 p q rest _ ih =>
    exact ih (h.sublist ((List.sublist_cons_self q rest).cons_cons p))
  | case2 p q rest hsame ih =>
    rw [List.pairwise_cons] at h
    refine List.pairwise_cons.2 ⟨fun r hr => ?_, ih h.2⟩
    rw [← Bool.not_eq_true, Path.same, beq_iff_eq]
    intro heq
    -- The list is sorted, so whatever stands between two paths that are the same is the same, too.
    have hqr : q.components = r.components ∨ q.le r = true := by
      obtain rfl | hr := List.mem_cons.1 ((dropRepeats_sublist _).mem hr)
      · exact .inl rfl
      · exact .inr ((List.pairwise_cons.1 h.2).1 r hr)
    have hpq : p.components = q.components := by
      obtain hqr | hqr := hqr
      · rw [heq, hqr]
      · rw [Path.le, ← heq] at hqr
        exact Path.componentsLe_antisymm (h.1 q List.mem_cons_self) hqr
    rw [Path.same, beq_iff_eq] at hsame
    exact hsame hpq
  | case3 paths hshort =>
    cases paths with
    | nil => exact List.Pairwise.nil
    | cons p rest =>
      cases rest with
      | nil => exact List.pairwise_singleton _ p
      | cons q rest => exact absurd rfl (hshort p q rest)

theorem increasing_filesBelow (here : Place) (project : Project) (roots : List Path)
    : (filesBelow here project roots).Pairwise
        fun p q => p.le q = true ∧ p.same q = false := by
  have hsorted : (((roots.flatMap here.filesBelow).filter (wants project)).mergeSort
      Path.le).Pairwise fun p q => p.le q = true := by
    refine List.pairwise_mergeSort (fun p q r => ?_) (fun p q => ?_) _
    · exact Path.componentsLe_trans
    · rw [Bool.or_eq_true]
      exact Path.componentsLe_total p.components q.components
  exact (hsorted.sublist (dropRepeats_sublist _)).and (pairwise_dropRepeats hsorted)

theorem discover_ok {host : Host} {project : Project} {w : Workspace}
    (h : discover host project = .ok w)
    : w.files = filesBelow (placeAfter host project) project w.sourceRoots := by
  rw [discover] at h
  cases hinfo : buildInfo host project with
  | error e =>
    rw [hinfo] at h
    cases h
  | ok info =>
    rw [hinfo] at h
    cases h
    rfl

theorem nodup_files {host : Host} {project : Project} {w : Workspace}
    (h : discover host project = .ok w) : w.files.Nodup := by
  rw [discover_ok h]
  refine (increasing_filesBelow _ _ _).imp ?_
  rintro p q ⟨-, hsame⟩ rfl
  rw [p.same_refl] at hsame
  cases hsame

theorem distinct_files {host : Host} {project : Project} {w : Workspace}
    (h : discover host project = .ok w) (hshown : Path.ShownApart w.files)
    : w.files.Pairwise fun p q => p.text ≠ q.text := by
  refine (nodup_files h).imp_of_mem ?_
  intro p q hp hq hne htext
  exact hne (hshown p hp q hq htext)

/-! The units of the files. -/

def unit? (here : Place) (file : Path) : Option SourceUnit :=
  (readUnit here file).toOption

theorem units_loadUnits (here : Place) (w : Workspace)
    : (w.loadUnits here).1 = w.files.filterMap (unit? here) := by
  rw [loadUnits]
  induction w.files with
  | nil => rfl
  | cons file files ih =>
    rw [List.foldr_cons, List.filterMap_cons, unit?]
    cases readUnit here file with
    | error e => exact ih
    | ok u => exact congrArg (u :: ·) ih

theorem unit?_some {here : Place} {file : Path} {u : SourceUnit} (h : unit? here file = some u)
    : ∃ text, here.readText file = .ok text ∧ SourceUnit.parse file.text text = .ok u := by
  rw [unit?, readUnit] at h
  split at h
  · cases h
  · next text htext =>
    cases hparse : SourceUnit.parse file.text text with
    | error e =>
      rw [hparse] at h
      cases h
    | ok v =>
      rw [hparse] at h
      cases h
      exact ⟨text, htext, hparse⟩

theorem unit?_of_parse {here : Place} {file : Path} {text : String} {u : SourceUnit}
    (htext : here.readText file = .ok text) (hparse : SourceUnit.parse file.text text = .ok u)
    : unit? here file = some u := by
  rw [unit?, readUnit, htext]
  dsimp only
  rw [hparse]
  rfl

theorem id_of_unit? {here : Place} {file : Path} {u : SourceUnit} (h : unit? here file = some u)
    : u.id = file.text := by
  obtain ⟨text, -, hparse⟩ := unit?_some h
  obtain ⟨tokens, -, rfl⟩ := SourceUnit.parse_ok hparse
  rfl

theorem distinct_units {host : Host} {project : Project} {w : Workspace}
    (h : discover host project = .ok w) (hshown : Path.ShownApart w.files) (here : Place)
    : (w.files.filterMap (unit? here)).Pairwise fun v w => v.id ≠ w.id := by
  rw [List.pairwise_filterMap]
  refine (distinct_files h hshown).imp ?_
  intro p q htext v hv w hw
  rw [id_of_unit? hv, id_of_unit? hw]
  exact htext

end Workspace

/-! Files that are known by several paths. -/

namespace Place

def Same (here : Place) (p q : Path) : Prop :=
  (here.find p).map Prod.fst = (here.find q).map Prod.fst

instance (here : Place) (p q : Path) : Decidable (here.Same p q) :=
  inferInstanceAs (Decidable ((here.find p).map Prod.fst = (here.find q).map Prod.fst))

theorem node?_of_find {here : Place} {p : Path} {names : List Name} {node : FileTree.Node}
    (h : here.find p = .ok (names, node)) : here.tree.node? names = some node := by
  rw [find] at h
  cases hlocate : here.locate p with
  | error e =>
    rw [hlocate] at h
    cases h
  | ok found =>
    rw [hlocate] at h
    dsimp only [bind, Except.bind] at h
    split at h
    · cases h
    · next node' hnode =>
      cases h
      exact hnode

theorem find_eq_of_same {here : Place} {p q : Path} (h : here.Same p q)
    : here.find p = here.find q := by
  rw [Same] at h
  cases hp : here.find p with
  | error e =>
    cases hq : here.find q with
    | error e' =>
      rw [hp, hq] at h
      cases h
      rfl
    | ok found =>
      rw [hp, hq] at h
      cases h
  | ok found =>
    cases hq : here.find q with
    | error e =>
      rw [hp, hq] at h
      cases h
    | ok found' =>
      rw [hp, hq] at h
      obtain ⟨names, node⟩ := found
      obtain ⟨names', node'⟩ := found'
      obtain rfl : names = names' := Except.ok.inj h
      have hnode := node?_of_find hp
      rw [node?_of_find hq] at hnode
      obtain rfl := Option.some.inj hnode
      rfl

theorem readText_eq_of_same {here : Place} {p q : Path} (h : here.Same p q)
    : here.readText p = here.readText q := by
  rw [readText, readText, readBytes, readBytes, find_eq_of_same h]

end Place

namespace Workspace

theorem unit?_eq_some_iff {here : Place} {file : Path} {u : SourceUnit}
    : unit? here file = some u ↔ readUnit here file = .ok u := by
  rw [unit?]
  cases readUnit here file with
  | error e =>
    constructor
    · intro h
      cases h
    · intro h
      cases h
  | ok v =>
    constructor
    · intro h
      cases h
      rfl
    · intro h
      cases h
      rfl

def failure? (here : Place) (file : Path) : Option ParseError :=
  match readUnit here file with
  | .ok _ => none
  | .error e => some e

theorem failures_loadUnits (here : Place) (w : Workspace)
    : (w.loadUnits here).2 = w.files.filterMap (failure? here) := by
  rw [loadUnits]
  induction w.files with
  | nil => rfl
  | cons file files ih =>
    rw [List.foldr_cons, List.filterMap_cons, failure?]
    cases readUnit here file with
    | error e => exact congrArg (e :: ·) ih
    | ok u => exact ih

theorem readUnit_of_same {here : Place} {p q : Path} (h : here.Same p q) {u : SourceUnit}
    (hread : readUnit here q = .ok u)
    : ∃ v, readUnit here p = .ok v ∧ v.text = u.text ∧ v.accesses = u.accesses := by
  rw [readUnit] at hread ⊢
  rw [Place.readText_eq_of_same h]
  cases htext : here.readText q with
  | error e =>
    rw [htext] at hread
    cases hread
  | ok text =>
    rw [htext] at hread
    obtain ⟨tokens, htokens, rfl⟩ := SourceUnit.parse_ok hread
    refine ⟨.ofTokens p.text text tokens, ?_, rfl, rfl⟩
    dsimp only
    rw [SourceUnit.parse, htokens]

end Workspace

end DeprecatedUse
