import DeprecatedUse.Analysis
import DeprecatedUse.Proofs.Index.Resolution
import DeprecatedUse.Proofs.Java.Uses
import Mathlib.Data.List.Forall2

/-!
This module contains the analysis of a unit against an index. It is never given up, and it tells of
exactly the uses of deprecated members, in the order of the uses. It depends on the uses of a unit,
not on its name, and all that it finds has the severity that the settings ask for, which is never
that of an error.
-/

namespace DeprecatedUse

open DeprecatedUse.Java (Access IsName SourceUnit)

namespace Analysis

/--
The use refers to a deprecated member, and the settings do not ask for silence about it.
-/
def Reported (settings : CheckSettings) (index : Index) (a : Access) : Prop :=
  ∃ receiver s, a.receiverType = some receiver
    ∧ index.resolve ⟨receiver, a.member, a.kind⟩ = .ok s
    ∧ s.deprecated = true
    ∧ ∀ pattern, pattern ∈ settings.ignore → globMatch pattern s.qualifiedName = false

instance (settings : CheckSettings) (index : Index) (a : Access) :
    Decidable (Reported settings index a) :=
  match hreceiver : a.receiverType with
  | none => isFalse (by
      rintro ⟨receiver, s, h, -⟩
      rw [hreceiver] at h
      cases h)
  | some receiver =>
    match hanswer : index.resolve ⟨receiver, a.member, a.kind⟩ with
    | .error failure => isFalse (by
        rintro ⟨receiver', s, h, hresolve, -⟩
        rw [hreceiver, Option.some.injEq] at h
        subst h
        rw [hanswer] at hresolve
        cases hresolve)
    | .ok s =>
      decidable_of_iff
        (s.deprecated = true
          ∧ ∀ pattern, pattern ∈ settings.ignore → globMatch pattern s.qualifiedName = false) (by
        constructor
        · intro h
          exact ⟨receiver, s, hreceiver, hanswer, h⟩
        · rintro ⟨receiver', s', h, hresolve, hrest⟩
          rw [hreceiver, Option.some.injEq] at h
          subst h
          rw [hanswer, Except.ok.injEq] at hresolve
          subst hresolve
          exact hrest)

/--
The diagnostic tells of the use of a member of a type in the index.
-/
structure Tells (index : Index) (a : Access) (d : Diagnostic) : Prop where
  code : d.code = .deprecatedMemberUsage
  span : d.span = a.span
  severity : d.severity ≠ .error
  symbol : ∃ type, index.containsType type = true ∧ d.symbol = some (type ++ "." ++ a.member)

theorem effectiveSeverity_ne_error (settings : CheckSettings)
    : settings.effectiveSeverity ≠ .error := by
  unfold CheckSettings.effectiveSeverity
  cases settings.severity <;> simp

theorem ignores_eq_false_iff (settings : CheckSettings) (name : String)
    : settings.ignores name = false
        ↔
      ∀ pattern, pattern ∈ settings.ignore → globMatch pattern name = false := by
  unfold CheckSettings.ignores
  rw [List.any_eq_false]
  simp only [Bool.not_eq_true]

theorem fits_symbol {member : String} (h : IsName member) {s : Symbol} {type : String}
    (hs : s.qualifiedName = type ++ "." ++ member) : fits member s = true := by
  unfold fits Symbol.memberName
  rw [hs, lastSegment_append h.2]
  have hne : type ++ "." ++ member ≠ "" := by
    intro hempty
    have := congrArg String.toList hempty
    simp at this
  simp [hne]

theorem judge_symbol {a : Access} (hname : IsName a.member) {s : Symbol} {type : String}
    (hs : s.qualifiedName = type ++ "." ++ a.member) (settings : CheckSettings) (unit : UnitId)
    : judge settings unit a (.ok s)
        =
      .ok (if s.deprecated && !settings.ignores s.qualifiedName then
        some (diagnosticFor settings a s) else none) := by
  unfold judge
  dsimp only
  rw [if_pos (fits_symbol hname hs)]
  split
  · rfl
  · rfl

theorem judge_failure {failure : ResolutionFailure} (h : failure.isFault = false)
    (settings : CheckSettings) (unit : UnitId) (a : Access)
    : judge settings unit a (.error failure) = .ok none := by
  cases failure with
  | backend cause => cases h
  | _ => rfl

theorem checkAccess_not_reported {settings : CheckSettings} {index : Index} {a : Access}
    (unit : UnitId) (hname : IsName a.member) (h : ¬ Reported settings index a)
    : checkAccess settings index.resolve unit a = .ok none := by
  unfold checkAccess queryOf?
  rw [if_neg hname.1]
  cases hreceiver : a.receiverType with
  | none => exact judge_failure rfl settings unit a
  | some receiver =>
    dsimp only [Option.map_some]
    rcases Index.resolve_cases index ⟨receiver, a.member, a.kind⟩ with
      ⟨type, d, -, hanswer⟩ | ⟨failure, hanswer, hfault⟩
    · rw [hanswer]
      rw [judge_symbol hname (Index.symbolOf_qualifiedName _ _ _), if_neg]
      intro hreport
      rw [Bool.and_eq_true, Bool.not_eq_true', ignores_eq_false_iff] at hreport
      exact h ⟨receiver, _, hreceiver, hanswer, hreport⟩
    · rw [hanswer]
      exact judge_failure hfault settings unit a

theorem checkAccess_reported {settings : CheckSettings} {index : Index} {a : Access}
    (unit : UnitId) (hname : IsName a.member) (h : Reported settings index a)
    : ∃ d, checkAccess settings index.resolve unit a = .ok (some d) ∧ Tells index a d := by
  obtain ⟨receiver, s, hreceiver, hanswer, hdeprecated, hignore⟩ := h
  rcases Index.resolve_cases index ⟨receiver, a.member, a.kind⟩ with
    ⟨type, dep, htype, hcase⟩ | ⟨failure, hcase, -⟩
  · rw [hanswer, Except.ok.injEq] at hcase
    have hs : s.qualifiedName = type ++ "." ++ a.member := by
      rw [hcase, Index.symbolOf_qualifiedName]
    refine ⟨diagnosticFor settings a s, ?_, ?_⟩
    · unfold checkAccess queryOf?
      rw [if_neg hname.1, hreceiver]
      dsimp only [Option.map_some]
      rw [hanswer]
      rw [judge_symbol hname hs, if_pos]
      rw [Bool.and_eq_true, Bool.not_eq_true', ignores_eq_false_iff]
      exact ⟨hdeprecated, hignore⟩
    · constructor
      · rfl
      · rfl
      · exact effectiveSeverity_ne_error settings
      · exact ⟨type, htype, by rw [← hs]; rfl⟩
  · rw [hanswer] at hcase
    cases hcase

theorem walk_index (settings : CheckSettings) (index : Index) (unit : UnitId)
    {accesses : List Access} (hnames : ∀ a, a ∈ accesses → IsName a.member)
    : ∃ diagnostics, (walk settings index.resolve unit accesses).1 = .ok diagnostics
        ∧ List.Forall₂ (Tells index) (accesses.filter fun a => Reported settings index a)
          diagnostics := by
  induction accesses with
  | nil => exact ⟨[], rfl, List.Forall₂.nil⟩
  | cons a rest ih =>
    have hname := hnames a List.mem_cons_self
    obtain ⟨diagnostics, hwalk, hall⟩ := ih fun b hb => hnames b (List.mem_cons_of_mem a hb)
    unfold walk
    by_cases hreported : Reported settings index a
    · obtain ⟨d, hcheck, htells⟩ := checkAccess_reported unit hname hreported
      rw [List.filter_cons_of_pos (by simpa using hreported)]
      refine ⟨d :: diagnostics, ?_, List.Forall₂.cons htells hall⟩
      rw [hcheck]
      dsimp only
      rw [hwalk]
      rfl
    · rw [List.filter_cons_of_neg (by simpa using hreported)]
      refine ⟨diagnostics, ?_, hall⟩
      rw [checkAccess_not_reported unit hname hreported]
      dsimp only
      rw [hwalk]
      rfl

theorem exists_tells {index : Index} {accesses : List Access} {diagnostics : List Diagnostic}
    (h : List.Forall₂ (Tells index) accesses diagnostics) {d : Diagnostic} (hd : d ∈ diagnostics)
    : ∃ a, a ∈ accesses ∧ Tells index a d := by
  induction h with
  | nil => cases hd
  | @cons a d' accesses diagnostics htells hrest ih =>
    rw [List.mem_cons] at hd
    rcases hd with rfl | hd
    · exact ⟨a, List.mem_cons_self, htells⟩
    · obtain ⟨b, hb, htells'⟩ := ih hd
      exact ⟨b, List.mem_cons_of_mem a hb, htells'⟩

theorem ofList_of_tells {index : Index} {accesses : List Access} {diagnostics : List Diagnostic}
    (h : List.Forall₂ (Tells index) accesses diagnostics)
    (hsorted : accesses.Pairwise fun a b => a.span.start ≤ b.span.start)
    : Batch.ofList diagnostics = ⟨diagnostics⟩ := by
  unfold Batch.ofList
  rw [List.mergeSort_of_pairwise]
  induction h with
  | nil => exact List.Pairwise.nil
  | cons htells hrest ih =>
    rw [List.pairwise_cons] at hsorted ⊢
    refine ⟨?_, ih hsorted.2⟩
    intro d hd
    obtain ⟨b, hb, htells'⟩ := exists_tells hrest hd
    unfold Batch.startsBefore
    rw [decide_eq_true_eq, htells.span, htells'.span]
    exact hsorted.1 b hb

theorem run_index_ok {id : UnitId} {text : String} {u : SourceUnit}
    (hparse : SourceUnit.parse id text = .ok u) (settings : CheckSettings) (index : Index)
    : ∃ batch, (run settings index.resolve u).result = .ok batch := by
  unfold run
  split
  · obtain ⟨diagnostics, hwalk, -⟩ := walk_index settings index u.id
      fun a ha => SourceUnit.isName_member hparse ha
    dsimp only
    rw [hwalk]
    exact ⟨Batch.ofList diagnostics, rfl⟩
  · exact ⟨{}, rfl⟩

/--
The analysis of a text against an index is never given up. It tells of exactly the uses that refer
to a deprecated member about which no silence was asked for, one diagnostic a use, in the order of
the uses.
-/
theorem run_index_tells_reported {id : UnitId} {text : String} {u : SourceUnit}
    (hparse : SourceUnit.parse id text = .ok u) (settings : CheckSettings)
    (henabled : settings.enabled = true) (index : Index)
    : ∃ batch, (run settings index.resolve u).result = .ok batch
        ∧ List.Forall₂ (Tells index) (u.accesses.filter fun a => Reported settings index a)
          batch.diagnostics := by
  obtain ⟨diagnostics, hwalk, htells⟩ := walk_index settings index u.id
    fun a ha => SourceUnit.isName_member hparse ha
  have hsorted := (SourceUnit.pairwise_accesses hparse).filter
    fun a => decide (Reported settings index a)
  refine ⟨⟨diagnostics⟩, ?_, htells⟩
  unfold run
  rw [if_pos henabled]
  dsimp only
  rw [hwalk]
  exact congrArg Except.ok (ofList_of_tells htells hsorted)

theorem run_index_tells_call_of_old
    : ∃ u batch, SourceUnit.parse "A.java"
          "class A { @Deprecated void old() {} void f(A a) { a.old(); } }" = .ok u
        ∧ (run {} (Index.ofUnits [u]).resolve u).result = .ok batch
        ∧ batch.diagnostics.length = 1 := by
  have hreads : (match SourceUnit.parse "A.java"
        "class A { @Deprecated void old() {} void f(A a) { a.old(); } }" with
      | .ok u => decide (u.accesses.length = 1
          ∧ (∀ a ∈ u.accesses, a.receiverType = some (.qualified "A") ∧ a.member = "old"
            ∧ a.kind = .method)
          ∧ (Index.ofUnits [u]).lookupType (.qualified "A") = .ok "A"
          ∧ "A" ∈ (Index.ofUnits [u]).types.keys
          ∧ (Index.ofUnits [u]).ownMember? "old" .method "A"
            = some (.ok (Index.symbolOf "A.old" .method (some {}))))
      | .error _ => false) = true := by
    decide +kernel
  split at hreads
  · next u hparse =>
    rw [decide_eq_true_eq] at hreads
    obtain ⟨hlength, haccess, hlookup, hkey, hown⟩ := hreads
    obtain ⟨batch, hrun, htells⟩ := run_index_tells_reported hparse {} rfl (Index.ofUnits [u])
    refine ⟨u, batch, hparse, hrun, ?_⟩
    rw [← htells.length_eq, List.filter_eq_self.2, hlength]
    intro a ha
    obtain ⟨hreceiver, hmember, hkind⟩ := haccess a ha
    rw [decide_eq_true_eq]
    refine ⟨.qualified "A", Index.symbolOf "A.old" .method (some {}), hreceiver, ?_, rfl, ?_⟩
    · rw [hmember, hkind]
      exact Index.resolve_own hlookup hkey hown
    · intro pattern hpattern
      cases hpattern
  · cases hreads

/-! What the analysis depends on. -/

variable {settings : CheckSettings} {resolve : Resolver} {unit : UnitId}

theorem judge_ok {a : Access} {answer : Resolution} {found : Option Diagnostic}
    (h : judge settings unit a answer = .ok found)
    : (∀ other, judge settings other a answer = .ok found)
        ∧ ∀ d, d ∈ found → d.severity = settings.effectiveSeverity := by
  cases answer with
  | error failure =>
    cases failure with
    | backend cause => cases h
    | _ =>
      cases h
      exact ⟨fun _ => rfl, fun d hd => nomatch hd⟩
  | ok s =>
    unfold judge at h ⊢
    dsimp only at h ⊢
    split at h
    · next hfits =>
      refine ⟨fun _ => by rw [if_pos hfits, h], ?_⟩
      split at h
      · cases h
        intro d hd
        obtain rfl := Option.some.inj hd
        rfl
      · cases h
        exact fun d hd => nomatch hd
    · cases h

theorem checkAccess_ok {a : Access} {found : Option Diagnostic}
    (h : checkAccess settings resolve unit a = .ok found)
    : (∀ other, checkAccess settings resolve other a = .ok found)
        ∧ ∀ d, d ∈ found → d.severity = settings.effectiveSeverity := by
  rw [checkAccess] at h
  split at h
  · cases h
  · next hname =>
    refine ⟨fun other => ?_, (judge_ok h).2⟩
    rw [checkAccess, if_neg hname]
    exact (judge_ok h).1 other

theorem walk_ok {accesses : List Access} {diagnostics : List Diagnostic}
    (h : (walk settings resolve unit accesses).1 = .ok diagnostics)
    : (∀ other, (walk settings resolve other accesses).1 = .ok diagnostics)
        ∧ ∀ d, d ∈ diagnostics → d.severity = settings.effectiveSeverity := by
  -- By induction on the accesses: a walk that ends well does so at the first and at the rest.
  induction accesses generalizing diagnostics with
  | nil =>
    cases h
    exact ⟨fun _ => rfl, fun d hd => nomatch hd⟩
  | cons a rest ih =>
    rw [walk] at h
    cases hcheck : checkAccess settings resolve unit a with
    | error e =>
      rw [hcheck] at h
      cases h
    | ok found =>
      obtain ⟨hother, hfound⟩ := checkAccess_ok hcheck
      rw [hcheck] at h
      dsimp only at h
      cases hrest : (walk settings resolve unit rest).1 with
      | error e =>
        rw [hrest] at h
        cases h
      | ok later =>
        obtain ⟨hlater, hall⟩ := ih hrest
        rw [hrest] at h
        cases h
        constructor
        · intro other
          rw [walk, hother other]
          dsimp only
          rw [hlater other]
          rfl
        · intro d hd
          obtain hd | hd := List.mem_append.1 hd
          · exact hfound d (Option.mem_toList.1 hd)
          · exact hall d hd

theorem run_ok {u : SourceUnit} {batch : Batch} (h : (run settings resolve u).result = .ok batch)
    : (∀ v : SourceUnit, v.accesses = u.accesses → (run settings resolve v).result = .ok batch)
        ∧ ∀ d, d ∈ batch.diagnostics → d.severity = settings.effectiveSeverity := by
  rw [run] at h
  split at h
  · next henabled =>
    dsimp only at h
    cases hwalk : (walk settings resolve u.id u.accesses).1 with
    | error e =>
      rw [hwalk] at h
      cases h
    | ok diagnostics =>
      rw [hwalk] at h
      cases h
      constructor
      · intro v hv
        rw [run, if_pos henabled, hv]
        dsimp only
        rw [(walk_ok hwalk).1 v.id]
        rfl
      · intro d hd
        exact (walk_ok hwalk).2 d (List.mem_mergeSort.1 hd)
  · next hdisabled =>
    cases h
    constructor
    · intro v _
      rw [run, if_neg hdisabled]
    · exact fun d hd => nomatch hd

theorem count_error_run {u : SourceUnit} {batch : Batch}
    (h : (run settings resolve u).result = .ok batch) : batch.count .error = 0 := by
  rw [Batch.count, List.length_eq_zero_iff, List.filter_eq_nil_iff]
  intro d hd
  rw [(run_ok h).2 d hd, beq_iff_eq]
  exact effectiveSeverity_ne_error settings

end Analysis

end DeprecatedUse
