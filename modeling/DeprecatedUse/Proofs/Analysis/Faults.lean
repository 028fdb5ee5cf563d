import DeprecatedUse.Proofs.Analysis.DeprecatedUses

/-!
This module contains what an analysis asks of a resolver, whatever the resolver answers, and where
it ends. Every use with a known receiver type is asked about once, in order. The first answer at
fault ends the analysis with the error of its use; all other failures are passed over.
-/

namespace DeprecatedUse

open DeprecatedUse.Java (Access SourceUnit exists_tokenize_ok outline tokenize)

namespace Java.SourceUnit

theorem sortAccesses_of_pairwise {accesses : List Access}
    (h : accesses.Pairwise fun a b => a.span.start ≤ b.span.start)
    : sortAccesses accesses = accesses := by
  unfold sortAccesses
  rw [List.mergeSort_of_pairwise]
  exact h.imp fun hle => decide_eq_true hle

end Java.SourceUnit

namespace Analysis

variable {settings : CheckSettings} {resolve : Resolver} {unit : UnitId}

/--
The answer about a use is at fault: the resolver is broken, or it told of something else than the
member that it was asked about.
-/
inductive Faults (resolve : Resolver) (unit : UnitId) (a : Access) : AnalysisError → Prop where
  | broken {q : Query} {cause : String} (asked : queryOf? a = some q)
      (answer : resolve q = .error (.backend cause)) :
      Faults resolve unit a (.backend unit cause)
  | misfit {q : Query} {s : Symbol} (asked : queryOf? a = some q) (answer : resolve q = .ok s)
      (misfit : s.qualifiedName = "" ∨ s.memberName ≠ a.member) :
      Faults resolve unit a (.contractViolation unit a.member s.qualifiedName a.span.start)

def told? (resolve : Resolver) (a : Access) : Option Symbol :=
  (queryOf? a).bind fun q => (resolve q).toOption

def finding? (settings : CheckSettings) (resolve : Resolver) (a : Access) : Option Diagnostic :=
  ((told? resolve a).filter fun s => s.deprecated && !settings.ignores s.qualifiedName).map
    (diagnosticFor settings a)

/-! A resolver that keeps a record of what it is asked. -/

def recording (resolve : Resolver) (q : Query) : StateM (List Query) Resolution := do
  modify (· ++ [q])
  return resolve q

def checkAccessWith (settings : CheckSettings) (ask : Query → StateM (List Query) Resolution)
    (unit : UnitId) (a : Access) :
    StateM (List Query) (Except AnalysisError (Option Diagnostic)) := do
  if a.member = "" then
    return .error (.malformed unit a.span.start)
  else
    match queryOf? a with
    | some q => return judge settings unit a (← ask q)
    | none => return judge settings unit a (.error (.unresolvedReceiver a.member))

/--
The diagnostics of some uses, up to the first one that ends the analysis, with a resolver that does
more than to answer.
-/
def walkWith (settings : CheckSettings) (ask : Query → StateM (List Query) Resolution)
    (unit : UnitId) : List Access → StateM (List Query) (Except AnalysisError (List Diagnostic))
  | [] => return .ok []
  | a :: rest => do
    match ← checkAccessWith settings ask unit a with
    | .error e => return .error e
    | .ok found => return (← walkWith settings ask unit rest).map (found.toList ++ ·)

def runWith (settings : CheckSettings) (ask : Query → StateM (List Query) Resolution)
    (u : SourceUnit) : StateM (List Query) (Except AnalysisError Batch) := do
  if settings.enabled then
    return (← walkWith settings ask u.id u.accesses).map Batch.ofList
  else
    return .ok {}

theorem checkAccessWith_recording (a : Access) (log : List Query)
    : (checkAccessWith settings (recording resolve) unit a).run log
        =
      (checkAccess settings resolve unit a,
        log ++ if a.member = "" then [] else (queryOf? a).toList) := by
  unfold checkAccessWith checkAccess
  split
  · rw [List.append_nil]
    rfl
  · cases queryOf? a with
    | none =>
      rw [Option.toList_none, List.append_nil]
      rfl
    | some q => rfl

theorem walkWith_recording (accesses : List Access) (log : List Query)
    : (walkWith settings (recording resolve) unit accesses).run log
        =
      ((walk settings resolve unit accesses).1,
        log ++ (walk settings resolve unit accesses).2) := by
  induction accesses generalizing log with
  | nil =>
    rw [walk, List.append_nil]
    rfl
  | cons a rest ih =>
    rw [walkWith, StateT.run_bind, checkAccessWith_recording, walk]
    cases checkAccess settings resolve unit a with
    | error e => rfl
    | ok found =>
      change (Prod.map (Except.map (found.toList ++ ·)) id
        ((walkWith settings (recording resolve) unit rest).run _)) = _
      rw [ih, List.append_assoc]
      rfl

theorem runWith_recording (settings : CheckSettings) (resolve : Resolver) (u : SourceUnit)
    : (runWith settings (recording resolve) u).run []
        =
      ((run settings resolve u).result, (run settings resolve u).queries) := by
  unfold runWith run
  split
  · change Prod.map (Except.map Batch.ofList) id
      ((walkWith settings (recording resolve) u.id u.accesses).run []) = _
    rw [walkWith_recording]
    rfl
  · rfl

/-! What one use comes to. -/

theorem fits_eq_false_iff {member : String} {s : Symbol}
    : fits member s = false ↔ s.qualifiedName = "" ∨ s.memberName ≠ member := by
  unfold fits
  rw [Bool.and_eq_false_iff, bne_eq_false_iff_eq, beq_eq_false_iff_ne]

theorem checkAccess_eq_error {a : Access} {e : AnalysisError} (hname : a.member ≠ "")
    (h : Faults resolve unit a e) : checkAccess settings resolve unit a = .error e := by
  unfold checkAccess
  rw [if_neg hname]
  cases h with
  | broken hasked hanswer =>
    rw [hasked]
    dsimp only
    rw [hanswer]
    rfl
  | misfit hasked hanswer hmisfit =>
    rw [hasked]
    dsimp only
    rw [hanswer, judge, if_neg (Bool.eq_false_iff.1 (fits_eq_false_iff.2 hmisfit))]

theorem checkAccess_eq_ok {a : Access} (hname : a.member ≠ "")
    (h : ∀ e, ¬ Faults resolve unit a e)
    : checkAccess settings resolve unit a = .ok (finding? settings resolve a) := by
  unfold checkAccess finding? told?
  rw [if_neg hname]
  cases hasked : queryOf? a with
  | none => rfl
  | some q =>
    rw [Option.bind_some]
    dsimp only
    cases hanswer : resolve q with
    | error failure =>
      cases failure with
      | backend cause => exact absurd (.broken hasked hanswer) (h _)
      | _ => rfl
    | ok s =>
      have hfits : fits a.member s = true := by
        rw [← Bool.not_eq_false, fits_eq_false_iff]
        exact fun hmisfit => h _ (.misfit hasked hanswer hmisfit)
      rw [judge, if_pos hfits, Except.toOption, Option.filter_some]
      split
      · rfl
      · rfl

/-! What all uses come to. -/

theorem queryOf?_toList (a : Access) : (queryOf? a).toList = [a].filterMap queryOf? := by
  cases h : queryOf? a <;> simp [h]

theorem walk_cons_quiet {a : Access} (hname : a.member ≠ "") (h : ∀ e, ¬ Faults resolve unit a e)
    (rest : List Access)
    : walk settings resolve unit (a :: rest)
        =
      ((walk settings resolve unit rest).1.map ((finding? settings resolve a).toList ++ ·),
        (queryOf? a).toList ++ (walk settings resolve unit rest).2) := by
  rw [walk, checkAccess_eq_ok hname h, if_neg hname]

theorem walk_fault {before : List Access} {a : Access} {e : AnalysisError} (after : List Access)
    (hnames : ∀ b, b ∈ before ++ [a] → b.member ≠ "")
    (hbefore : ∀ b, b ∈ before → ∀ e', ¬ Faults resolve unit b e') (h : Faults resolve unit a e)
    : walk settings resolve unit (before ++ a :: after)
        =
      (.error e, (before ++ [a]).filterMap queryOf?) := by
  induction before with
  | nil =>
    have hname := hnames a List.mem_cons_self
    rw [List.nil_append, List.nil_append, walk, checkAccess_eq_error hname h, if_neg hname,
      queryOf?_toList]
  | cons b before ih =>
    have hname := hnames b List.mem_cons_self
    rw [List.cons_append, walk_cons_quiet hname (hbefore b List.mem_cons_self),
      ih (fun c hc => hnames c (List.mem_cons_of_mem b hc))
        (fun c hc => hbefore c (List.mem_cons_of_mem b hc)),
      queryOf?_toList, ← List.filterMap_append, List.singleton_append, List.cons_append]
    rfl

theorem walk_faultless {accesses : List Access} (hnames : ∀ a, a ∈ accesses → a.member ≠ "")
    (h : ∀ a, a ∈ accesses → ∀ e, ¬ Faults resolve unit a e)
    : walk settings resolve unit accesses
        =
      (.ok (accesses.filterMap (finding? settings resolve)), accesses.filterMap queryOf?) := by
  induction accesses with
  | nil => rfl
  | cons a rest ih =>
    have hname := hnames a List.mem_cons_self
    rw [walk_cons_quiet hname (h a List.mem_cons_self),
      ih (fun b hb => hnames b (List.mem_cons_of_mem a hb))
        (fun b hb => h b (List.mem_cons_of_mem a hb)),
      List.filterMap_cons, List.filterMap_cons]
    cases finding? settings resolve a <;> cases queryOf? a <;> rfl

/-! The findings are in the order of the uses. -/

theorem span_of_finding? {a : Access} {d : Diagnostic} (h : finding? settings resolve a = some d)
    : d.span = a.span := by
  obtain ⟨s, -, rfl⟩ := Option.map_eq_some_iff.1 h
  rfl

theorem ofList_findings {accesses : List Access}
    (h : accesses.Pairwise fun a b => a.span.start ≤ b.span.start)
    : Batch.ofList (accesses.filterMap (finding? settings resolve))
        =
      ⟨accesses.filterMap (finding? settings resolve)⟩ := by
  unfold Batch.ofList
  rw [List.mergeSort_of_pairwise]
  rw [List.pairwise_filterMap]
  refine h.imp fun {a b} hle d hd d' hd' => ?_
  unfold Batch.startsBefore
  rw [decide_eq_true_eq, span_of_finding? hd, span_of_finding? hd']
  exact hle

/--
What the analysis of a text comes to, with any resolver. The resolver sees one query for each use
with a known receiver type, in the order of the uses, up to and including the first use about which
the answer is at fault. If there is such a use, its error is the result. If there is none, the result
has the diagnostics of the deprecated members among the answers, in the order of the uses.
-/
theorem run_ends_at_first_fault {id : UnitId} {text : String} {u : SourceUnit}
    (hparse : SourceUnit.parse id text = .ok u) (settings : CheckSettings)
    (henabled : settings.enabled = true) (resolve : Resolver)
    : (runWith settings (recording resolve) u).run []
          = ((run settings resolve u).result, (run settings resolve u).queries)
        ∧ (∀ before a after e, u.accesses = before ++ a :: after
          → (∀ b, b ∈ before → ∀ e', ¬ Faults resolve u.id b e')
          → Faults resolve u.id a e
          → run settings resolve u = ⟨.error e, (before ++ [a]).filterMap queryOf?⟩)
        ∧ ((∀ a, a ∈ u.accesses → ∀ e, ¬ Faults resolve u.id a e)
          → run settings resolve u
            = ⟨.ok ⟨u.accesses.filterMap (finding? settings resolve)⟩,
              u.accesses.filterMap queryOf?⟩) := by
  have hnames : ∀ a, a ∈ u.accesses → a.member ≠ "" :=
    fun a ha => (SourceUnit.isName_member hparse ha).1
  refine ⟨runWith_recording settings resolve u, ?_, ?_⟩
  · intro before a after e haccesses hbefore hfault
    have hasked : ∀ b, b ∈ before ++ [a] → b.member ≠ "" := by
      intro b hb
      apply hnames
      rw [haccesses, List.append_cons]
      exact List.mem_append_left after hb
    rw [run, if_pos henabled, haccesses, walk_fault after hasked hbefore hfault]
    rfl
  · intro hfaultless
    rw [run, if_pos henabled, walk_faultless hnames hfaultless]
    dsimp only [Except.map]
    rw [ofList_findings (SourceUnit.pairwise_accesses hparse)]

theorem run_ends_at_first_fault_unknown_broken
    : ∃ u, SourceUnit.parse "T.java" "class T { void f(T t) { g().a(); t.b(); t.c(); t.d(); } }" = .ok u
        ∧ run {} (fun q => .error (if q.member = "c" then .backend "down" else .unknownType "T")) u
          = ⟨.error (.backend "T.java" "down"),
            [⟨.qualified "T", "b", .method⟩,
              ⟨.qualified "T", "c", .method⟩]⟩
        ∧ run {} (fun _ => .error (.unknownType "T")) u
          = ⟨.ok {}, [⟨.qualified "T", "b", .method⟩,
              ⟨.qualified "T", "c", .method⟩,
              ⟨.qualified "T", "d", .method⟩]⟩ := by
  have hcheck : (tokenize "class T { void f(T t) { g().a(); t.b(); t.c(); t.d(); } }"
      |>.toOption.any fun tokens =>
        decide (((outline tokens).bodies.flatMap (Access.ofBody (outline tokens).typeNames
            (outline tokens).declarations.types)).map (fun a => (a.span.start, queryOf? a))
          = [(⟨0, 26⟩, none), (⟨0, 33⟩, some ⟨.qualified "T", "b", .method⟩),
            (⟨0, 40⟩, some ⟨.qualified "T", "c", .method⟩),
            (⟨0, 47⟩, some ⟨.qualified "T", "d", .method⟩)])) = true := by
    decide +kernel
  obtain ⟨tokens, htokens, hfound⟩ := exists_tokenize_ok hcheck
  rw [decide_eq_true_eq] at hfound
  have hparse := SourceUnit.parse_of_tokenize "T.java" htokens
  obtain ⟨x, l, hl, hx, hfound⟩ := List.map_eq_cons_iff.1 hfound
  obtain ⟨b, l, rfl, hb, hfound⟩ := List.map_eq_cons_iff.1 hfound
  obtain ⟨c, l, rfl, hc, hfound⟩ := List.map_eq_cons_iff.1 hfound
  obtain ⟨d, l, rfl, hd, hfound⟩ := List.map_eq_cons_iff.1 hfound
  obtain rfl := List.map_eq_nil_iff.1 hfound
  rw [Prod.mk.injEq] at hx hb hc hd
  have haccesses : (SourceUnit.ofTokens "T.java"
      "class T { void f(T t) { g().a(); t.b(); t.c(); t.d(); } }" tokens).accesses
        = [x, b] ++ c :: [d] := by
    dsimp only [SourceUnit.ofTokens]
    rw [hl]
    apply SourceUnit.sortAccesses_of_pairwise
    simp [hx.1, hb.1, hc.1, hd.1, Position.le_def]
  refine ⟨_, hparse, ?_, ?_⟩
  -- The backend breaks at the third access; the two in front of it break nothing.
  · obtain ⟨-, hfault, -⟩ := run_ends_at_first_fault hparse {} rfl
      fun q => .error (if q.member = "c" then .backend "down" else .unknownType "T")
    rw [hfault _ _ _ _ haccesses ?_ (.broken hc.2 rfl)]
    · simp [hx.2, hb.2, hc.2, SourceUnit.ofTokens]
    · intro a ha e hfaults
      rw [List.mem_pair] at ha
      cases hfaults with
      | broken hasked hanswer =>
        obtain rfl | rfl := ha
        · simp [hx.2] at hasked
        · rw [hb.2, Option.some.injEq] at hasked
          subst hasked
          cases hanswer
      | misfit hasked hanswer => cases hanswer
  · obtain ⟨-, -, hfaultless⟩ := run_ends_at_first_fault hparse {} rfl
      fun _ => .error (.unknownType "T")
    -- A type that is not known is no fault, and nothing is told of it.
    have hsilent : ∀ a, a ∈ [x, b] ++ c :: [d] →
        finding? {} (fun _ => .error (.unknownType "T")) a = none := by
      intro a _
      unfold finding? told?
      cases queryOf? a with
      | none => rfl
      | some q => rfl
    rw [hfaultless, haccesses, List.filterMap_eq_nil_iff.2 hsilent]
    · simp [hx.2, hb.2, hc.2, hd.2]
    · intro a ha e hfaults
      cases hfaults with
      | broken hasked hanswer => cases hanswer
      | misfit hasked hanswer => cases hanswer

end Analysis

end DeprecatedUse
