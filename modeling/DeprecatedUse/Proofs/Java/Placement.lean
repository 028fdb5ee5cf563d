import DeprecatedUse.Proofs.Analysis.DeprecatedUses
import DeprecatedUse.Proofs.Java.Conservation
import DeprecatedUse.Proofs.Java.Cursor.Accesses
import DeprecatedUse.Proofs.Java.Nesting
import DeprecatedUse.Proofs.Java.Relabelling.Uses
import DeprecatedUse.Proofs.Java.Uses

/-!
This module contains the places of the uses of members in a text. A use goes from the start of a
token to the end of the identifier that names the member, and no two uses of a text end at the same
identifier.
-/

namespace DeprecatedUse

namespace Java

/-! Ends of tokens. -/

theorem pairwise_stop_tokenize {text : String} {tokens : List Token}
    (h : tokenize text = .ok tokens)
    : tokens.Pairwise fun a b => ¬ b.span.stop ≤ a.span.stop := by
  suffices hall : (∀ t : Token, t ∈ tokens → ¬ t.span.stop ≤ ({} : Position))
      ∧ tokens.Pairwise fun a b => ¬ b.span.stop ≤ a.span.stop from hall.2
  refine Lexer.tokensFrom_induction (motive := fun start _ tokens =>
    (∀ t : Token, t ∈ tokens → ¬ t.span.stop ≤ start)
      ∧ tokens.Pairwise fun a b => ¬ b.span.stop ≤ a.span.stop) ?_ ?_ ?_ {} text.toList tokens h
  · intro start
    exact ⟨by simp, List.Pairwise.nil⟩
  · intro start c _ piece rest _ _ ih
    refine ⟨?_, ih.2⟩
    intro t ht hle
    exact ih.1 t ht (Position.le_trans hle (Position.le_advanceAll start _))
  · intro start c _ piece kind rest _ _ ih
    constructor
    · intro t ht hle
      rw [List.mem_cons] at ht
      rcases ht with rfl | ht
      · exact Position.not_advanceAll_cons_le start c piece.tail hle
      · exact ih.1 t ht (Position.le_trans hle (Position.le_advanceAll start _))
    · exact List.pairwise_cons.2 ⟨ih.1, ih.2⟩

def DistinctStops (tokens : List Token) : Prop :=
  tokens.Pairwise fun a b => a.span.stop ≠ b.span.stop

theorem distinctStops_tokenize {text : String} {tokens : List Token}
    (h : tokenize text = .ok tokens) : DistinctStops tokens := by
  apply (pairwise_stop_tokenize h).imp
  intro a b hnot heq
  apply hnot
  rw [heq]
  exact (Position.le_total _ _).elim id id

theorem DistinctStops.suffix_eq {tokens after after' : List Token} {t t' : Token}
    (h : DistinctStops tokens) (hsuffix : t :: after <:+ tokens) (hsuffix' : t' :: after' <:+ tokens)
    (hstop : t.span.stop = t'.span.stop) : t :: after = t' :: after' := by
  wlog hle : (t :: after).length ≤ (t' :: after').length generalizing t t' after after'
  · exact (this hsuffix' hsuffix hstop.symm (Nat.le_of_not_le hle)).symm
  rcases List.suffix_cons_iff.1 (List.suffix_of_suffix_length_le hsuffix hsuffix' hle)
    with heq | hbehind
  · exact heq
  · have hdistinct : DistinctStops (t' :: after') := List.Pairwise.sublist hsuffix'.sublist h
    have hmem : t ∈ after' := hbehind.subset List.mem_cons_self
    exact absurd hstop.symm ((List.pairwise_cons.1 hdistinct).1 t hmem)

/-! Groups in groups. -/

namespace Bracket

theorem close?_deeper {b : Bracket} {depth depth' : Nat} (hlt : depth < depth')
    {tokens : List Token} {group group' : List Token × List Token}
    (h : b.close? depth tokens = some group) (h' : b.close? depth' tokens = some group')
    : group'.2.length < group.2.length := by
  induction tokens generalizing depth depth' group group' with
  | nil => cases h
  | cons t rest ih =>
    have hmap : ∀ {d d' : Nat}, d < d'
        → (b.close? d rest).map (fun split => (t :: split.1, split.2)) = some group
        → (b.close? d' rest).map (fun split => (t :: split.1, split.2)) = some group'
        → group'.2.length < group.2.length := by
      intro d d' hlt hd hd'
      obtain ⟨split, hsplit, rfl⟩ := Option.map_eq_some_iff.1 hd
      obtain ⟨split', hsplit', rfl⟩ := Option.map_eq_some_iff.1 hd'
      have hinner := ih hlt hsplit hsplit'
      exact hinner
    rw [close?] at h h'
    split at h
    · next hopening =>
      rw [if_pos hopening] at h'
      exact hmap (Nat.succ_lt_succ hlt) h h'
    · next hopening =>
      rw [if_neg hopening] at h'
      split at h
      · next hclosing =>
        rw [if_pos hclosing, if_neg (Nat.ne_of_gt (Nat.zero_lt_of_lt hlt))] at h'
        split at h
        -- The shallower search ends here, the deeper one behind.
        · obtain ⟨split', hsplit', rfl⟩ := Option.map_eq_some_iff.1 h'
          obtain ⟨c, -, happend⟩ := close?_append hsplit'
          rw [Option.some.injEq] at h
          rw [← h, ← happend]
          dsimp only
          rw [List.length_append, List.length_cons]
          omega
        · next hdepth => exact hmap (by omega) h h'
      · next hclosing =>
        rw [if_neg hclosing] at h'
        exact hmap hlt h h'

theorem close?_inside_ne {b : Bracket} {depth : Nat} {front rest inner inner' after : List Token}
    {t : Token} (ht : t.isPunct b.opening = true) (h : b.close? 0 rest = some (inner, after))
    : b.close? depth (front ++ t :: rest) ≠ some (inner', after) := by
  induction front generalizing depth inner' with
  | nil =>
    intro houter
    rw [List.nil_append, close?, if_pos ht] at houter
    obtain ⟨group, hgroup, heq⟩ := Option.map_eq_some_iff.1 houter
    have hlt := close?_deeper (Nat.succ_pos depth) h hgroup
    rw [← (Prod.mk.inj heq).2] at hlt
    exact Nat.lt_irrefl _ hlt
  | cons u front ih =>
    have hmap : ∀ d, (b.close? d (front ++ t :: rest)).map (fun group => (u :: group.1, group.2))
        ≠ some (inner', after) := by
      intro d hd
      obtain ⟨⟨inner'', after''⟩, hgroup, heq⟩ := Option.map_eq_some_iff.1 hd
      rw [Prod.mk.injEq] at heq
      obtain ⟨-, rfl⟩ := heq
      exact ih hgroup
    rw [List.cons_append, close?]
    split
    · exact hmap _
    · split
      · split
        · -- The outer group would end before the inner one starts.
          intro houter
          obtain ⟨c, -, happend⟩ := close?_append h
          rw [Option.some.injEq, Prod.mk.injEq] at houter
          have hlength := congrArg List.length houter.2
          rw [← happend] at hlength
          simp only [List.length_append, List.length_cons] at hlength
          omega
        · exact hmap _
      · exact hmap _

theorem isPunct_of_close? {b : Bracket} {depth : Nat} {front rest inner : List Token} {t : Token}
    (h : b.close? depth (front ++ t :: rest) = some (inner, rest))
    : t.isPunct b.closing = true := by
  obtain ⟨c, hc, happend⟩ := close?_append h
  have hsplit : (inner ++ [c]) ++ rest = (front ++ [t]) ++ rest := by
    rw [List.append_assoc, List.append_assoc]
    exact happend
  obtain ⟨-, hct⟩ := List.append_inj' (List.append_cancel_right hsplit) rfl
  rw [← (List.cons.inj hct).1]
  exact hc

theorem group?_eq_cons {b : Bracket} {tokens after : List Token} {t : Token}
    (h : (b.group? tokens).2 = t :: after)
    : tokens = t :: after ∨ ∃ u rest inner, tokens = u :: rest ∧ u.isPunct b.opening = true
        ∧ b.close? 0 rest = some (inner, t :: after) := by
  cases tokens with
  | nil => cases h
  | cons u rest =>
    rw [group?] at h
    split at h
    · next hopening =>
      right
      unfold inside at h
      cases hclose : b.close? 0 rest with
      | none =>
        rw [hclose] at h
        cases h
      | some group =>
        rw [hclose, Option.getD_some] at h
        refine ⟨u, rest, group.1, rfl, hopening, ?_⟩
        rw [hclose, ← h]
    · exact .inl h

end Bracket

namespace Access

/-! Single uses. -/

theorem receiver?_start {before : List Token} {receiver : Receiver} {start : Position}
    (h : receiver? before = some (receiver, start))
    : ∃ first ∈ before, first.span.start = start := by
  cases before with
  | nil => cases h
  | cons t before =>
    rw [receiver?] at h
    split at h
    · next hident =>
      have hsubset := chain_subset [t] before
      generalize chain [t] before = found at h hsubset
      obtain ⟨names, outer⟩ := found
      dsimp only at h hsubset
      split at h
      · cases h
      · split at h
        · rw [Option.some.injEq, Prod.mk.injEq] at h
          exact ⟨t, List.mem_cons_self, h.2⟩
        · rw [Option.some.injEq, Prod.mk.injEq] at h
          refine ⟨names.headD t, ?_, h.2⟩
          cases names with
          | nil => exact List.mem_cons_self
          | cons first names => simpa using hsubset first List.mem_cons_self
    · split at h
      · next new type hcreation =>
        rw [Option.some.injEq, Prod.mk.injEq] at h
        exact ⟨new, creation?_mem hcreation, h.2⟩
      · rw [Option.some.injEq, Prod.mk.injEq] at h
        exact ⟨t, List.mem_cons_self, h.2⟩

/--
The use goes from the start of a token to the end of a later identifier, which is the name of the
member.
-/
def IsPlaced (tokens : List Token) (a : Access) : Prop :=
  ∃ front first between member back, tokens = front ++ first :: (between ++ member :: back)
    ∧ member.isIdent = true ∧ member.text ∉ noMemberWords ∧ a.member = member.text
    ∧ a.span = ⟨first.span.start, member.span.stop⟩

theorem IsPlaced.mono {tokens part : List Token} {a : Access} (h : IsPlaced part a)
    (hpart : part <:+: tokens) : IsPlaced tokens a := by
  obtain ⟨front, first, between, member, back, rfl, hmember⟩ := h
  obtain ⟨outer, behind, rfl⟩ := hpart
  exact ⟨outer ++ front, first, between, member, back ++ behind, by simp, hmember⟩

theorem access?_eq_some {env : Surroundings} {s : State} {before rest : List Token} {t : Token}
    {a : Access} (h : access? env s before t rest = some a)
    : t.isPunctOf [".", "::"] = true
        ∧ ∃ first member after, first ∈ before ∧ (Bracket.angle.group? rest).2 = member :: after
          ∧ member.isIdent = true ∧ member.text ∉ noMemberWords ∧ a.member = member.text
          ∧ a.span = ⟨first.span.start, member.span.stop⟩ := by
  unfold access? at h
  split at h
  · next hmark =>
    refine ⟨hmark, ?_⟩
    split at h
    · cases h
    · next member after hgroup =>
      split at h
      · next hmember =>
        obtain ⟨⟨receiver, start⟩, hreceiver, rfl⟩ := Option.map_eq_some_iff.1 h
        obtain ⟨first, hfirst, rfl⟩ := receiver?_start hreceiver
        rw [Bool.and_eq_true, Bool.not_eq_true', Bool.eq_false_iff, ne_eq,
          List.contains_iff_mem] at hmember
        exact ⟨first, member, after, hfirst, hgroup, hmember.1, hmember.2, rfl, rfl⟩
      · cases h
  · cases h

theorem access?_isPlaced {env : Surroundings} {s : State} {before rest : List Token} {t : Token}
    {a : Access} (h : access? env s before t rest = some a)
    : IsPlaced (before.reverse ++ t :: rest) a := by
  obtain ⟨-, first, member, after, hfirst, hgroup, hmember⟩ := access?_eq_some h
  obtain ⟨front, between, hbefore⟩ := List.append_of_mem (List.mem_reverse.2 hfirst)
  obtain ⟨arguments, hrest⟩ := Bracket.group?_suffix Bracket.angle rest
  rw [hgroup] at hrest
  refine ⟨front, first, between ++ t :: arguments, member, after, ?_, hmember⟩
  rw [hbefore, ← hrest]
  simp

theorem group?_ne {t : Token} {rest rest' after : List Token} {member : Token}
    (ht : t.isPunctOf [".", "::"] = true) (hbehind : t :: rest' <:+ rest)
    (h : (Bracket.angle.group? rest).2 = member :: after)
    : (Bracket.angle.group? rest').2 ≠ member :: after := by
  intro h'
  rcases Bracket.group?_eq_cons h with rfl | ⟨u, inside, inner, rfl, hopening, hclose⟩
  · have hlength := (h' ▸ Bracket.group?_suffix Bracket.angle rest').length_le
    have hlength' := hbehind.length_le
    rw [List.length_cons] at hlength'
    omega
  · -- There are type arguments behind the first operator, and the second one is inside them.
    have hinside : t :: rest' <:+ inside := by
      rcases List.suffix_cons_iff.1 hbehind with heq | hinside
      · rw [(List.cons.inj heq).1, Token.isPunctOf_of_isPunct hopening] at ht
        cases ht
      · exact hinside
    obtain ⟨front, rfl⟩ := hinside
    rcases Bracket.group?_eq_cons h' with rfl | ⟨u', inside', inner', rfl, hopening', hclose'⟩
    · -- The member would stand right behind the second operator, which closes no list.
      rw [Token.isPunctOf_of_isPunct (Bracket.isPunct_of_close? hclose)] at ht
      cases ht
    · rw [← List.singleton_append, ← List.append_assoc] at hclose
      exact Bracket.close?_inside_ne hopening' hclose' hclose

theorem stop_ne {env : Surroundings} {s s' : State} {before before' rest rest' : List Token}
    {t t' : Token} {a a' : Access} (hdistinct : DistinctStops rest) (hbehind : t' :: rest' <:+ rest)
    (h : access? env s before t rest = some a) (h' : access? env s' before' t' rest' = some a')
    : a.span.stop ≠ a'.span.stop := by
  obtain ⟨-, first, member, after, -, hgroup, -, -, -, hspan⟩ := access?_eq_some h
  obtain ⟨ht', first', member', after', -, hgroup', -, -, -, hspan'⟩ := access?_eq_some h'
  have hsuffix := Bracket.group?_suffix Bracket.angle rest
  have hsuffix' := (Bracket.group?_suffix Bracket.angle rest').trans
    ((List.suffix_cons t' rest').trans hbehind)
  rw [hgroup] at hsuffix
  rw [hgroup'] at hsuffix'
  rw [hspan, hspan']
  intro hstop
  rw [hdistinct.suffix_eq hsuffix hsuffix' hstop] at hgroup
  exact group?_ne ht' hbehind hgroup hgroup'

/-! All uses of a body. -/

theorem scan_found {env : Surroundings} {s : State} {before tokens : List Token} {a : Access}
    (h : a ∈ scan env s before tokens)
    : ∃ s' before' t rest, t :: rest <:+ tokens
        ∧ before'.reverse ++ t :: rest = before.reverse ++ tokens
        ∧ access? env s' before' t rest = some a := by
  fun_induction scan env s before tokens with
  | case1 => cases h
  | case2 s before t rest here next ih =>
    rw [List.mem_append, Option.mem_toList] at h
    rcases h with h | h
    · exact ⟨here, before, t, rest, List.suffix_refl _, rfl, h⟩
    · obtain ⟨s', before', t', rest', hsuffix, happend, ha⟩ := ih h
      refine ⟨s', before', t', rest', ?_, ?_, ha⟩
      · exact (hsuffix.trans (List.drop_suffix _ rest)).trans (List.suffix_cons t rest)
      · rw [happend, List.reverse_append, List.reverse_reverse, List.reverse_cons,
          List.append_assoc, List.append_assoc, List.take_append_drop, List.singleton_append]

theorem scan_pairwise (env : Surroundings) (s : State) (before : List Token) {tokens : List Token}
    (h : DistinctStops tokens)
    : (scan env s before tokens).Pairwise fun a b => a.span.stop ≠ b.span.stop := by
  fun_induction scan env s before tokens with
  | case1 => exact List.Pairwise.nil
  | case2 s before t rest here next ih =>
    have hrest : DistinctStops rest := (List.pairwise_cons.1 h).2
    rw [List.pairwise_append]
    refine ⟨?_, ih (List.Pairwise.sublist (List.drop_sublist _ _) hrest), ?_⟩
    · cases access? env here before t rest with
      | none => exact List.Pairwise.nil
      | some a => exact List.pairwise_singleton _ a
    · intro a ha b hb
      obtain ⟨s', before', t', rest', hsuffix, -, hb⟩ := scan_found hb
      exact stop_ne hrest (hsuffix.trans (List.drop_suffix _ rest)) (Option.mem_toList.1 ha) hb

theorem ofBody_isPlaced {names : TypeNames} {types : List TypeDecl} {body : Body} {a : Access}
    (h : a ∈ ofBody names types body) : IsPlaced body.tokens a := by
  obtain ⟨s, before, t, rest, -, happend, ha⟩ := scan_found h
  have hplaced := access?_isPlaced ha
  rw [happend, List.reverse_nil, List.nil_append] at hplaced
  exact hplaced

theorem IsPlaced.exists_stop {tokens : List Token} {a : Access} (h : IsPlaced tokens a)
    : ∃ t ∈ tokens, t.span.stop = a.span.stop := by
  obtain ⟨front, first, between, member, back, rfl, -, -, -, hspan⟩ := h
  exact ⟨member, by simp, by rw [hspan]⟩

end Access

namespace SourceUnit

theorem isPlaced_accesses {id : UnitId} {text : String} {tokens : List Token} {a : Access}
    (h : a ∈ (ofTokens id text tokens).accesses) : a.IsPlaced tokens := by
  unfold ofTokens sortAccesses at h
  rw [List.mem_mergeSort, List.mem_flatMap] at h
  obtain ⟨body, hbody, ha⟩ := h
  exact (Access.ofBody_isPlaced ha).mono (outline_bodies hbody)

theorem pairwise_stop_accesses {tokens : List Token} (h : DistinctStops tokens) (id : UnitId)
    (text : String)
    : (ofTokens id text tokens).accesses.Pairwise fun a b => a.span.stop ≠ b.span.stop := by
  unfold ofTokens sortAccesses
  rw [List.Perm.pairwise_iff (fun {a b} hne => Ne.symm hne) (List.mergeSort_perm _ _),
    List.pairwise_flatMap]
  have hbodies : DistinctStops (outline tokens).bodyTokens :=
    List.Pairwise.sublist (bodyTokens_outline tokens) h
  unfold DistinctStops Outline.bodyTokens at hbodies
  rw [List.pairwise_flatMap] at hbodies
  constructor
  · intro body hbody
    exact Access.scan_pairwise _ _ _ (hbodies.1 body hbody)
  · apply hbodies.2.imp
    intro body body' hdistinct a ha b hb
    obtain ⟨t, ht, hstop⟩ := (Access.ofBody_isPlaced ha).exists_stop
    obtain ⟨t', ht', hstop'⟩ := (Access.ofBody_isPlaced hb).exists_stop
    rw [← hstop, ← hstop']
    exact hdistinct t ht t' ht'

end SourceUnit

end Java

/-! Diagnostics. -/

namespace Analysis

open DeprecatedUse.Java (Access SourceUnit)

theorem checkAccess_span {settings : CheckSettings} {resolve : Resolver} {unit : UnitId}
    {a : Access} {d : Diagnostic} (h : checkAccess settings resolve unit a = .ok (some d))
    : d.span = a.span := by
  unfold checkAccess judge at h
  split at h
  · cases h
  · split at h
    · cases h
    · cases h
    · split at h
      · split at h
        · rw [Except.ok.injEq, Option.some.injEq] at h
          rw [← h]
          rfl
        · cases h
      · cases h

theorem walk_spans {settings : CheckSettings} {resolve : Resolver} {unit : UnitId}
    {accesses : List Access} {diagnostics : List Diagnostic}
    (h : (walk settings resolve unit accesses).1 = .ok diagnostics)
    : (diagnostics.map Diagnostic.span).Sublist (accesses.map Access.span) := by
  induction accesses generalizing diagnostics with
  | nil =>
    cases h
    exact List.Sublist.refl _
  | cons a rest ih =>
    unfold walk at h
    dsimp only at h
    split at h
    · cases h
    · next found hcheck =>
      dsimp only at h
      cases hwalk : (walk settings resolve unit rest).1 with
      | error e =>
        rw [hwalk] at h
        cases h
      | ok diagnostics' =>
        rw [hwalk] at h
        cases h
        have hrest := ih hwalk
        cases found with
        | none => exact hrest.cons a.span
        | some d =>
          change (d.span :: diagnostics'.map Diagnostic.span).Sublist _
          rw [checkAccess_span hcheck]
          exact hrest.cons_cons a.span

theorem run_pairwise_stop {settings : CheckSettings} {resolve : Resolver} {u : SourceUnit}
    (hu : u.accesses.Pairwise fun a b => a.span.stop ≠ b.span.stop) {batch : Batch}
    (h : (run settings resolve u).result = .ok batch)
    : batch.diagnostics.Pairwise fun d e => d.span.stop ≠ e.span.stop := by
  unfold run at h
  split at h
  · dsimp only at h
    cases hwalk : (walk settings resolve u.id u.accesses).1 with
    | error e =>
      rw [hwalk] at h
      cases h
    | ok diagnostics =>
      rw [hwalk] at h
      cases h
      unfold Batch.ofList
      rw [List.Perm.pairwise_iff (fun {d e} hne => Ne.symm hne) (List.mergeSort_perm _ _)]
      have hspans : (u.accesses.map Access.span).Pairwise fun a b => a.stop ≠ b.stop :=
        List.pairwise_map.2 hu
      have htold := hspans.sublist (walk_spans hwalk)
      rw [List.pairwise_map] at htold
      exact htold
  · cases h
    exact List.Pairwise.nil

end Analysis

namespace Java.SourceUnit

/--
In a text whose positions fit into thirty-two bits, the uses of members are ordered by where they
start. Each goes from the start of a token to the end of a later identifier, the name of its member,
which is none of the words that name no member. No two end at the same identifier, and so no two
diagnostics of an analysis do.
-/
theorem accesses_placed {id : UnitId} {text : String} {u : SourceUnit}
    (hfits : Cursor.units16 text.toList < 2 ^ 32) (h : parse id text = .ok u)
    : Cursor.parse id text = pure (.ok u)
        ∧ u.accesses.Pairwise (fun a b => a.span.start ≤ b.span.start)
        ∧ (∃ tokens, tokenize text = .ok tokens ∧ ∀ a ∈ u.accesses, a.IsPlaced tokens)
        ∧ u.accesses.Pairwise (fun a b => a.span.stop ≠ b.span.stop)
        ∧ ∀ settings resolve batch, (Analysis.run settings resolve u).result = .ok batch
          → batch.diagnostics.Pairwise fun d e => d.span.stop ≠ e.span.stop := by
  have hrun : Cursor.parse id text = pure (.ok u) := by
    rw [Cursor.parse_run id hfits, h]
  have hsorted := pairwise_accesses h
  obtain ⟨tokens, htokens, rfl⟩ := parse_ok h
  have hstops := pairwise_stop_accesses (distinctStops_tokenize htokens) id text
  refine ⟨hrun, hsorted, ⟨tokens, htokens, fun a ha => isPlaced_accesses ha⟩, hstops, ?_⟩
  intro settings resolve batch hrun
  exact Analysis.run_pairwise_stop hstops hrun

theorem accesses_placed_chain
    : ∃ u batch, Cursor.parse "A.java"
          "class A { A a; @Deprecated void old() {} void f() { a.a.old(); } }" = pure (.ok u)
        ∧ (Analysis.run {} (Index.ofUnits [u]).resolve u).result = .ok batch
        ∧ (∀ column ∈ [55, 59], ∃ a ∈ u.accesses, a.span.stop.column = column)
        ∧ u.accesses.Pairwise (fun a b => a.span.start ≤ b.span.start)
        ∧ (∀ a ∈ u.accesses, ∃ tokens, a.IsPlaced tokens)
        ∧ u.accesses.Pairwise (fun a b => a.span.stop ≠ b.span.stop)
        ∧ batch.diagnostics.Pairwise fun d e => d.span.stop ≠ e.span.stop := by
  have hcheck : (tokenize "class A { A a; @Deprecated void old() {} void f() { a.a.old(); } }"
      |>.toOption.any fun tokens =>
        decide (((outline tokens).bodies.flatMap (Access.ofBody (outline tokens).typeNames
          (outline tokens).declarations.types)).map (·.span.stop.column) = [55, 59])) = true := by
    decide +kernel
  obtain ⟨tokens, htokens, hcolumns⟩ := exists_tokenize_ok hcheck
  rw [decide_eq_true_eq] at hcolumns
  have hparse := parse_of_tokenize "A.java" htokens
  obtain ⟨batch, hrun⟩ := Analysis.run_index_ok hparse {} (Index.ofUnits [_])
  obtain ⟨hcursor, hsorted, ⟨tokens', -, hplaced⟩, hstops, hdiagnostics⟩ :=
    accesses_placed (by decide) hparse
  refine ⟨_, batch, hcursor, hrun, ?_, hsorted, fun a ha => ⟨tokens', hplaced a ha⟩, hstops,
    hdiagnostics _ _ _ hrun⟩
  intro column hcolumn
  rw [← hcolumns, List.mem_map] at hcolumn
  obtain ⟨a, ha, hstop⟩ := hcolumn
  exact ⟨a, List.mem_mergeSort.2 ha, hstop⟩

end Java.SourceUnit

end DeprecatedUse
