import DeprecatedUse.Java.SourceUnit
import DeprecatedUse.Proofs.Java.Lexemes
import DeprecatedUse.Proofs.Java.Reading

/-!
This module contains what holds of the uses of members in a text: each names an identifier of the
text, and they come in the order of their starts.
-/

namespace DeprecatedUse.Java

namespace Access

theorem access?_member {env : Surroundings} {s : State} {before : List Token} {t : Token}
    {rest : List Token} {a : Access} (h : access? env s before t rest = some a)
    : ∃ member, member ∈ rest ∧ member.isIdent = true ∧ a.member = member.text := by
  unfold access? at h
  split at h
  · split at h
    · cases h
    · next member after hgroup =>
      split at h
      · next hmember =>
        obtain ⟨⟨receiver, start⟩, -, rfl⟩ := Option.map_eq_some_iff.1 h
        have hsuffix := Bracket.group?_suffix Bracket.angle rest
        rw [hgroup] at hsuffix
        simp only [Bool.and_eq_true] at hmember
        exact ⟨member, hsuffix.subset List.mem_cons_self, hmember.1, rfl⟩
      · cases h
  · cases h

theorem scan_member {env : Surroundings} {s : State} {before tokens : List Token} {a : Access}
    (h : a ∈ scan env s before tokens)
    : ∃ member, member ∈ tokens ∧ member.isIdent = true ∧ a.member = member.text := by
  fun_induction scan env s before tokens with
  | case1 => cases h
  | case2 s before t rest _ next ih =>
    rw [List.mem_append, Option.mem_toList] at h
    rcases h with h | h
    · obtain ⟨member, hmem, hident, htext⟩ := access?_member h
      exact ⟨member, List.mem_cons_of_mem t hmem, hident, htext⟩
    · obtain ⟨member, hmem, hident, htext⟩ := ih h
      exact ⟨member, List.mem_cons_of_mem t (List.mem_of_mem_drop hmem), hident, htext⟩

end Access

namespace SourceUnit

theorem parse_ok {id : UnitId} {text : String} {u : SourceUnit} (h : parse id text = .ok u)
    : ∃ tokens, tokenize text = .ok tokens ∧ u = ofTokens id text tokens := by
  unfold parse at h
  split at h
  · cases h
  · next tokens htokens =>
    rw [Except.ok.injEq] at h
    exact ⟨tokens, htokens, h.symm⟩

theorem parse_of_tokenize (id : UnitId) {text : String} {tokens : List Token}
    (h : tokenize text = .ok tokens) : parse id text = .ok (ofTokens id text tokens) := by
  rw [parse, h]

theorem parse_ofTokens {id : UnitId} {text : String} (h : (tokenize text).toOption.isSome)
    : parse id text = .ok (ofTokens id text ((tokenize text).toOption.getD [])) := by
  cases htokens : tokenize text with
  | error e =>
    rw [htokens] at h
    cases h
  | ok tokens => exact parse_of_tokenize id htokens

theorem isName_member {id : UnitId} {text : String} {u : SourceUnit} (h : parse id text = .ok u)
    {a : Access} (ha : a ∈ u.accesses) : IsName a.member := by
  obtain ⟨tokens, htokens, rfl⟩ := parse_ok h
  unfold ofTokens sortAccesses at ha
  rw [List.mem_mergeSort, List.mem_flatMap] at ha
  obtain ⟨body, hbody, ha⟩ := ha
  obtain ⟨member, hmem, hident, htext⟩ := Access.scan_member ha
  rw [htext]
  exact isName_of_mem_tokenize htokens ((outline_bodies hbody).subset hmem) hident

theorem pairwise_sortAccesses (accesses : List Access)
    : (sortAccesses accesses).Pairwise fun a b => a.span.start ≤ b.span.start := by
  have hsorted : (sortAccesses accesses).Pairwise
      fun a b => decide (a.span.start ≤ b.span.start) = true := by
    apply List.pairwise_mergeSort
    · intro a b c hab hbc
      rw [decide_eq_true_eq] at *
      exact Position.le_trans hab hbc
    · intro a b
      rw [Bool.or_eq_true, decide_eq_true_eq, decide_eq_true_eq]
      exact Position.le_total _ _
  exact hsorted.imp of_decide_eq_true

theorem pairwise_accesses {id : UnitId} {text : String} {u : SourceUnit}
    (h : parse id text = .ok u)
    : u.accesses.Pairwise fun a b => a.span.start ≤ b.span.start := by
  obtain ⟨tokens, -, rfl⟩ := parse_ok h
  apply pairwise_sortAccesses

end SourceUnit

end DeprecatedUse.Java
