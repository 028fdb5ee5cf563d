import DeprecatedUse.Java.Access
import DeprecatedUse.Proofs.Java.Relabelling.Outlines
import Mathlib.Data.List.Forall2

/-!
This module contains the uses of members in relabelled bodies. The search of a body asks for no span
and for no literal, so it finds the same uses; only where they stand is said by the new spans.
-/

namespace DeprecatedUse.Java

namespace Access

def withoutSpan (a : Access) : Access :=
  { a with span := {} }

variable (r : Relabelling)

theorem starts_map {p : Token → Bool} (hp : ∀ t, p (r.apply t) = p t) (tokens : List Token)
    : starts p (tokens.map r.apply) = starts p tokens := by
  cases tokens with
  | nil => rfl
  | cons t rest => exact hp t

/-! Reading backwards. -/

theorem chain_map (names before : List Token)
    : chain (names.map r.apply) (before.map r.apply)
        =
      Prod.map (List.map r.apply) (List.map r.apply) (chain names before) := by
  fun_induction chain names before with
  | case1 names dot name before hdot ih =>
    rw [List.map_cons, List.map_cons, chain, r.isPunct_apply, r.isIdent_apply, if_pos hdot]
    exact ih
  | case2 names dot name before hdot =>
    rw [List.map_cons, List.map_cons, chain, r.isPunct_apply, r.isIdent_apply, if_neg hdot]
    rfl
  | case3 names before hbefore =>
    match before with
    | [] => rfl
    | [t] => rfl
    | dot :: name :: before => exact absurd rfl (hbefore dot name before)

theorem chain_isIdent {names : List Token} (h : ∀ t, t ∈ names → t.isIdent = true)
    (before : List Token) : ∀ t, t ∈ (chain names before).1 → t.isIdent = true := by
  fun_induction chain names before with
  | case1 names dot name before hdot ih =>
    rw [Bool.and_eq_true] at hdot
    exact ih (List.forall_mem_cons.2 ⟨hdot.2, h⟩)
  | case2 => exact h
  | case3 => exact h

theorem chain_subset (names before : List Token)
    : ∀ t, t ∈ (chain names before).1 → t ∈ names ∨ t ∈ before := by
  fun_induction chain names before with
  | case1 names dot name before hdot ih =>
    intro t ht
    rcases ih t ht with ht | ht
    · rw [List.mem_cons] at ht
      rcases ht with rfl | ht
      · exact .inr (by simp)
      · exact .inl ht
    · exact .inr (List.mem_cons_of_mem _ (List.mem_cons_of_mem _ ht))
  | case2 => exact fun t ht => .inl ht
  | case3 => exact fun t ht => .inl ht

theorem texts_map {names : List Token} (h : ∀ t, t ∈ names → t.isIdent = true)
    : (names.map r.apply).map Token.text = names.map Token.text := by
  rw [List.map_map]
  apply List.map_congr_left
  intro t ht
  exact r.text_of_isIdent (h t ht)

theorem beforeArguments_map (tokens : List Token)
    : beforeArguments (tokens.map r.apply) = (beforeArguments tokens).map r.apply := by
  cases tokens with
  | nil => rfl
  | cons t before =>
    rw [List.map_cons, beforeArguments, beforeArguments, r.isPunct_apply, Bracket.close?_map]
    split
    · cases Bracket.angle.flip.close? 0 before with
      | none => rfl
      | some found => rfl
    · rfl

theorem creation?_map (tokens : List Token)
    : creation? (tokens.map r.apply) = (creation? tokens).map (Prod.map r.apply id) := by
  cases tokens with
  | nil => rfl
  | cons t before =>
    rw [List.map_cons, creation?, creation?, r.isPunct_apply, Bracket.close?_map]
    split
    · cases Bracket.round.flip.close? 0 before with
      | none => rfl
      | some found =>
        obtain ⟨inside, before⟩ := found
        dsimp only [Option.map_some, Prod.map]
        rw [beforeArguments_map]
        cases beforeArguments before with
        | nil => rfl
        | cons last before =>
          rw [List.map_cons]
          dsimp only
          rw [r.isIdent_apply]
          split
          · next hlast =>
            -- The names are identifiers, which keep their text, so the type is spelled the same.
            have hidents := chain_isIdent (List.forall_mem_singleton.2 hlast) before
            have hchain := chain_map r [last] before
            rw [List.map_singleton] at hchain
            rw [hchain]
            generalize chain [last] before = found at hidents ⊢
            obtain ⟨names, before⟩ := found
            cases before with
            | nil => rfl
            | cons new before =>
              dsimp only [Prod.map]
              rw [List.map_cons]
              dsimp only
              rw [r.isWord_apply]
              split
              · unfold dotted
                rw [texts_map r hidents]
                rfl
              · rfl
          · rfl
    · rfl

theorem chain_suffix (names before : List Token) : (chain names before).2 <:+ before := by
  fun_induction chain names before with
  | case1 names dot name before hdot ih =>
    exact (ih.trans (List.suffix_cons name before)).trans (List.suffix_cons dot _)
  | case2 => exact List.suffix_refl _
  | case3 => exact List.suffix_refl _

theorem beforeArguments_suffix (tokens : List Token) : beforeArguments tokens <:+ tokens := by
  unfold beforeArguments
  split
  · exact List.suffix_refl _
  · next t before =>
    split
    · split
      · exact List.nil_suffix
      · next hclose => exact (Bracket.close?_suffix hclose).trans (List.suffix_cons t before)
    · exact List.suffix_refl _

theorem creation?_mem {tokens : List Token} {new : Token} {type : String}
    (h : creation? tokens = some (new, type)) : new ∈ tokens := by
  unfold creation? at h
  split at h
  · cases h
  · next t before =>
    split at h
    · split at h
      · cases h
      · next inside before' hclose =>
        have hbefore := beforeArguments_suffix before'
        split at h
        · cases h
        · next last before'' harguments =>
          rw [harguments] at hbefore
          split at h
          · have hchain := chain_suffix [last] before''
            split at h
            · cases h
            · next names new' rest hnames =>
              rw [hnames] at hchain
              split at h
              · simp only [Option.some.injEq, Prod.mk.injEq] at h
                rw [← h.1]
                have hsuffix := ((hchain.trans (List.suffix_cons last before'')).trans hbefore).trans
                  (Bracket.close?_suffix hclose)
                exact List.mem_cons_of_mem t (hsuffix.subset List.mem_cons_self)
              · cases h
          · cases h
    · cases h

def SameStart (tokens : List Token) (p p' : Position) : Prop :=
  ∃ t, t ∈ tokens ∧ p = t.span.start ∧ p' = (r.apply t).span.start

theorem receiver?_map (tokens : List Token)
    : Option.Rel (fun found found' => found'.1 = found.1 ∧ SameStart r tokens found.2 found'.2)
        (receiver? tokens) (receiver? (tokens.map r.apply)) := by
  cases tokens with
  | nil => exact .none
  | cons t before =>
    rw [List.map_cons, receiver?, receiver?, r.isIdent_apply]
    split
    · next hident =>
      have hidents := chain_isIdent (List.forall_mem_singleton.2 hident) before
      have hsubset := chain_subset [t] before
      have hchain := chain_map r [t] before
      rw [List.map_singleton] at hchain
      rw [hchain]
      generalize chain [t] before = found at hidents hsubset ⊢
      obtain ⟨names, before'⟩ := found
      dsimp only [Prod.map]
      simp only [starts_map (p := (·.isWord "new")) r fun t => r.isWord_apply t "new",
        starts_map (p := (·.isPunctOf [".", "::"])) r fun t => r.isPunctOf_apply t [".", "::"]]
      split
      · exact .none
      · split
        · exact .some ⟨rfl, t, List.mem_cons_self, rfl, rfl⟩
        · rw [texts_map r hidents]
          -- The receiver starts at the first name of the chain, or at the token itself.
          refine .some ⟨rfl, ?_⟩
          cases names with
          | nil => exact ⟨t, List.mem_cons_self, rfl, rfl⟩
          | cons first names =>
            refine ⟨first, ?_, rfl, rfl⟩
            simpa using hsubset first List.mem_cons_self
    · rw [← List.map_cons, creation?_map]
      cases hcreation : creation? (t :: before) with
      | none => exact .some ⟨rfl, t, List.mem_cons_self, rfl, rfl⟩
      | some found => exact .some ⟨rfl, found.1, creation?_mem hcreation, rfl, rfl⟩

theorem lambdaNames_map (typed : List Parameter) (depth : Nat) (tokens : List Token)
    : lambdaNames typed depth (tokens.map r.apply) = lambdaNames typed depth tokens := by
  induction tokens generalizing depth with
  | nil => rfl
  | cons t rest ih =>
    have hcomma := starts_map (p := (·.isPunct ",")) r fun t => r.isPunct_apply t ","
    rw [List.map_cons, lambdaNames, lambdaNames]
    simp only [r.isPunctOf_apply, r.isIdent_apply, hcomma, ih, List.isEmpty_map]
    cases hident : t.isIdent with
    | false => simp
    | true => rw [r.text_of_isIdent hident]

theorem isLabelPart_apply (t : Token) : isLabelPart (r.apply t) = isLabelPart t := by
  unfold isLabelPart
  rw [r.isIdent_apply, r.isWord_apply, r.isPunctOf_apply]

theorem dropWhile_map {p : Token → Bool} (hp : ∀ t, p (r.apply t) = p t) (tokens : List Token)
    : (tokens.map r.apply).dropWhile p = (tokens.dropWhile p).map r.apply := by
  rw [List.dropWhile_map]
  congr 2
  funext t
  exact hp t

theorem takeWhile_map {p : Token → Bool} (hp : ∀ t, p (r.apply t) = p t) (tokens : List Token)
    : (tokens.map r.apply).takeWhile p = (tokens.takeWhile p).map r.apply := by
  rw [List.takeWhile_map]
  congr 2
  funext t
  exact hp t

theorem lambdaParameters_map (tokens : List Token)
    : lambdaParameters (tokens.map r.apply) = lambdaParameters tokens := by
  cases tokens with
  | nil => rfl
  | cons t before =>
    have hcase := starts_map (p := (·.isWord "case")) r fun t => r.isWord_apply t "case"
    rw [List.map_cons, lambdaParameters, lambdaParameters, r.isIdent_apply, r.isPunct_apply,
      dropWhile_map r (isLabelPart_apply r), hcase, Bracket.close?_map]
    split
    · next hident => rw [r.text_of_isIdent hident]
    · split
      · cases Bracket.round.flip.close? 0 before with
        | none => rfl
        | some found =>
          dsimp only [Option.map_some, Prod.map]
          rw [← List.map_reverse, Parameter.readAll_map, lambdaNames_map]
      · rfl

theorem isStatementStart_map (tokens : List Token)
    : isStatementStart (tokens.map r.apply) = isStatementStart tokens := by
  cases tokens with
  | nil => rfl
  | cons t before => exact r.isPunctOf_apply t _

/-! Local declarations. -/

theorem splitDotted_map (tokens : List Token)
    : splitDotted (tokens.map r.apply)
        =
      Prod.map (List.map r.apply) (List.map r.apply) (splitDotted tokens) := by
  fun_induction splitDotted tokens with
  | case1 dot name rest hdot taken after hsplit ih =>
    rw [List.map_cons, List.map_cons, splitDotted, r.isPunct_apply, r.isIdent_apply, if_pos hdot, ih,
      hsplit]
    rfl
  | case2 dot name rest hdot =>
    rw [List.map_cons, List.map_cons, splitDotted, r.isPunct_apply, r.isIdent_apply, if_neg hdot]
    rfl
  | case3 tokens htokens =>
    match tokens with
    | [] => rfl
    | [t] => rfl
    | dot :: name :: rest => exact absurd rfl (htokens dot name rest)

theorem splitDims_map (tokens : List Token)
    : splitDims (tokens.map r.apply)
        =
      Prod.map (List.map r.apply) (List.map r.apply) (splitDims tokens) := by
  fun_induction splitDims tokens with
  | case1 opening closing rest hdims taken after hsplit ih =>
    rw [List.map_cons, List.map_cons, splitDims, r.isPunct_apply, r.isPunct_apply, if_pos hdims, ih,
      hsplit]
    rfl
  | case2 opening closing rest hdims =>
    rw [List.map_cons, List.map_cons, splitDims, r.isPunct_apply, r.isPunct_apply, if_neg hdims]
    rfl
  | case3 tokens htokens =>
    match tokens with
    | [] => rfl
    | [t] => rfl
    | opening :: closing :: rest => exact absurd rfl (htokens opening closing rest)

theorem splitArgumentsFrom?_map (depth : Nat) (tokens : List Token)
    : splitArgumentsFrom? depth (tokens.map r.apply)
        =
      (splitArgumentsFrom? depth tokens).map (Prod.map (List.map r.apply) (List.map r.apply)) := by
  induction tokens generalizing depth with
  | nil => rfl
  | cons t rest ih =>
    rw [List.map_cons, splitArgumentsFrom?, splitArgumentsFrom?]
    simp only [r.isPunct_apply, r.isPunctOf_apply, r.isIdent_apply, ih]
    split
    · rw [Option.map_map, Option.map_map]
      rfl
    · split
      · split
        · rfl
        · rw [Option.map_map, Option.map_map]
          rfl
      · split
        · rw [Option.map_map, Option.map_map]
          rfl
        · rfl

theorem splitArguments?_map (tokens : List Token)
    : splitArguments? (tokens.map r.apply)
        =
      (splitArguments? tokens).map (Prod.map (List.map r.apply) (List.map r.apply)) := by
  unfold splitArguments?
  rw [starts_map (p := (·.isPunct "<")) r fun t => r.isPunct_apply t "<", splitArgumentsFrom?_map]
  split
  · rfl
  · rfl

theorem isPlain_apply (t : Token) : isPlain (r.apply t) = isPlain t := by
  unfold isPlain
  rw [r.isIdent_apply]
  cases hident : t.isIdent with
  | false => rfl
  | true => rw [r.text_of_isIdent hident]

theorem splitType?_map (tokens : List Token)
    : splitType? (tokens.map r.apply)
        =
      (splitType? tokens).map (Prod.map (List.map r.apply) (List.map r.apply)) := by
  cases tokens with
  | nil => rfl
  | cons first rest =>
    rw [List.map_cons, splitType?, splitType?, isPlain_apply, splitDotted_map]
    split
    · dsimp only [Prod.map]
      rw [splitArguments?_map]
      cases splitArguments? (splitDotted rest).2 with
      | none => rfl
      | some found =>
        obtain ⟨arguments, after⟩ := found
        simp [splitDims_map]
    · rfl

theorem inferredType?_map (tokens : List Token)
    : inferredType? (tokens.map r.apply) = inferredType? tokens := by
  match tokens with
  | [] => rfl
  | [t] => rfl
  | equals :: new :: rest =>
    have hname : ∀ t, ((r.apply t).isIdent || (r.apply t).isPunct ".")
        = (t.isIdent || t.isPunct ".") := by
      intro t
      rw [r.isIdent_apply, r.isPunct_apply]
    have hstarts := starts_map (p := (·.isPunctOf ["(", "<"])) r fun t => r.isPunctOf_apply t _
    rw [List.map_cons, List.map_cons, inferredType?, inferredType?, r.isPunct_apply, r.isWord_apply]
    dsimp only
    rw [dropWhile_map r hname, takeWhile_map r hname, hstarts, TypeName.read?_map]

theorem endsDeclarator_map (tokens : List Token)
    : endsDeclarator (tokens.map r.apply) = endsDeclarator tokens := by
  cases tokens with
  | nil => rfl
  | cons t rest => exact r.isPunctOf_apply t _

theorem local?_map (pattern : Bool) (tokens : List Token)
    : local? pattern (tokens.map r.apply) = local? pattern tokens := by
  unfold local?
  rw [dropWhile_map r fun t => r.isWord_apply t "final", splitType?_map, List.length_map]
  cases splitType? (tokens.dropWhile (·.isWord "final")) with
  | none => rfl
  | some found =>
    obtain ⟨type, rest⟩ := found
    cases rest with
    | nil => rfl
    | cons name rest =>
      dsimp only [Option.map_some, Prod.map, Option.bind_eq_bind, Option.bind_some]
      rw [List.map_cons]
      dsimp only
      rw [splitDims_map, isPlain_apply, TypeName.read?_map, Prod.map_fst, Prod.map_snd,
        endsDeclarator_map, inferredType?_map, List.isEmpty_map, List.length_map]
      split
      · next hplain =>
        rw [Bool.and_eq_true] at hplain
        have hident : name.isIdent = true := by
          have hname := hplain.1
          unfold isPlain at hname
          rw [Bool.and_eq_true] at hname
          exact hname.1
        rw [r.text_of_isIdent hident]
      · rfl

/-! Reading forwards. -/

theorem step_map (s : State) (before : List Token) (t : Token) (rest : List Token)
    : step s (before.map r.apply) (r.apply t) (rest.map r.apply) = step s before t rest := by
  have hbrace := starts_map (p := (·.isPunct "\x7b")) r fun t => r.isPunct_apply t "\x7b"
  unfold step
  rw [creation?_map, lambdaParameters_map, isStatementStart_map, local?_map, ← List.map_cons,
    local?_map, splitExpression_map]
  simp only [r.isPunct_apply, r.isWord_apply, hbrace, List.isEmpty_map, Option.isSome_map,
    Prod.map_snd, List.length_map]

end Access

/-! What a body is read against. -/

namespace Surroundings

def withoutSpans (env : Surroundings) : Surroundings :=
  { env with types := env.types.map TypeDecl.withoutSpans }

theorem supertypes_withoutSpans (env : Surroundings) (place : Nat)
    : env.withoutSpans.supertypes place = env.supertypes place := by
  unfold supertypes withoutSpans
  dsimp only
  rw [List.getElem?_map]
  cases env.types[place]? with
  | none => rfl
  | some type =>
    dsimp only [Option.map_some]
    simp only [List.findIdx?_map]
    rfl

theorem member?_withoutSpans (type : TypeDecl) (name : String) (kind : MemberKind)
    : type.withoutSpans.member? name kind = (type.member? name kind).map MemberDecl.withoutSpan := by
  unfold TypeDecl.member? TypeDecl.withoutSpans
  rw [List.find?_map]
  rfl

theorem ownField?_withoutSpans (env : Surroundings) (name : String) (place : Nat)
    : env.withoutSpans.ownField? name place = env.ownField? name place := by
  unfold ownField? withoutSpans
  dsimp only
  rw [List.getElem?_map]
  cases env.types[place]? with
  | none => rfl
  | some type =>
    dsimp only [Option.map_some, Option.bind_eq_bind, Option.bind_some]
    rw [member?_withoutSpans]
    cases type.member? name .field with
    | none => rfl
    | some field => rfl

theorem inheritedField?_withoutSpans (env : Surroundings) (name : String) (place : Nat)
    : env.withoutSpans.inheritedField? name place = env.inheritedField? name place := by
  unfold inheritedField?
  rw [funext env.supertypes_withoutSpans, funext (env.ownField?_withoutSpans name)]
  unfold withoutSpans
  dsimp only
  rw [List.length_map]

theorem outer_withoutSpans (env : Surroundings) (place : Nat)
    : env.withoutSpans.types[place]?.bind TypeDecl.outer
        =
      env.types[place]?.bind TypeDecl.outer := by
  unfold withoutSpans
  dsimp only
  rw [List.getElem?_map]
  cases env.types[place]? with
  | none => rfl
  | some type => rfl

theorem enclosing_withoutSpans (env : Surroundings) (place : Nat)
    : env.withoutSpans.enclosing place = env.enclosing place := by
  fun_induction enclosing env place with
  | case1 place hnone =>
    rw [enclosing, outer_withoutSpans, hnone]
  | case2 place outer hsome hlt ih =>
    rw [enclosing, outer_withoutSpans, hsome]
    dsimp only
    rw [if_pos hlt, ih]
  | case3 place outer hsome hlt =>
    rw [enclosing, outer_withoutSpans, hsome]
    dsimp only
    rw [if_neg hlt]

theorem field?_withoutSpans (env : Surroundings) (name : String)
    : env.withoutSpans.field? name = env.field? name := by
  unfold field?
  rw [enclosing_withoutSpans, funext (env.inheritedField?_withoutSpans name)]
  rfl

end Surroundings

namespace Access

theorem receiverType?_withoutSpans (env : Surroundings) (s : State) (receiver : Receiver)
    : receiverType? env.withoutSpans s receiver = receiverType? env s receiver := by
  have htype : env.withoutSpans.types[env.withoutSpans.owner]?
      = env.types[env.owner]?.map TypeDecl.withoutSpans := List.getElem?_map
  unfold receiverType?
  rw [htype]
  simp only [Surroundings.field?_withoutSpans]
  cases receiver with
  | self =>
    dsimp only
    rw [Option.map_map]
    rfl
  | parent =>
    dsimp only
    rw [Option.bind_map]
    rfl
  | _ => rfl

structure Agrees (r : Relabelling) (tokens : List Token) (a a' : Access) : Prop where
  withoutSpan : a'.withoutSpan = a.withoutSpan
  start : SameStart r tokens a.span.start a'.span.start

variable {r : Relabelling} {env env' : Surroundings}

theorem access?_agrees (henv : env'.withoutSpans = env.withoutSpans) (s : State)
    (before : List Token) (t : Token) (rest : List Token)
    : Option.Rel (Agrees r before) (access? env s before t rest)
        (access? env' s (before.map r.apply) (r.apply t) (rest.map r.apply)) := by
  have hstarts := starts_map (p := (·.isPunct "(")) r fun t => r.isPunct_apply t "("
  unfold access?
  rw [r.isPunctOf_apply, Bracket.group?_map, Prod.map_snd]
  split
  · cases (Bracket.angle.group? rest).2 with
    | nil => exact .none
    | cons member after =>
      rw [List.map_cons]
      dsimp only
      rw [r.isIdent_apply, r.isPunct_apply, hstarts]
      cases hident : member.isIdent with
      | false => exact .none
      | true =>
        rw [r.text_of_isIdent hident]
        split
        · have hreceiver := receiver?_map r before
          generalize receiver? before = found at hreceiver
          generalize receiver? (before.map r.apply) = found' at hreceiver
          cases hreceiver with
          | none => exact .none
          | some hsame =>
            obtain ⟨hreceiver, hstart⟩ := hsame
            refine .some ⟨?_, hstart⟩
            dsimp only [Access.withoutSpan]
            rw [hreceiver, ← receiverType?_withoutSpans, henv, receiverType?_withoutSpans]
        · exact .none
  · exact .none

theorem Agrees.mono {tokens all : List Token} {a a' : Access} (h : Agrees r tokens a a')
    (hle : tokens ⊆ all) : Agrees r all a a' := by
  obtain ⟨t, ht, hstart⟩ := h.start
  exact ⟨h.withoutSpan, t, hle ht, hstart⟩

theorem scan_agrees (henv : env'.withoutSpans = env.withoutSpans) {all : List Token} (s : State)
    {before tokens : List Token} (hbefore : before ⊆ all) (htokens : tokens ⊆ all)
    : List.Forall₂ (Agrees r all) (scan env s before tokens)
        (scan env' s (before.map r.apply) (tokens.map r.apply)) := by
  fun_induction scan env s before tokens with
  | case1 =>
    rw [List.map_nil, scan]
    exact .nil
  | case2 s before t rest s' next ih =>
    rw [List.cons_subset] at htokens
    have hrest : (rest.take next.2).reverse ++ t :: before ⊆ all := by
      rw [List.append_subset, List.cons_subset]
      refine ⟨?_, htokens.1, hbefore⟩
      intro a ha
      exact htokens.2 (List.mem_of_mem_take (List.mem_reverse.1 ha))
    have hnext := ih hrest fun a ha => htokens.2 (List.mem_of_mem_drop ha)
    have haccess := access?_agrees (r := r) henv s' before t rest
    rw [List.map_cons, scan, List.length_map, step_map]
    rw [List.map_append, List.map_reverse, List.map_take, List.map_cons, List.map_drop] at hnext
    apply List.rel_append
    · generalize access? env s' before t rest = found at haccess
      generalize access? env' s' (before.map r.apply) (r.apply t) (rest.map r.apply) = found'
        at haccess
      cases haccess with
      | none => exact .nil
      | some hagrees => exact .cons (hagrees.mono hbefore) .nil
    · exact hnext

theorem ofBody_agrees {types types' : List TypeDecl}
    (htypes : types'.map TypeDecl.withoutSpans = types.map TypeDecl.withoutSpans)
    (names : TypeNames) {all : List Token} {body : Body} (hbody : body.tokens ⊆ all)
    : List.Forall₂ (Agrees r all) (ofBody names types body)
        (ofBody names types' (body.relabel r)) := by
  have henv : Surroundings.withoutSpans ⟨names, types', body.owner⟩
      = Surroundings.withoutSpans ⟨names, types, body.owner⟩ := by
    unfold Surroundings.withoutSpans
    dsimp only
    rw [htypes]
  exact scan_agrees henv _ (List.nil_subset all) hbody

end Access

theorem flatMap_ofBody_agrees {r : Relabelling} {tokens : List Token} {o' : Outline}
    (h : (outline tokens).Agrees r o')
    : List.Forall₂ (Access.Agrees r tokens)
        ((outline tokens).bodies.flatMap
          (Access.ofBody (outline tokens).typeNames (outline tokens).declarations.types))
        (o'.bodies.flatMap (Access.ofBody o'.typeNames o'.declarations.types)) := by
  have htypes : o'.declarations.types.map TypeDecl.withoutSpans
      = (outline tokens).declarations.types.map TypeDecl.withoutSpans :=
    congrArg Declarations.types h.declarations
  rw [h.bodies, h.typeNames, List.flatMap_map]
  have hbodies : ∀ body, body ∈ (outline tokens).bodies → body.tokens ⊆ tokens :=
    fun body hbody => (outline_bodies hbody).subset
  generalize (outline tokens).bodies = bodies at hbodies ⊢
  induction bodies with
  | nil => exact .nil
  | cons body bodies ih =>
    rw [List.forall_mem_cons] at hbodies
    rw [List.flatMap_cons, List.flatMap_cons]
    apply List.rel_append
    · exact Access.ofBody_agrees htypes _ hbodies.1
    · exact ih hbodies.2

end DeprecatedUse.Java
