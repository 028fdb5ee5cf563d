import DeprecatedUse.Java.Outline
import Mathlib

/-!
This module contains the reading of tokens whose spans and literals have been changed. The reader of
declarations asks for the kinds of tokens and for the texts of those that are no literals, so it
takes the same way and finds the same declarations, up to their spans. Only the arguments of
annotations are read with their literals.
-/

namespace DeprecatedUse.Java

structure Relabelling where
  apply : Token → Token
  kind_apply : ∀ t, (apply t).kind = t.kind
  text_apply : ∀ t, t.kind ≠ .literal → (apply t).text = t.text

namespace Relabelling

variable (r : Relabelling)

@[simp]
theorem isIdent_apply (t : Token) : (r.apply t).isIdent = t.isIdent := by
  unfold Token.isIdent
  rw [r.kind_apply]

theorem kind_and_text_apply (t : Token) {kind : Token.Kind} (hkind : kind ≠ .literal)
    (p : String → Bool)
    : ((r.apply t).kind == kind && p (r.apply t).text) = (t.kind == kind && p t.text) := by
  rw [r.kind_apply]
  cases h : t.kind == kind with
  | false => rfl
  | true =>
    rw [beq_iff_eq] at h
    rw [r.text_apply t (by rwa [h])]

@[simp]
theorem isWord_apply (t : Token) (word : String) : (r.apply t).isWord word = t.isWord word :=
  r.kind_and_text_apply t (by decide) (· == word)

@[simp]
theorem isWordOf_apply (t : Token) (words : List String)
    : (r.apply t).isWordOf words = t.isWordOf words :=
  r.kind_and_text_apply t (by decide) words.contains

@[simp]
theorem isPunct_apply (t : Token) (mark : String)
    : (r.apply t).isPunct mark = t.isPunct mark :=
  r.kind_and_text_apply t (by decide) (· == mark)

@[simp]
theorem isPunctOf_apply (t : Token) (marks : List String)
    : (r.apply t).isPunctOf marks = t.isPunctOf marks :=
  r.kind_and_text_apply t (by decide) marks.contains

theorem text_of_isIdent {t : Token} (h : t.isIdent = true) : (r.apply t).text = t.text := by
  apply r.text_apply
  intro hkind
  simp [Token.isIdent, hkind] at h

theorem text_of_isPunct {t : Token} {mark : String} (h : t.isPunct mark = true)
    : (r.apply t).text = t.text := by
  apply r.text_apply
  intro hkind
  simp [Token.isPunct, hkind] at h

end Relabelling

/-! Splitting at brackets. -/

section Splitting

variable (r : Relabelling)

namespace Bracket

theorem close?_map (b : Bracket) (depth : Nat) (tokens : List Token)
    : b.close? depth (tokens.map r.apply)
        =
      (b.close? depth tokens).map (Prod.map (List.map r.apply) (List.map r.apply)) := by
  induction tokens generalizing depth with
  | nil => rfl
  | cons t rest ih =>
    rw [List.map_cons, close?, close?, r.isPunct_apply, r.isPunct_apply]
    split
    · rw [ih, Option.map_map, Option.map_map]
      rfl
    · split
      · split
        · rfl
        · rw [ih, Option.map_map, Option.map_map]
          rfl
      · rw [ih, Option.map_map, Option.map_map]
        rfl

theorem inside_map (b : Bracket) (tokens : List Token)
    : b.inside (tokens.map r.apply)
        =
      Prod.map (List.map r.apply) (List.map r.apply) (b.inside tokens) := by
  unfold inside
  rw [close?_map]
  cases b.close? 0 tokens with
  | none => rfl
  | some p => rfl

theorem group?_map (b : Bracket) (tokens : List Token)
    : b.group? (tokens.map r.apply)
        =
      Prod.map (Option.map (List.map r.apply)) (List.map r.apply) (b.group? tokens) := by
  cases tokens with
  | nil => rfl
  | cons t rest =>
    rw [List.map_cons, group?, group?, r.isPunct_apply, inside_map]
    split
    · rfl
    · rfl

end Bracket

theorem splitExpression_map (depth : Nat) (tokens : List Token)
    : splitExpression depth (tokens.map r.apply)
        =
      Prod.map (List.map r.apply) (List.map r.apply) (splitExpression depth tokens) := by
  induction tokens generalizing depth with
  | nil => rfl
  | cons t rest ih =>
    rw [List.map_cons, splitExpression, splitExpression]
    simp only [r.isPunctOf_apply]
    split
    · rw [ih]
      rfl
    · split
      · rfl
      · rw [ih]
        rfl

end Splitting

/-! Types and parameters. -/

section Parameters

variable (r : Relabelling)

theorem TypeName.readFrom_map (angle : Nat) (afterAt : Bool) (name : String) (dims : Nat)
    (tokens : List Token)
    : readFrom angle afterAt name dims (tokens.map r.apply)
        =
      readFrom angle afterAt name dims tokens := by
  induction tokens generalizing angle afterAt name dims with
  | nil => rfl
  | cons t rest ih =>
    rw [List.map_cons, readFrom, readFrom]
    simp only [r.isPunct_apply, r.isPunctOf_apply, r.isIdent_apply, ih]
    by_cases hident : t.isIdent = true
    · rw [r.text_of_isIdent hident]
    · simp [hident]

theorem TypeName.read?_map (tokens : List Token)
    : read? (tokens.map r.apply) = read? tokens :=
  readFrom_map r 0 false "" 0 tokens

namespace Parameter

theorem cut_map (depth : Int) (tokens : List Token)
    : cut depth (tokens.map r.apply) = (cut depth tokens).map (List.map r.apply) := by
  induction tokens generalizing depth with
  | nil => rfl
  | cons t rest ih =>
    have hnesting : nesting (r.apply t) = nesting t := by
      unfold nesting
      rw [r.isPunctOf_apply, r.isPunctOf_apply]
    rw [List.map_cons, cut, cut, hnesting, r.isPunct_apply, ih]
    split
    · rfl
    · cases cut (depth + nesting t) rest with
      | nil => rfl
      | cons part parts => rfl

theorem dropDotted_map (tokens : List Token)
    : dropDotted (tokens.map r.apply) = (dropDotted tokens).map r.apply := by
  fun_induction dropDotted tokens with
  | case1 dot name rest hdot ih =>
    rw [List.map_cons, List.map_cons, dropDotted, r.isPunct_apply, if_pos hdot]
    exact ih
  | case2 dot name rest hdot =>
    rw [List.map_cons, List.map_cons, dropDotted, r.isPunct_apply, if_neg hdot]
  | case3 tokens htokens =>
    match tokens with
    | [] => rfl
    | [t] => rfl
    | dot :: name :: rest => exact absurd rfl (htokens dot name rest)

theorem dropAnnotations_map (tokens : List Token)
    : dropAnnotations (tokens.map r.apply) = (dropAnnotations tokens).map r.apply := by
  fun_induction dropAnnotations tokens with
  | case1 =>
    rw [List.map_nil, dropAnnotations]
  | case2 t rest hat ih =>
    rw [List.map_cons, dropAnnotations, r.isPunct_apply, if_pos hat, ← List.map_tail,
      dropDotted_map, Bracket.group?_map]
    exact ih
  | case3 t rest hat =>
    rw [List.map_cons, dropAnnotations, r.isPunct_apply, if_neg hat]

theorem read?_map (tokens : List Token) : read? (tokens.map r.apply) = read? tokens := by
  unfold read?
  rw [dropAnnotations_map]
  dsimp only
  rw [List.getLast?_map, ← List.map_dropLast, TypeName.read?_map]
  cases (dropAnnotations tokens).getLast? with
  | none => rfl
  | some name =>
    dsimp only [Option.map_some]
    rw [r.isIdent_apply]
    by_cases hident : name.isIdent = true
    · rw [r.text_of_isIdent hident]
    · simp [hident]

theorem readAll_map (tokens : List Token) : readAll (tokens.map r.apply) = readAll tokens := by
  unfold readAll
  rw [cut_map, List.filterMap_map]
  congr 1
  funext part
  exact read?_map r part

end Parameter

end Parameters

/-! Names, modifiers and headers. -/

namespace Reader

variable (r : Relabelling)

theorem starts_map {p : Token → Bool} (hp : ∀ t, p (r.apply t) = p t) (tokens : List Token)
    : starts p (tokens.map r.apply) = starts p tokens := by
  cases tokens with
  | nil => rfl
  | cons t rest => exact hp t

theorem dottedName_map (name : String) (tokens : List Token)
    : dottedName name (tokens.map r.apply)
        =
      Prod.map id (List.map r.apply) (dottedName name tokens) := by
  -- Identifiers and marks keep their text, and a dotted name holds nothing else.
  have htext : ∀ {name : String} {t : Token},
      (t.isIdent || (name != "" && t.isPunct "*")) = true → (r.apply t).text = t.text := by
    intro name t h
    rw [Bool.or_eq_true, Bool.and_eq_true] at h
    rcases h with h | h
    · exact r.text_of_isIdent h
    · exact r.text_of_isPunct h.2
  fun_induction dottedName name tokens with
  | case1 => rfl
  | case2 name t ht dot next more hdot ih =>
    rw [List.map_cons, List.map_cons, List.map_cons, dottedName]
    simp only [r.isIdent_apply, r.isPunct_apply]
    rw [if_pos ht, if_pos hdot, htext ht]
    exact ih
  | case3 name t ht dot next more hdot =>
    rw [List.map_cons, List.map_cons, List.map_cons, dottedName]
    simp only [r.isIdent_apply, r.isPunct_apply]
    rw [if_pos ht, if_neg hdot, htext ht]
    rfl
  | case4 name t ht rest hrest =>
    cases rest with
    | nil =>
      rw [List.map_cons, List.map_nil, dottedName.eq_def]
      simp only [r.isIdent_apply, r.isPunct_apply]
      rw [if_pos ht, htext ht]
      rfl
    | cons dot rest =>
      cases rest with
      | nil =>
        rw [List.map_cons, List.map_cons, List.map_nil, dottedName.eq_def]
        simp only [r.isIdent_apply, r.isPunct_apply]
        rw [if_pos ht, htext ht]
        rfl
      | cons next more => exact absurd rfl (hrest dot next more)
  | case5 name t rest ht =>
    rw [List.map_cons, dottedName.eq_def]
    simp only [r.isIdent_apply, r.isPunct_apply]
    rw [if_neg ht]
    rfl

def annotationArguments : List Token → List Token
  | [] => []
  | t :: rest =>
    if t.isPunct "@" && starts (fun n => n.isIdent && n.text != "interface") rest then
      (Bracket.round.group? (dottedName "" rest).2).1.getD []
    else
      []

end Reader

def Relabelling.KeepsArguments (r : Relabelling) (tokens : List Token) : Prop :=
  ∀ rest, rest <:+ tokens → ∀ t, t ∈ Reader.annotationArguments rest → (r.apply t).text = t.text

theorem Relabelling.KeepsArguments.suffix {r : Relabelling} {tokens rest : List Token}
    (h : r.KeepsArguments tokens) (hrest : rest <:+ tokens) : r.KeepsArguments rest := by
  intro rest' hrest'
  exact h rest' (hrest'.trans hrest)

namespace Reader

variable (r : Relabelling)

theorem isIdent_and_text_apply (t : Token) (word : String)
    : ((r.apply t).isIdent && (r.apply t).text != word) = (t.isIdent && t.text != word) := by
  rw [r.isIdent_apply]
  cases h : t.isIdent with
  | false => rfl
  | true => rw [r.text_of_isIdent h]

theorem modifiers_map {r : Relabelling} (m : Modifiers) {tokens : List Token}
    (h : r.KeepsArguments tokens)
    : modifiers m (tokens.map r.apply) = Prod.map id (List.map r.apply) (modifiers m tokens) := by
  have hstarts := starts_map (p := fun n => n.isIdent && n.text != "interface") r fun t =>
    isIdent_and_text_apply r t "interface"
  fun_induction modifiers m tokens with
  | case1 =>
    rw [List.map_nil, modifiers]
    rfl
  | case2 m t rest hdoc ih =>
    have htext : (r.apply t).text = t.text := by
      apply r.text_apply
      rw [beq_iff_eq] at hdoc
      simp [hdoc]
    rw [List.map_cons, modifiers, r.kind_apply, if_pos hdoc, htext]
    exact ih (h.suffix (List.suffix_cons t rest))
  | case3 m t rest hdoc hword ih =>
    rw [List.map_cons, modifiers, r.kind_apply, if_neg hdoc, r.isWordOf_apply, if_pos hword]
    exact ih (h.suffix (List.suffix_cons t rest))
  | case4 m t rest hdoc hword hat name arguments found ih =>
    have hsuffix : arguments.2 <:+ t :: rest :=
      ((Bracket.group?_suffix _ _).trans (dottedName_suffix "" rest)).trans (List.suffix_cons t rest)
    have hspaced : ((arguments.1.map (List.map r.apply)).map spaced).getD ""
        = (arguments.1.map spaced).getD "" := by
      cases harguments : arguments.1 with
      | none => rfl
      | some inside =>
        -- The text of the arguments is part of what is read, so here it has to be kept.
        have hkeep : ∀ t, t ∈ inside → (r.apply t).text = t.text := by
          intro a ha
          apply h (t :: rest) (List.suffix_refl _)
          rw [annotationArguments, if_pos hat]
          change a ∈ arguments.1.getD []
          rw [harguments]
          exact ha
        dsimp only [Option.map_some, Option.getD_some]
        unfold spaced
        rw [List.map_map]
        congr 1
        exact List.map_congr_left hkeep
    rw [List.map_cons, modifiers, r.kind_apply, if_neg hdoc, r.isWordOf_apply, if_neg hword,
      r.isPunct_apply, hstarts, if_pos hat, dottedName_map]
    dsimp only [Prod.map]
    rw [Bracket.group?_map]
    dsimp only [Prod.map]
    rw [hspaced]
    exact ih (h.suffix hsuffix)
  | case5 m t rest hdoc hword hat =>
    rw [List.map_cons, modifiers, r.kind_apply, if_neg hdoc, r.isWordOf_apply, if_neg hword,
      r.isPunct_apply, hstarts, if_neg hat]
    rfl

theorem dropAnnotations_map (tokens : List Token)
    : dropAnnotations (tokens.map r.apply) = (dropAnnotations tokens).map r.apply := by
  fun_induction dropAnnotations tokens with
  | case1 => rw [List.map_nil, dropAnnotations]
  | case2 t rest hat ih =>
    rw [List.map_cons, dropAnnotations, r.isPunct_apply, starts_map r r.isIdent_apply, if_pos hat,
      dottedName_map, Prod.map_snd, Bracket.group?_map, Prod.map_snd]
    exact ih
  | case3 t rest hat =>
    rw [List.map_cons, dropAnnotations, r.isPunct_apply, starts_map r r.isIdent_apply, if_neg hat]

theorem supertypeNames_eq (names : List String) (tokens : List Token)
    : supertypeNames names tokens
        =
      if starts (·.isWordOf ["extends", "implements"]) (dropAnnotations tokens) then
        (names, dropAnnotations tokens)
      else
        let name := dottedName "" (dropAnnotations tokens)
        let names := if name.1 = "" then names else names ++ [name.1]
        match (Bracket.angle.group? name.2).2 with
        | [] => (names, [])
        | t :: rest => if t.isPunct "," then supertypeNames names rest else (names, t :: rest) := by
  rw [supertypeNames]
  dsimp only
  split
  · rfl
  · split
    · next hgroup => rw [hgroup]
    · next hgroup => rw [hgroup]

theorem supertypeNames_map (names : List String) (tokens : List Token)
    : supertypeNames names (tokens.map r.apply)
        =
      Prod.map id (List.map r.apply) (supertypeNames names tokens) := by
  have hstarts := starts_map (p := (·.isWordOf ["extends", "implements"])) r fun t =>
    r.isWordOf_apply t _
  fun_induction supertypeNames names tokens with
  | case1 names tokens tokens' hclause =>
    rw [supertypeNames_eq, dropAnnotations_map, hstarts, if_pos hclause]
    rfl
  | case2 names tokens tokens' hclause name names' hgroup =>
    rw [supertypeNames_eq, dropAnnotations_map, hstarts, if_neg hclause, dottedName_map]
    dsimp only [Prod.map]
    rw [Bracket.group?_map, Prod.map_snd, hgroup]
    rfl
  | case3 names tokens tokens' hclause name names' t rest hgroup hlt hcomma ih =>
    rw [supertypeNames_eq, dropAnnotations_map, hstarts, if_neg hclause, dottedName_map]
    dsimp only [Prod.map]
    rw [Bracket.group?_map, Prod.map_snd, hgroup, List.map_cons]
    dsimp only
    rw [r.isPunct_apply, if_pos hcomma]
    exact ih
  | case4 names tokens tokens' hclause name names' t rest hgroup hlt hcomma =>
    rw [supertypeNames_eq, dropAnnotations_map, hstarts, if_neg hclause, dottedName_map]
    dsimp only [Prod.map]
    rw [Bracket.group?_map, Prod.map_snd, hgroup, List.map_cons]
    dsimp only
    rw [r.isPunct_apply, if_neg hcomma]
    rfl

theorem header_map (names : List String) (tokens : List Token)
    : header names (tokens.map r.apply)
        =
      Prod.map id (List.map r.apply) (header names tokens) := by
  fun_induction header names tokens with
  | case1 =>
    rw [List.map_nil, header]
    rfl
  | case2 names t rest hmark =>
    rw [List.map_cons, header, r.isPunctOf_apply, if_pos hmark]
    rfl
  | case3 names t rest hmark hclause clause ih =>
    rw [List.map_cons, header, r.isPunctOf_apply, if_neg hmark, r.isWordOf_apply, if_pos hclause,
      supertypeNames_map]
    exact ih
  | case4 names t rest hmark hclause ih =>
    rw [List.map_cons, header, r.isPunctOf_apply, if_neg hmark, r.isWordOf_apply, if_neg hclause]
    exact ih

theorem typeKind?_apply (t : Token) : typeKind? (r.apply t) = typeKind? t := by
  unfold typeKind?
  simp only [r.isWord_apply]

theorem typeStart?_map (tokens : List Token)
    : typeStart? (tokens.map r.apply)
        =
      (typeStart? tokens).map (Prod.map id (List.map r.apply)) := by
  match tokens with
  | [] => rfl
  | [t] => rfl
  | t :: next :: rest =>
    rw [List.map_cons, List.map_cons, typeStart?, typeStart?, typeKind?_apply, r.isIdent_apply,
      r.isPunct_apply, r.isWord_apply]
    cases typeKind? t with
    | none =>
      dsimp only
      split
      · rfl
      · rfl
    | some kind =>
      dsimp only
      split
      · rfl
      · rfl

theorem typeHeader_map (kind : TypeDecl.Kind) (tokens : List Token)
    : typeHeader kind (tokens.map r.apply)
        =
      { typeHeader kind tokens with rest := (typeHeader kind tokens).rest.map r.apply } := by
  unfold typeHeader
  rw [Bracket.group?_map, Prod.map_snd]
  dsimp only
  split
  · rw [Bracket.group?_map, Prod.map_snd, Prod.map_fst, header_map]
    cases (Bracket.round.group? (Bracket.angle.group? tokens).2).1 with
    | none => rfl
    | some inside =>
      dsimp only [Option.map_some, Option.getD_some]
      rw [Parameter.readAll_map]
      rfl
  · rw [header_map]
    rfl

theorem methodBody_map (tokens : List Token)
    : methodBody (tokens.map r.apply)
        =
      Prod.map (Option.map (List.map r.apply)) (List.map r.apply) (methodBody tokens) := by
  induction tokens with
  | nil => rfl
  | cons t rest ih =>
    rw [List.map_cons, methodBody, methodBody]
    simp only [r.isPunct_apply]
    split
    · rw [Bracket.inside_map]
      rfl
    · split
      · rfl
      · split
        · rfl
        · exact ih

theorem lastIdent?_map (tokens : List Token)
    : lastIdent? (tokens.map r.apply)
        =
      (lastIdent? tokens).map (Prod.map (List.map r.apply) r.apply) := by
  unfold lastIdent?
  rw [← List.map_reverse, List.dropWhile_map]
  have hident : ((fun t : Token => !t.isIdent) ∘ r.apply) = fun t => !t.isIdent := by
    funext t
    rw [Function.comp_apply, r.isIdent_apply]
  rw [hident]
  cases tokens.reverse.dropWhile (!·.isIdent) with
  | nil => rfl
  | cons name before =>
    rw [List.map_cons]
    dsimp only
    rw [← List.map_reverse]
    rfl

theorem splitMember_map (angle : Nat) (tokens : List Token)
    : splitMember angle (tokens.map r.apply)
        =
      Prod.map (List.map r.apply) (List.map r.apply) (splitMember angle tokens) := by
  induction tokens generalizing angle with
  | nil => rfl
  | cons t rest ih =>
    rw [List.map_cons, splitMember, splitMember]
    simp only [r.isPunct_apply, r.isPunctOf_apply]
    split
    · rfl
    · rw [ih]
      rfl

end Reader

end DeprecatedUse.Java
