import DeprecatedUse.Proofs.Java.Commented.Splits
import DeprecatedUse.Proofs.Java.Cursor.Headers
import DeprecatedUse.Proofs.Java.Reading
import Mathlib

/-!
This module contains the reading of modifiers and headers of types in front of a documentation
comment. The readers look ahead by a token, but not past a mark behind which a body may start, so
what is behind such a mark makes no difference to them.
-/

namespace DeprecatedUse.Java

variable {d : Token}

def erased (d : Token) (tokens : List Token) : List Token :=
  tokens.filter (· != d)

def opensBody (t : Token) : Bool :=
  t.isPunctOf ["\x7b", "(", "="]

def Guarded (d : Token) (tokens : List Token) : Prop :=
  d ∉ tokens.takeWhile (!opensBody ·)

/--
What is left of tokens has the comment if they have it, and there the comment may be in a body.
-/
structure Kept (d : Token) (tokens rest : List Token) : Prop where
  nodup : tokens.Nodup
  mem : d ∈ tokens → d ∈ rest
  guarded : Guarded d rest

theorem erased_self (d : Token) (rest : List Token) : erased d (d :: rest) = erased d rest := by
  rw [erased, List.filter_cons, bne_self_eq_false, if_neg Bool.false_ne_true, erased]

theorem erased_cons {t : Token} (h : t ≠ d) (rest : List Token)
    : erased d (t :: rest) = t :: erased d rest := by
  rw [erased, List.filter_cons, if_pos (bne_iff_ne.2 h), erased]

theorem erased_of_not_mem {tokens : List Token} (h : d ∉ tokens) : erased d tokens = tokens := by
  rw [erased, List.filter_eq_self]
  intro t ht
  rw [bne_iff_ne]
  rintro rfl
  exact h ht

theorem Token.ne_of_kind {t : Token} (hd : d.kind = .doc) (h : t.kind ≠ .doc) : t ≠ d := by
  rintro rfl
  exact h hd

theorem Token.kind_of_isPunct {t : Token} {mark : String} (h : t.isPunct mark = true)
    : t.kind = .punct := by
  rw [isPunct, Bool.and_eq_true, beq_iff_eq] at h
  exact h.1

theorem Token.kind_of_isPunctOf {t : Token} {marks : List String} (h : t.isPunctOf marks = true)
    : t.kind = .punct := by
  rw [isPunctOf, Bool.and_eq_true, beq_iff_eq] at h
  exact h.1

theorem Token.ne_of_isPunct {t : Token} (hd : d.kind = .doc) {mark : String}
    (h : t.isPunct mark = true) : t ≠ d :=
  ne_of_kind hd (by rw [kind_of_isPunct h]; decide)

theorem Token.ne_of_isPunctOf {t : Token} (hd : d.kind = .doc) {marks : List String}
    (h : t.isPunctOf marks = true) : t ≠ d :=
  ne_of_kind hd (by rw [kind_of_isPunctOf h]; decide)

theorem Token.ne_of_isIdent {t : Token} (hd : d.kind = .doc) (h : t.isIdent = true) : t ≠ d := by
  rw [isIdent, beq_iff_eq] at h
  exact ne_of_kind hd (by rw [h]; decide)

/-! Guarded tokens. -/

theorem opensBody_of_isPunct {t : Token} {mark : String} (h : t.isPunct mark = true)
    (hmark : mark ∈ ["\x7b", "(", "="]) : opensBody t = true := by
  rw [Token.isPunct, Bool.and_eq_true, beq_iff_eq, beq_iff_eq] at h
  rw [opensBody, Token.isPunctOf, Bool.and_eq_true, beq_iff_eq, List.contains_iff_mem, h.2]
  exact ⟨h.1, hmark⟩

theorem Guarded.of_not_mem {tokens : List Token} (h : d ∉ tokens) : Guarded d tokens :=
  fun hmem => h ((List.takeWhile_prefix _).subset hmem)

theorem guarded_cons_opensBody {t : Token} (h : opensBody t = true) (rest : List Token)
    : Guarded d (t :: rest) := by
  rw [Guarded, List.takeWhile_cons, h]
  exact List.not_mem_nil

theorem guarded_cons {t : Token} (h : opensBody t = false) {rest : List Token}
    : Guarded d (t :: rest) ↔ t ≠ d ∧ Guarded d rest := by
  rw [Guarded, List.takeWhile_cons, h, Bool.not_false, if_pos rfl, List.mem_cons, not_or, ne_comm]
  rfl

theorem Guarded.ne {t : Token} {rest : List Token} (hd : d.kind = .doc) (h : Guarded d (t :: rest))
    : t ≠ d := by
  cases hopens : opensBody t with
  | true => exact Token.ne_of_isPunctOf hd hopens
  | false => exact ((guarded_cons hopens).1 h).1

theorem Guarded.cons {t : Token} {rest : List Token} (ht : t ≠ d) (h : Guarded d rest)
    : Guarded d (t :: rest) := by
  cases hopens : opensBody t with
  | true => exact guarded_cons_opensBody hopens rest
  | false => exact (guarded_cons hopens).2 ⟨ht, h⟩

theorem Guarded.append {taken rest : List Token} (htaken : d ∉ taken) (h : Guarded d rest)
    : Guarded d (taken ++ rest) := by
  induction taken with
  | nil => exact h
  | cons t taken ih =>
    rw [List.mem_cons, not_or] at htaken
    exact (ih htaken.2).cons (Ne.symm htaken.1)

theorem Guarded.starts_erased {rest : List Token} (hd : d.kind = .doc) (h : Guarded d rest)
    (p : Token → Bool) : Reader.starts p (erased d rest) = Reader.starts p rest := by
  cases rest with
  | nil => rfl
  | cons t rest =>
    rw [erased_cons (h.ne hd)]
    rfl

theorem not_mem_taken {taken rest : List Token} (hnodup : (taken ++ rest).Nodup)
    (hmem : d ∈ taken ++ rest → d ∈ rest) : d ∉ taken := by
  intro htaken
  have hrest := hmem (List.mem_append_left _ htaken)
  exact (List.nodup_append.1 hnodup).2.2 d htaken d hrest rfl

namespace Kept

variable {tokens mid rest : List Token}

theorem of_suffix (h : Kept d tokens rest) (hmid : mid <:+ tokens) : Kept d mid rest where
  nodup := h.nodup.sublist hmid.sublist
  mem hmem := h.mem (hmid.subset hmem)
  guarded := h.guarded

theorem not_mem {taken : List Token} (h : Kept d (taken ++ rest) rest) : d ∉ taken :=
  not_mem_taken h.nodup h.mem

theorem between (h : Kept d tokens rest) (hmid : mid <:+ tokens) (hrest : rest <:+ mid)
    : Kept d tokens mid where
  nodup := h.nodup
  mem hmem := hrest.subset (h.mem hmem)
  guarded := by
    obtain ⟨taken, rfl⟩ := hrest
    exact (h.guarded).append (h.of_suffix hmid).not_mem

theorem guarded_tokens (h : Kept d tokens rest) (hrest : rest <:+ tokens) : Guarded d tokens :=
  (h.between (List.suffix_refl _) hrest).guarded

theorem ne {t : Token} (h : Kept d (t :: tokens) rest) (hrest : rest <:+ tokens) : t ≠ d := by
  rintro rfl
  have hmem := hrest.subset (h.mem List.mem_cons_self)
  exact (List.nodup_cons.1 h.nodup).1 hmem

end Kept

/-! Brackets. -/

namespace Bracket

theorem close?_erased (hd : d.kind = .doc) (b : Bracket) (depth : Nat) (tokens : List Token)
    : b.close? depth (erased d tokens)
        =
      (b.close? depth tokens).map (Prod.map (erased d) (erased d)) := by
  -- The comment is no bracket, so the depth is the same with it and without it.
  induction tokens generalizing depth with
  | nil => rfl
  | cons t rest ih =>
    by_cases ht : t = d
    · subst ht
      rw [erased_self, ih, close?, t.isPunct_of_doc hd, t.isPunct_of_doc hd,
        if_neg Bool.false_ne_true, if_neg Bool.false_ne_true, Option.map_map]
      congr 1
      funext group
      simp only [Function.comp_apply, Prod.map, erased_self]
    · have hmap : ∀ depth,
          (b.close? depth (erased d rest)).map (fun group => (t :: group.1, group.2))
          = ((b.close? depth rest).map (fun group => (t :: group.1, group.2))).map
              (Prod.map (erased d) (erased d)) := by
        intro depth
        rw [ih, Option.map_map, Option.map_map]
        congr 1
        funext group
        simp only [Function.comp_apply, Prod.map, erased_cons ht]
      rw [erased_cons ht, close?, close?]
      split
      · exact hmap _
      · split
        · split
          · rfl
          · exact hmap _
        · exact hmap _

theorem inside_erased (hd : d.kind = .doc) (b : Bracket) (tokens : List Token)
    : b.inside (erased d tokens) = Prod.map (erased d) (erased d) (b.inside tokens) := by
  rw [inside, inside, close?_erased hd]
  cases b.close? 0 tokens <;> rfl

theorem group?_erased (hd : d.kind = .doc) (b : Bracket) {tokens : List Token}
    (h : Guarded d tokens)
    : b.group? (erased d tokens)
        =
      Prod.map (Option.map (erased d)) (erased d) (b.group? tokens) := by
  cases tokens with
  | nil => rfl
  | cons t rest =>
    have ht := h.ne hd
    rw [erased_cons ht, group?, group?]
    split
    · rw [inside_erased hd]
      rfl
    · rw [← erased_cons ht]
      rfl

theorem guarded_of_group? {b : Bracket} (hb : b.opening ∈ ["\x7b", "(", "="]) {tokens : List Token}
    (h : Guarded d (b.group? tokens).2) : Guarded d tokens := by
  cases tokens with
  | nil => exact h
  | cons t rest =>
    rw [group?] at h
    split at h
    · next ht => exact guarded_cons_opensBody (opensBody_of_isPunct ht hb) rest
    · exact h

theorem inside_not_mem {b : Bracket} {tokens : List Token} (hnodup : tokens.Nodup)
    (hmem : d ∈ tokens → d ∈ (b.inside tokens).2) : d ∉ (b.inside tokens).1 := by
  unfold inside at *
  cases hclose : b.close? 0 tokens with
  | none =>
    rw [hclose] at hmem
    exact fun h => List.not_mem_nil (hmem h)
  | some group =>
    obtain ⟨inner, after⟩ := group
    obtain ⟨t, -, rfl⟩ := close?_append hclose
    rw [hclose] at hmem
    rw [List.append_cons] at hnodup hmem
    exact fun h => not_mem_taken hnodup hmem (List.mem_append_left _ h)

theorem group?_not_mem {b : Bracket} {tokens : List Token} (h : Kept d tokens (b.group? tokens).2)
    : (b.group? tokens).1.map (erased d) = (b.group? tokens).1 := by
  cases tokens with
  | nil => rfl
  | cons t rest =>
    rw [group?] at h ⊢
    split
    · next ht =>
      rw [if_pos ht] at h
      have hrest := h.of_suffix (List.suffix_cons t rest)
      rw [Option.map_some, erased_of_not_mem (inside_not_mem hrest.nodup hrest.mem)]
    · rfl

theorem group?_kept (hd : d.kind = .doc) {b : Bracket} {tokens : List Token}
    (h : Kept d tokens (b.group? tokens).2)
    : b.group? (erased d tokens) = ((b.group? tokens).1, erased d (b.group? tokens).2) := by
  rw [group?_erased hd b (h.guarded_tokens (group?_suffix b tokens))]
  exact Prod.ext (group?_not_mem h) rfl

end Bracket

namespace Reader

theorem dottedName_of_not_dot {name : String} {t next : Token} {rest : List Token}
    (ht : (t.isIdent || (name != "" && t.isPunct "*")) = true) (hnext : next.isPunct "." = false)
    : dottedName name (t :: next :: rest) = (name ++ t.text, next :: rest) := by
  cases rest with
  | nil => simp only [dottedName, ht, if_true]
  | cons first rest =>
    rw [dottedName, if_pos ht, hnext, Bool.false_and, if_neg Bool.false_ne_true]

theorem isPunct_of_opensBody {t : Token} (h : opensBody t = true) {mark : String}
    (hmark : mark ∉ ["\x7b", "(", "="]) : t.isPunct mark = false := by
  rw [opensBody, Token.isPunctOf, Bool.and_eq_true] at h
  rw [Token.isPunct, Bool.and_eq_false_iff]
  right
  rw [beq_eq_false_iff_ne]
  rintro rfl
  exact hmark (List.contains_iff_mem.1 h.2)

theorem isWord_of_opensBody {t : Token} (h : opensBody t = true) (word : String)
    : t.isWord word = false := by
  rw [Token.isWord, Token.kind_of_isPunctOf h]
  rfl

theorem dottedName_kept (hd : d.kind = .doc) {name : String} {tokens : List Token}
    (h : Kept d tokens (dottedName name tokens).2)
    : dottedName name (erased d tokens)
        =
      ((dottedName name tokens).1, erased d (dottedName name tokens).2) := by
  -- Only identifiers and marks are read, and the comment is neither.
  have hfirst : ∀ {name : String} {t : Token}, (t.isIdent || (name != "" && t.isPunct "*")) = true →
      t ≠ d := by
    intro name t ht
    rw [Bool.or_eq_true, Bool.and_eq_true] at ht
    rcases ht with ht | ht
    · exact Token.ne_of_isIdent hd ht
    · exact Token.ne_of_isPunct hd ht.2
  fun_induction dottedName name tokens with
  | case1 => rfl
  | case2 name t ht dot next more hdot ih =>
    have hmore := ih (h.of_suffix ((List.suffix_cons dot _).trans (List.suffix_cons t _)))
    rw [Bool.and_eq_true, Bool.or_eq_true] at hdot
    have hnext : next ≠ d := hdot.2.elim (Token.ne_of_isIdent hd) (Token.ne_of_isPunct hd)
    rw [erased_cons hnext] at hmore
    rw [erased_cons (hfirst ht), erased_cons (Token.ne_of_isPunct hd hdot.1), erased_cons hnext,
      dottedName, if_pos ht, if_pos (by rw [Bool.and_eq_true, Bool.or_eq_true]; exact hdot), hmore]
  | case3 name t ht dot next more hdot =>
    have hguarded := h.guarded
    rw [erased_cons (hfirst ht), erased_cons (hguarded.ne hd)]
    cases hopens : opensBody dot with
    | true => rw [dottedName_of_not_dot ht (isPunct_of_opensBody hopens (by decide))]
    | false =>
      have hnext := ((guarded_cons hopens).1 hguarded).2.ne hd
      rw [erased_cons hnext, dottedName, if_pos ht, if_neg hdot]
  | case4 name t ht rest hshort =>
    rw [erased_cons (hfirst ht)]
    cases rest with
    | nil => simp only [erased, List.filter_nil, dottedName, ht, if_true]
    | cons dot rest =>
      cases rest with
      | nil =>
        rw [erased_cons (h.guarded.ne hd)]
        simp only [erased, List.filter_nil, dottedName, ht, if_true]
      | cons next more => exact absurd rfl (hshort dot next more)
  | case5 name t rest ht =>
    rw [erased_cons (h.guarded.ne hd), dottedName.eq_def]
    dsimp only
    rw [if_neg ht]

theorem annotation_kept (hd : d.kind = .doc) {tokens rest : List Token}
    (h : Kept d tokens rest) (hrest : rest <:+ (Bracket.round.group? (dottedName "" tokens).2).2)
    : dottedName "" (erased d tokens)
          = ((dottedName "" tokens).1, erased d (dottedName "" tokens).2)
      ∧ Bracket.round.group? (erased d (dottedName "" tokens).2)
          = ((Bracket.round.group? (dottedName "" tokens).2).1,
            erased d (Bracket.round.group? (dottedName "" tokens).2).2) := by
  have hname := dottedName_suffix "" tokens
  have hgroup := Bracket.group?_suffix Bracket.round (dottedName "" tokens).2
  constructor
  · exact dottedName_kept hd (h.between hname (hrest.trans hgroup))
  · exact Bracket.group?_kept hd ((h.between (hgroup.trans hname) hrest).of_suffix hname)

theorem dropAnnotations_kept (hd : d.kind = .doc) {tokens : List Token}
    (h : Kept d tokens (dropAnnotations tokens))
    : dropAnnotations (erased d tokens) = erased d (dropAnnotations tokens) := by
  fun_induction dropAnnotations tokens with
  | case1 => rw [erased, List.filter_nil, dropAnnotations]
  | case2 t rest ht ih =>
    have hafter := dropAnnotations_suffix (Bracket.round.group? (dottedName "" rest).2).2
    have hgroup := (Bracket.group?_suffix Bracket.round (dottedName "" rest).2).trans
      (dottedName_suffix "" rest)
    have hrest := h.of_suffix (List.suffix_cons t rest)
    have hstarts := (hrest.guarded_tokens (hafter.trans hgroup)).starts_erased hd Token.isIdent
    obtain ⟨hname, harguments⟩ := annotation_kept hd hrest hafter
    rw [Bool.and_eq_true] at ht
    rw [erased_cons (Token.ne_of_isPunct hd ht.1), dropAnnotations, hstarts, ht.1, ht.2,
      Bool.and_self, if_pos rfl, hname, harguments]
    exact ih (hrest.of_suffix hgroup)
  | case3 t rest ht =>
    have hguarded := h.guarded
    rw [erased_cons (hguarded.ne hd), dropAnnotations, if_neg]
    cases hopens : opensBody t with
    | true =>
      rw [isPunct_of_opensBody hopens (by decide)]
      exact Bool.false_ne_true
    | false =>
      rw [((guarded_cons hopens).1 hguarded).2.starts_erased hd]
      exact ht

theorem modifiers_kept (hd : d.kind = .doc) {m : Modifiers} {tokens : List Token}
    (h : Kept d tokens (modifiers m tokens).2)
    : modifiers m (erased d tokens)
        =
      ((modifiers m tokens).1, erased d (modifiers m tokens).2) := by
  -- Only an annotation takes more than a token; what stands in its parentheses is kept.
  fun_induction modifiers m tokens with
  | case1 => rw [erased, List.filter_nil, modifiers]
  | case2 m t rest ht ih =>
    rw [erased_cons (h.ne (modifiers_suffix _ rest)), modifiers, if_pos ht]
    exact ih (h.of_suffix (List.suffix_cons t rest))
  | case3 m t rest ht hword ih =>
    rw [erased_cons (h.ne (modifiers_suffix _ rest)), modifiers, if_neg ht, if_pos hword]
    exact ih (h.of_suffix (List.suffix_cons t rest))
  | case4 m t rest ht hword hat name arguments found ih =>
    have hafter : (modifiers { m with annotations := m.annotations ++ [found] } arguments.2).2
        <:+ arguments.2 := modifiers_suffix _ _
    have hgroup : arguments.2 <:+ rest := (Bracket.group?_suffix Bracket.round name.2).trans
      (dottedName_suffix "" rest)
    have hrest := h.of_suffix (List.suffix_cons t rest)
    have hstarts := (hrest.guarded_tokens (hafter.trans hgroup)).starts_erased hd
      (fun n => n.isIdent && n.text != "interface")
    obtain ⟨hname, harguments⟩ := annotation_kept hd hrest hafter
    rw [erased_cons (h.ne (hafter.trans hgroup)), modifiers, if_neg ht, if_neg hword, hstarts,
      if_pos hat, hname]
    dsimp only
    rw [harguments]
    exact ih (hrest.of_suffix hgroup)
  | case5 m t rest ht hword hat =>
    have hguarded := h.guarded
    rw [erased_cons (hguarded.ne hd), modifiers, if_neg ht, if_neg hword, if_neg]
    cases hopens : opensBody t with
    | true =>
      rw [isPunct_of_opensBody hopens (by decide)]
      exact Bool.false_ne_true
    | false =>
      rw [((guarded_cons hopens).1 hguarded).2.starts_erased hd]
      exact hat

theorem supertype_kept (hd : d.kind = .doc) {tokens rest : List Token} (h : Kept d tokens rest)
    (hrest : rest <:+ (Bracket.angle.group? (dottedName "" (dropAnnotations tokens)).2).2)
    : dropAnnotations (erased d tokens) = erased d (dropAnnotations tokens)
      ∧ starts (·.isWordOf ["extends", "implements"]) (erased d (dropAnnotations tokens))
          = starts (·.isWordOf ["extends", "implements"]) (dropAnnotations tokens)
      ∧ dottedName "" (erased d (dropAnnotations tokens))
          = ((dottedName "" (dropAnnotations tokens)).1,
            erased d (dottedName "" (dropAnnotations tokens)).2)
      ∧ Bracket.angle.group? (erased d (dottedName "" (dropAnnotations tokens)).2)
          = ((Bracket.angle.group? (dottedName "" (dropAnnotations tokens)).2).1,
            erased d (Bracket.angle.group? (dottedName "" (dropAnnotations tokens)).2).2) := by
  have hannotations := dropAnnotations_suffix tokens
  have hname := dottedName_suffix "" (dropAnnotations tokens)
  have hgroup := Bracket.group?_suffix Bracket.angle (dottedName "" (dropAnnotations tokens)).2
  have h₁ := h.between hannotations ((hrest.trans hgroup).trans hname)
  have h₂ := (h.of_suffix hannotations).between hname (hrest.trans hgroup)
  have h₃ := ((h.of_suffix hannotations).of_suffix hname).between hgroup hrest
  exact ⟨dropAnnotations_kept hd h₁, h₁.guarded.starts_erased hd _, dottedName_kept hd h₂,
    Bracket.group?_kept hd h₃⟩

theorem supertypeNames_kept (hd : d.kind = .doc) {names : List String} {tokens : List Token}
    (h : Kept d tokens (supertypeNames names tokens).2)
    : supertypeNames names (erased d tokens)
        =
      ((supertypeNames names tokens).1, erased d (supertypeNames names tokens).2) := by
  -- Either no name stands here, or one with which the clause ends, goes on at a comma, or stops.
  fun_induction supertypeNames names tokens with
  | case1 names tokens tokens' hclause =>
    rw [supertypeNames_eq, dropAnnotations_kept hd h, h.guarded.starts_erased hd, if_pos hclause]
  | case2 names tokens tokens' hclause name names' hgroup =>
    obtain ⟨hannotations, hstarts, hname, hangle⟩ := supertype_kept hd h List.nil_suffix
    rw [supertypeNames_eq, hannotations, hstarts, if_neg hclause, hname]
    dsimp only
    rw [hangle]
    dsimp only
    rw [hgroup]
    rfl
  | case3 names tokens tokens' hclause name names' t rest hgroup hlt hcomma ih =>
    have hrest := supertypeNames_suffix names' rest
    have hgroup' := Bracket.group?_suffix Bracket.angle (dottedName "" (dropAnnotations tokens)).2
    obtain ⟨hannotations, hstarts, hname, hangle⟩ :=
      supertype_kept hd h (by rw [hgroup]; exact hrest.trans (List.suffix_cons t rest))
    rw [supertypeNames_eq, hannotations, hstarts, if_neg hclause, hname]
    dsimp only
    rw [hangle]
    dsimp only
    rw [hgroup, erased_cons (Token.ne_of_isPunct hd hcomma)]
    dsimp only
    rw [if_pos hcomma]
    rw [hgroup] at hgroup'
    exact ih (h.of_suffix ((((List.suffix_cons t rest).trans hgroup').trans
      (dottedName_suffix _ _)).trans (dropAnnotations_suffix tokens)))
  | case4 names tokens tokens' hclause name names' t rest hgroup hlt hcomma =>
    obtain ⟨hannotations, hstarts, hname, hangle⟩ :=
      supertype_kept hd h (hgroup ▸ List.suffix_refl _)
    rw [supertypeNames_eq, hannotations, hstarts, if_neg hclause, hname]
    dsimp only
    rw [hangle]
    dsimp only
    rw [hgroup, erased_cons (h.guarded.ne hd)]
    dsimp only
    rw [if_neg hcomma]
    rfl

theorem header_kept (hd : d.kind = .doc) {names : List String} {tokens : List Token}
    (h : Kept d tokens (header names tokens).2)
    : header names (erased d tokens)
        =
      ((header names tokens).1, erased d (header names tokens).2) := by
  fun_induction header names tokens with
  | case1 => rw [erased, List.filter_nil, header]
  | case2 names t rest hmark =>
    rw [erased_cons (Token.ne_of_isPunctOf hd hmark), header, if_pos hmark]
  | case3 names t rest hmark hword clause ih =>
    have hclause : clause.2 <:+ rest := supertypeNames_suffix [] rest
    have hrest := h.of_suffix (List.suffix_cons t rest)
    have hnext := header_suffix (names ++ clause.1) clause.2
    rw [erased_cons (h.ne (hnext.trans hclause)), header, if_neg hmark, if_pos hword,
      supertypeNames_kept hd (hrest.between hclause hnext)]
    exact ih (hrest.of_suffix hclause)
  | case4 names t rest hmark hword ih =>
    rw [erased_cons (h.ne (header_suffix names rest)), header, if_neg hmark, if_neg hword]
    exact ih (h.of_suffix (List.suffix_cons t rest))

theorem typeStart?_erased (hd : d.kind = .doc) {tokens : List Token} (h : Guarded d tokens)
    : typeStart? (erased d tokens) = (typeStart? tokens).map (Prod.map id (erased d)) := by
  match tokens with
  | [] => rfl
  | [t] => rw [erased_cons (h.ne hd)]; rfl
  | t :: next :: rest =>
    rw [erased_cons (h.ne hd)]
    -- No type begins at a token that opens a body, and behind any other no comment stands.
    cases hopens : opensBody t with
    | true =>
      have hkind : typeKind? t = none := by
        simp only [typeKind?, isWord_of_opensBody hopens, Bool.false_eq_true, if_false]
      have hnone : ∀ rest, typeStart? (t :: rest) = none := by
        intro rest
        cases rest with
        | nil => rfl
        | cons next rest =>
          rw [typeStart?, hkind, isPunct_of_opensBody hopens (by decide)]
          rfl
      rw [hnone, hnone]
      rfl
    | false =>
      have hnext := ((guarded_cons hopens).1 h).2.ne hd
      rw [erased_cons hnext, typeStart?, typeStart?]
      split
      · split
        · rw [Option.map_some, Prod.map, erased_cons hnext]
          rfl
        · rfl
      · split
        · rfl
        · rfl

theorem typeHeader_kept (hd : d.kind = .doc) {kind : TypeDecl.Kind} {tokens : List Token}
    (h : Kept d tokens (typeHeader kind tokens).rest)
    : typeHeader kind (erased d tokens)
        =
      { typeHeader kind tokens with rest := erased d (typeHeader kind tokens).rest } := by
  have hangle := Bracket.group?_suffix Bracket.angle tokens
  unfold typeHeader at *
  dsimp only at *
  split at h
  · next hkind =>
    have hround := Bracket.group?_suffix Bracket.round (Bracket.angle.group? tokens).2
    have hheader := header_suffix [] (Bracket.round.group? (Bracket.angle.group? tokens).2).2
    have hbehind := h.of_suffix hangle
    simp only [if_pos hkind]
    rw [Bracket.group?_kept hd (h.between hangle (hheader.trans hround))]
    dsimp only
    rw [Bracket.group?_kept hd (hbehind.between hround hheader)]
    dsimp only
    rw [header_kept hd (hbehind.of_suffix hround)]
  · next hkind =>
    have hheader := header_suffix [] (Bracket.angle.group? tokens).2
    simp only [if_neg hkind]
    rw [Bracket.group?_kept hd (h.between hangle hheader)]
    dsimp only
    rw [header_kept hd (h.of_suffix hangle)]

end Reader

end DeprecatedUse.Java
