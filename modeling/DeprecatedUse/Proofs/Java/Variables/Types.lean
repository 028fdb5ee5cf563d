import DeprecatedUse.Proofs.Java.Comparisons.Chains
import DeprecatedUse.Proofs.Java.Fields.Types
import DeprecatedUse.Proofs.Java.Searching

/-!
This module contains types as declarations of fields, of parameters and of local variables write
them: a name with dots, perhaps type arguments behind it, and pairs of square brackets. The reader
of local variables takes such a type whole, and the reader of parameters does not cut it.
-/

namespace DeprecatedUse.Java

namespace NamedType

def IsDotted : NamedType → Prop
  | name _ _ _ _ => True
  | member outer _ _ _ _ _ _ => outer.IsDotted
  | generic _ _ _ _ _ _ _ => False

/--
A name, perhaps with dots, and perhaps with type arguments behind it, in which all tokens are such
as types are written with.
-/
def IsOrdinary : NamedType → Prop
  | generic raw _ arguments _ _ _ _ => raw.IsDotted ∧ ∀ t ∈ arguments, Access.isTypePart t = true
  | type => type.IsDotted

def behindFirst : NamedType → String
  | name _ _ _ _ => ""
  | member outer _ n _ _ _ _ => outer.behindFirst ++ "." ++ n.text
  | generic raw _ _ _ _ _ _ => raw.behindFirst

variable {type : NamedType}

/-! Names with dots. -/

theorem splitDotted_more (h : type.IsDotted) (rest : List Token)
    : Access.splitDotted (type.more ++ rest)
        =
      (type.more ++ (Access.splitDotted rest).1, (Access.splitDotted rest).2) := by
  induction type generalizing rest with
  | name => rfl
  | member outer dot n hdot hident hname hword ih =>
    rw [more, List.append_assoc, ih h, List.append_assoc, List.cons_append, List.cons_append,
      List.nil_append, Access.splitDotted, hdot, hident, Bool.and_self, if_pos rfl]
    rfl
  | generic => exact h.elim

theorem dropDotted_more (h : type.IsDotted) (rest : List Token)
    : Parameter.dropDotted (type.more ++ rest) = Parameter.dropDotted rest := by
  induction type generalizing rest with
  | name => rfl
  | member outer dot n hdot hident hname hword ih =>
    rw [more, List.append_assoc, ih h, List.cons_append, List.cons_append, List.nil_append,
      Parameter.dropDotted, if_pos hdot]
  | generic => exact h.elim

theorem dottedName_cons {t : Token} (ht : t.isIdent = true) {rest : List Token}
    (hrest : Reader.starts (·.isPunct ".") rest = false) (name : String)
    : Reader.dottedName name (t :: rest) = (name ++ t.text, rest) := by
  match rest with
  | [] =>
    rw [Reader.dottedName, ht]
    · rfl
    · rintro _ _ _ ⟨⟩
  | [dot] =>
    rw [Reader.dottedName, ht]
    · rfl
    · rintro _ _ _ ⟨⟩
  | dot :: next :: rest =>
    rw [Reader.starts] at hrest
    rw [Reader.dottedName, ht, hrest]
    rfl

theorem dottedName_dot {t dot next : Token} (ht : t.isIdent = true)
    (hdot : dot.isPunct "." = true) (hnext : next.isIdent = true) (name : String)
    (rest : List Token)
    : Reader.dottedName name (t :: dot :: next :: rest)
        =
      Reader.dottedName (name ++ t.text ++ ".") (next :: rest) := by
  rw [Reader.dottedName, ht, hdot, hnext]
  rfl

theorem dottedName_more_dot (h : type.IsDotted) {dot next : Token} (hdot : dot.isPunct "." = true)
    (hnext : next.isIdent = true) (rest : List Token)
    : Reader.dottedName "" (type.first :: (type.more ++ dot :: next :: rest))
        =
      Reader.dottedName (type.text ++ ".") (next :: rest) := by
  induction type generalizing dot next rest with
  | name n hident hname hword =>
    rw [first, more, List.nil_append, dottedName_dot hident hdot hnext, String.empty_append]
    rfl
  | member outer dot' n hdot' hident hname hword ih =>
    rw [first, more, List.append_assoc, List.cons_append, List.singleton_append,
      ih h hdot' hident, dottedName_dot hident hdot hnext]
    rfl
  | generic => exact h.elim

theorem dottedName_more (h : type.IsDotted) {rest : List Token}
    (hrest : Reader.starts (·.isPunct ".") rest = false)
    : Reader.dottedName "" (type.first :: (type.more ++ rest)) = (type.text, rest) := by
  cases type with
  | name n hident hname hword =>
    rw [first, more, List.nil_append, dottedName_cons hident hrest, String.empty_append]
    rfl
  | member outer dot n hdot hident hname hword =>
    have houter := dottedName_more_dot (show outer.IsDotted from h) hdot hident rest
    rw [first, more, List.append_assoc, List.cons_append, List.singleton_append, houter,
      dottedName_cons hident hrest]
    rfl
  | generic => exact h.elim

theorem readFrom_afterAt (h : type.IsDotted) (name : String) (dims : Nat) (rest : List Token)
    : TypeName.readFrom 0 true name dims (type.first :: (type.more ++ rest))
        =
      TypeName.readFrom 0 false (name ++ type.behindFirst) dims rest := by
  induction type generalizing rest with
  | name n hident hname hword =>
    rw [first, more, List.nil_append, TypeName.readFrom, if_neg (Nat.lt_irrefl 0), if_pos hident,
      behindFirst, String.append_empty]
    rfl
  | member outer dot n hdot hident hname hword ih =>
    have hdotted : endsInDot (name ++ outer.behindFirst ++ ".") = true := endsInDot_dot _
    rw [first, more, List.append_assoc, ih h, List.cons_append, List.singleton_append,
      readFrom_dot hdot, readFrom_word hident hword (.inr hdotted), behindFirst,
      String.append_assoc, String.append_assoc, String.append_assoc]
  | generic => exact h.elim

theorem behindFirst_append (h : type.IsDotted) {name : String} (hname : endsInDot name = false)
    : endsInDot (name ++ type.behindFirst) = false := by
  cases type with
  | name =>
    rw [behindFirst, String.append_empty]
    exact hname
  | member outer dot n hdot hident hname hword =>
    rw [behindFirst, ← String.append_assoc]
    exact endsInDot_append _ hname
  | generic => exact h.elim

theorem behindFirst_ne (h : type.IsDotted) (hmore : type.more ≠ []) : type.behindFirst ≠ "" := by
  cases type with
  | name => exact absurd rfl hmore
  | member outer dot n hdot hident hname hword =>
    intro hempty
    rw [behindFirst, String.append_eq_empty_iff] at hempty
    exact hname.1 hempty.2
  | generic => exact h.elim

end NamedType

/-! Local variables. -/

namespace Access

theorem splitArgumentsFrom?_opening {t : Token} (ht : t.isPunct "<" = true) (depth : Nat)
    (rest : List Token)
    : splitArgumentsFrom? depth (t :: rest)
        =
      (splitArgumentsFrom? (depth + 1) rest).map fun split => (t :: split.1, split.2) := by
  rw [splitArgumentsFrom?, if_pos ht]

theorem splitArgumentsFrom?_closing {t : Token} (ht : t.isPunct ">" = true) (depth : Nat)
    (rest : List Token)
    : splitArgumentsFrom? depth (t :: rest)
        =
      if depth ≤ 1 then
        some ([t], rest)
      else
        (splitArgumentsFrom? (depth - 1) rest).map fun split => (t :: split.1, split.2) := by
  have hopening : t.isPunct "<" = false := by
    rw [Token.isPunct_of_isPunct ht]
    rfl
  rw [splitArgumentsFrom?, hopening, if_neg Bool.false_ne_true, if_pos ht]

theorem splitArgumentsFrom?_angleNested {inner : List Token} (h : AngleNested inner)
    (hparts : ∀ t ∈ inner, isTypePart t = true) (depth : Nat) (rest : List Token)
    : splitArgumentsFrom? (depth + 1) (inner ++ rest)
        =
      (splitArgumentsFrom? (depth + 1) rest).map fun split => (inner ++ split.1, split.2) := by
  induction h generalizing depth rest with
  | nil =>
    cases hsplit : splitArgumentsFrom? (depth + 1) rest <;> simp [hsplit]
  | @other t inner hopening hclosing h ih =>
    have hpart : t.isIdent = true ∨ t.isPunctOf [".", ",", "?", "&", "[", "]", "@"] = true := by
      have ht := hparts t List.mem_cons_self
      have happend := Cursor.isPunctOf_append t [".", ",", "?", "&", "[", "]", "@"] ["<", ">"]
      have hangle : t.isPunctOf ["<", ">"] = false := by
        simp only [Token.isPunct, Token.isPunctOf, List.contains_cons, List.contains_nil,
          Bool.and_or_distrib_left, Bool.or_false] at hopening hclosing ⊢
        rw [hopening, hclosing]
        rfl
      rw [hangle, Bool.or_false] at happend
      rw [isTypePart, Bool.or_eq_true] at ht
      exact ht.imp_right fun ht => happend ▸ ht
    rw [List.cons_append, ← List.singleton_append,
      splitArgumentsFrom?_inner (List.forall_mem_singleton.2 hpart),
      ih (fun u hu => hparts u (List.mem_cons_of_mem t hu)), Option.map_map]
    rfl
  | @group opening closing inner inner' hopening hinner hclosing h ih ih' =>
    rw [List.forall_mem_cons, List.forall_mem_append, List.forall_mem_cons] at hparts
    obtain ⟨-, hinside, -, hbehind⟩ := hparts
    rw [List.cons_append, List.append_assoc, List.cons_append, splitArgumentsFrom?_opening hopening,
      ih hinside, splitArgumentsFrom?_closing hclosing,
      if_neg (Nat.not_le.2 (Nat.lt_add_of_pos_left (Nat.succ_pos depth))), Nat.add_sub_cancel,
      ih' hbehind, Option.map_map, Option.map_map, Option.map_map]
    congr 1
    funext split
    simp

end Access

def dimTokens (dims : List (Token × Token)) : List Token :=
  dims.flatMap fun pair => [pair.1, pair.2]

def AreDims (dims : List (Token × Token)) : Prop :=
  ∀ pair ∈ dims, pair.1.isPunct "[" = true ∧ pair.2.isPunct "]" = true

theorem areDims_nil : AreDims [] :=
  List.forall_mem_nil _

theorem splitDims_dims {dims : List (Token × Token)} (h : AreDims dims) {rest : List Token}
    (hrest : Access.starts (·.isPunct "[") rest = false)
    : Access.splitDims (dimTokens dims ++ rest) = (dimTokens dims, rest) := by
  induction dims with
  | nil => exact Access.splitDims_of_starts hrest
  | cons pair dims ih =>
    obtain ⟨hopening, hclosing⟩ := h pair List.mem_cons_self
    change Access.splitDims (pair.1 :: pair.2 :: (dimTokens dims ++ rest)) = _
    rw [Access.splitDims, hopening, hclosing, Bool.and_self, if_pos rfl,
      ih fun p hp => h p (List.mem_cons_of_mem pair hp)]
    rfl

theorem starts_dims {dims : List (Token × Token)} (h : AreDims dims) {p : Token → Bool}
    (hp : ∀ t : Token, t.isPunct "[" = true → p t = false) {rest : List Token}
    (hrest : Access.starts p rest = false) : Access.starts p (dimTokens dims ++ rest) = false := by
  cases dims with
  | nil => exact hrest
  | cons pair dims => exact hp pair.1 (h pair List.mem_cons_self).1

namespace WrittenType

theorem splitType?_tokens {type : WrittenType} (h : type.named.IsOrdinary)
    (hfirst : Access.isPlain type.named.first = true) {name : Token} (hname : name.isIdent = true)
    (rest : List Token)
    : Access.splitType? (type.tokens ++ name :: rest) = some (type.tokens, name :: rest) := by
  have hstarts : ∀ mark, mark ≠ "["
      → Access.starts (·.isPunct mark) (dimTokens type.dims ++ name :: rest) = false := by
    intro mark hmark
    apply starts_dims type.dims_eq
    · intro t ht
      rw [Token.isPunct_of_isPunct ht, beq_eq_false_iff_ne]
      exact hmark.symm
    · exact Cursor.isPunct_of_isIdent hname mark
  have hdims : Access.splitDims (dimTokens type.dims ++ name :: rest)
      = (dimTokens type.dims, name :: rest) :=
    splitDims_dims type.dims_eq (Cursor.isPunct_of_isIdent hname "[")
  -- Dots and names, then type arguments, then square brackets are split off.
  have hsplit : ∀ dotted arguments,
      Access.splitDotted (type.more ++ name :: rest)
          = (dotted, arguments ++ (dimTokens type.dims ++ name :: rest))
        → Access.splitArguments? (arguments ++ (dimTokens type.dims ++ name :: rest))
          = some (arguments, dimTokens type.dims ++ name :: rest)
        → dotted ++ arguments = type.named.more
        → Access.splitType? (type.tokens ++ name :: rest) = some (type.tokens, name :: rest) := by
    intro dotted arguments hdotted harguments hmore
    rw [tokens, List.cons_append, Access.splitType?, if_pos hfirst, hdotted]
    dsimp only
    rw [harguments, Option.bind_eq_bind, Option.bind_some]
    dsimp only
    rw [hdims, List.cons_append, List.cons_append, hmore]
    rfl
  have hplain : type.named.IsDotted
      → Access.splitType? (type.tokens ++ name :: rest) = some (type.tokens, name :: rest) := by
    intro hdotted
    apply hsplit type.named.more []
    · change Access.splitDotted ((type.named.more ++ dimTokens type.dims) ++ name :: rest) = _
      rw [List.append_assoc, NamedType.splitDotted_more hdotted,
        Access.splitDotted_of_starts (hstarts "." (by decide)), List.append_nil]
      rfl
    · rw [List.nil_append, Access.splitArguments?, hstarts "<" (by decide),
        if_neg Bool.false_ne_true]
    · exact List.append_nil _
  obtain ⟨named, dims, dims_eq⟩ := type
  cases named with
  | name => exact hplain trivial
  | member outer dot n hdot hident hname hword => exact hplain h
  | generic raw opening arguments closing hopening harguments hclosing =>
    obtain ⟨hraw, hparts⟩ := h
    have hstart : ∀ more, Access.starts (·.isPunct ".") (opening :: more) = false := by
      intro more
      rw [Access.starts, Token.isPunct_of_isPunct hopening]
      rfl
    apply hsplit raw.more (opening :: (arguments ++ [closing]))
    · dsimp only [more, NamedType.more]
      rw [List.append_assoc, List.append_assoc, NamedType.splitDotted_more hraw, List.cons_append,
        Access.splitDotted_of_starts (hstart _), List.append_nil]
      rfl
    · rw [List.cons_append, Access.splitArguments?, Access.starts, if_pos hopening,
        Access.splitArgumentsFrom?_opening hopening, List.append_assoc,
        Access.splitArgumentsFrom?_angleNested harguments hparts 0, List.singleton_append,
        Access.splitArgumentsFrom?_closing hclosing, if_pos (Nat.le_refl 1)]
      rfl
    · rfl

end WrittenType

/-! Parameter lists. -/

namespace Parameter

def prepend (tokens : List Token) : List (List Token) → List (List Token)
  | [] => [tokens]
  | part :: parts => (tokens ++ part) :: parts

theorem prepend_prepend (tokens tokens' : List Token) (parts : List (List Token))
    : prepend tokens (prepend tokens' parts) = prepend (tokens ++ tokens') parts := by
  cases parts with
  | nil => rfl
  | cons part parts =>
    rw [prepend, prepend, prepend, List.append_assoc]

theorem cut_ne_nil (depth : Int) (tokens : List Token) : cut depth tokens ≠ [] := by
  cases tokens with
  | nil => simp [cut]
  | cons t rest =>
    rw [cut]
    split
    · simp
    · split
      · simp
      · simp

theorem prepend_nil (depth : Int) (tokens : List Token)
    : prepend [] (cut depth tokens) = cut depth tokens := by
  cases hcut : cut depth tokens with
  | nil => exact absurd hcut (cut_ne_nil depth tokens)
  | cons part parts => rfl

theorem cut_cons {depth : Int} {t : Token} (h : t.isPunct "," = true → depth + nesting t ≠ 0)
    (rest : List Token)
    : cut depth (t :: rest) = prepend [t] (cut (depth + nesting t) rest) := by
  have hnot : ¬ (t.isPunct "," && depth + nesting t == 0) = true := by
    rw [Bool.and_eq_true, beq_iff_eq]
    exact fun hboth => h hboth.1 hboth.2
  rw [cut, if_neg hnot]
  cases cut (depth + nesting t) rest with
  | nil => rfl
  | cons part parts => rfl

theorem nesting_mark {t : Token} {mark : String} (h : t.isPunct mark = true)
    : nesting t = if mark ∈ ["<", "("] then 1 else if mark ∈ [">", ")"] then -1 else 0 := by
  rw [nesting, Token.isPunctOf_of_isPunct h, Token.isPunctOf_of_isPunct h]
  simp only [List.contains_iff_mem]

theorem nesting_ident {t : Token} (h : t.isIdent = true) : nesting t = 0 := by
  rw [nesting, Token.isPunctOf_of_isIdent h, Token.isPunctOf_of_isIdent h]
  rfl

theorem cut_comma {front : List Token} {comma : Token} (hcomma : comma.isPunct "," = true)
    {depth : Int} (h : depth + (front.map nesting).sum = 0) (rest : List Token)
    : cut depth (front ++ comma :: rest) = cut depth front ++ cut 0 rest := by
  induction front generalizing depth with
  | nil =>
    rw [List.map_nil, List.sum_nil, Int.add_zero] at h
    have hzero : nesting comma = 0 := nesting_mark hcomma
    rw [h, List.nil_append, cut, cut, hzero, hcomma]
    rfl
  | cons t front ih =>
    rw [List.map_cons, List.sum_cons, ← Int.add_assoc] at h
    rw [List.cons_append, cut, cut, ih h]
    split
    · rfl
    · cases hcut : cut (depth + nesting t) front with
      | nil => exact absurd hcut (cut_ne_nil _ _)
      | cons part parts => rfl

theorem cut_flat {tokens : List Token} (h : ∀ t ∈ tokens, nesting t = 0 ∧ t.isPunct "," = false)
    (depth : Int) (rest : List Token)
    : cut depth (tokens ++ rest) = prepend tokens (cut depth rest) := by
  induction tokens with
  | nil => exact (prepend_nil depth rest).symm
  | cons t tokens ih =>
    obtain ⟨hnesting, hcomma⟩ := h t List.mem_cons_self
    have hcut : t.isPunct "," = true → depth + nesting t ≠ 0 := by
      rw [hcomma]
      exact fun h => absurd h Bool.false_ne_true
    rw [List.cons_append, cut_cons hcut, hnesting, Int.add_zero,
      ih fun u hu => h u (List.mem_cons_of_mem t hu), prepend_prepend, List.singleton_append]

theorem nesting_isTypePart {t : Token} (h : Access.isTypePart t = true)
    (hopening : t.isPunct "<" = false) (hclosing : t.isPunct ">" = false) : nesting t = 0 := by
  rw [Access.isTypePart, Bool.or_eq_true] at h
  rcases h with h | h
  · exact nesting_ident h
  · rw [Token.isPunctOf, Bool.and_eq_true, beq_iff_eq, List.contains_iff_mem] at h
    obtain ⟨hkind, hmark⟩ := h
    have hpunct : t.isPunct t.text = true := Token.isPunct_iff.2 ⟨hkind, rfl⟩
    rw [Token.isPunct_of_isPunct hpunct, beq_eq_false_iff_ne] at hopening hclosing
    rw [nesting_mark hpunct]
    generalize t.text = mark at hmark hopening hclosing
    simp only [List.mem_cons, List.not_mem_nil, or_false] at hmark
    rcases hmark with rfl | rfl | rfl | rfl | rfl | rfl | rfl | rfl | rfl
    all_goals first | rfl | contradiction

theorem cut_angleNested {inner : List Token} (h : AngleNested inner)
    (hparts : ∀ t ∈ inner, Access.isTypePart t = true) {depth : Int} (hdepth : 0 < depth)
    (rest : List Token)
    : cut depth (inner ++ rest) = prepend inner (cut depth rest) := by
  induction h generalizing depth rest with
  | nil => exact (prepend_nil depth rest).symm
  | @other t inner hopening hclosing h ih =>
    have hnesting := nesting_isTypePart (hparts t List.mem_cons_self) hopening hclosing
    rw [List.cons_append, cut_cons (by omega), hnesting, Int.add_zero,
      ih (fun u hu => hparts u (List.mem_cons_of_mem t hu)) hdepth, prepend_prepend,
      List.singleton_append]
  | @group opening closing inner inner' hopening hinner hclosing h ih ih' =>
    rw [List.forall_mem_cons, List.forall_mem_append, List.forall_mem_cons] at hparts
    obtain ⟨-, hinside, -, hbehind⟩ := hparts
    have hopens : nesting opening = 1 := nesting_mark hopening
    have hcloses : nesting closing = -1 := nesting_mark hclosing
    rw [List.cons_append, List.append_assoc, List.cons_append, cut_cons (by omega), hopens,
      ih hinside (by omega), cut_cons (by omega), hcloses, Int.add_neg_cancel_right,
      ih' hbehind hdepth, prepend_prepend, prepend_prepend, prepend_prepend]
    congr 1
    simp

end Parameter

theorem NamedType.flat_more {type : NamedType} (h : type.IsDotted)
    : ∀ t ∈ type.more, Parameter.nesting t = 0 ∧ t.isPunct "," = false := by
  induction type with
  | name => exact List.forall_mem_nil _
  | member outer dot n hdot hident hname hword ih =>
    rw [more, List.forall_mem_append, List.forall_mem_cons, List.forall_mem_singleton]
    refine ⟨ih h, ⟨Parameter.nesting_mark hdot, ?_⟩, Parameter.nesting_ident hident,
      Cursor.isPunct_of_isIdent hident ","⟩
    rw [Token.isPunct_of_isPunct hdot]
    rfl
  | generic => exact h.elim

theorem flat_dims {dims : List (Token × Token)} (h : AreDims dims)
    : ∀ t ∈ dimTokens dims, Parameter.nesting t = 0 ∧ t.isPunct "," = false := by
  intro t ht
  obtain ⟨pair, hpair, ht⟩ := List.mem_flatMap.1 ht
  obtain ⟨hopening, hclosing⟩ := h pair hpair
  rcases List.mem_pair.1 ht with rfl | rfl
  · refine ⟨Parameter.nesting_mark hopening, ?_⟩
    rw [Token.isPunct_of_isPunct hopening]
    rfl
  · refine ⟨Parameter.nesting_mark hclosing, ?_⟩
    rw [Token.isPunct_of_isPunct hclosing]
    rfl

theorem WrittenType.cut_tokens {type : WrittenType} (h : type.named.IsOrdinary) (rest : List Token)
    : Parameter.cut 0 (type.tokens ++ rest) = Parameter.prepend type.tokens (Parameter.cut 0 rest)
    := by
  have hfirst : Parameter.nesting type.named.first = 0 ∧ type.named.first.isPunct "," = false :=
    ⟨Parameter.nesting_ident type.named.isIdent_first,
      Cursor.isPunct_of_isIdent type.named.isIdent_first ","⟩
  have hdims := Parameter.cut_flat (flat_dims type.dims_eq) 0 rest
  have hplain : type.named.IsDotted → Parameter.cut 0 (type.tokens ++ rest)
      = Parameter.prepend type.tokens (Parameter.cut 0 rest) := by
    intro hdotted
    apply Parameter.cut_flat
    rw [tokens, List.forall_mem_cons, more, List.forall_mem_append]
    exact ⟨hfirst, NamedType.flat_more hdotted, flat_dims type.dims_eq⟩
  -- Only type arguments hold commas or change the nesting, and they close what they open.
  obtain ⟨named, dims, dims_eq⟩ := type
  cases named with
  | name => exact hplain trivial
  | member outer dot n hdot hident hname hword => exact hplain h
  | generic raw opening arguments closing hopening harguments hclosing =>
    obtain ⟨hraw, hparts⟩ := h
    have hopens : Parameter.nesting opening = 1 := Parameter.nesting_mark hopening
    have hcloses : Parameter.nesting closing = -1 := Parameter.nesting_mark hclosing
    have hcomma : ∀ t : Token, (t = opening ∨ t = closing) → t.isPunct "," = false := by
      rintro t (rfl | rfl)
      · rw [Token.isPunct_of_isPunct hopening]
        rfl
      · rw [Token.isPunct_of_isPunct hclosing]
        rfl
    have htokens : tokens ⟨.generic raw opening arguments closing hopening harguments hclosing,
          dims, dims_eq⟩ ++ rest
        = (raw.first :: raw.more)
          ++ opening :: (arguments ++ closing :: (dimTokens dims ++ rest)) := by
      simp [tokens, more, NamedType.first, NamedType.more, dimTokens]
    have hraw' : ∀ t ∈ raw.first :: raw.more,
        Parameter.nesting t = 0 ∧ t.isPunct "," = false :=
      List.forall_mem_cons.2 ⟨hfirst, NamedType.flat_more hraw⟩
    rw [htokens, Parameter.cut_flat hraw', Parameter.cut_cons (by simp [hcomma opening]), hopens,
      Parameter.cut_angleNested harguments hparts (by decide),
      Parameter.cut_cons (by simp [hcomma closing]), hcloses, Int.zero_add,
      Int.add_right_neg, hdims, Parameter.prepend_prepend, Parameter.prepend_prepend,
      Parameter.prepend_prepend, Parameter.prepend_prepend]
    congr 1
    simp [tokens, more, NamedType.first, NamedType.more, dimTokens]

end DeprecatedUse.Java
