import DeprecatedUse.Java.Outline
import DeprecatedUse.Proofs.Java.Cursor.Groups
import DeprecatedUse.Proofs.Java.Lexemes
import DeprecatedUse.Proofs.Java.Nesting

/-!
This module contains the types that declarations of fields write: names with dots between them, type
arguments behind them and pairs of square brackets. The reader finds where the type ends and reads
its name and its dimensions.
-/

namespace DeprecatedUse.Java

inductive AngleNested : List Token → Prop where
  | nil : AngleNested []
  | other {t : Token} {rest : List Token} (hopening : t.isPunct "<" = false)
    (hclosing : t.isPunct ">" = false) (h : AngleNested rest) : AngleNested (t :: rest)
  | group {opening closing : Token} {inner rest : List Token}
    (hopening : opening.isPunct "<" = true) (hinner : AngleNested inner)
    (hclosing : closing.isPunct ">" = true) (h : AngleNested rest) :
    AngleNested (opening :: (inner ++ closing :: rest))

/--
The name of a type, with packages, enclosing types and type arguments.
-/
inductive NamedType where
  | name (name : Token) (hident : name.isIdent = true) (hname : IsName name.text)
    (hword : name.text ∉ modifierWords)
  | member (outer : NamedType) (dot name : Token) (hdot : dot.isPunct "." = true)
    (hident : name.isIdent = true) (hname : IsName name.text) (hword : name.text ∉ modifierWords)
  | generic (raw : NamedType) (opening : Token) (arguments : List Token) (closing : Token)
    (hopening : opening.isPunct "<" = true) (harguments : AngleNested arguments)
    (hclosing : closing.isPunct ">" = true)

namespace NamedType

def first : NamedType → Token
  | name n _ _ _ => n
  | member outer _ _ _ _ _ _ => outer.first
  | generic raw _ _ _ _ _ _ => raw.first

def more : NamedType → List Token
  | name _ _ _ _ => []
  | member outer dot n _ _ _ _ => outer.more ++ [dot, n]
  | generic raw opening arguments closing _ _ _ =>
    raw.more ++ opening :: (arguments ++ [closing])

def text : NamedType → String
  | name n _ _ _ => n.text
  | member outer _ n _ _ _ _ => outer.text ++ "." ++ n.text
  | generic raw _ _ _ _ _ _ => raw.text

end NamedType

structure WrittenType where
  named : NamedType
  dims : List (Token × Token)
  dims_eq : ∀ pair ∈ dims, pair.1.isPunct "[" = true ∧ pair.2.isPunct "]" = true

namespace WrittenType

def more (type : WrittenType) : List Token :=
  type.named.more ++ type.dims.flatMap fun pair => [pair.1, pair.2]

def tokens (type : WrittenType) : List Token :=
  type.named.first :: type.more

def typeName (type : WrittenType) : TypeName :=
  ⟨type.named.text, type.dims.length⟩

end WrittenType

theorem endsInDot_append (name : String) {n : String} (h : IsName n)
    : endsInDot (name ++ n) = false := by
  have hne : n.toList ≠ [] := by
    rw [ne_eq, String.toList_eq_nil_iff]
    exact h.1
  rw [endsInDot, String.toList_append, List.getLast?_append_of_ne_nil _ hne, beq_eq_false_iff_ne]
  intro hlast
  exact h.2 (List.mem_of_getLast? hlast)

theorem endsInDot_dot (name : String) : endsInDot (name ++ ".") = true := by
  rw [endsInDot, String.toList_append]
  simp

theorem readFrom_angleNested {inner : List Token} (h : AngleNested inner) (angle : Nat)
    (name : String) (dims : Nat) (rest : List Token)
    : TypeName.readFrom (angle + 1) false name dims (inner ++ rest)
        =
      TypeName.readFrom (angle + 1) false name dims rest := by
  induction h generalizing angle rest with
  | nil => rfl
  | @other t inner hopening hclosing h ih =>
    rw [List.cons_append, TypeName.readFrom, if_pos (Nat.succ_pos _), hopening, hclosing]
    exact ih angle rest
  | @group opening closing inner inner' hopening hinner hclosing h ih ih' =>
    have hnot : closing.isPunct "<" = false := by
      rw [Token.isPunct_of_isPunct hclosing]
      rfl
    rw [List.cons_append, List.append_assoc, List.cons_append, TypeName.readFrom,
      if_pos (Nat.succ_pos _), if_pos hopening, ih, TypeName.readFrom, if_pos (Nat.succ_pos _),
      hnot, if_neg Bool.false_ne_true, if_pos hclosing]
    exact ih' angle rest

theorem splitMember_cons (angle : Nat) {t : Token} (rest : List Token)
    (h : angle = 0 → t.isPunctOf ["(", "=", ";", ",", "\x7b", "\x7d"] = false)
    : Reader.splitMember angle (t :: rest)
        =
      let angle' :=
        if t.isPunct "<" then angle + 1 else if t.isPunct ">" then angle - 1 else angle
      (t :: (Reader.splitMember angle' rest).1, (Reader.splitMember angle' rest).2) := by
  rw [Reader.splitMember, if_neg]
  rw [Bool.and_eq_true, decide_eq_true_eq]
  rintro ⟨hangle, hmark⟩
  rw [h hangle] at hmark
  cases hmark

theorem splitMember_angleNested {inner : List Token} (h : AngleNested inner) (angle : Nat)
    (rest : List Token)
    : Reader.splitMember (angle + 1) (inner ++ rest)
        =
      (inner ++ (Reader.splitMember (angle + 1) rest).1, (Reader.splitMember (angle + 1) rest).2)
    := by
  induction h generalizing angle rest with
  | nil => rfl
  | @other t inner hopening hclosing h ih =>
    rw [List.cons_append, splitMember_cons _ _ (fun h => absurd h (Nat.succ_ne_zero _))]
    dsimp only
    rw [hopening, hclosing, if_neg Bool.false_ne_true, if_neg Bool.false_ne_true, ih]
    rfl
  | @group opening closing inner inner' hopening hinner hclosing h ih ih' =>
    have hnot : closing.isPunct "<" = false := by
      rw [Token.isPunct_of_isPunct hclosing]
      rfl
    rw [List.cons_append, List.append_assoc, List.cons_append,
      splitMember_cons _ _ (fun h => absurd h (Nat.succ_ne_zero _)), if_pos hopening]
    dsimp only
    rw [ih, splitMember_cons _ _ (fun h => absurd h (Nat.succ_ne_zero _)), hnot,
      if_neg Bool.false_ne_true, if_pos hclosing]
    dsimp only
    rw [Nat.succ_sub_one, ih']
    simp

theorem splitMember_word {n : Token} (hident : n.isIdent = true) (rest : List Token)
    : Reader.splitMember 0 (n :: rest)
        =
      (n :: (Reader.splitMember 0 rest).1, (Reader.splitMember 0 rest).2) := by
  rw [splitMember_cons 0 rest fun _ => Token.isPunctOf_of_isIdent hident _]
  rw [Cursor.isPunct_of_isIdent hident, Cursor.isPunct_of_isIdent hident]
  rfl

theorem splitMember_mark {t : Token} {mark : String} (h : t.isPunct mark = true)
    (hmark : mark ∈ [".", "[", "]"]) (rest : List Token)
    : Reader.splitMember 0 (t :: rest)
        =
      (t :: (Reader.splitMember 0 rest).1, (Reader.splitMember 0 rest).2) := by
  have hother : ∀ other ∈ ["(", "=", ";", ",", "\x7b", "\x7d", "<", ">"],
      t.isPunct other = false := by
    intro other hmem
    rw [Token.isPunct_of_isPunct h, beq_eq_false_iff_ne]
    rintro rfl
    exact (by decide : ∀ m ∈ [".", "[", "]"],
      m ∉ ["(", "=", ";", ",", "\x7b", "\x7d", "<", ">"]) _ hmark hmem
  have hends : t.isPunctOf ["(", "=", ";", ",", "\x7b", "\x7d"] = false := by
    rw [Token.isPunctOf_of_isPunct h, Bool.eq_false_iff, ne_eq, List.contains_iff_mem]
    exact (by decide : ∀ m ∈ [".", "[", "]"], m ∉ ["(", "=", ";", ",", "\x7b", "\x7d"]) _ hmark
  rw [splitMember_cons 0 rest fun _ => hends, hother "<" (by decide), hother ">" (by decide)]
  rfl

theorem splitMember_arguments {opening closing : Token} {arguments : List Token}
    (hopening : opening.isPunct "<" = true) (harguments : AngleNested arguments)
    (hclosing : closing.isPunct ">" = true) (rest : List Token)
    : Reader.splitMember 0 (opening :: (arguments ++ closing :: rest))
        =
      (opening :: (arguments ++ closing :: (Reader.splitMember 0 rest).1),
        (Reader.splitMember 0 rest).2) := by
  have hends : opening.isPunctOf ["(", "=", ";", ",", "\x7b", "\x7d"] = false := by
    rw [Token.isPunctOf_of_isPunct hopening]
    rfl
  have hnot : closing.isPunct "<" = false := by
    rw [Token.isPunct_of_isPunct hclosing]
    rfl
  rw [splitMember_cons 0 _ fun _ => hends, if_pos hopening]
  dsimp only
  rw [splitMember_angleNested harguments 0,
    splitMember_cons (0 + 1) _ fun h => absurd h (by decide), hnot, if_neg Bool.false_ne_true,
    if_pos hclosing]

namespace NamedType

theorem isIdent_first (type : NamedType) : type.first.isIdent = true := by
  induction type with
  | name n hident hname hword => exact hident
  | member outer dot n hdot hident hname hword ih => exact ih
  | generic raw opening arguments closing hopening harguments hclosing ih => exact ih

theorem first_not_modifier (type : NamedType) : type.first.text ∉ modifierWords := by
  induction type with
  | name n hident hname hword => exact hword
  | member outer dot n hdot hident hname hword ih => exact ih
  | generic raw opening arguments closing hopening harguments hclosing ih => exact ih

theorem endsInDot_text (type : NamedType) : endsInDot type.text = false := by
  induction type with
  | name n hident hname hword =>
    have h := endsInDot_append "" hname
    rw [String.empty_append] at h
    exact h
  | member outer dot n hdot hident hname hword ih => exact endsInDot_append _ hname
  | generic raw opening arguments closing hopening harguments hclosing ih => exact ih

theorem text_ne (type : NamedType) : type.text ≠ "" := by
  induction type with
  | name n hident hname hword => exact hname.1
  | member outer dot n hdot hident hname hword ih =>
    intro h
    rw [text, String.append_eq_empty_iff] at h
    exact hname.1 h.2
  | generic raw opening arguments closing hopening harguments hclosing ih => exact ih

theorem readFrom_word {n : Token} {name : String} (hident : n.isIdent = true)
    (hword : n.text ∉ modifierWords) (hname : name = "" ∨ endsInDot name = true) (dims : Nat)
    (rest : List Token)
    : TypeName.readFrom 0 false name dims (n :: rest)
        =
      TypeName.readFrom 0 false (name ++ n.text) dims rest := by
  have hnot : modifierWords.contains n.text = false := by
    rw [Bool.eq_false_iff, ne_eq, List.contains_iff_mem]
    exact hword
  have hopen : ¬ (decide (name ≠ "") && !endsInDot name) = true := by
    rcases hname with rfl | hname
    · simp
    · simp [hname]
  rw [TypeName.readFrom, if_neg (Nat.lt_irrefl 0), if_pos hident, hnot, Bool.or_false,
    if_neg Bool.false_ne_true, if_neg hopen]

theorem readFrom_dot {dot : Token} (hdot : dot.isPunct "." = true) (name : String) (dims : Nat)
    (rest : List Token)
    : TypeName.readFrom 0 false name dims (dot :: rest)
        =
      TypeName.readFrom 0 false (name ++ ".") dims rest := by
  have hmark : ∀ mark, mark ≠ "." → dot.isPunct mark = false := by
    intro mark hmark
    rw [Token.isPunct_of_isPunct hdot, beq_eq_false_iff_ne]
    exact hmark.symm
  rw [TypeName.readFrom, if_neg (Nat.lt_irrefl 0), Token.isIdent_of_isPunct hdot,
    hmark "<" (by decide), hmark "@" (by decide), hdot]
  rfl

theorem readFrom_arguments {opening closing : Token} {arguments : List Token}
    (hopening : opening.isPunct "<" = true) (harguments : AngleNested arguments)
    (hclosing : closing.isPunct ">" = true) (name : String) (dims : Nat) (rest : List Token)
    : TypeName.readFrom 0 false name dims (opening :: (arguments ++ closing :: rest))
        =
      TypeName.readFrom 0 false name dims rest := by
  have hnot : closing.isPunct "<" = false := by
    rw [Token.isPunct_of_isPunct hclosing]
    rfl
  rw [TypeName.readFrom, if_neg (Nat.lt_irrefl 0), Token.isIdent_of_isPunct hopening,
    if_neg Bool.false_ne_true, if_pos hopening, readFrom_angleNested harguments 0,
    TypeName.readFrom, if_pos Nat.zero_lt_one, hnot, if_neg Bool.false_ne_true, if_pos hclosing]

theorem readFrom_tokens (type : NamedType) (rest : List Token)
    : TypeName.readFrom 0 false "" 0 (type.first :: (type.more ++ rest))
        =
      TypeName.readFrom 0 false type.text 0 rest := by
  induction type generalizing rest with
  | name n hident hname hword =>
    rw [first, more, List.nil_append, readFrom_word hident hword (.inl rfl), String.empty_append,
      text]
  | member outer dot n hdot hident hname hword ih =>
    rw [first, more, List.append_assoc, ih, List.cons_append, readFrom_dot hdot,
      List.cons_append, readFrom_word hident hword (.inr (endsInDot_dot _)), text]
    rfl
  | generic raw opening arguments closing hopening harguments hclosing ih =>
    rw [first, more, List.append_assoc, ih, List.cons_append, List.append_assoc,
      List.singleton_append, readFrom_arguments hopening harguments hclosing, text]

theorem splitMember_tokens (type : NamedType) (rest : List Token)
    : Reader.splitMember 0 (type.first :: (type.more ++ rest))
        =
      (type.first :: (type.more ++ (Reader.splitMember 0 rest).1), (Reader.splitMember 0 rest).2)
    := by
  induction type generalizing rest with
  | name n hident hname hword =>
    rw [first, more, List.nil_append, splitMember_word hident]
    rfl
  | member outer dot n hdot hident hname hword ih =>
    rw [first, more, List.append_assoc, ih, List.cons_append, List.cons_append, List.nil_append,
      splitMember_mark hdot (by decide), splitMember_word hident, List.append_assoc]
    rfl
  | generic raw opening arguments closing hopening harguments hclosing ih =>
    rw [first, more, List.append_assoc, ih, List.cons_append, List.append_assoc,
      List.singleton_append, splitMember_arguments hopening harguments hclosing]
    simp

theorem more_cons (type : NamedType) {t : Token} {rest : List Token} (h : type.more = t :: rest)
    : t.isIdent = false := by
  induction type generalizing t rest with
  | name => cases h
  | member outer dot n hdot hident hname hword ih =>
    cases houter : outer.more with
    | nil =>
      rw [more, houter, List.nil_append, List.cons.injEq] at h
      rw [← h.1]
      exact Token.isIdent_of_isPunct hdot
    | cons u rest' =>
      rw [more, houter, List.cons_append, List.cons.injEq] at h
      rw [← h.1]
      exact ih houter
  | generic raw opening arguments closing hopening harguments hclosing ih =>
    cases hraw : raw.more with
    | nil =>
      rw [more, hraw, List.nil_append, List.cons.injEq] at h
      rw [← h.1]
      exact Token.isIdent_of_isPunct hopening
    | cons u rest' =>
      rw [more, hraw, List.cons_append, List.cons.injEq] at h
      rw [← h.1]
      exact ih hraw

end NamedType

namespace WrittenType

theorem readFrom_bracket {t : Token} {mark : String} (ht : t.isPunct mark = true)
    (hmark : mark = "[" ∨ mark = "]") (name : String) (dims : Nat) (rest : List Token)
    : TypeName.readFrom 0 false name dims (t :: rest)
        =
      TypeName.readFrom 0 false name (if mark = "[" then dims + 1 else dims) rest := by
  rw [TypeName.readFrom, if_neg (Nat.lt_irrefl 0), Token.isIdent_of_isPunct ht,
    Token.isPunct_of_isPunct ht, Token.isPunct_of_isPunct ht, Token.isPunct_of_isPunct ht,
    Token.isPunct_of_isPunct ht, Token.isPunctOf_of_isPunct ht]
  rcases hmark with rfl | rfl
  · rfl
  · rfl

theorem readFrom_dims {dims : List (Token × Token)}
    (hdims : ∀ pair ∈ dims, pair.1.isPunct "[" = true ∧ pair.2.isPunct "]" = true)
    (name : String) (n : Nat)
    : TypeName.readFrom 0 false name n (dims.flatMap fun pair => [pair.1, pair.2])
        =
      TypeName.readFrom 0 false name (n + dims.length) [] := by
  induction dims generalizing n with
  | nil => rfl
  | cons pair dims ih =>
    obtain ⟨hopening, hclosing⟩ := hdims pair List.mem_cons_self
    rw [List.flatMap_cons, List.cons_append, List.singleton_append,
      readFrom_bracket hopening (.inl rfl), if_pos rfl, readFrom_bracket hclosing (.inr rfl),
      if_neg (by decide), ih fun p hp => hdims p (List.mem_cons_of_mem _ hp), List.length_cons,
      Nat.add_right_comm, Nat.add_assoc]

theorem read?_tokens (type : WrittenType) : TypeName.read? type.tokens = some type.typeName := by
  rw [TypeName.read?, tokens, more, NamedType.readFrom_tokens, readFrom_dims type.dims_eq,
    Nat.zero_add, TypeName.readFrom, type.named.endsInDot_text, if_neg]
  · rfl
  · simp [type.named.text_ne]

theorem splitMember_tokens (type : WrittenType) (rest : List Token)
    : Reader.splitMember 0 (type.tokens ++ rest)
        =
      (type.tokens ++ (Reader.splitMember 0 rest).1, (Reader.splitMember 0 rest).2) := by
  have hdims : ∀ {dims : List (Token × Token)},
      (∀ pair ∈ dims, pair.1.isPunct "[" = true ∧ pair.2.isPunct "]" = true) →
        Reader.splitMember 0
            ((dims.flatMap fun pair => [pair.1, pair.2]) ++ rest)
          = ((dims.flatMap fun pair => [pair.1, pair.2])
              ++ (Reader.splitMember 0 rest).1,
            (Reader.splitMember 0 rest).2) := by
    intro dims hdims
    induction dims with
    | nil => rfl
    | cons pair dims ih =>
      obtain ⟨hopening, hclosing⟩ := hdims pair List.mem_cons_self
      rw [List.flatMap_cons, List.append_assoc, List.cons_append, List.cons_append,
        List.nil_append, splitMember_mark hopening (by decide),
        splitMember_mark hclosing (by decide), ih fun p hp => hdims p (List.mem_cons_of_mem _ hp)]
      rfl
  rw [tokens, more, List.cons_append, List.append_assoc, NamedType.splitMember_tokens,
    hdims type.dims_eq]
  simp

theorem typeStart?_tokens {type : WrittenType}
    (hstart : type.more = [] → Reader.typeKind? type.named.first = none) (rest : List Token)
    : Reader.typeStart? (type.tokens ++ rest) = none := by
  have hsign : type.named.first.isPunct "@" = false :=
    Cursor.isPunct_of_isIdent type.named.isIdent_first "@"
  cases hmore : type.more with
  | nil =>
    rw [tokens, hmore]
    cases rest with
    | nil => rfl
    | cons t rest =>
      rw [List.singleton_append, Reader.typeStart?, hstart hmore, hsign]
      rfl
  | cons t more =>
    have hident : t.isIdent = false := by
      rw [WrittenType.more] at hmore
      cases hnamed : type.named.more with
      | nil =>
        rw [hnamed, List.nil_append] at hmore
        cases hdims : type.dims with
        | nil =>
          rw [hdims] at hmore
          cases hmore
        | cons pair dims =>
          rw [hdims, List.flatMap_cons, List.cons_append, List.cons.injEq] at hmore
          rw [← hmore.1]
          exact Token.isIdent_of_isPunct
            (type.dims_eq pair (by rw [hdims]; exact List.mem_cons_self)).1
      | cons u named =>
        rw [hnamed, List.cons_append, List.cons.injEq] at hmore
        rw [← hmore.1]
        exact type.named.more_cons hnamed
    rw [tokens, hmore, List.cons_append, List.cons_append, Reader.typeStart?, hsign]
    split
    · rw [hident]
      rfl
    · rfl

end WrittenType

end DeprecatedUse.Java
