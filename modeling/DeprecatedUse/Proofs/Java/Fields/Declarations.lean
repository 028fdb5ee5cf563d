import DeprecatedUse.Java.SourceUnit
import DeprecatedUse.Proofs.Java.Extension
import DeprecatedUse.Proofs.Java.Fields.Types
import DeprecatedUse.Proofs.Java.Passing

/-!
This module contains the reading of declarations of fields: a type, declarators with or without
initializers, and a semicolon. The declared fields and the initializers are read exactly if each
comma of an initializer stands inside round, square or curly brackets.
-/

namespace DeprecatedUse.Java

/-! Expressions. -/

def EnclosedIn (stack tokens : List Token) : Prop :=
  ∀ x t y, tokens = x ++ t :: y → t.isPunctOf [",", ";"] = true → nest? stack x ≠ some []

/--
Each comma and each semicolon stands inside round, square or curly brackets.
-/
def Enclosed (tokens : List Token) : Prop :=
  EnclosedIn [] tokens

theorem enclosedIn_cons {stack rest : List Token} {t : Token}
    : EnclosedIn stack (t :: rest)
        ↔
      (t.isPunctOf [",", ";"] = true → stack ≠ [])
        ∧ ∀ next, nestStep stack t = some next → EnclosedIn next rest := by
  constructor
  · intro h
    constructor
    · rintro ht rfl
      exact h [] t rest rfl ht rfl
    · intro next hnext x t' y hrest ht'
      have hx := h (t :: x) t' y (by rw [hrest]; rfl) ht'
      rw [nest?_cons, hnext] at hx
      exact hx
  · rintro ⟨hfirst, hrest⟩ x t' y heq ht' hx
    cases x with
    | nil =>
      rw [List.nil_append, List.cons.injEq] at heq
      rw [heq.1] at hfirst
      rw [nest?, List.foldlM_nil, Option.pure_def, Option.some.injEq] at hx
      exact hfirst ht' hx
    | cons u x =>
      rw [List.cons_append, List.cons.injEq] at heq
      obtain ⟨rfl, heq⟩ := heq
      rw [nest?_cons, Option.bind_eq_some_iff] at hx
      obtain ⟨next, hnext, hx⟩ := hx
      exact hrest next hnext x t' y heq ht' hx

theorem splitExpression_cons {stack next : List Token} {t : Token}
    (hstep : nestStep stack t = some next)
    (hinside : t.isPunctOf [",", ";"] = true → stack ≠ []) (rest : List Token)
    : splitExpression stack.length (t :: rest)
        =
      (t :: (splitExpression next.length rest).1, (splitExpression next.length rest).2) := by
  rw [splitExpression, Token.isPunctOf_opening, Token.isPunctOf_closing]
  by_cases hopening : t.isOpening = true
  · unfold nestStep at hstep
    rw [if_pos hopening, Option.some.injEq] at hstep
    rw [if_pos hopening, ← hstep]
    rfl
  · rw [if_neg hopening]
    rw [Bool.not_eq_true] at hopening
    by_cases hclosing : t.isClosing = true
    · obtain ⟨last, -, rfl⟩ := nestStep_closing hclosing hstep
      rw [if_neg (by simp), if_pos hclosing]
      rfl
    · have hmarks : t.isPunctOf [")", "]", "\x7d", ",", ";"] = t.isPunctOf [",", ";"] := by
        rw [Bool.not_eq_true] at hclosing
        have happend := Cursor.isPunctOf_append t [")", "]", "\x7d"] [",", ";"]
        rw [Token.isPunctOf_closing, hclosing, Bool.false_or] at happend
        exact happend
      rw [Bool.not_eq_true] at hclosing
      rw [nestStep_other hopening hclosing, Option.some.injEq] at hstep
      subst hstep
      -- A comma or semicolon ends the expression only where no bracket is open.
      have hgoes : ¬ (decide (stack.length = 0)
          && t.isPunctOf [")", "]", "\x7d", ",", ";"]) = true := by
        rw [Bool.and_eq_true, decide_eq_true_eq, List.length_eq_zero_iff, hmarks]
        exact fun h => hinside h.2 h.1
      rw [if_neg hgoes, hclosing, if_neg Bool.false_ne_true]

theorem splitExpression_stop {stop : Token} (hstop : stop.isPunctOf [",", ";"] = true)
    (rest : List Token) : splitExpression 0 (stop :: rest) = ([], stop :: rest) := by
  have hopening : stop.isPunctOf ["(", "[", "\x7b"] = false := by
    rw [Token.isPunctOf, Bool.and_eq_true, List.contains_iff_mem] at hstop
    rw [Token.isPunctOf, hstop.1, Bool.true_and, Bool.eq_false_iff, ne_eq, List.contains_iff_mem]
    exact (by decide : ∀ mark ∈ [",", ";"], mark ∉ ["(", "[", "\x7b"]) _ hstop.2
  rw [splitExpression, hopening, Token.isPunctOf_mono hstop (by decide)]
  rfl

theorem splitExpression_enclosed {stack tokens : List Token} {stop : Token}
    (hnest : nest? stack tokens = some []) (henclosed : EnclosedIn stack tokens)
    (hstop : stop.isPunctOf [",", ";"] = true) (rest : List Token)
    : splitExpression stack.length (tokens ++ stop :: rest) = (tokens, stop :: rest) := by
  induction tokens generalizing stack with
  | nil =>
    rw [nest?, List.foldlM_nil, Option.pure_def, Option.some.injEq] at hnest
    rw [hnest]
    exact splitExpression_stop hstop rest
  | cons t tokens ih =>
    rw [nest?_cons, Option.bind_eq_some_iff] at hnest
    obtain ⟨next, hstep, hnest⟩ := hnest
    obtain ⟨hinside, henclosed⟩ := enclosedIn_cons.1 henclosed
    rw [List.cons_append, splitExpression_cons hstep hinside,
      ih hnest (henclosed next hstep)]

theorem splitExpression_not_enclosed {stack tokens : List Token} (rest : List Token)
    (hnest : nest? stack tokens = some []) (hnot : ¬ EnclosedIn stack tokens)
    : (splitExpression stack.length (tokens ++ rest)).1.length < tokens.length := by
  induction tokens generalizing stack with
  | nil =>
    refine absurd ?_ hnot
    intro x t y heq
    simp at heq
  | cons t tokens ih =>
    rw [nest?_cons, Option.bind_eq_some_iff] at hnest
    obtain ⟨next, hstep, hnest⟩ := hnest
    by_cases hinside : t.isPunctOf [",", ";"] = true → stack ≠ []
    · have hnext : ¬ EnclosedIn next tokens := by
        intro h
        refine hnot (enclosedIn_cons.2 ⟨hinside, ?_⟩)
        intro next' hstep'
        rw [hstep, Option.some.injEq] at hstep'
        rw [← hstep']
        exact h
      rw [List.cons_append, splitExpression_cons hstep hinside, List.length_cons, List.length_cons]
      exact Nat.succ_lt_succ (ih hnest hnext)
    · -- The comma or semicolon stands outside of all brackets, so the expression ends before it.
      rw [Classical.not_imp, ne_eq, not_not] at hinside
      rw [hinside.2, List.cons_append]
      rw [List.length_nil, splitExpression_stop hinside.1]
      exact Nat.succ_pos _

theorem enclosed_of_splitExpression {tokens : List Token} (hnested : Nested tokens)
    (h : (splitExpression 0 tokens).1.length = tokens.length) : Enclosed tokens := by
  by_contra hnot
  have hlength := splitExpression_not_enclosed [] hnested hnot
  rw [List.length_nil, List.append_nil, h] at hlength
  exact Nat.lt_irrefl _ hlength

/-! Declarators. -/

structure Declarator where
  name : Token
  dims : List Token
  initializer : Option (Token × List Token)
  name_eq : name.isIdent = true
  dims_eq : ∀ t ∈ dims, Reader.isDimension t = true
  initializer_eq : ∀ i ∈ initializer, i.1.isPunct "=" = true ∧ Nested i.2

namespace Declarator

def value (d : Declarator) : List Token :=
  match d.initializer with
  | none => []
  | some (equals, expression) => equals :: expression

def tokens (d : Declarator) : List Token :=
  d.name :: (d.dims ++ d.value)

def bodies (owner : Nat) (d : Declarator) : List Body :=
  match d.initializer with
  | none => []
  | some (_, expression) => [{ owner := owner, tokens := expression }]

def IsEnclosed (d : Declarator) : Prop :=
  ∀ i ∈ d.initializer, Enclosed i.2

end Declarator

def Outline.add (o : Outline) (owner : Nat) (members : List MemberDecl) (bodies : List Body) :
    Outline :=
  { o with
    entries := o.entries.modify owner fun e =>
      { e with decl := { e.decl with members := e.decl.members ++ members } }
    bodies := o.bodies ++ bodies }

theorem Outline.addMember_eq (o : Outline) (owner : Nat) (m : MemberDecl)
    : o.addMember owner m = o.add owner [m] [] := by
  rw [add, List.append_nil]
  rfl

theorem Outline.add_add (o : Outline) (owner : Nat) (members members' : List MemberDecl)
    (bodies bodies' : List Body)
    : (o.add owner members bodies).add owner members' bodies'
        =
      o.add owner (members ++ members') (bodies ++ bodies') := by
  simp only [add, List.modify_modify_eq, Function.comp_def, List.append_assoc]

theorem Outline.add_entry {o : Outline} {owner : Nat} {e : Entry}
    (h : o.entries[owner]? = some e) (members : List MemberDecl) (bodies : List Body)
    : (o.add owner members bodies).entries[owner]?
        =
      some { e with decl := { e.decl with members := e.decl.members ++ members } } := by
  rw [add]
  dsimp only
  rw [List.getElem?_modify, h]
  simp

theorem Outline.add_nil_left (o : Outline) (owner : Nat) (bodies : List Body)
    : o.add owner [] bodies = { o with bodies := o.bodies ++ bodies } := by
  have hid : (fun e : Entry => { e with decl := { e.decl with members := e.decl.members ++ [] } })
      = id := by
    funext e
    rw [List.append_nil]
    rfl
  rw [add, hid, List.modify_id]

theorem Outline.addBody_eq (o : Outline) (owner : Nat) (body : Body)
    : o.addBody body = o.add owner [] [body] := by
  rw [add_nil_left]
  rfl

theorem Outline.add_nil (o : Outline) (owner : Nat) : o.add owner [] [] = o := by
  rw [add_nil_left, List.append_nil]

namespace Reader

variable {o : Outline} {owner : Nat} {field : Token → MemberDecl}

theorem dropWhile_dims {dims tokens : List Token} (hdims : ∀ t ∈ dims, isDimension t = true)
    (htokens : starts isDimension tokens = false)
    : (dims ++ tokens).dropWhile isDimension = tokens := by
  rw [List.dropWhile_append_of_pos hdims]
  cases tokens with
  | nil => rfl
  | cons t tokens =>
    rw [starts] at htokens
    rw [List.dropWhile_cons_of_neg (by rw [htokens]; exact Bool.false_ne_true)]

theorem declarators_value {d : Declarator} (h : d.IsEnclosed) {stop : Token}
    (hstop : stop.isPunctOf [",", ";"] = true) (rest : List Token)
    : declarators owner field o (d.value ++ stop :: rest)
        =
      declarators owner field (o.add owner [] (d.bodies owner)) (stop :: rest) := by
  unfold Declarator.value Declarator.bodies
  cases hinitializer : d.initializer with
  | none =>
    dsimp only
    rw [Outline.add_nil, List.nil_append]
  | some i =>
    obtain ⟨equals, expression⟩ := i
    obtain ⟨hequals, hnested⟩ := d.initializer_eq _ hinitializer
    have hsplit := splitExpression_enclosed hnested (h _ hinitializer) hstop rest
    rw [List.length_nil] at hsplit
    dsimp only at hequals hsplit ⊢
    rw [List.cons_append, declarators.eq_def]
    dsimp only
    rw [if_pos hequals, hsplit, Outline.addBody_eq o owner]

theorem declarators_not_enclosed (owner : Nat) (field : Token → MemberDecl) (o : Outline)
    {d : Declarator} (h : ¬ d.IsEnclosed) (tokens : List Token)
    : ∃ equals expression taken, d.initializer = some (equals, expression) ∧ taken ≠ expression
        ∧ (o.addBody { owner := owner, tokens := taken }).Extends
          (declarators owner field o (d.value ++ tokens)).1 := by
  unfold Declarator.IsEnclosed at h
  unfold Declarator.value
  cases hinitializer : d.initializer with
  | none =>
    refine absurd ?_ h
    intro i hi
    rw [hinitializer] at hi
    cases hi
  | some i =>
    obtain ⟨equals, expression⟩ := i
    obtain ⟨hequals, hnested⟩ := d.initializer_eq _ hinitializer
    have hnot : ¬ EnclosedIn [] expression := by
      intro henclosed
      refine h ?_
      intro i hi
      rw [hinitializer, Option.mem_def, Option.some.injEq] at hi
      rw [← hi]
      exact henclosed
    have hlength := splitExpression_not_enclosed tokens hnested hnot
    refine ⟨equals, expression, (splitExpression 0 (expression ++ tokens)).1, rfl, ?_, ?_⟩
    · intro heq
      rw [List.length_nil, heq] at hlength
      exact Nat.lt_irrefl _ hlength
    · dsimp only at hequals ⊢
      rw [List.cons_append, declarators.eq_def]
      dsimp only
      rw [if_pos hequals]
      exact declarators_extends _ _ _

theorem declarators_comma {comma : Token} (hcomma : comma.isPunct "," = true) (d : Declarator)
    {tokens : List Token} (htokens : starts isDimension (d.value ++ tokens) = false)
    : declarators owner field o (comma :: (d.tokens ++ tokens))
        =
      declarators owner field (o.add owner [field d.name] []) (d.value ++ tokens) := by
  have hequals : comma.isPunct "=" = false := by
    rw [Token.isPunct_of_isPunct hcomma]
    rfl
  rw [Declarator.tokens, List.cons_append, List.append_assoc, declarators.eq_def]
  dsimp only
  rw [hequals, if_neg Bool.false_ne_true, if_pos hcomma, if_pos d.name_eq,
    dropWhile_dims d.dims_eq htokens, Outline.addMember_eq]

theorem declarators_stop {stop : Token} (hstop : stop.isPunct ";" = true) (rest : List Token)
    : declarators owner field o (stop :: rest) = (o, rest) := by
  have hother : ∀ mark, mark ≠ ";" → stop.isPunct mark = false := by
    intro mark hmark
    rw [Token.isPunct_of_isPunct hstop, beq_eq_false_iff_ne]
    exact hmark.symm
  rw [declarators.eq_def]
  dsimp only
  rw [hother "=" (by decide), hother "," (by decide), hstop]
  rfl

end Reader

/-! Declarations. -/

/--
A declaration of fields: a type, declarators with commas between them, and a semicolon.
-/
structure FieldDeclaration where
  type : WrittenType
  first : Declarator
  more : List (Token × Declarator)
  stop : Token
  type_eq : type.more = [] → Reader.typeKind? type.named.first = none
  more_eq : ∀ next ∈ more, next.1.isPunct "," = true
  stop_eq : stop.isPunct ";" = true

namespace FieldDeclaration

def listTokens (more : List (Token × Declarator)) (stop : Token) : List Token :=
  more.flatMap (fun next => next.1 :: next.2.tokens) ++ [stop]

def tokens (f : FieldDeclaration) : List Token :=
  f.type.tokens ++ (f.first.tokens ++ listTokens f.more f.stop)

def declarators (f : FieldDeclaration) : List Declarator :=
  f.first :: f.more.map Prod.snd

def field (f : FieldDeclaration) (m : Modifiers) (name : Token) : MemberDecl :=
  { name := name.text, kind := .field, type := some f.type.typeName,
    deprecation := m.deprecation?, span := name.span }

def fields (f : FieldDeclaration) (m : Modifiers) : List MemberDecl :=
  f.declarators.map fun d => f.field m d.name

def bodies (f : FieldDeclaration) (owner : Nat) : List Body :=
  f.declarators.flatMap (Declarator.bodies owner)

section List

variable {more : List (Token × Declarator)} {stop : Token}

theorem listTokens_nil (stop : Token) (rest : List Token)
    : listTokens [] stop ++ rest = stop :: rest :=
  rfl

theorem listTokens_cons (next : Token × Declarator) (more : List (Token × Declarator))
    (stop : Token) (rest : List Token)
    : listTokens (next :: more) stop ++ rest
        =
      next.1 :: (next.2.tokens ++ (listTokens more stop ++ rest)) := by
  simp [listTokens]

theorem listTokens_head (hmore : ∀ next ∈ more, next.1.isPunct "," = true)
    (hstop : stop.isPunct ";" = true) (rest : List Token)
    : ∃ t tokens, listTokens more stop ++ rest = t :: tokens
        ∧ t.isPunctOf [",", ";"] = true := by
  cases more with
  | nil =>
    refine ⟨stop, rest, rfl, ?_⟩
    rw [Token.isPunctOf_of_isPunct hstop]
    rfl
  | cons next more =>
    refine ⟨_, _, listTokens_cons next more stop rest, ?_⟩
    rw [Token.isPunctOf_of_isPunct (hmore next List.mem_cons_self)]
    rfl

theorem value_head (hmore : ∀ next ∈ more, next.1.isPunct "," = true)
    (hstop : stop.isPunct ";" = true) (d : Declarator) (rest : List Token)
    : ∃ t tokens, d.value ++ (listTokens more stop ++ rest) = t :: tokens
        ∧ t.isPunctOf ["=", ",", ";"] = true := by
  unfold Declarator.value
  cases hinitializer : d.initializer with
  | none =>
    obtain ⟨t, tokens, htokens, ht⟩ := listTokens_head hmore hstop rest
    exact ⟨t, tokens, htokens, Token.isPunctOf_mono ht (by simp)⟩
  | some i =>
    refine ⟨i.1, _, rfl, ?_⟩
    rw [Token.isPunctOf_of_isPunct (d.initializer_eq i hinitializer).1]
    rfl

theorem starts_isDimension (hmore : ∀ next ∈ more, next.1.isPunct "," = true)
    (hstop : stop.isPunct ";" = true) (d : Declarator) (rest : List Token)
    : Reader.starts Reader.isDimension (d.value ++ (listTokens more stop ++ rest)) = false := by
  obtain ⟨t, tokens, htokens, ht⟩ := value_head hmore hstop d rest
  rw [Token.isPunctOf, Bool.and_eq_true, List.contains_iff_mem] at ht
  rw [htokens, Reader.starts, Reader.isDimension, Token.isPunctOf, ht.1, Bool.true_and,
    Bool.eq_false_iff, ne_eq, List.contains_iff_mem]
  exact (by decide : ∀ mark ∈ ["=", ",", ";"], mark ∉ ["[", "]"]) _ ht.2

variable {o : Outline} {owner : Nat} {field : Token → MemberDecl}

theorem declarators_list (hmore : ∀ next ∈ more, next.1.isPunct "," = true)
    (hstop : stop.isPunct ";" = true) (d : Declarator)
    (h : ∀ d' ∈ d :: more.map Prod.snd, d'.IsEnclosed) (rest : List Token)
    : Reader.declarators owner field o (d.value ++ (listTokens more stop ++ rest))
        =
      (o.add owner (more.map fun next => field next.2.name)
          ((d :: more.map Prod.snd).flatMap (Declarator.bodies owner)),
        rest) := by
  induction more generalizing d o with
  | nil =>
    have hstop' : stop.isPunctOf [",", ";"] = true := by
      rw [Token.isPunctOf_of_isPunct hstop]
      rfl
    rw [listTokens_nil, Reader.declarators_value (h d List.mem_cons_self) hstop',
      Reader.declarators_stop hstop]
    simp
  | cons next more ih =>
    have hcomma := hmore next List.mem_cons_self
    have hmore' : ∀ next' ∈ more, next'.1.isPunct "," = true := fun next' hnext' =>
      hmore next' (List.mem_cons_of_mem _ hnext')
    have hcomma' : next.1.isPunctOf [",", ";"] = true := by
      rw [Token.isPunctOf_of_isPunct hcomma]
      rfl
    rw [listTokens_cons, Reader.declarators_value (h d List.mem_cons_self) hcomma',
      Reader.declarators_comma hcomma _ (starts_isDimension hmore' hstop _ _),
      ih hmore' _ fun d' hd' => h d' (List.mem_cons_of_mem _ hd'), Outline.add_add,
      Outline.add_add]
    simp

theorem not_prefix_value {d : Declarator} (h : ¬ d.IsEnclosed) {tokens : List Token}
    {found : List Body}
    (hfound : (Reader.declarators owner field o (d.value ++ tokens)).1.bodies <+: found)
    (later : List Body) : ¬ o.bodies ++ (d.bodies owner ++ later) <+: found := by
  obtain ⟨equals, expression, taken, hinitializer, hne, hextends⟩ :=
    Reader.declarators_not_enclosed owner field o h tokens
  obtain ⟨found', hfound'⟩ := hextends.bodies.trans hfound
  rintro ⟨found'', hfound⟩
  rw [Outline.addBody, ← hfound, List.append_assoc, List.append_assoc,
    List.append_cancel_left_eq, Declarator.bodies, hinitializer] at hfound'
  rw [List.cons_append, List.nil_append, List.cons_append, List.cons_append, List.nil_append,
    List.cons.injEq, Body.mk.injEq] at hfound'
  exact hne hfound'.1.2.2

theorem not_prefix_declarators (hmore : ∀ next ∈ more, next.1.isPunct "," = true)
    (hstop : stop.isPunct ";" = true) {d : Declarator}
    (h : ¬ ∀ d' ∈ d :: more.map Prod.snd, d'.IsEnclosed) {rest : List Token} {found : List Body}
    (hfound : (Reader.declarators owner field o
      (d.value ++ (listTokens more stop ++ rest))).1.bodies <+: found)
    : ¬ o.bodies ++ (d :: more.map Prod.snd).flatMap (Declarator.bodies owner) <+: found := by
  induction more generalizing d o with
  | nil =>
    rw [List.map_nil, List.forall_mem_singleton] at h
    rw [List.map_nil, List.flatMap_cons]
    exact not_prefix_value h hfound _
  | cons next more ih =>
    by_cases hd : d.IsEnclosed
    · have hcomma := hmore next List.mem_cons_self
      have hmore' : ∀ next' ∈ more, next'.1.isPunct "," = true := fun next' hnext' =>
        hmore next' (List.mem_cons_of_mem _ hnext')
      have hcomma' : next.1.isPunctOf [",", ";"] = true := by
        rw [Token.isPunctOf_of_isPunct hcomma]
        rfl
      rw [List.map_cons, List.forall_mem_cons, not_and] at h
      rw [listTokens_cons, Reader.declarators_value hd hcomma',
        Reader.declarators_comma hcomma _ (starts_isDimension hmore' hstop _ _)] at hfound
      have hlater := ih hmore' (h hd) hfound
      have hbodies : ((o.add owner [] (d.bodies owner)).add owner [field next.2.name] []).bodies
          = o.bodies ++ d.bodies owner := by
        simp [Outline.add]
      rw [hbodies, List.append_assoc] at hlater
      exact hlater
    · rw [List.flatMap_cons]
      exact not_prefix_value hd hfound _

end List

/-! The reading of a declaration. -/

theorem splitMember_stop {t : Token} (ht : t.isPunctOf ["=", ",", ";"] = true)
    (rest : List Token) : Reader.splitMember 0 (t :: rest) = ([], t :: rest) := by
  rw [Reader.splitMember, Token.isPunctOf_mono ht (by decide)]
  rfl

theorem splitMember_dims {dims : List Token} (hdims : ∀ t ∈ dims, Reader.isDimension t = true)
    (rest : List Token)
    : Reader.splitMember 0 (dims ++ rest)
        =
      (dims ++ (Reader.splitMember 0 rest).1, (Reader.splitMember 0 rest).2) := by
  induction dims with
  | nil => rfl
  | cons t dims ih =>
    have ht := hdims t List.mem_cons_self
    rw [Reader.isDimension, Token.isPunctOf, Bool.and_eq_true, beq_iff_eq,
      List.contains_iff_mem] at ht
    have hpunct : t.isPunct t.text = true := Token.isPunct_iff.2 ⟨ht.1, rfl⟩
    rw [List.cons_append, splitMember_mark hpunct (List.mem_cons_of_mem _ ht.2),
      ih fun t' ht' => hdims t' (List.mem_cons_of_mem _ ht')]
    rfl

theorem lastIdent?_dims {dims : List Token} (hdims : ∀ t ∈ dims, Reader.isDimension t = true)
    {name : Token} (hname : name.isIdent = true) (type : List Token)
    : Reader.lastIdent? (type ++ name :: dims) = some (type, name) := by
  have hnot : ∀ t ∈ dims.reverse, (!t.isIdent) = true := by
    intro t ht
    have hdim := hdims t (List.mem_reverse.1 ht)
    rw [Reader.isDimension, Token.isPunctOf, Bool.and_eq_true, beq_iff_eq] at hdim
    rw [Token.isIdent, hdim.1]
    rfl
  have hreverse : (type ++ name :: dims).reverse = dims.reverse ++ name :: type.reverse := by
    simp
  rw [Reader.lastIdent?, hreverse, List.dropWhile_append_of_pos hnot,
    List.dropWhile_cons_of_neg (by rw [hname]; exact Bool.false_ne_true)]
  dsimp only
  rw [List.reverse_reverse]

theorem member_tokens (f : FieldDeclaration) (o : Outline) (owner : Nat) (m : Modifiers)
    (rest : List Token)
    : Reader.member o owner m (f.tokens ++ rest)
        =
      Reader.declarators owner (f.field m) (o.add owner [f.field m f.first.name] [])
        (f.first.value ++ (listTokens f.more f.stop ++ rest)) := by
  obtain ⟨mark, after, hmark, hstops⟩ := value_head f.more_eq f.stop_eq f.first rest
  have hangle : Bracket.angle.group? (f.tokens ++ rest) = (none, f.tokens ++ rest) := by
    have hname : ¬ f.type.named.first.isPunct Bracket.angle.opening = true := by
      rw [Cursor.isPunct_of_isIdent f.type.named.isIdent_first]
      exact Bool.false_ne_true
    exact Cursor.group?_other hname _
  -- The head ends where the value of the first variable begins, or where its declarator ends.
  have hsplit : Reader.splitMember 0 (f.tokens ++ rest)
      = (f.type.tokens ++ f.first.name :: f.first.dims, mark :: after) := by
    rw [tokens, List.append_assoc, List.append_assoc, WrittenType.splitMember_tokens,
      Declarator.tokens, List.cons_append, List.append_assoc, splitMember_word f.first.name_eq,
      splitMember_dims f.first.dims_eq, hmark, splitMember_stop hstops, List.append_nil]
  have hother : ∀ other ∈ ["\x7d", "(", "\x7b"], mark.isPunct other = false := by
    intro other hmem
    rw [Token.isPunctOf, Bool.and_eq_true, List.contains_iff_mem] at hstops
    rw [Token.isPunct, Bool.and_eq_false_iff, beq_eq_false_iff_ne (a := mark.text)]
    right
    rintro rfl
    exact (by decide : ∀ m ∈ ["=", ",", ";"], m ∉ ["\x7d", "(", "\x7b"]) _ hstops.2 hmem
  rw [Reader.member, hangle, hsplit, hmark]
  dsimp only
  rw [hother "\x7d" (by decide), hother "(" (by decide), hother "\x7b" (by decide),
    if_neg Bool.false_ne_true, if_neg Bool.false_ne_true, if_neg Bool.false_ne_true,
    Reader.fields, lastIdent?_dims f.first.dims_eq f.first.name_eq]
  have htype : f.type.tokens = f.type.named.first :: f.type.more := rfl
  rw [htype]
  dsimp only
  rw [← htype, WrittenType.read?_tokens, Outline.addMember_eq]
  rfl

theorem modifiers_tokens (f : FieldDeclaration) (m : Modifiers) (rest : List Token)
    : Reader.modifiers m (f.tokens ++ rest) = (m, f.tokens ++ rest) := by
  have hident := f.type.named.isIdent_first
  have hdoc : (f.type.named.first.kind == .doc) = false := by
    rw [Token.isIdent, beq_iff_eq] at hident
    rw [hident]
    rfl
  have hword : f.type.named.first.isWordOf modifierWords = false := by
    rw [Token.isWordOf, Bool.and_eq_false_iff, Bool.eq_false_iff (b := modifierWords.contains _),
      ne_eq, List.contains_iff_mem]
    exact .inr f.type.named.first_not_modifier
  have htokens : f.tokens ++ rest = f.type.named.first
      :: (f.type.more ++ (f.first.tokens ++ (listTokens f.more f.stop ++ rest))) := by
    simp [FieldDeclaration.tokens, WrittenType.tokens]
  rw [htokens, Reader.modifiers, hdoc, hword, Cursor.isPunct_of_isIdent hident]
  simp

theorem step_eq (f : FieldDeclaration) (o : Outline) (owner : Nat)
    (outer : List Reader.OpenType) {m : Modifiers} {t : Token} {tokens rest : List Token}
    (hfront : Reader.modifiers {} (t :: tokens) = (m, f.tokens ++ rest))
    : Reader.step o (⟨owner, false⟩ :: outer) t tokens
        =
      ((Reader.member o owner m (f.tokens ++ rest)).1, ⟨owner, false⟩ :: outer,
        (Reader.member o owner m (f.tokens ++ rest)).2) := by
  have hident := f.type.named.isIdent_first
  have hnot : ∀ mark, mark ≠ "@" → t.isPunct mark = false := by
    intro mark hmark
    rw [Bool.eq_false_iff]
    intro ht
    obtain ⟨hkind, htext⟩ := Token.isPunct_iff.1 ht
    have hstays := Reader.modifiers_mark hkind (by rw [htext]; exact hmark) {} tokens
    rw [hfront] at hstays
    have hfirst : f.type.named.first = t := (List.cons.inj hstays).1
    rw [hfirst, Token.isIdent_of_isPunct ht] at hident
    cases hident
  have hcurly : Bracket.curly.group? (f.tokens ++ rest) = (none, f.tokens ++ rest) := by
    have hname : ¬ f.type.named.first.isPunct Bracket.curly.opening = true := by
      rw [Cursor.isPunct_of_isIdent hident]
      exact Bool.false_ne_true
    exact Cursor.group?_other hname _
  have hstart : Reader.typeStart? (f.tokens ++ rest) = none := by
    rw [FieldDeclaration.tokens, List.append_assoc]
    exact WrittenType.typeStart?_tokens f.type_eq _
  have hclosing : Reader.starts (·.isPunct "\x7d") (f.tokens ++ rest) = false :=
    Cursor.isPunct_of_isIdent hident "\x7d"
  -- A declaration begins with its type, so no branch in front of that for members is taken.
  rw [Reader.step, Reader.stepInside, hnot "\x7d" (by decide), hnot ";" (by decide),
    if_neg Bool.false_ne_true, if_neg Bool.false_ne_true, hfront]
  dsimp only
  rw [hcurly]
  dsimp only
  rw [hstart]
  dsimp only
  rw [hclosing, if_neg Bool.false_ne_true]

/--
The declaration is read: right behind it exactly its fields have been added to the type and exactly
its initializers to the bodies, in the outline of the text they stand behind those before, and all
uses of members in the initializers are uses in the text.
-/
structure IsRead (f : FieldDeclaration) (m : Modifiers) (o : Outline) (owner : Nat)
    (outer : List Reader.OpenType) (tokens rest : List Token) : Prop where
  reached : Reader.Reached tokens (o.add owner (f.fields m) (f.bodies owner))
    (⟨owner, false⟩ :: outer) rest
  fields : ∃ e e', o.entries[owner]? = some e ∧ (outline tokens).entries[owner]? = some e'
    ∧ e.decl.members ++ f.fields m <+: e'.decl.members
  bodies : o.bodies ++ f.bodies owner <+: (outline tokens).bodies
  searched : ∀ (id : UnitId) (text : String), ∀ body ∈ f.bodies owner,
    Access.ofBody (outline tokens).typeNames (outline tokens).declarations.types body
      ⊆ (SourceUnit.ofTokens id text tokens).accesses

/--
Where the reader comes to a declaration of fields in a type, the declaration is read exactly if each
comma and each semicolon of its initializers stands inside round, square or curly brackets.
-/
theorem isRead_iff_enclosed (f : FieldDeclaration) {m : Modifiers} {o : Outline} {owner : Nat}
    {outer : List Reader.OpenType} {tokens front rest : List Token}
    (hreached : Reader.Reached tokens o (⟨owner, false⟩ :: outer) (front ++ (f.tokens ++ rest)))
    (hfront : Reader.modifiers {} (front ++ (f.tokens ++ rest)) = (m, f.tokens ++ rest))
    : f.IsRead m o owner outer tokens rest ↔ ∀ d ∈ f.declarators, d.IsEnclosed := by
  obtain ⟨t, left, hleft⟩ : ∃ t left, front ++ (f.tokens ++ rest) = t :: left := by
    cases front with
    | nil => exact ⟨_, _, rfl⟩
    | cons t front => exact ⟨_, _, rfl⟩
  have hlength : rest.length ≤ left.length := by
    have h := congrArg List.length hleft
    simp only [FieldDeclaration.tokens, WrittenType.tokens, listTokens, List.length_append,
      List.length_cons] at h
    omega
  have hplace : owner < o.entries.length := hreached.place_lt _ List.mem_cons_self
  rw [hleft] at hreached hfront
  have hstep := hreached.step
  rw [f.step_eq o owner outer hfront, f.member_tokens] at hstep
  dsimp only at hstep
  constructor
  · intro h
    -- Bodies are only ever added, so a wrong one in this place stays there.
    by_contra hnot
    have hbodies : (o.add owner [f.field m f.first.name] []).bodies = o.bodies :=
      List.append_nil _
    have hlater := not_prefix_declarators f.more_eq f.stop_eq hnot hstep.extends_outline.bodies
    rw [hbodies] at hlater
    exact hlater h.bodies
  · intro h
    rw [declarators_list f.more_eq f.stop_eq f.first h, Reader.leftOver, if_pos hlength,
      Outline.add_add] at hstep
    have hfields : [f.field m f.first.name] ++ f.more.map (fun next => f.field m next.2.name)
        = f.fields m := by
      simp [FieldDeclaration.fields, FieldDeclaration.declarators]
    rw [hfields, List.nil_append] at hstep
    have hextends := hstep.extends_outline
    refine ⟨hstep, ?_, hextends.bodies, ?_⟩
    · have he := List.getElem?_eq_getElem hplace
      obtain ⟨e', he', hmembers⟩ := hextends.members owner _ (Outline.add_entry he _ _)
      exact ⟨_, e', he, he', hmembers⟩
    · intro id text body hbody a ha
      have hmem : body ∈ (outline tokens).bodies :=
        hextends.bodies.subset (List.mem_append_right _ hbody)
      rw [SourceUnit.ofTokens, SourceUnit.sortAccesses, List.mem_mergeSort]
      exact List.mem_flatMap.2 ⟨body, hmem, ha⟩

def lists : FieldDeclaration where
  type :=
    { named := .generic
        (.name (.onFirstLine .ident "List" 10) (by decide) (by decide) (by decide))
        (.onFirstLine .punct "<" 14) [.onFirstLine .ident "Tab" 15] (.onFirstLine .punct ">" 18)
        (by decide) (.other (by decide) (by decide) .nil) (by decide)
      dims := []
      dims_eq := List.forall_mem_nil _ }
  first :=
    { name := .onFirstLine .ident "a" 20
      dims := []
      initializer := some (.onFirstLine .punct "=" 22,
        [.onFirstLine .ident "of" 24, .onFirstLine .punct "(" 26, .onFirstLine .ident "b" 27,
          .onFirstLine .punct "," 28, .onFirstLine .ident "c" 30, .onFirstLine .punct ")" 31])
      name_eq := by decide
      dims_eq := by decide
      initializer_eq := by decide }
  more :=
    [(.onFirstLine .punct "," 32,
      { name := .onFirstLine .ident "d" 34
        dims := [.onFirstLine .punct "[" 35, .onFirstLine .punct "]" 36]
        initializer := none
        name_eq := by decide
        dims_eq := by decide
        initializer_eq := by decide })]
  stop := .onFirstLine .punct ";" 37
  type_eq := by decide
  more_eq := by decide
  stop_eq := by decide

theorem isRead_lists
    : ∃ o tokens rest, Reader.Reached tokens o [⟨0, false⟩] (lists.tokens ++ rest)
        ∧ lists.IsRead {} o 0 [] tokens rest := by
  let first : Token := .onFirstLine .ident "class" 0
  let rest : List Token := [.onFirstLine .punct "\x7d" 39]
  let left : List Token :=
    .onFirstLine .ident "A" 6 :: .onFirstLine .punct "\x7b" 8 :: (lists.tokens ++ rest)
  have hstart : Reader.Reached (first :: left) {} [] (first :: left) := .start
  have hopened : (Reader.step {} [] first left).2.1 = [⟨0, false⟩] := by decide +kernel
  have hleft : Reader.leftOver left (Reader.step {} [] first left).2.2
      = [] ++ (lists.tokens ++ rest) := by decide +kernel
  have hreached := hstart.step
  rw [hopened, hleft] at hreached
  refine ⟨_, _, rest, hreached, ?_⟩
  refine (lists.isRead_iff_enclosed hreached (lists.modifiers_tokens {} rest)).2 ?_
  intro d hd i hi
  obtain ⟨-, hnested⟩ := d.initializer_eq i hi
  refine enclosed_of_splitExpression hnested ?_
  rcases List.mem_pair.1 hd with rfl | rfl
  · rw [← Option.some.inj hi]
    decide
  · cases hi

def mapOfTabs : FieldDeclaration where
  type :=
    { named := .generic
        (.name (.onFirstLine .ident "Map" 10) (by decide) (by decide) (by decide))
        (.onFirstLine .punct "<" 13)
        [.onFirstLine .ident "String" 14, .onFirstLine .punct "," 20, .onFirstLine .ident "Tab" 22]
        (.onFirstLine .punct ">" 25) (by decide)
        (.other (by decide) (by decide) (.other (by decide) (by decide)
          (.other (by decide) (by decide) .nil))) (by decide)
      dims := []
      dims_eq := List.forall_mem_nil _ }
  first :=
    { name := .onFirstLine .ident "m" 27
      dims := []
      initializer := some (.onFirstLine .punct "=" 29,
        .onFirstLine .ident "new" 31 :: .onFirstLine .ident "HashMap" 35
          :: .onFirstLine .punct "<" 42
          :: ([.onFirstLine .ident "String" 43, .onFirstLine .punct "," 49,
              .onFirstLine .ident "Tab" 51]
            ++ .onFirstLine .punct ">" 54
              :: [.onFirstLine .punct "(" 55, .onFirstLine .ident "x" 56,
                .onFirstLine .punct "." 57, .onFirstLine .ident "y" 58,
                .onFirstLine .punct "(" 59, .onFirstLine .punct ")" 60,
                .onFirstLine .punct ")" 61]))
      name_eq := by decide
      dims_eq := by decide
      initializer_eq := by decide }
  more := []
  stop := .onFirstLine .punct ";" 62
  type_eq := by decide
  more_eq := by decide
  stop_eq := by decide

/--
The type arguments of the initializer are nested, but the comma between them ends it: the type `Tab`
becomes a field, and the use of `y` is not found.
-/
theorem mapOfTabs_adds_field
    : ∃ tokens,
        tokenize "class A \x7b Map<String, Tab> m = new HashMap<String, Tab>(x.y()); Tab z; \x7d"
            = .ok tokens
          ∧ (∃ front rest, tokens = front ++ (mapOfTabs.tokens ++ rest))
          ∧ (∀ d ∈ mapOfTabs.declarators, ∀ i ∈ d.initializer, AngleNested i.2)
          ∧ (outline tokens).declarations.types.map (·.members.map (·.name)) = [["m", "Tab", "z"]]
          ∧ (SourceUnit.ofTokens "A" "" tokens).accesses = [] := by
  have hcheck :
      tokenize "class A \x7b Map<String, Tab> m = new HashMap<String, Tab>(x.y()); Tab z; \x7d"
        |>.toOption.any fun tokens =>
          decide (tokens = tokens.take 3 ++ (mapOfTabs.tokens ++ tokens.drop 26)
            ∧ (outline tokens).declarations.types.map (·.members.map (·.name))
              = [["m", "Tab", "z"]]
            ∧ (SourceUnit.ofTokens "A" "" tokens).accesses = []) := by
    decide +kernel
  obtain ⟨tokens, hlex, hcheck⟩ := exists_tokenize_ok hcheck
  rw [decide_eq_true_eq] at hcheck
  obtain ⟨htokens, hmembers, haccesses⟩ := hcheck
  refine ⟨tokens, hlex, ⟨_, _, htokens⟩, ?_, hmembers, haccesses⟩
  intro d hd i hi
  rw [List.mem_singleton.1 hd] at hi
  rw [← Option.some.inj hi]
  refine .other rfl rfl (.other rfl rfl (.group rfl ?_ rfl ?_))
  · exact .other rfl rfl (.other rfl rfl (.other rfl rfl .nil))
  · exact .other rfl rfl (.other rfl rfl (.other rfl rfl (.other rfl rfl (.other rfl rfl
      (.other rfl rfl (.other rfl rfl .nil))))))

end FieldDeclaration

end DeprecatedUse.Java
