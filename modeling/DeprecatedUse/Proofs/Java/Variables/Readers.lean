import DeprecatedUse.Proofs.Java.Fields.Declarations
import DeprecatedUse.Proofs.Java.Nesting
import DeprecatedUse.Proofs.Java.Variables.Types

/-!
This module contains the three readers of declarations of variables: of fields, of parameters and of
local variables. They read the same tokens, but they agree only on declarations without annotations
and without square brackets behind the name.
-/

namespace DeprecatedUse.Java

/--
The word `final`, or an annotation with arguments or without.
-/
inductive VariableModifier where
  | final (word : Token) (hword : word.isWord "final" = true)
  | annotation (sign : Token) (name : NamedType) (arguments : Option (Token × List Token × Token))
    (hsign : sign.isPunct "@" = true) (hname : name.IsDotted)
    (hinterface : name.first.text ≠ "interface")
    (harguments : ∀ group ∈ arguments, group.1.isPunct "(" = true ∧ Nested group.2.1
      ∧ group.2.2.isPunct ")" = true)

namespace VariableModifier

def argumentTokens : Option (Token × List Token × Token) → List Token
  | none => []
  | some (opening, inner, closing) => opening :: (inner ++ [closing])

def tokens : VariableModifier → List Token
  | final word _ => [word]
  | annotation sign name arguments _ _ _ _ =>
    sign :: name.first :: (name.more ++ argumentTokens arguments)

def listTokens (modifiers : List VariableModifier) : List Token :=
  modifiers.flatMap tokens

def isFinal : VariableModifier → Bool
  | final _ _ => true
  | annotation .. => false

def isBare : VariableModifier → Bool
  | final _ _ => true
  | annotation _ name arguments _ _ _ _ => name.more.isEmpty && arguments.isNone

variable {rest : List Token}

theorem listTokens_cons (m : VariableModifier) (modifiers : List VariableModifier)
    (rest : List Token)
    : listTokens (m :: modifiers) ++ rest = m.tokens ++ (listTokens modifiers ++ rest) := by
  simp [listTokens]

theorem starts_listTokens {p : Token → Bool} (hsign : ∀ t : Token, t.isPunct "@" = true → p t = false)
    (hident : ∀ t : Token, t.isIdent = true → p t = false) (modifiers : List VariableModifier)
    {t : Token} (ht : t.isIdent = true) (rest : List Token)
    : Access.starts p (listTokens modifiers ++ t :: rest) = false := by
  cases modifiers with
  | nil => exact hident t ht
  | cons m modifiers =>
    rw [listTokens_cons]
    cases m with
    | final word hword =>
      exact hident word (Token.isIdent_of_isWord hword)
    | annotation sign name arguments hsign' hname hinterface harguments => exact hsign sign hsign'

theorem starts_mark {mark : String} (hmark : mark ≠ "@") (modifiers : List VariableModifier)
    {t : Token} (ht : t.isIdent = true) (rest : List Token)
    : Access.starts (·.isPunct mark) (listTokens modifiers ++ t :: rest) = false := by
  refine starts_listTokens ?_ (fun t ht => Cursor.isPunct_of_isIdent ht mark) modifiers ht rest
  intro u hu
  rw [Token.isPunct_of_isPunct hu, beq_eq_false_iff_ne]
  exact hmark.symm

theorem starts_dot_arguments {arguments : Option (Token × List Token × Token)}
    (h : ∀ group ∈ arguments, group.1.isPunct "(" = true ∧ Nested group.2.1
      ∧ group.2.2.isPunct ")" = true) (hrest : Access.starts (·.isPunct ".") rest = false)
    : Access.starts (·.isPunct ".") (argumentTokens arguments ++ rest) = false := by
  cases arguments with
  | none => exact hrest
  | some group =>
    have hopening := (h group rfl).1
    change group.1.isPunct "." = false
    rw [Token.isPunct_of_isPunct hopening]
    rfl

theorem group?_arguments {arguments : Option (Token × List Token × Token)}
    (h : ∀ group ∈ arguments, group.1.isPunct "(" = true ∧ Nested group.2.1
      ∧ group.2.2.isPunct ")" = true) (hrest : Access.starts (·.isPunct "(") rest = false)
    : (Bracket.round.group? (argumentTokens arguments ++ rest)).2 = rest := by
  cases arguments with
  | none =>
    cases rest with
    | nil => rfl
    | cons t rest =>
      change t.isPunct Bracket.round.opening = false at hrest
      rw [argumentTokens, List.nil_append, Bracket.group?, hrest, if_neg Bool.false_ne_true]
  | some group =>
    obtain ⟨hopening, hnested, hclosing⟩ := h group rfl
    have hround : Bracket.round ∈ Bracket.nesting := by simp [Bracket.nesting]
    have hgroup := Bracket.group?_of_nested hround hopening hnested hclosing rest
    have htokens : argumentTokens (some group) ++ rest
        = group.1 :: (group.2.1 ++ group.2.2 :: rest) := by
      simp [argumentTokens]
    rw [htokens, hgroup]

/-! The reader of fields. -/

theorem modifiers_final {word : Token} (hword : word.isWord "final" = true) (m : Modifiers)
    (rest : List Token) : Reader.modifiers m (word :: rest) = Reader.modifiers m rest := by
  rw [Token.isWord, Bool.and_eq_true, beq_iff_eq, beq_iff_eq] at hword
  rw [Reader.modifiers, Token.isWordOf, hword.1, hword.2]
  rfl

theorem modifiers_listTokens (modifiers : List VariableModifier) (m : Modifiers) {t : Token}
    (ht : t.isIdent = true) (rest : List Token)
    : ∃ m', Reader.modifiers m (listTokens modifiers ++ t :: rest)
        = Reader.modifiers m' (t :: rest) := by
  induction modifiers generalizing m with
  | nil => exact ⟨m, rfl⟩
  | cons mod modifiers ih =>
    rw [listTokens_cons]
    cases mod with
    | final word hword =>
      rw [tokens, List.singleton_append, modifiers_final hword]
      exact ih m
    | annotation sign name arguments hsign hname hinterface harguments =>
      -- What follows goes on neither with the name of the annotation nor with its arguments.
      have hdot := starts_dot_arguments harguments
        (starts_mark (show "." ≠ "@" by decide) modifiers ht rest)
      have hgroup := group?_arguments harguments
        (starts_mark (show "(" ≠ "@" by decide) modifiers ht rest)
      have hdoc : (sign.kind == .doc) = false := by
        rw [(Token.isPunct_iff.1 hsign).1]
        rfl
      have hword : sign.isWordOf modifierWords = false := by
        rw [Token.isWordOf, (Token.isPunct_iff.1 hsign).1]
        rfl
      have hstarts : Reader.starts (fun n => n.isIdent && n.text != "interface")
          (name.first :: (name.more ++ (argumentTokens arguments
            ++ (listTokens modifiers ++ t :: rest)))) = true := by
        rw [Reader.starts, name.isIdent_first, Bool.true_and, bne_iff_ne]
        exact hinterface
      rw [tokens, List.cons_append, List.cons_append, List.append_assoc, Reader.modifiers, hdoc,
        hword, hsign, hstarts, if_neg Bool.false_ne_true, if_neg Bool.false_ne_true]
      dsimp only
      rw [Bool.and_self, if_pos rfl, NamedType.dottedName_more hname hdot]
      dsimp only
      rw [hgroup]
      exact ih _

/-! The reader of parameters. -/

theorem dropAnnotations_listTokens (modifiers : List VariableModifier) {t : Token}
    (ht : t.isIdent = true) (rest : List Token)
    : Parameter.dropAnnotations (listTokens modifiers ++ t :: rest)
        =
      listTokens (modifiers.dropWhile (!·.isFinal)) ++ t :: rest := by
  have hstays : ∀ {u : Token} (tokens : List Token), u.isIdent = true
      → Parameter.dropAnnotations (u :: tokens) = u :: tokens := by
    intro u tokens hu
    rw [Parameter.dropAnnotations, Cursor.isPunct_of_isIdent hu, if_neg Bool.false_ne_true]
  induction modifiers with
  | nil => exact hstays rest ht
  | cons mod modifiers ih =>
    cases mod with
    | final word hword =>
      -- Annotations are dropped up to the first `final`; those behind it stay.
      rw [List.dropWhile_cons_of_neg (by simp [isFinal]), listTokens_cons, tokens]
      exact hstays _ (Token.isIdent_of_isWord hword)
    | annotation sign name arguments hsign hname hinterface harguments =>
      have hdot := starts_dot_arguments harguments
        (starts_mark (show "." ≠ "@" by decide) modifiers ht rest)
      have hgroup := group?_arguments harguments
        (starts_mark (show "(" ≠ "@" by decide) modifiers ht rest)
      have hdropped : Parameter.dropDotted
          (argumentTokens arguments ++ (listTokens modifiers ++ t :: rest))
            = argumentTokens arguments ++ (listTokens modifiers ++ t :: rest) := by
        generalize argumentTokens arguments ++ (listTokens modifiers ++ t :: rest) = tokens at hdot
        cases tokens with
        | nil => rfl
        | cons u tokens =>
          cases tokens with
          | nil => rfl
          | cons u' tokens =>
            rw [Access.starts] at hdot
            rw [Parameter.dropDotted, hdot, if_neg Bool.false_ne_true]
      rw [List.dropWhile_cons_of_pos (by simp [isFinal]), listTokens_cons, tokens, List.cons_append,
        List.cons_append, List.append_assoc, Parameter.dropAnnotations, if_pos hsign,
        List.tail_cons, NamedType.dropDotted_more hname, hdropped, hgroup]
      exact ih

theorem readFrom_final {word : Token} (hword : word.isWord "final" = true) (name : String)
    (dims : Nat) (rest : List Token)
    : TypeName.readFrom 0 false name dims (word :: rest)
        =
      TypeName.readFrom 0 false name dims rest := by
  rw [Token.isWord, Bool.and_eq_true, beq_iff_eq (b := "final")] at hword
  have hident : word.isIdent = true := hword.1
  rw [TypeName.readFrom, if_neg (Nat.lt_irrefl 0), if_pos hident, hword.2]
  rfl

theorem readFrom_sign {sign : Token} (hsign : sign.isPunct "@" = true) (name : String)
    (dims : Nat) (rest : List Token)
    : TypeName.readFrom 0 false name dims (sign :: rest)
        =
      TypeName.readFrom 0 true name dims rest := by
  rw [TypeName.readFrom, if_neg (Nat.lt_irrefl 0), Token.isIdent_of_isPunct hsign,
    Token.isPunct_of_isPunct hsign, hsign]
  rfl

theorem readFrom_annotation {sign : Token} {type : NamedType} (hsign : sign.isPunct "@" = true)
    (htype : type.IsDotted) (name : String) (dims : Nat) (rest : List Token)
    : TypeName.readFrom 0 false name dims (sign :: type.first :: (type.more ++ rest))
        =
      TypeName.readFrom 0 false (name ++ type.behindFirst) dims rest := by
  rw [readFrom_sign hsign, NamedType.readFrom_afterAt htype]

theorem readFrom_parenthesis {t : Token} (ht : t.isPunct "(" = true) (name : String) (dims : Nat)
    (rest : List Token) : TypeName.readFrom 0 false name dims (t :: rest) = none := by
  rw [TypeName.readFrom, if_neg (Nat.lt_irrefl 0), Token.isIdent_of_isPunct ht,
    Token.isPunct_of_isPunct ht, Token.isPunct_of_isPunct ht, Token.isPunct_of_isPunct ht,
    Token.isPunct_of_isPunct ht, Token.isPunctOf_of_isPunct ht]
  rfl

theorem readFrom_bare {modifiers : List VariableModifier} (h : ∀ m ∈ modifiers, m.isBare = true)
    (name : String) (dims : Nat) (rest : List Token)
    : TypeName.readFrom 0 false name dims (listTokens modifiers ++ rest)
        =
      TypeName.readFrom 0 false name dims rest := by
  induction modifiers with
  | nil => rfl
  | cons mod modifiers ih =>
    rw [List.forall_mem_cons] at h
    rw [listTokens_cons, ← ih h.2]
    cases mod with
    | final word hword => exact readFrom_final hword name dims _
    | annotation sign type arguments hsign htype hinterface harguments =>
      have hbare := h.1
      rw [isBare, Bool.and_eq_true, List.isEmpty_iff, Option.isNone_iff_eq_none] at hbare
      obtain ⟨hmore, rfl⟩ := hbare
      have hbehind : type.behindFirst = "" := by
        cases type with
        | name => rfl
        | member outer dot n hdot hident hname hword => simp [NamedType.more] at hmore
        | generic => exact htype.elim
      rw [tokens, List.cons_append, List.cons_append, List.append_assoc,
        readFrom_annotation hsign htype, hbehind, String.append_empty]
      rfl

theorem readFrom_behind_name (modifiers : List VariableModifier) {name : String} (hne : name ≠ "")
    (hdot : endsInDot name = false) {t : Token} (ht : t.isIdent = true)
    (hword : t.text ∉ modifierWords) (dims : Nat) (rest : List Token)
    : TypeName.readFrom 0 false name dims (listTokens modifiers ++ t :: rest) = none := by
  induction modifiers generalizing name with
  | nil =>
    have hnot : modifierWords.contains t.text = false := by
      rw [Bool.eq_false_iff, ne_eq, List.contains_iff_mem]
      exact hword
    change TypeName.readFrom 0 false name dims (t :: rest) = none
    rw [TypeName.readFrom, if_neg (Nat.lt_irrefl 0), if_pos ht, hnot, Bool.or_false,
      if_neg Bool.false_ne_true, if_pos (by simp [hne, hdot])]
  | cons mod modifiers ih =>
    rw [listTokens_cons]
    cases mod with
    | final word hword =>
      rw [tokens, List.singleton_append, readFrom_final hword]
      exact ih hne hdot
    | annotation sign type arguments hsign htype hinterface harguments =>
      rw [tokens, List.cons_append, List.cons_append, List.append_assoc,
        readFrom_annotation hsign htype]
      cases arguments with
      | none =>
        refine ih ?_ (NamedType.behindFirst_append htype hdot)
        intro hempty
        exact hne (String.append_eq_empty_iff.1 hempty).1
      | some group => exact readFrom_parenthesis (harguments group rfl).1 _ dims _

theorem readFrom_not_bare {modifiers : List VariableModifier}
    (h : ¬ ∀ m ∈ modifiers, m.isBare = true) {t : Token} (ht : t.isIdent = true)
    (hword : t.text ∉ modifierWords) (dims : Nat) (rest : List Token)
    : TypeName.readFrom 0 false "" dims (listTokens modifiers ++ t :: rest) = none := by
  induction modifiers with
  | nil => exact absurd (List.forall_mem_nil _) h
  | cons mod modifiers ih =>
    -- The first modifier that is not bare is an annotation, and the reading stops at it.
    by_cases hbare : mod.isBare = true
    · have hrest : ¬ ∀ m ∈ modifiers, m.isBare = true := fun hall =>
        h (List.forall_mem_cons.2 ⟨hbare, hall⟩)
      have hskip := readFrom_bare (List.forall_mem_singleton.2 hbare) "" dims
        (listTokens modifiers ++ t :: rest)
      have hsingle : listTokens [mod] = mod.tokens := by simp [listTokens]
      rw [hsingle] at hskip
      rw [listTokens_cons, hskip]
      exact ih hrest
    · rw [listTokens_cons]
      cases mod with
      | final word hword => exact absurd rfl hbare
      | annotation sign type arguments hsign htype hinterface harguments =>
        rw [tokens, List.cons_append, List.cons_append, List.append_assoc,
          readFrom_annotation hsign htype]
        cases arguments with
        | none =>
          have hmore : type.more ≠ [] := by
            intro hmore
            apply hbare
            rw [isBare, hmore]
            rfl
          have hne := NamedType.behindFirst_ne htype hmore
          refine readFrom_behind_name modifiers ?_ ?_ ht hword dims rest
          · rw [String.empty_append]
            exact hne
          · exact NamedType.behindFirst_append htype (by decide)
        | some group => exact readFrom_parenthesis (harguments group rfl).1 _ dims _

/-! The reader of local variables. -/

theorem splitType?_listTokens (modifiers : List VariableModifier) {t : Token}
    (hword : t.text ∉ modifierWords) (rest : List Token)
    : Access.splitType? ((listTokens modifiers ++ t :: rest).dropWhile (·.isWord "final"))
        =
      if modifiers.all isFinal then Access.splitType? (t :: rest) else none := by
  induction modifiers with
  | nil =>
    have hnot : ¬ t.isWord "final" = true := by
      rw [Token.isWord, Bool.and_eq_true, beq_iff_eq (a := t.text)]
      rintro ⟨-, htext⟩
      rw [htext] at hword
      exact hword (by decide)
    change Access.splitType? ((t :: rest).dropWhile _) = _
    rw [List.dropWhile_cons_of_neg (by exact hnot)]
    rfl
  | cons mod modifiers ih =>
    rw [listTokens_cons]
    cases mod with
    | final word hword =>
      rw [tokens, List.singleton_append, List.dropWhile_cons_of_pos (by exact hword)]
      exact ih
    | annotation sign type arguments hsign htype hinterface harguments =>
      have hnot : ¬ sign.isWord "final" = true := by
        rw [Token.isWord_of_isPunct hsign]
        exact Bool.false_ne_true
      rw [tokens, List.cons_append, List.dropWhile_cons_of_neg (by exact hnot), Access.splitType?,
        Access.isPlain, Token.isIdent_of_isPunct hsign]
      rfl

end VariableModifier

/-! Declarations. -/

structure VariableDeclaration where
  modifiers : List VariableModifier
  type : WrittenType
  name : Token
  dims : List (Token × Token)
  type_eq : type.named.IsOrdinary
  first_eq : Access.isPlain type.named.first = true
  kind_eq : type.more = [] → Reader.typeKind? type.named.first = none
  name_eq : Access.isPlain name = true
  dims_eq : AreDims dims

namespace VariableDeclaration

variable (d : VariableDeclaration)

def tokens : List Token :=
  VariableModifier.listTokens d.modifiers ++ (d.type.tokens ++ d.name :: dimTokens d.dims)

/-! As a field. -/

/--
In the body of a type, the declaration with a semicolon behind it is a field of this type.
-/
def IsField (type : Option TypeName) : Prop :=
  ∀ o owner outer stop rest, stop.isPunct ";" = true
    → ∃ t left deprecation, d.tokens ++ stop :: rest = t :: left
      ∧ Reader.step o (⟨owner, false⟩ :: outer) t left
        = (o.addMember owner
            { name := d.name.text, kind := .field, type := type, deprecation := deprecation,
              span := d.name.span },
          ⟨owner, false⟩ :: outer, rest)

theorem isField : d.IsField (some d.type.typeName) := by
  intro o owner outer stop rest hstop
  have hdims : ∀ t ∈ dimTokens d.dims, Reader.isDimension t = true := by
    intro t ht
    obtain ⟨pair, hpair, ht⟩ := List.mem_flatMap.1 ht
    obtain ⟨hopening, hclosing⟩ := d.dims_eq pair hpair
    rcases List.mem_pair.1 ht with rfl | rfl
    · rw [Reader.isDimension, Token.isPunctOf_of_isPunct hopening]
      rfl
    · rw [Reader.isDimension, Token.isPunctOf_of_isPunct hclosing]
      rfl
  -- The variable as a declaration of one field without an initializer.
  let f : FieldDeclaration :=
    { type := d.type
      first :=
        { name := d.name
          dims := dimTokens d.dims
          initializer := none
          name_eq := Access.isIdent_of_isPlain d.name_eq
          dims_eq := hdims
          initializer_eq := by simp }
      more := []
      stop := stop
      type_eq := d.kind_eq
      more_eq := List.forall_mem_nil _
      stop_eq := hstop }
  have hf : f.tokens ++ rest = d.type.tokens ++ (d.name :: dimTokens d.dims ++ stop :: rest) := by
    simp [f, FieldDeclaration.tokens, Declarator.tokens, Declarator.value,
      FieldDeclaration.listTokens]
  have htokens : d.tokens ++ stop :: rest
      = VariableModifier.listTokens d.modifiers ++ (f.tokens ++ rest) := by
    rw [hf, tokens, List.append_assoc, List.append_assoc]
  obtain ⟨m, hm⟩ := VariableModifier.modifiers_listTokens d.modifiers {}
    d.type.named.isIdent_first (d.type.more ++ (d.name :: dimTokens d.dims ++ stop :: rest))
  have hfront : Reader.modifiers {} (d.tokens ++ stop :: rest) = (m, f.tokens ++ rest) := by
    rw [htokens, ← f.modifiers_tokens m rest, hf]
    exact hm
  have hdeclarators : ∀ o : Outline, Reader.declarators owner (f.field m) o
      (f.first.value ++ (FieldDeclaration.listTokens f.more f.stop ++ rest)) = (o, rest) := fun o =>
    Reader.declarators_stop hstop rest
  obtain ⟨t, left, hleft⟩ : ∃ t left, d.tokens ++ stop :: rest = t :: left :=
    List.exists_cons_of_ne_nil (by simp)
  rw [hleft] at hfront
  refine ⟨t, left, m.deprecation?, hleft, ?_⟩
  rw [f.step_eq o owner outer hfront, f.member_tokens, hdeclarators, Outline.addMember_eq]
  rfl

/-! As a parameter. -/

def OpensPart (front : List Token) : Prop :=
  front = [] ∨ ∃ before comma, front = before ++ [comma] ∧ comma.isPunct "," = true
    ∧ (before.map Parameter.nesting).sum = 0

def EndsPart (back : List Token) : Prop :=
  back = [] ∨ ∃ comma behind, back = comma :: behind ∧ comma.isPunct "," = true

def IsParameter (type : TypeName) : Prop :=
  ∀ front back, OpensPart front → EndsPart back
    → Parameter.readAll (front ++ (d.tokens ++ back))
      = Parameter.readAll front ++ (d.name.text, type) :: Parameter.readAll back

/--
Behind the annotations at the start there are only bare modifiers.
-/
def IsBareBehind : Prop :=
  ∀ m ∈ d.modifiers.dropWhile (!·.isFinal), m.isBare = true

instance : Decidable d.IsBareBehind :=
  inferInstanceAs (Decidable (∀ m ∈ d.modifiers.dropWhile (!·.isFinal), m.isBare = true))

theorem read?_tokens
    : Parameter.read? d.tokens
        =
      if d.dims = [] ∧ d.IsBareBehind then some (d.name.text, d.type.typeName) else none := by
  have hname := Access.isIdent_of_isPlain d.name_eq
  have hthis : d.name.text ≠ "this" := by
    intro hthis
    have hplain : d.name.isWord "this" = false :=
      Access.isWord_of_isPlain d.name_eq (by decide)
    rw [Token.isWord, hthis, Bool.and_eq_false_iff] at hplain
    rw [Token.isIdent] at hname
    rw [hname] at hplain
    simp at hplain
  have hdropped : Parameter.dropAnnotations d.tokens
      = (VariableModifier.listTokens (d.modifiers.dropWhile (!·.isFinal)) ++ d.type.tokens)
        ++ d.name :: dimTokens d.dims := by
    rw [List.append_assoc]
    exact VariableModifier.dropAnnotations_listTokens d.modifiers d.type.named.isIdent_first _
  have hfirst := d.type.named.isIdent_first
  have hword := d.type.named.first_not_modifier
  rw [Parameter.read?, hdropped]
  by_cases hdims : d.dims = []
  · have hnil : dimTokens d.dims = [] := by
      rw [hdims]
      rfl
    rw [hnil, List.getLast?_concat]
    dsimp only
    rw [hname, bne_iff_ne.2 hthis, Bool.and_self, if_pos rfl, List.dropLast_concat]
    by_cases hbare : d.IsBareBehind
    · rw [TypeName.read?, VariableModifier.readFrom_bare hbare, if_pos ⟨hdims, hbare⟩]
      have hread := d.type.read?_tokens
      rw [TypeName.read?] at hread
      rw [hread]
      rfl
    · rw [TypeName.read?, if_neg fun h => hbare h.2]
      have hnone := VariableModifier.readFrom_not_bare hbare hfirst hword 0 d.type.more
      rw [WrittenType.tokens, hnone]
      rfl
  · -- The last token is a square bracket.
    rw [if_neg fun h => hdims h.1]
    obtain ⟨dims, pair, hpairs⟩ := (List.eq_nil_or_concat d.dims).resolve_left hdims
    have hclosing := (d.dims_eq pair (by rw [hpairs]; simp)).2
    have hlast : d.name :: dimTokens d.dims = (d.name :: (dimTokens dims ++ [pair.1])) ++ [pair.2] := by
      simp [hpairs, dimTokens]
    rw [hlast, ← List.append_assoc, List.getLast?_concat]
    dsimp only
    rw [Token.isIdent_of_isPunct hclosing]
    rfl

theorem read?_nil : Parameter.read? [] = none := by
  rw [Parameter.read?, Parameter.dropAnnotations]
  rfl

theorem readAll_nil : Parameter.readAll [] = [] := by
  rw [Parameter.readAll, Parameter.cut, List.filterMap_cons_none read?_nil]
  rfl

theorem readAll_front {front : List Token} (h : OpensPart front) (rest : List Token)
    : Parameter.readAll (front ++ rest) = Parameter.readAll front ++ Parameter.readAll rest := by
  rcases h with rfl | ⟨before, comma, rfl, hcomma, hsum⟩
  · rw [readAll_nil]
    rfl
  · have hcut : ∀ rest, Parameter.cut 0 (before ++ comma :: rest)
        = Parameter.cut 0 before ++ Parameter.cut 0 rest :=
      Parameter.cut_comma hcomma (by rw [hsum]; rfl)
    rw [List.append_assoc, List.singleton_append]
    have hnil := readAll_nil
    unfold Parameter.readAll at hnil ⊢
    rw [hcut, hcut, List.filterMap_append, List.filterMap_append, hnil, List.append_nil]

theorem readAll_tokens (hfinal : d.modifiers.all VariableModifier.isFinal = true)
    {front back : List Token} (hfront : OpensPart front) (hback : EndsPart back)
    : Parameter.readAll (front ++ (d.tokens ++ back))
        =
      Parameter.readAll front ++ (Parameter.read? d.tokens).toList ++ Parameter.readAll back := by
  have hflat : ∀ t ∈ VariableModifier.listTokens d.modifiers,
      Parameter.nesting t = 0 ∧ t.isPunct "," = false := by
    intro t ht
    obtain ⟨m, hm, ht⟩ := List.mem_flatMap.1 ht
    have hm := List.all_eq_true.1 hfinal m hm
    cases m with
    | final word hword =>
      have hident := Token.isIdent_of_isWord hword
      rw [List.mem_singleton.1 ht]
      exact ⟨Parameter.nesting_ident hident, Cursor.isPunct_of_isIdent hident ","⟩
    | annotation => cases hm
  have hname := Access.isIdent_of_isPlain d.name_eq
  have hflat' : ∀ t ∈ d.name :: dimTokens d.dims,
      Parameter.nesting t = 0 ∧ t.isPunct "," = false :=
    List.forall_mem_cons.2 ⟨⟨Parameter.nesting_ident hname, Cursor.isPunct_of_isIdent hname ","⟩,
      flat_dims d.dims_eq⟩
  -- No comma of the declaration cuts it, so all of it goes to the first part.
  have hcut : Parameter.cut 0 (d.tokens ++ back)
      = Parameter.prepend d.tokens (Parameter.cut 0 back) := by
    rw [tokens, List.append_assoc, List.append_assoc, Parameter.cut_flat hflat,
      WrittenType.cut_tokens d.type_eq, Parameter.cut_flat hflat', Parameter.prepend_prepend,
      Parameter.prepend_prepend, List.append_assoc]
  have hread : ∀ parts, (d.tokens :: parts).filterMap Parameter.read?
      = (Parameter.read? d.tokens).toList ++ parts.filterMap Parameter.read? := by
    intro parts
    cases hread : Parameter.read? d.tokens with
    | none => exact List.filterMap_cons_none hread
    | some p => exact List.filterMap_cons_some hread
  rw [readAll_front hfront, List.append_assoc]
  congr 1
  rcases hback with rfl | ⟨comma, behind, rfl, hcomma⟩
  · rw [readAll_nil, Parameter.readAll, hcut, Parameter.cut, Parameter.prepend, List.append_nil,
      hread, List.filterMap_nil]
  · have hbehind : Parameter.cut 0 ([] ++ comma :: behind)
        = Parameter.cut 0 [] ++ Parameter.cut 0 behind :=
      Parameter.cut_comma hcomma rfl behind
    rw [List.nil_append, Parameter.cut, List.singleton_append] at hbehind
    rw [Parameter.readAll, hcut, Parameter.readAll, hbehind, Parameter.prepend, List.append_nil,
      List.filterMap_cons_none read?_nil, hread]

/-! As a local variable. -/

def IsLocal (after : List Token) (type : Option TypeName) : Prop :=
  ∃ length, Access.local? false (d.tokens ++ after) = some ⟨d.name.text, type, length⟩

def localType (after : List Token) : Option TypeName :=
  if d.dims ≠ [] then none
  else if d.type.named.text = "var" then Access.inferredType? after
  else some d.type.typeName

theorem local?_tokens {after : List Token} (h : Access.endsDeclarator after = true)
    : Access.local? false (d.tokens ++ after)
        =
      if d.modifiers.all VariableModifier.isFinal then
        some ⟨d.name.text, d.localType after,
          (VariableModifier.listTokens d.modifiers ++ d.type.tokens).length + 1⟩
      else
        none := by
  have hafter : Access.starts (·.isPunct "[") after = false := by
    cases after with
    | nil => rfl
    | cons t after =>
      rw [Access.endsDeclarator, Token.isPunctOf, Bool.and_eq_true, List.contains_iff_mem] at h
      rw [Access.starts, Token.isPunct, Bool.and_eq_false_iff, beq_eq_false_iff_ne (a := t.text)]
      right
      rintro heq
      rw [heq] at h
      exact absurd h.2 (by decide)
  have htokens : d.tokens ++ after = VariableModifier.listTokens d.modifiers
      ++ (d.type.tokens ++ d.name :: (dimTokens d.dims ++ after)) := by
    simp [tokens]
  have hsplit := VariableModifier.splitType?_listTokens d.modifiers d.type.named.first_not_modifier
     (d.type.more ++ d.name :: (dimTokens d.dims ++ after))
  have htype := WrittenType.splitType?_tokens d.type_eq d.first_eq
    (Access.isIdent_of_isPlain d.name_eq) (dimTokens d.dims ++ after)
  -- Only `final` is passed over, so behind an annotation no type is read.
  rw [Cursor.local?_eq, htokens]
  change (Access.splitType? ((VariableModifier.listTokens d.modifiers
    ++ d.type.named.first :: (d.type.more ++ d.name :: (dimTokens d.dims ++ after))).dropWhile
      _)).bind _ = _
  rw [hsplit]
  split
  · change (Access.splitType? (d.type.tokens ++ d.name :: (dimTokens d.dims ++ after))).bind _ = _
    have hvar : ((TypeName.read? d.type.tokens).any (·.name == "var"))
        = decide (d.type.named.text = "var") := by
      rw [WrittenType.read?_tokens]
      rfl
    have hempty : (!(dimTokens d.dims).isEmpty) = decide (d.dims ≠ []) := by
      cases d.dims with
      | nil => rfl
      | cons pair dims => rfl
    rw [htype, Option.bind_some, Cursor.localBehind, splitDims_dims d.dims_eq hafter]
    dsimp only
    rw [d.name_eq, h, Bool.false_or, Bool.and_self, if_pos rfl, hvar, hempty,
      WrittenType.read?_tokens]
    congr 2
    · simp only [localType, decide_eq_true_eq]
    · simp only [List.length_append, List.length_cons]
      omega
  · rfl

/-! The three readers together. -/

theorem reference?_var (names : TypeNames) (h : d.type.named.text = "var")
    : names.reference? d.type.typeName = none := by
  rw [TypeNames.reference?, if_neg]
  rw [TypeName.isReference, WrittenType.typeName, h, Bool.and_eq_true]
  rintro ⟨-, hword⟩
  cases hword

/--
The declaration is read as a field, as a parameter and as a local variable, and it gets one usable
type as all three.
-/
def Agrees (names : TypeNames) (after : List Token) : Prop :=
  ∃ field parameter localType, d.IsField field ∧ d.IsParameter parameter
    ∧ d.IsLocal after localType
    ∧ field.bind names.reference? = names.reference? parameter
    ∧ localType.bind names.reference? = names.reference? parameter

theorem Agrees.plain {d : VariableDeclaration} {names : TypeNames} {after : List Token}
    (hagrees : d.Agrees names after) (h : Access.endsDeclarator after = true)
    : d.dims = [] ∧ (∀ m ∈ d.modifiers, m.isFinal = true)
        ∧ (d.type.named.text = "var"
          → (Access.inferredType? after).bind names.reference? = none) := by
  obtain ⟨field, parameter, type, -, hparameter, ⟨length, hlocal⟩, -, htype⟩ := hagrees
  rw [d.local?_tokens h, Option.ite_none_right_eq_some, Option.some.injEq] at hlocal
  obtain ⟨hfinal, hlocal⟩ := hlocal
  have hread := hparameter [] [] (.inl rfl) (.inl rfl)
  rw [d.readAll_tokens hfinal (.inl rfl) (.inl rfl), readAll_nil, d.read?_tokens,
    List.nil_append, List.nil_append, List.append_nil] at hread
  have hdims : d.dims = [] ∧ d.IsBareBehind := by
    by_contra hnot
    rw [if_neg hnot] at hread
    cases hread
  rw [if_pos hdims, Option.toList_some, List.cons.injEq, Prod.mk.injEq] at hread
  refine ⟨hdims.1, List.all_eq_true.1 hfinal, ?_⟩
  intro hvar
  rw [Access.Local.mk.injEq, localType, if_neg (not_not.2 hdims.1), if_pos hvar] at hlocal
  rw [hlocal.2.1, htype, ← hread.1.2]
  exact d.reference?_var names hvar

theorem agrees_of_plain {names : TypeNames} {after : List Token}
    (h : Access.endsDeclarator after = true) (hdims : d.dims = [])
    (hmodifiers : ∀ m ∈ d.modifiers, m.isFinal = true)
    (hinferred : d.type.named.text = "var"
      → (Access.inferredType? after).bind names.reference? = none)
    : d.Agrees names after := by
  have hfinal : d.modifiers.all VariableModifier.isFinal = true := List.all_eq_true.2 hmodifiers
  have hbare : d.IsBareBehind := by
    intro m hm
    have hm := hmodifiers m ((List.dropWhile_suffix _).subset hm)
    cases m with
    | final => rfl
    | annotation => cases hm
  refine ⟨_, d.type.typeName, d.localType after, d.isField, ?_, ?_, rfl, ?_⟩
  · intro front back hfront hback
    rw [d.readAll_tokens hfinal hfront hback, d.read?_tokens, if_pos ⟨hdims, hbare⟩,
      Option.toList_some, List.append_assoc, List.singleton_append]
  · rw [IsLocal, d.local?_tokens h, if_pos hfinal]
    exact ⟨_, rfl⟩
  · rw [localType, if_neg (not_not.2 hdims)]
    split
    · next hvar => rw [hinferred hvar, d.reference?_var names hvar]
    · rfl

/--
As a field the declaration always has the type that stands before its name. As a parameter it is
lost if brackets stand behind the name, or if an annotation behind the word `final` has arguments or
dots. As a local variable it is lost if there is an annotation, and brackets behind the name take
its type away. So the three readers agree exactly if there are neither brackets behind the name nor
annotations, and no type is inferred that can be used.
-/
theorem agrees_iff (names : TypeNames) {after : List Token}
    (h : Access.endsDeclarator after = true)
    : d.IsField (some d.type.typeName)
        ∧ Parameter.read? d.tokens
          = (if d.dims = [] ∧ d.IsBareBehind then some (d.name.text, d.type.typeName) else none)
        ∧ (Access.local? false (d.tokens ++ after)).map (fun v => (v.name, v.type))
          = (if d.modifiers.all VariableModifier.isFinal then
              some (d.name.text, d.localType after)
            else
              none)
        ∧ (d.Agrees names after
          ↔ d.dims = [] ∧ (∀ m ∈ d.modifiers, m.isFinal = true)
            ∧ (d.type.named.text = "var"
              → (Access.inferredType? after).bind names.reference? = none)) := by
  refine ⟨d.isField, d.read?_tokens, ?_, ?_⟩
  · rw [d.local?_tokens h]
    split
    · rfl
    · rfl
  · constructor
    · exact fun hagrees => hagrees.plain h
    · rintro ⟨hdims, hmodifiers, hinferred⟩
      exact d.agrees_of_plain h hdims hmodifiers hinferred

def finalMap : VariableDeclaration where
  modifiers := [.final (.onFirstLine .ident "final" 0) (by decide)]
  type :=
    { named := .generic
        (.name (.onFirstLine .ident "Map" 6) (by decide) (by decide) (by decide))
        (.onFirstLine .punct "<" 9)
        [.onFirstLine .ident "String" 10, .onFirstLine .punct "," 16, .onFirstLine .ident "Tab" 18]
        (.onFirstLine .punct ">" 21) (by decide)
        (.other (by decide) (by decide) (.other (by decide) (by decide)
          (.other (by decide) (by decide) .nil))) (by decide)
      dims := []
      dims_eq := areDims_nil }
  name := .onFirstLine .ident "m" 23
  dims := []
  type_eq := ⟨trivial, by decide⟩
  first_eq := by decide
  kind_eq := by decide
  name_eq := by decide
  dims_eq := areDims_nil

theorem agrees_iff_finalMap
    : Access.endsDeclarator [.onFirstLine .punct "=" 25] = true
        ∧ finalMap.Agrees {} [.onFirstLine .punct "=" 25] := by
  refine ⟨by decide, ((finalMap.agrees_iff {} (by decide)).2.2.2).2 ⟨rfl, ?_, ?_⟩⟩
  · decide
  · intro hvar
    exact absurd hvar (by decide)

def tabArray : VariableDeclaration where
  modifiers := []
  type :=
    { named := .name (.onFirstLine .ident "Tab" 10) (by decide) (by decide) (by decide)
      dims := []
      dims_eq := areDims_nil }
  name := .onFirstLine .ident "ts" 14
  dims := [(.onFirstLine .punct "[" 16, .onFirstLine .punct "]" 17)]
  type_eq := trivial
  first_eq := by decide
  kind_eq := by decide
  name_eq := by decide
  dims_eq := by
    intro pair hpair
    rw [List.mem_singleton.1 hpair]
    decide

/--
The readers do not agree on an array with its brackets behind the name. As a field it has the type
of its elements.
-/
theorem tabArray_not_agrees
    : ∃ tokens, tokenize "class A { Tab ts[]; void m() { ts.close(); } }" = .ok tokens
        ∧ (∃ front back, tokens = front ++ (tabArray.tokens ++ back)
          ∧ Access.endsDeclarator back = true ∧ ∀ names, ¬ tabArray.Agrees names back)
        ∧ (outline tokens).declarations.types.map
            (·.members.map fun m => (m.name, m.type.bind (outline tokens).typeNames.reference?))
          = [[("ts", some (.simple "Tab" ["", "java.lang"])), ("m", none)]] := by
  have hcheck : tokenize "class A { Tab ts[]; void m() { ts.close(); } }"
      |>.toOption.any fun tokens =>
        decide (tokens = tokens.take 3 ++ (tabArray.tokens ++ tokens.drop 7)
          ∧ Access.endsDeclarator (tokens.drop 7) = true
          ∧ (outline tokens).declarations.types.map
              (·.members.map fun m => (m.name, m.type.bind (outline tokens).typeNames.reference?))
            = [[("ts", some (.simple "Tab" ["", "java.lang"])), ("m", none)]]) := by
    decide +kernel
  obtain ⟨tokens, hlex, hcheck⟩ := exists_tokenize_ok hcheck
  rw [decide_eq_true_eq] at hcheck
  obtain ⟨htokens, hends, hmembers⟩ := hcheck
  refine ⟨tokens, hlex, ⟨_, _, htokens, hends, ?_⟩, hmembers⟩
  intro names hagrees
  have hdims := (hagrees.plain hends).1
  cases hdims

end VariableDeclaration

end DeprecatedUse.Java
