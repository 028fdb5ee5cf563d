import DeprecatedUse.Proofs.Index.Resolution
import DeprecatedUse.Proofs.Java.Cursor.Accesses
import DeprecatedUse.Proofs.Java.TypeTable

/-!
This module contains where the names in the table of types come from. Whatever the text, and
wherever it names packages, each type is named by an identifier of the text, and its full name
begins with that of the type around it or with a package that is named before it. So the search for
a field in the types around a body ends, and the full name of a member tells its type and its name.
-/

namespace DeprecatedUse.Java

/-! Packages as they are written. -/

def IsDotted : List Token → Prop
  | [] => False
  | [t] => (t.isIdent || t.isPunct "*") = true
  | t :: dot :: rest =>
    (t.isIdent || t.isPunct "*") = true ∧ dot.isPunct "." = true ∧ IsDotted rest

def NamesPackage (tokens : List Token) (package : String) : Prop :=
  ∃ before word clause after, before ++ word :: clause ++ after = tokens
    ∧ word.isWord "package" = true ∧ Reader.starts Token.isIdent clause = true ∧ IsDotted clause
    ∧ package = String.join (clause.map Token.text)

theorem NamesPackage.append {tokens : List Token} {package : String}
    (h : NamesPackage tokens package) (more : List Token)
    : NamesPackage (tokens ++ more) package := by
  obtain ⟨before, word, clause, after, rfl, hclause⟩ := h
  exact ⟨before, word, clause, after ++ more, (List.append_assoc ..).symm, hclause⟩

namespace Reader

theorem starts_eq_head? (p : Token → Bool) (tokens : List Token)
    : starts p tokens = tokens.head?.any p := by
  cases tokens <;> rfl

theorem dottedName_written (name : String) (tokens : List Token)
    (h : starts (fun t => t.isIdent || (name != "" && t.isPunct "*")) tokens = true)
    : ∃ clause, clause ++ (dottedName name tokens).2 = tokens
        ∧ clause.head? = tokens.head? ∧ IsDotted clause
        ∧ (dottedName name tokens).1 = name ++ String.join (clause.map Token.text) := by
  have hmark : ∀ {t : Token} {name : String}, (t.isIdent || (name != "" && t.isPunct "*")) = true →
      (t.isIdent || t.isPunct "*") = true := by
    intro t name ht
    rw [Bool.or_eq_true, Bool.and_eq_true] at ht
    rw [Bool.or_eq_true]
    exact ht.imp_right And.right
  fun_induction dottedName name tokens with
  | case1 => cases h
  | case2 name t ht dot next more hdot ih =>
    rw [Bool.and_eq_true] at hdot
    have hname : (name ++ t.text ++ "." != "") = true := by simp
    obtain ⟨clause, happend, hhead, hdotted, htext⟩ := ih (by
      rw [starts, hname, Bool.true_and]
      exact hdot.2)
    refine ⟨t :: dot :: clause, by rw [List.cons_append, List.cons_append, happend], rfl,
      ⟨hmark ht, hdot.1, hdotted⟩, ?_⟩
    have hdottext : dot.text = "." := by
      rw [Token.isPunct, Bool.and_eq_true, beq_iff_eq, beq_iff_eq] at hdot
      exact hdot.1.2
    rw [htext, List.map_cons, List.map_cons, String.join_cons, String.join_cons, hdottext,
      String.append_assoc, String.append_assoc]
  | case3 name t ht dot next more =>
    exact ⟨[t], rfl, rfl, hmark ht, by simp⟩
  | case4 name t ht rest =>
    exact ⟨[t], rfl, rfl, hmark ht, by simp⟩
  | case5 name t rest ht => exact absurd h ht

theorem namesPackage_dottedName {before taken rest : List Token} {word : Token}
    (hword : word.isWord "package" = true) (htaken : taken ++ (dottedName "" rest).2 = rest)
    (hname : (dottedName "" rest).1 ≠ "")
    : NamesPackage (before ++ word :: taken) (dottedName "" rest).1 := by
  have hstart : starts Token.isIdent rest = true := by
    cases rest with
    | nil => exact absurd rfl hname
    | cons t rest =>
      by_contra hident
      rw [starts, Bool.not_eq_true] at hident
      rw [dottedName.eq_def] at hname
      simp [hident] at hname
  obtain ⟨clause, happend, hhead, hdotted, htext⟩ :=
    dottedName_written "" rest (by simpa using hstart)
  obtain rfl : taken = clause := List.append_cancel_right (htaken.trans happend.symm)
  refine ⟨before, word, taken, [], List.append_nil _, hword, ?_, hdotted, ?_⟩
  · rwa [starts_eq_head?, hhead, ← starts_eq_head?]
  · rw [htext, String.empty_append]

variable {o : Outline} {tokens rest : List Token} {enclosing : List OpenType}

theorem Reached.namesPackage (h : Reached tokens o enclosing rest) {package : String}
    (hpackage : o.package = some package) (hne : package ≠ "") {before : List Token}
    (hbefore : before ++ rest = tokens) : NamesPackage before package := by
  induction h generalizing before with
  | start => cases hpackage
  | @step o enclosing t rest h ih =>
    obtain ⟨read, hread⟩ := h.suffix
    obtain ⟨taken, htaken⟩ := leftOver_suffix (step_suffix o enclosing t rest)
    have hread' : read ++ t :: taken ++ leftOver rest (Reader.step o enclosing t rest).2.2
        = tokens := by
      rw [List.append_assoc, List.cons_append, htaken, hread]
    obtain rfl := List.append_cancel_right (hbefore.trans hread'.symm)
    cases step_declares o enclosing t rest with
    | nothing h => exact (ih (h.package.symm.trans hpackage) hread).append _
    | type h => exact (ih (h.package.symm.trans hpackage) hread).append _
    | package _ ht _ hnamed hleft =>
      rw [hnamed, Option.some.injEq] at hpackage
      subst hpackage
      rw [hleft, leftOver_of_suffix (dottedName_suffix "" rest)] at htaken
      exact namesPackage_dottedName ht htaken hne

end Reader

/-! Types as they are written. -/

/--
The type is named by an identifier among these tokens. If no type is around it, its full name is its
name alone, or it begins with a package that is named before.
-/
def TypeHead.IsWritten (tokens : List Token) (head : TypeHead) : Prop :=
  ∃ (before : List Token) (name : Token) (after : List Token), before ++ name :: after = tokens
    ∧ name.isIdent = true ∧ name.text = head.name ∧ name.span = head.span
    ∧ (head.outer = none → head.qualifiedName = head.name
      ∨ ∃ package, NamesPackage before package
        ∧ head.qualifiedName = package ++ "." ++ head.name)

theorem Reader.Reached.isWritten {o : Outline} {tokens rest : List Token}
    {enclosing : List OpenType} (h : Reached tokens o enclosing rest) {head : TypeHead}
    (hhead : head ∈ o.heads) : head.IsWritten tokens := by
  obtain ⟨place, hplace⟩ := List.mem_iff_getElem?.1 hhead
  obtain ⟨o₀, enclosing₀, t, rest₀, name, hreached, -, htype, rfl⟩ := h.exists_declares hplace
  obtain ⟨read, hread⟩ := hreached.suffix
  obtain ⟨front, after, hfront⟩ := List.append_of_mem htype.mem
  refine ⟨read ++ front, name, after, by rw [List.append_assoc, ← hfront, hread], htype.isIdent,
    rfl, rfl, ?_⟩
  intro houter
  change enclosing₀.head?.map OpenType.place = none at houter
  have hfull : (newHead o₀ enclosing₀ name).qualifiedName
      = qualify (o₀.package.getD "") name.text := by
    rw [newHead, houter]
    rfl
  rw [hfull, qualify]
  split
  · exact .inl rfl
  · next hne =>
    cases hpackage : o₀.package with
    | none =>
      rw [hpackage] at hne
      exact absurd rfl hne
    | some package =>
      rw [hpackage] at hne
      exact .inr ⟨package, (hreached.namesPackage hpackage hne hread).append front, rfl⟩

theorem owner_lt_of_mem_bodies {tokens : List Token} {body : Body}
    (h : body ∈ (outline tokens).bodies) : body.owner < (outline tokens).entries.length := by
  obtain ⟨s, -, hvalid, hs⟩ := Cursor.declarations_outline tokens
  rw [← hs] at h ⊢
  obtain ⟨region, hregion, rfl⟩ := List.mem_map.1 h
  exact (hvalid.regions region hregion).1

/-! The table. -/

namespace Declarations

/--
What the types of a text with these tokens are like, whatever stands in it.
-/
structure WellFormed (d : Declarations) (tokens : List Token) : Prop where
  /-- A type inside another one stands behind it and continues its full name. -/
  inside : ∀ (place outer : Nat) (type : TypeDecl), d.types[place]? = some type →
    type.outer = some outer → outer < place ∧ ∃ around, d.types[outer]? = some around
      ∧ type.qualifiedName = around.qualifiedName ++ "." ++ type.name
  written : ∀ type, type ∈ d.types → type.head.IsWritten tokens
  isName : ∀ type, type ∈ d.types → IsName type.name
  member : ∀ type, type ∈ d.types → ∀ m, m ∈ type.members →
    IsIdentOf tokens m.name ∧ IsName m.name
  /-- The last dot of the full name of a member stands between its type and its name. -/
  fullName : ∀ type, type ∈ d.types → ∀ m, m ∈ type.members → ∀ s : Symbol,
    s.qualifiedName = type.qualifiedName ++ "." ++ m.name →
    s.memberName = m.name ∧ ∀ front back : String, '.' ∉ back.toList →
      (s.qualifiedName = front ++ "." ++ back ↔ type.qualifiedName = front ∧ m.name = back)
  owner : ∀ body, body ∈ (outline tokens).bodies → body.owner < d.types.length
  /-- From each type on, the run that looks for a field in the types around ends. -/
  walk : ∀ (names : TypeNames) (place : Nat) (name : String), place < d.types.length →
    Cursor.field ⟨names, d.types, place⟩ name place
      = pure (Surroundings.field? ⟨names, d.types, place⟩ name)

end Declarations

namespace SourceUnit

variable {id : UnitId} {text : String} {u : SourceUnit} {tokens : List Token}

theorem heads_declared (h : parse id text = .ok u) (htokens : tokenize text = .ok tokens)
    : u.declarations.types.map TypeDecl.head = (outline tokens).heads := by
  rw [parse_of_tokenize id htokens, Except.ok.injEq] at h
  rw [← h]
  exact Outline.heads_declarations _

theorem isWritten_declared (h : parse id text = .ok u) (htokens : tokenize text = .ok tokens)
    {type : TypeDecl} (htype : type ∈ u.declarations.types) : type.head.IsWritten tokens := by
  obtain ⟨enclosing, hreached⟩ := Reader.reached_outline tokens
  apply hreached.isWritten
  rw [← heads_declared h htokens]
  exact List.mem_map_of_mem htype

theorem exists_around_declared (h : parse id text = .ok u) (htokens : tokenize text = .ok tokens)
    {place outer : Nat} {type : TypeDecl} (htype : u.declarations.types[place]? = some type)
    (houter : type.outer = some outer)
    : outer < place ∧ ∃ around, u.declarations.types[outer]? = some around
        ∧ type.qualifiedName = around.qualifiedName ++ "." ++ type.name := by
  obtain ⟨enclosing, hreached⟩ := Reader.reached_outline tokens
  refine TypeDecl.exists_around_of_heads (fun place head outer => ?_) htype houter
  rw [heads_declared h htokens]
  exact hreached.exists_around

theorem owner_lt_declared (h : parse id text = .ok u) (htokens : tokenize text = .ok tokens)
    {body : Body} (hbody : body ∈ (outline tokens).bodies)
    : body.owner < u.declarations.types.length := by
  have hlength := congrArg List.length (heads_declared h htokens)
  rw [List.length_map, Outline.length_heads] at hlength
  rw [hlength]
  exact owner_lt_of_mem_bodies hbody

/--
The types of every text form a table. A type stands behind the type around it and continues its full
name; the full name of a type that no other type encloses is its name, if need be behind a package
that the text names before. All names of types and members are identifiers of the text, which are
not empty and hold no dot. So the search through the types around a body ends, and the full name of
a member tells its type and its name.
-/
theorem wellFormed_declarations (h : parse id text = .ok u)
    : ∃ tokens, tokenize text = .ok tokens ∧ u.declarations.WellFormed tokens := by
  obtain ⟨tokens, htokens, -⟩ := parse_ok h
  refine ⟨tokens, htokens, ?_⟩
  constructor
  case inside => exact fun place outer type => exists_around_declared h htokens
  case written => exact fun type => isWritten_declared h htokens
  case isName =>
    intro type htype
    obtain ⟨before, name, after, rfl, hident, hname, -⟩ := isWritten_declared h htokens htype
    have hisName := isName_of_mem_tokenize htokens (by simp) hident
    rwa [hname] at hisName
  case member =>
    intro type htype m hm
    exact ⟨isIdentOf_declared h htokens htype hm, isName_declared h htype hm⟩
  case fullName =>
    intro type htype m hm s hs
    have hdot := (isName_declared h htype hm).2
    refine ⟨?_, ?_⟩
    · rw [Symbol.memberName, hs, lastSegment_append hdot]
    · intro front back hback
      rw [hs, append_dot_inj hdot hback]
  case owner => exact fun body => owner_lt_declared h htokens
  case walk =>
    intro names place name hplace
    refine Cursor.field_eq ⟨hplace, ?_⟩ name hplace
    exact fun place type outer htype houter => (exists_around_declared h htokens htype houter).1

theorem wellFormed_declarations_packages
    : let text := "class A \x7b enum E \x7b X \x7b \x7d; class I \x7b \x7d \x7d \x7d "
        ++ "package a /**/ . b; record R(int n) \x7b class S \x7b int f, g; \x7d \x7d ) "
        ++ "package ; class B \x7b\x7d package c.*; class class \x7b void m(; \x7d"
      ∃ u, parse "A.java" text = .ok u
        ∧ u.declarations.types.map TypeDecl.qualifiedName
          = ["A", "A.E", "A.E.I", "a.b.R", "a.b.R.S", "B", "c.*.class"]
        ∧ ∃ tokens, tokenize text = .ok tokens ∧ u.declarations.WellFormed tokens := by
  intro text
  have hcheck : (tokenize text).toOption.any fun tokens =>
      (ofTokens "A.java" text tokens).declarations.types.map TypeDecl.qualifiedName
        == ["A", "A.E", "A.E.I", "a.b.R", "a.b.R.S", "B", "c.*.class"] := by
    decide +kernel
  obtain ⟨tokens, htokens, hnames⟩ := exists_tokenize_ok hcheck
  have hparse := parse_of_tokenize "A.java" htokens
  exact ⟨_, hparse, eq_of_beq hnames, wellFormed_declarations hparse⟩

end SourceUnit

end DeprecatedUse.Java
