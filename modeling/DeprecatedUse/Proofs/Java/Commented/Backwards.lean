import DeprecatedUse.Proofs.Java.Commented.Splits
import DeprecatedUse.Proofs.Java.Cursor.Receivers
import Mathlib

/-!
This module contains the reading of a body backwards across a documentation comment that stands
behind the end of a statement: receivers, creations of objects and the parameters of lambdas. They
are those that are read without the comment.
-/

namespace DeprecatedUse.Java.Access

variable {d : Token}

/-! Ends of statements. -/

def isStop (t : Token) : Bool :=
  t.isPunctOf [";", "\x7b", "\x7d"]

def Fenced (tokens : List Token) : Prop :=
  ∀ t, tokens.head? = some t → t.kind = .doc ∨ isStop t = true

theorem fenced_cons_doc (hd : d.kind = .doc) (tokens : List Token) : Fenced (d :: tokens) := by
  intro t ht
  rw [List.head?_cons, Option.some.injEq] at ht
  rw [← ht]
  exact .inl hd

theorem isStop_iff {t : Token}
    : isStop t = true ↔ t.kind = .punct ∧ (t.text = ";" ∨ t.text = "\x7b" ∨ t.text = "\x7d") := by
  simp [isStop, Token.isPunctOf]

theorem isIdent_of_isStop {t : Token} (h : isStop t = true) : t.isIdent = false := by
  rw [Token.isIdent, (isStop_iff.1 h).1]
  rfl

theorem isWord_of_isStop {t : Token} (h : isStop t = true) (word : String)
    : t.isWord word = false := by
  rw [Token.isWord, (isStop_iff.1 h).1]
  rfl

theorem isPunctOf_of_isStop {t : Token} (h : isStop t = true) (marks : List String)
    (hmarks : ∀ mark ∈ marks, mark ≠ ";" ∧ mark ≠ "\x7b" ∧ mark ≠ "\x7d")
    : t.isPunctOf marks = false := by
  rw [Token.isPunctOf, Bool.and_eq_false_iff]
  right
  rw [Bool.eq_false_iff, ne_eq, List.contains_iff_mem]
  intro hmem
  obtain ⟨hend, hopening, hclosing⟩ := hmarks _ hmem
  rcases (isStop_iff.1 h).2 with htext | htext | htext
  · exact hend htext
  · exact hopening htext
  · exact hclosing htext

theorem isPunct_of_isStop {t : Token} (h : isStop t = true) (mark : String)
    (hmark : mark ≠ ";" ∧ mark ≠ "\x7b" ∧ mark ≠ "\x7d") : t.isPunct mark = false := by
  have hmarks := isPunctOf_of_isStop h [mark] (by simpa using hmark)
  simpa [Token.isPunct, Token.isPunctOf] using hmarks

theorem Fenced.starts {tokens : List Token} (h : Fenced tokens) {p : Token → Bool}
    (hdoc : ∀ t, t.kind = .doc → p t = false) (hstop : ∀ t, isStop t = true → p t = false)
    : starts p tokens = false := by
  cases tokens with
  | nil => rfl
  | cons t tokens =>
    rcases h t rfl with ht | ht
    · exact hdoc t ht
    · exact hstop t ht

theorem Fenced.starts_isIdent {tokens : List Token} (h : Fenced tokens)
    : Access.starts Token.isIdent tokens = false :=
  h.starts (fun _ => Token.isIdent_of_doc) fun _ => isIdent_of_isStop

theorem Fenced.starts_isWord {tokens : List Token} (h : Fenced tokens) (word : String)
    : Access.starts (·.isWord word) tokens = false :=
  h.starts (fun _ ht => Token.isWord_of_doc ht word) fun _ ht => isWord_of_isStop ht word

theorem Fenced.starts_isPunct {tokens : List Token} (h : Fenced tokens) (mark : String)
    (hmark : mark ≠ ";" ∧ mark ≠ "\x7b" ∧ mark ≠ "\x7d")
    : Access.starts (·.isPunct mark) tokens = false :=
  h.starts (fun _ ht => Token.isPunct_of_doc ht mark) fun _ ht => isPunct_of_isStop ht mark hmark

theorem Fenced.starts_isPunctOf {tokens : List Token} (h : Fenced tokens) (marks : List String)
    (hmarks : ∀ mark ∈ marks, mark ≠ ";" ∧ mark ≠ "\x7b" ∧ mark ≠ "\x7d")
    : Access.starts (·.isPunctOf marks) tokens = false :=
  h.starts (fun _ ht => Token.isPunctOf_of_doc ht marks) fun _ ht =>
    isPunctOf_of_isStop ht marks hmarks

theorem starts_append {p : Token → Bool} {fence : List Token} (h : starts p fence = false)
    (tokens : List Token) : starts p (tokens ++ fence) = starts p tokens := by
  cases tokens with
  | nil => exact h
  | cons t tokens => rfl

theorem chain_append {fence : List Token} (h : Fenced fence) (names before : List Token)
    : chain names (before ++ fence)
        =
      ((chain names before).1, (chain names before).2 ++ fence) := by
  have hident := h.starts_isIdent
  have hdot := h.starts_isPunct "." (by decide)
  -- Where the chain ends for want of tokens, the fence shows it neither a dot nor a name.
  fun_induction chain names before with
  | case1 names dot name before hmark ih =>
    rw [List.cons_append, List.cons_append, chain, if_pos hmark]
    exact ih
  | case2 names dot name before hmark =>
    rw [List.cons_append, List.cons_append, chain, if_neg hmark]
  | case3 names before hshort =>
    cases before with
    | nil =>
      cases fence with
      | nil => rfl
      | cons first fence =>
        cases fence with
        | nil => rfl
        | cons second fence =>
          rw [Access.starts] at hdot
          rw [List.nil_append, chain, if_neg (by rw [hdot]; exact Bool.false_ne_true)]
    | cons dot before =>
      cases before with
      | nil =>
        cases fence with
        | nil => rfl
        | cons first fence =>
          rw [Access.starts] at hident
          rw [List.singleton_append, chain, hident, Bool.and_false, if_neg Bool.false_ne_true]
      | cons name before => exact absurd rfl (hshort dot name before)

def newBefore? : List Token → Option (Token × String)
  | [] => none
  | last :: before =>
    if last.isIdent then
      match chain [last] before with
      | (_, []) => none
      | (names, new :: _) => if new.isWord "new" then some (new, dotted names) else none
    else
      none

theorem creation?_eq (t : Token) (before : List Token)
    : creation? (t :: before)
        =
      if t.isPunct ")" then
        (Bracket.round.flip.close? 0 before).bind fun group => newBefore? (beforeArguments group.2)
      else
        none := by
  rw [creation?]
  cases Bracket.round.flip.close? 0 before with
  | none => rfl
  | some group =>
    rw [Option.bind_some]
    dsimp only
    cases beforeArguments group.2 with
    | nil => rfl
    | cons last before => rfl

theorem newBefore?_append {fence : List Token} (h : Fenced fence) (before : List Token)
    : newBefore? (before ++ fence) = newBefore? before := by
  cases before with
  | nil =>
    have hident := h.starts_isIdent
    cases fence with
    | nil => rfl
    | cons t fence =>
      rw [Access.starts] at hident
      change (if t.isIdent then _ else none) = none
      rw [hident]
      rfl
  | cons last before =>
    have hnew := h.starts_isWord "new"
    rw [List.cons_append, newBefore?, newBefore?, chain_append h]
    -- A chain that takes all tokens meets the fence where the word would stand.
    cases hchain : chain [last] before with
    | mk names left =>
      cases left with
      | cons new left => rfl
      | nil =>
        cases fence with
        | nil => rfl
        | cons t fence =>
          rw [Access.starts] at hnew
          dsimp only [List.nil_append]
          rw [hnew]
          rfl

theorem newBefore?_beforeArguments_doc (hd : d.kind = .doc) {fence : List Token} (h : Fenced fence)
    (before : List Token)
    : newBefore? (beforeArguments (before ++ d :: fence))
        =
      newBefore? (beforeArguments (before ++ fence)) := by
  have hdoc := fenced_cons_doc hd fence
  -- A list that starts with a fence ends in no type argument list.
  have hfence : ∀ {fence}, Fenced fence → beforeArguments fence = fence := by
    intro fence h
    have hangle := h.starts_isPunct ">" (by decide)
    cases fence with
    | nil => rfl
    | cons t fence =>
      rw [Access.starts] at hangle
      rw [beforeArguments, if_neg (by rw [hangle]; exact Bool.false_ne_true)]
  cases before with
  | nil =>
    rw [List.nil_append, List.nil_append, hfence hdoc, hfence h]
    exact (newBefore?_append hdoc []).trans (newBefore?_append h []).symm
  | cons t before =>
    rw [List.cons_append, List.cons_append, beforeArguments, beforeArguments]
    split
    · have hclose := Bracket.close?_doc hd Bracket.angle.flip 0 before fence
      generalize Bracket.angle.flip.close? 0 (before ++ d :: fence) = r,
        Bracket.angle.flip.close? 0 (before ++ fence) = r' at hclose
      cases hclose with
      | none => rfl
      | some hgroup =>
        cases hgroup with
        | before taken rest =>
          exact (newBefore?_append hdoc rest).trans (newBefore?_append h rest).symm
        | behind inside after => rfl
    · rw [← List.cons_append, ← List.cons_append, newBefore?_append hdoc, newBefore?_append h]

theorem creation?_doc (hd : d.kind = .doc) {fence : List Token} (h : Fenced fence)
    (before : List Token) : creation? (before ++ d :: fence) = creation? (before ++ fence) := by
  cases before with
  | nil =>
    have hround := h.starts_isPunct ")" (by decide)
    have hnone : creation? fence = none := by
      cases fence with
      | nil => rfl
      | cons t fence =>
        rw [Access.starts] at hround
        rw [creation?_eq, if_neg (by rw [hround]; exact Bool.false_ne_true)]
    rw [List.nil_append, List.nil_append, hnone, creation?_eq, d.isPunct_of_doc hd]
    rfl
  | cons t before =>
    rw [List.cons_append, List.cons_append, creation?_eq, creation?_eq]
    split
    · have hclose := Bracket.close?_doc hd Bracket.round.flip 0 before fence
      generalize Bracket.round.flip.close? 0 (before ++ d :: fence) = r,
        Bracket.round.flip.close? 0 (before ++ fence) = r' at hclose
      cases hclose with
      | none => rfl
      | some hgroup =>
        cases hgroup with
        | before taken rest => exact newBefore?_beforeArguments_doc hd h rest
        | behind inside after => rfl
    · rfl

theorem receiver?_doc (hd : d.kind = .doc) {fence : List Token} (h : Fenced fence) (t : Token)
    (before : List Token)
    : receiver? (t :: before ++ d :: fence) = receiver? (t :: before ++ fence) := by
  have hdoc := fenced_cons_doc hd fence
  have hcreation := creation?_doc hd h (t :: before)
  rw [List.cons_append, List.cons_append] at *
  rw [receiver?, receiver?]
  split
  · rw [chain_append hdoc, chain_append h]
    dsimp only
    rw [starts_append (hdoc.starts_isWord "new"), starts_append (h.starts_isWord "new"),
      starts_append (hdoc.starts_isPunctOf [".", "::"] (by decide)),
      starts_append (h.starts_isPunctOf [".", "::"] (by decide))]
  · rw [hcreation]

/-! Parameters of lambdas. -/

section Parameters

variable {stop : Token}

theorem stop_no_bracket (hstop : isStop stop = true) {b : Bracket}
    (hb : b ∈ [Bracket.round, Bracket.angle, Bracket.round.flip])
    : stop.isPunct b.opening = false ∧ stop.isPunct b.closing = false := by
  rw [List.mem_cons, List.mem_cons, List.mem_singleton] at hb
  rcases hb with rfl | rfl | rfl
  all_goals exact ⟨isPunct_of_isStop hstop _ (by decide), isPunct_of_isStop hstop _ (by decide)⟩

theorem close?_stop_doc (hd : d.kind = .doc) (hstop : isStop stop = true) {b : Bracket}
    (hb : b ∈ [Bracket.round, Bracket.angle, Bracket.round.flip]) (depth : Nat) (x y : List Token)
    : Option.Rel (Apart [stop, d] [stop] x y) (b.close? depth (x ++ stop :: d :: y))
        (b.close? depth (x ++ stop :: y)) := by
  have hmark := stop_no_bracket hstop hb
  have hboth : ∀ t ∈ [stop, d], t.isPunct b.opening = false ∧ t.isPunct b.closing = false := by
    intro t ht
    rw [List.mem_cons, List.mem_singleton] at ht
    rcases ht with rfl | rfl
    · exact hmark
    · exact ⟨t.isPunct_of_doc hd _, t.isPunct_of_doc hd _⟩
  refine Bracket.close?_apart hboth ?_ depth x y
  intro t ht
  rw [List.mem_singleton] at ht
  rw [ht]
  exact hmark

theorem readFrom_stop (hstop : isStop stop = true) (angle : Nat) (afterAt : Bool) (name : String)
    (dims : Nat) (tokens : List Token)
    : TypeName.readFrom angle afterAt name dims (stop :: tokens)
        =
      if 0 < angle then TypeName.readFrom angle false name dims tokens else none := by
  obtain ⟨hopening, hclosing⟩ : stop.isPunct "<" = false ∧ stop.isPunct ">" = false :=
    stop_no_bracket hstop (b := .angle) (by simp)
  rw [TypeName.readFrom, hopening, hclosing, isIdent_of_isStop hstop,
    isPunct_of_isStop hstop "@" (by decide), isPunct_of_isStop hstop "." (by decide),
    isPunctOf_of_isStop hstop ["[", "..."] (by decide), isPunct_of_isStop hstop "]" (by decide)]
  rfl

theorem readFrom_doc (hd : d.kind = .doc) (hstop : isStop stop = true) (angle : Nat)
    (afterAt : Bool) (name : String) (dims : Nat) (x y : List Token)
    : TypeName.readFrom angle afterAt name dims (x ++ stop :: d :: y)
        =
      TypeName.readFrom angle afterAt name dims (x ++ stop :: y) := by
  induction x generalizing angle afterAt name dims with
  | nil =>
    rw [List.nil_append, List.nil_append, readFrom_stop hstop, readFrom_stop hstop]
    split
    · next hopen =>
      rw [TypeName.readFrom, if_pos hopen, d.isPunct_of_doc hd, d.isPunct_of_doc hd,
        if_neg Bool.false_ne_true, if_neg Bool.false_ne_true]
    · rfl
  | cons t x ih =>
    rw [List.cons_append, List.cons_append]
    simp only [TypeName.readFrom, ih]

def Standing (x : List Token) : Prop :=
  ∀ t, x.getLast? = some t → t.isPunct "@" = false ∧ t.isPunct "." = false

instance (x : List Token) : Decidable (Standing x) :=
  inferInstanceAs (Decidable (∀ t, t ∈ x.getLast? → t.isPunct "@" = false ∧ t.isPunct "." = false))

theorem Standing.of_suffix {x x' : List Token} (h : Standing x) (hx : x' <:+ x) : Standing x' := by
  obtain ⟨before, rfl⟩ := hx
  intro t ht
  apply h t
  rw [List.getLast?_append, ht]
  rfl

theorem dropDotted_stop (hstop : isStop stop = true) {x : List Token} (hx : Standing x)
    (tokens : List Token)
    : Parameter.dropDotted (x ++ stop :: tokens) = Parameter.dropDotted x ++ stop :: tokens := by
  fun_induction Parameter.dropDotted x with
  | case1 dot name rest hdot ih =>
    rw [List.cons_append, List.cons_append, Parameter.dropDotted, if_pos hdot]
    exact ih (hx.of_suffix ⟨[dot, name], rfl⟩)
  | case2 dot name rest hdot =>
    rw [List.cons_append, List.cons_append, Parameter.dropDotted, if_neg hdot]
  | case3 x hshort =>
    cases x with
    | nil =>
      cases tokens with
      | nil => rfl
      | cons t tokens =>
        rw [List.nil_append, Parameter.dropDotted, isPunct_of_isStop hstop "." (by decide)]
        rfl
    | cons dot x =>
      cases x with
      | nil =>
        rw [List.singleton_append, Parameter.dropDotted, (hx dot rfl).2]
        rfl
      | cons name rest => exact absurd rfl (hshort dot name rest)

theorem dropAnnotations_doc (hd : d.kind = .doc) (hstop : isStop stop = true) {x : List Token}
    (hx : Standing x) (y : List Token)
    : Parameter.dropAnnotations (x ++ stop :: d :: y) = Parameter.dropAnnotations (x ++ stop :: y)
      ∨ ∃ x', Parameter.dropAnnotations (x ++ stop :: d :: y) = x' ++ stop :: d :: y
        ∧ Parameter.dropAnnotations (x ++ stop :: y) = x' ++ stop :: y := by
  -- Strong induction, since the arguments of an annotation are skipped in one go.
  induction hn : x.length using Nat.strongRecOn generalizing x with | ind n ih
  subst hn
  cases x with
  | nil =>
    right
    refine ⟨[], ?_, ?_⟩
    all_goals
      rw [List.nil_append, Parameter.dropAnnotations, isPunct_of_isStop hstop "@" (by decide)]
      rfl
  | cons sign x =>
    rw [List.cons_append, List.cons_append, Parameter.dropAnnotations, Parameter.dropAnnotations]
    split
    · next hsign =>
      cases x with
      | nil =>
        rw [(hx sign rfl).1] at hsign
        cases hsign
      | cons name x =>
        have hx' : Standing x := hx.of_suffix ⟨[sign, name], rfl⟩
        have hsuffix := Parameter.dropDotted_suffix x
        have hlength := hsuffix.length_le
        rw [List.cons_append, List.cons_append, List.tail_cons, List.tail_cons,
          dropDotted_stop hstop hx', dropDotted_stop hstop hx']
        generalize Parameter.dropDotted x = x' at hsuffix hlength
        cases x' with
        | nil =>
          have hround := (stop_no_bracket hstop (b := .round) (by simp)).1
          rw [List.nil_append, List.nil_append, Cursor.group?_other (ne_true_of_eq_false hround),
            Cursor.group?_other (ne_true_of_eq_false hround)]
          exact ih 0 (Nat.succ_pos _) (x := []) (hx'.of_suffix hsuffix) rfl
        | cons opening x' =>
          rw [List.length_cons] at hlength
          rw [List.cons_append, List.cons_append]
          cases hround : opening.isPunct Bracket.round.opening with
          | false =>
            rw [Cursor.group?_other (ne_true_of_eq_false hround),
              Cursor.group?_other (ne_true_of_eq_false hround)]
            exact ih _ (by simp only [List.length_cons]; omega) (hx'.of_suffix hsuffix) rfl
          | true =>
            have hinside := Bracket.inside_apart
              (close?_stop_doc hd hstop (b := .round) (by simp) 0 x' y)
            rw [Cursor.group?_opening hround, Cursor.group?_opening hround]
            change Apart [stop, d] [stop] x' y (Bracket.round.inside (x' ++ stop :: d :: y))
              (Bracket.round.inside (x' ++ stop :: y)) at hinside
            generalize Bracket.round.inside (x' ++ stop :: d :: y) = r,
              Bracket.round.inside (x' ++ stop :: y) = r' at hinside
            cases hinside with
            | behind inside after => exact .inl rfl
            | before taken rest hrest =>
              have hle := hrest.length_le
              exact ih _ (by simp only [List.length_cons]; omega)
                (hx'.of_suffix (hrest.trans ((List.suffix_cons _ _).trans hsuffix))) rfl
    · exact .inr ⟨sign :: x, rfl, rfl⟩

theorem parameter_read?_doc (hd : d.kind = .doc) (hstop : isStop stop = true) {x : List Token}
    (hx : Standing x) (y : List Token)
    : Parameter.read? (x ++ stop :: d :: y) = Parameter.read? (x ++ stop :: y) := by
  unfold Parameter.read?
  rcases dropAnnotations_doc hd hstop hx y with heq | ⟨x', hdoc, hplain⟩
  · rw [heq]
  · rw [hdoc, hplain]
    rcases List.eq_nil_or_concat y with rfl | ⟨y, name, rfl⟩
    · -- The part ends in the comment, and without it in the mark: neither is a name.
      have hlast : (x' ++ [stop, d]).getLast? = some d := by simp
      have hlast' : (x' ++ [stop]).getLast? = some stop := by simp
      dsimp only
      rw [hlast, hlast']
      dsimp only
      rw [d.isIdent_of_doc hd, isIdent_of_isStop hstop]
      rfl
    · have hassoc : x' ++ stop :: d :: y.concat name = (x' ++ stop :: d :: y) ++ [name] := by simp
      have hassoc' : x' ++ stop :: y.concat name = (x' ++ stop :: y) ++ [name] := by simp
      dsimp only
      rw [hassoc, hassoc', List.getLast?_concat, List.getLast?_concat, List.dropLast_concat,
        List.dropLast_concat, TypeName.read?, TypeName.read?, readFrom_doc hd hstop]

theorem nesting_of_isStop (hstop : isStop stop = true) : Parameter.nesting stop = 0 := by
  rw [Parameter.nesting, isPunctOf_of_isStop hstop _ (by decide),
    isPunctOf_of_isStop hstop _ (by decide)]
  rfl

theorem nesting_of_doc (hd : d.kind = .doc) : Parameter.nesting d = 0 := by
  rw [Parameter.nesting, d.isPunctOf_of_doc hd, d.isPunctOf_of_doc hd]
  rfl

theorem cut_ne_nil (depth : Int) (tokens : List Token) : Parameter.cut depth tokens ≠ [] := by
  cases tokens with
  | nil => exact List.cons_ne_nil _ _
  | cons t rest =>
    rw [Parameter.cut]
    split
    · exact List.cons_ne_nil _ _
    · split <;> exact List.cons_ne_nil _ _

theorem cut_cons {t : Token} {depth : Int} {rest part : List Token} {parts : List (List Token)}
    (hcomma : (t.isPunct "," && (depth + Parameter.nesting t) == 0) = false)
    (hrest : Parameter.cut (depth + Parameter.nesting t) rest = part :: parts)
    : Parameter.cut depth (t :: rest) = (t :: part) :: parts := by
  rw [Parameter.cut, hcomma, hrest]
  rfl

theorem cut_doc (hd : d.kind = .doc) (hstop : isStop stop = true) (depth : Int) (x y : List Token)
    : ∃ front a b back,
        Parameter.cut depth (x ++ stop :: d :: y) = front ++ (a ++ stop :: d :: b) :: back
        ∧ Parameter.cut depth (x ++ stop :: y) = front ++ (a ++ stop :: b) :: back
        ∧ a <:+ x ∧ (front = [] → a = x) := by
  -- The comment goes with the token in front of it; that part is the first one unless a comma came
  -- before.
  induction x generalizing depth with
  | nil =>
    obtain ⟨part, parts, hparts⟩ := List.exists_cons_of_ne_nil (cut_ne_nil depth y)
    have hcomma : stop.isPunct "," = false := isPunct_of_isStop hstop "," (by decide)
    have hdoc : Parameter.cut depth (d :: y) = (d :: part) :: parts := by
      apply cut_cons
      · rw [d.isPunct_of_doc hd, Bool.false_and]
      · rw [nesting_of_doc hd, Int.add_zero, hparts]
    refine ⟨[], [], part, parts, ?_, ?_, List.nil_suffix, fun _ => rfl⟩
    · apply cut_cons
      · rw [hcomma, Bool.false_and]
      · rw [nesting_of_isStop hstop, Int.add_zero, hdoc]
    · apply cut_cons
      · rw [hcomma, Bool.false_and]
      · rw [nesting_of_isStop hstop, Int.add_zero, hparts]
  | cons t x ih =>
    obtain ⟨front, a, b, back, hdoc, hplain, hsuffix, hfront⟩ := ih (depth + Parameter.nesting t)
    rw [List.cons_append, List.cons_append]
    cases hcomma : t.isPunct "," && (depth + Parameter.nesting t) == 0 with
    | true =>
      refine ⟨[] :: front, a, b, back, ?_, ?_, hsuffix.trans (List.suffix_cons t x), ?_⟩
      · rw [Parameter.cut, hcomma, hdoc]
        rfl
      · rw [Parameter.cut, hcomma, hplain]
        rfl
      · intro hnil
        cases hnil
    | false =>
      cases front with
      | nil =>
        obtain rfl := hfront rfl
        exact ⟨[], t :: a, b, back, cut_cons hcomma hdoc, cut_cons hcomma hplain,
          List.suffix_refl _, fun _ => rfl⟩
      | cons part front =>
        refine ⟨(t :: part) :: front, a, b, back, cut_cons hcomma hdoc, cut_cons hcomma hplain,
          hsuffix.trans (List.suffix_cons t x), ?_⟩
        intro hnil
        cases hnil

theorem readAll_doc (hd : d.kind = .doc) (hstop : isStop stop = true) {x : List Token}
    (hx : Standing x) (y : List Token)
    : Parameter.readAll (x ++ stop :: d :: y) = Parameter.readAll (x ++ stop :: y) := by
  obtain ⟨front, a, b, back, hdoc, hplain, hsuffix, -⟩ := cut_doc hd hstop 0 x y
  rw [Parameter.readAll, Parameter.readAll, hdoc, hplain, List.filterMap_append,
    List.filterMap_append, List.filterMap_cons, List.filterMap_cons,
    parameter_read?_doc hd hstop (hx.of_suffix hsuffix)]

theorem lambdaNames_doc (hd : d.kind = .doc) (hstop : isStop stop = true) (typed : List Parameter)
    (depth : Nat) (x y : List Token)
    : lambdaNames typed depth (x ++ stop :: d :: y) = lambdaNames typed depth (x ++ stop :: y) := by
  induction x generalizing depth with
  | nil =>
    have hskip : ∀ {t : Token}, t.isIdent = false → t.isPunctOf ["<", "("] = false →
        t.isPunctOf [">", ")"] = false → ∀ rest,
          lambdaNames typed depth (t :: rest) = lambdaNames typed depth rest := by
      intro t hident hopening hclosing rest
      rw [lambdaNames, hident, hopening, hclosing]
      simp
    have hmarks : ∀ marks ∈ [["<", "("], [">", ")"]], stop.isPunctOf marks = false := by
      intro marks hmarks
      apply isPunctOf_of_isStop hstop
      revert marks
      decide
    have hstop' := hskip (isIdent_of_isStop hstop) (hmarks _ (by simp)) (hmarks _ (by simp))
    rw [List.nil_append, List.nil_append, hstop', hstop',
      hskip (d.isIdent_of_doc hd) (d.isPunctOf_of_doc hd _) (d.isPunctOf_of_doc hd _)]
  | cons t x ih =>
    have hstarts : ∀ p, starts p (x ++ stop :: d :: y) = starts p (x ++ stop :: y) := by
      intro p
      cases x <;> rfl
    have hempty : (x ++ stop :: d :: y).isEmpty = (x ++ stop :: y).isEmpty := by
      cases x <;> rfl
    rw [List.cons_append, List.cons_append, lambdaNames, lambdaNames, hstarts, hempty]
    simp only [ih]

end Parameters

def EndsStatement : List Token → Prop
  | [] => True
  | stop :: before => isStop stop = true ∧ Standing before.reverse

instance : (before : List Token) → Decidable (EndsStatement before)
  | [] => isTrue trivial
  | stop :: before => inferInstanceAs (Decidable (isStop stop = true ∧ Standing before.reverse))

theorem EndsStatement.fenced {before : List Token} (h : EndsStatement before) : Fenced before := by
  intro t ht
  cases before with
  | nil => cases ht
  | cons stop before' =>
    rw [List.head?_cons, Option.some.injEq] at ht
    rw [← ht]
    exact .inr h.1

theorem starts_dropWhile_append {p : Token → Bool} {fence : List Token} (h : Fenced fence)
    (hp : starts p fence = false) (tokens : List Token)
    : starts p ((tokens ++ fence).dropWhile isLabelPart)
        =
      starts p (tokens.dropWhile isLabelPart) := by
  have hpart : starts isLabelPart fence = false := by
    apply h.starts
    · intro t ht
      rw [isLabelPart, t.isIdent_of_doc ht, t.isPunctOf_of_doc ht]
      rfl
    · intro t ht
      rw [isLabelPart, isIdent_of_isStop ht, isPunctOf_of_isStop ht _ (by decide)]
      rfl
  have hfence : fence.dropWhile isLabelPart = fence := by
    cases fence with
    | nil => rfl
    | cons t fence =>
      rw [Access.starts] at hpart
      rw [List.dropWhile_cons, hpart]
      rfl
  rw [List.dropWhile_append, hfence]
  split
  · next hempty =>
    rw [List.isEmpty_iff] at hempty
    rw [hempty, hp]
    rfl
  · exact starts_append hp _

theorem lambdaParameters_doc (hd : d.kind = .doc) {fence : List Token} (h : EndsStatement fence)
    (t : Token) (before : List Token)
    : lambdaParameters (t :: before ++ d :: fence) = lambdaParameters (t :: before ++ fence) := by
  have hdoc := fenced_cons_doc hd fence
  rw [List.cons_append, List.cons_append, lambdaParameters, lambdaParameters]
  split
  · rw [starts_dropWhile_append hdoc (hdoc.starts_isWord "case"),
      starts_dropWhile_append h.fenced (h.fenced.starts_isWord "case")]
  · split
    · cases fence with
      | nil =>
        -- With nothing behind it the comment is the last token, and it is no bracket.
        obtain ⟨depth', happend⟩ := Cursor.close?_append_eq Bracket.round.flip 0 before
        have hnone : Bracket.round.flip.close? depth' [d] = none := by
          rw [Bracket.close?, d.isPunct_of_doc hd, d.isPunct_of_doc hd]
          rfl
        rw [happend, happend, hnone]
        cases Bracket.round.flip.close? 0 before <;> rfl
      | cons stop fence =>
        obtain ⟨hstop, hstanding⟩ := h
        have hmark := stop_no_bracket hstop (b := Bracket.round.flip) (by simp)
        have hboth : ∀ t ∈ [d, stop], t.isPunct Bracket.round.flip.opening = false
            ∧ t.isPunct Bracket.round.flip.closing = false := by
          intro t ht
          rw [List.mem_cons, List.mem_singleton] at ht
          rcases ht with rfl | rfl
          · exact ⟨t.isPunct_of_doc hd _, t.isPunct_of_doc hd _⟩
          · exact hmark
        have hclose := Bracket.close?_apart hboth
          (fun t ht => List.mem_singleton.1 ht ▸ hmark) 0 before fence
        change Option.Rel _ (Bracket.round.flip.close? 0 (before ++ d :: stop :: fence))
          (Bracket.round.flip.close? 0 (before ++ stop :: fence)) at hclose
        generalize Bracket.round.flip.close? 0 (before ++ d :: stop :: fence) = r,
          Bracket.round.flip.close? 0 (before ++ stop :: fence) = r' at hclose
        cases hclose with
        | none => rfl
        | some hgroup =>
          cases hgroup with
          | before taken rest => rfl
          | behind inside after hinside =>
            -- The group reaches over the comment, which the reading of parameters passes over.
            have hstanding' : Standing inside.reverse :=
              hstanding.of_suffix (List.reverse_suffix.2 hinside)
            have hdoc : (before ++ ([d, stop] ++ inside)).reverse
                = inside.reverse ++ stop :: d :: before.reverse := by simp
            have hplain : (before ++ ([stop] ++ inside)).reverse
                = inside.reverse ++ stop :: before.reverse := by simp
            dsimp only
            rw [hdoc, hplain, readAll_doc hd hstop hstanding', lambdaNames_doc hd hstop]
    · rfl

end DeprecatedUse.Java.Access
