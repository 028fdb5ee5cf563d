import DeprecatedUse.Proofs.Uri.Authorities
import DeprecatedUse.Proofs.Uri.Paths

/-!
This module contains the reading of URIs that were written. A URI that stands for no file of this
host is read as itself exactly if its host is.
-/

namespace DeprecatedUse.Uri

/-! Ends and line breaks. -/

structure IsClean (cs : List Char) : Prop where
  unbroken : ∀ c, c ∈ cs → c ≠ '\t' ∧ c ≠ '\n' ∧ c ≠ '\r'
  first : ∀ c, c ∈ cs.head? → 0x20 < c.toNat
  last : ∀ c, c ∈ cs.getLast? → 0x20 < c.toNat

theorem dropWhile_edge {cs : List Char} (h : ∀ c, c ∈ cs.head? → 0x20 < c.toNat)
    : cs.dropWhile (fun c => c.toNat ≤ 0x20) = cs := by
  cases cs with
  | nil => rfl
  | cons c cs =>
    rw [List.dropWhile_cons_of_neg]
    rw [decide_eq_true_eq]
    exact Nat.not_le.2 (h c rfl)

theorem IsClean.clean {cs : List Char} (h : IsClean cs) : clean cs = cs := by
  have hlast : ∀ c, c ∈ cs.reverse.head? → 0x20 < c.toNat := by
    rw [List.head?_reverse]
    exact h.last
  rw [Uri.clean]
  dsimp only
  rw [dropWhile_edge h.first, dropWhile_edge hlast, List.reverse_reverse, List.filter_eq_self]
  intro c hc
  obtain ⟨htab, hline, hreturn⟩ := h.unbroken c hc
  simp [htab, hline, hreturn]

theorem last_clean {cs : List Char} {c : Char} (h : (clean cs).getLast? = some c)
    : 0x20 < c.toNat := by
  rw [clean] at h
  dsimp only at h
  generalize htext : (cs.dropWhile fun c => c.toNat ≤ 0x20).reverse = text at h
  have hhead := List.head?_dropWhile_not (fun c : Char => decide (c.toNat ≤ 0x20)) text
  cases hkept : text.dropWhile fun c => c.toNat ≤ 0x20 with
  | nil =>
    rw [hkept] at h
    cases h
  | cons d kept =>
    rw [hkept] at h hhead
    have hd : 0x20 < d.toNat := by simpa using hhead
    have hbreak : (d != '\t' && d != '\n' && d != '\r') = true := by
      simp only [Bool.and_eq_true, bne_iff_ne]
      refine ⟨⟨?_, ?_⟩, ?_⟩ <;> (rintro rfl; exact absurd hd (by decide))
    rw [List.reverse_cons, List.filter_append, List.filter_singleton, hbreak, cond_true,
      List.getLast?_concat, Option.some.injEq] at h
    exact h ▸ hd

def Visible (cs : List Char) : Prop :=
  ∀ c, c ∈ cs → 0x20 < c.toNat

theorem Visible.append {cs cs' : List Char} (h : Visible cs) (h' : Visible cs')
    : Visible (cs ++ cs') := by
  intro c hc
  obtain hc | hc := List.mem_append.1 hc
  · exact h c hc
  · exact h' c hc

theorem Visible.cons {c : Char} {cs : List Char} (hc : 0x20 < c.toNat) (h : Visible cs)
    : Visible (c :: cs) := by
  intro d hd
  obtain rfl | hd := List.mem_cons.1 hd
  · exact hc
  · exact h d hd

theorem Visible.isClean {cs : List Char} (h : Visible cs) : IsClean cs where
  unbroken c hc := by
    have hvisible := h c hc
    refine ⟨?_, ?_, ?_⟩ <;> (rintro rfl; exact absurd hvisible (by decide))
  first c hc := h c (List.mem_of_mem_head? hc)
  last c hc := h c (List.mem_of_mem_getLast? hc)

theorem control_or_blank {c : Char} (h : c.toNat ≤ 0x20) : isControl c = true ∨ c = ' ' := by
  obtain h | h := Nat.lt_or_eq_of_le h
  · left
    simp [isControl, h]
  · right
    exact Char.toNat_inj.1 h

theorem visible_of_written {must : Char → Bool} {cs : List Char} (h : Written must cs)
    (hmust : ∀ c, isControl c = true ∨ c = ' ' → must c = true) : Visible cs := by
  intro c hc
  by_contra hedge
  have hstays := (h c hc).1
  rw [hmust c (control_or_blank (Nat.le_of_not_lt hedge))] at hstays
  cases hstays

theorem mustInFragment_edge {c : Char} (h : isControl c = true ∨ c = ' ')
    : mustInFragment c = true := by
  obtain h | rfl := h
  · rw [mustInFragment, h, Bool.true_or]
  · rfl

theorem mustInPath_edge {c : Char} (h : isControl c = true ∨ c = ' ') : mustInPath c = true := by
  rw [mustInPath, mustInFragment_edge h, Bool.true_or]

theorem mustInQuery_edge {special : Bool} {c : Char} (h : isControl c = true ∨ c = ' ')
    : mustInQuery special c = true := by
  obtain h | rfl := h
  · rw [mustInQuery, h, Bool.true_or, Bool.true_or]
  · rfl

/-! Schemes. -/

structure IsScheme (name : List Char) : Prop where
  first : ∃ c rest, name = c :: rest ∧ c.isAlpha = true
  all : ∀ c, c ∈ name →
    (c.isAlphanum || c == '+' || c == '-' || c == '.') = true ∧ c.toLower = c

theorem isScheme_of_scheme? {cs rest : List Char} {scheme : String}
    (h : scheme? cs = some (scheme, rest))
    : IsScheme scheme.toList ∧ ∃ name, cs = name ++ ':' :: rest := by
  rw [scheme?] at h
  obtain ⟨parts, hparts, h⟩ := Option.bind_eq_some_iff.1 h
  obtain ⟨c, hc, h⟩ := Option.bind_eq_some_iff.1 h
  split at h
  · next hname =>
    rw [Bool.and_eq_true, List.all_eq_true] at hname
    cases h
    rw [String.toList_ofList]
    refine ⟨⟨?_, ?_⟩, parts.1, (Text.splitFirst?_some hparts).2⟩
    · obtain ⟨name, hcons⟩ := List.head?_eq_some_iff.1 hc
      refine ⟨c.toLower, name.map Char.toLower, by rw [hcons, List.map_cons], ?_⟩
      rw [Char.isAlpha_toLower_eq_isAlpha]
      exact hname.1
    · intro d hd
      obtain ⟨e, he, rfl⟩ := List.mem_map.1 hd
      refine ⟨?_, Char.toLower_toLower_eq_toLower e⟩
      have hall := hname.2 e he
      by_cases hupper : e.isUpper = true
      · have halpha : e.toLower.isAlpha = true := by
          rw [Char.isAlpha_toLower_eq_isAlpha, Char.isAlpha, hupper, Bool.true_or]
        rw [Char.isAlphanum, halpha]
        rfl
      · rw [Char.toLower_eq_of_not_isUpper hupper]
        exact hall
  · cases h

namespace IsScheme

variable {scheme : String}

theorem bounds {name : List Char} (h : IsScheme name) {c : Char} (hc : c ∈ name)
    : 0x20 < c.toNat ∧ c ≠ ':' := by
  have hall := (h.all c hc).1
  constructor
  · simp only [Bool.or_eq_true, beq_iff_eq, Char.isAlphanum, Char.isDigit, Bool.and_eq_true,
      decide_eq_true_eq, ge_iff_le, UInt32.le_iff_toNat_le] at hall
    obtain ((hall | hall) | rfl) | rfl := hall
    all_goals first | decide | skip
    obtain halpha | hdigit := hall
    · have hletter := toNat_of_isAlpha halpha
      omega
    · exact Nat.lt_of_lt_of_le (by decide) hdigit.1
    · subst hall
      decide
  · rintro rfl
    exact absurd hall (by decide)

theorem visible (h : IsScheme scheme.toList) : Visible scheme.toList :=
  fun _ hc => (h.bounds hc).1

theorem scheme?_append (h : IsScheme scheme.toList) (rest : List Char)
    : scheme? (scheme.toList ++ ':' :: rest) = some (scheme, rest) := by
  have hcolon : ':' ∉ scheme.toList := fun hmem => (h.bounds hmem).2 rfl
  have hlower : scheme.toList.map Char.toLower = scheme.toList := by
    conv_rhs => rw [← List.map_id scheme.toList]
    exact List.map_congr_left fun c hc => (h.all c hc).2
  have hall : (scheme.toList.all fun c => c.isAlphanum || c == '+' || c == '-' || c == '.')
      = true := by
    rw [List.all_eq_true]
    exact fun c hc => (h.all c hc).1
  obtain ⟨c, name, hcons, hc⟩ := h.first
  have hhead : scheme.toList.head? = some c := by
    rw [hcons, List.head?_cons]
  rw [scheme?, Text.splitFirst?_append hcolon]
  simp only [Option.bind_eq_bind, Option.bind_some, hhead, hall, hc, hlower, Bool.and_self,
    if_true, String.ofList_toList, Option.pure_def]

end IsScheme

/-! Queries and fragments. -/

def tailText (query fragment : Option String) : List Char :=
  (query.elim [] ('?' :: ·.toList)) ++ fragment.elim [] ('#' :: ·.toList)

structure IsTail (special : Bool) (query fragment : Option String) : Prop where
  query : ∀ q, query = some q → Written (mustInQuery special) q.toList
  fragment : ∀ f, fragment = some f → Written mustInFragment f.toList

theorem isTail_withTail (special : Bool) (c : Cut) (u : Uri)
    : IsTail special (withTail special c u).query (withTail special c u).fragment where
  query q hq := by
    obtain ⟨cs, -, rfl⟩ := Option.map_eq_some_iff.1 hq
    rw [String.toList_ofList]
    exact written_encode (escapes_stay_inQuery special) cs
  fragment f hf := by
    obtain ⟨cs, -, rfl⟩ := Option.map_eq_some_iff.1 hf
    rw [String.toList_ofList]
    exact written_encode escapes_stay_inFragment cs

namespace IsTail

variable {special : Bool} {query fragment : Option String}

theorem visible (h : IsTail special query fragment) : Visible (tailText query fragment) := by
  refine Visible.append ?_ ?_
  · cases hq : query with
    | none => exact fun c hc => absurd hc List.not_mem_nil
    | some q =>
      exact Visible.cons (by decide) (visible_of_written (h.query q hq) fun _ => mustInQuery_edge)
  · cases hf : fragment with
    | none => exact fun c hc => absurd hc List.not_mem_nil
    | some f =>
      exact Visible.cons (by decide)
        (visible_of_written (h.fragment f hf) fun _ => mustInFragment_edge)

theorem cut_append (h : IsTail special query fragment) {main : List Char} (hquery : '?' ∉ main)
    (hfragment : '#' ∉ main)
    : cut (main ++ tailText query fragment)
        = ⟨main, query.map String.toList, fragment.map String.toList⟩ := by
  have hbefore : '#' ∉ main ++ query.elim [] ('?' :: ·.toList) := by
    rw [List.mem_append, not_or]
    refine ⟨hfragment, ?_⟩
    cases hq : query with
    | none => exact List.not_mem_nil
    | some q =>
      rw [Option.elim_some, List.mem_cons, not_or]
      exact ⟨by decide, fun hmem => absurd (h.query q hq '#' hmem).1 (by simp [mustInQuery])⟩
  have hsplit : Text.splitFirst? '?' (main ++ query.elim [] ('?' :: ·.toList))
      = query.map fun q => (main, q.toList) := by
    cases query with
    | none =>
      rw [Option.elim_none, List.append_nil]
      exact Text.splitFirst?_of_not_mem hquery
    | some q => exact Text.splitFirst?_append hquery q.toList
  rw [cut, tailText, ← List.append_assoc]
  cases fragment with
  | none =>
    rw [Option.elim_none, List.append_nil, Text.splitFirst?_of_not_mem hbefore]
    dsimp only
    rw [hsplit]
    cases query with
    | none => rw [Option.elim_none, List.append_nil]; rfl
    | some q => rfl
  | some f =>
    rw [Option.elim_some, Text.splitFirst?_append hbefore]
    dsimp only
    rw [hsplit]
    cases query with
    | none => rw [Option.elim_none, List.append_nil]; rfl
    | some q => rfl

theorem withTail (h : IsTail special query fragment) (main : List Char) (u : Uri)
    : withTail special ⟨main, query.map String.toList, fragment.map String.toList⟩ u
        = { u with query := query, fragment := fragment } := by
  have hquery : (query.map String.toList).map
      (fun q => String.ofList (encode (mustInQuery special) q)) = query := by
    cases hq : query with
    | none => rfl
    | some q => rw [Option.map_some, Option.map_some, (h.query q hq).encode, String.ofList_toList]
  have hfragment : (fragment.map String.toList).map
      (fun f => String.ofList (encode mustInFragment f)) = fragment := by
    cases hf : fragment with
    | none => rfl
    | some f =>
      rw [Option.map_some, Option.map_some, (h.fragment f hf).encode, String.ofList_toList]
  rw [Uri.withTail, hquery, hfragment]

end IsTail

/-! Writing. -/

theorem toList_render_hosted (scheme : String) (a : Authority) (names : List (List Char))
    (query fragment : Option String)
    : (Uri.render ⟨scheme, some a, .segments (names.map String.ofList), query, fragment⟩).toList
        = scheme.toList ++ ':' :: ('/' :: '/' :: (a.render.toList ++ names.flatMap ('/' :: ·))
            ++ tailText query fragment) := by
  rw [Uri.render]
  cases query <;> cases fragment <;> simp [tailText, render_segments]

theorem toList_render_opaqueText {text : List Char} (h : text.head? ≠ some '/') (scheme : String)
    (query fragment : Option String)
    : (Uri.render ⟨scheme, none, .opaqueText (String.ofList text), query, fragment⟩).toList
        = scheme.toList ++ ':' :: (text ++ tailText query fragment) := by
  have hslashes : (Body.opaqueText (String.ofList text)).render.startsWith "//" = false := by
    rw [Body.render, ← Bool.not_eq_true, String.startsWith_string_iff]
    rintro ⟨rest, hrest⟩
    rw [String.toList_ofList (l := text)] at hrest
    exact h (congrArg List.head? hrest.symm)
  rw [Uri.render]
  dsimp only
  rw [hslashes]
  cases query <;> cases fragment <;> simp [tailText, Body.render]

def behindScheme? (scheme : String) (c : Cut) : Option Uri :=
  if scheme = "file" then
    file? c
  else if isNetScheme scheme then
    withAuthority? scheme c (c.main.dropWhile (isSlash true))
  else
    match c.main with
    | '/' :: '/' :: rest => withAuthority? scheme c rest
    | '/' :: rest => some (withTail false c { scheme := scheme, body := bodyOf false rest })
    | main =>
      let text := String.ofList (encode isControl main)
      some (withTail false c { scheme := scheme, body := .opaqueText text })

theorem parse?_eq (text : String)
    : parse? text
        = (scheme? (clean text.toList)).bind fun read => behindScheme? read.1 (cut read.2) := by
  rfl

theorem parse?_render {u : Uri} {special : Bool} {main : List Char}
    (hscheme : IsScheme u.scheme.toList) (htail : IsTail special u.query u.fragment)
    (hrender : u.render.toList = u.scheme.toList ++ ':' :: (main ++ tailText u.query u.fragment))
    (hclean : IsClean u.render.toList) (hquery : '?' ∉ main) (hfragment : '#' ∉ main)
    : parse? u.render
        = behindScheme? u.scheme
            ⟨main, u.query.map String.toList, u.fragment.map String.toList⟩ := by
  rw [parse?_eq, hclean.clean, hrender, hscheme.scheme?_append, Option.bind_some,
    htail.cut_append hquery hfragment]

/-! Texts behind a scheme. -/

theorem tailText_eq_nil {query fragment : Option String} (h : tailText query fragment = [])
    : query = none ∧ fragment = none := by
  cases query <;> cases fragment <;> simp [tailText] at h ⊢

/--
A text behind a scheme as it is read. Blanks are at its end only where more is written behind it.
-/
structure IsOpaque (scheme : String) (text : List Char) (query fragment : Option String) : Prop
    where
  isScheme : IsScheme scheme.toList
  noFile : scheme ≠ "file"
  noNet : isNetScheme scheme = false
  written : Written isControl text
  noSlash : text.head? ≠ some '/'
  noQuery : '?' ∉ text
  noFragment : '#' ∉ text
  last : query = none → fragment = none → ∀ c, text.getLast? = some c → 0x20 < c.toNat
  isTail : IsTail false query fragment

namespace IsOpaque

variable {scheme : String} {text : List Char} {query fragment : Option String}

theorem isClean (h : IsOpaque scheme text query fragment)
    : IsClean (scheme.toList ++ ':' :: (text ++ tailText query fragment)) := by
  have hvisible : ∀ c, c ∈ scheme.toList ++ ':' :: (text ++ tailText query fragment) →
      0x20 < c.toNat ∨ isControl c = false := by
    intro c hc
    rw [List.mem_append, List.mem_cons, List.mem_append] at hc
    obtain hc | rfl | hc | hc := hc
    · exact .inl (h.isScheme.visible c hc)
    · exact .inl (by decide)
    · exact .inr (h.written c hc).1
    · exact .inl (h.isTail.visible c hc)
  constructor
  · intro c hc
    have hc := hvisible c hc
    refine ⟨?_, ?_, ?_⟩ <;> (rintro rfl; exact absurd hc (by decide))
  · obtain ⟨d, rest, hcons, -⟩ := h.isScheme.first
    rw [hcons]
    rintro c hc
    cases hc
    exact h.isScheme.visible d (by rw [hcons]; exact List.mem_cons_self)
  · intro c hc
    rw [← List.singleton_append, ← List.append_assoc, ← List.append_assoc] at hc
    -- The last character is that of the tail, that of the text, or the colon.
    by_cases htail : tailText query fragment = []
    · rw [htail, List.append_nil] at hc
      by_cases htext : text = []
      · rw [htext, List.append_nil, List.getLast?_concat] at hc
        cases hc
        decide
      · rw [List.getLast?_append_of_ne_nil _ htext] at hc
        obtain ⟨hquery, hfragment⟩ := tailText_eq_nil htail
        exact h.last hquery hfragment c hc
    · rw [List.getLast?_append_of_ne_nil _ htail] at hc
      exact h.isTail.visible c (List.mem_of_mem_getLast? hc)

theorem parse?_render (h : IsOpaque scheme text query fragment)
    : let u : Uri := ⟨scheme, none, .opaqueText (String.ofList text), query, fragment⟩
      parse? u.render = some u := by
  have hrender := toList_render_opaqueText h.noSlash scheme query fragment
  intro u
  rw [Uri.parse?_render (u := u) h.isScheme h.isTail hrender (hrender ▸ h.isClean) h.noQuery
    h.noFragment, behindScheme?, if_neg h.noFile, if_neg (Bool.not_eq_true _ ▸ h.noNet)]
  split
  · next rest heq => exact absurd (congrArg List.head? heq) h.noSlash
  · next rest _ heq => exact absurd (congrArg List.head? heq) h.noSlash
  · dsimp only
    rw [h.isTail.withTail, h.written.encode]

end IsOpaque

/-! Places at a host. -/

theorem visible_of_hexValue? {c : Char} (h : (Text.hexValue? c).isSome = true)
    : 0x20 < c.toNat := by
  have hle : ∀ d : Char, d ≤ c → d.toNat ≤ c.toNat := fun d hd => hd
  rw [Text.hexValue?] at h
  split at h
  · next hdigit => exact Nat.lt_of_lt_of_le (by decide) (hle '0' hdigit.1)
  · split at h
    · next hdigit => exact Nat.lt_of_lt_of_le (by decide) (hle 'a' hdigit.1)
    · split at h
      · next hdigit => exact Nat.lt_of_lt_of_le (by decide) (hle 'A' hdigit.1)
      · cases h

theorem mustInUser_edge {c : Char} (h : isControl c = true ∨ c = ' ') : mustInUser c = true := by
  rw [mustInUser, mustInPath_edge h, Bool.true_or]

theorem visible_render {scheme : String} {a : Authority} (h : a.Normal scheme)
    : Visible a.render.toList := by
  have hmarks : ∀ c, c ∈ ['@', '[', ':', ']'] → 0x20 < c.toNat := by
    simp
  intro c hc
  obtain hc | hc | hc | ⟨hforbidden, hcontrol⟩ := mem_render h hc
  · exact hmarks c hc
  · exact visible_of_hexValue? hc
  · by_contra hedge
    rw [mustInUser_edge (control_or_blank (Nat.le_of_not_lt hedge))] at hc
    cases hc
  · by_contra hedge
    obtain hedge | rfl := control_or_blank (Nat.le_of_not_lt hedge)
    · rw [hcontrol] at hedge
      cases hedge
    · cases hforbidden

structure IsHosted (special : Bool) (scheme : String) (a : Authority) (names : List (List Char))
    (query fragment : Option String) : Prop where
  isScheme : IsScheme scheme.toList
  normal : a.Normal scheme
  kept : ∀ name, name ∈ names → Kept special name
  isTail : IsTail special query fragment

namespace IsHosted

variable {special : Bool} {scheme : String} {a : Authority} {names : List (List Char)}
  {query fragment : Option String}

theorem not_mem_main (h : IsHosted special scheme a names query fragment) {x : Char}
    (hpath : mustInPath x = true) (hslash : x ≠ '/') (hrender : x ∉ a.render.toList)
    : x ∉ '/' :: '/' :: (a.render.toList ++ names.flatMap ('/' :: ·)) := by
  rw [List.mem_cons, List.mem_cons, List.mem_append, List.mem_flatMap]
  rintro (hx | hx | hx | ⟨name, hname, hx⟩)
  · exact hslash hx
  · exact hslash hx
  · exact hrender hx
  · obtain hx | hx := List.mem_cons.1 hx
    · exact hslash hx
    · exact absurd (hpath.symm.trans ((h.kept name hname).written x hx).1) (by decide)

theorem visible (h : IsHosted special scheme a names query fragment)
    : Visible (scheme.toList ++ ':' :: ('/' :: '/' :: (a.render.toList ++ names.flatMap ('/' :: ·))
        ++ tailText query fragment)) := by
  have hnames : Visible (names.flatMap ('/' :: ·)) := by
    intro c hc
    obtain ⟨name, hname, hc⟩ := List.mem_flatMap.1 hc
    exact Visible.cons (by decide)
      (visible_of_written (h.kept name hname).written fun _ => mustInPath_edge) c hc
  have hmain := Visible.cons (c := '/') (by decide)
    (Visible.cons (c := '/') (by decide) ((visible_render h.normal).append hnames))
  exact h.isScheme.visible.append (Visible.cons (by decide) (hmain.append h.isTail.visible))

theorem parse?_render (h : IsHosted special scheme a names query fragment)
    : parse? (render ⟨scheme, some a, .segments (names.map String.ofList), query, fragment⟩)
        = behindScheme? scheme ⟨'/' :: '/' :: (a.render.toList ++ names.flatMap ('/' :: ·)),
            query.map String.toList, fragment.map String.toList⟩ := by
  have hrender := toList_render_hosted scheme a names query fragment
  exact Uri.parse?_render h.isScheme h.isTail hrender (hrender ▸ h.visible.isClean)
    (h.not_mem_main (by decide) (by decide) fun hmem =>
      absurd (mem_render h.normal hmem) (by decide))
    (h.not_mem_main (by decide) (by decide) fun hmem =>
      absurd (mem_render h.normal hmem) (by decide))

theorem not_isSlash (h : IsHosted special scheme a names query fragment) {c : Char}
    (hc : c ∈ a.render.toList) : isSlash true c = false := by
  rw [isSlash, Bool.or_eq_false_iff, beq_eq_false_iff_ne, Bool.true_and, beq_eq_false_iff_ne]
  constructor <;> (rintro rfl; exact absurd (mem_render h.normal hc) (by decide))

theorem takeWhile_render (h : IsHosted special scheme a names query fragment)
    : (a.render.toList ++ names.flatMap ('/' :: ·)).takeWhile (!isSlash special ·)
        = a.render.toList := by
  have hpasses : ∀ c, c ∈ a.render.toList → (!isSlash special c) = true := by
    intro c hc
    have hslash := h.not_isSlash hc
    rw [isSlash, Bool.or_eq_false_iff, Bool.true_and] at hslash
    rw [isSlash, hslash.1, hslash.2, Bool.and_false]
    rfl
  rw [List.takeWhile_append_of_pos hpasses]
  cases names with
  | nil => rw [List.flatMap_nil, List.takeWhile_nil, List.append_nil]
  | cons first names =>
    rw [List.flatMap_cons, List.cons_append, List.takeWhile_cons_of_neg, List.append_nil]
    simp [isSlash]

theorem withAuthority?_render
    (h : IsHosted (isNetScheme scheme) scheme a names query fragment) (hfile : scheme ≠ "file")
    (hnames : isNetScheme scheme = true → names ≠ []) (main : List Char)
    : withAuthority? scheme ⟨main, query.map String.toList, fragment.map String.toList⟩
          (a.render.toList ++ names.flatMap ('/' :: ·))
        = (hostOf? scheme a.host.toList).bind fun host =>
            if host = [] ∧ (a.user.isSome ∨ a.service.isSome) then none
            else some ⟨scheme, some { a with host := String.ofList host },
              .segments (names.map String.ofList), query, fragment⟩ := by
  -- A path loses the slash that it begins with before it is cut into its parts.
  have hbody : (if names.flatMap ('/' :: ·) = [] ∧ ¬ isNetScheme scheme = true then
        Body.segments []
      else
        bodyOf (isNetScheme scheme)
          (if (names.flatMap ('/' :: ·)).head?.any (isSlash (isNetScheme scheme)) then
            (names.flatMap ('/' :: ·)).drop 1
          else names.flatMap ('/' :: ·)))
      = .segments (names.map String.ofList) := by
    cases names with
    | nil => rw [if_pos ⟨rfl, fun hnet => hnames hnet rfl⟩, List.map_nil]
    | cons first names =>
      have hhead : ((first :: names).flatMap ('/' :: ·)).head?.any
          (isSlash (isNetScheme scheme)) = true := rfl
      rw [if_neg (fun hnil => absurd hnil.1 (List.cons_ne_nil _ _)), if_pos hhead,
        List.flatMap_cons, List.cons_append, List.drop_succ_cons, List.drop_zero, bodyOf_flatMap h.kept]
  rw [withAuthority?]
  dsimp only
  rw [h.takeWhile_render, List.drop_left, authority?_render h.normal hfile]
  cases hostOf? scheme a.host.toList with
  | none => rfl
  | some host =>
    rw [Option.bind_some, Option.bind_some]
    split
    · rfl
    · simp only [Option.bind_eq_bind, Option.bind_some, List.nil_append, Option.pure_def, hbody,
        h.isTail.withTail]

theorem parse?_place (h : IsHosted (isNetScheme scheme) scheme a names query fragment)
    (hfile : scheme ≠ "file") (hnames : isNetScheme scheme = true → names ≠ [])
    : parse? (render ⟨scheme, some a, .segments (names.map String.ofList), query, fragment⟩)
        = (hostOf? scheme a.host.toList).bind fun host =>
            if host = [] ∧ (a.user.isSome ∨ a.service.isSome) then none
            else some ⟨scheme, some { a with host := String.ofList host },
              .segments (names.map String.ofList), query, fragment⟩ := by
  rw [h.parse?_render, behindScheme?, if_neg hfile]
  split
  · next hnet =>
    have hslashes : ('/' :: '/' :: (a.render.toList ++ names.flatMap ('/' :: ·))).dropWhile
        (isSlash true) = a.render.toList ++ names.flatMap ('/' :: ·) := by
      rw [List.dropWhile_cons_of_pos rfl, List.dropWhile_cons_of_pos rfl]
      cases hrender : a.render.toList with
      | nil =>
        rw [toList_render, List.append_eq_nil_iff, List.append_eq_nil_iff] at hrender
        exact absurd hrender.2.1 (h.normal.net hnet)
      | cons c rest =>
        have hc : c ∈ a.render.toList := by
          rw [hrender]
          exact List.mem_cons_self
        rw [List.cons_append, List.dropWhile_cons_of_neg]
        rw [h.not_isSlash hc]
        exact Bool.false_ne_true
    dsimp only
    rw [hslashes]
    exact h.withAuthority?_render hfile hnames _
  · exact h.withAuthority?_render hfile hnames _

end IsHosted

/-! Files of other hosts. -/

theorem follow_drive {first : List Char} {names : List (List Char)}
    (hkept : ∀ name, name ∈ first :: names → Kept true name) (hdrive : isDrive first = true)
    : Route.follow true {} (first :: names) = ⟨(first.take 1 ++ [':']) :: names, true⟩ := by
  have hfirst := hkept first List.mem_cons_self
  have hone : plainDots first ≠ ['.'] := hfirst.noDots 1 (.inl rfl)
  have htwo : plainDots first ≠ ['.', '.'] := hfirst.noDots 2 (.inr rfl)
  have hread : (true && ({} : Route).names.isEmpty && isDrive first) = true := hdrive
  rw [Route.follow, if_neg htwo, if_neg hone, if_pos hread,
    Route.follow_kept fun name hname => hkept name (List.mem_cons_of_mem _ hname)]
  · rfl
  · intro _ hnil
    cases hnil

theorem fileUri_of_follow {query fragment : Option String} (htail : IsTail true query fragment)
    {path first : List Char} {names skipped : List (List Char)} {drive : Bool}
    (hroute : Route.follow true {} (segments true path) = ⟨skipped ++ first :: names, drive⟩)
    (hskipped : ∀ name, name ∈ skipped → name = []) (hfirst : first = [] → names = [])
    (main host : List Char)
    : fileUri ⟨main, query.map String.toList, fragment.map String.toList⟩ host path
        = ⟨"file", some { host := if drive = true then "" else String.ofList host },
            .segments ((first :: names).map String.ofList), query, fragment⟩ := by
  have hdrop : ∀ rest : List (List Char),
      (skipped ++ rest).dropWhile List.isEmpty = rest.dropWhile List.isEmpty := by
    intro rest
    rw [List.dropWhile_append_of_pos]
    intro name hname
    rw [hskipped name hname]
    rfl
  rw [fileUri, hroute]
  dsimp only
  rw [hdrop, htail.withTail]
  cases first with
  | nil =>
    rw [hfirst rfl]
    rfl
  | cons c first => rfl

/--
A file of another host as it is read. The first name on the way to it is empty only if it is the
only one.
-/
structure IsRemote (host first : List Char) (names : List (List Char))
    (query fragment : Option String) : Prop
    extends IsHosted true "file" { host := String.ofList host } (first :: names) query fragment
    where
  named : host ≠ []
  remote : host ≠ "localhost".toList
  first : first = [] → names = []

namespace IsRemote

variable {host first : List Char} {names : List (List Char)} {query fragment : Option String}

theorem toList_render_host (host : List Char)
    : (Authority.render { host := String.ofList host }).toList = host := by
  rw [toList_render, Option.elim_none, List.nil_append, serviceText, List.append_nil,
    String.toList_ofList]

theorem takeWhile_host (h : IsRemote host first names query fragment)
    : (host ++ (first :: names).flatMap ('/' :: ·)).takeWhile (!isSlash true ·) = host := by
  have htake := h.takeWhile_render
  rw [toList_render_host] at htake
  exact htake

theorem isDrive_host (h : IsRemote host first names query fragment) : isDrive host = false := by
  rw [← Bool.not_eq_true, isDrive_iff]
  rintro ⟨letter, c, rfl, hletter, hc⟩
  have hhost := h.normal.host
  rw [String.toList_ofList] at hhost
  obtain ⟨inside, heq, -⟩ | hplain := hhost
  · rw [List.cons.injEq] at heq
    obtain ⟨rfl, -⟩ := heq
    cases hletter
  · have hforbidden := (hplain c (by simp)).1
    obtain rfl | rfl := hc <;> cases hforbidden

theorem file?_render (h : IsRemote host first names query fragment)
    : file? ⟨'/' :: '/' :: (host ++ (first :: names).flatMap ('/' :: ·)),
          query.map String.toList, fragment.map String.toList⟩
        = (netHost? host).map fun read =>
            if read = "localhost".toList then
              ⟨"file", some {}, .segments ((first :: names).map String.ofList), query, fragment⟩
            else if isDrive first = true then
              ⟨"file", some {}, .segments (((first.take 1 ++ [':']) :: names).map String.ofList),
                query, fragment⟩
            else
              ⟨"file", some { host := String.ofList read },
                .segments ((first :: names).map String.ofList), query, fragment⟩ := by
  have hkept : ∀ name, name ∈ [] :: first :: names → Kept true name := by
    intro name hname
    obtain rfl | hname := List.mem_cons.1 hname
    · exact kept_nil true
    · exact h.kept name hname
  have hslashed : Route.follow true {} (segments true ((first :: names).flatMap ('/' :: ·)))
      = ⟨[[]] ++ first :: names, false⟩ := by
    rw [← List.nil_append ((first :: names).flatMap _), segments_flatMap hkept,
      Route.follow_kept hkept]
    · rfl
    · rintro _ _ _ ⟨⟩
      rfl
  rw [file?]
  dsimp only
  rw [if_pos (by decide), h.takeWhile_host, List.drop_left, h.isDrive_host,
    if_neg Bool.false_ne_true, if_neg h.named]
  cases netHost? host with
  | none => rfl
  | some read =>
    rw [Option.map_some]
    simp only [Option.bind_eq_bind, Option.bind_some]
    -- The local host is left out, and so is any host in front of a drive.
    split
    · rw [fileUri_of_follow h.isTail hslashed (by simp) h.first]
      rfl
    · rw [List.flatMap_cons, List.cons_append, List.drop_succ_cons, List.drop_zero]
      split
      · next hdrive =>
        have hroute : Route.follow true {} (segments true (first ++ names.flatMap ('/' :: ·)))
            = ⟨[] ++ (first.take 1 ++ [':']) :: names, true⟩ := by
          rw [segments_flatMap h.kept, follow_drive h.kept hdrive]
          rfl
        rw [fileUri_of_follow h.isTail hroute (by simp) (by simp)]
        rfl
      · next hdrive =>
        have hroute : Route.follow true {} (segments true (first ++ names.flatMap ('/' :: ·)))
            = ⟨[] ++ first :: names, false⟩ := by
          rw [segments_flatMap h.kept, Route.follow_kept h.kept]
          rintro _ _ _ ⟨⟩
          exact Bool.not_eq_true _ ▸ hdrive
        rw [fileUri_of_follow h.isTail hroute (by simp) h.first]
        rfl

end IsRemote

end DeprecatedUse.Uri
