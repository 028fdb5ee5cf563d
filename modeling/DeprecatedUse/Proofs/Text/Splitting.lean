import DeprecatedUse.Text.Lines
import Mathlib

/-!
This module contains the cutting of texts that were put together from parts without separators, and
what is left when the blanks and the empty lines at their ends are dropped.
-/

namespace DeprecatedUse.Text

section

variable {α : Type} [DecidableEq α] {sep : α}

theorem takeWhile_ne_append {cs : List α} (h : sep ∉ cs) (rest : List α)
    : (cs ++ sep :: rest).takeWhile (· != sep) = cs := by
  rw [List.takeWhile_append_of_pos, List.takeWhile_cons_of_neg, List.append_nil]
  · simp
  · intro c hc
    exact bne_iff_ne.2 fun heq => h (heq ▸ hc)

theorem dropWhile_ne_append {cs : List α} (h : sep ∉ cs) (rest : List α)
    : (cs ++ sep :: rest).dropWhile (· != sep) = sep :: rest := by
  rw [List.dropWhile_append_of_pos, List.dropWhile_cons_of_neg]
  · simp
  · intro c hc
    exact bne_iff_ne.2 fun heq => h (heq ▸ hc)

theorem takeWhile_ne_self {cs : List α} (h : sep ∉ cs) : cs.takeWhile (· != sep) = cs := by
  rw [List.takeWhile_eq_self_iff]
  intro c hc
  exact bne_iff_ne.2 fun heq => h (heq ▸ hc)

theorem dropWhile_ne_self {cs : List α} (h : sep ∉ cs) : cs.dropWhile (· != sep) = [] := by
  rw [List.dropWhile_eq_nil_iff]
  intro c hc
  exact bne_iff_ne.2 fun heq => h (heq ▸ hc)

/-! The first separator. -/

theorem splitFirst?_append {cs : List α} (h : sep ∉ cs) (rest : List α)
    : splitFirst? sep (cs ++ sep :: rest) = some (cs, rest) := by
  rw [splitFirst?, dropWhile_ne_append h]
  dsimp only
  rw [takeWhile_ne_append h]

theorem splitFirst?_of_not_mem {cs : List α} (h : sep ∉ cs) : splitFirst? sep cs = none := by
  rw [splitFirst?, dropWhile_ne_self h]

theorem splitFirst?_none {cs : List α} (h : splitFirst? sep cs = none) : sep ∉ cs := by
  rw [splitFirst?] at h
  split at h
  · next hdrop =>
    rw [List.dropWhile_eq_nil_iff] at hdrop
    intro hmem
    exact bne_iff_ne.1 (hdrop sep hmem) rfl
  · cases h

theorem splitFirst?_some {cs before after : List α}
    (h : splitFirst? sep cs = some (before, after))
    : sep ∉ before ∧ cs = before ++ sep :: after := by
  rw [splitFirst?] at h
  split at h
  · cases h
  · next c rest hdrop =>
    rw [Option.some.injEq, Prod.mk.injEq] at h
    obtain ⟨rfl, rfl⟩ := h
    have hc : c = sep := by
      have hhead := List.head?_dropWhile_not (· != sep) cs
      rw [hdrop] at hhead
      simpa using hhead
    refine ⟨fun hmem => ?_, ?_⟩
    · simpa using List.mem_takeWhile_imp hmem
    · subst hc
      rw [← hdrop, List.takeWhile_append_dropWhile]

/-! The last separator. -/

theorem afterLast_append {cs : List α} (h : sep ∉ cs) (before : List α)
    : afterLast sep (before ++ sep :: cs) = cs := by
  have hcs : sep ∉ cs.reverse := fun hmem => h (List.mem_reverse.1 hmem)
  rw [afterLast, List.reverse_append, List.reverse_cons, List.append_assoc, List.singleton_append,
    takeWhile_ne_append hcs, List.reverse_reverse]

theorem append_sep_inj {front front' back back' : List α} (h : sep ∉ back) (h' : sep ∉ back')
    : front ++ sep :: back = front' ++ sep :: back' ↔ front = front' ∧ back = back' := by
  constructor
  · intro heq
    obtain rfl : back = back' := by
      rw [← afterLast_append h front, heq, afterLast_append h']
    exact ⟨List.append_cancel_right heq, rfl⟩
  · rintro ⟨rfl, rfl⟩
    rfl

/-! All separators. -/

theorem splitOn_of_not_mem {cs : List α} (h : sep ∉ cs) : splitOn sep cs = [cs] := by
  induction cs with
  | nil => rfl
  | cons c cs ih =>
    rw [List.mem_cons, not_or] at h
    rw [splitOn, if_neg (Ne.symm h.1), ih h.2]

theorem splitOn_append_cons {cs : List α} (h : sep ∉ cs) (rest : List α)
    : splitOn sep (cs ++ sep :: rest) = cs :: splitOn sep rest := by
  induction cs with
  | nil => rw [List.nil_append, splitOn, if_pos rfl]
  | cons c cs ih =>
    rw [List.mem_cons, not_or] at h
    rw [List.cons_append, splitOn, if_neg (Ne.symm h.1), ih h.2]

theorem splitOn_append (cs rest : List α)
    : splitOn sep (cs ++ sep :: rest) = splitOn sep cs ++ splitOn sep rest := by
  induction cs with
  | nil => simp only [List.nil_append, splitOn, if_true, List.singleton_append]
  | cons c cs ih =>
    rw [List.cons_append, splitOn, splitOn, ih]
    split
    · rfl
    · cases hsplit : splitOn sep cs with
      | nil => exact absurd hsplit (splitOn_ne_nil sep cs)
      | cons part parts => rfl

theorem splitOn_flatMap {part : List α} {parts : List (List α)}
    (h : ∀ p, p ∈ part :: parts → sep ∉ p)
    : splitOn sep (part ++ parts.flatMap (sep :: ·)) = part :: parts := by
  induction parts generalizing part with
  | nil =>
    rw [List.flatMap_nil, List.append_nil]
    exact splitOn_of_not_mem (h part List.mem_cons_self)
  | cons next parts ih =>
    rw [List.flatMap_cons, List.cons_append, splitOn_append_cons (h part List.mem_cons_self),
      ih fun p hp => h p (List.mem_cons_of_mem _ hp)]

theorem not_mem_of_mem_splitOn {cs part : List α} (h : part ∈ splitOn sep cs) : sep ∉ part := by
  induction cs generalizing part with
  | nil =>
    rw [splitOn, List.mem_singleton] at h
    subst h
    exact List.not_mem_nil
  | cons c cs ih =>
    rw [splitOn] at h
    split at h
    · rw [List.mem_cons] at h
      obtain rfl | h := h
      · exact List.not_mem_nil
      · exact ih h
    · next hc =>
      cases hsplit : splitOn sep cs with
      | nil => exact absurd hsplit (splitOn_ne_nil sep cs)
      | cons first parts =>
        rw [hsplit] at h ih
        dsimp only at h
        rw [List.mem_cons] at h
        obtain rfl | h := h
        · rw [List.mem_cons, not_or]
          exact ⟨Ne.symm hc, ih List.mem_cons_self⟩
        · exact ih (List.mem_cons_of_mem _ h)

theorem mem_of_mem_splitOn {cs part : List α} (h : part ∈ splitOn sep cs) {c : α}
    (hc : c ∈ part) : c ∈ cs := by
  induction cs generalizing part with
  | nil =>
    rw [splitOn, List.mem_singleton] at h
    subst h
    cases hc
  | cons d cs ih =>
    rw [splitOn] at h
    split at h
    · rw [List.mem_cons] at h
      obtain rfl | h := h
      · cases hc
      · exact List.mem_cons_of_mem _ (ih h hc)
    · cases hsplit : splitOn sep cs with
      | nil => exact absurd hsplit (splitOn_ne_nil sep cs)
      | cons first parts =>
        rw [hsplit] at h ih
        dsimp only at h
        rw [List.mem_cons] at h
        obtain rfl | h := h
        · rw [List.mem_cons] at hc
          obtain rfl | hc := hc
          · exact List.mem_cons_self
          · exact List.mem_cons_of_mem _ (ih List.mem_cons_self hc)
        · exact List.mem_cons_of_mem _ (ih (List.mem_cons_of_mem _ h) hc)

theorem mem_splitOn_of_mem {cs : List α} {c : α} (h : c ∈ cs)
    : c = sep ∨ ∃ part ∈ splitOn sep cs, c ∈ part := by
  induction cs with
  | nil => cases h
  | cons d cs ih =>
    rw [splitOn]
    split
    · next hd =>
      obtain rfl | h := List.mem_cons.1 h
      · exact .inl hd
      · obtain h | ⟨part, hpart, h⟩ := ih h
        · exact .inl h
        · exact .inr ⟨part, List.mem_cons_of_mem _ hpart, h⟩
    · cases hsplit : splitOn sep cs with
      | nil => exact absurd hsplit (splitOn_ne_nil sep cs)
      | cons first parts =>
        rw [hsplit] at ih
        dsimp only
        obtain rfl | h := List.mem_cons.1 h
        · exact .inr ⟨c :: first, List.mem_cons_self, List.mem_cons_self⟩
        · obtain h | ⟨part, hpart, h⟩ := ih h
          · exact .inl h
          · obtain rfl | hpart := List.mem_cons.1 hpart
            · exact .inr ⟨d :: part, List.mem_cons_self, List.mem_cons_of_mem _ h⟩
            · exact .inr ⟨part, List.mem_cons_of_mem _ hpart, h⟩

/-! Joined parts. -/

omit [DecidableEq α] in
theorem join_cons (sep part : List α) (parts : List (List α))
    : join sep (part :: parts) = part ++ parts.flatMap (sep ++ ·) := by
  unfold join
  induction parts generalizing part with
  | nil => simp
  | cons next parts ih =>
    rw [List.intersperse_cons_cons, List.flatten_cons, List.flatten_cons, ih, List.flatMap_cons,
      List.append_assoc]

omit [DecidableEq α] in
theorem exists_join_concat (sep : List α) (parts : List (List α)) (part : List α)
    : ∃ front, join sep (parts ++ [part]) = front ++ part := by
  cases parts with
  | nil => exact ⟨[], by rw [List.nil_append, join_cons]; simp⟩
  | cons first parts =>
    rw [List.cons_append, join_cons, List.flatMap_append, List.flatMap_singleton]
    exact ⟨first ++ (parts.flatMap (sep ++ ·) ++ sep), by simp⟩

theorem splitOn_join {part : List α} {parts : List (List α)}
    (h : ∀ p, p ∈ part :: parts → sep ∉ p)
    : splitOn sep (join [sep] (part :: parts)) = part :: parts := by
  rw [join_cons]
  exact splitOn_flatMap h

theorem join_splitOn (cs : List α) : join [sep] (splitOn sep cs) = cs := by
  induction cs with
  | nil => rfl
  | cons c cs ih =>
    rw [splitOn]
    cases hsplit : splitOn sep cs with
    | nil => exact absurd hsplit (splitOn_ne_nil sep cs)
    | cons part parts =>
      rw [hsplit, join_cons] at ih
      split
      · next hc =>
        rw [join_cons, List.flatMap_cons, List.append_assoc, ih, hc]
        rfl
      · rw [join_cons, List.cons_append, ih]

theorem splitOn_injective : Function.Injective (splitOn sep) :=
  Function.LeftInverse.injective join_splitOn

/-! Marks at the ends. -/

theorem dropLeading_append {mark cs : List α} (hmark : mark ≠ []) (h : ¬ mark <+: cs)
    : dropLeading mark (mark ++ cs) = cs := by
  have hstop : dropLeading mark cs = cs := by
    rw [dropLeading]
    split
    · rfl
    · next rest hrest => exact absurd ⟨rest, List.isPrefixOf?_eq_some_iff_append_eq.1 hrest⟩ h
  have hlength : cs.length < (mark ++ cs).length := by
    rw [List.length_append]
    exact Nat.lt_add_of_pos_left (List.length_pos_iff.2 hmark)
  rw [dropLeading, List.isPrefixOf?_eq_some_iff_append_eq.2 rfl]
  dsimp only
  rw [if_pos hlength, hstop]

theorem dropTrailing_append {mark cs : List α} (hmark : mark ≠ []) (h : ¬ mark <:+ cs)
    : dropTrailing mark (cs ++ mark) = cs := by
  rw [dropTrailing, List.reverse_append, dropLeading_append, List.reverse_reverse]
  · exact mt List.reverse_eq_nil_iff.1 hmark
  · exact mt List.reverse_prefix.1 h

end

/-! Blanks at the ends. -/

section Blanks

variable {blanks : List Char} (h : ∀ c, c ∈ blanks → isBlank c = true)

include h

theorem trimStart_append_of_blank (cs : List Char) : trimStart (blanks ++ cs) = trimStart cs :=
  List.dropWhile_append_of_pos h

theorem trimStart_of_blank : trimStart blanks = [] :=
  List.dropWhile_eq_nil_iff.2 h

theorem trimEnd_append_of_blank (cs : List Char) : trimEnd (cs ++ blanks) = trimEnd cs := by
  unfold trimEnd
  rw [List.reverse_append, List.dropWhile_append_of_pos]
  exact fun c hc => h c (List.mem_reverse.1 hc)

theorem trim_of_blank : trim blanks = [] := by
  rw [trim, trimStart_of_blank h]
  rfl

theorem trim_append_of_blank_left (cs : List Char) : trim (blanks ++ cs) = trim cs := by
  rw [trim, trimStart_append_of_blank h, trim]

theorem trim_append_of_blank_right (cs : List Char) : trim (cs ++ blanks) = trim cs := by
  unfold trim trimStart
  rw [List.dropWhile_append]
  split
  · next hcs =>
    rw [List.isEmpty_iff] at hcs
    rw [hcs, List.dropWhile_eq_nil_iff.2 h]
  · exact trimEnd_append_of_blank h _

end Blanks

theorem trimStart_cons_of_not_blank {c : Char} (h : isBlank c = false) (cs : List Char)
    : trimStart (c :: cs) = c :: cs :=
  List.dropWhile_cons_of_neg (Bool.eq_false_iff.1 h)

theorem trimEnd_concat_of_not_blank {c : Char} (h : isBlank c = false) (cs : List Char)
    : trimEnd (cs ++ [c]) = cs ++ [c] := by
  unfold trimEnd
  rw [List.reverse_append, List.reverse_singleton, List.singleton_append,
    List.dropWhile_cons_of_neg (Bool.eq_false_iff.1 h), List.reverse_cons, List.reverse_reverse]

/-! Texts that are trimmed: neither the first nor the last character is blank. -/

theorem trim_concat_of_not_blank {c : Char} (h : isBlank c = false) (cs : List Char)
    : trim (cs ++ [c]) = trimStart (cs ++ [c]) := by
  unfold trim trimStart
  rw [List.dropWhile_append, List.dropWhile_cons_of_neg (Bool.eq_false_iff.1 h)]
  split
  · exact trimEnd_concat_of_not_blank h []
  · exact trimEnd_concat_of_not_blank h _

theorem trim_eq_self {first last : Char} {front back : List Char}
    (h : first :: back = front ++ [last]) (hfirst : isBlank first = false)
    (hlast : isBlank last = false) : trim (first :: back) = first :: back := by
  rw [h, trim_concat_of_not_blank hlast, ← h, trimStart_cons_of_not_blank hfirst]

theorem head_of_trim_eq {c : Char} {cs : List Char} (h : trim (c :: cs) = c :: cs)
    : isBlank c = false := by
  rw [← Bool.not_eq_true]
  intro hblank
  have hlength := congrArg List.length h
  rw [trim, trimStart, List.dropWhile_cons_of_pos hblank, trimEnd, List.length_reverse] at hlength
  have hdropped := (List.dropWhile_suffix (l := (cs.dropWhile isBlank).reverse) isBlank).length_le
  have htail := (List.dropWhile_suffix (l := cs) isBlank).length_le
  rw [List.length_reverse] at hdropped
  rw [List.length_cons] at hlength
  omega

theorem last_of_trim_eq {c : Char} {cs : List Char} (h : trim (cs ++ [c]) = cs ++ [c])
    : isBlank c = false := by
  rw [← Bool.not_eq_true]
  intro hblank
  have hlength := congrArg List.length h
  rw [trim_append_of_blank_right (by simpa using hblank), trim, trimEnd, List.length_reverse]
    at hlength
  have hdropped := (List.dropWhile_suffix (l := (trimStart cs).reverse) isBlank).length_le
  have htail := (List.dropWhile_suffix (l := cs) isBlank).length_le
  rw [List.length_reverse] at hdropped
  rw [List.length_append, List.length_singleton] at hlength
  unfold trimStart at hdropped hlength
  omega

/-! Joined lines. -/

section EmptyLines

variable {sep : Char} {empty before after : List (List Char)}

theorem isBlank_of_mem_flatMap (hsep : isBlank sep = true)
    (h : ∀ line, line ∈ empty → line = []) (c : Char) (hc : c ∈ empty.flatMap ([sep] ++ ·))
    : isBlank c = true := by
  obtain ⟨line, hline, hmem⟩ := List.mem_flatMap.1 hc
  rw [h line hline, List.append_nil, List.mem_singleton] at hmem
  rw [hmem, hsep]

theorem trim_join_append_of_empty (hsep : isBlank sep = true)
    (h : ∀ line, line ∈ empty → line = []) (lines : List (List Char))
    : trim (join [sep] (lines ++ empty)) = trim (join [sep] lines) := by
  cases lines with
  | nil =>
    cases empty with
    | nil => rfl
    | cons line empty =>
      obtain ⟨hline, hempty⟩ := List.forall_mem_cons.1 h
      rw [List.nil_append, join_cons, hline, List.nil_append,
        trim_of_blank (isBlank_of_mem_flatMap hsep hempty)]
      rfl
  | cons line lines =>
    rw [List.cons_append, join_cons, List.flatMap_append, ← List.append_assoc,
      trim_append_of_blank_right (isBlank_of_mem_flatMap hsep h), ← join_cons]

theorem trim_join_empty_append (hsep : isBlank sep = true)
    (h : ∀ line, line ∈ empty → line = []) (lines : List (List Char))
    : trim (join [sep] (empty ++ lines)) = trim (join [sep] lines) := by
  cases lines with
  | nil => rw [← trim_join_append_of_empty hsep h [], List.append_nil, List.nil_append]
  | cons line lines =>
    induction empty with
    | nil => rfl
    | cons first empty ih =>
      obtain ⟨rfl, hempty⟩ := List.forall_mem_cons.1 h
      obtain ⟨next, more, hnext⟩ := List.exists_cons_of_ne_nil
        (List.append_ne_nil_of_right_ne_nil empty (List.cons_ne_nil line lines))
      rw [← ih hempty, List.cons_append, hnext, join_cons, join_cons, List.flatMap_cons,
        List.nil_append, List.append_assoc]
      exact trim_append_of_blank_left (by simpa using hsep) _

theorem trim_join_of_empty_ends (hsep : isBlank sep = true)
    (hbefore : ∀ line, line ∈ before → line = []) (hafter : ∀ line, line ∈ after → line = [])
    (lines : List (List Char))
    : trim (join [sep] (before ++ (lines ++ after))) = trim (join [sep] lines) := by
  rw [trim_join_empty_append hsep hbefore, trim_join_append_of_empty hsep hafter]

end EmptyLines

structure IsCore (lines : List (List Char)) : Prop where
  first : ∃ c cs rest, lines = (c :: cs) :: rest
  last : ∃ c cs rest, lines = rest ++ [cs ++ [c]]

theorem IsCore.trim_join {core : List (List Char)} (hcore : IsCore core)
    (htrim : ∀ line, line ∈ core → trim line = line) (sep : List Char)
    : trim (join sep core) = join sep core := by
  obtain ⟨first, cs, rest, hfirst⟩ := hcore.first
  obtain ⟨last, ds, lines, hlast⟩ := hcore.last
  have hfirst' : isBlank first = false :=
    head_of_trim_eq (htrim (first :: cs) (hfirst ▸ List.mem_cons_self))
  have hlast' : isBlank last = false :=
    last_of_trim_eq (htrim (ds ++ [last]) (hlast ▸ List.mem_concat_self))
  obtain ⟨front, hfront⟩ := exists_join_concat sep lines (ds ++ [last])
  rw [← hlast, hfirst, join_cons, List.cons_append, ← List.append_assoc] at hfront
  rw [hfirst, join_cons, List.cons_append]
  exact trim_eq_self hfront hfirst' hlast'

theorem exists_core (lines : List (List Char))
    : ∃ before core after, lines = before ++ (core ++ after) ∧ (core = [] ∨ IsCore core)
        ∧ (∀ line, line ∈ before → line = []) ∧ ∀ line, line ∈ after → line = [] := by
  have hempty : ∀ line : List Char, line.isEmpty = true → line = [] :=
    fun line h => List.isEmpty_iff.1 h
  have hsplit := List.takeWhile_append_dropWhile (p := List.isEmpty) (l := lines)
  refine ⟨_, (lines.dropWhile List.isEmpty).rdropWhile List.isEmpty,
    (lines.dropWhile List.isEmpty).rtakeWhile List.isEmpty,
    by rw [List.rdropWhile_append_rtakeWhile, hsplit], ?_, ?_, ?_⟩
  -- All empty lines in front and behind are taken off, so the core begins and ends with others.
  · rw [or_iff_not_imp_left]
    intro hne
    cases hdrop : lines.dropWhile List.isEmpty with
    | nil => exact absurd (by rw [hdrop]; rfl) hne
    | cons first rest =>
      have hfirst := List.head?_dropWhile_not List.isEmpty lines
      rw [hdrop] at hne hfirst
      constructor
      · obtain ⟨c, cs, rfl⟩ := List.exists_cons_of_ne_nil (List.isEmpty_eq_false_iff.1 hfirst)
        obtain ⟨line, core, hcore⟩ := List.exists_cons_of_ne_nil hne
        have hprefix := List.rdropWhile_prefix (p := List.isEmpty) (l := (c :: cs) :: rest)
        rw [hcore, List.cons_prefix_cons] at hprefix
        exact ⟨c, cs, core, by rw [hcore, hprefix.1]⟩
      · have hlast := List.rdropWhile_last_not List.isEmpty _ hne
        rw [List.isEmpty_iff] at hlast
        obtain ⟨cs, c, hlast⟩ := (List.eq_nil_or_concat' _).resolve_left hlast
        exact ⟨c, cs, _, by rw [← hlast, List.dropLast_concat_getLast]⟩
  · exact fun line hline => hempty line (List.mem_takeWhile_imp hline)
  · intro line hline
    rw [List.rtakeWhile, List.mem_reverse] at hline
    exact hempty line (List.mem_takeWhile_imp hline)

end DeprecatedUse.Text
