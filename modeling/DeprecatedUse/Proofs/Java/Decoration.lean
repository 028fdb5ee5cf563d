import DeprecatedUse.Java.Deprecation
import DeprecatedUse.Proofs.Java.Tiling
import DeprecatedUse.Proofs.Text.Splitting

/-!
This module contains what the decoration of a documentation comment changes: nothing. However the
lines of a comment are indented and led in by stars, its content, its deprecation tag and the
deprecation of its declaration are those of its lines.
-/

namespace DeprecatedUse.Java.Doc

open DeprecatedUse.Text

/-! The deprecation tag in a list of lines. -/

/--
The line is the deprecation tag, alone or with a blank behind it, and `text` is what stands behind.
-/
def IsTag (line text : List Char) : Prop :=
  line = "@deprecated".toList ++ text ∧ ∀ c, text.head? = some c → isBlank c = true

theorem afterTag?_eq_some_iff {line text : List Char}
    : afterTag? line = some text ↔ IsTag line text := by
  unfold afterTag? IsTag
  split
  · next h =>
    simp only [reduceCtorEq, false_iff, not_and]
    rintro rfl
    rw [List.isPrefixOf?_eq_some_iff_append_eq.2 rfl] at h
    cases h
  · next h =>
    rw [List.isPrefixOf?_eq_some_iff_append_eq] at h
    rw [← h, List.append_cancel_left_eq, Option.some.injEq]
    refine ⟨fun htext => ⟨htext, ?_⟩, And.left⟩
    simp [← htext]
  · next c rest h =>
    rw [List.isPrefixOf?_eq_some_iff_append_eq] at h
    rw [← h, List.append_cancel_left_eq, Option.ite_none_right_eq_some, Option.some.injEq]
    constructor
    · rintro ⟨hc, rfl⟩
      exact ⟨rfl, by simpa using hc⟩
    · rintro ⟨rfl, hc⟩
      exact ⟨hc c rfl, rfl⟩

theorem findTag?_append_of_none {before : List (List Char)}
    (h : ∀ line, line ∈ before → afterTag? line = none) (lines : List (List Char))
    : findTag? (before ++ lines) = findTag? lines := by
  induction before with
  | nil => rfl
  | cons line before ih =>
    obtain ⟨hline, hbefore⟩ := List.forall_mem_cons.1 h
    rw [List.cons_append, findTag?, hline]
    exact ih hbefore

theorem findTag?_of_none {lines : List (List Char)}
    (h : ∀ line, line ∈ lines → afterTag? line = none) : findTag? lines = none := by
  rw [← List.append_nil lines, findTag?_append_of_none h]
  rfl

theorem findTag?_append {lines after : List (List Char)}
    (h : ∀ line, line ∈ after → afterTag? line = none)
    : findTag? (lines ++ after)
      = (findTag? lines).map fun (text, rest) => (text, rest ++ after) := by
  induction lines with
  | nil => exact findTag?_of_none h
  | cons line lines ih =>
    rw [List.cons_append, findTag?, findTag?]
    cases afterTag? line with
    | none => exact ih
    | some text => rfl

theorem isSome_findTag?_iff (lines : List (List Char))
    : (findTag? lines).isSome ↔ ∃ line ∈ lines, ∃ text, IsTag line text := by
  induction lines with
  | nil => simp [findTag?]
  | cons line lines ih =>
    simp only [findTag?, List.mem_cons, exists_eq_or_imp, ← afterTag?_eq_some_iff] at ih ⊢
    cases afterTag? line with
    | none => simpa using ih
    | some text => simp

theorem findTag?_eq_some {before after : List (List Char)} {line text : List Char}
    (hbefore : ∀ earlier ∈ before, ∀ text, ¬ IsTag earlier text) (hline : IsTag line text)
    : findTag? (before ++ line :: after) = some (text, after) := by
  rw [findTag?_append_of_none, findTag?, afterTag?_eq_some_iff.2 hline]
  intro earlier hearlier
  rw [Option.eq_none_iff_forall_ne_some]
  exact fun text htext => hbefore earlier hearlier text (afterTag?_eq_some_iff.1 htext)

theorem exists_of_findTag? {lines after : List (List Char)} {text : List Char}
    (h : findTag? lines = some (text, after)) : ∃ line ∈ lines, IsTag line text := by
  induction lines with
  | nil => cases h
  | cons line lines ih =>
    rw [findTag?] at h
    split at h
    · next found hfound =>
      cases h
      exact ⟨line, List.mem_cons_self, afterTag?_eq_some_iff.1 hfound⟩
    · obtain ⟨tag, htag, htext⟩ := ih h
      exact ⟨tag, List.mem_cons_of_mem line htag, htext⟩

/-! The text of the tag. -/

def tagText (text : List Char) (after : List (List Char)) : List Char :=
  trim (join [' '] (text :: after.takeWhile (·.head? != some '@')))

theorem tagText_append_of_empty {empty : List (List Char)}
    (h : ∀ line, line ∈ empty → line = []) (text : List Char) (after : List (List Char))
    : tagText text (after ++ empty) = tagText text after := by
  have hempty : ∀ line ∈ empty, (line.head? != some '@') = true := by
    intro line hline
    rw [h line hline]
    rfl
  unfold tagText
  rw [List.takeWhile_append]
  split
  · next hall =>
    rw [List.takeWhile_eq_self_iff.2 hempty, ← List.cons_append,
      trim_join_append_of_empty (by decide) h, (List.takeWhile_prefix _).eq_of_length hall]
  · rfl

theorem tagText_trim {line text : List Char} (hline : trim line = line) (htag : IsTag line text)
    (after : List (List Char)) : tagText (trim text) after = tagText text after := by
  have htext : trim text = trimStart text := by
    obtain rfl | ⟨front, c, rfl⟩ := List.eq_nil_or_concat' text
    · rfl
    · rw [htag.1, ← List.append_assoc] at hline
      exact trim_concat_of_not_blank (last_of_trim_eq hline) front
  have hblank : ∀ c ∈ text.takeWhile isBlank, isBlank c = true :=
    fun c hc => List.mem_takeWhile_imp hc
  unfold tagText
  calc trim (join [' '] (trim text :: after.takeWhile (·.head? != some '@')))
    _ = trim (text.takeWhile isBlank
        ++ join [' '] (trimStart text :: after.takeWhile (·.head? != some '@'))) := by
      rw [trim_append_of_blank_left hblank, htext]
    _ = trim (join [' '] (text :: after.takeWhile (·.head? != some '@'))) := by
      rw [join_cons, join_cons, ← List.append_assoc, trimStart, List.takeWhile_append_dropWhile]

theorem map_tagText_splitOn {lines : List (List Char)}
    (htrim : ∀ line, line ∈ lines → trim line = line) (hbreak : ∀ line, line ∈ lines → '\n' ∉ line)
    : (findTag? (splitOn '\n' (trim (join ['\n'] lines)))).map
        (fun (text, after) => tagText (trim text) after)
      = (findTag? lines).map fun (text, after) => tagText text after := by
  obtain ⟨before, core, after, rfl, hcore, hbefore, hafter⟩ := exists_core lines
  have hnone : ∀ line : List Char, line = [] → afterTag? line = none := by
    rintro line rfl
    rfl
  have htrim' : ∀ line, line ∈ core → trim line = line := fun line hline =>
    htrim line (List.mem_append_right before (List.mem_append_left after hline))
  have hbreak' : ∀ line, line ∈ core → '\n' ∉ line := fun line hline =>
    hbreak line (List.mem_append_right before (List.mem_append_left after hline))
  have hsplit : findTag? (splitOn '\n' (trim (join ['\n'] core))) = findTag? core := by
    obtain rfl | hcore := hcore
    · rfl
    · obtain ⟨c, cs, rest, rfl⟩ := hcore.first
      rw [hcore.trim_join htrim', splitOn_join hbreak']
  rw [trim_join_of_empty_ends (by decide) hbefore hafter, hsplit,
    findTag?_append_of_none fun line hline => hnone line (hbefore line hline),
    findTag?_append fun line hline => hnone line (hafter line hline)]
  cases hfound : findTag? core with
  | none => rfl
  | some found =>
    obtain ⟨text, rest⟩ := found
    obtain ⟨line, hline, htag⟩ := exists_of_findTag? hfound
    dsimp only [Option.map_some]
    rw [tagText_append_of_empty hafter, tagText_trim (htrim' line hline) htag]

/-! Decorated comments. -/

def IsIndent (cs : List Char) : Prop :=
  ∀ c, c ∈ cs → isBlank c = true ∧ c ≠ '\n'

instance (cs : List Char) : Decidable (IsIndent cs) :=
  List.decidableBAll (fun c => isBlank c = true ∧ c ≠ '\n') cs

theorem IsIndent.isBlank {cs : List Char} (h : IsIndent cs) (c : Char) (hc : c ∈ cs)
    : isBlank c = true :=
  (h c hc).1

theorem IsIndent.not_mem {cs : List Char} (h : IsIndent cs) : '\n' ∉ cs :=
  fun hc => (h _ hc).2 rfl

/--
A line of a comment: a star with white space on both sides, then what the line says. White space may
end the line too, such as the carriage return of a line break.
-/
structure DecoratedLine where
  before : List Char
  behind : List Char
  content : List Char
  ending : List Char := []
  indent_before : IsIndent before
  indent_behind : IsIndent behind
  indent_ending : IsIndent ending
  trimmed : trim content = content
  unbroken : '\n' ∉ content

namespace DecoratedLine

def of (before behind content : List Char) (h : IsIndent before ∧ IsIndent behind
    ∧ trim content = content ∧ '\n' ∉ content) : DecoratedLine where
  before := before
  behind := behind
  content := content
  indent_before := h.1
  indent_behind := h.2.1
  indent_ending := by decide
  trimmed := h.2.2.1
  unbroken := h.2.2.2

def text (l : DecoratedLine) : List Char :=
  l.before ++ '*' :: (l.behind ++ (l.content ++ l.ending))

theorem not_mem_text (l : DecoratedLine) : '\n' ∉ l.text := by
  simp [text, l.indent_before.not_mem, l.indent_behind.not_mem, l.unbroken,
    l.indent_ending.not_mem]

theorem contentLine_text (l : DecoratedLine) : contentLine l.text = l.content := by
  rw [contentLine, text, trimStart_append_of_blank l.indent_before.isBlank,
    trimStart_cons_of_not_blank (by decide)]
  change trim (l.behind ++ (l.content ++ l.ending)) = l.content
  rw [trim_append_of_blank_left l.indent_behind.isBlank,
    trim_append_of_blank_right l.indent_ending.isBlank, l.trimmed]

end DecoratedLine

theorem contentLine_indent {cs : List Char} (h : IsIndent cs) : contentLine cs = [] := by
  rw [contentLine, trimStart_of_blank h.isBlank]
  rfl

/--
What stands between the opening mark and the closing mark of a comment. The closing mark stands
behind the last line, or on a line of its own behind the white space in `closing`.
-/
def inside (opening : List Char) (lines : List DecoratedLine) (closing : Option (List Char))
    : List Char :=
  opening ++ (lines.map DecoratedLine.text ++ closing.toList).flatMap ('\n' :: ·)

def decorate (opening : List Char) (lines : List DecoratedLine) (closing : Option (List Char))
    : List Char :=
  ['/', '*', '*'] ++ (inside opening lines closing ++ ['*', '/'])

/--
A documentation comment with decorated lines, and with no closing mark but the last one.
-/
structure DecoratedComment where
  opening : List Char := []
  lines : List DecoratedLine
  closing : Option (List Char)
  indent_opening : IsIndent opening
  indent_closing : ∀ blanks ∈ closing, IsIndent blanks
  closed : IsBlockComment (decorate opening lines closing)

namespace DecoratedComment

def text (c : DecoratedComment) : List Char :=
  decorate c.opening c.lines c.closing

def contents (c : DecoratedComment) : List (List Char) :=
  c.lines.map DecoratedLine.content

def inner (c : DecoratedComment) : List Char :=
  inside c.opening c.lines c.closing

theorem text_eq (c : DecoratedComment) : c.text = ['/', '*', '*'] ++ (c.inner ++ ['*', '/']) :=
  rfl

theorem trim_text (c : DecoratedComment) : trim c.text = c.text := by
  have h : c.text = (['/', '*', '*'] ++ (c.inner ++ ['*'])) ++ ['/'] := by
    rw [text_eq, List.append_assoc, List.append_assoc]
    rfl
  exact trim_eq_self h (by decide) (by decide)

theorem not_opening_prefix (c : DecoratedComment)
    : ¬ ['/', '*', '*'] <+: c.inner ++ ['*', '/'] := by
  rintro ⟨rest, hrest⟩
  unfold inner inside at hrest
  cases hopening : c.opening with
  | nil =>
    rw [hopening] at hrest
    cases hlines : c.lines.map DecoratedLine.text ++ c.closing.toList with
    | nil => simp [hlines] at hrest
    | cons line lines => simp [hlines] at hrest
  | cons d opening =>
    rw [hopening, List.cons_append, List.cons_append, List.cons_append] at hrest
    have hblank := c.indent_opening.isBlank d (hopening ▸ List.mem_cons_self)
    rw [← (List.cons.inj hrest).1] at hblank
    exact absurd hblank (by decide)

theorem not_closing_suffix (c : DecoratedComment) : ¬ ['*', '/'] <:+ c.inner := by
  intro hsuffix
  obtain ⟨body, hbody, hclosed⟩ := c.closed
  have hinner : '*' :: c.inner = body :=
    List.append_cancel_right (List.cons.inj (List.cons.inj hbody).2).2
  apply hclosed
  rw [← hinner]
  exact hsuffix.isInfix.trans ⟨['*'], ['*'], rfl⟩

theorem splitOn_inner (c : DecoratedComment)
    : splitOn '\n' c.inner = c.opening :: (c.lines.map DecoratedLine.text ++ c.closing.toList) := by
  refine splitOn_flatMap ?_
  intro line hline
  rw [List.mem_cons, List.mem_append, List.mem_map, Option.mem_toList] at hline
  obtain rfl | ⟨l, -, rfl⟩ | hblanks := hline
  · exact c.indent_opening.not_mem
  · exact l.not_mem_text
  · exact (c.indent_closing line hblanks).not_mem

theorem content_text (c : DecoratedComment)
    : content c.text = trim (join ['\n'] c.contents) := by
  have hlines : (c.lines.map DecoratedLine.text).map contentLine = c.contents := by
    rw [List.map_map]
    exact List.map_congr_left fun l _ => l.contentLine_text
  have hclosing : ∀ line ∈ c.closing.toList.map contentLine, line = [] := by
    intro line hline
    obtain ⟨blanks, hblanks, rfl⟩ := List.mem_map.1 hline
    exact contentLine_indent (c.indent_closing blanks (Option.mem_toList.1 hblanks))
  unfold content
  dsimp only
  rw [trim_text, text_eq, dropLeading_append (by decide) c.not_opening_prefix,
    dropTrailing_append (by decide) c.not_closing_suffix, splitOn_inner, List.map_cons,
    contentLine_indent c.indent_opening, List.map_append, hlines]
  have hbreak : isBlank '\n' = true := by decide
  exact trim_join_of_empty_ends hbreak (List.forall_mem_singleton.2 rfl) hclosing c.contents

theorem deprecatedTag?_text (c : DecoratedComment)
    : deprecatedTag? c.text
      = (findTag? c.contents).map fun (text, after) => tagText text after := by
  unfold deprecatedTag?
  rw [content_text]
  refine map_tagText_splitOn ?_ ?_
  · intro line hline
    obtain ⟨l, -, rfl⟩ := List.mem_map.1 hline
    exact l.trimmed
  · intro line hline
    obtain ⟨l, -, rfl⟩ := List.mem_map.1 hline
    exact l.unbroken

/--
The decoration of a comment is transparent. Its content is what its lines say. Comments whose lines
say the same have the same tag and make the same deprecation. There is a tag if and only if a line is
the tag, and its text is what stands behind the first such tag and on the lines after it, up to the
next line that starts a tag.
-/
theorem text_transparent (c : DecoratedComment)
    : content c.text = trim (join ['\n'] c.contents)
      ∧ (∀ c' : DecoratedComment, c'.contents = c.contents →
        deprecatedTag? c'.text = deprecatedTag? c.text
          ∧ ∀ annotations, Deprecation.of? annotations (some (String.ofList c'.text))
            = Deprecation.of? annotations (some (String.ofList c.text)))
      ∧ ((deprecatedTag? c.text).isSome ↔ ∃ line ∈ c.contents, ∃ text, IsTag line text)
      ∧ ∀ before line text after, c.contents = before ++ line :: after →
        (∀ earlier ∈ before, ∀ text, ¬ IsTag earlier text) → IsTag line text →
        deprecatedTag? c.text
          = some (trim (join [' '] (text :: after.takeWhile (·.head? != some '@')))) := by
  refine ⟨c.content_text, ?_, ?_, ?_⟩
  · intro c' hcontents
    have htag : deprecatedTag? c'.text = deprecatedTag? c.text := by
      rw [deprecatedTag?_text, deprecatedTag?_text, hcontents]
    refine ⟨htag, ?_⟩
    intro annotations
    unfold Deprecation.of?
    rw [Option.bind_some, Option.bind_some, String.toList_ofList, String.toList_ofList, htag]
  · rw [deprecatedTag?_text, Option.isSome_map, isSome_findTag?_iff]
  · intro before line text after hcontents hbefore hline
    rw [deprecatedTag?_text, hcontents, findTag?_eq_some hbefore hline]
    rfl

def indented : DecoratedComment where
  lines := [
    .of [' '] [' '] "Opens a tab.".toList (by decide +kernel),
    .of [' '] [' '] "@deprecated Use load".toList (by decide +kernel),
    .of [' '] [' '] "* instead.".toList (by decide +kernel),
    .of [' '] [' '] "@return the tab".toList (by decide +kernel)]
  closing := some [' ']
  indent_opening := by decide
  indent_closing := by decide +kernel
  closed := ⟨'*' :: inside _ _ _, rfl, by decide +kernel⟩

def unindented : DecoratedComment where
  lines := [
    .of [] ['\t'] "Opens a tab.".toList (by decide +kernel),
    .of [] ['\t'] "@deprecated Use load".toList (by decide +kernel),
    .of [] [] "* instead.".toList (by decide +kernel),
    .of [] [' ', ' '] "@return the tab".toList (by decide +kernel)]
  closing := none
  indent_opening := by decide
  indent_closing := by decide +kernel
  closed := ⟨'*' :: inside _ _ _, rfl, by decide +kernel⟩

theorem text_transparent_indented
    : unindented.text ≠ indented.text ∧ unindented.contents = indented.contents
      ∧ deprecatedTag? indented.text = some "Use load * instead.".toList
      ∧ deprecatedTag? unindented.text = deprecatedTag? indented.text := by
  obtain ⟨-, hdecorations, -, htag⟩ := text_transparent indented
  have hcontents : unindented.contents = indented.contents := by
    unfold unindented indented
    decide +kernel
  have hfirst : ∀ earlier ∈ ["Opens a tab.".toList], ∀ text, ¬ IsTag earlier text := by
    intro earlier hearlier text htext
    rw [List.mem_singleton.1 hearlier, ← afterTag?_eq_some_iff] at htext
    cases htext
  have hfound := htag ["Opens a tab.".toList] "@deprecated Use load".toList " Use load".toList
    ["* instead.".toList, "@return the tab".toList]
    (by unfold indented; decide +kernel) hfirst (afterTag?_eq_some_iff.1 (by decide +kernel))
  exact ⟨by unfold unindented indented; decide +kernel, hcontents,
    hfound.trans (by decide +kernel), (hdecorations unindented hcontents).1⟩

end DecoratedComment

end DeprecatedUse.Java.Doc
