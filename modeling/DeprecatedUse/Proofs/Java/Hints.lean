import DeprecatedUse.Java.Replacement
import DeprecatedUse.Proofs.Text.Splitting
import DeprecatedUse.Text.Alphanumeric

/-!
This module contains which replacement is read from the two wordings of a deprecation text, "use …
instead" and a link. The words give a symbol whole if it starts with an underscore, a dollar or an
ASCII letter, where case does not count. A link gives the symbol up to its first blank, so a
parameter list with a blank is cut short.
-/

namespace DeprecatedUse.Java.Replacement

open DeprecatedUse.Text

/-! Blanks belong to no word. -/

def blankCodes : List Nat :=
  [0x9, 0xA, 0xB, 0xC, 0xD, 0x20, 0x85, 0xA0, 0x1680, 0x2000, 0x2001, 0x2002, 0x2003, 0x2004,
    0x2005, 0x2006, 0x2007, 0x2008, 0x2009, 0x200A, 0x2028, 0x2029, 0x202F, 0x205F, 0x3000]

theorem exists_of_contains {ranges : Ranges} {n : Nat} (h : ranges.contains n = true)
    : ∃ range ∈ ranges, range.1 ≤ n ∧ n ≤ range.2 := by
  induction ranges with
  | nil => cases h
  | cons range rest ih =>
    rw [Ranges.contains, Bool.and_eq_true, Bool.or_eq_true, decide_eq_true_eq,
      decide_eq_true_eq] at h
    obtain ⟨hlo, hhi | hrest⟩ := h
    · exact ⟨range, List.mem_cons_self, hlo, hhi⟩
    · obtain ⟨later, hlater, hbounds⟩ := ih hrest
      exact ⟨later, List.mem_cons_of_mem _ hlater, hbounds⟩

theorem mem_blankCodes {c : Char} (h : isBlank c = true) : c.toNat ∈ blankCodes := by
  have hcodes : blankCodes
      = blankRanges.flatMap fun range => List.range' range.1 (range.2 + 1 - range.1) := rfl
  rw [hcodes, List.mem_flatMap]
  obtain ⟨range, hrange, hlo, hhi⟩ := exists_of_contains h
  exact ⟨range, hrange, List.mem_range'_1.2 ⟨hlo, by omega⟩⟩

/--
Does none of the codes lie in a range? The codes increase like the ranges, so one walk through the
ranges tells.
-/
def misses : List Nat → Ranges → Bool
  | _, [] => true
  | codes, (lo, hi) :: rest =>
    match codes.dropWhile (· < lo) with
    | [] => true
    | n :: more => decide (hi < n) && misses (n :: more) rest

theorem contains_of_misses {ranges : Ranges} {codes : List Nat} (hcodes : codes.Pairwise (· < ·))
    (h : misses codes ranges = true) {n : Nat} (hn : n ∈ codes) : ranges.contains n = false := by
  induction ranges generalizing codes with
  | nil => rfl
  | cons range rest ih =>
    obtain ⟨lo, hi⟩ := range
    rw [Ranges.contains, Bool.and_eq_false_iff, decide_eq_false_iff_not]
    by_cases hlo : lo ≤ n
    · right
      -- The walk has dropped the codes below `lo`, and the first one left lies above `hi`.
      have hlater : n ∈ codes.dropWhile (· < lo) := by
        rw [← List.takeWhile_append_dropWhile (p := (· < lo)) (l := codes), List.mem_append] at hn
        refine hn.resolve_left fun hn => ?_
        have hbelow := List.all_eq_true.1 List.all_takeWhile n hn
        exact absurd hlo (Nat.not_le.2 (of_decide_eq_true hbelow))
      have hsorted := hcodes.sublist (List.dropWhile_sublist (· < lo))
      rw [misses] at h
      cases hcut : codes.dropWhile (· < lo) with
      | nil =>
        rw [hcut] at hlater
        cases hlater
      | cons m more =>
        rw [hcut] at h hlater hsorted
        rw [Bool.and_eq_true, decide_eq_true_eq] at h
        rw [ih hsorted h.2 hlater, Bool.or_false, decide_eq_false_iff_not]
        obtain rfl | hmore := List.mem_cons.1 hlater
        · omega
        · have habove := List.rel_of_pairwise_cons hsorted hmore
          omega
    · exact .inl hlo

theorem isBlank_eq_false_of_contains {ranges : Ranges} (hranges : misses blankCodes ranges = true)
    {c : Char} (h : ranges.contains c.toNat = true) : isBlank c = false := by
  rw [← Bool.not_eq_true]
  intro hblank
  rw [contains_of_misses (by decide) hranges (mem_blankCodes hblank)] at h
  cases h

theorem isBlank_of_isWord {c : Char} (h : isWord c = true) : isBlank c = false :=
  isBlank_eq_false_of_contains (by decide +kernel) h

theorem isBlank_of_isAlphabetic {c : Char} (h : isAlphabetic c = true) : isBlank c = false :=
  isBlank_eq_false_of_contains (by decide +kernel) h

theorem isBlank_of_isSymbolPart {c : Char} (h : isSymbolPart c = true) : isBlank c = false := by
  unfold isSymbolPart at h
  simp only [Bool.or_eq_true, beq_iff_eq] at h
  rcases h with ((h | rfl) | rfl) | rfl
  · exact isBlank_of_isWord h
  · decide
  · decide
  · decide

/--
A symbol as it is written in a deprecation text: a name with dots and hashes, perhaps with a
parameter list.
-/
structure WrittenSymbol where
  first : Char
  more : List Char := []
  parameters : Option (List Char) := none
  first_isStart : isAlphabetic first = true ∨ first = '_' ∨ first = '$'
  more_isPart : ∀ c, c ∈ more → isSymbolPart c = true
  parameters_end : ∀ inside, parameters = some inside → ')' ∉ inside ∧ '\x7d' ∉ inside

def dotted (symbol : List Char) : List Char :=
  symbol.map fun c => if c = '#' then '.' else c

namespace WrittenSymbol

def list (s : WrittenSymbol) : List Char :=
  match s.parameters with
  | none => []
  | some inside => '(' :: inside ++ [')']

def text (s : WrittenSymbol) : List Char :=
  s.first :: s.more ++ s.list

def worded (s : WrittenSymbol) : List Char :=
  "use".toList ++ ' ' :: (s.text ++ ' ' :: "instead".toList)

def linked (s : WrittenSymbol) : List Char :=
  "\x7b@link".toList ++ ' ' :: (s.text ++ ['\x7d'])

variable (s : WrittenSymbol)

/-! The characters of a symbol. -/

theorem first_ne {c : Char} (hletter : isAlphabetic c = false) (hother : c ≠ '_' ∧ c ≠ '$')
    : s.first ≠ c := by
  intro heq
  rcases s.first_isStart with h | h | h
  · rw [heq, hletter] at h
    cases h
  · exact hother.1 (heq.symm.trans h)
  · exact hother.2 (heq.symm.trans h)

theorem isBlank_first : isBlank s.first = false := by
  rcases s.first_isStart with h | h | h
  · exact isBlank_of_isAlphabetic h
  · rw [h]
    decide
  · rw [h]
    decide

theorem brace_not_mem_text : '\x7d' ∉ s.text := by
  have hlist : '\x7d' ∉ s.list := by
    unfold list
    split
    · exact List.not_mem_nil
    · next inside h => simp [(s.parameters_end inside h).2]
  unfold text
  rw [List.cons_append, List.mem_cons, List.mem_append]
  rintro (h | h | h)
  · exact s.first_ne (by decide) (by decide) h.symm
  · exact absurd (s.more_isPart _ h) (by decide)
  · exact hlist h

theorem isBlank_text_iff
    : (∀ c, c ∈ s.text → isBlank c = false)
        ↔
      ∀ inside, s.parameters = some inside → ∀ c, c ∈ inside → isBlank c = false := by
  have hname : ∀ c, c ∈ s.first :: s.more → isBlank c = false := by
    rw [List.forall_mem_cons]
    exact ⟨s.isBlank_first, fun c hc => isBlank_of_isSymbolPart (s.more_isPart c hc)⟩
  unfold text list
  rw [List.forall_mem_append]
  cases s.parameters with
  | none => simpa using hname
  | some inside =>
    have hopen : isBlank '(' = false := by decide
    have hclose : isBlank ')' = false := by decide
    constructor
    · rintro ⟨-, h⟩ inside' heq c hc
      obtain rfl := Option.some.inj heq
      exact h c (by simp [hc])
    · intro h
      refine ⟨hname, fun c hc => ?_⟩
      simp only [List.cons_append, List.mem_cons, List.mem_append, List.not_mem_nil, or_false] at hc
      rcases hc with rfl | hc | rfl
      · exact hopen
      · exact h inside rfl c hc
      · exact hclose

end WrittenSymbol

/-! The link. -/

theorem search?_of_some {α : Type} {find? : List Char → Option α} {c : Char} {cs : List Char}
    {a : α} (h : find? (c :: cs) = some a) : search? find? (c :: cs) = some a := by
  rw [search?, h]

theorem display_of_ne_hash {c : Char} (hc : c ≠ '#') (cs : List Char)
    : display (c :: cs) = dotted (c :: cs) := by
  unfold display dotted
  split
  · next heq => exact absurd (List.cons.inj heq).1 hc
  · rfl

theorem isPrefixOf?_append (mark cs : List Char) : mark.isPrefixOf? (mark ++ cs) = some cs := by
  rw [List.isPrefixOf?_eq_some_iff_append_eq]

theorem blanks?_space {c : Char} (h : isBlank c = false) (cs : List Char)
    : blanks? (' ' :: c :: cs) = some (c :: cs) := by
  have hspace : isBlank ' ' = true := by decide
  rw [blanks?, if_pos hspace, List.dropWhile_cons_of_neg (by simp [h])]

theorem takeWhile_target {symbol : List Char} (h : '\x7d' ∉ symbol)
    : (symbol ++ ['\x7d']).takeWhile (fun c => c != '\x7d' && !isBlank c)
        =
      symbol.takeWhile fun c => !isBlank c := by
  induction symbol with
  | nil => rfl
  | cons c symbol ih =>
    rw [List.mem_cons, not_or] at h
    rw [List.cons_append, List.takeWhile_cons, List.takeWhile_cons, ih h.2,
      bne_iff_ne.2 (Ne.symm h.1), Bool.true_and]

theorem contains_dropWhile_target (symbol : List Char)
    : ((symbol ++ ['\x7d']).dropWhile fun c => c != '\x7d' && !isBlank c).contains '\x7d'
        = true := by
  have hmem : '\x7d' ∈ symbol ++ ['\x7d'] := by simp
  rw [← List.takeWhile_append_dropWhile (p := fun c => c != '\x7d' && !isBlank c)
    (l := symbol ++ ['\x7d']), List.mem_append] at hmem
  rw [List.contains_iff_mem]
  refine hmem.resolve_left fun htaken => ?_
  have hstop := List.mem_takeWhile_imp htaken
  simp at hstop

theorem link?_linked (s : WrittenSymbol)
    : link? s.linked = some (s.text.takeWhile fun c => !isBlank c) := by
  have hplain : "plain".toList.isPrefixOf? (' ' :: (s.text ++ ['\x7d'])) = none := rfl
  have hblanks : blanks? (' ' :: (s.text ++ ['\x7d'])) = some (s.text ++ ['\x7d']) :=
    blanks?_space s.isBlank_first _
  have htarget := takeWhile_target s.brace_not_mem_text
  have hne : s.text.takeWhile (fun c => !isBlank c) ≠ [] := by
    rw [WrittenSymbol.text, List.cons_append,
      List.takeWhile_cons_of_pos (by simp [s.isBlank_first])]
    exact List.cons_ne_nil _ _
  unfold link? WrittenSymbol.linked
  rw [isPrefixOf?_append]
  dsimp only [Option.bind_eq_bind, Option.bind_some]
  rw [hplain, Option.getD_none, hblanks, Option.bind_some, htarget,
    contains_dropWhile_target, List.isEmpty_eq_false_iff.2 hne]
  rfl

theorem hint?_linked (s : WrittenSymbol)
    : hint? s.linked = some (dotted (s.text.takeWhile fun c => !isBlank c)) := by
  have hhead : s.text.takeWhile (fun c => !isBlank c)
      = s.first :: (s.more ++ s.list).takeWhile fun c => !isBlank c := by
    rw [WrittenSymbol.text, List.cons_append,
      List.takeWhile_cons_of_pos (by simp [s.isBlank_first])]
  have hsearch : search? link? s.linked = some (s.text.takeWhile fun c => !isBlank c) :=
    search?_of_some (link?_linked s)
  rw [hint?, hsearch, Option.some_or]
  dsimp only
  rw [hhead, display_of_ne_hash (s.first_ne (by decide) (by decide))]
  rfl

/-! The words. Without a closing brace there is no link before them. -/

theorem suffix_of_isPrefixOf? {mark cs rest : List Char} (h : mark.isPrefixOf? cs = some rest)
    : rest <:+ cs :=
  ⟨mark, List.isPrefixOf?_eq_some_iff_append_eq.1 h⟩

theorem suffix_of_blanks? {cs rest : List Char} (h : blanks? cs = some rest) : rest <:+ cs := by
  cases cs with
  | nil => cases h
  | cons c cs =>
    rw [blanks?] at h
    split at h
    · obtain rfl := Option.some.inj h
      exact (List.dropWhile_suffix _).trans (List.suffix_cons c cs)
    · cases h

theorem suffix_of_plain? (cs : List Char) : ("plain".toList.isPrefixOf? cs).getD cs <:+ cs := by
  cases h : "plain".toList.isPrefixOf? cs with
  | none => exact List.suffix_refl cs
  | some rest => exact suffix_of_isPrefixOf? h

theorem brace_mem_of_link? {cs target : List Char} (h : link? cs = some target) : '\x7d' ∈ cs := by
  unfold link? at h
  simp only [Option.bind_eq_bind, Option.bind_eq_some_iff] at h
  obtain ⟨rest, hopen, rest', hblanks, h⟩ := h
  have hsuffix := ((suffix_of_blanks? hblanks).trans (suffix_of_plain? rest)).trans
    (suffix_of_isPrefixOf? hopen)
  split at h
  · cases h
  · next hend =>
    rw [Bool.not_eq_true, Bool.or_eq_false_iff, Bool.not_eq_false', List.contains_iff_mem] at hend
    exact hsuffix.subset ((List.dropWhile_suffix _).subset hend.2)

theorem brace_mem_of_search?_link? {cs target : List Char} (h : search? link? cs = some target)
    : '\x7d' ∈ cs := by
  induction cs with
  | nil => cases h
  | cons c cs ih =>
    rw [search?] at h
    split at h
    · next hlink => exact brace_mem_of_link? hlink
    · exact List.mem_cons_of_mem c (ih h)

theorem foldedWord?_append (word cs : List Char) : foldedWord? word (word ++ cs) = some cs := by
  induction word with
  | nil => rfl
  | cons letter word ih =>
    have hfolds : folds letter letter = true := by simp [folds]
    rw [List.cons_append, foldedWord?, if_pos hfolds, ih]

theorem dropBackquote_of_ne {c : Char} (h : c ≠ '\x60') (cs : List Char)
    : dropBackquote (c :: cs) = c :: cs := by
  unfold dropBackquote
  split
  · next heq => exact absurd (List.cons.inj heq).1 h
  · rfl

theorem parameters?_list (s : WrittenSymbol) (rest : List Char)
    : parameters? (s.list ++ ' ' :: rest) = some (s.list, ' ' :: rest) := by
  unfold WrittenSymbol.list
  cases hparameters : s.parameters with
  | none => rfl
  | some inside =>
    have hclose := (s.parameters_end inside hparameters).1
    dsimp only
    rw [List.append_assoc, List.singleton_append, List.cons_append, parameters?,
      dropWhile_ne_append hclose, takeWhile_ne_append hclose]

theorem symbol?_text {s : WrittenSymbol} (hstart : isSymbolStart s.first = true) (rest : List Char)
    : symbol? (s.text ++ ' ' :: rest) = some (s.text, ' ' :: rest) := by
  have hstop : (s.list ++ ' ' :: rest).takeWhile isSymbolPart = []
      ∧ (s.list ++ ' ' :: rest).dropWhile isSymbolPart = s.list ++ ' ' :: rest := by
    unfold WrittenSymbol.list
    have hspace : isSymbolPart ' ' = false := by decide
    have hopen : isSymbolPart '(' = false := by decide
    cases s.parameters with
    | none => simp [hspace]
    | some inside => simp [hopen]
  have htext : s.text ++ ' ' :: rest = s.first :: (s.more ++ (s.list ++ ' ' :: rest)) := by
    simp [WrittenSymbol.text]
  rw [htext, symbol?, if_pos hstart, List.dropWhile_append_of_pos s.more_isPart, hstop.2,
    parameters?_list, List.takeWhile_append_of_pos s.more_isPart, hstop.1, List.append_nil]
  rfl

theorem wording?_worded_eq (s : WrittenSymbol)
    : wording? s.worded
        =
      (do
        let (symbol, rest) ← symbol? (s.text ++ ' ' :: "instead".toList)
        let rest ← blanks? (dropBackquote rest)
        let rest ← foldedWord? "instead".toList rest
        if startsWithWord rest then none else some symbol) := by
  have hblanks : blanks? (' ' :: (s.text ++ ' ' :: "instead".toList))
      = some (s.text ++ ' ' :: "instead".toList) := blanks?_space s.isBlank_first _
  have hfirst : dropBackquote (s.text ++ ' ' :: "instead".toList)
      = s.text ++ ' ' :: "instead".toList :=
    dropBackquote_of_ne (s.first_ne (by decide) (by decide)) _
  unfold wording? WrittenSymbol.worded
  rw [foldedWord?_append]
  dsimp only [Option.bind_eq_bind, Option.bind_some]
  rw [hblanks, Option.bind_some, hfirst]

theorem wording?_worded {s : WrittenSymbol} (hstart : isSymbolStart s.first = true)
    : wording? s.worded = some s.text := by
  have hspace : dropBackquote (' ' :: "instead".toList) = ' ' :: "instead".toList :=
    dropBackquote_of_ne (by decide) _
  have hinstead : blanks? (' ' :: "instead".toList) = some "instead".toList := by decide
  have hend := foldedWord?_append "instead".toList []
  rw [List.append_nil] at hend
  rw [wording?_worded_eq, symbol?_text hstart]
  dsimp only [Option.bind_eq_bind, Option.bind_some]
  rw [hspace, hinstead, Option.bind_some, hend]
  rfl

theorem hint?_worded_eq (s : WrittenSymbol)
    : hint? s.worded
        =
      ((searchWord? wording? false s.worded).map display).filter fun symbol => !symbol.isEmpty := by
  have hlink : search? link? s.worded = none := by
    rw [Option.eq_none_iff_forall_ne_some]
    intro target h
    have hmem := brace_mem_of_search?_link? h
    have huse : '\x7d' ∉ "use".toList := by decide
    have hinstead : '\x7d' ∉ ' ' :: "instead".toList := by decide
    rw [WrittenSymbol.worded, List.mem_append, List.mem_cons, List.mem_append] at hmem
    rcases hmem with h | h | h | h
    · exact huse h
    · cases h
    · exact s.brace_not_mem_text h
    · exact hinstead h
  rw [hint?, hlink, Option.none_or]
  cases searchWord? wording? false s.worded with
  | none => rfl
  | some symbol =>
    dsimp only [Option.map_some]
    rw [Option.filter_some]
    cases (display symbol).isEmpty <;> rfl

theorem hint?_worded {s : WrittenSymbol} (hstart : isSymbolStart s.first = true)
    : hint? s.worded = some (dotted s.text) := by
  have hworded : ∃ c cs, s.worded = c :: cs := by
    rw [← List.ne_nil_iff_exists_cons, WrittenSymbol.worded]
    exact List.append_ne_nil_of_right_ne_nil _ (List.cons_ne_nil _ _)
  have hsearch : searchWord? wording? false s.worded = some s.text := by
    obtain ⟨c, cs, hcs⟩ := hworded
    have hfound := wording?_worded hstart
    rw [hcs] at hfound ⊢
    rw [searchWord?, if_neg Bool.false_ne_true, hfound]
  rw [hint?_worded_eq, hsearch, Option.map_some, WrittenSymbol.text, List.cons_append,
    display_of_ne_hash (s.first_ne (by decide) (by decide))]
  rfl

/-! Symbols that start otherwise: what the words give is found later in the text, and shorter. -/

theorem length_foldedWord? {word cs rest : List Char} (h : foldedWord? word cs = some rest)
    : word.length + rest.length = cs.length := by
  induction word generalizing cs with
  | nil =>
    obtain rfl := Option.some.inj h
    exact Nat.zero_add _
  | cons letter word ih =>
    cases cs with
    | nil => cases h
    | cons c cs =>
      rw [foldedWord?] at h
      split at h
      · rw [List.length_cons, List.length_cons, ← ih h]
        omega
      · cases h

theorem length_blanks? {cs rest : List Char} (h : blanks? cs = some rest)
    : rest.length < cs.length := by
  cases cs with
  | nil => cases h
  | cons c cs =>
    rw [blanks?] at h
    split at h
    · obtain rfl := Option.some.inj h
      exact Nat.lt_succ_of_le (List.dropWhile_suffix _).length_le
    · cases h

theorem length_dropBackquote (cs : List Char) : (dropBackquote cs).length ≤ cs.length := by
  unfold dropBackquote
  split
  · exact Nat.le_succ _
  · exact Nat.le_refl _

theorem length_parameters? {cs list rest : List Char} (h : parameters? cs = some (list, rest))
    : list.length + rest.length = cs.length := by
  unfold parameters? at h
  split at h
  · next inside =>
    split at h
    · cases h
    · next c after hafter =>
      rw [Option.some.injEq, Prod.mk.injEq] at h
      obtain ⟨rfl, rfl⟩ := h
      have hlength := congrArg List.length
        (List.takeWhile_append_dropWhile (p := (· != ')')) (l := inside))
      rw [hafter] at hlength
      simp only [List.length_append, List.length_cons, List.length_nil] at hlength ⊢
      omega
  · rw [Option.some.injEq, Prod.mk.injEq] at h
    obtain ⟨rfl, rfl⟩ := h
    exact Nat.zero_add _

theorem length_symbol? {cs symbol rest : List Char} (h : symbol? cs = some (symbol, rest))
    : symbol.length + rest.length = cs.length := by
  cases cs with
  | nil => cases h
  | cons c cs =>
    rw [symbol?] at h
    split at h
    · obtain ⟨⟨list, rest'⟩, hlist, heq⟩ := Option.map_eq_some_iff.1 h
      rw [Prod.mk.injEq] at heq
      obtain ⟨rfl, rfl⟩ := heq
      have hlength := congrArg List.length
        (List.takeWhile_append_dropWhile (p := isSymbolPart) (l := cs))
      have := length_parameters? hlist
      simp only [List.length_append, List.length_cons] at hlength ⊢
      omega
    · cases h

theorem length_wording? {cs symbol : List Char} (h : wording? cs = some symbol)
    : symbol.length + 12 ≤ cs.length := by
  unfold wording? at h
  simp only [Option.bind_eq_bind, Option.bind_eq_some_iff] at h
  obtain ⟨rest, huse, rest', hblanks, ⟨symbol', rest''⟩, hsymbol, after, hblanks', last, hinstead,
    h⟩ := h
  dsimp only at hblanks' h
  have hlengths : "use".toList.length = 3 ∧ "instead".toList.length = 7 := by decide
  have := length_foldedWord? huse
  have := length_blanks? hblanks
  have := length_dropBackquote rest'
  have := length_symbol? hsymbol
  have := length_blanks? hblanks'
  have := length_dropBackquote rest''
  have := length_foldedWord? hinstead
  split at h
  · cases h
  · obtain rfl := Option.some.inj h
    omega

theorem length_searchWord?_wording? {cs symbol : List Char} {inWord : Bool}
    (h : searchWord? wording? inWord cs = some symbol) : symbol.length + 12 ≤ cs.length := by
  induction cs generalizing inWord with
  | nil => cases h
  | cons c cs ih =>
    rw [searchWord?] at h
    split at h
    · next a hfound =>
      obtain rfl := Option.some.inj h
      split at hfound
      · cases hfound
      · exact length_wording? hfound
    · exact Nat.le_succ_of_le (ih h)

theorem length_display (symbol : List Char) : (display symbol).length ≤ symbol.length := by
  unfold display
  rw [List.length_map]
  split
  · exact Nat.le_succ _
  · exact Nat.le_refl _

theorem wording?_worded_eq_none {s : WrittenSymbol} (hstart : isSymbolStart s.first = false)
    : wording? s.worded = none := by
  have hsymbol : symbol? (s.text ++ ' ' :: "instead".toList) = none := by
    rw [WrittenSymbol.text, List.cons_append, List.cons_append, symbol?,
      if_neg (Bool.eq_false_iff.1 hstart)]
  rw [wording?_worded_eq, hsymbol]
  rfl

theorem length_worded (s : WrittenSymbol) : s.worded.length = s.text.length + 12 := by
  have hlengths : "use".toList.length = 3 ∧ "instead".toList.length = 7 := by decide
  rw [WrittenSymbol.worded]
  simp only [List.length_append, List.length_cons]
  omega

theorem hint?_worded_ne {s : WrittenSymbol} (hstart : isSymbolStart s.first = false)
    : hint? s.worded ≠ some (dotted s.text) := by
  rw [hint?_worded_eq]
  intro h
  obtain ⟨hdisplay, -⟩ := Option.filter_eq_some_iff.1 h
  obtain ⟨symbol, hfound, heq⟩ := Option.map_eq_some_iff.1 hdisplay
  have hlength := length_worded s
  have hnone := wording?_worded_eq_none hstart
  cases hworded : s.worded with
  | nil =>
    rw [hworded] at hfound
    cases hfound
  | cons c cs =>
    rw [hworded] at hfound hnone hlength
    rw [searchWord?, if_neg Bool.false_ne_true, hnone] at hfound
    have hshorter := length_searchWord?_wording? hfound
    have hshown := length_display symbol
    rw [heq, dotted, List.length_map] at hshown
    rw [List.length_cons] at hlength
    omega

theorem hint?_worded_iff (s : WrittenSymbol)
    : hint? s.worded = some (dotted s.text) ↔ isSymbolStart s.first = true := by
  constructor
  · intro h
    rw [← Bool.not_eq_false]
    exact fun hstart => hint?_worded_ne hstart h
  · exact hint?_worded

theorem hint?_linked_iff (s : WrittenSymbol)
    : hint? s.linked = some (dotted s.text) ↔ ∀ c, c ∈ s.text → isBlank c = false := by
  rw [hint?_linked, Option.some.injEq]
  constructor
  · intro h
    have hlength := congrArg List.length h
    rw [dotted, dotted, List.length_map, List.length_map] at hlength
    have hall := (List.takeWhile_prefix fun c => !isBlank c).eq_of_length hlength
    intro c hc
    rw [← hall] at hc
    simpa using List.mem_takeWhile_imp hc
  · intro h
    rw [List.takeWhile_eq_self_iff.2 fun c hc => by simp [h c hc]]

/--
What the two wordings give for a symbol. The words give it whole exactly if it starts with one of
the characters that the pattern allows; a link gives it up to its first blank. So both give the same
symbol exactly if it starts so and its parameter list has no blank.
-/
theorem hint?_wordings_agree_iff (s : WrittenSymbol)
    : (hint? s.worded = some (dotted s.text) ↔ isSymbolStart s.first = true)
        ∧ hint? s.linked = some (dotted (s.text.takeWhile fun c => !isBlank c))
        ∧ ((hint? s.worded = some (dotted s.text) ∧ hint? s.linked = some (dotted s.text))
          ↔ isSymbolStart s.first = true
            ∧ ∀ inside, s.parameters = some inside → ∀ c, c ∈ inside → isBlank c = false) := by
  refine ⟨hint?_worded_iff s, hint?_linked s, ?_⟩
  rw [hint?_worded_iff, hint?_linked_iff, s.isBlank_text_iff]

/--
The link to a method with two parameters names neither of them whole.
-/
theorem hint?_linked_open_cut
    : ∃ s : WrittenSymbol, s.text = "Tab#open(int, int)".toList
        ∧ s.worded = "use Tab#open(int, int) instead".toList
        ∧ s.linked = "\x7b@link Tab#open(int, int)\x7d".toList
        ∧ hint? s.worded = some "Tab.open(int, int)".toList
        ∧ hint? s.linked = some "Tab.open(int,".toList := by
  refine ⟨{
    first := 'T'
    more := "ab#open".toList
    parameters := some "int, int".toList
    first_isStart := .inl (by decide +kernel)
    more_isPart := List.all_eq_true.1 (by decide +kernel)
    parameters_end := fun inside h => Option.some.inj h ▸ by decide +kernel }, ?_⟩
  decide +kernel

end DeprecatedUse.Java.Replacement
