import DeprecatedUse.Glob
import DeprecatedUse.Proofs.Text.Utf8

/-!
This module contains what a glob pattern means in characters. A pattern is cut into pieces, each of
which stands for texts of its own, and the pattern stands for the texts that are put together from
those. The comparison by bytes never takes a character apart: wherever a wildcard ends inside of a
character, it may as well end behind it.
-/

namespace DeprecatedUse.Glob

open DeprecatedUse.Text.Utf8

inductive Piece where
  | folders
  | anything
  | segment
  | literal (c : Char)
deriving DecidableEq, Repr

/--
The pieces of a pattern, from the left, each as long as possible.
-/
def pieces : List Char → List Piece
  | [] => []
  | '*' :: '*' :: '/' :: rest => .folders :: pieces rest
  | '*' :: '*' :: rest => .anything :: pieces rest
  | '*' :: rest => .segment :: pieces rest
  | c :: rest => .literal c :: pieces rest

def Piece.StandsFor : Piece → List Char → Prop
  | .folders, text => text = [] ∨ text.getLast? = some '/'
  | .anything, _ => True
  | .segment, text => '/' ∉ text ∧ '.' ∉ text
  | .literal c, text => text = [c]

/--
The text is put together from one text for each piece, in order.
-/
def Spells (ps : List Piece) (text : List Char) : Prop :=
  ∃ parts, List.Forall₂ Piece.StandsFor ps parts ∧ parts.flatten = text

theorem spells_nil_iff {text : List Char} : Spells [] text ↔ text = [] := by
  simp [Spells, eq_comm]

theorem spells_cons_iff {p : Piece} {ps : List Piece} {text : List Char}
    : Spells (p :: ps) text
        ↔
      ∃ front back, text = front ++ back ∧ p.StandsFor front ∧ Spells ps back := by
  constructor
  · rintro ⟨parts, hparts, rfl⟩
    obtain ⟨front, parts, hfront, hrest, rfl⟩ := List.forall₂_cons_left_iff.1 hparts
    exact ⟨front, parts.flatten, rfl, hfront, parts, hrest, rfl⟩
  · rintro ⟨front, back, rfl, hfront, parts, hparts, rfl⟩
    exact ⟨front :: parts, .cons hfront hparts, rfl⟩

/-! The comparison of bytes, one wildcard at a time. -/

theorem holdsAfter_iff {skip : UInt8 → Bool} {p : List UInt8 → Bool} {text : List UInt8}
    : holdsAfter skip p text = true
        ↔
      ∃ front back, text = front ++ back ∧ (∀ b, b ∈ front → skip b = true) ∧ p back = true := by
  induction text with
  | nil => simp [holdsAfter]
  | cons b text ih =>
    rw [holdsAfter, Bool.or_eq_true, Bool.and_eq_true, ih]
    constructor
    · rintro (h | ⟨hb, front, back, rfl, hfront, h⟩)
      · exact ⟨[], b :: text, rfl, (fun b hb => nomatch hb), h⟩
      · exact ⟨b :: front, back, rfl, List.forall_mem_cons.2 ⟨hb, hfront⟩, h⟩
    · rintro ⟨front, back, heq, hfront, h⟩
      cases front with
      | nil => exact .inl (heq ▸ h)
      | cons b' front =>
        rw [List.cons_append, List.cons.injEq] at heq
        obtain ⟨rfl, rfl⟩ := heq
        obtain ⟨hb, hfront⟩ := List.forall_mem_cons.1 hfront
        exact .inr ⟨hb, front, back, rfl, hfront, h⟩

theorem holdsAfterSlash_iff {p : List UInt8 → Bool} {text : List UInt8}
    : holdsAfterSlash p text = true
        ↔
      ∃ front back, text = front ++ 47 :: back ∧ p back = true := by
  induction text with
  | nil => simp [holdsAfterSlash]
  | cons b text ih =>
    rw [holdsAfterSlash, Bool.or_eq_true, Bool.and_eq_true, beq_iff_eq, ih]
    constructor
    · rintro (⟨rfl, h⟩ | ⟨front, back, rfl, h⟩)
      · exact ⟨[], text, rfl, h⟩
      · exact ⟨b :: front, back, rfl, h⟩
    · rintro ⟨front, back, heq, h⟩
      cases front with
      | nil =>
        rw [List.nil_append, List.cons.injEq] at heq
        exact .inl ⟨heq.1, heq.2 ▸ h⟩
      | cons b' front =>
        rw [List.cons_append, List.cons.injEq] at heq
        exact .inr ⟨front, back, heq.2, h⟩

variable {rest : List Char} {text : List UInt8}

theorem matchBytes_folders
    : matchBytes (bytes ('*' :: '*' :: '/' :: rest)) text = true
        ↔
      matchBytes (bytes rest) text = true
        ∨ ∃ front back, text = front ++ 47 :: back ∧ matchBytes (bytes rest) back = true := by
  have hbytes : bytes ('*' :: '*' :: '/' :: rest) = 42 :: 42 :: 47 :: bytes rest := rfl
  rw [hbytes, matchBytes, Bool.or_eq_true, holdsAfterSlash_iff]

theorem bytes_ne_cons {c : Char} {b : UInt8} (hc : String.utf8EncodeChar c = [b])
    (h : ∀ cs, rest = c :: cs → False) (bs : List UInt8) : bytes rest ≠ b :: bs := by
  intro heq
  rw [← List.singleton_append, ← hc] at heq
  obtain ⟨cs, hcs, -⟩ := bytes_eq_append heq
  exact h cs hcs

theorem matchBytes_anything (h : ∀ cs, rest = '/' :: cs → False)
    : matchBytes (bytes ('*' :: '*' :: rest)) text = true
        ↔
      ∃ front back, text = front ++ back ∧ matchBytes (bytes rest) back = true := by
  have hbytes : bytes ('*' :: '*' :: rest) = 42 :: 42 :: bytes rest := rfl
  rw [hbytes, matchBytes, holdsAfter_iff]
  · simp
  · exact bytes_ne_cons rfl h

theorem matchBytes_segment (h : ∀ cs, rest = '*' :: cs → False)
    : matchBytes (bytes ('*' :: rest)) text = true
        ↔
      ∃ front back, text = front ++ back ∧ (47 ∉ front ∧ 46 ∉ front)
        ∧ matchBytes (bytes rest) back = true := by
  have hbytes : bytes ('*' :: rest) = 42 :: bytes rest := rfl
  have hskip : ∀ front : List UInt8,
      (∀ b, b ∈ front → isSegment b = true) ↔ 47 ∉ front ∧ 46 ∉ front := by
    intro front
    simp only [isSegment, Bool.and_eq_true, bne_iff_ne]
    constructor
    · exact fun h => ⟨fun hb => (h 47 hb).1 rfl, fun hb => (h 46 hb).2 rfl⟩
    · rintro ⟨hslash, hdot⟩ b hb
      exact ⟨fun heq => hslash (heq ▸ hb), fun heq => hdot (heq ▸ hb)⟩
  rw [hbytes, matchBytes, holdsAfter_iff]
  · simp only [hskip]
  · exact fun bs => bytes_ne_cons rfl h _
  · exact fun bs => bytes_ne_cons rfl h _

theorem matchBytes_append {front : List UInt8} (h : 42 ∉ front) {pattern : List UInt8}
    : matchBytes (front ++ pattern) text = true
        ↔
      ∃ back, text = front ++ back ∧ matchBytes pattern back = true := by
  induction front generalizing text with
  | nil => simp
  | cons b front ih =>
    rw [List.mem_cons, not_or] at h
    have hb : b ≠ 42 := Ne.symm h.1
    cases text with
    | nil =>
      rw [List.cons_append, matchBytes]
      · simp
      · exact fun _ heq _ => hb heq
      · exact fun _ heq _ => hb heq
      · exact hb
    | cons x text =>
      rw [List.cons_append, matchBytes, Bool.and_eq_true, beq_iff_eq, ih h.2]
      · constructor
        · rintro ⟨rfl, back, rfl, hback⟩
          exact ⟨back, rfl, hback⟩
        · rintro ⟨back, heq, hback⟩
          rw [List.cons_append, List.cons.injEq] at heq
          exact ⟨heq.1, back, heq.2, hback⟩
      · exact fun _ heq _ => hb heq
      · exact fun _ heq _ => hb heq
      · exact hb

theorem matchBytes_literal {c : Char} (hc : c ≠ '*')
    : matchBytes (bytes (c :: rest)) text = true
        ↔
      ∃ back, text = String.utf8EncodeChar c ++ back ∧ matchBytes (bytes rest) back = true := by
  rw [bytes_cons, matchBytes_append]
  intro hmem
  exact hc (eq_of_mem_utf8EncodeChar (d := '*') rfl (by decide) hmem)

/-! The characters of what a wildcard takes begin in the bytes that it takes. -/

theorem exists_boundary_slash {loose : List UInt8} (hloose : ∀ b, b ∈ loose → IsContinuation b)
    {cs : List Char} {front back : List UInt8} (h : loose ++ bytes cs = front ++ 47 :: back)
    : ∃ before after, cs = before ++ '/' :: after ∧ back = bytes after := by
  obtain ⟨before, after, loose', rfl, hback, hloose', -⟩ := exists_boundary hloose h
  have hslash : loose' ++ bytes after = String.utf8EncodeChar '/' ++ back := hback.symm
  obtain ⟨after, rfl, hrest⟩ := loose_eq_append hloose' hslash
  exact ⟨before, after, rfl, hrest⟩

theorem exists_boundary_segment {loose : List UInt8} (hloose : ∀ b, b ∈ loose → IsContinuation b)
    {cs : List Char} {front back : List UInt8} (h : loose ++ bytes cs = front ++ back)
    (hslash : 47 ∉ front) (hdot : 46 ∉ front)
    : ∃ before after loose', cs = before ++ after ∧ back = loose' ++ bytes after
        ∧ (∀ b, b ∈ loose' → IsContinuation b) ∧ '/' ∉ before ∧ '.' ∉ before := by
  obtain ⟨before, after, loose', rfl, rfl, hloose', hbefore⟩ := exists_boundary hloose h
  refine ⟨before, after, loose', rfl, rfl, hloose', ?_, ?_⟩
  · intro hmem
    obtain ⟨b, hb, hbyte, -⟩ := hbefore '/' hmem
    obtain rfl := List.mem_singleton.1 hbyte
    exact hslash hb
  · intro hmem
    obtain ⟨b, hb, hbyte, -⟩ := hbefore '.' hmem
    obtain rfl := List.mem_singleton.1 hbyte
    exact hdot hb

theorem spells_of_matchBytes {pattern cs : List Char} {loose : List UInt8}
    (hloose : ∀ b, b ∈ loose → IsContinuation b)
    (h : matchBytes (bytes pattern) (loose ++ bytes cs) = true) : Spells (pieces pattern) cs := by
  -- `loose` holds the bytes left of a character that a wildcard has matched in part; where a
  -- character or a slash is matched, none are left.
  fun_induction pieces pattern generalizing loose cs with
  | case1 =>
    rw [bytes_nil, matchBytes, List.isEmpty_iff, List.append_eq_nil_iff] at h
    cases cs with
    | nil => exact spells_nil_iff.2 rfl
    | cons c cs =>
      rw [bytes_cons, List.append_eq_nil_iff] at h
      exact absurd h.2.1 String.utf8EncodeChar_ne_nil
  | case2 rest ih =>
    rw [spells_cons_iff]
    rcases matchBytes_folders.1 h with h | ⟨front, back, heq, h⟩
    · exact ⟨[], cs, rfl, .inl rfl, ih hloose h⟩
    · obtain ⟨before, after, rfl, rfl⟩ := exists_boundary_slash hloose heq
      refine ⟨before ++ ['/'], after, by simp, .inr (by simp), ?_⟩
      exact ih (List.forall_mem_nil _) h
  | case3 rest hrest ih =>
    obtain ⟨front, back, heq, h⟩ := (matchBytes_anything hrest).1 h
    obtain ⟨before, after, loose', rfl, rfl, hloose', -⟩ := exists_boundary hloose heq
    exact spells_cons_iff.2 ⟨before, after, rfl, trivial, ih hloose' h⟩
  | case4 rest hfolders hrest ih =>
    obtain ⟨front, back, heq, ⟨hslash, hdot⟩, h⟩ := (matchBytes_segment hrest).1 h
    obtain ⟨before, after, loose', rfl, rfl, hloose', hbefore⟩ :=
      exists_boundary_segment hloose heq hslash hdot
    exact spells_cons_iff.2 ⟨before, after, rfl, hbefore, ih hloose' h⟩
  | case5 c rest hfolders hanything hsegment ih =>
    obtain ⟨back, heq, h⟩ := (matchBytes_literal hsegment).1 h
    obtain ⟨ds, rfl, rfl⟩ := loose_eq_append hloose heq
    refine spells_cons_iff.2 ⟨[c], ds, rfl, rfl, ?_⟩
    exact ih (List.forall_mem_nil _) h

theorem matchBytes_of_spells {pattern cs : List Char} (h : Spells (pieces pattern) cs)
    : matchBytes (bytes pattern) (bytes cs) = true := by
  -- In this direction no character is ever taken in part, so nothing is loose.
  fun_induction pieces pattern generalizing cs with
  | case1 =>
    obtain rfl := spells_nil_iff.1 h
    rfl
  | case2 rest ih =>
    obtain ⟨front, back, rfl, hfront, hback⟩ := spells_cons_iff.1 h
    rw [matchBytes_folders]
    rcases hfront with rfl | hslash
    · exact .inl (ih hback)
    · obtain ⟨folders, rfl⟩ := List.getLast?_eq_some_iff.1 hslash
      refine .inr ⟨bytes folders, bytes back, ?_, ih hback⟩
      rw [bytes_append, bytes_append, List.append_assoc]
      rfl
  | case3 rest hrest ih =>
    obtain ⟨front, back, rfl, -, hback⟩ := spells_cons_iff.1 h
    exact (matchBytes_anything hrest).2 ⟨bytes front, bytes back, bytes_append .., ih hback⟩
  | case4 rest hfolders hrest ih =>
    obtain ⟨front, back, rfl, ⟨hslash, hdot⟩, hback⟩ := spells_cons_iff.1 h
    rw [matchBytes_segment hrest]
    refine ⟨bytes front, bytes back, bytes_append .., ⟨?_, ?_⟩, ih hback⟩
    · exact not_mem_bytes rfl (by decide) hslash
    · exact not_mem_bytes rfl (by decide) hdot
  | case5 c rest hfolders hanything hsegment ih =>
    obtain ⟨front, back, rfl, rfl, hback⟩ := spells_cons_iff.1 h
    exact (matchBytes_literal hsegment).2 ⟨bytes back, rfl, ih hback⟩

/--
A pattern matches exactly the texts that its pieces spell, although the bytes are compared and not
the characters.
-/
theorem globMatch_iff_spells (pattern text : String)
    : globMatch pattern text = true ↔ Spells (pieces pattern.toList) text.toList := by
  rw [globMatch, encode_eq_bytes, encode_eq_bytes]
  constructor
  · exact spells_of_matchBytes (List.forall_mem_nil _)
  · exact matchBytes_of_spells

example : globMatch "**/é*.java" "a/b/éa.java" = true := by
  decide +kernel

end DeprecatedUse.Glob
