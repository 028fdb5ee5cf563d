import DeprecatedUse.Proofs.Text.Splitting
import DeprecatedUse.Proofs.Uri.Percent
import DeprecatedUse.Uri.Parser

/-!
This module contains the segments of paths. The segments that a path is read as are read as
themselves when they are written and read again.
-/

namespace DeprecatedUse.Uri

/-! Dots in disguise. -/

def BeginsWithDot (cs rest : List Char) : Prop :=
  cs = '.' :: rest ∨ cs = '%' :: '2' :: 'e' :: rest ∨ cs = '%' :: '2' :: 'E' :: rest

theorem BeginsWithDot.plainDots {cs rest : List Char} (h : BeginsWithDot cs rest)
    : plainDots cs = '.' :: Uri.plainDots rest := by
  obtain rfl | rfl | rfl := h
  · rw [Uri.plainDots]
    intro c more hc
    cases hc
  · rw [Uri.plainDots, if_pos (.inl rfl)]
  · rw [Uri.plainDots, if_pos (.inr rfl)]

theorem beginsWithDot_of_plainDots {cs dots : List Char} (h : plainDots cs = '.' :: dots)
    : ∃ rest, BeginsWithDot cs rest ∧ plainDots rest = dots := by
  unfold plainDots at h
  split at h
  · cases h
  · next c rest =>
    split at h
    · next hc =>
      rw [List.cons.injEq] at h
      obtain rfl | rfl := hc
      · exact ⟨rest, .inr (.inl rfl), h.2⟩
      · exact ⟨rest, .inr (.inr rfl), h.2⟩
    · cases h
  · next c rest _ =>
    rw [List.cons.injEq] at h
    obtain ⟨rfl, h⟩ := h
    exact ⟨rest, .inl rfl, h⟩

theorem plainDots_eq_nil {cs : List Char} (h : plainDots cs = []) : cs = [] := by
  unfold plainDots at h
  split at h
  · rfl
  · split at h <;> cases h
  · cases h

variable {must : Char → Bool}

theorem of_encode_cons {cs rest : List Char} {x : Char} (h : encode must cs = x :: rest)
    (hx : x ≠ '%') : ∃ cs', cs = x :: cs' ∧ encode must cs' = rest := by
  cases cs with
  | nil => cases h
  | cons c cs =>
    rw [encode_cons] at h
    by_cases hstays : Stays must c
    · rw [encode_singleton_of_stays hstays, List.singleton_append, List.cons.injEq] at h
      obtain ⟨rfl, h⟩ := h
      exact ⟨cs, rfl, h⟩
    · rw [encode_singleton_of_not_stays hstays] at h
      cases hbytes : String.utf8EncodeChar c with
      | nil => exact absurd hbytes String.utf8EncodeChar_ne_nil
      | cons b bytes =>
        rw [hbytes, List.flatMap_cons, encodeByte] at h
        exact absurd (List.cons.inj h).1.symm hx

theorem ne_dot_of_mem_utf8EncodeChar {c : Char} (hc : c ≠ '.') {b : UInt8} {bytes : List UInt8}
    (h : String.utf8EncodeChar c = b :: bytes) : b ≠ 46 := by
  rintro rfl
  rw [String.utf8EncodeChar] at h
  have hbyte : ∀ {k : Nat}, k < 256 → UInt8.ofNat k = 46 → k = 46 := by
    intro k hk heq
    have hval := congrArg UInt8.toNat heq
    rwa [UInt8.toNat_ofNat_of_lt' hk] at hval
  split at h
  · have hval := hbyte (by omega) (List.cons.inj h).1
    exact hc (Char.ext (UInt32.toNat_inj.1 hval))
  · split at h
    · have hval := hbyte (by omega) (List.cons.inj h).1
      omega
    · split at h
      · have hval := hbyte (by omega) (List.cons.inj h).1
        omega
      · have hval := hbyte (by omega) (List.cons.inj h).1
        omega

theorem of_encode_escapedDot (hdot : must '.' = false) {cs rest : List Char} {e : Char}
    (he : e = 'e' ∨ e = 'E') (h : encode must cs = '%' :: '2' :: e :: rest)
    : ∃ cs', cs = '%' :: '2' :: e :: cs' ∧ encode must cs' = rest := by
  have hne : e ≠ '%' := by
    rintro rfl
    obtain h | h := he <;> cases h
  cases cs with
  | nil => cases h
  | cons c cs =>
    rw [encode_cons] at h
    by_cases hstays : Stays must c
    · rw [encode_singleton_of_stays hstays, List.singleton_append, List.cons.injEq] at h
      obtain ⟨rfl, h⟩ := h
      obtain ⟨cs', rfl, htwo⟩ := of_encode_cons h (by decide)
      obtain ⟨cs'', rfl, hthree⟩ := of_encode_cons htwo hne
      exact ⟨cs'', rfl, hthree⟩
    · exfalso
      -- The character is escaped, so these are its own bytes; but a dot would have stayed.
      rw [encode_singleton_of_not_stays hstays] at h
      cases hbytes : String.utf8EncodeChar c with
      | nil => exact absurd hbytes String.utf8EncodeChar_ne_nil
      | cons b bytes =>
        have hc : c ≠ '.' := by
          rintro rfl
          exact hstays ⟨hdot, by decide⟩
        have hb := ne_dot_of_mem_utf8EncodeChar hc hbytes
        have hlt : b.toNat < 256 := b.toNat_lt
        rw [hbytes, List.flatMap_cons, encodeByte] at h
        simp only [List.cons_append, List.cons.injEq, true_and] at h
        have hhigh : some (b.toNat / 16) = some 2 := by
          rw [← hexValue?_upperDigit (by omega), h.1]
          rfl
        have hlow : some (b.toNat % 16) = some 14 := by
          rw [← hexValue?_upperDigit (by omega), h.2.1]
          obtain rfl | rfl := he <;> rfl
        rw [Option.some.injEq] at hhigh hlow
        apply hb
        rw [← UInt8.toNat_inj]
        change b.toNat = 46
        omega

theorem plainDots_encode (hdot : must '.' = false) {n : Nat} {cs : List Char}
    (h : plainDots (encode must cs) = List.replicate n '.')
    : plainDots cs = List.replicate n '.' := by
  induction n generalizing cs with
  | zero =>
    rw [encode_eq_nil (plainDots_eq_nil h)]
    rfl
  | succ n ih =>
    obtain ⟨rest, hbegins, hrest⟩ := beginsWithDot_of_plainDots h
    have hcs : ∃ cs', BeginsWithDot cs cs' ∧ encode must cs' = rest := by
      obtain h | h | h := hbegins
      · obtain ⟨cs', heq, hencode⟩ := of_encode_cons h (by decide)
        exact ⟨cs', .inl heq, hencode⟩
      · obtain ⟨cs', heq, hencode⟩ := of_encode_escapedDot hdot (.inl rfl) h
        exact ⟨cs', .inr (.inl heq), hencode⟩
      · obtain ⟨cs', heq, hencode⟩ := of_encode_escapedDot hdot (.inr rfl) h
        exact ⟨cs', .inr (.inr heq), hencode⟩
    obtain ⟨cs', hdots, rfl⟩ := hcs
    rw [hdots.plainDots, ih hrest, List.replicate_succ]

/-! Segments. -/

structure Kept (special : Bool) (name : List Char) : Prop where
  written : Written mustInPath name
  noSlash : '/' ∉ name
  noBackslash : special = true → '\\' ∉ name
  noDots : ∀ n, n = 1 ∨ n = 2 → plainDots name ≠ List.replicate n '.'

theorem kept_nil (special : Bool) : Kept special [] := by
  refine ⟨fun c hc => absurd hc List.not_mem_nil, List.not_mem_nil, fun _ => List.not_mem_nil, ?_⟩
  rintro n (rfl | rfl) hdots <;> cases hdots

def IsPiece (special : Bool) (segment : List Char) : Prop :=
  '/' ∉ segment ∧ (special = true → '\\' ∉ segment)

theorem isPiece_of_mem_segments {special : Bool} {cs segment : List Char}
    (h : segment ∈ segments special cs) : IsPiece special segment := by
  rw [segments] at h
  refine ⟨Text.not_mem_of_mem_splitOn h, ?_⟩
  rintro rfl hmem
  have hmap := Text.mem_of_mem_splitOn h hmem
  rw [if_pos rfl, List.mem_map] at hmap
  obtain ⟨c, -, hc⟩ := hmap
  split at hc
  · cases hc
  · next hne => exact hne hc

theorem kept_encode {special : Bool} {segment : List Char} (h : IsPiece special segment)
    (hone : plainDots segment ≠ ['.']) (htwo : plainDots segment ≠ ['.', '.'])
    : Kept special (encode mustInPath segment) := by
  have hmem : ∀ x, x ∉ segment → x ∉ escapes → x ∉ encode mustInPath segment := by
    intro x hsegment hescape hx
    obtain ⟨hx, -⟩ | hx := mem_encode hx
    · exact hsegment hx
    · exact hescape hx
  refine ⟨written_encode escapes_stay_inPath segment, hmem _ h.1 (by decide),
    fun hspecial => hmem _ (h.2 hspecial) (by decide), ?_⟩
  rintro n (rfl | rfl) hdots
  · exact hone (plainDots_encode (by decide) hdots)
  · exact htwo (plainDots_encode (by decide) hdots)

theorem isDrive_iff {segment : List Char}
    : isDrive segment = true ↔ ∃ letter c, segment = [letter, c] ∧ letter.isAlpha = true
        ∧ (c = ':' ∨ c = '|') := by
  constructor
  · intro h
    unfold isDrive at h
    split at h
    · next letter c =>
      rw [Bool.and_eq_true, Bool.or_eq_true, beq_iff_eq, beq_iff_eq] at h
      exact ⟨letter, c, rfl, h⟩
    · cases h
  · rintro ⟨letter, c, rfl, h⟩
    rw [isDrive, Bool.and_eq_true, Bool.or_eq_true, beq_iff_eq, beq_iff_eq]
    exact h

theorem toNat_of_isAlpha {c : Char} (h : c.isAlpha = true)
    : (65 ≤ c.toNat ∧ c.toNat ≤ 90) ∨ (97 ≤ c.toNat ∧ c.toNat ≤ 122) := by
  simp only [Char.isAlpha, Char.isUpper, Char.isLower, Bool.or_eq_true, Bool.and_eq_true,
    decide_eq_true_eq, ge_iff_le, UInt32.le_iff_toNat_le] at h
  exact h

theorem stays_of_isAlpha {c : Char} (h : c.isAlpha = true) : Stays mustInPath c := by
  have hbounds := toNat_of_isAlpha h
  constructor
  · by_contra hmust
    simp only [mustInPath, mustInFragment, isControl, Bool.not_eq_false, Bool.or_eq_true,
      decide_eq_true_eq, beq_iff_eq, List.contains_iff_mem, List.mem_cons, List.not_mem_nil,
      or_false] at hmust
    rcases hmust with ((hc | hc) | hc | hc | hc | hc | hc) | hc | hc | hc | hc
    all_goals first | omega | (subst hc; revert h; decide)
  · omega

theorem kept_drive {special : Bool} {segment : List Char} (h : isDrive segment = true)
    : Kept special (segment.take 1 ++ [':']) := by
  obtain ⟨letter, c, rfl, hletter, -⟩ := isDrive_iff.1 h
  have hne : ∀ {x : Char}, x.isAlpha = false → letter ≠ x := by
    rintro x hx rfl
    exact absurd hletter (by rw [hx]; exact Bool.false_ne_true)
  have hpercent : letter ≠ '%' := hne (by decide)
  have hslash : letter ≠ '/' := hne (by decide)
  have hbackslash : letter ≠ '\\' := hne (by decide)
  rw [List.take_succ_cons, List.take_zero, List.singleton_append]
  constructor
  · intro x hx
    obtain rfl | hx := List.mem_cons.1 hx
    · exact stays_of_isAlpha hletter
    · rw [List.mem_singleton.1 hx]
      exact ⟨by decide, by decide⟩
  · simp [hslash.symm]
  · simp [hbackslash.symm]
  · rintro n (rfl | rfl) hdots <;> simp [plainDots, hpercent] at hdots

theorem mem_of_mem_shorten {done : List (List Char)} {name : List Char} (h : name ∈ shorten done)
    : name ∈ done := by
  rw [shorten] at h
  split at h
  · exact h
  · exact List.mem_of_mem_dropLast h

namespace Route

variable {special file : Bool} {route : Route} {pieces : List (List Char)}

theorem kept_follow (hnames : ∀ name, name ∈ route.names → Kept special name)
    (hpieces : ∀ piece, piece ∈ pieces → IsPiece special piece)
    : ∀ name, name ∈ (follow file route pieces).names → Kept special name := by
  induction pieces generalizing route with
  | nil => exact hnames
  | cons piece pieces ih =>
    have hrest : ∀ other, other ∈ pieces → IsPiece special other := fun other hother =>
      hpieces other (List.mem_cons_of_mem piece hother)
    have hclosing : ∀ name, name ∈ (if pieces.isEmpty then [[]] else []) →
        Kept special name := by
      intro name hname
      split at hname
      · rw [List.mem_singleton] at hname
        rw [hname]
        exact kept_nil special
      · cases hname
    -- The names are those so far or fewer, and at the end an empty one or that of the piece.
    rw [follow]
    split
    · refine ih (fun name hname => ?_) hrest
      obtain hname | hname := List.mem_append.1 hname
      · exact hnames name (mem_of_mem_shorten hname)
      · exact hclosing name hname
    · next htwo =>
      split
      · refine ih (fun name hname => ?_) hrest
        obtain hname | hname := List.mem_append.1 hname
        · exact hnames name hname
        · exact hclosing name hname
      · next hone =>
        split
        · next hdrive =>
          rw [Bool.and_eq_true] at hdrive
          refine ih (fun name hname => ?_) hrest
          rw [List.mem_singleton.1 hname]
          exact kept_drive hdrive.2
        · refine ih (fun name hname => ?_) hrest
          obtain hname | hname := List.mem_append.1 hname
          · exact hnames name hname
          · rw [List.mem_singleton.1 hname]
            exact kept_encode (hpieces piece List.mem_cons_self) hone htwo

theorem follow_ne_nil (h : pieces ≠ [] ∨ route.names ≠ [])
    : (follow file route pieces).names ≠ [] := by
  induction pieces generalizing route with
  | nil => exact h.resolve_left (absurd rfl)
  | cons piece pieces ih =>
    have hclosing : ∀ names : List (List Char),
        pieces ≠ [] ∨ names ++ (if pieces.isEmpty then [[]] else []) ≠ [] := by
      intro names
      cases pieces with
      | nil => exact .inr (by simp)
      | cons other pieces => exact .inl (List.cons_ne_nil _ _)
    rw [follow]
    split
    · exact ih (hclosing _)
    · split
      · exact ih (hclosing _)
      · split
        · exact ih (.inr (List.cons_ne_nil _ _))
        · exact ih (.inr (by simp))

theorem follow_kept (hkept : ∀ piece, piece ∈ pieces → Kept special piece)
    (hdrive : file = true → route.names = [] →
      ∀ piece, piece ∈ pieces.head? → isDrive piece = false)
    : follow file route pieces = { route with names := route.names ++ pieces } := by
  induction pieces generalizing route with
  | nil => rw [follow, List.append_nil]
  | cons piece pieces ih =>
    have hpiece := hkept piece List.mem_cons_self
    have hfirst : ¬ (file && route.names.isEmpty && isDrive piece) = true := by
      intro h
      rw [Bool.and_eq_true, Bool.and_eq_true, List.isEmpty_iff] at h
      exact absurd h.2 (by rw [hdrive h.1.1 h.1.2 piece rfl]; exact Bool.false_ne_true)
    have hone : plainDots piece ≠ ['.'] := hpiece.noDots 1 (.inl rfl)
    have htwo : plainDots piece ≠ ['.', '.'] := hpiece.noDots 2 (.inr rfl)
    rw [follow, if_neg htwo, if_neg hone, if_neg hfirst,
      ih (fun other hother => hkept other (List.mem_cons_of_mem piece hother)),
      hpiece.written.encode, List.append_assoc, List.singleton_append]
    intro _ hnil
    exact absurd hnil (by simp)

end Route

theorem render_segments (names : List (List Char))
    : (Body.segments (names.map String.ofList)).render.toList = names.flatMap ('/' :: ·) := by
  rw [Body.render]
  induction names with
  | nil => rfl
  | cons name names ih =>
    have hname : ("/" ++ String.ofList name).toList = '/' :: name := by
      rw [String.toList_append, String.toList_ofList (l := name)]
      rfl
    rw [List.map_cons, List.map_cons, String.join_cons, String.toList_append, hname, ih,
      List.flatMap_cons]

theorem segments_flatMap {special : Bool} {first : List Char} {names : List (List Char)}
    (h : ∀ name, name ∈ first :: names → Kept special name)
    : segments special (first ++ names.flatMap ('/' :: ·)) = first :: names := by
  have hplain : (if special = true then
        (first ++ names.flatMap ('/' :: ·)).map fun c => if c = '\\' then '/' else c
      else first ++ names.flatMap ('/' :: ·)) = first ++ names.flatMap ('/' :: ·) := by
    split
    · next hspecial =>
      rw [List.map_congr_left (g := id), List.map_id]
      intro c hc
      have hne : c ≠ '\\' := by
        rintro rfl
        obtain hc | hc := List.mem_append.1 hc
        · exact (h first List.mem_cons_self).noBackslash hspecial hc
        · obtain ⟨name, hname, hc⟩ := List.mem_flatMap.1 hc
          obtain hc | hc := List.mem_cons.1 hc
          · cases hc
          · exact (h name (List.mem_cons_of_mem _ hname)).noBackslash hspecial hc
      exact if_neg hne
    · rfl
  rw [segments, hplain, Text.splitOn_flatMap fun name hname => (h name hname).noSlash]

theorem bodyOf_flatMap {special : Bool} {first : List Char} {names : List (List Char)}
    (h : ∀ name, name ∈ first :: names → Kept special name)
    : bodyOf special (first ++ names.flatMap ('/' :: ·))
        = .segments ((first :: names).map String.ofList) := by
  rw [bodyOf, segments_flatMap h, Route.follow_kept h fun hfile => absurd hfile Bool.false_ne_true,
    List.nil_append]

theorem exists_kept_bodyOf (special : Bool) (cs : List Char)
    : ∃ first names, bodyOf special cs = .segments ((first :: names).map String.ofList)
        ∧ ∀ name, name ∈ first :: names → Kept special name := by
  have hpieces : ∀ piece, piece ∈ segments special cs → IsPiece special piece :=
    fun piece => isPiece_of_mem_segments
  have hkept : ∀ name, name ∈ (Route.follow false {} (segments special cs)).names →
      Kept special name :=
    Route.kept_follow (fun name hname => absurd hname List.not_mem_nil) hpieces
  have hne : (Route.follow false {} (segments special cs)).names ≠ [] :=
    Route.follow_ne_nil (.inl (Text.splitOn_ne_nil _ _))
  rw [bodyOf]
  generalize (Route.follow false {} (segments special cs)).names = names at hkept hne
  cases names with
  | nil => exact absurd rfl hne
  | cons first names => exact ⟨first, names, rfl, hkept⟩

end DeprecatedUse.Uri
