import DeprecatedUse.Text.Utf8
import Mathlib

/-!
This module contains the fact that the bytes of a text are read as this text, and where characters
start in them: the first byte of a character is never one that continues a character, so a text that
is cut at any byte is cut at most inside of one character.
-/

namespace DeprecatedUse.Text.Utf8

theorem toList_loop (bytes : ByteArray) (i : Nat) (done : List UInt8)
    : ByteArray.toList.loop bytes i done = done.reverse ++ bytes.data.toList.drop i := by
  fun_induction ByteArray.toList.loop bytes i done with
  | case1 i done hlt ih =>
    have hlt : i < bytes.data.toList.length := hlt
    rw [ih, List.reverse_cons, List.append_assoc, List.drop_eq_getElem_cons hlt,
      List.singleton_append]
    congr 2
    exact getElem!_pos bytes.data i hlt
  | case2 i done hlt =>
    have hge : bytes.data.toList.length ≤ i := Nat.le_of_not_lt hlt
    rw [List.drop_eq_nil_of_le hge, List.append_nil]

theorem encode_ofList (cs : List Char)
    : encode (String.ofList cs) = cs.flatMap String.utf8EncodeChar := by
  rw [encode, String.toUTF8_eq_toByteArray, ← String.utf8Encode_toList, String.toList_ofList,
    List.utf8Encode, ByteArray.toList, toList_loop]
  exact List.toList_data_toByteArray

theorem encode_toString (c : Char) : encode c.toString = String.utf8EncodeChar c := by
  have h := encode_ofList [c]
  rwa [List.flatMap_singleton] at h

theorem chunks_cons (b : UInt8) (rest : List UInt8)
    : chunks (b :: rest) = (chunk b rest).1 :: chunks (chunk b rest).2 := by
  rw [chunks]

theorem finish_cons {more bits : Nat} {b : UInt8} (hb : 0x80 ≤ b.toNat ∧ b.toNat ≤ 0xbf)
    (rest : List UInt8)
    : finish (more + 1) bits (b :: rest) = finish more (bits * 64 + (b.toNat - 0x80)) rest := by
  rw [finish, if_pos hb]

theorem chunk_one {b : UInt8} (hb : b.toNat < 0x80) (rest : List UInt8)
    : chunk b rest = (some (Char.ofNat b.toNat), rest) := by
  unfold chunk
  rw [if_pos hb]

theorem chunk_more {b c : UInt8} {lead : Lead} (hb : ¬ b.toNat < 0x80)
    (hlead : lead? b.toNat = some lead) (hc : lead.low ≤ c.toNat ∧ c.toNat ≤ lead.high)
    (rest : List UInt8)
    : chunk b (c :: rest) = finish lead.more (lead.bits * 64 + (c.toNat - 0x80)) rest := by
  unfold chunk
  rw [if_neg hb, hlead]
  exact if_pos hc

/-! What the first bytes of characters say of the second. -/

theorem lead?_two {x : Nat} (hle : 2 ≤ x) (hlt : x < 32)
    : lead? (x + 192) = some ⟨0x80, 0xbf, 0, x⟩ := by
  interval_cases x <;> rfl

theorem lead?_three {x : Nat} (hlt : x < 16)
    : lead? (x + 224)
        = some ⟨if x = 0 then 0xa0 else 0x80, if x = 13 then 0x9f else 0xbf, 1, x⟩ := by
  interval_cases x <;> rfl

theorem lead?_four {x : Nat} (hlt : x < 5)
    : lead? (x + 240)
        = some ⟨if x = 0 then 0x90 else 0x80, if x = 4 then 0x8f else 0xbf, 2, x⟩ := by
  interval_cases x <;> rfl

theorem chunks_utf8EncodeChar (c : Char) (rest : List UInt8)
    : chunks (String.utf8EncodeChar c ++ rest) = some c :: chunks rest := by
  have hvalid : c.toNat < 0xd800 ∨ 0xdfff < c.toNat ∧ c.toNat < 0x110000 := c.valid
  have hc : Char.ofNat c.toNat = c := Char.ofNat_toNat c
  have hbyte : ∀ {k : Nat}, k < 256 → (UInt8.ofNat k).toNat = k := UInt8.toNat_ofNat_of_lt
  have htail : ∀ k : Nat, (UInt8.ofNat (k % 64 + 128)).toNat = k % 64 + 128 :=
    fun k => hbyte (by omega)
  have hgoes : ∀ k : Nat,
      0x80 ≤ (UInt8.ofNat (k % 64 + 128)).toNat ∧ (UInt8.ofNat (k % 64 + 128)).toNat ≤ 0xbf := by
    intro k
    rw [htail]
    omega
  rw [String.utf8EncodeChar, show c.val.toNat = c.toNat from rfl]
  generalize c.toNat = n at hvalid hc
  -- A case for each number of bytes; the arithmetic puts the bits together again.
  split
  · rw [List.singleton_append, chunks_cons, chunk_one (by rw [hbyte] <;> omega), hbyte (by omega),
      hc]
  · split
    · have hb : (UInt8.ofNat (n / 64 % 32 + 192)).toNat = n / 64 % 32 + 192 := hbyte (by omega)
      have hlead := lead?_two (x := n / 64 % 32) (by omega) (by omega)
      rw [List.cons_append, List.singleton_append, chunks_cons,
        chunk_more (by omega) (hb ▸ hlead) (hgoes n), htail]
      dsimp only [finish]
      rw [show n / 64 % 32 * 64 + (n % 64 + 128 - 128) = n by omega, hc]
    · split
      · have hb : (UInt8.ofNat (n / 4096 % 16 + 224)).toNat = n / 4096 % 16 + 224 :=
          hbyte (by omega)
        have hlead := lead?_three (x := n / 4096 % 16) (by omega)
        rw [List.cons_append, List.cons_append, List.singleton_append, chunks_cons,
          chunk_more (by omega) (hb ▸ hlead), htail]
        · dsimp only
          rw [finish_cons (hgoes n), htail]
          dsimp only [finish]
          rw [show (n / 4096 % 16 * 64 + (n / 64 % 64 + 128 - 128)) * 64 + (n % 64 + 128 - 128) = n
            by omega, hc]
        · dsimp only
          rw [htail]
          constructor <;> split <;> omega
      · have hb : (UInt8.ofNat (n / 262144 % 8 + 240)).toNat = n / 262144 % 8 + 240 :=
          hbyte (by omega)
        have hlead := lead?_four (x := n / 262144 % 8) (by omega)
        rw [List.cons_append, List.cons_append, List.cons_append, List.singleton_append,
          chunks_cons, chunk_more (by omega) (hb ▸ hlead), htail]
        · dsimp only
          rw [finish_cons (hgoes _), finish_cons (hgoes n), htail, htail]
          dsimp only [finish]
          rw [show ((n / 262144 % 8 * 64 + (n / 4096 % 64 + 128 - 128)) * 64
            + (n / 64 % 64 + 128 - 128)) * 64 + (n % 64 + 128 - 128) = n by omega, hc]
        · dsimp only
          rw [htail]
          constructor <;> split <;> omega

theorem chunks_encode (cs : List Char)
    : chunks (encode (String.ofList cs)) = cs.map some := by
  rw [encode_ofList]
  induction cs with
  | nil => rw [List.flatMap_nil, chunks, List.map_nil]
  | cons c cs ih => rw [List.flatMap_cons, chunks_utf8EncodeChar, ih, List.map_cons]

theorem decodeLossy_encode (cs : List Char)
    : decodeLossy (encode (String.ofList cs)) = String.ofList cs := by
  rw [decodeLossy, chunks_encode, List.map_map]
  congr 1
  exact List.map_id _

theorem decodeLossy_encode_text (text : String) : decodeLossy (encode text) = text := by
  have h := decodeLossy_encode text.toList
  rwa [String.ofList_toList] at h

/-! Where characters start. -/

def bytes (cs : List Char) : List UInt8 :=
  cs.flatMap String.utf8EncodeChar

@[simp]
theorem bytes_nil : bytes [] = [] := rfl

@[simp]
theorem bytes_cons (c : Char) (cs : List Char)
    : bytes (c :: cs) = String.utf8EncodeChar c ++ bytes cs := rfl

@[simp]
theorem bytes_append (cs ds : List Char) : bytes (cs ++ ds) = bytes cs ++ bytes ds :=
  List.flatMap_append

theorem bytes_flatMap {α : Type} (f : α → List Char) (as : List α)
    : bytes (as.flatMap f) = as.flatMap fun a => bytes (f a) :=
  List.flatMap_assoc

theorem encode_eq_bytes (text : String) : encode text = bytes text.toList := by
  rw [bytes, ← encode_ofList, String.ofList_toList]

def IsContinuation (b : UInt8) : Prop :=
  0x80 ≤ b.toNat ∧ b.toNat < 0xc0

theorem utf8EncodeChar_cases (c : Char)
    : (∃ b, String.utf8EncodeChar c = [b] ∧ b.toNat = c.toNat ∧ b.toNat < 0x80)
        ∨ ∃ lead tail, String.utf8EncodeChar c = lead :: tail ∧ 0xc0 ≤ lead.toNat
          ∧ ∀ b, b ∈ tail → IsContinuation b := by
  have hvalid : c.toNat < 0xd800 ∨ 0xdfff < c.toNat ∧ c.toNat < 0x110000 := c.valid
  have hbyte : ∀ {k : Nat}, k < 256 → (UInt8.ofNat k).toNat = k := UInt8.toNat_ofNat_of_lt
  have htail : ∀ k : Nat, IsContinuation (UInt8.ofNat (k % 64 + 128)) := by
    intro k
    rw [IsContinuation, hbyte (by omega)]
    omega
  rw [String.utf8EncodeChar, show c.val.toNat = c.toNat from rfl]
  generalize c.toNat = n at hvalid
  split
  · exact .inl ⟨_, rfl, hbyte (by omega), by rw [hbyte] <;> omega⟩
  · right
    split
    · refine ⟨_, _, rfl, by rw [hbyte] <;> omega, ?_⟩
      rw [List.forall_mem_singleton]
      exact htail _
    · split
      · refine ⟨_, _, rfl, by rw [hbyte] <;> omega, ?_⟩
        rw [List.forall_mem_cons, List.forall_mem_singleton]
        exact ⟨htail _, htail _⟩
      · refine ⟨_, _, rfl, by rw [hbyte] <;> omega, ?_⟩
        rw [List.forall_mem_cons, List.forall_mem_cons, List.forall_mem_singleton]
        exact ⟨htail _, htail _, htail _⟩

theorem exists_lead (c : Char)
    : ∃ lead tail, String.utf8EncodeChar c = lead :: tail ∧ ¬ IsContinuation lead
        ∧ ∀ b, b ∈ tail → IsContinuation b := by
  unfold IsContinuation
  rcases utf8EncodeChar_cases c with ⟨b, hb, -, hlow⟩ | ⟨lead, tail, hc, hhigh, htail⟩
  · exact ⟨b, [], hb, by omega, fun b hb => nomatch hb⟩
  · exact ⟨lead, tail, hc, by omega, htail⟩

theorem eq_of_mem_utf8EncodeChar {c d : Char} {b : UInt8} (hd : String.utf8EncodeChar d = [b])
    (hlow : b.toNat < 0x80) (hmem : b ∈ String.utf8EncodeChar c) : c = d := by
  have hcode : ∀ e : Char, String.utf8EncodeChar e = [b] → e.toNat = b.toNat := by
    intro e he
    rcases utf8EncodeChar_cases e with ⟨b', hb', heq, -⟩ | ⟨lead, tail, he', hhigh, -⟩
    · rw [he, List.cons.injEq] at hb'
      rw [hb'.1, heq]
    · rw [he, List.cons.injEq] at he'
      rw [← he'.1] at hhigh
      omega
  rcases utf8EncodeChar_cases c with ⟨b', hb', -, -⟩ | ⟨lead, tail, hc, hhigh, htail⟩
  · rw [hb', List.mem_singleton] at hmem
    subst hmem
    exact Char.ext (UInt32.toNat_inj.1 ((hcode c hb').trans (hcode d hd).symm))
  · rw [hc, List.mem_cons] at hmem
    rcases hmem with rfl | hmem
    · omega
    · have := (htail b hmem).1
      omega

theorem not_mem_bytes {c : Char} {b : UInt8} (hc : String.utf8EncodeChar c = [b])
    (hlow : b.toNat < 0x80) {cs : List Char} (h : c ∉ cs) : b ∉ bytes cs := by
  intro hmem
  obtain ⟨d, hd, hb⟩ := List.mem_flatMap.1 hmem
  exact h (eq_of_mem_utf8EncodeChar hc hlow hb ▸ hd)

theorem bytes_eq_append {cs : List Char} {c : Char} {rest : List UInt8}
    (h : bytes cs = String.utf8EncodeChar c ++ rest) : ∃ ds, cs = c :: ds ∧ rest = bytes ds := by
  have hread := chunks_encode cs
  rw [encode_ofList, ← bytes, h, chunks_utf8EncodeChar] at hread
  obtain ⟨d, ds, rfl, hd, -⟩ := List.map_eq_cons_iff.1 hread.symm
  obtain rfl := Option.some.inj hd
  exact ⟨ds, rfl, (List.append_cancel_left h).symm⟩

theorem loose_eq_append {loose : List UInt8} (hloose : ∀ b, b ∈ loose → IsContinuation b)
    {cs : List Char} {c : Char} {rest : List UInt8}
    (h : loose ++ bytes cs = String.utf8EncodeChar c ++ rest)
    : ∃ ds, cs = c :: ds ∧ rest = bytes ds := by
  cases loose with
  | nil => exact bytes_eq_append h
  | cons b loose =>
    obtain ⟨lead, tail, hc, hlead, -⟩ := exists_lead c
    rw [hc, List.cons_append, List.cons_append, List.cons.injEq] at h
    exact absurd (h.1 ▸ hloose b List.mem_cons_self) hlead

theorem exists_boundary {loose : List UInt8} (hloose : ∀ b, b ∈ loose → IsContinuation b)
    {cs : List Char} {front back : List UInt8} (h : loose ++ bytes cs = front ++ back)
    : ∃ before after loose', cs = before ++ after ∧ back = loose' ++ bytes after
        ∧ (∀ b, b ∈ loose' → IsContinuation b)
        ∧ ∀ c, c ∈ before → ∃ b, b ∈ front ∧ b ∈ String.utf8EncodeChar c
          ∧ ¬ IsContinuation b := by
  induction cs generalizing loose front with
  | nil =>
    refine ⟨[], [], back, rfl, (List.append_nil back).symm, ?_, ?_⟩
    · intro b hb
      rw [bytes_nil, List.append_nil] at h
      exact hloose b (h ▸ List.mem_append_right front hb)
    · exact fun c hc => nomatch hc
  | cons c cs ih =>
    -- Either `front` takes all the loose bytes and perhaps more, or it ends among them.
    rcases List.append_eq_append_iff.1 h with ⟨taken, rfl, hrest⟩ | ⟨left, rfl, rfl⟩
    · obtain ⟨lead, tail, hc, hlead, htail⟩ := exists_lead c
      cases taken with
      | nil =>
        refine ⟨[], c :: cs, [], rfl, hrest.symm, ?_, ?_⟩
        · exact fun b hb => nomatch hb
        · exact fun c hc => nomatch hc
      | cons b taken =>
        rw [bytes_cons, hc, List.cons_append, List.cons_append, List.cons.injEq] at hrest
        obtain ⟨rfl, hrest⟩ := hrest
        obtain ⟨before, after, loose', rfl, rfl, hloose', hbefore⟩ := ih htail hrest
        refine ⟨c :: before, after, loose', rfl, rfl, hloose', ?_⟩
        intro d hd
        rcases List.mem_cons.1 hd with rfl | hd
        · exact ⟨lead, by simp, by simp [hc], hlead⟩
        · obtain ⟨b, hb, hmem⟩ := hbefore d hd
          exact ⟨b, by simp [hb], hmem⟩
    · refine ⟨[], c :: cs, left, rfl, rfl, ?_, ?_⟩
      · exact fun b hb => hloose b (List.mem_append_right front hb)
      · exact fun c hc => nomatch hc

end DeprecatedUse.Text.Utf8
