import DeprecatedUse.Proofs.Text.Utf8
import DeprecatedUse.Uri.Percent

/-!
This module contains the laws of percent encoding: a name that is encoded is decoded again, and what
is encoded is encoded no further where percent signs are not.
-/

namespace DeprecatedUse.Uri

def escapes : List Char :=
  ['%', '0', '1', '2', '3', '4', '5', '6', '7', '8', '9', 'A', 'B', 'C', 'D', 'E', 'F']

theorem hexValue?_upperDigit {n : Nat} (h : n < 16) : Text.hexValue? (upperDigit n) = some n := by
  interval_cases n <;> rfl

theorem upperDigit_mem_escapes {n : Nat} (h : n < 16) : upperDigit n ∈ escapes := by
  interval_cases n <;> decide

theorem mem_escapes_of_mem_encodeByte {b : UInt8} {c : Char} (h : c ∈ encodeByte b)
    : c ∈ escapes := by
  have hb : b.toNat < 256 := b.toNat_lt
  rw [encodeByte, List.mem_cons, List.mem_cons, List.mem_singleton] at h
  obtain rfl | rfl | rfl := h
  · decide
  · exact upperDigit_mem_escapes (by omega)
  · exact upperDigit_mem_escapes (by omega)

/-! Decoding. -/

theorem decode_cons_of_ne {c : Char} (h : c ≠ '%') (rest : List Char)
    : decode (c :: rest) = String.utf8EncodeChar c ++ decode rest := by
  rw [decode, Text.Utf8.encode_toString]
  intro a b more hc
  exact absurd hc h

theorem decode_encodeByte (b : UInt8) (rest : List Char)
    : decode (encodeByte b ++ rest) = b :: decode rest := by
  have hb : b.toNat < 256 := b.toNat_lt
  rw [encodeByte, List.cons_append, List.cons_append, List.singleton_append, decode,
    hexValue?_upperDigit (by omega), hexValue?_upperDigit (by omega)]
  dsimp only
  rw [show b.toNat / 16 * 16 + b.toNat % 16 = b.toNat by omega]
  congr 1
  exact UInt8.ofNat_toNat

/-! Encoding. -/

variable {must : Char → Bool}

theorem encode_nil : encode must [] = [] := by
  rfl

theorem encode_append (cs cs' : List Char)
    : encode must (cs ++ cs') = encode must cs ++ encode must cs' :=
  List.flatMap_append

theorem encode_cons (c : Char) (cs : List Char)
    : encode must (c :: cs) = encode must [c] ++ encode must cs :=
  encode_append [c] cs

theorem encode_singleton (c : Char)
    : encode must [c]
        = if must c || 0x7f < c.toNat then (String.utf8EncodeChar c).flatMap encodeByte
          else [c] := by
  rw [encode, List.flatMap_singleton, Text.Utf8.encode_toString]

def Stays (must : Char → Bool) (c : Char) : Prop :=
  must c = false ∧ c.toNat ≤ 0x7f

theorem encode_singleton_of_stays {c : Char} (h : Stays must c) : encode must [c] = [c] := by
  rw [encode_singleton, if_neg]
  rw [h.1, Bool.false_or, decide_eq_true_eq]
  exact Nat.not_lt.2 h.2

theorem encode_singleton_of_not_stays {c : Char} (h : ¬ Stays must c)
    : encode must [c] = (String.utf8EncodeChar c).flatMap encodeByte := by
  rw [encode_singleton, if_pos]
  rw [Bool.or_eq_true, decide_eq_true_eq]
  by_contra hnone
  rw [not_or, Nat.not_lt, Bool.not_eq_true] at hnone
  exact h hnone

theorem encode_eq_nil {cs : List Char} (h : encode must cs = []) : cs = [] := by
  cases cs with
  | nil => rfl
  | cons c cs =>
    rw [encode_cons, List.append_eq_nil_iff] at h
    by_cases hstays : Stays must c
    · rw [encode_singleton_of_stays hstays] at h
      cases h.1
    · rw [encode_singleton_of_not_stays hstays] at h
      cases hbytes : String.utf8EncodeChar c with
      | nil => exact absurd hbytes String.utf8EncodeChar_ne_nil
      | cons b bytes =>
        rw [hbytes] at h
        cases h.1

def Written (must : Char → Bool) (cs : List Char) : Prop :=
  ∀ c, c ∈ cs → Stays must c

theorem Written.encode {cs : List Char} (h : Written must cs) : encode must cs = cs := by
  induction cs with
  | nil => exact encode_nil
  | cons c cs ih =>
    rw [encode_cons, encode_singleton_of_stays (h c List.mem_cons_self),
      ih fun c hc => h c (List.mem_cons_of_mem _ hc), List.singleton_append]

theorem mem_encode {cs : List Char} {x : Char} (h : x ∈ encode must cs)
    : (x ∈ cs ∧ Stays must x) ∨ x ∈ escapes := by
  induction cs with
  | nil => cases h
  | cons c cs ih =>
    rw [encode_cons, List.mem_append] at h
    obtain h | h := h
    · by_cases hstays : Stays must c
      · rw [encode_singleton_of_stays hstays, List.mem_singleton] at h
        subst h
        exact .inl ⟨List.mem_cons_self, hstays⟩
      · rw [encode_singleton_of_not_stays hstays, List.mem_flatMap] at h
        obtain ⟨b, -, hb⟩ := h
        exact .inr (mem_escapes_of_mem_encodeByte hb)
    · obtain ⟨hmem, hstays⟩ | hescape := ih h
      · exact .inl ⟨List.mem_cons_of_mem _ hmem, hstays⟩
      · exact .inr hescape

theorem written_encode (hescapes : ∀ c, c ∈ escapes → must c = false) (cs : List Char)
    : Written must (encode must cs) := by
  have hascii : ∀ c ∈ escapes, c.toNat ≤ 0x7f := by simp [escapes]
  intro x hx
  obtain ⟨-, hstays⟩ | hescape := mem_encode hx
  · exact hstays
  · exact ⟨hescapes x hescape, hascii x hescape⟩

theorem escapes_stay_inPath : ∀ c, c ∈ escapes → mustInPath c = false := by
  simp [escapes, mustInPath, mustInFragment, isControl]

theorem escapes_stay_inFragment : ∀ c, c ∈ escapes → mustInFragment c = false := by
  simp [escapes, mustInFragment, isControl]

theorem escapes_stay_inQuery (special : Bool)
    : ∀ c, c ∈ escapes → mustInQuery special c = false := by
  simp [escapes, mustInQuery, isControl]

theorem escapes_stay_inUser : ∀ c, c ∈ escapes → mustInUser c = false := by
  simp [escapes, mustInUser, mustInPath, mustInFragment, isControl]

theorem escapes_not_control : ∀ c, c ∈ escapes → isControl c = false := by
  simp [escapes, isControl]

/-! Names. -/

theorem utf8EncodeChar_ofUInt8 {b : UInt8} (h : b.toNat ≤ 0x7f)
    : String.utf8EncodeChar (Char.ofUInt8 b) = [b] := by
  have hcode : (Char.ofUInt8 b).val.toNat = b.toNat := UInt8.toNat_toUInt32 b
  rw [String.utf8EncodeChar, hcode, if_pos h]
  congr 1
  exact UInt8.ofNat_toNat

theorem decode_encodeName (name : List UInt8) : decode (encodeName name) = name := by
  induction name with
  | nil => rfl
  | cons b name ih =>
    rw [encodeName, List.flatMap_cons, ← encodeName]
    split
    · rw [decode_encodeByte, ih]
    · next hstays =>
      rw [Bool.or_eq_true, decide_eq_true_eq, not_or, Nat.not_lt, Bool.not_eq_true] at hstays
      have hc : Char.ofUInt8 b ≠ '%' := by
        intro hpercent
        rw [hpercent] at hstays
        cases hstays.2
      rw [List.singleton_append, decode_cons_of_ne hc, utf8EncodeChar_ofUInt8 hstays.1, ih,
        List.singleton_append]

end DeprecatedUse.Uri
