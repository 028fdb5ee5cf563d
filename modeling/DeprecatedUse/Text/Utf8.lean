/-!
This module contains the reading of UTF-8. Bytes are cut from the left into characters and into
stretches that belong to no character; a stretch ends at the first byte that cannot continue it.
-/

namespace DeprecatedUse.Text.Utf8

/--
What can follow a first byte: the bounds of the second byte, and the number of further bytes after
it.
-/
structure Lead where
  low : Nat
  high : Nat
  more : Nat
  bits : Nat

def lead? (b : Nat) : Option Lead :=
  if 0xc2 ≤ b ∧ b ≤ 0xdf then some ⟨0x80, 0xbf, 0, b - 0xc0⟩
  else if b = 0xe0 then some ⟨0xa0, 0xbf, 1, 0⟩
  else if b = 0xed then some ⟨0x80, 0x9f, 1, 0xd⟩
  else if 0xe1 ≤ b ∧ b ≤ 0xef then some ⟨0x80, 0xbf, 1, b - 0xe0⟩
  else if b = 0xf0 then some ⟨0x90, 0xbf, 2, 0⟩
  else if 0xf1 ≤ b ∧ b ≤ 0xf3 then some ⟨0x80, 0xbf, 2, b - 0xf0⟩
  else if b = 0xf4 then some ⟨0x80, 0x8f, 2, 4⟩
  else none

def finish : (more bits : Nat) → List UInt8 → Option Char × List UInt8
  | 0, bits, rest => (some (Char.ofNat bits), rest)
  | _ + 1, _, [] => (none, [])
  | more + 1, bits, b :: rest =>
    if 0x80 ≤ b.toNat ∧ b.toNat ≤ 0xbf then
      finish more (bits * 64 + (b.toNat - 0x80)) rest
    else
      (none, b :: rest)

theorem length_finish (more bits : Nat) (bytes : List UInt8) :
    (finish more bits bytes).2.length ≤ bytes.length := by
  induction more generalizing bits bytes with
  | zero => simp [finish]
  | succ more ih =>
    cases bytes with
    | nil => simp [finish]
    | cons b rest =>
      rw [finish]
      split
      · exact Nat.le_trans (ih ..) (by simp)
      · simp

def chunk (b : UInt8) (rest : List UInt8) : Option Char × List UInt8 :=
  if b.toNat < 0x80 then
    (some (Char.ofNat b.toNat), rest)
  else
    match lead? b.toNat, rest with
    | some lead, c :: tail =>
      if lead.low ≤ c.toNat ∧ c.toNat ≤ lead.high then
        finish lead.more (lead.bits * 64 + (c.toNat - 0x80)) tail
      else
        (none, rest)
    | _, _ => (none, rest)

theorem length_chunk (b : UInt8) (rest : List UInt8) :
    (chunk b rest).2.length ≤ rest.length := by
  unfold chunk
  split
  · simp
  · split
    · split
      · exact Nat.le_trans (length_finish ..) (by simp)
      · simp
    · simp

def chunks : List UInt8 → List (Option Char)
  | [] => []
  | b :: rest =>
    match _h : chunk b rest with
    | (c, tail) => c :: chunks tail
termination_by bytes => bytes.length
decreasing_by
  have := length_chunk b rest
  rw [_h] at this
  simp only at this
  simp
  omega

def decode? (bytes : List UInt8) : Option String :=
  ((chunks bytes).mapM id).map String.ofList

def decodeLossy (bytes : List UInt8) : String :=
  String.ofList ((chunks bytes).map (·.getD '\ufffd'))

def encode (text : String) : List UInt8 :=
  text.toUTF8.toList

end DeprecatedUse.Text.Utf8
