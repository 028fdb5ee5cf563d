import DeprecatedUse.Path
import DeprecatedUse.Proofs.Text.Splitting
import DeprecatedUse.Proofs.Text.Utf8

/-!
This module contains paths as they are shown. A path that is text is shown as it is, so its slashes
and its parts are those of the text. Other paths are shown as texts that lead elsewhere or nowhere,
and several of them may be shown alike.
-/

namespace DeprecatedUse

namespace Text

theorem splitOn_encode (text : String)
    : splitOn Path.slash (Utf8.encode text) = (splitOn '/' text.toList).map Utf8.bytes := by
  have hslash : ∀ {cs : List Char}, '/' ∉ cs → Path.slash ∉ Utf8.bytes cs :=
    fun h => Utf8.not_mem_bytes rfl (by decide) h
  have hparts : ∀ part, part ∈ splitOn '/' text.toList → '/' ∉ part := fun _ =>
    not_mem_of_mem_splitOn
  have htext : join ['/'] (splitOn '/' text.toList) = text.toList := join_splitOn _
  rw [Utf8.encode_eq_bytes]
  cases hsplit : splitOn '/' text.toList with
  | nil => exact absurd hsplit (splitOn_ne_nil _ _)
  | cons part parts =>
    rw [hsplit, join_cons] at htext
    rw [hsplit] at hparts
    have hbytes : Utf8.bytes text.toList
        = Utf8.bytes part ++ (parts.map Utf8.bytes).flatMap (Path.slash :: ·) := by
      rw [← htext, Utf8.bytes_append, Utf8.bytes_flatMap, List.flatMap_map]
      rfl
    rw [hbytes, splitOn_flatMap, List.map_cons]
    rw [← List.map_cons, List.forall_mem_map]
    exact fun part hpart => hslash (hparts part hpart)

end Text

namespace Path

/--
The path is the bytes of a text.
-/
def IsText (p : Path) : Prop :=
  Text.Utf8.encode p.text = p.bytes

instance (p : Path) : Decidable p.IsText :=
  inferInstanceAs (Decidable (_ = _))

theorem text_ofText (text : String) : (ofText text).text = text :=
  Text.Utf8.decodeLossy_encode_text text

theorem isText_ofText (text : String) : (ofText text).IsText := by
  rw [IsText, text_ofText]
  rfl

theorem isText_bytes (cs : List Char) : IsText ⟨Text.Utf8.bytes cs⟩ := by
  have h := isText_ofText (String.ofList cs)
  rwa [ofText, Text.Utf8.encode_ofList] at h

theorem IsText.ofText_text {p : Path} (h : p.IsText) : ofText p.text = p :=
  congrArg Path.mk h

theorem encode_text_slash {p : Path} {rest : Name} (h : p.bytes = slash :: rest)
    : ∃ rest', Text.Utf8.encode p.text = slash :: rest' := by
  have hchunk := Text.Utf8.chunk_one (b := slash) (by decide) rest
  rw [text, h, Text.Utf8.decodeLossy, Text.Utf8.chunks_cons, hchunk, List.map_cons,
    Text.Utf8.encode_ofList, List.flatMap_cons]
  exact ⟨_, rfl⟩

/--
No two of the paths are shown alike.
-/
def ShownApart (paths : List Path) : Prop :=
  ∀ p, p ∈ paths → ∀ q, q ∈ paths → p.text = q.text → p = q

instance (paths : List Path) : Decidable (ShownApart paths) :=
  inferInstanceAs (Decidable (∀ p, p ∈ paths → _))

theorem shownApart_of_isText {paths : List Path} (h : ∀ p, p ∈ paths → p.IsText)
    : ShownApart paths := by
  intro p hp q hq htext
  rw [← (h p hp).ofText_text, ← (h q hq).ofText_text, htext]

end Path

end DeprecatedUse
